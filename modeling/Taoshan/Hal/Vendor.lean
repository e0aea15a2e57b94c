import Taoshan.Lib.Ledger
import Taoshan.Lib.Run

/-!
# Wrappers of Vendor Modules

What the camera and the lights wrapper have in common. Each is a HAL module that
looks up the vendor's module of the same class, and a device of its own for every
device it opens there. Their opens begin alike: nothing is done for a `NULL` name,
and nothing without the vendor's module. From there on each goes its own way.

The framework opens devices and closes them, in any order and as often as it
likes, and every open can fail where memory or the vendor's module does. A device
that is handed out stands for all that was taken hold of for it. If every open
leaves behind exactly what the device it hands out stands for, then so does every
run, and when all devices are closed nothing is left (`balanced_iff_guarded`).

## Main definitions

* `HwDevice`: What all devices start with.
* `DevicePtr`, `Outcome`: What an open makes of `*device`, and all else it does.
* `checkVendorModule`: The lookup of the vendor's module.
* `AllOrNothing`: An open that hands out a device, or else leaves nothing behind.
* `Wrapper`: What the wrappers differ in.
* `Wrapper.openDevice`: An open of one of them.
* `Wrapper.OpensCleanly`: Where it is all or nothing.
* `wrappedStep`: The framework opens or closes a device.
* `Repaid`: An open that leaves what its device stands for.
* `LeaksNothing`, `Reaching`: Conditions on the opens of a run.
* `Balanced`: What is held is what the devices stand for.

## Theorems

* `allOrNothing_of_error`, `allOrNothing_of_success`: What is asked of an open.
* `openDevice_iff`: A property of an open, on each way it can go.
* `balanced_iff_guarded`, `balanced_iff_reaching`: A run leaks nothing if and only
  if no open does.
-/

namespace Taoshan

namespace Hal

open Ledger

def EINVAL : Int := 22
def ENOMEM : Int := 12

def HARDWARE_DEVICE_TAG : UInt32 := 0x48574454

/-- The functions the wrappers' devices are closed by. -/
inductive CloseFn
  | cameraDeviceClose
  | lightsDeviceClose
  deriving DecidableEq

/-- `hw_device_t`. A pointer that is not set is `none`. -/
structure HwDevice where
  tag : UInt32
  version : UInt32
  module : Option UInt32
  close : Option CloseFn
  deriving DecidableEq

/-- After `memset`. -/
def HwDevice.zero : HwDevice := ⟨0, 0, none, none⟩

/-- What a caller's `hw_device_t *` is: `NULL`, a wrapper's device, or whatever
    else the caller left there. -/
inductive DevicePtr (ω : Type*)
  | null
  | wrapper (w : ω)
  | other
  deriving DecidableEq

/-- What an open returns and stores in `*device` and in `gVendorModule`, what it
    acquires and releases, and the names it passes to the vendor's open. -/
structure Outcome (ω ρ : Type*) where
  rv : Int
  device : DevicePtr ω
  gVendorModule : Bool
  log : List (Entry ρ)
  vendorOpens : List (List UInt8)

/-- `check_vendor_module`, the same in both wrappers: what it returns, and
    whether `gVendorModule` is set. `lookup` is `hw_get_module_by_class`, which
    sets the pointer if it returns 0. -/
def checkVendorModule (cls : String) (lookup : String → String → Int) (gVendorModule : Bool) :
    Int × Bool :=
  if gVendorModule then (0, true)
  else
    let rv := lookup cls "vendor"
    (rv, rv == 0)

/-- A failed open leaves `NULL` and nothing else, a successful one leaves a
    device that serves. -/
structure AllOrNothing {ω ρ : Type*} [DecidableEq ρ] (serves : ω → Prop)
    (out : Outcome ω ρ) : Prop where
  failed : out.rv ≠ 0 → out.device = .null ∧ Settled out.log
  opened : out.rv = 0 → ∃ w, out.device = .wrapper w ∧ serves w

section Exits

variable {ω ρ : Type*} [DecidableEq ρ] {serves : ω → Prop} {out : Outcome ω ρ}

/-- What is asked of an open that reports an error. -/
theorem allOrNothing_of_error (hrv : out.rv ≠ 0) :
    AllOrNothing serves out ↔ out.device = .null ∧ Settled out.log :=
  ⟨fun h => h.failed hrv, fun h => ⟨fun _ => h, fun hzero => absurd hzero hrv⟩⟩

/-- What is asked of an open that reports success. -/
theorem allOrNothing_of_success (hrv : out.rv = 0) :
    AllOrNothing serves out ↔ ∃ w, out.device = .wrapper w ∧ serves w :=
  ⟨fun h => h.opened hrv, fun h => ⟨fun hne => absurd hrv hne, fun _ => h⟩⟩

theorem allOrNothing_null (device : DevicePtr ω) (g : Bool) :
    AllOrNothing serves (⟨0, device, g, [], []⟩ : Outcome ω ρ) ↔
      ∃ w, device = .wrapper w ∧ serves w := allOrNothing_of_success rfl

theorem allOrNothing_unchecked (device : DevicePtr ω) (g : Bool) :
    AllOrNothing serves (⟨-EINVAL, device, g, [], []⟩ : Outcome ω ρ) ↔ device = .null := by
  rw [allOrNothing_of_error (by decide : -EINVAL ≠ 0)]
  exact ⟨And.left, fun h => ⟨h, settled_nil⟩⟩

end Exits

section Opens

variable {ε ω ρ : Type*}

/-- The arguments of an open, and the world that answers to it. -/
structure OpenArgs (ε ω : Type*) where
  env : ε
  module : UInt32
  name : Option (List UInt8)
  device : DevicePtr ω

/-- What the wrappers differ in: the class of the module, how the world answers to
    its lookup, what an open does for a name once the module is there, and what a
    close gives back. -/
structure Wrapper (ε ω ρ : Type*) where
  cls : String
  hwGetModuleByClass : ε → String → String → Int
  openNamed : ε → UInt32 → List UInt8 → DevicePtr ω → Outcome ω ρ
  closeLog : List (Entry ρ)

/-- What the check of the vendor's module returns, and what it makes of
    `gVendorModule`. -/
def Wrapper.check (k : Wrapper ε ω ρ) (gVendorModule : Bool) (env : ε) : Int × Bool :=
  checkVendorModule k.cls (k.hwGetModuleByClass env) gVendorModule

/-- An open of the wrapper's module. `device` is what the caller has in
    `*device`. -/
def Wrapper.openDevice (k : Wrapper ε ω ρ) (gVendorModule : Bool) (args : OpenArgs ε ω) :
    Outcome ω ρ :=
  match args.name with
  | none => ⟨0, args.device, gVendorModule, [], []⟩
  | some name =>
      let r := k.check gVendorModule args.env
      if r.1 ≠ 0 then ⟨-EINVAL, args.device, r.2, [], []⟩
      else k.openNamed args.env args.module name args.device

/-- An open hands out a device if it succeeds for a name. -/
def Wrapper.handsOut (k : Wrapper ε ω ρ) (gVendorModule : Bool) (args : OpenArgs ε ω) : Bool :=
  args.name.isSome && (k.openDevice gVendorModule args).rv == 0

variable {k : Wrapper ε ω ρ} {g : Bool} {args : OpenArgs ε ω} {name : List UInt8}

theorem openDevice_none (hname : args.name = none) :
    k.openDevice g args = ⟨0, args.device, g, [], []⟩ := by
  rw [Wrapper.openDevice, hname]

theorem openDevice_unchecked (hname : args.name = some name)
    (hcheck : (k.check g args.env).1 ≠ 0) :
    k.openDevice g args = ⟨-EINVAL, args.device, (k.check g args.env).2, [], []⟩ := by
  rw [Wrapper.openDevice, hname]
  exact if_pos hcheck

theorem openDevice_checked (hname : args.name = some name)
    (hcheck : (k.check g args.env).1 = 0) :
    k.openDevice g args = k.openNamed args.env args.module name args.device := by
  rw [Wrapper.openDevice, hname]
  exact if_neg (not_not_intro hcheck)

/-- An open that handed out a device got as far as the vendor's module. -/
theorem handsOut_inv (h : k.handsOut g args = true) :
    ∃ name, k.openDevice g args = k.openNamed args.env args.module name args.device ∧
      (k.openNamed args.env args.module name args.device).rv = 0 := by
  rw [Wrapper.handsOut, Bool.and_eq_true, beq_iff_eq] at h
  rcases Option.isSome_iff_exists.mp h.1 with ⟨name, hname⟩
  by_cases hcheck : (k.check g args.env).1 = 0
  · have hopen := openDevice_checked (k := k) (g := g) hname hcheck
    exact ⟨name, hopen, hopen ▸ h.2⟩
  · rw [openDevice_unchecked hname hcheck] at h
    exact nomatch h.2

/-- The opens that are all or nothing, if `clean` says which are that get as far as
    the vendor's module. For a `NULL` name, and where there is no vendor's module,
    it depends on what the caller had in `*device`. -/
def Wrapper.OpensCleanly (k : Wrapper ε ω ρ) (serves : ω → Prop)
    (clean : ε → List UInt8 → Prop) (gVendorModule : Bool) (args : OpenArgs ε ω) : Prop :=
  match args.name with
  | none => ∃ w, args.device = .wrapper w ∧ serves w
  | some name =>
      if (k.check gVendorModule args.env).1 ≠ 0 then args.device = .null
      else clean args.env name

/-- A property of an open is decided on each of the three ways it can go. -/
theorem openDevice_iff {P : Outcome ω ρ → Prop} {serves : ω → Prop}
    {clean : ε → List UInt8 → Prop}
    (hnone : P ⟨0, args.device, g, [], []⟩ ↔ ∃ w, args.device = .wrapper w ∧ serves w)
    (herror : ∀ g', P ⟨-EINVAL, args.device, g', [], []⟩ ↔ args.device = .null)
    (hnamed : ∀ name, P (k.openNamed args.env args.module name args.device) ↔
      clean args.env name) :
    P (k.openDevice g args) ↔ k.OpensCleanly serves clean g args := by
  unfold Wrapper.OpensCleanly
  cases hname : args.name with
  | none =>
      rw [openDevice_none hname]
      exact hnone
  | some name =>
      simp only
      by_cases hcheck : (k.check g args.env).1 = 0
      · rw [openDevice_checked hname hcheck, if_neg (not_not_intro hcheck)]
        exact hnamed name
      · rw [openDevice_unchecked hname hcheck, if_pos hcheck]
        exact herror _

end Opens

section Runs

variable {ε ω ρ : Type*} [DecidableEq ρ]

/-- The module, with the number of devices that are open and all that was
    acquired and released. -/
structure Wrapped (ρ : Type*) where
  gVendorModule : Bool
  devices : Nat
  log : List (Entry ρ)

/-- The framework opens or closes a device. -/
inductive HalCall (ε ω : Type*)
  | openDevice (args : OpenArgs ε ω)
  | closeDevice

def Wrapped.init : Wrapped ρ := ⟨false, 0, []⟩

def wrappedStep (k : Wrapper ε ω ρ) (s : Wrapped ρ) : HalCall ε ω → Option (Wrapped ρ)
  | .openDevice args =>
      let out := k.openDevice s.gVendorModule args
      some ⟨out.gVendorModule, s.devices + (if k.handsOut s.gVendorModule args then 1 else 0),
        s.log ++ out.log⟩
  | .closeDevice =>
      -- Only a device that is open is closed.
      if s.devices = 0 then none else some ⟨s.gVendorModule, s.devices - 1, s.log ++ k.closeLog⟩

/-- What is held is what the open devices stand for, one of each resource. -/
def Balanced (s : Wrapped ρ) : Prop := ∀ r, balance r s.log = s.devices

/-- An open leaves one of each resource if it succeeds, and none otherwise. -/
def Repaid (out : Outcome ω ρ) : Prop :=
  ∀ r, balance r out.log = if out.rv = 0 then 1 else 0

/-- The condition on a call: an open that gets as far as the vendor's module leaves
    what its device stands for. -/
def LeaksNothing (k : Wrapper ε ω ρ) (s : Wrapped ρ) : HalCall ε ω → Prop
  | .openDevice args => ∀ name, args.name = some name →
      (k.check s.gVendorModule args.env).1 = 0 →
      Repaid (k.openNamed args.env args.module name args.device)
  | .closeDevice => True

/-- An open leaves what the device that it hands out stands for, if and only if
    none that gets as far as the vendor's module fails to. -/
theorem leaksNothing_openDevice (k : Wrapper ε ω ρ) (s : Wrapped ρ) (args : OpenArgs ε ω) :
    LeaksNothing k s (.openDevice args) ↔
      ∀ r, balance r (k.openDevice s.gVendorModule args).log =
        if k.handsOut s.gVendorModule args then 1 else 0 := by
  unfold LeaksNothing Wrapper.handsOut
  cases hname : args.name with
  | none =>
      rw [openDevice_none hname]
      refine ⟨fun _ _ => rfl, fun _ nm hnm => ?_⟩
      rw [hname] at hnm
      exact nomatch hnm
  | some name =>
      by_cases hcheck : (k.check s.gVendorModule args.env).1 = 0
      · rw [openDevice_checked hname hcheck]
        simp only [hcheck, true_implies, Option.isSome_some, Bool.true_and, beq_iff_eq]
        refine ⟨fun h => h name hname, fun h nm hnm => ?_⟩
        rw [hname, Option.some.injEq] at hnm
        rw [← hnm]
        exact h
      · rw [openDevice_unchecked hname hcheck]
        exact ⟨fun _ _ => rfl, fun _ _ _ h => absurd h hcheck⟩

/-- A run leaks nothing if and only if no open does. -/
theorem balanced_iff_guarded (k : Wrapper ε ω ρ) (hclose : ∀ r, balance r k.closeLog = -1)
    (calls : List (HalCall ε ω)) :
    Run.Throughout (wrappedStep k) Balanced .init calls ↔
      Run.Guarded (wrappedStep k) (LeaksNothing k) .init calls := by
  refine Run.throughout_iff_guarded Balanced (fun _ h => h) ?_ ?_ (fun _ => rfl)
  · intro s call t hs hg ht r
    cases call with
    | openDevice args =>
        rw [wrappedStep, Option.some.injEq] at ht
        -- The balance grows by one if the number of devices does.
        rw [← ht, balance_append, hs r, (leaksNothing_openDevice k s args).mp hg r]
        split
        · rfl
        · rfl
    | closeDevice =>
        by_cases hnone : s.devices = 0
        · rw [wrappedStep, if_pos hnone] at ht
          exact nomatch ht
        · rw [wrappedStep, if_neg hnone, Option.some.injEq] at ht
          rw [← ht, balance_append, hs r, hclose r]
          simp only
          omega
  · intro s call t hs ht hbal
    cases call with
    | closeDevice => exact trivial
    | openDevice args =>
        rw [leaksNothing_openDevice]
        intro r
        rw [wrappedStep, Option.some.injEq] at ht
        -- It was balanced before, so what the open left is the difference.
        have hafter := hbal r
        rw [← ht, balance_append, hs r] at hafter
        by_cases hout : k.handsOut s.gVendorModule args = true
        · simp only [hout, if_true] at hafter ⊢
          omega
        · simp only [hout, Bool.false_eq_true, if_false, Nat.add_zero] at hafter ⊢
          omega

/-- The condition that an open which gets as far as the vendor's module meets. -/
def Reaching (k : Wrapper ε ω ρ) (clean : ε → List UInt8 → Prop) (s : Wrapped ρ) :
    HalCall ε ω → Prop
  | .openDevice args => ∀ name, args.name = some name →
      (k.check s.gVendorModule args.env).1 = 0 → clean args.env name
  | .closeDevice => True

/-- The same for a condition on the name and the world that decides what an open
    leaves. -/
theorem balanced_iff_reaching (k : Wrapper ε ω ρ) (hclose : ∀ r, balance r k.closeLog = -1)
    {clean : ε → List UInt8 → Prop}
    (hclean : ∀ env module name device,
      Repaid (k.openNamed env module name device) ↔ clean env name)
    (calls : List (HalCall ε ω)) :
    Run.Throughout (wrappedStep k) Balanced .init calls ↔
      Run.Guarded (wrappedStep k) (Reaching k clean) .init calls := by
  rw [balanced_iff_guarded k hclose]
  refine Run.guarded_iff (fun _ => True) (fun _ _ _ _ _ => trivial) (fun s call _ _ _ => ?_) trivial
  cases call with
  | openDevice args =>
      exact forall₂_congr fun name _ => imp_congr_right fun _ => hclean _ _ name _
  | closeDevice => exact Iff.rfl

end Runs

end Hal

end Taoshan

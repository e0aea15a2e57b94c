import Mathlib.Data.List.Perm.Basic
import Taoshan.Camera.Cycles
import Taoshan.Lib.Ledger
import Taoshan.Lib.Run

/-!
# Who Frees the Parameters

The strings that go back and forth between the application, the wrapper and the
vendor's camera.

The vendor's string is the vendor's: `camera_get_parameters` takes it, fixes a
copy up and gives it back before it returns. The copy is the application's,
which gives it back by `camera_put_parameters`. Two more strings are nobody's.
`camera_set_parameters` hands its fixed-up copy to the vendor and forgets it, and
`camera_fixup_getparams` forgets the string that it writes an ISO mode into, in
the two exposure modes that have one.

So the live blocks of the wrapper are those that the application holds, unchanged
since it was given them, and those that calls of these two kinds have left. No
two of them overlap, nothing is freed twice, and a run leaks nothing exactly if
it has no call of either kind (`custody_run`).

A call where the fix-up dereferences `NULL` is no step. Where a string is
allocated is up to the allocator, as long as nothing else is there. The byte that
is written behind the ISO mode (`Buffers`) is taken to do no harm here.

## Main definitions

* `VendorOps`: The vendor's camera.
* `CameraState`, `CameraCall`, `CameraState.step`: The wrapper's memory, and the
  calls.
* `isoVal`: What the forgotten string is for.
* `leaves`: The blocks that a call leaves to nobody.
* `Tidy`: A call that leaves none.

## Theorems

* `custody_step`: What one call does to the blocks.
* `custody_run`: Who has what, after every run.
-/

namespace Taoshan

namespace Camera

open Text Ledger

/-- What the wrapper calls of the vendor's camera: a string comes with its
    address, and the argument of `set_parameters` may be `NULL`. -/
structure VendorOps (ν : Type) where
  getParameters : ν → ν × Nat × CStr
  putParameters : ν → Nat → ν
  setParameters : ν → Option CStr → ν × Int

/-- The vendor's camera, the live blocks of the wrapper, what the application
    holds with the text it was given, and the strings taken from the vendor and
    given back. -/
structure CameraState (ν : Type) where
  vendor : ν
  blocks : List (Nat × CStr)
  held : List (Nat × CStr)
  log : List (Entry Nat)

/-- The calls, with the addresses at which `malloc` and `strdup` find room;
    `strdup` may fail. -/
inductive CameraCall
  | getParameters (isoAddr : Nat) (ret : Option Nat)
  | setParameters (params : CStr) (tmp : Option Nat)
  | putParameters (params : Option Nat)

section Fixup

variable (C : CameraParameters)

/-- What `isoVal` is set to, in the modes that need it. -/
def isoVal (m : C.Params) : Option CStr :=
  match C.get m KEY_SONY_ISO_MODE, C.get m KEY_SONY_AE_MODE_VALUES, C.get m KEY_SONY_AE_MODE with
  | some isoMode, some _, some aeMode =>
      if aeMode = cstr "iso-prio" ∨ aeMode = cstr "manual" then some (cstr "ISO" ++ isoMode)
      else none
  | _, _, _ => none

/-- The map that the exposure mode is read from. -/
def exposureMap (settings : CStr) : C.Params :=
  fixupVideoHdr C (fixupSceneMode C (fixupIsoModes C
    (fixupCapability C (C.unflatten settings))))

end Fixup

namespace CameraState

variable {ν : Type} (C : CameraParameters) (V : VendorOps ν) (c : CameraState ν)

/-- Nothing lives at the address. -/
def Free (p : Nat) : Prop := p ∉ c.blocks.map Prod.fst

instance (p : Nat) : Decidable (c.Free p) := inferInstanceAs (Decidable (_ ∉ _))

/-- The application has not been told anything yet. -/
def init (vendor : ν) : CameraState ν := ⟨vendor, [], [], []⟩

/-- `malloc` or `strdup`, where it finds room. -/
def allocate (p : Nat) (text : CStr) : Option (CameraState ν) :=
  if c.Free p then some { c with blocks := (p, text) :: c.blocks } else none

/-- The string that `camera_fixup_getparams` allocates on its way, if it does. -/
def allocateIsoVal (p : Nat) : Option CStr → Option (CameraState ν)
  | none => some c
  | some text => c.allocate p text

/-- `camera_get_parameters`. -/
def getParameters (isoAddr : Nat) (ret : Option Nat) : Option (CameraState ν) :=
  let r := V.getParameters c.vendor
  match cameraFixupGetparams C r.2.2 with
  | none => none
  | some text => match c.allocateIsoVal isoAddr (isoVal C (exposureMap C r.2.2)) with
    | none => none
    | some d =>
        let d := { d with vendor := V.putParameters r.1 r.2.1,
                          log := d.log ++ [.acquire r.2.1, .release r.2.1] }
        match ret with
        -- The application is given `NULL`.
        | none => some d
        | some p => (d.allocate p text).map fun d => { d with held := (p, text) :: d.held }

/-- `camera_set_parameters`; its result is the vendor's. -/
def setParameters (params : CStr) (tmp : Option Nat) : Option (CameraState ν) :=
  match cameraFixupSetparams C params with
  | none => none
  | some text => match tmp with
    | none => some { c with vendor := (V.setParameters c.vendor none).1 }
    | some p => (c.allocate p text).map fun d =>
        { d with vendor := (V.setParameters d.vendor (some text)).1 }

/-- `camera_put_parameters`, of `NULL` or of something that the application
    holds. -/
def putParameters : Option Nat → Option (CameraState ν)
  | none => some c
  | some p =>
      if p ∈ c.held.map Prod.fst then
        some { c with blocks := c.blocks.filter fun b => b.1 ≠ p,
                      held := c.held.filter fun b => b.1 ≠ p }
      else none

def step (c : CameraState ν) : CameraCall → Option (CameraState ν)
  | .getParameters isoAddr ret => c.getParameters C V isoAddr ret
  | .setParameters params tmp => c.setParameters C V params tmp
  | .putParameters params => c.putParameters params

/-- The blocks that a call leaves to nobody. -/
def leaves (c : CameraState ν) : CameraCall → List (Nat × CStr)
  | .getParameters isoAddr _ =>
      ((isoVal C (exposureMap C (V.getParameters c.vendor).2.2)).map fun text =>
        (isoAddr, text)).toList
  | .setParameters params tmp => match tmp, cameraFixupSetparams C params with
    | some p, some text => [(p, text)]
    | _, _ => []
  | .putParameters _ => []

/-- The exposure mode has no ISO mode to be written, and nothing is set. -/
def Tidy (c : CameraState ν) : CameraCall → Prop
  | .getParameters _ _ => isoVal C (exposureMap C (V.getParameters c.vendor).2.2) = none
  | .setParameters _ tmp => tmp = none
  | .putParameters _ => True

end CameraState

open CameraState

section Custody

variable {ν : Type} {C : CameraParameters} {V : VendorOps ν} {c d : CameraState ν}
  {forgotten : List (Nat × CStr)}

/-- Every block is the application's or nobody's, no two are in one place, and
    the vendor has got back what was taken. -/
structure Accounted (forgotten : List (Nat × CStr)) (c : CameraState ν) : Prop where
  blocks : c.blocks.Perm (c.held ++ forgotten)
  nodup : (c.blocks.map Prod.fst).Nodup
  vendor : Ledger.Settled c.log

theorem accounted_init (vendor : ν) : Accounted [] (.init vendor : CameraState ν) :=
  ⟨List.Perm.nil, List.nodup_nil, settled_nil⟩

theorem allocate_inv {p : Nat} {text : CStr} (h : c.allocate p text = some d) :
    c.Free p ∧ d = { c with blocks := (p, text) :: c.blocks } := by
  unfold allocate at h
  by_cases hp : c.Free p
  · rw [if_pos hp, Option.some.injEq] at h
    exact ⟨hp, h.symm⟩
  · rw [if_neg hp] at h
    exact absurd h (Option.some_ne_none d).symm

/-- A block that is allocated and forgotten. -/
theorem Accounted.forget {p : Nat} {text : CStr} (h : Accounted forgotten c) (hp : c.Free p) :
    Accounted (forgotten ++ [(p, text)]) { c with blocks := (p, text) :: c.blocks } where
  blocks := by
    rw [← List.append_assoc]
    exact (h.blocks.cons _).trans (List.perm_append_singleton _ _).symm
  nodup := List.nodup_cons.mpr ⟨hp, h.nodup⟩
  vendor := h.vendor

/-- A block that is allocated for the application. -/
theorem Accounted.give {p : Nat} {text : CStr} (h : Accounted forgotten c) (hp : c.Free p) :
    Accounted forgotten
      { c with blocks := (p, text) :: c.blocks, held := (p, text) :: c.held } where
  blocks := h.blocks.cons _
  nodup := List.nodup_cons.mpr ⟨hp, h.nodup⟩
  vendor := h.vendor

/-- A string that is taken from the vendor and given back. -/
theorem Accounted.borrow (h : Accounted forgotten c) (vendor : ν) (v : Nat) :
    Accounted forgotten
      { c with vendor := vendor, log := c.log ++ [.acquire v, .release v] } where
  blocks := h.blocks
  nodup := h.nodup
  vendor := by
    intro r
    rw [balance_append, h.vendor r]
    unfold balance balance balance Entry.amount
    by_cases hr : v = r
    · simp only [hr, if_true]
      rfl
    · simp only [hr, if_false]
      rfl

/-- An address that the application holds is no other block's. -/
theorem Accounted.free_of_held {p : Nat} (h : Accounted forgotten c)
    (hp : p ∈ c.held.map Prod.fst) : ∀ b ∈ forgotten, b.1 ≠ p := by
  intro b hb heq
  have hnodup := (h.blocks.map Prod.fst).nodup_iff.mp h.nodup
  rw [List.map_append, List.nodup_append] at hnodup
  exact hnodup.2.2 p hp p (heq ▸ List.mem_map_of_mem hb) rfl

/-- A block that the application gives back. -/
theorem Accounted.free {p : Nat} (h : Accounted forgotten c) (hp : p ∈ c.held.map Prod.fst) :
    Accounted forgotten
      { c with blocks := c.blocks.filter fun b => b.1 ≠ p,
               held := c.held.filter fun b => b.1 ≠ p } where
  blocks := by
    have hkeep : forgotten.filter (fun b => b.1 ≠ p) = forgotten :=
      List.filter_eq_self.mpr (fun b hb => decide_eq_true (h.free_of_held hp b hb))
    have hperm := h.blocks.filter fun b => b.1 ≠ p
    rw [List.filter_append, hkeep] at hperm
    exact hperm
  nodup := h.nodup.sublist (List.filter_sublist.map Prod.fst)
  vendor := h.vendor

/-- What one call does to the blocks. -/
theorem custody_step {call : CameraCall} (h : Accounted forgotten c)
    (hs : c.step C V call = some d) : Accounted (forgotten ++ c.leaves C V call) d := by
  cases call with
  | getParameters isoAddr ret =>
      simp only [step, getParameters] at hs
      cases htext : cameraFixupGetparams C (V.getParameters c.vendor).2.2 with
      | none =>
          simp only [htext, reduceCtorEq] at hs
      | some text =>
          simp only [htext] at hs
          have hiso : ∀ e, c.allocateIsoVal isoAddr
              (isoVal C (exposureMap C (V.getParameters c.vendor).2.2)) = some e →
              Accounted (forgotten ++ c.leaves C V (.getParameters isoAddr ret)) e := by
            intro e he
            simp only [leaves]
            cases hval : isoVal C (exposureMap C (V.getParameters c.vendor).2.2) with
            | none =>
                rw [hval] at he
                rw [← Option.some.inj he, Option.map_none, Option.toList_none, List.append_nil]
                exact h
            | some value =>
                rw [hval] at he
                rcases allocate_inv he with ⟨hfree, rfl⟩
                exact h.forget hfree
          cases he : c.allocateIsoVal isoAddr
              (isoVal C (exposureMap C (V.getParameters c.vendor).2.2)) with
          | none => simp only [he, reduceCtorEq] at hs
          | some e =>
              have hback := (hiso e he).borrow (V.putParameters (V.getParameters c.vendor).1
                (V.getParameters c.vendor).2.1) (V.getParameters c.vendor).2.1
              simp only [he] at hs
              cases ret with
              | none =>
                  rw [← Option.some.inj hs]
                  exact hback
              | some p =>
                  rcases Option.map_eq_some_iff.mp hs with ⟨f, hf, rfl⟩
                  rcases allocate_inv hf with ⟨hfree, rfl⟩
                  exact hback.give hfree
  | setParameters params tmp =>
      simp only [step, setParameters] at hs
      cases htext : cameraFixupSetparams C params with
      | none => simp only [htext, reduceCtorEq] at hs
      | some text =>
          simp only [htext] at hs
          cases tmp with
          | none =>
              rw [← Option.some.inj hs]
              simp only [leaves, List.append_nil]
              exact ⟨h.blocks, h.nodup, h.vendor⟩
          | some p =>
              rcases Option.map_eq_some_iff.mp hs with ⟨f, hf, rfl⟩
              rcases allocate_inv hf with ⟨hfree, rfl⟩
              simp only [leaves, htext]
              have hforgot : Accounted (forgotten ++ [(p, text)])
                  { c with blocks := (p, text) :: c.blocks } := h.forget hfree
              exact ⟨hforgot.blocks, hforgot.nodup, hforgot.vendor⟩
  | putParameters params =>
      rw [leaves, List.append_nil]
      cases params with
      | none =>
          rw [← Option.some.inj hs]
          exact h
      | some p =>
          simp only [step, putParameters] at hs
          by_cases hp : p ∈ c.held.map Prod.fst
          · rw [if_pos hp, Option.some.injEq] at hs
            rw [← hs]
            exact h.free hp
          · rw [if_neg hp] at hs
            exact absurd hs (Option.some_ne_none d).symm

/-- A call leaves nothing exactly if it is of neither kind. -/
theorem leaves_nil_iff {call : CameraCall} (hs : c.step C V call = some d) :
    c.leaves C V call = [] ↔ c.Tidy C V call := by
  cases call with
  | getParameters isoAddr ret =>
      unfold leaves Tidy
      rw [Option.toList_eq_nil_iff, Option.map_eq_none_iff]
  | setParameters params tmp =>
      simp only [step, setParameters] at hs
      cases htext : cameraFixupSetparams C params with
      | none => simp only [htext, reduceCtorEq] at hs
      | some text =>
          unfold leaves Tidy
          cases tmp with
          | none => exact iff_of_true rfl rfl
          | some p =>
              simp only [htext]
              exact iff_of_false (List.cons_ne_nil _ _) (Option.some_ne_none p)
  | putParameters params => exact iff_of_true rfl trivial

/-- The blocks that the calls of a run leave to nobody. -/
abbrev forgottenBy (C : CameraParameters) (V : VendorOps ν) (vendor : ν)
    (calls : List CameraCall) : List (Nat × CStr) :=
  Run.collect (step C V) (leaves C V) (.init vendor) calls

/-- After every run, the live blocks are the application's and those that calls
    have left, in different places; the vendor has its strings back; and nothing
    was left exactly if no call of the run leaves anything. -/
theorem custody_run (vendor : ν) (calls : List CameraCall)
    (h : Run.exec (step C V) (.init vendor) calls = some c) :
    c.blocks.Perm (c.held ++ forgottenBy C V vendor calls) ∧
      (c.blocks.map Prod.fst).Nodup ∧ Ledger.Settled c.log ∧
      (c.blocks.Perm c.held ↔ Run.Guarded (step C V) (Tidy C V) (.init vendor) calls) := by
  have hinv : Accounted (forgottenBy C V vendor calls) c :=
    Run.exec_collected (fun forgotten c => Accounted forgotten c)
      (fun _ _ _ _ hc hs => custody_step hc hs) (accounted_init vendor) h
  refine ⟨hinv.blocks, hinv.nodup, hinv.vendor, ?_⟩
  -- Nothing more than what is held is nothing forgotten.
  have hnone : c.blocks.Perm c.held ↔ forgottenBy C V vendor calls = [] := by
    constructor
    · intro hperm
      have hlength := (hperm.symm.trans hinv.blocks).length_eq
      rw [List.length_append] at hlength
      exact List.eq_nil_of_length_eq_zero (by omega)
    · intro hnil
      have hperm := hinv.blocks
      rw [hnil, List.append_nil] at hperm
      exact hperm
  rw [hnone, List.eq_nil_iff_forall_not_mem]
  -- Nothing is in the whole list if nothing is in any part of it.
  refine (Run.forall_collect_iff fun _ => False).trans ?_
  refine Run.guarded_iff (fun _ => True) (fun _ _ _ _ _ => trivial) ?_ trivial
  intro s call t _ hs
  rw [← leaves_nil_iff hs, List.eq_nil_iff_forall_not_mem]

end Custody

/-- A vendor's camera that stores the text it is given. -/
def storing : VendorOps CStr where
  getParameters text := (text, 0, text)
  putParameters text _ := text
  setParameters text params := (params.getD text, 0)

/-- The mode is one with an ISO value, and what was read is written back. -/
def readAndWrite : List CameraCall :=
  [.getParameters 1 (some 2), .setParameters (cstr "iso=ISO200") (some 3),
    .putParameters (some 2), .getParameters 4 none]

theorem custody_run_readAndWrite : ∃ c : CameraState CStr,
    Run.exec (step stringMap storing) (.init vendorSettings) readAndWrite = some c ∧
    c.held = [] ∧ (c.blocks.map Prod.fst).Perm [1, 3] ∧ Ledger.Settled c.log ∧
    ¬ Run.Guarded (step stringMap storing) (Tidy stringMap storing) (.init vendorSettings)
      readAndWrite := by
  rcases Option.isSome_iff_exists.mp (by decide +kernel :
    (Run.exec (step stringMap storing) (.init vendorSettings) readAndWrite).isSome = true)
    with ⟨c, hc⟩
  have hheld : (Run.exec (step stringMap storing) (.init vendorSettings) readAndWrite).map
      CameraState.held = some [] := by decide +kernel
  have hblocks : (Run.exec (step stringMap storing) (.init vendorSettings) readAndWrite).map
      (fun c => c.blocks.map Prod.fst) = some [3, 1] := by decide +kernel
  rw [hc, Option.map_some, Option.some.injEq] at hheld hblocks
  rcases custody_run vendorSettings readAndWrite hc with ⟨-, -, hvendor, htidy⟩
  refine ⟨c, hc, hheld, ?_, hvendor, fun hguarded => ?_⟩
  · rw [hblocks]
    exact List.Perm.swap 1 3 []
  · have hperm := (htidy.mpr hguarded).map Prod.fst
    rw [hheld, hblocks] at hperm
    exact absurd hperm.length_eq (by decide)

end Camera

end Taoshan

import Taoshan.Hal.Vendor
import Taoshan.Lib.Text

/-!
# Opening a Light

`open_lights` takes hold of the wrapper's device and of the vendor's device
behind it, and then looks at the name. Four lights are supported. For any other
one it returns `-EINVAL`, past the label at which the wrapper's device would be
freed, and the vendor's device stays open too. That label would not close it
either, but there it is never open.

As with the cameras, a failed lookup leaves in `*device` what the caller had
there, and a `NULL` name passes for a success. `OpensCleanly` is what is left,
and it is exact (`openLights_iff`).

A run of opens and closes leaks nothing if and only if the vendor opens no light
for it that is not supported (`lights_balanced_iff`).

## Main definitions

* `SetLight`: The functions that set a light.
* `setLightFor`: Which of them a light gets, if it is supported.
* `WrapperLightDevice`: The wrapper's device.
* `LightEnv`: What the vendor and the allocator answer.
* `lights`: The wrapper as a whole.
* `openLights`, `lightsDeviceClose`: What the framework calls.
* `Opening`: What can become of an open.
* `Serves`: A device with an open vendor device and both functions.
* `OpensName`, `OpensCleanly`: The opens that are all or nothing.
* `Supported`: The opens that leak nothing.

## Theorems

* `openLights_iff`: Which opens are all or nothing.
* `openLights_leaks`: One that is not.
* `close_settles`: A close gives back what an open took.
* `lights_balanced_iff`: The runs that leak nothing.
-/

namespace Taoshan

namespace Hal

namespace Lights

open Ledger
open Text (cstr)

def LIGHT_ID_BACKLIGHT : List UInt8 := cstr "backlight"
def LIGHT_ID_BUTTONS : List UInt8 := cstr "buttons"
def LIGHT_ID_BATTERY : List UInt8 := cstr "battery"
def LIGHT_ID_NOTIFICATIONS : List UInt8 := cstr "notifications"

/-- The functions that set a light. -/
inductive SetLight
  | lightsSetLight
  | lightsSetLightBacklight
  deriving DecidableEq

/-- Which function a light gets, if it is supported. -/
def setLightFor (name : List UInt8) : Option SetLight :=
  if LIGHT_ID_BACKLIGHT = name then some .lightsSetLightBacklight
  else if LIGHT_ID_BUTTONS = name then some .lightsSetLight
  else if LIGHT_ID_BATTERY = name then some .lightsSetLight
  else if LIGHT_ID_NOTIFICATIONS = name then some .lightsSetLight
  else none

/-- `wrapper_light_device_t`. The vendor's device is a pointer, which is set while
    the device is open. -/
structure WrapperLightDevice where
  common : HwDevice
  setLight : Option SetLight
  vendor : Bool
  deriving DecidableEq

/-- After `memset`. -/
def WrapperLightDevice.zero : WrapperLightDevice := ⟨.zero, none, false⟩

/-- What is acquired for a light. -/
inductive Resource
  | wrapper
  | vendor
  deriving DecidableEq

/-- What the world outside answers: the lookup of modules, the allocation, and
    the vendor's function. -/
structure LightEnv where
  hwGetModuleByClass : String → String → Int
  mallocDevice : Bool
  vendorOpen : List UInt8 → Int

/-- The label `fail`: what is allocated is freed. -/
def fail (rv : Int) (gVendorModule : Bool) (lightDevice : Bool) (log : List (Entry Resource))
    (opens : List (List UInt8)) : Outcome WrapperLightDevice Resource :=
  ⟨rv, .null, gVendorModule, log ++ (if lightDevice then [.release .wrapper] else []), opens⟩

/-- `open_lights` behind the check of the vendor's module. -/
def openLight (env : LightEnv) (module : UInt32) (name : List UInt8)
    (device : DevicePtr WrapperLightDevice) : Outcome WrapperLightDevice Resource :=
  if !env.mallocDevice then fail (-ENOMEM) true false [] []
  else
    let dev := WrapperLightDevice.zero
    let log := [.acquire .wrapper]
    let rv := env.vendorOpen name
    if rv ≠ 0 then fail rv true true log [name]
    else
      let dev := { dev with vendor := true }
      let log := log ++ [.acquire .vendor]
      match setLightFor name with
      -- `return -EINVAL`, not `goto fail`.
      | none => ⟨-EINVAL, device, true, log, [name]⟩
      | some setLight =>
          let dev := { dev with
            common := ⟨HARDWARE_DEVICE_TAG, 0, some module, some .lightsDeviceClose⟩
            setLight := some setLight }
          ⟨rv, .wrapper dev, true, log, [name]⟩

/-- The lights wrapper. -/
def lights : Wrapper LightEnv WrapperLightDevice Resource where
  cls := "lights"
  hwGetModuleByClass := LightEnv.hwGetModuleByClass
  openNamed := openLight
  closeLog := [.release .vendor, .release .wrapper]

/-- `open_lights`. -/
def openLights (gVendorModule : Bool) (args : OpenArgs LightEnv WrapperLightDevice) :
    Outcome WrapperLightDevice Resource := lights.openDevice gVendorModule args

/-- `lights_device_close`: what it returns, and what it closes and frees. -/
def lightsDeviceClose : Option WrapperLightDevice → Int × List (Entry Resource)
  | none => (-EINVAL, [])
  | some _ => (0, [.release .vendor, .release .wrapper])

section Opening

variable (env : LightEnv) (module : UInt32) (name : List UInt8)
  (device : DevicePtr WrapperLightDevice)

/-- What can become of an open once the vendor's module is there. -/
inductive Opening : Outcome WrapperLightDevice Resource → Prop
  | noMemory (hdevice : env.mallocDevice = false) :
      Opening (fail (-ENOMEM) true false [] [])
  | refused (hdevice : env.mallocDevice = true) (hvendor : env.vendorOpen name ≠ 0) :
      Opening (fail (env.vendorOpen name) true true [.acquire .wrapper] [name])
  | notSupported (hdevice : env.mallocDevice = true) (hvendor : env.vendorOpen name = 0)
      (hname : setLightFor name = none) :
      Opening ⟨-EINVAL, device, true, [.acquire .wrapper, .acquire .vendor], [name]⟩
  | opened (hdevice : env.mallocDevice = true) (hvendor : env.vendorOpen name = 0)
      {setLight : SetLight} (hname : setLightFor name = some setLight) :
      Opening ⟨0, .wrapper ⟨⟨HARDWARE_DEVICE_TAG, 0, some module, some .lightsDeviceClose⟩,
        some setLight, true⟩, true, [.acquire .wrapper, .acquire .vendor], [name]⟩

theorem openLight_opening :
    Opening env module name device (openLight env module name device) := by
  unfold openLight
  cases hdevice : env.mallocDevice with
  | false => exact .noMemory hdevice
  | true =>
      by_cases hvendor : env.vendorOpen name = 0
      · cases hname : setLightFor name with
        | none =>
            simp only [Bool.not_true, Bool.false_eq_true, if_false, hvendor, ne_eq,
              not_true_eq_false]
            exact .notSupported hdevice hvendor hname
        | some setLight =>
            simp only [Bool.not_true, Bool.false_eq_true, if_false, hvendor, ne_eq,
              not_true_eq_false]
            exact .opened hdevice hvendor hname
      · simp only [Bool.not_true, Bool.false_eq_true, if_false, ne_eq, hvendor,
          not_false_eq_true, if_true]
        exact .refused hdevice hvendor

end Opening

/-- A device with an open vendor device, `close` and `set_light`. -/
def Serves (w : WrapperLightDevice) : Prop :=
  w.vendor = true ∧ w.common.close.isSome ∧ w.setLight.isSome

/-- With the vendor's module there, the open of a name is all or nothing: no device is
    allocated, or the vendor refuses the name, or it is supported. -/
def OpensName (env : LightEnv) (name : List UInt8) : Prop :=
  env.mallocDevice = false ∨ env.vendorOpen name ≠ 0 ∨ (setLightFor name).isSome

/-- The opens that are all or nothing. -/
def OpensCleanly (gVendorModule : Bool) (args : OpenArgs LightEnv WrapperLightDevice) : Prop :=
  lights.OpensCleanly Serves OpensName gVendorModule args

theorem fail_rv (rv : Int) (g d : Bool) (log : List (Entry Resource))
    (opens : List (List UInt8)) : (fail rv g d log opens).rv = rv := rfl

/-- What is asked of an open that leaves by the label. -/
theorem allOrNothing_fail {rv : Int} (hrv : rv ≠ 0) (g d : Bool) (log : List (Entry Resource))
    (opens : List (List UInt8)) :
    AllOrNothing Serves (fail rv g d log opens) ↔ Settled (fail rv g d log opens).log := by
  rw [allOrNothing_of_error hrv]
  exact ⟨And.right, fun h => ⟨rfl, h⟩⟩

/-- With the vendor's module there, it is the name that is not supported. -/
theorem openLight_allOrNothing (env : LightEnv) (module : UInt32) (name : List UInt8)
    (device : DevicePtr WrapperLightDevice) :
    AllOrNothing Serves (openLight env module name device) ↔ OpensName env name := by
  have hopening := openLight_opening env module name device
  unfold OpensName
  generalize openLight env module name device = out at hopening ⊢
  cases hopening with
  | noMemory hdevice =>
      rw [allOrNothing_fail (by decide)]
      exact ⟨fun _ => .inl hdevice, fun _ _ => rfl⟩
  | refused hdevice hvendor =>
      rw [allOrNothing_fail hvendor]
      refine ⟨fun _ => .inr (.inl hvendor), fun _ r => ?_⟩
      cases r <;> rfl
  | notSupported hdevice hvendor hname =>
      -- Both devices are still there, whatever the caller had in `*device`.
      have hopen : balance .vendor [.acquire .wrapper, .acquire Resource.vendor] ≠ 0 := by
        decide
      rw [allOrNothing_of_error (by decide : -EINVAL ≠ 0), hdevice, hvendor, hname]
      constructor
      · intro h
        exact absurd (h.2 .vendor) hopen
      · intro h
        rcases h with h | h | h
        · exact nomatch h
        · exact absurd rfl h
        · exact nomatch h
  | opened hdevice hvendor hname =>
      rw [allOrNothing_of_success rfl, hname]
      exact ⟨fun _ => .inr (.inr rfl), fun _ => ⟨_, rfl, rfl, rfl, rfl⟩⟩

/-- Which opens are all or nothing. -/
theorem openLights_iff (gVendorModule : Bool) (args : OpenArgs LightEnv WrapperLightDevice) :
    AllOrNothing Serves (openLights gVendorModule args) ↔ OpensCleanly gVendorModule args :=
  openDevice_iff (allOrNothing_null args.device gVendorModule)
    (allOrNothing_unchecked args.device)
    (fun name => openLight_allOrNothing args.env args.module name args.device)

/-- The framework opens the attention light, which the vendor has. -/
theorem openLights_leaks :
    let env : LightEnv := ⟨fun _ _ => 0, true, fun _ => 0⟩
    let out := openLights true ⟨env, 0, some (cstr "attention"), .null⟩
    out.rv = -EINVAL ∧ balance .wrapper out.log = 1 ∧ balance .vendor out.log = 1 ∧
      ¬ AllOrNothing Serves out := by
  refine ⟨by decide, by decide, by decide, fun h => ?_⟩
  exact absurd ((h.failed (by decide)).2 .vendor) (by decide)

theorem openLight_closes {env : LightEnv} {module : UInt32} {name : List UInt8}
    {device : DevicePtr WrapperLightDevice} (hrv : (openLight env module name device).rv = 0) :
    ∃ w, (openLight env module name device).device = .wrapper w ∧
      lightsDeviceClose (some w) = (0, lights.closeLog) ∧
      Settled ((openLight env module name device).log ++ lights.closeLog) := by
  have hopening := openLight_opening env module name device
  generalize openLight env module name device = out at hopening hrv ⊢
  cases hopening with
  | noMemory hdevice => exact nomatch hrv
  | refused hdevice hvendor => exact absurd hrv hvendor
  | notSupported hdevice hvendor hname => exact nomatch hrv
  | opened hdevice hvendor hname =>
      refine ⟨_, rfl, rfl, fun r => ?_⟩
      cases r <;> rfl

/-- A close gives back what an open took for the device that it handed out. -/
theorem close_settles (g : Bool) (args : OpenArgs LightEnv WrapperLightDevice)
    (h : lights.handsOut g args = true) :
    ∃ w, (openLights g args).device = .wrapper w ∧
      lightsDeviceClose (some w) = (0, lights.closeLog) ∧
      Settled ((openLights g args).log ++ lights.closeLog) := by
  rcases handsOut_inv h with ⟨name, hopen, hrv⟩
  unfold openLights
  rw [hopen]
  exact openLight_closes hrv

/-- A light that the vendor has opened is supported. -/
def Supported (env : LightEnv) (name : List UInt8) : Prop :=
  env.mallocDevice = true → env.vendorOpen name = 0 → (setLightFor name).isSome

theorem openLight_repaid (env : LightEnv) (module : UInt32) (name : List UInt8)
    (device : DevicePtr WrapperLightDevice) :
    Repaid (openLight env module name device) ↔ Supported env name := by
  have hopening := openLight_opening env module name device
  unfold Supported
  generalize openLight env module name device = out at hopening ⊢
  cases hopening with
  | noMemory hdevice =>
      rw [hdevice]
      exact ⟨fun _ => nofun, fun _ _ => rfl⟩
  | refused hdevice hvendor =>
      refine ⟨fun _ _ hzero => absurd hzero hvendor, fun _ r => ?_⟩
      rw [fail_rv, if_neg hvendor]
      cases r <;> rfl
  | notSupported hdevice hvendor hname =>
      -- Both devices are left, and none was handed out.
      constructor
      · intro h
        exact nomatch h .vendor
      · intro h
        have hsome := h hdevice hvendor
        rw [hname] at hsome
        exact nomatch hsome
  | opened hdevice hvendor hname =>
      rw [hname]
      refine ⟨fun _ _ _ => rfl, fun _ r => ?_⟩
      cases r <;> rfl

/-- A run leaks nothing if and only if every light that the vendor opens is
    supported. -/
theorem lights_balanced_iff (calls : List (HalCall LightEnv WrapperLightDevice)) :
    Run.Throughout (wrappedStep lights) Balanced .init calls ↔
      Run.Guarded (wrappedStep lights) (Reaching lights Supported) .init calls := by
  refine balanced_iff_reaching lights (fun r => ?_) openLight_repaid calls
  cases r <;> rfl

end Lights

end Hal

end Taoshan

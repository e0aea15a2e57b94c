import Taoshan.Hal.Vendor
import Taoshan.Lib.Text

/-!
# Opening a Camera

`camera_device_open` takes hold of three things: the wrapper's device, the
vendor's device behind it, and a table of operations. Where one of them cannot
be had, what was had before is given back at a common label. A camera should be
opened entirely or not at all.

The label frees the two allocations, but it closes no vendor device. So where
only the table cannot be allocated, the vendor's camera stays open and nobody is
left who could close it. Two ways out do not go past the label: a failed lookup
leaves in `*device` what the caller had there, and so does a `NULL` name, which
passes for a success. And the check of the name lets one id too many and all
negative ones through to the vendor. `OpensCleanly` is what is left, and it is
exact (`cameraDeviceOpen_iff`).

Over a run of opens and closes only the table matters: nothing is leaked if and
only if it could be allocated for every camera that the vendor opened
(`cameras_balanced_iff`).

## Main definitions

* `Op`, `Ops`: The operations of a camera, and a table of them.
* `cameraOps`: The table that a wrapper gets.
* `WrapperCameraDevice`: The wrapper's device.
* `CameraEnv`: What the vendor and the allocator answer.
* `cameras`: The wrapper as a whole.
* `cameraDeviceOpen`, `cameraDeviceClose`: What the framework calls.
* `Opening`: What can become of an open.
* `Serves`: A device with an open vendor device and all operations.
* `AllInRange`: All or nothing, and of the vendor's own cameras only.
* `OpensName`, `OpensCleanly`: The opens of which that is true.
* `TableAllocated`: The opens that leak nothing.

## Theorems

* `cameraDeviceOpen_iff`: Which opens are all or nothing.
* `cameraDeviceOpen_leaks`: One that is not.
* `close_settles`: A close gives back what an open took.
* `cameras_balanced_iff`: The runs that leak nothing.
-/

namespace Taoshan

namespace Hal

namespace Camera

open Ledger
open Text (atoi cstr)

/-- The members of `camera_device_ops_t`. -/
inductive Op
  | setPreviewWindow
  | setCallbacks
  | enableMsgType
  | disableMsgType
  | msgTypeEnabled
  | startPreview
  | stopPreview
  | previewEnabled
  | storeMetaDataInBuffers
  | startRecording
  | stopRecording
  | recordingEnabled
  | releaseRecordingFrame
  | autoFocus
  | cancelAutoFocus
  | takePicture
  | cancelPicture
  | setParameters
  | getParameters
  | putParameters
  | sendCommand
  | release
  | dump
  deriving DecidableEq

/-- `camera_device_ops_t`. The wrapper's function for an operation is named by
    the operation; a pointer that is not set is `none`. -/
abbrev Ops := Op → Option Op

/-- After `memset`. -/
def Ops.zero : Ops := fun _ => none

/-- `camera_ops->member = function`. -/
def Ops.set (ops : Ops) (assignment : Op × Op) : Ops :=
  Function.update ops assignment.1 (some assignment.2)

/-- The assignments of `camera_device_open`, in its order. -/
def assignments : List (Op × Op) :=
  [(.setPreviewWindow, .setPreviewWindow), (.setCallbacks, .setCallbacks),
    (.enableMsgType, .enableMsgType), (.disableMsgType, .disableMsgType),
    (.msgTypeEnabled, .msgTypeEnabled), (.startPreview, .startPreview),
    (.stopPreview, .stopPreview), (.previewEnabled, .previewEnabled),
    (.storeMetaDataInBuffers, .storeMetaDataInBuffers), (.startRecording, .startRecording),
    (.stopRecording, .stopRecording), (.recordingEnabled, .recordingEnabled),
    (.releaseRecordingFrame, .releaseRecordingFrame), (.autoFocus, .autoFocus),
    (.cancelAutoFocus, .cancelAutoFocus), (.takePicture, .takePicture),
    (.cancelPicture, .cancelPicture), (.setParameters, .setParameters),
    (.getParameters, .getParameters), (.putParameters, .putParameters),
    (.sendCommand, .sendCommand), (.release, .release), (.dump, .dump)]

/-- The table that a wrapper gets. -/
def cameraOps : Ops := assignments.foldl Ops.set .zero

/-- Every operation is set, and to the function of its own. -/
theorem cameraOps_apply (op : Op) : cameraOps op = some op := by
  cases op <;> rfl

/-- `wrapper_camera_device_t`. The vendor's device is a pointer, which is set
    while the device is open. -/
structure WrapperCameraDevice where
  common : HwDevice
  ops : Option Ops
  id : BitVec 32
  vendor : Bool

/-- After `memset`. -/
def WrapperCameraDevice.zero : WrapperCameraDevice := ⟨.zero, none, 0, false⟩

/-- What is acquired for a camera. -/
inductive Resource
  | wrapper
  | vendor
  | ops
  deriving DecidableEq

/-- What the world outside answers: the lookup of modules, the vendor's two
    functions, and the two allocations. -/
structure CameraEnv where
  hwGetModuleByClass : String → String → Int
  getNumberOfCameras : BitVec 32
  mallocDevice : Bool
  vendorOpen : List UInt8 → Int
  mallocOps : Bool

/-- The label `fail`: what is allocated is freed. -/
def fail (rv : Int) (gVendorModule : Bool) (cameraDevice cameraOps : Bool)
    (log : List (Entry Resource)) (opens : List (List UInt8)) :
    Outcome WrapperCameraDevice Resource :=
  ⟨rv, .null, gVendorModule,
    log ++ (if cameraDevice then [.release .wrapper] else []) ++
      (if cameraOps then [.release .ops] else []),
    opens⟩

/-- `camera_device_open` behind the check of the vendor's module. -/
def openCamera (env : CameraEnv) (module : UInt32) (name : List UInt8) :
    Outcome WrapperCameraDevice Resource :=
  let cameraid := atoi name
  let num_cameras := env.getNumberOfCameras
  if num_cameras.toInt < cameraid.toInt then fail (-EINVAL) true false false [] []
  else if !env.mallocDevice then fail (-ENOMEM) true false false [] []
  else
    let dev := { WrapperCameraDevice.zero with id := cameraid }
    let log := [.acquire .wrapper]
    let rv := env.vendorOpen name
    if rv ≠ 0 then fail rv true true false log [name]
    else
      let dev := { dev with vendor := true }
      let log := log ++ [.acquire .vendor]
      if !env.mallocOps then fail (-ENOMEM) true true false log [name]
      else
        let dev := { dev with
          common := ⟨HARDWARE_DEVICE_TAG, 0, some module, some .cameraDeviceClose⟩
          ops := some cameraOps }
        ⟨rv, .wrapper dev, true, log ++ [.acquire .ops], [name]⟩

/-- The camera wrapper. -/
def cameras : Wrapper CameraEnv WrapperCameraDevice Resource where
  cls := "camera"
  hwGetModuleByClass := CameraEnv.hwGetModuleByClass
  openNamed env module name _ := openCamera env module name
  closeLog := [.release .vendor, .release .ops, .release .wrapper]

/-- `camera_device_open`. -/
def cameraDeviceOpen (gVendorModule : Bool) (args : OpenArgs CameraEnv WrapperCameraDevice) :
    Outcome WrapperCameraDevice Resource := cameras.openDevice gVendorModule args

/-- `camera_device_close`: what it returns, and what it closes and frees. -/
def cameraDeviceClose : Option WrapperCameraDevice → Int × List (Entry Resource)
  | none => (-EINVAL, [])
  | some dev =>
      (0, .release .vendor :: (if dev.ops.isSome then [.release .ops] else []) ++
        [.release .wrapper])

section Opening

variable (env : CameraEnv) (module : UInt32) (name : List UInt8)

/-- What can become of an open once the vendor's module is there. -/
inductive Opening : Outcome WrapperCameraDevice Resource → Prop
  | outOfBounds (hid : env.getNumberOfCameras.toInt < (atoi name).toInt) :
      Opening (fail (-EINVAL) true false false [] [])
  | noMemory (hid : (atoi name).toInt ≤ env.getNumberOfCameras.toInt)
      (hdevice : env.mallocDevice = false) : Opening (fail (-ENOMEM) true false false [] [])
  | refused (hid : (atoi name).toInt ≤ env.getNumberOfCameras.toInt)
      (hdevice : env.mallocDevice = true) (hvendor : env.vendorOpen name ≠ 0) :
      Opening (fail (env.vendorOpen name) true true false [.acquire .wrapper] [name])
  | noTable (hid : (atoi name).toInt ≤ env.getNumberOfCameras.toInt)
      (hdevice : env.mallocDevice = true) (hvendor : env.vendorOpen name = 0)
      (hops : env.mallocOps = false) :
      Opening (fail (-ENOMEM) true true false [.acquire .wrapper, .acquire .vendor] [name])
  | opened (hid : (atoi name).toInt ≤ env.getNumberOfCameras.toInt)
      (hdevice : env.mallocDevice = true) (hvendor : env.vendorOpen name = 0)
      (hops : env.mallocOps = true) :
      Opening ⟨0, .wrapper ⟨⟨HARDWARE_DEVICE_TAG, 0, some module, some .cameraDeviceClose⟩,
        some cameraOps, atoi name, true⟩, true,
        [.acquire .wrapper, .acquire .vendor, .acquire .ops], [name]⟩

theorem openCamera_opening : Opening env module name (openCamera env module name) := by
  unfold openCamera
  by_cases hid : env.getNumberOfCameras.toInt < (atoi name).toInt
  · rw [if_pos hid]
    exact .outOfBounds hid
  rw [if_neg hid]
  have hid := Int.not_lt.mp hid
  cases hdevice : env.mallocDevice with
  | false => exact .noMemory hid hdevice
  | true =>
      by_cases hvendor : env.vendorOpen name = 0
      · cases hops : env.mallocOps with
        | false =>
            simp only [Bool.not_true, Bool.false_eq_true, if_false, hvendor, ne_eq,
              not_true_eq_false, Bool.not_false, if_true]
            exact .noTable hid hdevice hvendor hops
        | true =>
            simp only [Bool.not_true, Bool.false_eq_true, if_false, hvendor, ne_eq,
              not_true_eq_false]
            exact .opened hid hdevice hvendor hops
      · simp only [Bool.not_true, Bool.false_eq_true, if_false, ne_eq, hvendor,
          not_false_eq_true, if_true]
        exact .refused hid hdevice hvendor

end Opening

/-- A device with an open vendor device, all of whose operations are set. -/
def Serves (w : WrapperCameraDevice) : Prop :=
  w.vendor = true ∧ ∃ ops, w.ops = some ops ∧ ∀ op, (ops op).isSome

/-- The id that a name stands for is that of one of the vendor's cameras. -/
def InRange (env : CameraEnv) (name : List UInt8) : Prop :=
  0 ≤ (atoi name).toInt ∧ (atoi name).toInt < env.getNumberOfCameras.toInt

/-- An open is all or nothing, and the vendor is asked for its own cameras only. -/
def AllInRange (env : CameraEnv) (out : Outcome WrapperCameraDevice Resource) : Prop :=
  AllOrNothing Serves out ∧ ∀ name ∈ out.vendorOpens, InRange env name

/-- With the vendor's module there, the open of a name is all or nothing: the id is
    beyond the bound, or no device is allocated, or the id is one of the vendor's
    and the vendor refuses it or there is memory for the table. -/
def OpensName (env : CameraEnv) (name : List UInt8) : Prop :=
  env.getNumberOfCameras.toInt < (atoi name).toInt ∨ env.mallocDevice = false ∨
    InRange env name ∧ (env.vendorOpen name ≠ 0 ∨ env.mallocOps = true)

/-- The opens that are all or nothing. -/
def OpensCleanly (gVendorModule : Bool) (args : OpenArgs CameraEnv WrapperCameraDevice) : Prop :=
  cameras.OpensCleanly Serves OpensName gVendorModule args

theorem fail_rv (rv : Int) (g d o : Bool) (log : List (Entry Resource))
    (opens : List (List UInt8)) : (fail rv g d o log opens).rv = rv := rfl

/-- What is asked of an open that leaves by the label. -/
theorem allOrNothing_fail {rv : Int} (hrv : rv ≠ 0) (g d o : Bool)
    (log : List (Entry Resource)) (opens : List (List UInt8)) :
    AllOrNothing Serves (fail rv g d o log opens) ↔ Settled (fail rv g d o log opens).log := by
  rw [allOrNothing_of_error hrv]
  exact ⟨And.right, fun h => ⟨rfl, h⟩⟩

/-- With the vendor's module there, the table is what is missing, or the range. -/
theorem openCamera_allInRange (env : CameraEnv) (module : UInt32) (name : List UInt8) :
    AllInRange env (openCamera env module name) ↔ OpensName env name := by
  have hopening := openCamera_opening env module name
  unfold AllInRange OpensName
  generalize openCamera env module name = out at hopening ⊢
  cases hopening with
  | outOfBounds hid =>
      rw [allOrNothing_fail (by decide)]
      exact ⟨fun _ => .inl hid, fun _ => ⟨fun _ => rfl, nofun⟩⟩
  | noMemory hid hdevice =>
      rw [allOrNothing_fail (by decide)]
      exact ⟨fun _ => .inr (.inl hdevice), fun _ => ⟨fun _ => rfl, nofun⟩⟩
  | refused hid hdevice hvendor =>
      -- The wrapper is freed, so only the range is left to ask for.
      have hsettled : Settled (fail (env.vendorOpen name) true true false
          [.acquire .wrapper] [name]).log := by
        intro r
        cases r <;> rfl
      rw [allOrNothing_fail hvendor, hdevice]
      constructor
      · intro h
        exact .inr (.inr ⟨h.2 name (List.mem_singleton_self _), .inl hvendor⟩)
      · intro h
        rcases h with h | h | ⟨hrange, -⟩
        · exact absurd h (Int.not_lt.mpr hid)
        · exact nomatch h
        · refine ⟨hsettled, fun nm hnm => ?_⟩
          rw [List.mem_singleton.mp hnm]
          exact hrange
  | noTable hid hdevice hvendor hops =>
      -- The vendor's device is still open.
      have hopen : balance .vendor
          [.acquire .wrapper, .acquire .vendor, .release Resource.wrapper] ≠ 0 := by decide
      rw [allOrNothing_fail (by decide), hdevice, hops, hvendor]
      constructor
      · intro h
        exact absurd (h.1 .vendor) hopen
      · intro h
        rcases h with h | h | ⟨-, h | h⟩
        · exact absurd h (Int.not_lt.mpr hid)
        · exact nomatch h
        · exact absurd rfl h
        · exact nomatch h
  | opened hid hdevice hvendor hops =>
      -- The three resources are the device's own, so only the range is left to ask for.
      rw [allOrNothing_of_success rfl, hdevice, hops]
      simp only [List.mem_singleton, forall_eq, or_true, and_true, reduceCtorEq, false_or]
      constructor
      · intro h
        exact .inr h.2
      · intro h
        refine ⟨⟨_, rfl, rfl, _, rfl, fun op => ?_⟩, h.resolve_left (Int.not_lt.mpr hid)⟩
        rw [cameraOps_apply]
        rfl

/-- Which opens are all or nothing. -/
theorem cameraDeviceOpen_iff (gVendorModule : Bool)
    (args : OpenArgs CameraEnv WrapperCameraDevice) :
    AllInRange args.env (cameraDeviceOpen gVendorModule args) ↔
      OpensCleanly gVendorModule args := by
  refine openDevice_iff ?_ (fun g' => ?_) (fun name => ?_)
  · unfold AllInRange
    rw [allOrNothing_null]
    exact ⟨And.left, fun h => ⟨h, nofun⟩⟩
  · unfold AllInRange
    rw [allOrNothing_unchecked]
    exact ⟨And.left, fun h => ⟨h, nofun⟩⟩
  · exact openCamera_allInRange args.env args.module name

/-- Two cameras, and no memory for the table when the first is opened; and a name
    for a third camera, for which there is memory. -/
theorem cameraDeviceOpen_leaks :
    let env : CameraEnv := ⟨fun _ _ => 0, 2, true, fun _ => 0, false⟩
    let out := cameraDeviceOpen true ⟨env, 0, some (cstr "0"), .null⟩
    let roomy := { env with mallocOps := true }
    (out.rv = -ENOMEM ∧ balance .vendor out.log = 1 ∧ ¬ AllInRange env out) ∧
      ¬ AllInRange roomy (cameraDeviceOpen true ⟨roomy, 0, some (cstr "2"), .null⟩) := by
  refine ⟨⟨by decide, by decide, fun h => ?_⟩, fun h => ?_⟩
  · exact absurd ((h.1.failed (by decide)).2 .vendor) (by decide)
  · exact absurd (h.2 (cstr "2") (List.mem_singleton_self _)).2 (by decide)

theorem openCamera_closes {env : CameraEnv} {module : UInt32} {name : List UInt8}
    (hrv : (openCamera env module name).rv = 0) :
    ∃ w, (openCamera env module name).device = .wrapper w ∧
      cameraDeviceClose (some w) = (0, cameras.closeLog) ∧
      Settled ((openCamera env module name).log ++ cameras.closeLog) := by
  have hopening := openCamera_opening env module name
  generalize openCamera env module name = out at hopening hrv ⊢
  cases hopening with
  | outOfBounds hid => exact nomatch hrv
  | noMemory hid hdevice => exact nomatch hrv
  | refused hid hdevice hvendor => exact absurd hrv hvendor
  | noTable hid hdevice hvendor hops => exact nomatch hrv
  | opened hid hdevice hvendor hops =>
      refine ⟨_, rfl, rfl, fun r => ?_⟩
      cases r <;> rfl

/-- A close gives back what an open took for the device that it handed out. -/
theorem close_settles (g : Bool) (args : OpenArgs CameraEnv WrapperCameraDevice)
    (h : cameras.handsOut g args = true) :
    ∃ w, (cameraDeviceOpen g args).device = .wrapper w ∧
      cameraDeviceClose (some w) = (0, cameras.closeLog) ∧
      Settled ((cameraDeviceOpen g args).log ++ cameras.closeLog) := by
  rcases handsOut_inv h with ⟨name, hopen, hrv⟩
  unfold cameraDeviceOpen
  rw [hopen]
  exact openCamera_closes hrv

/-- A camera that the vendor has opened gets its table. -/
def TableAllocated (env : CameraEnv) (name : List UInt8) : Prop :=
  (atoi name).toInt ≤ env.getNumberOfCameras.toInt → env.mallocDevice = true →
    env.vendorOpen name = 0 → env.mallocOps = true

theorem openCamera_repaid (env : CameraEnv) (module : UInt32) (name : List UInt8) :
    Repaid (openCamera env module name) ↔ TableAllocated env name := by
  have hopening := openCamera_opening env module name
  unfold TableAllocated
  generalize openCamera env module name = out at hopening ⊢
  cases hopening with
  | outOfBounds hid => exact ⟨fun _ hle => absurd hid (Int.not_lt.mpr hle), fun _ _ => rfl⟩
  | noMemory hid hdevice =>
      rw [hdevice]
      exact ⟨fun _ _ => nofun, fun _ _ => rfl⟩
  | refused hid hdevice hvendor =>
      refine ⟨fun _ _ _ hzero => absurd hzero hvendor, fun _ r => ?_⟩
      rw [fail_rv, if_neg hvendor]
      cases r <;> rfl
  | noTable hid hdevice hvendor hops =>
      -- One vendor device is left, and none was handed out.
      constructor
      · intro h
        exact nomatch h .vendor
      · intro h
        rw [h hid hdevice hvendor] at hops
        exact nomatch hops
  | opened hid hdevice hvendor hops =>
      refine ⟨fun _ _ _ _ => hops, fun _ r => ?_⟩
      cases r <;> rfl

/-- A run leaks nothing if and only if every camera that the vendor opens gets
    its table. -/
theorem cameras_balanced_iff (calls : List (HalCall CameraEnv WrapperCameraDevice)) :
    Run.Throughout (wrappedStep cameras) Balanced .init calls ↔
      Run.Guarded (wrappedStep cameras) (Reaching cameras TableAllocated) .init calls := by
  refine balanced_iff_reaching cameras (fun r => ?_) (fun env module name _ =>
    openCamera_repaid env module name) calls
  cases r <;> rfl

end Camera

end Hal

end Taoshan

import Mathlib.Data.List.Infix
import Taoshan.Camera.Parameters
import Taoshan.Lib.Text

/-!
# Parameter Fix-Up

`camera_fixup_getparams` and `camera_fixup_setparams`: what the wrapper changes
in the parameters on their way from the vendor's camera to the application, and
back.

A function returns `none` where the source passes a NULL string to `strcmp` or
`strstr`, or reads behind the end of one. Reading a key that is absent gives
NULL, so most of the tests in the source are about that. `sprintf` prints
`(null)` for it.

The list of ISO modes is built in a buffer, with a position that is a `char`
and so wraps at 256. The buffer is taken to go on behind its end, filled with
zeros as the rest of it is (`store`). The last `sprintf` prints the buffer into
itself, which is read as appending.

## Main definitions

* `isoModes`: The list of ISO modes.
* `fixupCapability`, `fixupIsoModes`, `fixupSceneMode`, `fixupVideoHdr`,
  `fixupExposure`: The parts of `cameraFixupGetparams`.
* `setShutter`, `setIso`, `setSceneMode`, `setVideoHdr`, `setVideoStabiliser`:
  The parts of `cameraFixupSetparams`.
-/

namespace Taoshan

namespace Camera

open Text

def KEY_SUPPORTED_ISO_MODES : CStr := cstr "iso-values"
def KEY_ISO_MODE : CStr := cstr "iso"
def KEY_SHUTTER_SPEED : CStr := cstr "shutter-speed"
def KEY_VIDEO_HDR : CStr := cstr "video-hdr"
def KEY_VIDEO_HDR_VALUES : CStr := cstr "video-hdr-values"

def KEY_SONY_IMAGE_STABILISER_VALUES : CStr := cstr "sony-is-values"
def KEY_SONY_IMAGE_STABILISER : CStr := cstr "sony-is"
def KEY_SONY_VIDEO_STABILISER : CStr := cstr "sony-vs"
def KEY_SONY_VIDEO_STABILISER_VALUES : CStr := cstr "sony-vs-values"
def KEY_SONY_VIDEO_HDR : CStr := cstr "sony-video-hdr"
def KEY_SONY_VIDEO_HDR_VALUES : CStr := cstr "sony-video-hdr-values"
def KEY_SONY_ISO_AVAIL_MODES : CStr := cstr "sony-iso-values"
def KEY_SONY_ISO_MODE : CStr := cstr "sony-iso"
def KEY_SONY_AE_MODE_VALUES : CStr := cstr "sony-ae-mode-values"
def KEY_SONY_AE_MODE : CStr := cstr "sony-ae-mode"
def KEY_SONY_SHUTTER_SPEED : CStr := cstr "sony-shutter-speed"

def VALUE_SONY_ON : CStr := cstr "on"
def VALUE_SONY_OFF : CStr := cstr "off"
def VALUE_SONY_STILL_HDR : CStr := cstr "on-still-hdr"
def VALUE_SONY_INTELLIGENT_ACTIVE : CStr := cstr "on-intelligent-active"

/-- The constants of `android::CameraParameters` that are used. -/
def KEY_SUPPORTED_SCENE_MODES : CStr := cstr "scene-mode-values"
def KEY_SCENE_MODE : CStr := cstr "scene-mode"
def SCENE_MODE_AUTO : CStr := cstr "auto"
def KEY_RECORDING_HINT : CStr := cstr "recording-hint"
def TRUE : CStr := cstr "true"

/-- `strstr` finds the second string in the first. -/
def contains (s t : CStr) : Bool := decide (t <:+: s)

/-- The memory from a buffer on, so far as it is not zero. -/
structure IsoBuffer where
  buffer : List UInt8
  bufferPos : UInt8

/-- One byte is written. -/
def store (mem : List UInt8) (i : Nat) (b : UInt8) : List UInt8 :=
  (mem ++ List.replicate (i + 1 - mem.length) 0).set i b

/-- `strcat`. -/
def strcat (mem : List UInt8) (s : CStr) : List UInt8 :=
  let len := (mem.takeWhile fun b => b ≠ 0).length
  mem.take len ++ s ++ [0] ++ mem.drop (len + s.length + 1)

/-- One byte of the vendor's list. -/
def isoModeStep (b : IsoBuffer) (c : UInt8) : IsoBuffer :=
  -- `bufferPos` is a `char`, so it wraps.
  if c ≠ 0x2C then ⟨store b.buffer b.bufferPos.toNat c, b.bufferPos + 1⟩
  else ⟨strcat b.buffer (cstr ",ISO"), b.bufferPos + 4⟩

/-- The list of ISO modes that the application is told. -/
def isoModes (isoModeList : CStr) : CStr :=
  let b := isoModeList.foldl isoModeStep ⟨cstr "ISO" ++ List.replicate 252 0, 3⟩
  (strcat b.buffer (cstr ",auto")).takeWhile fun b => b ≠ 0

section Fixup

variable (C : CameraParameters) (m : C.Params)

/-- `camera_fixup_capability`. -/
def fixupCapability : C.Params :=
  match C.get m KEY_SONY_IMAGE_STABILISER_VALUES with
  | none => m
  | some supportedIsModes =>
      if contains supportedIsModes VALUE_SONY_STILL_HDR then
        -- `(null)` is what `%s` prints for NULL.
        let supportedSceneModes := (C.get m KEY_SUPPORTED_SCENE_MODES).getD (cstr "(null)")
        C.set m KEY_SUPPORTED_SCENE_MODES (supportedSceneModes ++ cstr ",hdr")
      else m

/-- The ISO modes are those of the vendor's list. -/
def fixupIsoModes : C.Params :=
  match C.get m KEY_SONY_ISO_AVAIL_MODES with
  | none => m
  | some isoModeList => C.set m KEY_SUPPORTED_ISO_MODES (isoModes isoModeList)

/-- The scene mode is HDR if the vendor's stabiliser is on for it. -/
def fixupSceneMode : C.Params :=
  if C.get m KEY_SONY_IMAGE_STABILISER = some VALUE_SONY_STILL_HDR then
    C.set m KEY_SCENE_MODE (cstr "hdr")
  else m

/-- Video HDR is as the vendor says. -/
def fixupVideoHdr : C.Params :=
  match C.get m KEY_SONY_VIDEO_HDR, C.get m KEY_SONY_VIDEO_HDR_VALUES with
  | some hdr, some values => C.set (C.set m KEY_VIDEO_HDR_VALUES values) KEY_VIDEO_HDR hdr
  | _, _ => m

/-- The shutter speed is the vendor's, if there is one. -/
def copyShutter : C.Params :=
  match C.get m KEY_SONY_SHUTTER_SPEED with
  | none => m
  | some shutterSpeed => C.set m KEY_SHUTTER_SPEED shutterSpeed

/-- What the vendor's exposure mode means for ISO and shutter speed. -/
def fixupExposure : Option C.Params :=
  match C.get m KEY_SONY_ISO_MODE, C.get m KEY_SONY_AE_MODE_VALUES with
  | some isoMode, some _ => match C.get m KEY_SONY_AE_MODE with
    -- `strcmp` on NULL.
    | none => none
    | some aeMode => some (
        if aeMode = cstr "auto" then
          C.set (C.set m KEY_ISO_MODE (cstr "auto")) KEY_SHUTTER_SPEED (cstr "auto")
        else if aeMode = cstr "iso-prio" then
          C.set (C.set m KEY_ISO_MODE (cstr "ISO" ++ isoMode)) KEY_SHUTTER_SPEED (cstr "auto")
        else if aeMode = cstr "shutter-prio" then
          copyShutter C (C.set m KEY_ISO_MODE (cstr "auto"))
        else if aeMode = cstr "manual" then
          C.set (copyShutter C m) KEY_ISO_MODE (cstr "ISO" ++ isoMode)
        else C.set (C.set m KEY_ISO_MODE (cstr "auto")) KEY_SHUTTER_SPEED (cstr "auto"))
  | _, _ => some m

/-- `camera_fixup_getparams`. -/
def cameraFixupGetparams (settings : CStr) : Option CStr :=
  let m := fixupCapability C (C.unflatten settings)
  let m := fixupVideoHdr C (fixupSceneMode C (fixupIsoModes C m))
  (fixupExposure C m).map C.flatten

/-- A shutter speed that is not automatic is passed on. -/
def setShutter : Option C.Params :=
  match C.get m KEY_SHUTTER_SPEED with
  | none => some m
  | some shutterSpeed =>
      if shutterSpeed ≠ cstr "auto" then
        some (C.set (C.set m KEY_SONY_SHUTTER_SPEED shutterSpeed) KEY_SONY_AE_MODE
          (cstr "shutter-prio"))
      else match C.get m KEY_SONY_AE_MODE_VALUES with
        -- `strstr` on NULL.
        | none => none
        | some aeModes =>
            some (if contains aeModes (cstr "auto") then C.set m KEY_SONY_AE_MODE (cstr "auto")
              else m)

/-- What is behind the first three bytes of a string. -/
def plusThree (s : CStr) : Option CStr := if 3 ≤ s.length then some (s.drop 3) else none

/-- The exposure mode for an ISO mode, after the one for the shutter speed. -/
def setIsoAeMode (isoMode aeModes : CStr) : Option C.Params :=
  if isoMode = cstr "auto" then
    if contains aeModes (cstr "auto") then match C.get m KEY_SONY_AE_MODE with
      | none => none
      | some aeMode =>
          some (if aeMode ≠ cstr "shutter-prio" then C.set m KEY_SONY_AE_MODE (cstr "auto")
            else m)
    else some m
  else if contains aeModes (cstr "iso-prio") then match C.get m KEY_SONY_AE_MODE with
    | none => none
    | some aeMode =>
        -- The shutter speed may have changed the mode just before.
        some (C.set m KEY_SONY_AE_MODE
          (if aeMode = cstr "shutter-prio" then cstr "manual" else cstr "iso-prio"))
  else some m

/-- An ISO mode that is not automatic is passed on. -/
def setIso : Option C.Params :=
  match C.get m KEY_ISO_MODE with
  | none => some m
  | some isoMode =>
      -- `isoMode + 3` leaves a shorter string.
      let stored := if isoMode ≠ cstr "auto" then
        (plusThree isoMode).map (C.set m KEY_SONY_ISO_MODE) else some m
      match stored with
      | none => none
      | some m => match C.get m KEY_SONY_AE_MODE_VALUES with
        | none => some m
        | some aeModes => setIsoAeMode C m isoMode aeModes

/-- HDR is a mode of the stabiliser, and otherwise the stabiliser is on. -/
def setSceneMode : C.Params :=
  match C.get m KEY_SCENE_MODE with
  | none => m
  | some sceneMode =>
      if sceneMode = cstr "hdr" then
        -- The vendor is not told of a scene mode that it does not have.
        C.set (C.set m KEY_SONY_IMAGE_STABILISER VALUE_SONY_STILL_HDR) KEY_SCENE_MODE
          SCENE_MODE_AUTO
      else C.set m KEY_SONY_IMAGE_STABILISER VALUE_SONY_ON

/-- Video HDR is passed on. -/
def setVideoHdr : C.Params :=
  match C.get m KEY_SONY_VIDEO_HDR, C.get m KEY_VIDEO_HDR with
  | some _, some hdr => C.set m KEY_SONY_VIDEO_HDR hdr
  | _, _ => m

/-- While recording, the video stabiliser takes the place of the other. -/
def setVideoStabiliser : C.Params :=
  if C.get m KEY_RECORDING_HINT = some TRUE then
    let value := match C.get m KEY_SONY_VIDEO_STABILISER_VALUES with
      | none => VALUE_SONY_ON
      | some values =>
          if contains values VALUE_SONY_INTELLIGENT_ACTIVE then VALUE_SONY_INTELLIGENT_ACTIVE
          else VALUE_SONY_ON
    C.set (C.set m KEY_SONY_VIDEO_STABILISER value) KEY_SONY_IMAGE_STABILISER VALUE_SONY_OFF
  else m

/-- `camera_fixup_setparams`. -/
def cameraFixupSetparams (settings : CStr) : Option CStr :=
  match setShutter C (C.unflatten settings) with
  | none => none
  | some m => match setIso C m with
    | none => none
    | some m => some (C.flatten (setVideoStabiliser C (setVideoHdr C (setSceneMode C m))))

end Fixup

end Camera

end Taoshan

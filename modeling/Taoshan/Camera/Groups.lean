import Taoshan.Camera.Exposure

/-!
# Groups of Keys

The two fix-up functions read and write some fifteen keys, and these fall into
groups that have nothing to do with each other: the scene mode with the two
stabilisers, video HDR, and the exposure. A group is a record here, with a field
for each key. What a function does to a group is a function on records, called
`tell` on the way to the application and `ask` on the way to the vendor.

The records say what the functions are for without a map around them. That the
functions do the same to the keys of a map is shown part by part, and for the
whole of each function by `getparams_told` and `setparams_asked`.

## Main definitions

* `SceneKeys`, `HdrKeys`, `ExposureKeys`: The groups.
* `GetRound`, `SetRound`: What the two functions do to all keys.

## Theorems

* `of_fixupExposure`, `of_setShutter`, `of_setIso`: The parts for the exposure.
* `getparams_told`, `setparams_asked`: The whole functions.
-/

namespace Taoshan

namespace Camera

open Text

/-- The scene mode, the stabiliser and the stabiliser for videos. -/
structure SceneKeys where
  sceneMode : Option CStr
  stabiliser : Option CStr
  videoStabiliser : Option CStr

namespace SceneKeys

def of (C : CameraParameters) (m : C.Params) : SceneKeys where
  sceneMode := C.get m KEY_SCENE_MODE
  stabiliser := C.get m KEY_SONY_IMAGE_STABILISER
  videoStabiliser := C.get m KEY_SONY_VIDEO_STABILISER

/-- The mode that the stabiliser for videos gets. -/
def videoValue (values : Option CStr) : CStr :=
  match values with
  | none => VALUE_SONY_ON
  | some values =>
      if contains values VALUE_SONY_INTELLIGENT_ACTIVE then VALUE_SONY_INTELLIGENT_ACTIVE
      else VALUE_SONY_ON

def tell (s : SceneKeys) : SceneKeys :=
  if s.stabiliser = some VALUE_SONY_STILL_HDR then { s with sceneMode := some (cstr "hdr") }
  else s

/-- The scene mode is a mode of the stabiliser. -/
def askMode (s : SceneKeys) : SceneKeys :=
  match s.sceneMode with
  | none => s
  | some sceneMode =>
      if sceneMode = cstr "hdr" then
        { s with stabiliser := some VALUE_SONY_STILL_HDR, sceneMode := some SCENE_MODE_AUTO }
      else { s with stabiliser := some VALUE_SONY_ON }

/-- While recording, the stabiliser for videos takes the place of the other. -/
def askVideo (hint values : Option CStr) (s : SceneKeys) : SceneKeys :=
  if hint = some TRUE then
    { s with videoStabiliser := some (videoValue values), stabiliser := some VALUE_SONY_OFF }
  else s

end SceneKeys

/-- Video HDR as the vendor has it and as the application is told. -/
structure HdrKeys where
  vendor : Option CStr
  vendorValues : Option CStr
  app : Option CStr
  appValues : Option CStr

namespace HdrKeys

def of (C : CameraParameters) (m : C.Params) : HdrKeys where
  vendor := C.get m KEY_SONY_VIDEO_HDR
  vendorValues := C.get m KEY_SONY_VIDEO_HDR_VALUES
  app := C.get m KEY_VIDEO_HDR
  appValues := C.get m KEY_VIDEO_HDR_VALUES

def tell (s : HdrKeys) : HdrKeys :=
  match s.vendor, s.vendorValues with
  | some hdr, some values => { s with app := some hdr, appValues := some values }
  | _, _ => s

def ask (s : HdrKeys) : HdrKeys :=
  match s.vendor, s.app with
  | some _, some hdr => { s with vendor := some hdr }
  | _, _ => s

end HdrKeys

/-- The exposure: the vendor's list of modes, its mode and the values it is for,
    and the application's settings. -/
structure ExposureKeys where
  modes : Option CStr
  mode : Option CStr
  vendorIso : Option CStr
  vendorShutter : Option CStr
  iso : Option CStr
  shutter : Option CStr

namespace ExposureKeys

def of (C : CameraParameters) (m : C.Params) : ExposureKeys where
  modes := C.get m KEY_SONY_AE_MODE_VALUES
  mode := C.get m KEY_SONY_AE_MODE
  vendorIso := C.get m KEY_SONY_ISO_MODE
  vendorShutter := C.get m KEY_SONY_SHUTTER_SPEED
  iso := C.get m KEY_ISO_MODE
  shutter := C.get m KEY_SHUTTER_SPEED

/-- The modes that fix the ISO value, and those that fix the shutter speed. -/
def FixesIso (mode : CStr) : Prop := mode = cstr "iso-prio" ∨ mode = cstr "manual"

def FixesShutter (mode : CStr) : Prop := mode = cstr "shutter-prio" ∨ mode = cstr "manual"

instance : DecidablePred FixesIso := fun mode =>
  inferInstanceAs (Decidable (mode = cstr "iso-prio" ∨ mode = cstr "manual"))

instance : DecidablePred FixesShutter := fun mode =>
  inferInstanceAs (Decidable (mode = cstr "shutter-prio" ∨ mode = cstr "manual"))

/-- What a mode fixes is the vendor's, and the rest is automatic. A shutter speed
    that the vendor does not have is left as the application has it. -/
def tell (e : ExposureKeys) : Option ExposureKeys :=
  match e.vendorIso, e.modes with
  | some iso, some _ => match e.mode with
    | none => none
    | some mode => some { e with
        iso := some (if FixesIso mode then cstr "ISO" ++ iso else cstr "auto")
        shutter := if FixesShutter mode then e.vendorShutter.or e.shutter
          else some (cstr "auto") }
  | _, _ => some e

def askShutter (e : ExposureKeys) : Option ExposureKeys :=
  match e.shutter with
  | none => some e
  | some shutterSpeed =>
      if shutterSpeed ≠ cstr "auto" then
        some { e with vendorShutter := some shutterSpeed, mode := some (cstr "shutter-prio") }
      else match e.modes with
        | none => none
        | some modes =>
            some (if contains modes (cstr "auto") then { e with mode := some (cstr "auto") }
              else e)

/-- The exposure mode for an ISO mode. -/
def askMode (e : ExposureKeys) (iso modes : CStr) : Option ExposureKeys :=
  if iso = cstr "auto" then
    if contains modes (cstr "auto") then match e.mode with
      | none => none
      | some mode =>
          some (if mode ≠ cstr "shutter-prio" then { e with mode := some (cstr "auto") } else e)
    else some e
  else if contains modes (cstr "iso-prio") then match e.mode with
    | none => none
    | some mode =>
        some { e with mode := some (if mode = cstr "shutter-prio" then cstr "manual"
          else cstr "iso-prio") }
  else some e

/-- The vendor's ISO value is the end of the application's. -/
def askIsoValue (e : ExposureKeys) (iso : CStr) : Option ExposureKeys :=
  if iso ≠ cstr "auto" then (plusThree iso).map fun value => { e with vendorIso := some value }
  else some e

def askIso (e : ExposureKeys) : Option ExposureKeys :=
  match e.iso with
  | none => some e
  | some iso => match e.askIsoValue iso with
    | none => none
    | some e => match e.modes with
      | none => some e
      | some modes => e.askMode iso modes

/-- The shutter speed goes before the ISO mode. -/
def ask (e : ExposureKeys) : Option ExposureKeys := e.askShutter.bind askIso

end ExposureKeys

section Parts

variable {C : CameraParameters} {m m' : C.Params}

/-- What writes other keys leaves a group as it is. -/
theorem Within.sceneKeys {keys : List CStr} (h : Within C keys m m')
    (hkeys : ∀ k ∈ [KEY_SCENE_MODE, KEY_SONY_IMAGE_STABILISER, KEY_SONY_VIDEO_STABILISER],
      k ∉ keys) : SceneKeys.of C m' = SceneKeys.of C m := by
  unfold SceneKeys.of
  rw [h.get _ (hkeys _ (by decide)), h.get _ (hkeys _ (by decide)), h.get _ (hkeys _ (by decide))]

theorem Within.hdrKeys {keys : List CStr} (h : Within C keys m m')
    (hkeys : ∀ k ∈ [KEY_SONY_VIDEO_HDR, KEY_SONY_VIDEO_HDR_VALUES, KEY_VIDEO_HDR,
      KEY_VIDEO_HDR_VALUES], k ∉ keys) : HdrKeys.of C m' = HdrKeys.of C m := by
  unfold HdrKeys.of
  rw [h.get _ (hkeys _ (by decide)), h.get _ (hkeys _ (by decide)), h.get _ (hkeys _ (by decide)),
    h.get _ (hkeys _ (by decide))]

theorem Within.exposureKeys {keys : List CStr} (h : Within C keys m m')
    (hkeys : ∀ k ∈ exposureKeys, k ∉ keys) : ExposureKeys.of C m' = ExposureKeys.of C m := by
  unfold ExposureKeys.of
  rw [h.get _ (hkeys _ (by decide)), h.get _ (hkeys _ (by decide)), h.get _ (hkeys _ (by decide)),
    h.get _ (hkeys _ (by decide)), h.get _ (hkeys _ (by decide)), h.get _ (hkeys _ (by decide))]

/-- What the functions write of the scene mode and the stabilisers is what the group
    says. -/
theorem of_fixupSceneMode (hC : C.Lawful) (m : C.Params) :
    SceneKeys.of C (fixupSceneMode C m) = (SceneKeys.of C m).tell := by
  unfold fixupSceneMode SceneKeys.tell SceneKeys.of
  by_cases h : C.get m KEY_SONY_IMAGE_STABILISER = some VALUE_SONY_STILL_HDR
  · rw [if_pos h, if_pos h, hC.get_set_self m (by decide) (by decide),
      hC.get_set_ne m _ (by decide), hC.get_set_ne m _ (by decide)]
  · rw [if_neg h, if_neg h]

theorem of_setSceneMode (hC : C.Lawful) (m : C.Params) :
    SceneKeys.of C (setSceneMode C m) = (SceneKeys.of C m).askMode := by
  unfold setSceneMode SceneKeys.askMode SceneKeys.of
  cases hmode : C.get m KEY_SCENE_MODE with
  | none => simp only [hmode]
  | some sceneMode =>
      by_cases h : sceneMode = cstr "hdr"
      · simp (disch := decide) only [h, if_true, hC.get_set_self, hC.get_set_ne]
      · simp (disch := decide) only [h, if_false, hC.get_set_self, hC.get_set_ne, hmode]

/-- The video stabiliser takes what the vendor can do, and the other is switched
    off. -/
theorem of_setVideoStabiliser (hC : C.Lawful) (m : C.Params) :
    SceneKeys.of C (setVideoStabiliser C m) = (SceneKeys.of C m).askVideo
      (C.get m KEY_RECORDING_HINT) (C.get m KEY_SONY_VIDEO_STABILISER_VALUES) := by
  -- Each of the three values can be written.
  have hvalue : Clean (SceneKeys.videoValue (C.get m KEY_SONY_VIDEO_STABILISER_VALUES)) := by
    unfold SceneKeys.videoValue
    split
    · decide
    · split
      · decide
      · decide
  have hset : setVideoStabiliser C m = if C.get m KEY_RECORDING_HINT = some TRUE then
      C.set (C.set m KEY_SONY_VIDEO_STABILISER
        (SceneKeys.videoValue (C.get m KEY_SONY_VIDEO_STABILISER_VALUES)))
        KEY_SONY_IMAGE_STABILISER VALUE_SONY_OFF else m := rfl
  unfold SceneKeys.askVideo SceneKeys.of
  rw [hset]
  by_cases h : C.get m KEY_RECORDING_HINT = some TRUE
  · rw [if_pos h, if_pos h, hC.get_set_self _ (by decide) (by decide),
      hC.get_set_ne _ _ (by decide), hC.get_set_ne _ _ (by decide),
      hC.get_set_ne _ _ (by decide), hC.get_set_self m (by decide) hvalue]
  · rw [if_neg h, if_neg h]

/-- The same of the two values for HDR, there and back. -/
theorem of_fixupVideoHdr (hC : C.Lawful) (hm : C.AllClean m) :
    HdrKeys.of C (fixupVideoHdr C m) = (HdrKeys.of C m).tell := by
  unfold fixupVideoHdr HdrKeys.tell HdrKeys.of
  cases hhdr : C.get m KEY_SONY_VIDEO_HDR with
  | none => simp only [hhdr]
  | some hdr => cases hvalues : C.get m KEY_SONY_VIDEO_HDR_VALUES with
    | none => simp only [hhdr, hvalues]
    | some values =>
        have hclean := (hm _ _ hhdr).2
        have hclean' := (hm _ _ hvalues).2
        simp (disch := first | decide | assumption) only [hC.get_set_self, hC.get_set_ne, hhdr,
          hvalues]

theorem of_setVideoHdr (hC : C.Lawful) (hm : C.AllClean m) :
    HdrKeys.of C (setVideoHdr C m) = (HdrKeys.of C m).ask := by
  unfold setVideoHdr HdrKeys.ask HdrKeys.of
  cases hvendor : C.get m KEY_SONY_VIDEO_HDR with
  | none => simp only [hvendor]
  | some vendor => cases happ : C.get m KEY_VIDEO_HDR with
    | none => simp only [hvendor, happ]
    | some hdr =>
        have hclean := (hm _ _ happ).2
        simp (disch := first | decide | assumption) only [hC.get_set_self, hC.get_set_ne, happ]

/-- The speed is copied if the vendor has one. -/
theorem of_copyShutter (hC : C.Lawful) (hm : C.AllClean m) :
    ExposureKeys.of C (copyShutter C m) = { ExposureKeys.of C m with
      shutter := (C.get m KEY_SONY_SHUTTER_SPEED).or (C.get m KEY_SHUTTER_SPEED) } := by
  unfold copyShutter ExposureKeys.of
  cases hshutter : C.get m KEY_SONY_SHUTTER_SPEED with
  | none => simp only [hshutter, Option.none_or]
  | some shutterSpeed =>
      have hclean := (hm _ _ hshutter).2
      simp (disch := first | decide | assumption) only [hC.get_set_self, hC.get_set_ne, hshutter,
        Option.some_or]

/-- One key of the exposure is set. -/
theorem of_setIsoMode (hC : C.Lawful) (m : C.Params) {v : CStr} (hv : Clean v) :
    ExposureKeys.of C (C.set m KEY_ISO_MODE v) = { ExposureKeys.of C m with iso := some v } := by
  unfold ExposureKeys.of
  simp (disch := first | decide | assumption) only [hC.get_set_self, hC.get_set_ne]

theorem of_setShutterSpeed (hC : C.Lawful) (m : C.Params) {v : CStr} (hv : Clean v) :
    ExposureKeys.of C (C.set m KEY_SHUTTER_SPEED v) =
      { ExposureKeys.of C m with shutter := some v } := by
  unfold ExposureKeys.of
  simp (disch := first | decide | assumption) only [hC.get_set_self, hC.get_set_ne]

theorem of_setAeMode (hC : C.Lawful) (m : C.Params) {v : CStr} (hv : Clean v) :
    ExposureKeys.of C (C.set m KEY_SONY_AE_MODE v) =
      { ExposureKeys.of C m with mode := some v } := by
  unfold ExposureKeys.of
  simp (disch := first | decide | assumption) only [hC.get_set_self, hC.get_set_ne]

theorem of_setSonyIso (hC : C.Lawful) (m : C.Params) {v : CStr} (hv : Clean v) :
    ExposureKeys.of C (C.set m KEY_SONY_ISO_MODE v) =
      { ExposureKeys.of C m with vendorIso := some v } := by
  unfold ExposureKeys.of
  simp (disch := first | decide | assumption) only [hC.get_set_self, hC.get_set_ne]

theorem of_setSonyShutter (hC : C.Lawful) (m : C.Params) {v : CStr} (hv : Clean v) :
    ExposureKeys.of C (C.set m KEY_SONY_SHUTTER_SPEED v) =
      { ExposureKeys.of C m with vendorShutter := some v } := by
  unfold ExposureKeys.of
  simp (disch := first | decide | assumption) only [hC.get_set_self, hC.get_set_ne]

/-- What is told of the exposure, and that it is told at all, follows from the six
    values of the group. -/
theorem of_fixupExposure (hC : C.Lawful) (hm : C.AllClean m) :
    (fixupExposure C m).map (ExposureKeys.of C) = (ExposureKeys.of C m).tell := by
  have hauto : Clean (cstr "auto") := by decide
  have hkeys : ExposureKeys.of C m = ⟨C.get m KEY_SONY_AE_MODE_VALUES, C.get m KEY_SONY_AE_MODE,
    C.get m KEY_SONY_ISO_MODE, C.get m KEY_SONY_SHUTTER_SPEED, C.get m KEY_ISO_MODE,
    C.get m KEY_SHUTTER_SPEED⟩ := rfl
  unfold fixupExposure ExposureKeys.tell
  cases hiso : C.get m KEY_SONY_ISO_MODE with
  | none => simp only [hkeys, hiso, Option.map_some]
  | some iso => cases hmodes : C.get m KEY_SONY_AE_MODE_VALUES with
    | none => simp only [hkeys, hiso, hmodes, Option.map_some]
    | some modes => cases hmode : C.get m KEY_SONY_AE_MODE with
      | none => simp only [hkeys, hiso, hmodes, hmode, Option.map_none]
      | some mode =>
          have hISO : Clean (cstr "ISO" ++ iso) := Clean.append (by decide) (hm _ _ hiso).2
          have hfields : ExposureKeys.of C m = ⟨some modes, some mode, some iso,
              C.get m KEY_SONY_SHUTTER_SPEED, C.get m KEY_ISO_MODE, C.get m KEY_SHUTTER_SPEED⟩ := by
            rw [hkeys, hiso, hmodes, hmode]
          rw [hfields]
          simp only [Option.map_some, Option.some.injEq]
          -- Each mode says which of the two halves it fixes.
          by_cases h₁ : mode = cstr "auto"
          · rw [if_pos h₁, if_neg (by rw [h₁]; decide), if_neg (by rw [h₁]; decide),
              of_setShutterSpeed hC _ hauto, of_setIsoMode hC _ hauto, hfields]
          · rw [if_neg h₁]
            by_cases h₂ : mode = cstr "iso-prio"
            · rw [if_pos h₂, if_pos (by rw [h₂]; decide), if_neg (by rw [h₂]; decide),
                of_setShutterSpeed hC _ hauto, of_setIsoMode hC _ hISO, hfields]
            · rw [if_neg h₂]
              by_cases h₃ : mode = cstr "shutter-prio"
              · rw [if_pos h₃, if_neg (by rw [h₃]; decide), if_pos (by rw [h₃]; decide),
                  of_copyShutter hC (CameraParameters.allClean_set hC hm (by decide) hauto),
                  of_setIsoMode hC _ hauto, hfields, hC.get_set_ne _ _ (by decide),
                  hC.get_set_ne _ _ (by decide)]
              · rw [if_neg h₃]
                by_cases h₄ : mode = cstr "manual"
                · rw [if_pos h₄, if_pos (by rw [h₄]; decide), if_pos (by rw [h₄]; decide),
                    of_setIsoMode hC _ hISO, of_copyShutter hC hm, hfields]
                · -- An unknown mode fixes nothing.
                  have hiso' : ¬ ExposureKeys.FixesIso mode := fun h => h.elim h₂ h₄
                  have hshutter' : ¬ ExposureKeys.FixesShutter mode := fun h => h.elim h₃ h₄
                  rw [if_neg h₄, if_neg hiso', if_neg hshutter', of_setShutterSpeed hC _ hauto,
                    of_setIsoMode hC _ hauto, hfields]

/-- What the speed asks of the vendor. -/
theorem of_setShutter (hC : C.Lawful) (hm : C.AllClean m) :
    (setShutter C m).map (ExposureKeys.of C) = (ExposureKeys.of C m).askShutter := by
  unfold setShutter ExposureKeys.askShutter
  cases hshutter : C.get m KEY_SHUTTER_SPEED with
  | none =>
      have hfield : (ExposureKeys.of C m).shutter = none := hshutter
      simp only [hfield, Option.map_some]
  | some shutterSpeed =>
      have hfield : (ExposureKeys.of C m).shutter = some shutterSpeed := hshutter
      simp only [hfield]
      by_cases hauto : shutterSpeed = cstr "auto"
      · rw [if_neg (not_not.mpr hauto), if_neg (not_not.mpr hauto)]
        cases hmodes : C.get m KEY_SONY_AE_MODE_VALUES with
        | none =>
            have hfield' : (ExposureKeys.of C m).modes = none := hmodes
            simp only [hfield', Option.map_none]
        | some modes =>
            have hfield' : (ExposureKeys.of C m).modes = some modes := hmodes
            simp only [hfield', Option.map_some, Option.some.injEq]
            split
            · rw [of_setAeMode hC m (by decide : Clean (cstr "auto"))]
              simp only [hfield, hfield']
            · rfl
      · have hprio : Clean (cstr "shutter-prio") := by decide
        rw [if_pos hauto, if_pos hauto, Option.map_some, of_setAeMode hC _ hprio,
          of_setSonyShutter hC m (hm _ _ hshutter).2]
        simp only [hfield]

/-- What an ISO value asks for in the list of exposure modes. -/
theorem of_setIsoAeMode (hC : C.Lawful) (isoMode modes : CStr) :
    (setIsoAeMode C m isoMode modes).map (ExposureKeys.of C) =
      (ExposureKeys.of C m).askMode isoMode modes := by
  unfold setIsoAeMode ExposureKeys.askMode
  cases hmode : C.get m KEY_SONY_AE_MODE with
  | none =>
      have hfield : (ExposureKeys.of C m).mode = none := hmode
      simp only [hfield]
      split
      · split
        · rfl
        · rfl
      · split
        · rfl
        · rfl
  | some mode =>
      have hfield : (ExposureKeys.of C m).mode = some mode := hmode
      simp only [hfield]
      split
      · split
        · rw [Option.map_some]
          split
          · rw [of_setAeMode hC m (by decide : Clean (cstr "auto"))]
          · rfl
        · rfl
      · split
        · rw [Option.map_some, of_setAeMode hC m]
          split
          · decide
          · decide
        · rfl

/-- What the ISO value asks of the vendor, the speed having been dealt with. -/
theorem of_setIso (hC : C.Lawful) (hm : C.AllClean m) :
    (setIso C m).map (ExposureKeys.of C) = (ExposureKeys.of C m).askIso := by
  unfold setIso ExposureKeys.askIso
  cases hiso : C.get m KEY_ISO_MODE with
  | none =>
      have hfield : (ExposureKeys.of C m).iso = none := hiso
      simp only [hfield, Option.map_some]
  | some isoMode =>
      have hfield : (ExposureKeys.of C m).iso = some isoMode := hiso
      simp only [hfield]
      have hrest : ∀ m₁ : C.Params, C.get m₁ KEY_SONY_AE_MODE_VALUES =
          (ExposureKeys.of C m₁).modes := fun _ => rfl
      -- The value is stored first, and the mode looked at in what that leaves.
      have hvalue : (if isoMode ≠ cstr "auto" then
            (plusThree isoMode).map (C.set m KEY_SONY_ISO_MODE) else some m).map
          (ExposureKeys.of C) = (ExposureKeys.of C m).askIsoValue isoMode := by
        unfold ExposureKeys.askIsoValue plusThree
        split
        · split
          · rw [Option.map_some, Option.map_some, Option.map_some,
              of_setSonyIso hC m (clean_drop (hm _ _ hiso).2 3)]
          · rfl
        · rfl
      rw [← hvalue]
      cases (if isoMode ≠ cstr "auto" then
        (plusThree isoMode).map (C.set m KEY_SONY_ISO_MODE) else some m) with
      | none => rfl
      | some m₁ =>
          simp only [Option.map_some, hrest]
          cases (ExposureKeys.of C m₁).modes with
          | none => rfl
          | some modes => exact of_setIsoAeMode hC isoMode modes

end Parts

section Rounds

/-- The list of scene modes that is told. -/
def sceneModesTold (values modes : Option CStr) : Option CStr :=
  match values with
  | none => modes
  | some values =>
      if contains values VALUE_SONY_STILL_HDR then
        some (modes.getD (cstr "(null)") ++ cstr ",hdr")
      else modes

/-- The list of ISO modes that is told. -/
def isoModesTold (list modes : Option CStr) : Option CStr :=
  match list with
  | none => modes
  | some list => some (isoModes list)

/-- The keys that are written on the way to the application, and to the vendor. -/
def toldKeys : List CStr :=
  [KEY_SUPPORTED_SCENE_MODES, KEY_SUPPORTED_ISO_MODES, KEY_SCENE_MODE, KEY_VIDEO_HDR,
    KEY_VIDEO_HDR_VALUES, KEY_ISO_MODE, KEY_SHUTTER_SPEED]

def askedKeys : List CStr :=
  [KEY_SONY_AE_MODE, KEY_SONY_ISO_MODE, KEY_SONY_SHUTTER_SPEED, KEY_SONY_IMAGE_STABILISER,
    KEY_SCENE_MODE, KEY_SONY_VIDEO_HDR, KEY_SONY_VIDEO_STABILISER]

/-- What `camera_fixup_getparams` makes of a map. -/
structure GetRound (C : CameraParameters) (m o : C.Params) : Prop where
  clean : C.AllClean o
  scene : SceneKeys.of C o = (SceneKeys.of C m).tell
  hdr : HdrKeys.of C o = (HdrKeys.of C m).tell
  exposure : (ExposureKeys.of C m).tell = some (ExposureKeys.of C o)
  sceneModes : C.get o KEY_SUPPORTED_SCENE_MODES =
    sceneModesTold (C.get m KEY_SONY_IMAGE_STABILISER_VALUES) (C.get m KEY_SUPPORTED_SCENE_MODES)
  isoModes : C.get o KEY_SUPPORTED_ISO_MODES =
    isoModesTold (C.get m KEY_SONY_ISO_AVAIL_MODES) (C.get m KEY_SUPPORTED_ISO_MODES)
  kept : ∀ k, k ∉ toldKeys → C.get o k = C.get m k

/-- What `camera_fixup_setparams` makes of a map. -/
structure SetRound (C : CameraParameters) (m o : C.Params) : Prop where
  clean : C.AllClean o
  scene : SceneKeys.of C o = (SceneKeys.of C m).askMode.askVideo (C.get m KEY_RECORDING_HINT)
    (C.get m KEY_SONY_VIDEO_STABILISER_VALUES)
  hdr : HdrKeys.of C o = (HdrKeys.of C m).ask
  exposure : (ExposureKeys.of C m).ask = some (ExposureKeys.of C o)
  kept : ∀ k, k ∉ askedKeys → C.get o k = C.get m k

variable {C : CameraParameters} {settings out : CStr}

/-- The two lists that are told. -/
theorem get_fixupCapability (hC : C.Lawful) {m : C.Params} (hm : C.AllClean m) :
    C.get (fixupCapability C m) KEY_SUPPORTED_SCENE_MODES =
      sceneModesTold (C.get m KEY_SONY_IMAGE_STABILISER_VALUES)
        (C.get m KEY_SUPPORTED_SCENE_MODES) := by
  unfold fixupCapability sceneModesTold
  cases C.get m KEY_SONY_IMAGE_STABILISER_VALUES with
  | none => rfl
  | some values =>
      dsimp only
      split
      · refine hC.get_set_self m (by decide) (Clean.append ?_ (by decide))
        cases hmodes : C.get m KEY_SUPPORTED_SCENE_MODES with
        | none => decide
        | some modes => exact (hm _ _ hmodes).2
      · rfl

theorem get_fixupIsoModes (hC : C.Lawful) {m : C.Params} (hm : C.AllClean m) :
    C.get (fixupIsoModes C m) KEY_SUPPORTED_ISO_MODES =
      isoModesTold (C.get m KEY_SONY_ISO_AVAIL_MODES) (C.get m KEY_SUPPORTED_ISO_MODES) := by
  unfold fixupIsoModes isoModesTold
  cases hlist : C.get m KEY_SONY_ISO_AVAIL_MODES with
  | none => rfl
  | some list => exact hC.get_set_self m (by decide) (clean_isoModes (hm _ _ hlist).2)

/-- A map that was flattened and unflattened has the same groups. -/
theorem within_unflatten (hC : C.Lawful) {m : C.Params} (hm : C.AllClean m) :
    Within C [] m (C.unflatten (C.flatten m)) :=
  ⟨fun k _ => hC.get_unflatten_flatten hm k, fun _ => CameraParameters.allClean_unflatten hC hm⟩

/-- A get tells the groups one by one, and keeps the other keys. -/
theorem getparams_told (hC : C.Lawful) (hm : C.AllClean (C.unflatten settings))
    (h : cameraFixupGetparams C settings = some out) :
    GetRound C (C.unflatten settings) (C.unflatten out) := by
  rcases getparams_cases h with ⟨m₅, hfixup, rfl⟩
  have h₁ := within_fixupCapability hC (C.unflatten settings)
  have h₂ := within_fixupIsoModes hC (fixupCapability C (C.unflatten settings))
  have h₃ := within_fixupSceneMode hC (fixupIsoModes C (fixupCapability C (C.unflatten settings)))
  have h₄ := within_fixupVideoHdr hC
    (fixupSceneMode C (fixupIsoModes C (fixupCapability C (C.unflatten settings))))
  have h₅ := within_fixupExposure hC hfixup
  have hexposure := of_fixupExposure hC (h₄.clean (h₃.clean (h₂.clean (h₁.clean hm))))
  have hhdr := of_fixupVideoHdr hC (h₃.clean (h₂.clean (h₁.clean hm)))
  have hscene := of_fixupSceneMode hC (fixupIsoModes C (fixupCapability C (C.unflatten settings)))
  have h₆ := within_unflatten hC (h₅.clean (h₄.clean (h₃.clean (h₂.clean (h₁.clean hm)))))
  refine ⟨?_, ?_, ?_, ?_, ?_, ?_, fun k hk => ?_⟩
  · exact h₆.clean (h₅.clean (h₄.clean (h₃.clean (h₂.clean (h₁.clean hm)))))
  · rw [h₆.sceneKeys (by decide), h₅.sceneKeys (by decide), h₄.sceneKeys (by decide), hscene,
      h₂.sceneKeys (by decide), h₁.sceneKeys (by decide)]
  · rw [h₆.hdrKeys (by decide), h₅.hdrKeys (by decide), hhdr, h₃.hdrKeys (by decide),
      h₂.hdrKeys (by decide), h₁.hdrKeys (by decide)]
  · rw [h₆.exposureKeys (by decide), ← h₁.exposureKeys (by decide), ← h₂.exposureKeys (by decide),
      ← h₃.exposureKeys (by decide), ← h₄.exposureKeys (by decide), ← hexposure, hfixup,
      Option.map_some]
  · rw [h₆.get _ (by decide), h₅.get _ (by decide), h₄.get _ (by decide), h₃.get _ (by decide),
      h₂.get _ (by decide), get_fixupCapability hC hm]
  · rw [h₆.get _ (by decide), h₅.get _ (by decide), h₄.get _ (by decide), h₃.get _ (by decide),
      get_fixupIsoModes hC (h₁.clean hm), h₁.get _ (by decide), h₁.get _ (by decide)]
  · have hall : Within C toldKeys (C.unflatten settings) (C.unflatten (C.flatten m₅)) :=
      (h₁.mono (by decide)).trans ((h₂.mono (by decide)).trans ((h₃.mono (by decide)).trans
        ((h₄.mono (by decide)).trans ((h₅.mono (by decide)).trans (h₆.mono (by decide))))))
    exact hall.get k hk

/-- The function comes to its end if the exposure can be told. -/
theorem getparams_isSome (hC : C.Lawful) (hm : C.AllClean (C.unflatten settings)) :
    (cameraFixupGetparams C settings).isSome =
      (ExposureKeys.of C (C.unflatten settings)).tell.isSome := by
  have h₁ := within_fixupCapability hC (C.unflatten settings)
  have h₂ := within_fixupIsoModes hC (fixupCapability C (C.unflatten settings))
  have h₃ := within_fixupSceneMode hC (fixupIsoModes C (fixupCapability C (C.unflatten settings)))
  have h₄ := within_fixupVideoHdr hC
    (fixupSceneMode C (fixupIsoModes C (fixupCapability C (C.unflatten settings))))
  have hexposure := of_fixupExposure hC (h₄.clean (h₃.clean (h₂.clean (h₁.clean hm))))
  unfold cameraFixupGetparams
  rw [← h₁.exposureKeys (by decide), ← h₂.exposureKeys (by decide), ← h₃.exposureKeys (by decide),
    ← h₄.exposureKeys (by decide), ← hexposure, Option.isSome_map, Option.isSome_map]

/-- And a set asks for them one by one. -/
theorem setparams_asked (hC : C.Lawful) (hm : C.AllClean (C.unflatten settings))
    (h : cameraFixupSetparams C settings = some out) :
    SetRound C (C.unflatten settings) (C.unflatten out) := by
  rcases setparams_cases h with ⟨m₁, m₂, hshutter, hiso, rfl⟩
  have h₁ := within_setShutter hC hshutter
  have h₂ := within_setIso hC hiso
  have h₃ := within_setSceneMode hC m₂
  have h₄ := within_setVideoHdr hC (setSceneMode C m₂)
  have h₅ := within_setVideoStabiliser hC (setVideoHdr C (setSceneMode C m₂))
  have hclean := h₃.clean (h₂.clean (h₁.clean hm))
  have hscene := of_setSceneMode hC m₂
  have hhdr := of_setVideoHdr hC hclean
  have hvideo := of_setVideoStabiliser hC (setVideoHdr C (setSceneMode C m₂))
  have hexposure₁ := of_setShutter hC hm
  have hexposure₂ := of_setIso hC (h₁.clean hm)
  have h₆ := within_unflatten hC (h₅.clean (h₄.clean hclean))
  refine ⟨h₆.clean (h₅.clean (h₄.clean hclean)), ?_, ?_, ?_, fun k hk => ?_⟩
  · have hconst : ∀ k, k ∉ askedKeys → C.get (setVideoHdr C (setSceneMode C m₂)) k =
        C.get (C.unflatten settings) k := by
      have hall : Within C askedKeys (C.unflatten settings) (setVideoHdr C (setSceneMode C m₂)) :=
        (h₁.mono (by decide)).trans ((h₂.mono (by decide)).trans ((h₃.mono (by decide)).trans
          (h₄.mono (by decide))))
      exact hall.get
    rw [h₆.sceneKeys (by decide), hvideo, hconst _ (by decide), hconst _ (by decide),
      h₄.sceneKeys (by decide), hscene, h₂.sceneKeys (by decide), h₁.sceneKeys (by decide)]
  · rw [h₆.hdrKeys (by decide), h₅.hdrKeys (by decide), hhdr, h₃.hdrKeys (by decide),
      h₂.hdrKeys (by decide), h₁.hdrKeys (by decide)]
  · rw [hshutter, Option.map_some] at hexposure₁
    rw [hiso, Option.map_some] at hexposure₂
    unfold ExposureKeys.ask
    rw [← hexposure₁, Option.bind_some, ← hexposure₂, h₆.exposureKeys (by decide),
      h₅.exposureKeys (by decide), h₄.exposureKeys (by decide), h₃.exposureKeys (by decide)]
  · have hall : Within C askedKeys (C.unflatten settings)
        (C.unflatten (C.flatten (setVideoStabiliser C (setVideoHdr C (setSceneMode C m₂))))) :=
      (h₁.mono (by decide)).trans ((h₂.mono (by decide)).trans ((h₃.mono (by decide)).trans
        ((h₄.mono (by decide)).trans ((h₅.mono (by decide)).trans (h₆.mono (by decide))))))
    exact hall.get k hk

/-- It comes to its end if the exposure can be asked for. -/
theorem setparams_isSome (hC : C.Lawful) (hm : C.AllClean (C.unflatten settings)) :
    (cameraFixupSetparams C settings).isSome =
      (ExposureKeys.of C (C.unflatten settings)).ask.isSome := by
  have hexposure₁ := of_setShutter hC hm
  unfold ExposureKeys.ask
  rw [← hexposure₁]
  unfold cameraFixupSetparams
  cases hshutter : setShutter C (C.unflatten settings) with
  | none => rfl
  | some m₁ =>
      have hexposure₂ := of_setIso hC ((within_setShutter hC hshutter).clean hm)
      rw [Option.map_some, Option.bind_some, ← hexposure₂, Option.isSome_map]
      cases hiso : setIso C m₁ with
      | none => simp only [hiso, Option.isSome_none]
      | some m₂ => simp only [hiso, Option.isSome_some]

end Rounds

end Camera

end Taoshan

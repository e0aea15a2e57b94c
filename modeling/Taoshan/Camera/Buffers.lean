import Taoshan.Camera.IsoList

/-!
# Writes into Buffers

`camera_fixup_getparams` builds strings in an array of 512 bytes, in one of 255
bytes, and twice in memory that was allocated for the purpose. None of the writes
is checked, so what the vendor's strings are decides about them.

Here the function is written down once more, with writes that are checked
(`cameraFixupGetparamsWrite`). It ends with a `Fault` where a byte would lie
outside of its buffer, and where a NULL string is compared. As long as nothing is
outside, it does what `cameraFixupGetparams` does, and `InBounds` says when that
is: the list of scene modes and the list of ISO modes must not be too long, and
the exposure mode must not be one that fixes the ISO value, since the memory
allocated for that has no room for the byte that ends it (`isoValWrite_eq_none`).

## Main definitions

* `Fault`: What goes wrong.
* `cameraFixupGetparamsWrite`: The function with checked writes.
* `AllStrings`: What a map returns are strings.
* `InBounds`: The vendor's strings that fit.

## Theorems

* `fixupCapabilityWrite_spec`, `fixupIsoModesWrite_spec`,
  `fixupExposureWrite_spec`: The parts that write into buffers.
* `getparamsWrite_spec`: Either the writes are inside and the function is the
  other one, or one of them is outside.
* `getparams_inBounds_iff`: When they are inside.
-/

namespace Taoshan

namespace Camera

open Text

/-- A byte is written outside of its buffer, or NULL is compared. -/
inductive Fault
  | overrun
  | null
  deriving DecidableEq, Repr

/-- `none` is NULL that was compared. -/
def orNull {α : Type} : Option α → Except Fault α
  | none => .error .null
  | some a => .ok a

section Fixup

variable (C : CameraParameters) (m : C.Params)

/-- `camera_fixup_capability`. What is in the array before does not matter. -/
def fixupCapabilityWrite : Except Fault C.Params :=
  match C.get m KEY_SONY_IMAGE_STABILISER_VALUES with
  | none => .ok m
  | some supportedIsModes =>
      if contains supportedIsModes VALUE_SONY_STILL_HDR then
        let supportedSceneModes := (C.get m KEY_SUPPORTED_SCENE_MODES).getD (cstr "(null)")
        match (Buffer.zeros 512).sprintf (supportedSceneModes ++ cstr ",hdr") with
        | none => .error .overrun
        | some buffer => .ok (C.set m KEY_SUPPORTED_SCENE_MODES buffer.text)
      else .ok m

/-- The ISO modes are those of the vendor's list. -/
def fixupIsoModesWrite : Except Fault C.Params :=
  match C.get m KEY_SONY_ISO_AVAIL_MODES with
  | none => .ok m
  | some isoModeList => match isoModesWrite isoModeList with
    | none => .error .overrun
    | some buffer => .ok (C.set m KEY_SUPPORTED_ISO_MODES buffer)

/-- `isoVal`, in memory that was allocated for it. -/
def isoValWrite (isoMode : CStr) : Option CStr :=
  ((Buffer.zeros (3 + isoMode.length)).sprintf (cstr "ISO" ++ isoMode)).map Buffer.text

/-- The ISO mode is set to `isoVal`. -/
def setIsoVal (isoMode : CStr) : Except Fault C.Params :=
  match isoValWrite isoMode with
  | none => .error .overrun
  | some isoVal => .ok (C.set m KEY_ISO_MODE isoVal)

/-- What the vendor's exposure mode means for ISO and shutter speed. -/
def fixupExposureWrite : Except Fault C.Params :=
  match C.get m KEY_SONY_ISO_MODE, C.get m KEY_SONY_AE_MODE_VALUES with
  | some isoMode, some _ => match C.get m KEY_SONY_AE_MODE with
    | none => .error .null
    | some aeMode =>
        if aeMode = cstr "auto" then
          .ok (C.set (C.set m KEY_ISO_MODE (cstr "auto")) KEY_SHUTTER_SPEED (cstr "auto"))
        else if aeMode = cstr "iso-prio" then
          (setIsoVal C m isoMode).map fun m => C.set m KEY_SHUTTER_SPEED (cstr "auto")
        else if aeMode = cstr "shutter-prio" then
          .ok (copyShutter C (C.set m KEY_ISO_MODE (cstr "auto")))
        else if aeMode = cstr "manual" then setIsoVal C (copyShutter C m) isoMode
        else .ok (C.set (C.set m KEY_ISO_MODE (cstr "auto")) KEY_SHUTTER_SPEED (cstr "auto"))
  | _, _ => .ok m

/-- `camera_fixup_getparams`. -/
def cameraFixupGetparamsWrite (settings : CStr) : Except Fault CStr :=
  match fixupCapabilityWrite C (C.unflatten settings) with
  | .error f => .error f
  | .ok m => match fixupIsoModesWrite C m with
    | .error f => .error f
    | .ok m => (fixupExposureWrite C (fixupVideoHdr C (fixupSceneMode C m))).map C.flatten

/-- What a map returns are strings. -/
def AllStrings : Prop := ∀ k v, C.get m k = some v → (0 : UInt8) ∉ v

/-- The list of scene modes has room for `,hdr`. -/
def SceneModesFit : Prop :=
  ∀ values, C.get m KEY_SONY_IMAGE_STABILISER_VALUES = some values →
    contains values VALUE_SONY_STILL_HDR = true →
    ((C.get m KEY_SUPPORTED_SCENE_MODES).getD (cstr "(null)")).length + 4 < 512

/-- The list of ISO modes has room for `ISO` and `auto`. -/
def IsoModesFit : Prop := ∀ L, C.get m KEY_SONY_ISO_AVAIL_MODES = some L → IsoFits L

/-- The exposure mode does not fix the ISO value. -/
def NoIsoVal : Prop :=
  (C.get m KEY_SONY_ISO_MODE).isSome = true → (C.get m KEY_SONY_AE_MODE_VALUES).isSome = true →
    ∀ mode : AeMode, C.get m KEY_SONY_AE_MODE = some mode.text → mode.fixesIso = false

/-- The vendor's strings that fit. -/
structure InBounds : Prop where
  sceneModes : SceneModesFit C m
  isoModes : IsoModesFit C m
  isoVal : NoIsoVal C m

end Fixup

section Parts

variable {C : CameraParameters} {m : C.Params}

theorem fixupCapabilityWrite_spec (hm : AllStrings C m) :
    (fixupCapabilityWrite C m = .ok (fixupCapability C m) ∧ SceneModesFit C m) ∨
    (fixupCapabilityWrite C m = .error .overrun ∧ ¬ SceneModesFit C m) := by
  unfold fixupCapabilityWrite fixupCapability SceneModesFit
  cases hvalues : C.get m KEY_SONY_IMAGE_STABILISER_VALUES with
  | none => exact Or.inl ⟨rfl, fun _ h => absurd h.symm (Option.some_ne_none _)⟩
  | some values =>
      by_cases hcontains : contains values VALUE_SONY_STILL_HDR = true
      · -- What `sprintf` writes ends where the string does.
        have hmodes : (0 : UInt8) ∉ (C.get m KEY_SUPPORTED_SCENE_MODES).getD (cstr "(null)") := by
          cases hget : C.get m KEY_SUPPORTED_SCENE_MODES with
          | none => decide
          | some modes => exact hm _ _ hget
        have hstring : (0 : UInt8) ∉
            (C.get m KEY_SUPPORTED_SCENE_MODES).getD (cstr "(null)") ++ cstr ",hdr" := by
          intro hmem
          rcases List.mem_append.mp hmem with hmem | hmem
          · exact hmodes hmem
          · exact absurd hmem (by decide)
        have hfour : (cstr ",hdr").length = 4 := rfl
        have hiff := Buffer.sprintf_isSome_iff (Buffer.zeros 512)
          ((C.get m KEY_SUPPORTED_SCENE_MODES).getD (cstr "(null)") ++ cstr ",hdr")
        rw [List.length_append, hfour] at hiff
        simp only [hcontains, if_true]
        cases hwrite : (Buffer.zeros 512).sprintf
            ((C.get m KEY_SUPPORTED_SCENE_MODES).getD (cstr "(null)") ++ cstr ",hdr") with
        | none =>
            rw [hwrite] at hiff
            exact Or.inr ⟨rfl, fun h => absurd (hiff.mpr (h _ rfl hcontains)) Bool.false_ne_true⟩
        | some buffer =>
            rw [hwrite] at hiff
            simp only [Buffer.sprintf_text hstring hwrite]
            exact Or.inl ⟨trivial, fun _ _ _ => hiff.mp rfl⟩
      · simp only [hcontains, Bool.false_eq_true, if_false]
        refine Or.inl ⟨trivial, fun v hv hc => ?_⟩
        cases hv
        exact absurd hc hcontains

theorem fixupIsoModesWrite_spec
    (hm : ∀ L, C.get m KEY_SONY_ISO_AVAIL_MODES = some L → (0 : UInt8) ∉ L) :
    (fixupIsoModesWrite C m = .ok (fixupIsoModes C m) ∧ IsoModesFit C m) ∨
    (fixupIsoModesWrite C m = .error .overrun ∧ ¬ IsoModesFit C m) := by
  unfold fixupIsoModesWrite fixupIsoModes IsoModesFit
  cases hlist : C.get m KEY_SONY_ISO_AVAIL_MODES with
  | none => exact Or.inl ⟨rfl, fun _ h => absurd h.symm (Option.some_ne_none _)⟩
  | some L =>
      rcases isoModesWrite_spec (hm _ hlist) with ⟨hsome, hfits⟩ | ⟨hnone, hfits⟩
      · simp only [hsome, isoModes_eq (hm _ hlist) hfits]
        refine Or.inl ⟨trivial, fun L' hL' => ?_⟩
        cases hL'
        exact hfits
      · simp only [hnone]
        exact Or.inr ⟨trivial, fun h => hfits (h L rfl)⟩

/-- There is no room for the byte that ends the string. -/
theorem isoValWrite_eq_none (isoMode : CStr) : isoValWrite isoMode = none := by
  have hthree : (cstr "ISO").length = 3 := rfl
  have hnone : (Buffer.zeros (3 + isoMode.length)).sprintf (cstr "ISO" ++ isoMode) = none := by
    refine Buffer.write_eq_none _ ?_
    rw [List.length_append, List.length_append, List.length_singleton, hthree]
    omega
  unfold isoValWrite
  rw [hnone, Option.map_none]

theorem setIsoVal_eq (m : C.Params) (isoMode : CStr) :
    setIsoVal C m isoMode = .error .overrun := by
  unfold setIsoVal
  rw [isoValWrite_eq_none]

/-- A mode that fixes the ISO value is one of the two with an `isoVal`. -/
theorem fixesIso_iff {aeMode : CStr} :
    (∀ mode : AeMode, aeMode = mode.text → mode.fixesIso = false) ↔
      aeMode ≠ cstr "iso-prio" ∧ aeMode ≠ cstr "manual" := by
  constructor
  · intro h
    exact ⟨fun heq => absurd (h .isoPrio heq) (by decide),
      fun heq => absurd (h .manual heq) (by decide)⟩
  · rintro ⟨hprio, hmanual⟩ mode rfl
    cases mode with
    | auto => rfl
    | isoPrio => exact absurd rfl hprio
    | shutterPrio => rfl
    | manual => exact absurd rfl hmanual

theorem fixupExposureWrite_spec :
    (fixupExposureWrite C m = orNull (fixupExposure C m) ∧ NoIsoVal C m) ∨
    (fixupExposureWrite C m = .error .overrun ∧ ¬ NoIsoVal C m) := by
  unfold fixupExposureWrite fixupExposure NoIsoVal
  cases C.get m KEY_SONY_ISO_MODE with
  | none => exact Or.inl ⟨rfl, fun h => absurd h Bool.false_ne_true⟩
  | some isoMode => cases C.get m KEY_SONY_AE_MODE_VALUES with
    | none => exact Or.inl ⟨rfl, fun _ h => absurd h Bool.false_ne_true⟩
    | some aeModes => cases C.get m KEY_SONY_AE_MODE with
      | none => exact Or.inl ⟨rfl, fun _ _ _ h => absurd h.symm (Option.some_ne_none _)⟩
      | some aeMode =>
          simp only [Option.some.injEq, setIsoVal_eq, fixesIso_iff, Option.isSome_some,
            forall_const, orNull]
          -- Both modes with an ISO value write it, and neither has room for it.
          by_cases hprio : aeMode = cstr "iso-prio"
          · rw [if_neg (by rw [hprio]; decide), if_pos hprio]
            exact Or.inr ⟨rfl, fun h => h.1 hprio⟩
          · by_cases hmanual : aeMode = cstr "manual"
            · rw [if_neg (by rw [hmanual]; decide), if_neg hprio,
                if_neg (by rw [hmanual]; decide), if_pos hmanual]
              exact Or.inr ⟨rfl, fun h => h.2 hmanual⟩
            · refine Or.inl ⟨?_, hprio, hmanual⟩
              rw [if_neg hprio, if_neg hprio, if_neg hmanual, if_neg hmanual]
              split
              · rfl
              · split
                · rfl
                · rfl

end Parts

section Whole

variable {C : CameraParameters}

/-- Either the writes are inside and the function is the other one, or one of
    them is outside. -/
theorem getparamsWrite_spec (hC : C.Lawful) {settings : CStr}
    (hm : AllStrings C (C.unflatten settings)) :
    (cameraFixupGetparamsWrite C settings = orNull (cameraFixupGetparams C settings) ∧
      InBounds C (C.unflatten settings)) ∨
    (cameraFixupGetparamsWrite C settings = .error .overrun ∧
      ¬ InBounds C (C.unflatten settings)) := by
  have hcapability := within_fixupCapability hC (C.unflatten settings)
  have hlist : C.get (fixupCapability C (C.unflatten settings)) KEY_SONY_ISO_AVAIL_MODES =
      C.get (C.unflatten settings) KEY_SONY_ISO_AVAIL_MODES :=
    hcapability.get _ (by decide)
  have hothers := others_getparams hC (C.unflatten settings)
  -- The steps in front leave the keys alone that the last one reads.
  have hisoVal : NoIsoVal C (fixupVideoHdr C (fixupSceneMode C (fixupIsoModes C
      (fixupCapability C (C.unflatten settings))))) ↔ NoIsoVal C (C.unflatten settings) := by
    unfold NoIsoVal
    rw [hothers.get _ (by decide), hothers.get _ (by decide), hothers.get _ (by decide)]
  have hmodes : IsoModesFit C (fixupCapability C (C.unflatten settings)) ↔
      IsoModesFit C (C.unflatten settings) := by
    unfold IsoModesFit
    rw [hlist]
  unfold cameraFixupGetparamsWrite cameraFixupGetparams
  rcases fixupCapabilityWrite_spec hm with ⟨hfirst, hscene⟩ | ⟨hfirst, hscene⟩
  · rcases fixupIsoModesWrite_spec (m := fixupCapability C (C.unflatten settings))
      (fun L hL => hm _ L (hlist ▸ hL)) with ⟨hsecond, hiso⟩ | ⟨hsecond, hiso⟩
    · rcases fixupExposureWrite_spec (C := C) (m := fixupVideoHdr C (fixupSceneMode C
        (fixupIsoModes C (fixupCapability C (C.unflatten settings))))) with
        ⟨hthird, hval⟩ | ⟨hthird, hval⟩
      · refine Or.inl ⟨?_, hscene, hmodes.mp hiso, hisoVal.mp hval⟩
        simp only [hfirst, hsecond, hthird]
        cases fixupExposure C (fixupVideoHdr C (fixupSceneMode C (fixupIsoModes C
          (fixupCapability C (C.unflatten settings))))) with
        | none => rfl
        | some m' => rfl
      · refine Or.inr ⟨?_, fun h => hval (hisoVal.mpr h.isoVal)⟩
        simp only [hfirst, hsecond, hthird]
        rfl
    · refine Or.inr ⟨?_, fun h => hiso (hmodes.mpr h.isoModes)⟩
      simp only [hfirst, hsecond]
  · refine Or.inr ⟨?_, fun h => hscene h.sceneModes⟩
    simp only [hfirst]

/-- All writes are inside exactly if the vendor's strings fit, and then the
    function does what it does in memory without bounds. -/
theorem getparams_inBounds_iff (C : CameraParameters) (hC : C.Lawful) (settings : CStr)
    (hm : AllStrings C (C.unflatten settings)) :
    (cameraFixupGetparamsWrite C settings ≠ .error .overrun ↔ InBounds C (C.unflatten settings)) ∧
    (InBounds C (C.unflatten settings) →
      cameraFixupGetparamsWrite C settings = orNull (cameraFixupGetparams C settings)) := by
  rcases getparamsWrite_spec hC hm with ⟨hsame, hbounds⟩ | ⟨hfault, hbounds⟩
  · refine ⟨⟨fun _ => hbounds, fun _ hfault => ?_⟩, fun _ => hsame⟩
    -- A NULL string is another fault.
    rw [hsame] at hfault
    cases hget : cameraFixupGetparams C settings with
    | none =>
        rw [hget] at hfault
        cases hfault
    | some out =>
        rw [hget] at hfault
        cases hfault
  · exact ⟨⟨fun h => absurd hfault h, fun h => absurd h hbounds⟩, fun h => absurd h hbounds⟩

theorem stringMap_allStrings {m : stringMap.Params}
    (h : ∀ kv ∈ m.1, (0 : UInt8) ∉ kv.2) : AllStrings stringMap m :=
  fun _ _ hget => h _ (Flatten.mem_of_get hget)

theorem getparams_inBounds_iff_string :
    (cameraFixupGetparamsWrite stringMap listSettings ≠ .error .overrun ↔
      InBounds stringMap (stringMap.unflatten listSettings)) ∧
    (InBounds stringMap (stringMap.unflatten listSettings) →
      cameraFixupGetparamsWrite stringMap listSettings =
        orNull (cameraFixupGetparams stringMap listSettings)) :=
  getparams_inBounds_iff stringMap stringMap_lawful listSettings
    (stringMap_allStrings (by rw [listSettings_entries]; decide))

/-- The ISO value of a mode that fixes it, and a list of sixty-three empty
    elements. -/
theorem getparams_overrun :
    (AllStrings stringMap (stringMap.unflatten vendorSettings) ∧
      cameraFixupGetparamsWrite stringMap vendorSettings = .error .overrun) ∧
    isoModesWrite (List.replicate 62 COMMA) = none := by
  refine ⟨⟨stringMap_allStrings (by rw [vendorSettings_entries]; decide), by decide +kernel⟩, ?_⟩
  decide +kernel

end Whole

end Camera

end Taoshan

import Taoshan.Camera.Exposure

/-!
# Any Set of Keys

The fix-up functions take a map with whatever keys the application or the
vendor put into it. Some of the keys are read only if another one is there, and
the two need not come together.

`GetSafe` is what a map has to have for `camera_fixup_getparams`: a vendor that
names its exposure modes and has an ISO value also has a mode. `SetSafe` is the
same for `camera_fixup_setparams`. There the mode is asked for after the shutter
speed was passed on, which may have put one there (`ModeKnown`), and only if the
list of modes has the one that is wanted (`WantedMode`).

On all other maps the functions go wrong (`fixup_safe_iff`): a NULL string gets
to `strcmp` or `strstr`, or an ISO mode of one or two bytes is read behind its
end.

## Main definitions

* `GetSafe`, `SetSafe`: What the maps have to have.
* `ModeKnown`: There is an exposure mode once the shutter speed was passed on.
* `WantedMode`: The mode an ISO mode asks for.

## Theorems

* `fixupExposure_isSome_iff`: The exposure of the vendor can be told.
* `setShutter_isSome_iff`, `setIso_isSome_iff`: The settings can be passed on.
* `fixup_safe_iff`: The two functions.
-/

namespace Taoshan

namespace Camera

open Text

section Safe

variable (C : CameraParameters) (m : C.Params)

/-- An exposure mode is there wherever it is compared. -/
def GetSafe : Prop :=
  (C.get m KEY_SONY_ISO_MODE).isSome = true → (C.get m KEY_SONY_AE_MODE_VALUES).isSome = true →
    (C.get m KEY_SONY_AE_MODE).isSome = true

/-- An automatic shutter speed is looked up in the list of modes. -/
def ShutterSafe : Prop :=
  C.get m KEY_SHUTTER_SPEED = some (cstr "auto") →
    (C.get m KEY_SONY_AE_MODE_VALUES).isSome = true

/-- The shutter speed puts an exposure mode into the map, or there is one. -/
def ModeKnown : Prop :=
  (C.get m KEY_SONY_AE_MODE).isSome = true ∨
    ∃ shutterSpeed, C.get m KEY_SHUTTER_SPEED = some shutterSpeed ∧
      (shutterSpeed = cstr "auto" → ∃ aeModes, C.get m KEY_SONY_AE_MODE_VALUES = some aeModes ∧
        contains aeModes (cstr "auto") = true)

/-- The mode that an ISO mode asks for. -/
def WantedMode (isoMode : CStr) : CStr :=
  if isoMode = cstr "auto" then cstr "auto" else cstr "iso-prio"

/-- An ISO mode that is not automatic has something behind `ISO`. -/
def LongIso : Prop :=
  ∀ isoMode, C.get m KEY_ISO_MODE = some isoMode → isoMode ≠ cstr "auto" → 3 ≤ isoMode.length

/-- What an ISO mode asks for is in the list of modes. -/
def ModeAsked : Prop :=
  ∃ isoMode aeModes, C.get m KEY_ISO_MODE = some isoMode ∧
    C.get m KEY_SONY_AE_MODE_VALUES = some aeModes ∧
    contains aeModes (WantedMode isoMode) = true

/-- The keys that are read without a look are there. -/
structure SetSafe : Prop where
  shutter : ShutterSafe C m
  iso : LongIso C m
  mode : ModeAsked C m → ModeKnown C m

end Safe

section Steps

variable {C : CameraParameters} {m m₁ : C.Params}

/-- A get comes to its end if and only if the mode is there where it is compared. -/
theorem fixupExposure_isSome_iff : (fixupExposure C m).isSome = true ↔ GetSafe C m := by
  unfold fixupExposure GetSafe
  cases C.get m KEY_SONY_ISO_MODE with
  | none => exact ⟨fun _ h => absurd h (by decide), fun _ => rfl⟩
  | some isoMode => cases C.get m KEY_SONY_AE_MODE_VALUES with
    | none => exact ⟨fun _ _ h => absurd h (by decide), fun _ => rfl⟩
    | some aeModes => cases C.get m KEY_SONY_AE_MODE with
      | none => exact ⟨fun h => absurd h Bool.false_ne_true, fun h => h rfl rfl⟩
      | some aeMode => exact ⟨fun _ _ _ => rfl, fun _ => rfl⟩

/-- And a set, up to the shutter speed, if the list of modes is there where it is
    searched. -/
theorem setShutter_isSome_iff : (setShutter C m).isSome = true ↔ ShutterSafe C m := by
  unfold setShutter ShutterSafe
  cases C.get m KEY_SHUTTER_SPEED with
  | none => exact ⟨fun _ h => absurd h.symm (Option.some_ne_none _), fun _ => rfl⟩
  | some shutterSpeed =>
      by_cases hauto : shutterSpeed = cstr "auto"
      · simp only [hauto, ne_eq, not_true_eq_false, if_false]
        cases C.get m KEY_SONY_AE_MODE_VALUES with
        | none => exact ⟨fun h => absurd h Bool.false_ne_true, fun h => h trivial⟩
        | some aeModes => exact ⟨fun _ _ => rfl, fun _ => rfl⟩
      · simp only [ne_eq, hauto, not_false_eq_true, if_true]
        exact ⟨fun _ h => absurd (Option.some.inj h) hauto, fun _ => rfl⟩

/-- What the shutter speed leaves behind. -/
structure ShutterSet (C : CameraParameters) (m m₁ : C.Params) : Prop where
  mode : (C.get m₁ KEY_SONY_AE_MODE).isSome = true ↔ ModeKnown C m
  kept : ∀ k, k ≠ KEY_SONY_AE_MODE → k ≠ KEY_SONY_SHUTTER_SPEED → C.get m₁ k = C.get m k

/-- What the shutter speed leaves for the ISO value to find. -/
theorem setShutter_shutterSet (hC : C.Lawful) (h : setShutter C m = some m₁) :
    ShutterSet C m m₁ := by
  unfold setShutter at h
  cases hshutter : C.get m KEY_SHUTTER_SPEED with
  | none =>
      rw [hshutter] at h
      cases h
      refine ⟨⟨Or.inl, ?_⟩, fun _ _ _ => rfl⟩
      rintro (hmode | ⟨shutterSpeed, hget, _⟩)
      · exact hmode
      · rw [hshutter] at hget
        cases hget
  | some shutterSpeed =>
      rw [hshutter] at h
      by_cases hauto : shutterSpeed = cstr "auto"
      · simp only [hauto, ne_eq, not_true_eq_false, if_false] at h
        cases hmodes : C.get m KEY_SONY_AE_MODE_VALUES with
        | none =>
            rw [hmodes] at h
            cases h
        | some aeModes =>
            rw [hmodes] at h
            simp only [Option.some.injEq] at h
            -- The mode is set if the list has it, and otherwise it is what it was.
            by_cases hcontains : contains aeModes (cstr "auto") = true
            · rw [if_pos hcontains] at h
              subst h
              have hset : C.get (C.set m KEY_SONY_AE_MODE (cstr "auto")) KEY_SONY_AE_MODE =
                  some (cstr "auto") :=
                hC.get_set_self m (by decide) (by decide)
              refine ⟨⟨fun _ => ?_, fun _ => ?_⟩, fun k hk _ => hC.get_set_ne m _ hk⟩
              · exact Or.inr ⟨shutterSpeed, hshutter, fun _ => ⟨aeModes, hmodes, hcontains⟩⟩
              · rw [hset]
                rfl
            · rw [if_neg hcontains] at h
              subst h
              refine ⟨⟨Or.inl, ?_⟩, fun _ _ _ => rfl⟩
              rintro (hmode | ⟨s, hget, hlist⟩)
              · exact hmode
              · -- The list would have the mode in it.
                rw [hshutter, Option.some.injEq] at hget
                rcases hlist (hget ▸ hauto) with ⟨aeModes', hmodes', hcontains'⟩
                rw [hmodes, Option.some.injEq] at hmodes'
                rw [← hmodes'] at hcontains'
                exact absurd hcontains' hcontains
      · -- A speed that is not automatic sets the mode in any case.
        simp only [ne_eq, hauto, not_false_eq_true, if_true, Option.some.injEq] at h
        subst h
        have hset : C.get (C.set (C.set m KEY_SONY_SHUTTER_SPEED shutterSpeed) KEY_SONY_AE_MODE
            (cstr "shutter-prio")) KEY_SONY_AE_MODE = some (cstr "shutter-prio") :=
          hC.get_set_self _ (by decide) (by decide)
        refine ⟨⟨fun _ => ?_, fun _ => ?_⟩, fun k hk hk' => ?_⟩
        · exact Or.inr ⟨shutterSpeed, hshutter, fun heq => absurd heq hauto⟩
        · rw [hset]
          rfl
        · rw [hC.get_set_ne _ _ hk, hC.get_set_ne _ _ hk']

/-- The mode is looked at if it is the wanted one of the list. -/
theorem setIsoAeMode_isSome_iff (isoMode aeModes : CStr) :
    (setIsoAeMode C m isoMode aeModes).isSome = true ↔
      (contains aeModes (WantedMode isoMode) = true →
        (C.get m KEY_SONY_AE_MODE).isSome = true) := by
  unfold setIsoAeMode WantedMode
  by_cases hauto : isoMode = cstr "auto"
  · rw [if_pos hauto, if_pos hauto]
    by_cases hcontains : contains aeModes (cstr "auto") = true
    · rw [if_pos hcontains]
      cases C.get m KEY_SONY_AE_MODE with
      | none => exact ⟨fun h => absurd h Bool.false_ne_true, fun h => h hcontains⟩
      | some aeMode => exact ⟨fun _ _ => rfl, fun _ => rfl⟩
    · rw [if_neg hcontains]
      exact ⟨fun _ h => absurd h hcontains, fun _ => rfl⟩
  · rw [if_neg hauto, if_neg hauto]
    by_cases hcontains : contains aeModes (cstr "iso-prio") = true
    · rw [if_pos hcontains]
      cases C.get m KEY_SONY_AE_MODE with
      | none => exact ⟨fun h => absurd h Bool.false_ne_true, fun h => h hcontains⟩
      | some aeMode => exact ⟨fun _ _ => rfl, fun _ => rfl⟩
    · rw [if_neg hcontains]
      exact ⟨fun _ h => absurd h hcontains, fun _ => rfl⟩

/-- The three characters that are skipped are there. -/
theorem longIso_iff {isoMode : CStr} (hiso : C.get m KEY_ISO_MODE = some isoMode) :
    LongIso C m ↔ (isoMode ≠ cstr "auto" → 3 ≤ isoMode.length) := by
  unfold LongIso
  rw [hiso]
  exact ⟨fun h => h isoMode rfl, fun h s hs => Option.some.inj hs ▸ h⟩

theorem modeAsked_iff {isoMode aeModes : CStr} (hiso : C.get m KEY_ISO_MODE = some isoMode)
    (hmodes : C.get m KEY_SONY_AE_MODE_VALUES = some aeModes) :
    ModeAsked C m ↔ contains aeModes (WantedMode isoMode) = true := by
  unfold ModeAsked
  rw [hiso, hmodes]
  constructor
  · rintro ⟨iso, modes, hsame, hsame', hcontains⟩
    cases hsame
    cases hsame'
    exact hcontains
  · exact fun hcontains => ⟨isoMode, aeModes, rfl, rfl, hcontains⟩

theorem not_modeAsked (hmodes : C.get m KEY_SONY_AE_MODE_VALUES = none) : ¬ ModeAsked C m := by
  rintro ⟨_, _, _, hsome, _⟩
  rw [hmodes] at hsome
  cases hsome

/-- The ISO mode is long enough, and a mode is there if it is asked for. -/
theorem setIso_isSome_iff (hC : C.Lawful) : (setIso C m).isSome = true ↔
    LongIso C m ∧ (ModeAsked C m → (C.get m KEY_SONY_AE_MODE).isSome = true) := by
  unfold setIso
  cases hiso : C.get m KEY_ISO_MODE with
  | none =>
      refine ⟨fun _ => ⟨fun _ h => ?_, fun ⟨_, _, h, _⟩ => ?_⟩, fun _ => rfl⟩
      · rw [hiso] at h
        cases h
      · rw [hiso] at h
        cases h
  | some isoMode =>
      rw [longIso_iff hiso]
      by_cases hauto : isoMode = cstr "auto"
      · simp only [hauto, ne_eq, not_true_eq_false, if_false, false_implies, true_and]
        cases hmodes : C.get m KEY_SONY_AE_MODE_VALUES with
        | none => exact ⟨fun _ h => absurd h (not_modeAsked hmodes), fun _ => rfl⟩
        | some aeModes =>
            rw [modeAsked_iff hiso hmodes, hauto]
            exact setIsoAeMode_isSome_iff _ _
      · simp only [ne_eq, hauto, not_false_eq_true, if_true, plusThree, forall_const]
        by_cases hlong : 3 ≤ isoMode.length
        · -- What is stored for the ISO value is not looked at again.
          have hne : C.get (C.set m KEY_SONY_ISO_MODE (isoMode.drop 3)) KEY_SONY_AE_MODE_VALUES =
              C.get m KEY_SONY_AE_MODE_VALUES :=
            hC.get_set_ne m _ (by decide)
          simp only [hlong, if_true, Option.map_some, hne, true_and]
          cases hmodes : C.get m KEY_SONY_AE_MODE_VALUES with
          | none => exact ⟨fun _ h => absurd h (not_modeAsked hmodes), fun _ => rfl⟩
          | some aeModes =>
              rw [modeAsked_iff hiso hmodes, ← hC.get_set_ne m (isoMode.drop 3)
                (by decide : KEY_SONY_AE_MODE ≠ KEY_SONY_ISO_MODE)]
              exact setIsoAeMode_isSome_iff _ _
        · simp only [hlong, if_false, Option.map_none]
          exact ⟨fun h => absurd h Bool.false_ne_true, fun h => absurd h.1 not_false⟩

end Steps

section Safety

variable {C : CameraParameters}

/-- The whole of a get has no other way to fail. -/
theorem getparams_isSome_iff (hC : C.Lawful) (settings : CStr) :
    (cameraFixupGetparams C settings).isSome = true ↔ GetSafe C (C.unflatten settings) := by
  have hothers := others_getparams hC (C.unflatten settings)
  unfold cameraFixupGetparams
  rw [Option.isSome_map, fixupExposure_isSome_iff]
  unfold GetSafe
  rw [hothers.get _ (by decide), hothers.get _ (by decide), hothers.get _ (by decide)]

/-- Nor has the whole of a set. -/
theorem setparams_isSome_iff (hC : C.Lawful) (settings : CStr) :
    (cameraFixupSetparams C settings).isSome = true ↔ SetSafe C (C.unflatten settings) := by
  have hshutter := setShutter_isSome_iff (C := C) (m := C.unflatten settings)
  unfold cameraFixupSetparams
  cases hset : setShutter C (C.unflatten settings) with
  | none =>
      rw [hset] at hshutter
      exact ⟨fun h => absurd h Bool.false_ne_true,
        fun h => absurd (hshutter.mpr h.shutter) Bool.false_ne_true⟩
  | some m₁ =>
      rw [hset] at hshutter
      have hafter := setShutter_shutterSet hC hset
      have hiso := setIso_isSome_iff (m := m₁) hC
      -- The ISO mode and the list of modes are as they were.
      unfold LongIso ModeAsked at hiso
      rw [hafter.mode, hafter.kept KEY_ISO_MODE (by decide) (by decide),
        hafter.kept KEY_SONY_AE_MODE_VALUES (by decide) (by decide)] at hiso
      have hsafe : SetSafe C (C.unflatten settings) ↔ (setIso C m₁).isSome = true := by
        rw [hiso]
        exact ⟨fun h => ⟨h.iso, h.mode⟩, fun h => ⟨hshutter.mp rfl, h.1, h.2⟩⟩
      rw [hsafe]
      cases hset₂ : setIso C m₁ with
      | none => simp only [hset₂, Option.isSome_none]
      | some m₂ => simp only [hset₂, Option.isSome_some]

/-- The fix-up functions read nothing that is not there exactly on the maps
    that have the keys they need. -/
theorem fixup_safe_iff (C : CameraParameters) (hC : C.Lawful) (settings : CStr) :
    ((cameraFixupGetparams C settings).isSome = true ↔ GetSafe C (C.unflatten settings)) ∧
    ((cameraFixupSetparams C settings).isSome = true ↔ SetSafe C (C.unflatten settings)) :=
  ⟨getparams_isSome_iff hC settings, setparams_isSome_iff hC settings⟩

theorem fixup_safe_iff_string :
    ((cameraFixupGetparams stringMap vendorSettings).isSome = true ↔
      GetSafe stringMap (stringMap.unflatten vendorSettings)) ∧
    ((cameraFixupSetparams stringMap vendorSettings).isSome = true ↔
      SetSafe stringMap (stringMap.unflatten vendorSettings)) :=
  fixup_safe_iff stringMap stringMap_lawful vendorSettings

/-- An automatic shutter speed without a list of modes, an ISO mode of one
    byte, and an ISO value of the vendor's without a mode. -/
theorem fixup_not_safe :
    cameraFixupSetparams stringMap (cstr "shutter-speed=auto") = none ∧
    cameraFixupSetparams stringMap (cstr "iso=1") = none ∧
    cameraFixupGetparams stringMap (cstr "sony-iso=100;sony-ae-mode-values=auto") = none :=
  ⟨by decide +kernel, by decide +kernel, by decide +kernel⟩

end Safety

end Camera

end Taoshan

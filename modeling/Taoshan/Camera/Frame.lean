import Taoshan.Camera.Fixup

/-!
# What the Fix-Up Writes

Each part of the two fix-up functions writes one or two keys and leaves the
others alone. `Within` says that of a part, with the keys as a list, and that
no mark gets into the map.

## Main definitions

* `appKeys`, `vendorKeys`: The keys of the exposure that are written.
* `Within`: Only the keys of a list are written.

## Theorems

* `clean_isoModes`: No mark gets into the list of ISO modes.
* `within_fixupCapability`, `within_fixupIsoModes`, `within_fixupSceneMode`,
  `within_fixupVideoHdr`, `within_fixupExposure`: What is written on the way to
  the application.
* `within_setShutter`, `within_setIso`, `within_setSceneMode`,
  `within_setVideoHdr`, `within_setVideoStabiliser`: What is written on the way
  to the vendor.
* `getparams_cases`, `setparams_cases`: The parts one behind the other.
-/

namespace Taoshan

namespace Camera

open Text

/-- The keys of the application's settings, and those of the vendor's. -/
def appKeys : List CStr := [KEY_ISO_MODE, KEY_SHUTTER_SPEED]
def vendorKeys : List CStr := [KEY_SONY_AE_MODE, KEY_SONY_ISO_MODE, KEY_SONY_SHUTTER_SPEED]

/-- Only the keys of a list are written, and the map stays clean. -/
structure Within (C : CameraParameters) (keys : List CStr) (m m' : C.Params) : Prop where
  get : ∀ k, k ∉ keys → C.get m' k = C.get m k
  clean : C.AllClean m → C.AllClean m'

section Rules

variable {C : CameraParameters} {keys : List CStr} {m m' m'' : C.Params}

theorem Within.refl (keys : List CStr) (m : C.Params) : Within C keys m m := ⟨fun _ _ => rfl, id⟩

/-- What writes keys of a list, and again, writes keys of that list. -/
theorem Within.trans (h : Within C keys m m') (h' : Within C keys m' m'') : Within C keys m m'' :=
  ⟨fun k hk => (h'.get k hk).trans (h.get k hk), fun hm => h'.clean (h.clean hm)⟩

theorem Within.mono {keys' : List CStr} (h : Within C keys m m') (hsub : keys ⊆ keys') :
    Within C keys' m m' :=
  ⟨fun k hk => h.get k (fun hmem => hk (hsub hmem)), h.clean⟩

/-- Setting a key is writing it, and leaves the map clean if the value is. -/
theorem within_set (hC : C.Lawful) (m : C.Params) {k v : CStr} (hk : k ∈ keys) (hclean : Clean k)
    (hv : C.AllClean m → Clean v) : Within C keys m (C.set m k v) := by
  refine ⟨fun x hx => hC.get_set_ne m v (fun heq => hx (heq ▸ hk)), fun hm => ?_⟩
  exact CameraParameters.allClean_set hC hm hclean (hv hm)

end Rules

section Clean

theorem clean_take {s : CStr} (h : Clean s) (n : Nat) : Clean (s.take n) :=
  fun b hb => h b (List.mem_of_mem_take hb)

theorem clean_drop {s : CStr} (h : Clean s) (n : Nat) : Clean (s.drop n) :=
  fun b hb => h b (List.mem_of_mem_drop hb)

/-- A byte stored in a string that may grow, and a string appended to it, bring in
    no mark that was not there. -/
theorem clean_store {mem : List UInt8} {b : UInt8} (hmem : Clean mem) (hb : Clean [b]) (i : Nat) :
    Clean (store mem i b) := by
  intro c hc
  rcases List.mem_or_eq_of_mem_set hc with hold | rfl
  · rcases List.mem_append.mp hold with hmem' | hzero
    · exact hmem c hmem'
    · rw [List.eq_of_mem_replicate hzero]
      decide
  · exact hb c List.mem_cons_self

theorem clean_strcat {mem s : CStr} (hmem : Clean mem) (hs : Clean s) : Clean (strcat mem s) := by
  have hnul : Clean [0] := by decide
  exact (((clean_take hmem _).append hs).append hnul).append (clean_drop hmem _)

/-- No mark gets into the list of ISO modes. -/
theorem clean_isoModes {s : CStr} (h : Clean s) : Clean (isoModes s) := by
  have hloop : ∀ (s : CStr) (b : IsoBuffer), Clean s → Clean b.buffer →
      Clean (s.foldl isoModeStep b).buffer := by
    intro s
    -- Over the vendor's list; a byte of it or `,ISO` is put in at each turn.
    induction s with
    | nil => exact fun _ _ hb => hb
    | cons c s ih =>
        intro b hs hb
        have hc : Clean [c] := fun x hx => by
          rw [List.mem_singleton.mp hx]
          exact hs c List.mem_cons_self
        refine ih _ (fun x hx => hs x (List.mem_cons_of_mem _ hx)) ?_
        unfold isoModeStep
        split
        · exact clean_store hb hc _
        · exact clean_strcat hb (by decide)
  have hstart : Clean (cstr "ISO" ++ List.replicate 252 0) := by
    refine Clean.append (by decide) (fun b hb => ?_)
    rw [List.eq_of_mem_replicate hb]
    decide
  have hend := clean_strcat (hloop s ⟨_, 3⟩ h hstart) (by decide : Clean (cstr ",auto"))
  exact fun b hb => hend b ((List.takeWhile_prefix _).subset hb)

end Clean

section Get

variable {C : CameraParameters}

/-- `camera_fixup_capability` writes the list of scene modes. What it appends to an
    absent list is behind the `(null)` that is printed for it. -/
theorem within_fixupCapability (hC : C.Lawful) (m : C.Params) :
    Within C [KEY_SUPPORTED_SCENE_MODES] m (fixupCapability C m) := by
  unfold fixupCapability
  split
  · exact .refl _ m
  · split
    · refine within_set hC m (by decide) (by decide) (fun hm => ?_)
      refine Clean.append ?_ (by decide)
      cases hmodes : C.get m KEY_SUPPORTED_SCENE_MODES with
      | none => decide
      | some modes => exact (hm _ _ hmodes).2
    · exact .refl _ m

/-- The list of ISO modes is made from that of the vendor. -/
theorem within_fixupIsoModes (hC : C.Lawful) (m : C.Params) :
    Within C [KEY_SUPPORTED_ISO_MODES] m (fixupIsoModes C m) := by
  unfold fixupIsoModes
  split
  · exact .refl _ m
  · next modes hmodes =>
      exact within_set hC m (by decide) (by decide) (fun hm => clean_isoModes (hm _ _ hmodes).2)

/-- The scene mode is the only thing that the stabiliser can change. -/
theorem within_fixupSceneMode (hC : C.Lawful) (m : C.Params) :
    Within C [KEY_SCENE_MODE] m (fixupSceneMode C m) := by
  unfold fixupSceneMode
  split
  · exact within_set hC m (by decide) (by decide) (fun _ => by decide)
  · exact .refl _ m

/-- Two values are copied from the vendor. -/
theorem within_fixupVideoHdr (hC : C.Lawful) (m : C.Params) :
    Within C [KEY_VIDEO_HDR, KEY_VIDEO_HDR_VALUES] m (fixupVideoHdr C m) := by
  unfold fixupVideoHdr
  split
  · next hdr values hhdr hvalues =>
      -- Both values are read before the first of them is set.
      have hfirst : Within C [KEY_VIDEO_HDR, KEY_VIDEO_HDR_VALUES] m
          (C.set m KEY_VIDEO_HDR_VALUES values) :=
        within_set hC m (by decide) (by decide) (fun hm => (hm _ _ hvalues).2)
      refine ⟨fun k hk => ?_, fun hm => ?_⟩
      · have hne : k ≠ KEY_VIDEO_HDR := fun heq => hk (heq ▸ List.mem_cons_self)
        rw [hC.get_set_ne _ _ hne, hfirst.get k hk]
      · exact CameraParameters.allClean_set hC (hfirst.clean hm) (by decide) (hm _ _ hhdr).2
  · exact .refl _ m

theorem within_copyShutter (hC : C.Lawful) (m : C.Params) :
    Within C appKeys m (copyShutter C m) := by
  unfold copyShutter
  split
  · exact .refl _ m
  · next shutterSpeed hshutter =>
      exact within_set hC m (by decide) (by decide) (fun hm => (hm _ _ hshutter).2)

/-- Whatever the exposure mode is, the ISO value and the speed of the application
    are all that is written. -/
theorem within_fixupExposure (hC : C.Lawful) {m m' : C.Params}
    (h : fixupExposure C m = some m') : Within C appKeys m m' := by
  have hauto : ∀ m : C.Params, Within C appKeys m (C.set m KEY_ISO_MODE (cstr "auto")) :=
    fun m => within_set hC m (by decide) (by decide) (fun _ => by decide)
  have htimed : ∀ m : C.Params, Within C appKeys m (C.set m KEY_SHUTTER_SPEED (cstr "auto")) :=
    fun m => within_set hC m (by decide) (by decide) (fun _ => by decide)
  unfold fixupExposure at h
  split at h
  · next iso modes hiso hmodes =>
      have hISO : C.AllClean m → Clean (cstr "ISO" ++ iso) := fun hm =>
        Clean.append (by decide) (hm _ _ hiso).2
      split at h
      · cases h
      · next aeMode hmode =>
          cases h
          split
          · exact (hauto m).trans (htimed _)
          · split
            · have hfirst : Within C appKeys m (C.set m KEY_ISO_MODE (cstr "ISO" ++ iso)) :=
                within_set hC m (by decide) (by decide) hISO
              exact hfirst.trans (htimed _)
            · split
              · exact (hauto m).trans (within_copyShutter hC _)
              · split
                · -- The value is the one that was read before the speed was copied.
                  have hfirst := within_copyShutter hC m
                  refine ⟨fun k hk => ?_, fun hm => ?_⟩
                  · have hne : k ≠ KEY_ISO_MODE := fun heq => hk (heq ▸ List.mem_cons_self)
                    rw [hC.get_set_ne _ _ hne, hfirst.get k hk]
                  · exact CameraParameters.allClean_set hC (hfirst.clean hm) (by decide) (hISO hm)
                · exact (hauto m).trans (htimed _)
  · cases h
    exact .refl _ _

/-- What is done to a map on its way to the application. -/
theorem getparams_cases {settings out : CStr} (h : cameraFixupGetparams C settings = some out) :
    ∃ m', fixupExposure C (fixupVideoHdr C (fixupSceneMode C (fixupIsoModes C
      (fixupCapability C (C.unflatten settings))))) = some m' ∧ out = C.flatten m' := by
  rcases Option.map_eq_some_iff.mp h with ⟨m', hfixup, rfl⟩
  exact ⟨m', hfixup, rfl⟩

end Get

section Set

variable {C : CameraParameters} {m m' : C.Params}

/-- On the way back, a speed goes with an exposure mode. -/
theorem within_setShutter (hC : C.Lawful) (h : setShutter C m = some m') :
    Within C [KEY_SONY_AE_MODE, KEY_SONY_SHUTTER_SPEED] m m' := by
  unfold setShutter at h
  split at h
  · cases h
    exact .refl _ _
  · next shutterSpeed hshutter =>
      split at h
      · cases h
        have hfirst : Within C [KEY_SONY_AE_MODE, KEY_SONY_SHUTTER_SPEED] m
            (C.set m KEY_SONY_SHUTTER_SPEED shutterSpeed) :=
          within_set hC m (by decide) (by decide) (fun hm => (hm _ _ hshutter).2)
        exact hfirst.trans (within_set hC _ (by decide) (by decide) (fun _ => by decide))
      · split at h
        · cases h
        · cases h
          split
          · exact within_set hC m (by decide) (by decide) (fun _ => by decide)
          · exact .refl _ _

/-- An ISO value may ask for another exposure mode. -/
theorem within_setIsoAeMode (hC : C.Lawful) {isoMode aeModes : CStr}
    (h : setIsoAeMode C m isoMode aeModes = some m') : Within C [KEY_SONY_AE_MODE] m m' := by
  unfold setIsoAeMode at h
  split at h
  · split at h
    · split at h
      · cases h
      · cases h
        split
        · exact within_set hC m (by decide) (by decide) (fun _ => by decide)
        · exact .refl _ _
    · cases h
      exact .refl _ _
  · split at h
    · split at h
      · cases h
      · cases h
        refine within_set hC m (by decide) (by decide) (fun _ => ?_)
        split
        · decide
        · decide
    · cases h
      exact .refl _ _

/-- The vendor's ISO value, if one is set, is the end of the application's. -/
theorem within_setIso (hC : C.Lawful) (h : setIso C m = some m') :
    Within C [KEY_SONY_AE_MODE, KEY_SONY_ISO_MODE] m m' := by
  unfold setIso at h
  split at h
  · cases h
    exact .refl _ _
  · next isoMode hiso =>
      dsimp only at h
      split at h
      · cases h
      · next m₁ hstored =>
          have hfirst : Within C [KEY_SONY_AE_MODE, KEY_SONY_ISO_MODE] m m₁ := by
            split at hstored
            · unfold plusThree at hstored
              split at hstored
              · cases hstored
                exact within_set hC m (by decide) (by decide)
                  (fun hm => clean_drop (hm _ _ hiso).2 3)
              · cases hstored
            · cases hstored
              exact .refl _ _
          split at h
          · cases h
            exact hfirst
          · exact hfirst.trans ((within_setIsoAeMode hC h).mono (by decide))

/-- A scene mode is told to the stabiliser, and HDR is not kept as one. -/
theorem within_setSceneMode (hC : C.Lawful) (m : C.Params) :
    Within C [KEY_SONY_IMAGE_STABILISER, KEY_SCENE_MODE] m (setSceneMode C m) := by
  unfold setSceneMode
  split
  · exact .refl _ m
  · split
    · have hfirst : Within C [KEY_SONY_IMAGE_STABILISER, KEY_SCENE_MODE] m
          (C.set m KEY_SONY_IMAGE_STABILISER VALUE_SONY_STILL_HDR) :=
        within_set hC m (by decide) (by decide) (fun _ => by decide)
      exact hfirst.trans (within_set hC _ (by decide) (by decide) (fun _ => by decide))
    · exact within_set hC m (by decide) (by decide) (fun _ => by decide)

theorem within_setVideoHdr (hC : C.Lawful) (m : C.Params) :
    Within C [KEY_SONY_VIDEO_HDR] m (setVideoHdr C m) := by
  unfold setVideoHdr
  split
  · next hdr _ hhdr =>
      exact within_set hC m (by decide) (by decide) (fun hm => (hm _ _ hhdr).2)
  · exact .refl _ m

/-- While a video is recorded, both stabilisers are set. -/
theorem within_setVideoStabiliser (hC : C.Lawful) (m : C.Params) :
    Within C [KEY_SONY_VIDEO_STABILISER, KEY_SONY_IMAGE_STABILISER] m
      (setVideoStabiliser C m) := by
  unfold setVideoStabiliser
  split
  · refine Within.trans (within_set hC m (by decide) (by decide) (fun _ => ?_))
      (within_set hC _ (by decide) (by decide) (fun _ => by decide))
    split
    · decide
    · split
      · decide
      · decide
  · exact .refl _ m

/-- What is done to a map on its way to the vendor. -/
theorem setparams_cases {settings asked : CStr}
    (h : cameraFixupSetparams C settings = some asked) :
    ∃ m₁ m₂, setShutter C (C.unflatten settings) = some m₁ ∧ setIso C m₁ = some m₂ ∧
      asked = C.flatten (setVideoStabiliser C (setVideoHdr C (setSceneMode C m₂))) := by
  unfold cameraFixupSetparams at h
  cases hshutter : setShutter C (C.unflatten settings) with
  | none =>
      rw [hshutter] at h
      cases h
  | some m₁ => cases hiso : setIso C m₁ with
    | none =>
        simp only [hshutter, hiso, reduceCtorEq] at h
    | some m₂ =>
        simp only [hshutter, hiso, Option.some.injEq] at h
        exact ⟨m₁, m₂, rfl, hiso, h.symm⟩

end Set

end Camera

end Taoshan

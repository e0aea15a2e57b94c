import Taoshan.Camera.IsoList
import Taoshan.Camera.Stability

/-!
# Cycles of Get and Set

An application that reads the parameters and writes them back unchanged should
be told the same the next time. The vendor's camera stores the text that it is
given and gives it back, so a cycle is `camera_get_parameters` and
`camera_set_parameters` one behind the other on that text.

A map on which one cycle changes nothing is `Settled`, and stays as it is for any
number of cycles (`settled_cycle`, `settled_run`). What the vendor has to begin
with, so that the first thing the application is told is such a map, is
`StableMap`: group by group, with the list of scene modes as the one that grows
whenever the stabiliser can do HDR.

## Main definitions

* `vendorText`, `toldText`: The texts after any number of cycles.
* `StableTold`: The application is told the same each time.
* `StableMap`: The vendor's maps for which that is so.
* `Settled`: A map on which a cycle changes nothing.

## Theorems

* `settled_cycle`, `settled_run`: One cycle, and any number of them.
* `told_stable_iff`: The maps for which it is so, and no others.
-/

namespace Taoshan

namespace Camera

open Text

section Cycle

variable (C : CameraParameters)

/-- `camera_get_parameters`, of what the vendor stores. -/
def cameraGetParameters (vendor : CStr) : Option CStr := cameraFixupGetparams C vendor

/-- `camera_set_parameters`: what the vendor stores. -/
def cameraSetParameters (params : CStr) : Option CStr := cameraFixupSetparams C params

/-- What the vendor stores after a number of cycles that change nothing. -/
def vendorText (initial : CStr) : Nat → Option CStr
  | 0 => some initial
  | n + 1 => (vendorText initial n).bind fun vendor =>
      (cameraGetParameters C vendor).bind (cameraSetParameters C)

/-- What the application is told after them. -/
def toldText (initial : CStr) (n : Nat) : Option CStr :=
  (vendorText C initial n).bind (cameraGetParameters C)

/-- The same entries. -/
def Same (m m' : C.Params) : Prop := ∀ k, C.get m k = C.get m' k

/-- How often HDR is in the list of scene modes. -/
def hdrCount (m : C.Params) : Nat :=
  (((C.get m KEY_SUPPORTED_SCENE_MODES).getD []).splitOn COMMA).count (cstr "hdr")

/-- The application is told the same each time, telling it again what it was told
    changes nothing, and HDR is not in the list more often than at first. -/
structure StableTold (initial out : CStr) : Prop where
  same : ∀ n, ∃ out', toldText C initial n = some out' ∧
    Same C (C.unflatten out') (C.unflatten out)
  again : ∃ out', cameraFixupGetparams C out = some out' ∧
    Same C (C.unflatten out') (C.unflatten out)
  hdr : ∀ n out', toldText C initial n = some out' →
    hdrCount C (C.unflatten out') ≤ hdrCount C (C.unflatten out)

/-- The stabiliser has no mode for HDR, so no scene mode is added. -/
def NoStillHdr (m : C.Params) : Prop :=
  ∀ values, C.get m KEY_SONY_IMAGE_STABILISER_VALUES = some values →
    contains values VALUE_SONY_STILL_HDR = false

/-- The vendor's maps that are told the same each time. That is about what is told:
    the buffers go on behind their ends here, and the maps of which no write leaves
    them are those of `InBounds`. -/
structure StableMap (m : C.Params) : Prop where
  sceneModes : NoStillHdr C m
  scene : (SceneKeys.of C m).Stable (C.get m KEY_RECORDING_HINT)
    (C.get m KEY_SONY_VIDEO_STABILISER_VALUES)
  hdr : (HdrKeys.of C m).Stable
  exposure : (ExposureKeys.of C m).Stable

/-- A map on which a cycle changes nothing. -/
structure Settled (m : C.Params) : Prop where
  sceneModes : NoStillHdr C m
  isoModes : isoModesTold (C.get m KEY_SONY_ISO_AVAIL_MODES) (C.get m KEY_SUPPORTED_ISO_MODES) =
    C.get m KEY_SUPPORTED_ISO_MODES
  scene : ((SceneKeys.of C m).askMode.askVideo (C.get m KEY_RECORDING_HINT)
    (C.get m KEY_SONY_VIDEO_STABILISER_VALUES)).tell = SceneKeys.of C m
  hdr : (HdrKeys.of C m).ask.tell = HdrKeys.of C m
  exposure : (ExposureKeys.of C m).ask.bind ExposureKeys.tell = some (ExposureKeys.of C m)

end Cycle

section Groups

variable {C : CameraParameters} {m m' : C.Params}

/-- The keys of the groups, and the rest. -/
theorem same_of_groups (hscene : SceneKeys.of C m = SceneKeys.of C m')
    (hhdr : HdrKeys.of C m = HdrKeys.of C m')
    (hexposure : ExposureKeys.of C m = ExposureKeys.of C m')
    (hmodes : C.get m KEY_SUPPORTED_SCENE_MODES = C.get m' KEY_SUPPORTED_SCENE_MODES)
    (hiso : C.get m KEY_SUPPORTED_ISO_MODES = C.get m' KEY_SUPPORTED_ISO_MODES)
    (hrest : ∀ k, k ∉ toldKeys ++ askedKeys → C.get m k = C.get m' k) : Same C m m' := by
  intro k
  by_cases hk : k ∈ toldKeys ++ askedKeys
  · simp only [toldKeys, askedKeys, List.cons_append, List.nil_append, List.mem_cons,
      List.not_mem_nil, or_false] at hk
    rcases hk with rfl | rfl | rfl | rfl | rfl | rfl | rfl | rfl | rfl | rfl | rfl | rfl | rfl | rfl
    · exact hmodes
    · exact hiso
    · exact congrArg SceneKeys.sceneMode hscene
    · exact congrArg HdrKeys.app hhdr
    · exact congrArg HdrKeys.appValues hhdr
    · exact congrArg ExposureKeys.iso hexposure
    · exact congrArg ExposureKeys.shutter hexposure
    · exact congrArg ExposureKeys.mode hexposure
    · exact congrArg ExposureKeys.vendorIso hexposure
    · exact congrArg ExposureKeys.vendorShutter hexposure
    · exact congrArg SceneKeys.stabiliser hscene
    · exact congrArg SceneKeys.sceneMode hscene
    · exact congrArg HdrKeys.vendor hhdr
    · exact congrArg SceneKeys.videoStabiliser hscene
  · exact hrest k hk

/-- Maps with the same entries have the same groups. -/
theorem Same.sceneKeys (h : Same C m m') : SceneKeys.of C m = SceneKeys.of C m' := by
  unfold SceneKeys.of
  rw [h, h, h]

theorem Same.hdrKeys (h : Same C m m') : HdrKeys.of C m = HdrKeys.of C m' := by
  unfold HdrKeys.of
  rw [h, h, h, h]

theorem Same.exposureKeys (h : Same C m m') : ExposureKeys.of C m = ExposureKeys.of C m' := by
  unfold ExposureKeys.of
  rw [h, h, h, h, h, h]

theorem Settled.of_same (hm : Settled C m) (h : Same C m' m) : Settled C m' where
  sceneModes values hvalues := hm.sceneModes values ((h _).symm.trans hvalues)
  isoModes := by
    rw [h, h]
    exact hm.isoModes
  scene := by
    rw [h.sceneKeys, h, h]
    exact hm.scene
  hdr := by
    rw [h.hdrKeys]
    exact hm.hdr
  exposure := by
    rw [h.exposureKeys]
    exact hm.exposure

/-- Nothing is added to the list of scene modes. -/
theorem sceneModesTold_eq {m : C.Params} (h : NoStillHdr C m) (modes : Option CStr) :
    sceneModesTold (C.get m KEY_SONY_IMAGE_STABILISER_VALUES) modes = modes := by
  unfold sceneModesTold
  cases hvalues : C.get m KEY_SONY_IMAGE_STABILISER_VALUES with
  | none => rfl
  | some values =>
      have hnot := h values hvalues
      simp only [hnot, Bool.false_eq_true, if_false]

theorem isoModesTold_told (list modes : Option CStr) :
    isoModesTold list (isoModesTold list modes) = isoModesTold list modes := by
  cases list <;> rfl

end Groups

section Runs

variable {C : CameraParameters} {initial out : CStr}

/-- One cycle on a settled map. -/
theorem settled_cycle (hC : C.Lawful) (hm : C.AllClean (C.unflatten out))
    (h : Settled C (C.unflatten out)) :
    ∃ asked again, cameraSetParameters C out = some asked ∧
      cameraGetParameters C asked = some again ∧ C.AllClean (C.unflatten again) ∧
      Same C (C.unflatten again) (C.unflatten out) := by
  rcases Option.bind_eq_some_iff.mp h.exposure with ⟨e, hask, htell⟩
  -- Both functions come to their end, since the exposure does.
  have hset : (cameraFixupSetparams C out).isSome = true := by
    rw [setparams_isSome hC hm, hask]
    rfl
  rcases Option.isSome_iff_exists.mp hset with ⟨asked, hasked⟩
  have hround := setparams_asked hC hm hasked
  have hexposure : ExposureKeys.of C (C.unflatten asked) = e := by
    have hsome := hround.exposure
    rw [hask, Option.some.injEq] at hsome
    exact hsome.symm
  have hget : (cameraFixupGetparams C asked).isSome = true := by
    rw [getparams_isSome hC hround.clean, hexposure, htell]
    rfl
  rcases Option.isSome_iff_exists.mp hget with ⟨again, hagain⟩
  have htold := getparams_told hC hround.clean hagain
  refine ⟨asked, again, hasked, hagain, htold.clean, same_of_groups ?_ ?_ ?_ ?_ ?_ ?_⟩
  · rw [htold.scene, hround.scene, h.scene]
  · rw [htold.hdr, hround.hdr, h.hdr]
  · have hsome := htold.exposure
    rw [hexposure, htell, Option.some.injEq] at hsome
    exact hsome.symm
  · rw [htold.sceneModes, hround.kept _ (by decide), hround.kept _ (by decide),
      sceneModesTold_eq h.sceneModes]
  · rw [htold.isoModes, hround.kept _ (by decide), hround.kept _ (by decide), h.isoModes]
  · intro k hk
    rw [htold.kept k (fun hmem => hk (List.mem_append_left _ hmem)),
      hround.kept k (fun hmem => hk (List.mem_append_right _ hmem))]

/-- Any number of them. -/
theorem settled_run (hC : C.Lawful) (hget : cameraGetParameters C initial = some out)
    (hm : C.AllClean (C.unflatten out)) (h : Settled C (C.unflatten out)) (n : Nat) :
    ∃ out', toldText C initial n = some out' ∧ C.AllClean (C.unflatten out') ∧
      Same C (C.unflatten out') (C.unflatten out) := by
  induction n with
  | zero => exact ⟨out, hget, hm, fun _ => rfl⟩
  | succ n ih =>
      rcases ih with ⟨out', htold, hclean, hsame⟩
      rcases settled_cycle hC hclean (h.of_same hsame) with
        ⟨asked, again, hset, hagain, hclean', hcycle⟩
      refine ⟨again, ?_, hclean', fun k => (hcycle k).trans (hsame k)⟩
      rcases Option.bind_eq_some_iff.mp htold with ⟨vendor, hvendor, hvendorGet⟩
      unfold toldText vendorText
      rw [hvendor, Option.bind_some, hvendorGet, Option.bind_some, hset, Option.bind_some, hagain]

/-- What is told of a stable map is settled. -/
theorem settled_of_stable {m o : C.Params} (htold : GetRound C m o) (h : StableMap C m) :
    Settled C o := by
  have hkept : ∀ k, k ∉ toldKeys → C.get o k = C.get m k := htold.kept
  refine ⟨?_, ?_, ?_, ?_, ?_⟩
  · intro values hvalues
    exact h.sceneModes values ((hkept _ (by decide)).symm.trans hvalues)
  · rw [htold.isoModes, hkept _ (by decide), isoModesTold_told]
  · rw [htold.scene, hkept _ (by decide), hkept _ (by decide)]
    exact (SceneKeys.tell_stable_iff _ _ _).mpr h.scene
  · rw [htold.hdr]
    exact (HdrKeys.tell_stable_iff _).mpr h.hdr
  · rcases (ExposureKeys.tell_stable_iff _).mpr h.exposure with ⟨e, htell, hround⟩
    have hsome := htold.exposure
    rw [htell, Option.some.injEq] at hsome
    rw [← hsome]
    exact hround

/-- A map that is told the same after one cycle is stable. -/
theorem stable_of_cycle (hC : C.Lawful) {m : C.Params} {out asked again : CStr}
    (htold : GetRound C m (C.unflatten out)) (hset : cameraSetParameters C out = some asked)
    (hget : cameraGetParameters C asked = some again)
    (hsame : Same C (C.unflatten again) (C.unflatten out)) : StableMap C m := by
  have hround := setparams_asked hC htold.clean hset
  have htold' := getparams_told hC hround.clean hget
  have hconst : ∀ k, k ∉ toldKeys → C.get (C.unflatten out) k = C.get m k := htold.kept
  refine ⟨fun values hvalues => ?_, ?_, ?_, ?_⟩
  · -- The list would be four bytes longer.
    rw [← Bool.not_eq_true]
    intro hcontains
    have hlist := hsame KEY_SUPPORTED_SCENE_MODES
    rw [htold'.sceneModes, hround.kept _ (by decide), hround.kept _ (by decide),
      hconst _ (by decide), hvalues] at hlist
    simp only [sceneModesTold, hcontains, if_true] at hlist
    have hlength := congrArg (fun modes : Option CStr => (modes.getD []).length) hlist
    cases hmodes : C.get (C.unflatten out) KEY_SUPPORTED_SCENE_MODES with
    | none =>
        rw [hmodes] at hlist
        cases hlist
    | some modes =>
        rw [hmodes] at hlength
        have hfour : (cstr ",hdr").length = 4 := rfl
        simp only [Option.getD_some, List.length_append, hfour] at hlength
        omega
  · rw [← SceneKeys.tell_stable_iff, ← htold.scene, ← hconst _ (by decide),
      ← hconst KEY_SONY_VIDEO_STABILISER_VALUES (by decide), ← hround.scene, ← htold'.scene]
    exact hsame.sceneKeys
  · rw [← HdrKeys.tell_stable_iff, ← htold.hdr, ← hround.hdr, ← htold'.hdr]
    exact hsame.hdrKeys
  · rw [← ExposureKeys.tell_stable_iff]
    refine ⟨_, htold.exposure, ?_⟩
    rw [hround.exposure, Option.bind_some, htold'.exposure, hsame.exposureKeys]

/-- The application is told the same on every get exactly if the vendor's map is
    stable to begin with. Whether a get writes behind the end of a buffer is not part
    of it (`InBounds`). -/
theorem told_stable_iff (C : CameraParameters) (hC : C.Lawful) (initial : CStr)
    (hm : C.AllClean (C.unflatten initial)) :
    (∃ out, cameraGetParameters C initial = some out ∧ StableTold C initial out) ↔
      StableMap C (C.unflatten initial) := by
  constructor
  · rintro ⟨out, hget, hstable⟩
    have htold := getparams_told hC hm hget
    -- The first cycle is enough: what it leaves as it was is left so for good.
    rcases hstable.same 1 with ⟨again, hagain, hsame⟩
    unfold toldText vendorText vendorText at hagain
    rw [Option.bind_some, hget, Option.bind_some] at hagain
    rcases Option.bind_eq_some_iff.mp hagain with ⟨asked, hset, hget'⟩
    exact stable_of_cycle hC htold hset hget' hsame
  · intro h
    rcases (ExposureKeys.tell_stable_iff _).mpr h.exposure with ⟨e, htell, _⟩
    have hsome : (cameraFixupGetparams C initial).isSome = true := by
      rw [getparams_isSome hC hm, htell]
      rfl
    rcases Option.isSome_iff_exists.mp hsome with ⟨out, hget⟩
    have htold := getparams_told hC hm hget
    have hsettled := settled_of_stable htold h
    -- What is told first is settled, and every cycle starts from that.
    have hrun := settled_run hC hget htold.clean hsettled
    refine ⟨out, hget, fun n => ?_, ?_, fun n out' htext => ?_⟩
    · rcases hrun n with ⟨out', htext, _, hsame⟩
      exact ⟨out', htext, hsame⟩
    · have hagain : (cameraFixupGetparams C out).isSome = true := by
        rw [getparams_isSome hC htold.clean, ExposureKeys.tell_tell htold.exposure]
        rfl
      rcases Option.isSome_iff_exists.mp hagain with ⟨out', hget'⟩
      have htold' := getparams_told hC htold.clean hget'
      refine ⟨out', hget', same_of_groups ?_ ?_ ?_ ?_ ?_ ?_⟩
      · rw [htold'.scene, htold.scene, SceneKeys.tell_tell]
      · rw [htold'.hdr, htold.hdr, HdrKeys.tell_tell]
      · have hsome' := htold'.exposure
        rw [ExposureKeys.tell_tell htold.exposure, Option.some.injEq] at hsome'
        exact hsome'.symm
      · rw [htold'.sceneModes, sceneModesTold_eq hsettled.sceneModes]
      · rw [htold'.isoModes, hsettled.isoModes]
      · intro k hk
        exact htold'.kept k (fun hmem => hk (List.mem_append_left _ hmem))
    · rcases hrun n with ⟨out'', htext', _, hsame⟩
      rw [htext', Option.some.injEq] at htext
      unfold hdrCount
      rw [← htext, hsame]

theorem told_stable_iff_string :
    (∃ out, cameraGetParameters stringMap vendorSettings = some out ∧
      StableTold stringMap vendorSettings out) ↔
      StableMap stringMap (stringMap.unflatten vendorSettings) :=
  told_stable_iff stringMap stringMap_lawful vendorSettings
    (stringMap_allClean (by rw [vendorSettings_entries]; decide))

/-- HDR is put into the list of scene modes once for each get. -/
theorem told_not_stable :
    stringMap.AllClean (stringMap.unflatten
      (cstr "sony-is-values=on-still-hdr;scene-mode-values=auto")) ∧
    toldText stringMap (cstr "sony-is-values=on-still-hdr;scene-mode-values=auto") 0 =
      some (cstr "sony-is-values=on-still-hdr;scene-mode-values=auto,hdr") ∧
    toldText stringMap (cstr "sony-is-values=on-still-hdr;scene-mode-values=auto") 1 =
      some (cstr "sony-is-values=on-still-hdr;scene-mode-values=auto,hdr,hdr") ∧
    ¬ Same stringMap
      (stringMap.unflatten (cstr "sony-is-values=on-still-hdr;scene-mode-values=auto,hdr,hdr"))
      (stringMap.unflatten (cstr "sony-is-values=on-still-hdr;scene-mode-values=auto,hdr")) := by
  have hentries : (stringMap.unflatten
      (cstr "sony-is-values=on-still-hdr;scene-mode-values=auto")).1 =
      [(KEY_SONY_IMAGE_STABILISER_VALUES, cstr "on-still-hdr"),
        (KEY_SUPPORTED_SCENE_MODES, cstr "auto")] := by
    decide +kernel
  refine ⟨stringMap_allClean (by rw [hentries]; decide), by decide +kernel, by decide +kernel,
    fun hsame => ?_⟩
  exact absurd (hsame KEY_SUPPORTED_SCENE_MODES) (by decide +kernel)

end Runs

end Camera

end Taoshan

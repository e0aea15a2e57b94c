import Taoshan.Camera.Frame

/-!
# Exposure

The application sets an ISO mode and a shutter speed, each of which may be
automatic. The vendor's camera has an exposure mode, which says which of the
two are fixed, and the values they are fixed at. `AeMode` is the mode and its
two halves, and is what they say (`AeMode.of`).

`camera_fixup_getparams` reads the application's settings off the mode
(`fixupExposure_spec`), and `camera_fixup_setparams` puts the mode together
again in two steps, the shutter speed before the ISO mode (`setExposure_spec`).
All other parts of the two functions write other keys (`Others`). So a round
trip in either direction gives the settings back (`exposure_roundTrip`).

## Main definitions

* `AeMode`: The vendor's exposure modes.
* `isoText`, `shutterText`: The settings as the application writes them.
* `VendorExposure`, `AppExposure`: Maps with an exposure in them.
* `Others`: Nothing is written that is about the exposure.

## Theorems

* `fixupExposure_spec`, `setExposure_spec`: The two halves of the round trip.
* `others_getparams`, `others_setparams`: The other parts.
* `exposure_roundTrip`: There and back, in both directions.
-/

namespace Taoshan

namespace Camera

open Text

/-- The vendor's exposure modes. -/
inductive AeMode
  | auto
  | isoPrio
  | shutterPrio
  | manual
  deriving DecidableEq, Repr

namespace AeMode

def text : AeMode → CStr
  | auto => cstr "auto"
  | isoPrio => cstr "iso-prio"
  | shutterPrio => cstr "shutter-prio"
  | manual => cstr "manual"

/-- Whether the mode fixes the ISO value. -/
def fixesIso : AeMode → Bool
  | isoPrio | manual => true
  | auto | shutterPrio => false

/-- Whether the mode fixes the shutter speed. -/
def fixesShutter : AeMode → Bool
  | shutterPrio | manual => true
  | auto | isoPrio => false

/-- The mode that fixes what is to be fixed. -/
def of : Bool → Bool → AeMode
  | false, false => auto
  | true, false => isoPrio
  | false, true => shutterPrio
  | true, true => manual

theorem fixesIso_of (iso shutter : Bool) : (of iso shutter).fixesIso = iso := by
  cases iso <;> cases shutter <;> rfl

theorem fixesShutter_of (iso shutter : Bool) : (of iso shutter).fixesShutter = shutter := by
  cases iso <;> cases shutter <;> rfl

theorem clean_text (m : AeMode) : Clean m.text := by
  cases m <;> decide

end AeMode

/-- An ISO mode as the application writes it; `none` is automatic. -/
def isoText : Option CStr → CStr
  | none => cstr "auto"
  | some iso => cstr "ISO" ++ iso

/-- A shutter speed as the application writes it. -/
def shutterText : Option CStr → CStr
  | none => cstr "auto"
  | some shutterSpeed => shutterSpeed

/-- An ISO value is never taken for the automatic mode. -/
theorem isoText_ne_auto (iso : CStr) : isoText (some iso) ≠ cstr "auto" := by
  intro h
  have hhead := congrArg List.head? h
  exact absurd hhead (by decide : ¬ some (0x49 : UInt8) = some 0x61)

theorem plusThree_isoText (iso : CStr) : plusThree (isoText (some iso)) = some iso := by
  have hlength : (cstr "ISO").length = 3 := by decide
  have hlong : 3 ≤ (cstr "ISO" ++ iso).length := by
    rw [List.length_append, hlength]
    omega
  unfold plusThree isoText
  rw [if_pos hlong, List.drop_append_of_le_length (Nat.le_of_eq hlength.symm)]
  rfl

section Keys

variable {C : CameraParameters} {m m' m'' : C.Params}

/-- The keys that are about the exposure. -/
def exposureKeys : List CStr := KEY_SONY_AE_MODE_VALUES :: (appKeys ++ vendorKeys)

/-- What is not the application's is none of its two keys, and what is not the
    vendor's none of its three. -/
theorem ne_app : ∀ k ∈ KEY_SONY_AE_MODE_VALUES :: vendorKeys,
    k ≠ KEY_ISO_MODE ∧ k ≠ KEY_SHUTTER_SPEED := by
  decide

theorem ne_vendor : ∀ k ∈ KEY_SONY_AE_MODE_VALUES :: appKeys,
    k ≠ KEY_SONY_AE_MODE ∧ k ≠ KEY_SONY_ISO_MODE ∧ k ≠ KEY_SONY_SHUTTER_SPEED := by
  decide

theorem mem_exposure_of_vendor {k : CStr} (h : k ∈ KEY_SONY_AE_MODE_VALUES :: vendorKeys) :
    k ∈ exposureKeys := by
  rcases List.mem_cons.mp h with rfl | h
  · exact List.mem_cons_self
  · exact List.mem_cons_of_mem _ (List.mem_append_right _ h)

theorem mem_exposure_of_app {k : CStr} (h : k ∈ KEY_SONY_AE_MODE_VALUES :: appKeys) :
    k ∈ exposureKeys := by
  rcases List.mem_cons.mp h with rfl | h
  · exact List.mem_cons_self
  · exact List.mem_cons_of_mem _ (List.mem_append_left _ h)

/-- Nothing is written that is about the exposure, and the map stays clean. -/
structure Others (C : CameraParameters) (m m' : C.Params) : Prop where
  get : ∀ k ∈ exposureKeys, C.get m' k = C.get m k
  clean : C.AllClean m → C.AllClean m'

theorem Others.refl (m : C.Params) : Others C m m := ⟨fun _ _ => rfl, id⟩

theorem Others.trans (h : Others C m m') (h' : Others C m' m'') : Others C m m'' :=
  ⟨fun k hk => (h'.get k hk).trans (h.get k hk), fun hm => h'.clean (h.clean hm)⟩

/-- What writes other keys writes nothing that is about the exposure. -/
theorem Within.others {keys : List CStr} (h : Within C keys m m')
    (hkeys : ∀ k ∈ exposureKeys, k ∉ keys) : Others C m m' :=
  ⟨fun k hk => h.get k (hkeys k hk), h.clean⟩

end Keys

section Parts

variable {C : CameraParameters}

/-- What is done before the exposure is looked at. -/
theorem others_getparams (hC : C.Lawful) (m : C.Params) :
    Others C m (fixupVideoHdr C (fixupSceneMode C (fixupIsoModes C (fixupCapability C m)))) :=
  ((within_fixupCapability hC m).others (by decide)).trans
    (((within_fixupIsoModes hC _).others (by decide)).trans
      (((within_fixupSceneMode hC _).others (by decide)).trans
        ((within_fixupVideoHdr hC _).others (by decide))))

/-- What is done after the exposure has been set. -/
theorem others_setparams (hC : C.Lawful) (m : C.Params) :
    Others C m (setVideoStabiliser C (setVideoHdr C (setSceneMode C m))) :=
  ((within_setSceneMode hC m).others (by decide)).trans
    (((within_setVideoHdr hC _).others (by decide)).trans
      ((within_setVideoStabiliser hC _).others (by decide)))

end Parts

section Exposure

variable {C : CameraParameters} {m : C.Params}

/-- Two keys are set, and no other. -/
theorem set_two (hC : C.Lawful) (hm : C.AllClean m) {k l x y : CStr} (hkl : k ≠ l)
    (hk : Clean k) (hl : Clean l) (hx : Clean x) (hy : Clean y) :
    C.AllClean (C.set (C.set m k x) l y) ∧ C.get (C.set (C.set m k x) l y) k = some x ∧
      C.get (C.set (C.set m k x) l y) l = some y ∧
      ∀ z, z ≠ k → z ≠ l → C.get (C.set (C.set m k x) l y) z = C.get m z := by
  refine ⟨?_, ?_, hC.get_set_self _ hl hy, fun z hzk hzl => ?_⟩
  · exact CameraParameters.allClean_set hC (CameraParameters.allClean_set hC hm hk hx) hl hy
  · rw [hC.get_set_ne _ _ hkl, hC.get_set_self m hk hx]
  · rw [hC.get_set_ne _ _ hzl, hC.get_set_ne _ _ hzk]

/-- The shutter speed is copied. -/
theorem copyShutter_eq {t : CStr} (h : C.get m KEY_SONY_SHUTTER_SPEED = some t) :
    copyShutter C m = C.set m KEY_SHUTTER_SPEED t := by
  simp only [copyShutter, h]

/-- What the application is told of an exposure. -/
structure Told (C : CameraParameters) (m m' : C.Params) (mode : AeMode) (iso shutterSpeed : CStr) :
    Prop where
  clean : C.AllClean m'
  iso : C.get m' KEY_ISO_MODE = some (isoText (if mode.fixesIso then some iso else none))
  shutter : C.get m' KEY_SHUTTER_SPEED =
    some (shutterText (if mode.fixesShutter then some shutterSpeed else none))
  kept : ∀ k ∈ KEY_SONY_AE_MODE_VALUES :: vendorKeys, C.get m' k = C.get m k

/-- The application's settings are read off the mode. -/
theorem fixupExposure_spec (hC : C.Lawful) (hm : C.AllClean m) {mode : AeMode} {i t modes : CStr}
    (hiso : C.get m KEY_SONY_ISO_MODE = some i)
    (hmodes : C.get m KEY_SONY_AE_MODE_VALUES = some modes)
    (hmode : C.get m KEY_SONY_AE_MODE = some mode.text)
    (ht : mode.fixesShutter = true → C.get m KEY_SONY_SHUTTER_SPEED = some t) :
    ∃ m', fixupExposure C m = some m' ∧ Told C m m' mode i t := by
  have hauto : Clean (cstr "auto") := by decide
  have hISO : Clean (cstr "ISO" ++ i) := Clean.append (by decide) (hm _ _ hiso).2
  have hkey : KEY_ISO_MODE ≠ KEY_SHUTTER_SPEED := by decide
  have hk : Clean KEY_ISO_MODE := by decide
  have hl : Clean KEY_SHUTTER_SPEED := by decide
  unfold fixupExposure
  simp only [hiso, hmodes, hmode]
  refine ⟨_, rfl, ?_⟩
  cases mode with
  | auto =>
      rw [if_pos (by decide)]
      rcases set_two hC hm hkey hk hl hauto hauto with ⟨hclean, hfirst, hsecond, hrest⟩
      exact ⟨hclean, hfirst, hsecond, fun z hz => hrest z (ne_app z hz).1 (ne_app z hz).2⟩
  | isoPrio =>
      rw [if_neg (by decide), if_pos (by decide)]
      rcases set_two hC hm hkey hk hl hISO hauto with ⟨hclean, hfirst, hsecond, hrest⟩
      exact ⟨hclean, hfirst, hsecond, fun z hz => hrest z (ne_app z hz).1 (ne_app z hz).2⟩
  | shutterPrio =>
      rw [if_neg (by decide), if_neg (by decide), if_pos (by decide)]
      -- The vendor's speed is read after the ISO mode was set.
      have hspeed := ht rfl
      have hcopy : C.get (C.set m KEY_ISO_MODE (cstr "auto")) KEY_SONY_SHUTTER_SPEED = some t := by
        rw [hC.get_set_ne _ _ (by decide), hspeed]
      rw [copyShutter_eq hcopy]
      rcases set_two hC hm hkey hk hl hauto (hm _ _ hspeed).2 with ⟨hclean, hfirst, hsecond, hrest⟩
      exact ⟨hclean, hfirst, hsecond, fun z hz => hrest z (ne_app z hz).1 (ne_app z hz).2⟩
  | manual =>
      -- Here the shutter speed is set before the ISO mode.
      rw [if_neg (by decide), if_neg (by decide), if_neg (by decide), if_pos (by decide)]
      have hspeed := ht rfl
      rw [copyShutter_eq hspeed]
      rcases set_two hC hm hkey.symm hl hk (hm _ _ hspeed).2 hISO with
        ⟨hclean, hfirst, hsecond, hrest⟩
      exact ⟨hclean, hsecond, hfirst, fun z hz => hrest z (ne_app z hz).2 (ne_app z hz).1⟩

/-- What the vendor is told of the application's settings. -/
structure Asked (C : CameraParameters) (m m' : C.Params) (iso shutterSpeed : Option CStr) :
    Prop where
  clean : C.AllClean m'
  mode : C.get m' KEY_SONY_AE_MODE = some (AeMode.of iso.isSome shutterSpeed.isSome).text
  iso : C.get m' KEY_SONY_ISO_MODE = iso.or (C.get m KEY_SONY_ISO_MODE)
  shutter : C.get m' KEY_SONY_SHUTTER_SPEED = shutterSpeed.or (C.get m KEY_SONY_SHUTTER_SPEED)
  kept : ∀ k ∈ KEY_SONY_AE_MODE_VALUES :: appKeys, C.get m' k = C.get m k

/-- The shutter speed makes the mode automatic or the one that it has priority in. -/
theorem setShutter_spec (hC : C.Lawful) (hm : C.AllClean m) {shutterSpeed : Option CStr}
    {modes : CStr} (hshutter : C.get m KEY_SHUTTER_SPEED = some (shutterText shutterSpeed))
    (htimed : shutterSpeed ≠ some (cstr "auto"))
    (hmodes : C.get m KEY_SONY_AE_MODE_VALUES = some modes)
    (hauto : contains modes (cstr "auto") = true) :
    ∃ m', setShutter C m = some m' ∧ Asked C m m' none shutterSpeed := by
  unfold setShutter
  simp only [hshutter]
  cases shutterSpeed with
  | none =>
      rw [if_neg (by decide)]
      simp only [hmodes, hauto, if_true]
      refine ⟨_, rfl, ?_, ?_, ?_, ?_, fun k hk => ?_⟩
      · exact CameraParameters.allClean_set hC hm (by decide) (by decide)
      · exact hC.get_set_self m (by decide) (by decide)
      · exact hC.get_set_ne m _ (by decide)
      · exact hC.get_set_ne m _ (by decide)
      · exact hC.get_set_ne m _ (ne_vendor k hk).1
  | some t =>
      have hne : shutterText (some t) ≠ cstr "auto" := fun heq => htimed (congrArg some heq)
      rw [if_pos hne]
      refine ⟨_, rfl, ?_⟩
      rcases set_two hC hm (k := KEY_SONY_SHUTTER_SPEED) (l := KEY_SONY_AE_MODE) (x := t)
        (y := cstr "shutter-prio") (by decide) (by decide) (by decide) (hm _ _ hshutter).2
        (by decide) with ⟨hclean, hfirst, hsecond, hrest⟩
      exact ⟨hclean, hsecond, hrest _ (by decide) (by decide), hfirst,
        fun k hk => hrest k (ne_vendor k hk).2.2 (ne_vendor k hk).1⟩

/-- The ISO mode completes it. -/
theorem setIso_spec (hC : C.Lawful) (hm : C.AllClean m) {iso : Option CStr} {shutter : Bool}
    {modes : CStr} (hiso : C.get m KEY_ISO_MODE = some (isoText iso))
    (hmode : C.get m KEY_SONY_AE_MODE = some (AeMode.of false shutter).text)
    (hmodes : C.get m KEY_SONY_AE_MODE_VALUES = some modes)
    (hauto : contains modes (cstr "auto") = true)
    (hprio : contains modes (cstr "iso-prio") = true) :
    ∃ m', setIso C m = some m' ∧ C.AllClean m' ∧
      C.get m' KEY_SONY_AE_MODE = some (AeMode.of iso.isSome shutter).text ∧
      C.get m' KEY_SONY_ISO_MODE = iso.or (C.get m KEY_SONY_ISO_MODE) ∧
      ∀ k, k ≠ KEY_SONY_AE_MODE → k ≠ KEY_SONY_ISO_MODE → C.get m' k = C.get m k := by
  unfold setIso
  simp only [hiso]
  cases iso with
  | none =>
      rw [if_neg (by decide)]
      simp only [hmodes, setIsoAeMode, isoText, if_true, hauto, hmode]
      refine ⟨_, rfl, ?_⟩
      cases shutter with
      | false =>
          rw [if_pos (by decide)]
          refine ⟨CameraParameters.allClean_set hC hm (by decide) (by decide),
            hC.get_set_self m (by decide) (by decide), hC.get_set_ne m _ (by decide),
            fun k hk _ => hC.get_set_ne m _ hk⟩
      | true =>
          -- The shutter speed keeps its priority.
          rw [if_neg (by decide)]
          exact ⟨hm, hmode, rfl, fun _ _ _ => rfl⟩
  | some i =>
      -- What is behind `ISO` is clean, since the whole value is.
      have hclean : Clean i := by
        have hdrop := clean_drop (hm _ _ hiso).2 3
        have hthree := plusThree_isoText i
        unfold plusThree at hthree
        split at hthree
        · rw [Option.some.injEq] at hthree
          rw [← hthree]
          exact hdrop
        · cases hthree
      have hmodes' : C.get (C.set m KEY_SONY_ISO_MODE i) KEY_SONY_AE_MODE_VALUES = some modes := by
        rw [hC.get_set_ne _ _ (by decide), hmodes]
      have hmode' : C.get (C.set m KEY_SONY_ISO_MODE i) KEY_SONY_AE_MODE =
          some (AeMode.of false shutter).text := by
        rw [hC.get_set_ne _ _ (by decide), hmode]
      rw [if_pos (isoText_ne_auto i)]
      simp only [plusThree_isoText, Option.map_some, hmodes', setIsoAeMode,
        if_neg (isoText_ne_auto i), hprio, if_true, hmode']
      refine ⟨_, rfl, ?_⟩
      have htext : (if (AeMode.of false shutter).text = cstr "shutter-prio" then cstr "manual"
          else cstr "iso-prio") = (AeMode.of true shutter).text := by
        cases shutter with
        | false => exact if_neg (by decide)
        | true => exact if_pos rfl
      rw [htext]
      rcases set_two hC hm (k := KEY_SONY_ISO_MODE) (l := KEY_SONY_AE_MODE) (x := i)
        (by decide) (by decide) (by decide) hclean (AeMode.of true shutter).clean_text with
        ⟨hall, hfirst, hsecond, hrest⟩
      exact ⟨hall, hsecond, hfirst, fun k hk hk' => hrest k hk' hk⟩

/-- Both steps together. -/
theorem setExposure_spec (hC : C.Lawful) (hm : C.AllClean m) {iso shutterSpeed : Option CStr}
    {modes : CStr} (hiso : C.get m KEY_ISO_MODE = some (isoText iso))
    (hshutter : C.get m KEY_SHUTTER_SPEED = some (shutterText shutterSpeed))
    (htimed : shutterSpeed ≠ some (cstr "auto"))
    (hmodes : C.get m KEY_SONY_AE_MODE_VALUES = some modes)
    (hauto : contains modes (cstr "auto") = true)
    (hprio : contains modes (cstr "iso-prio") = true) :
    ∃ m₁ m', setShutter C m = some m₁ ∧ setIso C m₁ = some m' ∧ Asked C m m' iso shutterSpeed := by
  rcases setShutter_spec hC hm hshutter htimed hmodes hauto with ⟨m₁, hset, hasked⟩
  have hiso₁ : C.get m₁ KEY_ISO_MODE = some (isoText iso) := by
    rw [hasked.kept _ (by decide), hiso]
  have hmodes₁ : C.get m₁ KEY_SONY_AE_MODE_VALUES = some modes := by
    rw [hasked.kept _ (by decide), hmodes]
  rcases setIso_spec hC hasked.clean hiso₁ hasked.mode hmodes₁ hauto hprio with
    ⟨m', hset', hclean, hmode, hsony, hrest⟩
  refine ⟨m₁, m', hset, hset', hclean, hmode, ?_, ?_, fun k hk => ?_⟩
  · rw [hsony, hasked.iso, Option.none_or]
  · rw [hrest _ (by decide) (by decide), hasked.shutter]
  · rw [hrest k (ne_vendor k hk).1 (ne_vendor k hk).2.1, hasked.kept k hk]

end Exposure

section RoundTrip

variable {C : CameraParameters} {m m₁ m' : C.Params}

/-- A map that was flattened and unflattened has the same exposure. -/
theorem others_unflatten (hC : C.Lawful) (hm : C.AllClean m) :
    Others C m (C.unflatten (C.flatten m)) :=
  ⟨fun k _ => hC.get_unflatten_flatten hm k, fun _ => CameraParameters.allClean_unflatten hC hm⟩

theorem Told.between {mode : AeMode} {i t : CStr} (hbefore : Others C m m₁) {m₂ : C.Params}
    (h : Told C m₁ m₂ mode i t) (hafter : Others C m₂ m') : Told C m m' mode i t where
  clean := hafter.clean h.clean
  iso := (hafter.get _ (by decide)).trans h.iso
  shutter := (hafter.get _ (by decide)).trans h.shutter
  kept k hk :=
    have hmem := mem_exposure_of_vendor hk
    (hafter.get k hmem).trans ((h.kept k hk).trans (hbefore.get k hmem))

theorem Asked.before {iso shutterSpeed : Option CStr} (h : Asked C m m₁ iso shutterSpeed)
    (hafter : Others C m₁ m') : Asked C m m' iso shutterSpeed where
  clean := hafter.clean h.clean
  mode := (hafter.get _ (by decide)).trans h.mode
  iso := (hafter.get _ (by decide)).trans h.iso
  shutter := (hafter.get _ (by decide)).trans h.shutter
  kept k hk := (hafter.get k (mem_exposure_of_app hk)).trans (h.kept k hk)

/-- `camera_fixup_getparams` tells the application what the mode fixes. -/
theorem getparams_spec (hC : C.Lawful) {settings : CStr}
    (hm : C.AllClean (C.unflatten settings)) {mode : AeMode} {i t modes : CStr}
    (hiso : C.get (C.unflatten settings) KEY_SONY_ISO_MODE = some i)
    (hmodes : C.get (C.unflatten settings) KEY_SONY_AE_MODE_VALUES = some modes)
    (hmode : C.get (C.unflatten settings) KEY_SONY_AE_MODE = some mode.text)
    (ht : mode.fixesShutter = true →
      C.get (C.unflatten settings) KEY_SONY_SHUTTER_SPEED = some t) :
    ∃ out, cameraFixupGetparams C settings = some out ∧
      Told C (C.unflatten settings) (C.unflatten out) mode i t := by
  have hbefore := others_getparams hC (C.unflatten settings)
  rcases fixupExposure_spec hC (hbefore.clean hm) ((hbefore.get _ (by decide)).trans hiso)
    ((hbefore.get _ (by decide)).trans hmodes) ((hbefore.get _ (by decide)).trans hmode)
    (fun hfixes => (hbefore.get _ (by decide)).trans (ht hfixes)) with ⟨m', hfixup, htold⟩
  refine ⟨C.flatten m', ?_, htold.between hbefore (others_unflatten hC htold.clean)⟩
  simp only [cameraFixupGetparams, hfixup, Option.map_some]

/-- `camera_fixup_setparams` tells the vendor what the application fixes. -/
theorem setparams_spec (hC : C.Lawful) {settings : CStr}
    (hm : C.AllClean (C.unflatten settings)) {iso shutterSpeed : Option CStr} {modes : CStr}
    (hiso : C.get (C.unflatten settings) KEY_ISO_MODE = some (isoText iso))
    (hshutter : C.get (C.unflatten settings) KEY_SHUTTER_SPEED = some (shutterText shutterSpeed))
    (htimed : shutterSpeed ≠ some (cstr "auto"))
    (hmodes : C.get (C.unflatten settings) KEY_SONY_AE_MODE_VALUES = some modes)
    (hauto : contains modes (cstr "auto") = true)
    (hprio : contains modes (cstr "iso-prio") = true) :
    ∃ out, cameraFixupSetparams C settings = some out ∧
      Asked C (C.unflatten settings) (C.unflatten out) iso shutterSpeed := by
  rcases setExposure_spec hC hm hiso hshutter htimed hmodes hauto hprio with
    ⟨m₁, m₂, hset₁, hset₂, hasked⟩
  have hafter := others_setparams hC m₂
  refine ⟨_, ?_, hasked.before (hafter.trans (others_unflatten hC (hafter.clean hasked.clean)))⟩
  simp only [cameraFixupSetparams, hset₁, hset₂]

/-- The vendor can do all four modes. -/
structure FourModes (C : CameraParameters) (m : C.Params) : Prop where
  modes : ∃ modes, C.get m KEY_SONY_AE_MODE_VALUES = some modes ∧
    contains modes (cstr "auto") = true ∧ contains modes (cstr "iso-prio") = true

/-- A map of the vendor's, in which the exposure is complete. -/
structure VendorExposure (C : CameraParameters) (m : C.Params) (mode : AeMode) (iso : CStr)
    (shutterSpeed : CStr) : Prop extends FourModes C m where
  clean : C.AllClean m
  mode : C.get m KEY_SONY_AE_MODE = some mode.text
  iso : C.get m KEY_SONY_ISO_MODE = some iso
  shutter : C.get m KEY_SONY_SHUTTER_SPEED = some shutterSpeed
  timed : shutterSpeed ≠ cstr "auto"

/-- A map of the application's, with the vendor's keys still in it. -/
structure AppExposure (C : CameraParameters) (m : C.Params) (iso : Option CStr)
    (shutterSpeed : CStr) : Prop extends FourModes C m where
  clean : C.AllClean m
  vendorIso : (C.get m KEY_SONY_ISO_MODE).isSome = true
  iso : C.get m KEY_ISO_MODE = some (isoText iso)
  shutter : C.get m KEY_SHUTTER_SPEED = some shutterSpeed

/-- From the vendor to the application and back. -/
theorem vendor_roundTrip (hC : C.Lawful) {settings : CStr} {mode : AeMode} {i t : CStr}
    (h : VendorExposure C (C.unflatten settings) mode i t) :
    ∃ told asked, cameraFixupGetparams C settings = some told ∧
      cameraFixupSetparams C told = some asked ∧
      C.get (C.unflatten asked) KEY_SONY_AE_MODE = some mode.text ∧
      C.get (C.unflatten asked) KEY_SONY_ISO_MODE = some i ∧
      C.get (C.unflatten asked) KEY_SONY_SHUTTER_SPEED = some t := by
  rcases h.modes with ⟨modes, hmodes, hauto, hprio⟩
  rcases getparams_spec hC h.clean h.iso hmodes h.mode (fun _ => h.shutter) with
    ⟨told, hget, htold⟩
  -- The application never sees `auto` for a speed that is fixed.
  have htimed : (if mode.fixesShutter then some t else none) ≠ some (cstr "auto") := by
    split
    · exact fun heq => h.timed (Option.some.inj heq)
    · exact (Option.some_ne_none _).symm
  have hmodes' : C.get (C.unflatten told) KEY_SONY_AE_MODE_VALUES = some modes := by
    rw [htold.kept _ (by decide), hmodes]
  rcases setparams_spec hC htold.clean htold.iso htold.shutter htimed hmodes' hauto hprio with
    ⟨asked, hset, hasked⟩
  have hiso : C.get (C.unflatten told) KEY_SONY_ISO_MODE = some i := by
    rw [htold.kept _ (by decide), h.iso]
  have hshutter : C.get (C.unflatten told) KEY_SONY_SHUTTER_SPEED = some t := by
    rw [htold.kept _ (by decide), h.shutter]
  refine ⟨told, asked, hget, hset, ?_, ?_, ?_⟩
  · -- The two halves that were told apart are put together again.
    have hhalves : AeMode.of (if mode.fixesIso then some i else none).isSome
        (if mode.fixesShutter then some t else none).isSome = mode := by
      cases mode <;> rfl
    rw [hasked.mode, hhalves]
  · rw [hasked.iso, hiso]
    split
    · rfl
    · rfl
  · rw [hasked.shutter, hshutter]
    split
    · rfl
    · rfl

/-- From the application to the vendor and back. -/
theorem app_roundTrip (hC : C.Lawful) {settings : CStr} {iso : Option CStr} {s : CStr}
    (h : AppExposure C (C.unflatten settings) iso s) :
    ∃ asked told, cameraFixupSetparams C settings = some asked ∧
      cameraFixupGetparams C asked = some told ∧
      C.get (C.unflatten told) KEY_ISO_MODE = some (isoText iso) ∧
      C.get (C.unflatten told) KEY_SHUTTER_SPEED = some s := by
  rcases h.modes with ⟨modes, hmodes, hauto, hprio⟩
  rcases Option.isSome_iff_exists.mp h.vendorIso with ⟨old, hold⟩
  -- The speed `auto` is none.
  have hspeed : ∃ shutterSpeed, s = shutterText shutterSpeed ∧
      shutterSpeed ≠ some (cstr "auto") := by
    by_cases hs : s = cstr "auto"
    · exact ⟨none, hs, (Option.some_ne_none _).symm⟩
    · exact ⟨some s, rfl, fun heq => hs (Option.some.inj heq)⟩
  rcases hspeed with ⟨shutterSpeed, rfl, htimed⟩
  rcases setparams_spec hC h.clean h.iso h.shutter htimed hmodes hauto hprio with
    ⟨asked, hset, hasked⟩
  have hmodes' : C.get (C.unflatten asked) KEY_SONY_AE_MODE_VALUES = some modes := by
    rw [hasked.kept _ (by decide), hmodes]
  have hiso : C.get (C.unflatten asked) KEY_SONY_ISO_MODE = some (iso.getD old) := by
    rw [hasked.iso, hold]
    cases iso <;> rfl
  -- A speed is read back only in a mode that fixes it, and then it was asked for.
  have hshutter : (AeMode.of iso.isSome shutterSpeed.isSome).fixesShutter = true →
      C.get (C.unflatten asked) KEY_SONY_SHUTTER_SPEED = some (shutterSpeed.getD []) := by
    intro hfixes
    rw [AeMode.fixesShutter_of] at hfixes
    rcases Option.isSome_iff_exists.mp hfixes with ⟨t, rfl⟩
    rw [hasked.shutter]
    rfl
  rcases getparams_spec hC hasked.clean hiso hmodes' hasked.mode hshutter with
    ⟨told, hget, htold⟩
  refine ⟨asked, told, hset, hget, ?_, ?_⟩
  · rw [htold.iso, AeMode.fixesIso_of]
    cases iso <;> rfl
  · rw [htold.shutter, AeMode.fixesShutter_of]
    cases shutterSpeed <;> rfl

/-- An exposure that goes from the vendor to the application and back is the
    same, and so are settings that go from the application to the vendor and
    back. -/
theorem exposure_roundTrip (C : CameraParameters) (hC : C.Lawful) :
    (∀ settings mode i t, VendorExposure C (C.unflatten settings) mode i t →
      ∃ told asked, cameraFixupGetparams C settings = some told ∧
        cameraFixupSetparams C told = some asked ∧
        C.get (C.unflatten asked) KEY_SONY_AE_MODE = some mode.text ∧
        C.get (C.unflatten asked) KEY_SONY_ISO_MODE = some i ∧
        C.get (C.unflatten asked) KEY_SONY_SHUTTER_SPEED = some t) ∧
    ∀ settings iso s, AppExposure C (C.unflatten settings) iso s →
      ∃ asked told, cameraFixupSetparams C settings = some asked ∧
        cameraFixupGetparams C asked = some told ∧
        C.get (C.unflatten told) KEY_ISO_MODE = some (isoText iso) ∧
        C.get (C.unflatten told) KEY_SHUTTER_SPEED = some s :=
  ⟨fun _ _ _ _ h => vendor_roundTrip hC h, fun _ _ _ h => app_roundTrip hC h⟩

/-- Settings of the vendor's and of the application's. -/
def vendorSettings : CStr :=
  cstr "iso=auto;shutter-speed=auto;sony-ae-mode=manual;sony-ae-mode-values=auto,iso-prio;" ++
    cstr "sony-iso=100;sony-shutter-speed=1/30"

def appSettings : CStr :=
  cstr "iso=ISO100;shutter-speed=1/30;sony-ae-mode=auto;sony-ae-mode-values=auto,iso-prio;" ++
    cstr "sony-iso=200;sony-shutter-speed=1/60"

theorem vendorSettings_entries : (stringMap.unflatten vendorSettings).1 =
    [(KEY_ISO_MODE, cstr "auto"), (KEY_SHUTTER_SPEED, cstr "auto"),
      (KEY_SONY_AE_MODE, cstr "manual"), (KEY_SONY_AE_MODE_VALUES, cstr "auto,iso-prio"),
      (KEY_SONY_ISO_MODE, cstr "100"), (KEY_SONY_SHUTTER_SPEED, cstr "1/30")] := by
  decide +kernel

theorem appSettings_entries : (stringMap.unflatten appSettings).1 =
    [(KEY_ISO_MODE, cstr "ISO100"), (KEY_SHUTTER_SPEED, cstr "1/30"),
      (KEY_SONY_AE_MODE, cstr "auto"), (KEY_SONY_AE_MODE_VALUES, cstr "auto,iso-prio"),
      (KEY_SONY_ISO_MODE, cstr "200"), (KEY_SONY_SHUTTER_SPEED, cstr "1/60")] := by
  decide +kernel

theorem stringMap_get_of {settings : CStr} {m : Flatten.Pairs UInt8}
    (h : (stringMap.unflatten settings).1 = m) (k : CStr) :
    stringMap.get (stringMap.unflatten settings) k = Flatten.get m k := by
  rw [← h]
  rfl

theorem vendorSettings_exposure : VendorExposure stringMap (stringMap.unflatten vendorSettings)
    .manual (cstr "100") (cstr "1/30") where
  modes := ⟨cstr "auto,iso-prio", stringMap_get_of vendorSettings_entries _, by decide, by decide⟩
  clean := stringMap_allClean (by rw [vendorSettings_entries]; decide)
  mode := stringMap_get_of vendorSettings_entries _
  iso := stringMap_get_of vendorSettings_entries _
  shutter := stringMap_get_of vendorSettings_entries _
  timed := by decide

theorem appSettings_exposure : AppExposure stringMap (stringMap.unflatten appSettings)
    (some (cstr "100")) (cstr "1/30") where
  modes := ⟨cstr "auto,iso-prio", stringMap_get_of appSettings_entries _, by decide, by decide⟩
  clean := stringMap_allClean (by rw [appSettings_entries]; decide)
  vendorIso := congrArg Option.isSome (stringMap_get_of appSettings_entries _)
  iso := stringMap_get_of appSettings_entries _
  shutter := stringMap_get_of appSettings_entries _

theorem exposure_roundTrip_string :
    (∃ told asked, cameraFixupGetparams stringMap vendorSettings = some told ∧
      cameraFixupSetparams stringMap told = some asked ∧
      stringMap.get (stringMap.unflatten asked) KEY_SONY_AE_MODE = some AeMode.manual.text ∧
      stringMap.get (stringMap.unflatten asked) KEY_SONY_ISO_MODE = some (cstr "100") ∧
      stringMap.get (stringMap.unflatten asked) KEY_SONY_SHUTTER_SPEED = some (cstr "1/30")) ∧
    ∃ asked told, cameraFixupSetparams stringMap appSettings = some asked ∧
      cameraFixupGetparams stringMap asked = some told ∧
      stringMap.get (stringMap.unflatten told) KEY_ISO_MODE = some (isoText (some (cstr "100"))) ∧
      stringMap.get (stringMap.unflatten told) KEY_SHUTTER_SPEED = some (cstr "1/30") :=
  ⟨(exposure_roundTrip stringMap stringMap_lawful).1 vendorSettings .manual (cstr "100")
      (cstr "1/30") vendorSettings_exposure,
    (exposure_roundTrip stringMap stringMap_lawful).2 appSettings (some (cstr "100"))
      (cstr "1/30") appSettings_exposure⟩

end RoundTrip

end Camera

end Taoshan

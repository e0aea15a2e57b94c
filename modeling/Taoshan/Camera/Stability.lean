import Taoshan.Camera.Groups

/-!
# Stable Groups

What the application is told goes back to the vendor if the application changes
nothing, and the next time the application is told of that. Here it is worked out
for each group of keys when the two tellings are the same.

The scene mode and video HDR are told and asked for by total functions, so there
it is a fixed point of their composition (`SceneKeys.tell_stable_iff`,
`HdrKeys.tell_stable_iff`). The exposure is different, because the functions may
not come to their end. Telling writes the application's settings alone and asking
the vendor's alone, so a round leaves all as it is exactly if asking does
(`ExposureKeys.round_iff_ask`), and that is a question of the modes the vendor
has and of the mode it is in (`ExposureKeys.tell_stable_iff`).

## Main definitions

* `SceneKeys.Stable`, `HdrKeys.Stable`, `ExposureKeys.Stable`: The groups that
  are told the same again.
* `ExposureKeys.ModeStable`: The modes that are asked for by what they tell.

## Theorems

* `SceneKeys.tell_stable_iff`, `HdrKeys.tell_stable_iff`,
  `ExposureKeys.tell_stable_iff`: The three groups.
-/

namespace Taoshan

namespace Camera

open Text

namespace SceneKeys

variable (hint values : Option CStr) (s : SceneKeys)

/-- While recording, the stabiliser is off and the one for videos on, as they are
    left; otherwise the stabiliser is on for HDR, or there is no scene mode, or it
    is on for a scene mode that is not HDR. -/
def Stable : Prop :=
  if hint = some TRUE then
    s.stabiliser = some VALUE_SONY_OFF ∧ s.videoStabiliser = some (videoValue values) ∧
      s.sceneMode ≠ some (cstr "hdr")
  else s.stabiliser = some VALUE_SONY_STILL_HDR ∨ s.sceneMode = none ∨
    (s.stabiliser = some VALUE_SONY_ON ∧ s.sceneMode ≠ some (cstr "hdr"))

/-- One cycle tells the same again if and only if these keys are stable. -/
theorem tell_stable_iff :
    (s.tell.askMode.askVideo hint values).tell = s.tell ↔ s.Stable hint values := by
  have hoff : VALUE_SONY_OFF ≠ VALUE_SONY_STILL_HDR := by decide
  have hon : VALUE_SONY_ON ≠ VALUE_SONY_STILL_HDR := by decide
  have hauto : SCENE_MODE_AUTO ≠ cstr "hdr" := by decide
  rcases s with ⟨sceneMode, stabiliser, videoStabiliser⟩
  unfold Stable
  by_cases hstill : stabiliser = some VALUE_SONY_STILL_HDR
  · -- HDR is told, and asked for again.
    by_cases hhint : hint = some TRUE
    · simp [tell, askMode, askVideo, hstill, hhint, hoff, hoff.symm]
    · simp [tell, askMode, askVideo, hstill, hhint]
  · by_cases hhint : hint = some TRUE
    · cases sceneMode with
      | none => simp [tell, askMode, askVideo, hhint, hoff, hstill, eq_comm]
      | some mode =>
          by_cases hmode : mode = cstr "hdr"
          · simp [tell, askMode, askVideo, hhint, hoff, hstill, hmode, hauto]
          · simp [tell, askMode, askVideo, hhint, hoff, hstill, hmode, eq_comm]
    · cases sceneMode with
      | none => simp [tell, askMode, askVideo, hhint, hstill]
      | some mode =>
          by_cases hmode : mode = cstr "hdr"
          · -- The stabiliser was not on for HDR, and now it is.
            simp [tell, askMode, askVideo, hhint, hstill, hmode, Ne.symm hstill]
          · simp [tell, askMode, askVideo, hhint, hon, hstill, hmode, eq_comm]

/-- What was told is told again. -/
theorem tell_tell (s : SceneKeys) : s.tell.tell = s.tell := by
  unfold tell
  by_cases hstill : s.stabiliser = some VALUE_SONY_STILL_HDR
  · rw [if_pos hstill, if_pos hstill]
  · rw [if_neg hstill, if_neg hstill]

end SceneKeys

namespace HdrKeys

/-- A vendor without a list of values has what the application has, if both have
    something. -/
def Stable (s : HdrKeys) : Prop :=
  s.vendorValues = none → ∀ hdr app, s.vendor = some hdr → s.app = some app → app = hdr

theorem tell_stable_iff (s : HdrKeys) : s.tell.ask.tell = s.tell ↔ s.Stable := by
  rcases s with ⟨vendor, vendorValues, app, appValues⟩
  unfold Stable
  cases vendor with
  | none => simp [tell, ask]
  | some hdr => cases vendorValues with
    | none => cases app with
      | none => simp [tell, ask]
      | some app => simp [tell, ask]
    | some values => simp [tell, ask]

theorem tell_tell (s : HdrKeys) : s.tell.tell = s.tell := by
  rcases s with ⟨vendor, vendorValues, app, appValues⟩
  cases vendor with
  | none => rfl
  | some hdr => cases vendorValues with
    | none => rfl
    | some values => rfl

end HdrKeys

namespace ExposureKeys

section Round

variable {e t s : ExposureKeys}

/-- Telling writes the application's settings, and asking the vendor's. -/
theorem tell_kept (h : e.tell = some t) : t.modes = e.modes ∧ t.mode = e.mode ∧
    t.vendorIso = e.vendorIso ∧ t.vendorShutter = e.vendorShutter := by
  unfold tell at h
  split at h
  · split at h
    · cases h
    · cases h
      exact ⟨rfl, rfl, rfl, rfl⟩
  · cases h
    exact ⟨rfl, rfl, rfl, rfl⟩

/-- What is asked for is the application's and stays as it is. -/
theorem askShutter_kept (h : t.askShutter = some s) :
    s.modes = t.modes ∧ s.iso = t.iso ∧ s.shutter = t.shutter := by
  unfold askShutter at h
  split at h
  · cases h
    exact ⟨rfl, rfl, rfl⟩
  · split at h
    · cases h
      exact ⟨rfl, rfl, rfl⟩
    · split at h
      · cases h
      · cases h
        split
        · exact ⟨rfl, rfl, rfl⟩
        · exact ⟨rfl, rfl, rfl⟩

theorem askMode_kept {iso modes : CStr} (h : t.askMode iso modes = some s) :
    s.modes = t.modes ∧ s.iso = t.iso ∧ s.shutter = t.shutter ∧ s.vendorIso = t.vendorIso := by
  unfold askMode at h
  split at h
  · split at h
    · split at h
      · cases h
      · cases h
        split
        · exact ⟨rfl, rfl, rfl, rfl⟩
        · exact ⟨rfl, rfl, rfl, rfl⟩
    · cases h
      exact ⟨rfl, rfl, rfl, rfl⟩
  · split at h
    · split at h
      · cases h
      · cases h
        exact ⟨rfl, rfl, rfl, rfl⟩
    · cases h
      exact ⟨rfl, rfl, rfl, rfl⟩

theorem askIsoValue_kept {iso : CStr} (h : t.askIsoValue iso = some s) :
    s.modes = t.modes ∧ s.iso = t.iso ∧ s.shutter = t.shutter := by
  unfold askIsoValue at h
  split at h
  · rcases Option.map_eq_some_iff.mp h with ⟨_, _, rfl⟩
    exact ⟨rfl, rfl, rfl⟩
  · cases h
    exact ⟨rfl, rfl, rfl⟩

theorem askIso_kept (h : t.askIso = some s) :
    s.modes = t.modes ∧ s.iso = t.iso ∧ s.shutter = t.shutter := by
  unfold askIso at h
  split at h
  · cases h
    exact ⟨rfl, rfl, rfl⟩
  · split at h
    · cases h
    · next u hvalue =>
        have hu := askIsoValue_kept hvalue
        split at h
        · cases h
          exact hu
        · have hs := askMode_kept h
          exact ⟨hs.1.trans hu.1, hs.2.1.trans hu.2.1, hs.2.2.1.trans hu.2.2⟩

theorem ask_kept (h : t.ask = some s) :
    s.modes = t.modes ∧ s.iso = t.iso ∧ s.shutter = t.shutter := by
  rcases Option.bind_eq_some_iff.mp h with ⟨u, hshutter, hiso⟩
  have hu := askShutter_kept hshutter
  have hs := askIso_kept hiso
  exact ⟨hs.1.trans hu.1, hs.2.1.trans hu.2.1, hs.2.2.trans hu.2.2⟩

/-- What was told is told again. -/
theorem tell_tell (h : e.tell = some t) : t.tell = some t := by
  rcases e with ⟨modes, mode, vendorIso, vendorShutter, iso, shutter⟩
  unfold tell at h
  split at h
  · next iso' modes' hiso hmodes =>
      split at h
      · cases h
      · next mode' hmode =>
          dsimp only at hiso hmodes hmode
          subst hiso hmodes hmode
          cases h
          by_cases hfixes : FixesShutter mode'
          · cases vendorShutter with
            | none => simp only [tell, if_pos hfixes, Option.none_or]
            | some s => simp only [tell, if_pos hfixes, Option.some_or]
          · simp only [tell, if_neg hfixes]
  · next hnone =>
      cases h
      unfold tell
      split
      · next iso' modes' hiso hmodes => exact absurd hmodes (hnone iso' modes' hiso)
      · rfl

/-- A round leaves what was told as it is exactly if asking does. -/
theorem round_iff_ask (h : e.tell = some t) : t.ask.bind tell = some t ↔ t.ask = some t := by
  constructor
  · intro hround
    rcases Option.bind_eq_some_iff.mp hround with ⟨s, hask, htell⟩
    have hkept := tell_kept htell
    have hasked := ask_kept hask
    -- Telling writes two keys and asking the other three, so none has changed.
    have hsame : s = t := by
      rcases s with ⟨modes, mode, vendorIso, vendorShutter, iso, shutter⟩
      rcases t with ⟨modes', mode', vendorIso', vendorShutter', iso', shutter'⟩
      dsimp only at hkept hasked
      rw [hasked.1, hasked.2.1, hasked.2.2, hkept.2.1, hkept.2.2.1, hkept.2.2.2]
    rw [hask, hsame]
  · intro hask
    rw [hask, Option.bind_some]
    exact tell_tell h

end Round

section Asks

/-- With an automatic ISO mode: the shutter speed is automatic and the vendor too,
    or the shutter speed is the vendor's and has priority. -/
def AutoStable (modes : CStr) (mode vendorShutter shutter : Option CStr) : Prop :=
  match shutter with
  | none => contains modes (cstr "auto") = true →
      mode = some (cstr "shutter-prio") ∨ mode = some (cstr "auto")
  | some s =>
      if s = cstr "auto" then contains modes (cstr "auto") = true → mode = some (cstr "auto")
      else vendorShutter = some s ∧ mode = some (cstr "shutter-prio")

/-- With an ISO value: the mode is the one that is put together from the two. -/
def FixedStable (modes : CStr) (mode vendorShutter shutter : Option CStr) : Prop :=
  match shutter with
  | none => contains modes (cstr "iso-prio") = true → mode = some (cstr "iso-prio")
  | some s =>
      if s = cstr "auto" then
        if contains modes (cstr "iso-prio") then mode = some (cstr "iso-prio")
        else contains modes (cstr "auto") = true → mode = some (cstr "auto")
      else vendorShutter = some s ∧ mode = some (if contains modes (cstr "iso-prio") then
        cstr "manual" else cstr "shutter-prio")

/-- With no ISO mode, the shutter speed alone asks for a mode. -/
def ShutterStable (modes : CStr) (mode vendorShutter shutter : Option CStr) : Prop :=
  match shutter with
  | none => True
  | some s =>
      if s = cstr "auto" then contains modes (cstr "auto") = true → mode = some (cstr "auto")
      else vendorShutter = some s ∧ mode = some (cstr "shutter-prio")

variable (modes iso : CStr) (mode vendorIso vendorShutter shutter : Option CStr)

theorem prio_ne_auto : cstr "shutter-prio" ≠ cstr "auto" := by decide

/-- Asking leaves the keys as they are, with an automatic ISO mode. -/
theorem ask_auto_iff :
    (mk (some modes) mode vendorIso vendorShutter (some (cstr "auto")) shutter).ask =
      some (mk (some modes) mode vendorIso vendorShutter (some (cstr "auto")) shutter) ↔
    AutoStable modes mode vendorShutter shutter := by
  have hne := prio_ne_auto
  unfold AutoStable
  cases shutter with
  | none =>
      by_cases hA : contains modes (cstr "auto") = true
      · cases mode with
        | none => simp [ask, askShutter, askIso, askIsoValue, askMode, hA]
        | some x =>
            by_cases hx : x = cstr "shutter-prio"
            · simp [ask, askShutter, askIso, askIsoValue, askMode, hA, hx]
            · simp [ask, askShutter, askIso, askIsoValue, askMode, hA, hx, eq_comm]
      · simp [ask, askShutter, askIso, askIsoValue, askMode, hA]
  | some s =>
      by_cases hs : s = cstr "auto"
      · by_cases hA : contains modes (cstr "auto") = true
        · simp [ask, askShutter, askIso, askIsoValue, askMode, hA, hs, hne.symm, eq_comm]
        · simp [ask, askShutter, askIso, askIsoValue, askMode, hA, hs]
      · -- The shutter speed has priority already when the ISO mode is looked at.
        by_cases hA : contains modes (cstr "auto") = true
        · simp [ask, askShutter, askIso, askIsoValue, askMode, hA, hs, eq_comm, and_comm]
        · simp [ask, askShutter, askIso, askIsoValue, askMode, hA, hs, eq_comm, and_comm]

/-- Without an ISO mode, where the shutter speed alone asks. -/
theorem ask_none_iff :
    (mk (some modes) mode vendorIso vendorShutter none shutter).ask =
      some (mk (some modes) mode vendorIso vendorShutter none shutter) ↔
    ShutterStable modes mode vendorShutter shutter := by
  unfold ShutterStable
  cases shutter with
  | none => simp [ask, askShutter, askIso]
  | some s =>
      by_cases hs : s = cstr "auto"
      · by_cases hA : contains modes (cstr "auto") = true
        · simp [ask, askShutter, askIso, hA, hs, eq_comm]
        · simp [ask, askShutter, askIso, hA, hs]
      · simp [ask, askShutter, askIso, hs, eq_comm, and_comm]

/-- What is behind `ISO` is the vendor's value. -/
theorem askIsoValue_isoText (e : ExposureKeys) (iso : CStr) :
    e.askIsoValue (cstr "ISO" ++ iso) = some { e with vendorIso := some iso } := by
  have hne : cstr "ISO" ++ iso ≠ cstr "auto" := isoText_ne_auto iso
  have hthree : plusThree (cstr "ISO" ++ iso) = some iso := plusThree_isoText iso
  unfold askIsoValue
  rw [if_pos hne, hthree, Option.map_some]

/-- And with an ISO value. -/
theorem ask_fixed_iff :
    (mk (some modes) mode (some iso) vendorShutter (some (cstr "ISO" ++ iso)) shutter).ask =
      some (mk (some modes) mode (some iso) vendorShutter (some (cstr "ISO" ++ iso)) shutter) ↔
    FixedStable modes mode vendorShutter shutter := by
  have hne : cstr "ISO" ++ iso ≠ cstr "auto" := isoText_ne_auto iso
  have hprio := prio_ne_auto
  have hmanual : cstr "manual" ≠ cstr "shutter-prio" := by decide
  have hauto : cstr "iso-prio" ≠ cstr "shutter-prio" := by decide
  unfold FixedStable
  cases shutter with
  | none =>
      by_cases hP : contains modes (cstr "iso-prio") = true
      · cases mode with
        | none => simp [ask, askShutter, askIso, askIsoValue_isoText, askMode, hP, hne]
        | some x =>
            by_cases hx : x = cstr "shutter-prio"
            · simp [ask, askShutter, askIso, askIsoValue_isoText, askMode, hP, hne, hx, hmanual,
                hauto.symm]
            · simp [ask, askShutter, askIso, askIsoValue_isoText, askMode, hP, hne, hx, eq_comm]
      · simp [ask, askShutter, askIso, askIsoValue_isoText, askMode, hP, hne]
  | some s =>
      by_cases hs : s = cstr "auto"
      · by_cases hA : contains modes (cstr "auto") = true
        · -- The automatic mode is set first, and then the one for the ISO value.
          by_cases hP : contains modes (cstr "iso-prio") = true
          · simp [ask, askShutter, askIso, askIsoValue_isoText, askMode, hA, hP, hne, hs,
              hprio.symm, eq_comm]
          · simp [ask, askShutter, askIso, askIsoValue_isoText, askMode, hA, hP, hne, hs, eq_comm]
        · by_cases hP : contains modes (cstr "iso-prio") = true
          · cases mode with
            | none => simp [ask, askShutter, askIso, askIsoValue_isoText, askMode, hA, hP, hne, hs]
            | some x =>
                by_cases hx : x = cstr "shutter-prio"
                · simp [ask, askShutter, askIso, askIsoValue_isoText, askMode, hA, hP, hne, hs, hx,
                    hmanual, hauto.symm]
                · simp [ask, askShutter, askIso, askIsoValue_isoText, askMode, hA, hP, hne, hs, hx,
                    eq_comm]
          · simp [ask, askShutter, askIso, askIsoValue_isoText, askMode, hA, hP, hne, hs]
      · by_cases hP : contains modes (cstr "iso-prio") = true
        · simp [ask, askShutter, askIso, askIsoValue_isoText, askMode, hP, hne, hs, eq_comm,
            and_comm]
        · simp [ask, askShutter, askIso, askIsoValue_isoText, askMode, hP, hne, hs, eq_comm,
            and_comm]

/-- Without a list of modes, an automatic shutter speed cannot be passed on. -/
theorem ask_noModes_iff (iso : Option CStr) :
    (mk none mode vendorIso vendorShutter iso shutter).ask =
      some (mk none mode vendorIso vendorShutter iso shutter) ↔
    (∀ s, iso = some s → s ≠ cstr "auto" → 3 ≤ s.length ∧ vendorIso = some (s.drop 3)) ∧
    ∀ s, shutter = some s →
      s ≠ cstr "auto" ∧ vendorShutter = some s ∧ mode = some (cstr "shutter-prio") := by
  -- The shutter speed is passed on before; it changes the mode and the speed.
  have hiso : ∀ mode' vendorShutter', (mk none mode' vendorIso vendorShutter' iso shutter).askIso =
      some (mk none mode vendorIso vendorShutter iso shutter) ↔
      (∀ s, iso = some s → s ≠ cstr "auto" → 3 ≤ s.length ∧ vendorIso = some (s.drop 3)) ∧
        mode' = mode ∧ vendorShutter' = vendorShutter := by
    intro mode' vendorShutter'
    cases iso with
    | none => simp [askIso]
    | some s =>
        by_cases hs : s = cstr "auto"
        · simp [askIso, askIsoValue, hs]
        · by_cases hlong : 3 ≤ s.length
          · simp [askIso, askIsoValue, plusThree, hs, hlong, eq_comm, and_left_comm]
          · simp [askIso, askIsoValue, plusThree, hs, hlong]
  unfold ask askShutter
  cases shutter with
  | none =>
      rw [Option.bind_some, hiso]
      simp
  | some s =>
      by_cases hs : s = cstr "auto"
      · simp [hs]
      · simp only [ne_eq, hs, not_false_eq_true, if_true, Option.bind_some]
        rw [hiso]
        simp [hs, eq_comm, and_comm]

/-- An ISO value that the vendor does not have is new to it. -/
theorem ask_newIso {iso : CStr} (h : iso ≠ cstr "auto") :
    (mk (some modes) mode none vendorShutter (some iso) shutter).ask ≠
      some (mk (some modes) mode none vendorShutter (some iso) shutter) := by
  intro hask
  rcases Option.bind_eq_some_iff.mp hask with ⟨u, hshutter, hiso⟩
  have hu := askShutter_kept hshutter
  unfold askIso askIsoValue at hiso
  rw [hu.2.1] at hiso
  simp only [ne_eq, h, not_false_eq_true, if_true] at hiso
  cases hthree : plusThree iso with
  | none =>
      rw [hthree] at hiso
      cases hiso
  | some value =>
      rw [hthree] at hiso
      simp only [Option.map_some, hu.1] at hiso
      have hnone := (askMode_kept hiso).2.2.2
      cases hnone

end Asks

section Stable

/-- The modes that are asked for by what they tell. A mode that fixes the shutter
    speed tells one that the vendor has, and a vendor that knows the automatic
    mode is not in another one that tells an automatic shutter speed, unless the
    ISO value gives it back. -/
def ModeStable (modes mode : CStr) (vendorShutter shutter : Option CStr) : Prop :=
  if FixesShutter mode then match vendorShutter.or shutter with
    | none => mode = cstr "manual" → contains modes (cstr "iso-prio") = false
    | some s =>
        if s = cstr "auto" then contains modes (cstr "auto") = false ∧
          (mode = cstr "manual" → contains modes (cstr "iso-prio") = false)
        else vendorShutter = some s ∧
          (mode = cstr "manual" → contains modes (cstr "iso-prio") = true)
  else if FixesIso mode then contains modes (cstr "auto") = true →
    contains modes (cstr "iso-prio") = true
  else contains modes (cstr "auto") = true → mode = cstr "auto"

/-- The exposures that are told the same again. A vendor with a list of modes and
    an ISO value tells its mode; the others leave the application's settings. -/
def Stable (e : ExposureKeys) : Prop :=
  match e.modes, e.vendorIso with
  | some modes, some _ => ∃ mode, e.mode = some mode ∧
      ModeStable modes mode e.vendorShutter e.shutter
  | some modes, none => match e.iso with
    | none => ShutterStable modes e.mode e.vendorShutter e.shutter
    | some iso => iso = cstr "auto" ∧ AutoStable modes e.mode e.vendorShutter e.shutter
  | none, _ =>
      (∀ s, e.iso = some s → s ≠ cstr "auto" → 3 ≤ s.length ∧ e.vendorIso = some (s.drop 3)) ∧
      ∀ s, e.shutter = some s →
        s ≠ cstr "auto" ∧ e.vendorShutter = some s ∧ e.mode = some (cstr "shutter-prio")

/-- What a mode tells asks for the mode. -/
theorem modeStable_iff (modes mode : CStr) (vendorShutter shutter : Option CStr) :
    (if FixesIso mode then FixedStable modes (some mode) vendorShutter
        (if FixesShutter mode then vendorShutter.or shutter else some (cstr "auto"))
      else AutoStable modes (some mode) vendorShutter
        (if FixesShutter mode then vendorShutter.or shutter else some (cstr "auto"))) ↔
    ModeStable modes mode vendorShutter shutter := by
  have hauto : cstr "iso-prio" ≠ cstr "auto" := by decide
  have hmanual : cstr "manual" ≠ cstr "iso-prio" := by decide
  have hmanual' : cstr "manual" ≠ cstr "auto" := by decide
  have hmanual'' : cstr "manual" ≠ cstr "shutter-prio" := by decide
  have hprio := prio_ne_auto
  unfold ModeStable
  by_cases hshutter : FixesShutter mode
  · rw [if_pos hshutter, if_pos hshutter]
    rcases hshutter with rfl | rfl
    · -- The speed has priority, and no ISO value asks for another mode.
      rw [if_neg (by decide)]
      unfold AutoStable
      cases vendorShutter.or shutter with
      | none => simp [hmanual''.symm]
      | some s =>
          by_cases hs : s = cstr "auto"
          · simp [hs, hprio, hmanual''.symm]
          · simp [hs, hmanual''.symm]
    · rw [if_pos (by decide)]
      unfold FixedStable
      cases vendorShutter.or shutter with
      | none => simp [hmanual]
      | some s =>
          by_cases hs : s = cstr "auto"
          · by_cases hP : contains modes (cstr "iso-prio") = true
            · simp [hs, hP, hmanual]
            · simp [hs, hP, hmanual']
          · by_cases hP : contains modes (cstr "iso-prio") = true
            · simp [hs, hP]
            · simp [hs, hP, hmanual'']
  · rw [if_neg hshutter, if_neg hshutter]
    by_cases hiso : FixesIso mode
    · have hmode : mode = cstr "iso-prio" := by
        rcases hiso with hmode | hmode
        · exact hmode
        · exact absurd (Or.inr hmode) hshutter
      rw [if_pos hiso, if_pos hiso, hmode]
      by_cases hP : contains modes (cstr "iso-prio") = true
      · simp [FixedStable, hP]
      · simp [FixedStable, hP, hauto]
    · rw [if_neg hiso, if_neg hiso]
      simp [AutoStable]

/-- The same for the exposure, where a cycle may also not come to its end. -/
theorem tell_stable_iff (e : ExposureKeys) :
    (∃ t, e.tell = some t ∧ t.ask.bind tell = some t) ↔ e.Stable := by
  have hround : (∃ t, e.tell = some t ∧ t.ask.bind tell = some t) ↔
      ∃ t, e.tell = some t ∧ t.ask = some t :=
    ⟨fun ⟨t, htell, hask⟩ => ⟨t, htell, (round_iff_ask htell).mp hask⟩,
      fun ⟨t, htell, hask⟩ => ⟨t, htell, (round_iff_ask htell).mpr hask⟩⟩
  rw [hround]
  rcases e with ⟨modes, mode, vendorIso, vendorShutter, iso, shutter⟩
  unfold Stable
  cases modes with
  | none =>
      have htell : (mk none mode vendorIso vendorShutter iso shutter).tell =
          some (mk none mode vendorIso vendorShutter iso shutter) := by
        cases vendorIso <;> rfl
      rw [htell]
      simp only [Option.some.injEq, exists_eq_left']
      exact ask_noModes_iff _ _ _ _ _
  | some modes => cases vendorIso with
    | none =>
        simp only [tell, Option.some.injEq, exists_eq_left']
        cases iso with
        | none => exact ask_none_iff _ _ _ _ _
        | some iso =>
            by_cases hiso : iso = cstr "auto"
            · simp only [hiso, true_and]
              exact ask_auto_iff _ _ _ _ _
            · simp only [hiso, false_and, iff_false]
              exact ask_newIso _ _ _ _ hiso
    | some vendorIso => cases mode with
      | none => simp [tell]
      | some mode =>
          simp only [tell, Option.some.injEq, exists_eq_left']
          rw [← modeStable_iff]
          by_cases hiso : FixesIso mode
          · rw [if_pos hiso, if_pos hiso]
            exact ask_fixed_iff _ _ _ _ _
          · rw [if_neg hiso, if_neg hiso]
            exact ask_auto_iff _ _ _ _ _

end Stable

end ExposureKeys

end Camera

end Taoshan

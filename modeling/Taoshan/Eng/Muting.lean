import Taoshan.Eng.Steps

/-!
# The Privacy Override

A network initiated request with the privacy override mutes one session: the
mute state waits for the session to begin or the engine to come on, is in
session from then on, and ends with the session or the engine. What the modem
reports in between is not to reach the framework.

The state is kept in three places and asked in three of the four that deliver
reports. `processMsg_mute` says what one round makes of it, whatever the
message; from that the beginning and the end of a muted period are read off
(`mute_entered`, `mute_left`). The report that does not ask is NMEA. A step is
in order exactly if it is not an NMEA sentence taken up in session with a
callback to deliver it to, and so is a run (`honoured_iff`).

## Main definitions

* `EngMsg.isModemReport`, `Event.isReportCallback`: Reports, and where they go.
* `Honoured`: What the override asks of a step.
* `NmeaWithheld`: No NMEA sentence is taken up in session.
* `muteAfter`: The mute state after a message.

## Theorems

* `processMsg_mute`: What a round makes of the mute state.
* `mute_entered`, `mute_left`: The beginning and the end of a muted period.
* `quiet_of_muted`: The other three reports are held back.
* `honoured_iff`: The override is honoured if and only if no NMEA sentence is
  delivered.
-/

namespace Taoshan

namespace Eng

open Agps

/-- The four reports of the modem. -/
def EngMsg.isModemReport : EngMsg → Bool
  | .reportPosition .. => true
  | .reportSv .. => true
  | .reportNmea .. => true
  | .reportStatus _ => true
  | _ => false

/-- The callbacks they are delivered to. -/
def Event.isReportCallback : Event → Bool
  | .locationCb _ => true
  | .svStatusCb .. => true
  | .nmeaCb .. => true
  | .statusCb _ => true
  | _ => false

/-- A report that is taken up in a muted session, and does not end it, invokes
    no callback. -/
def Honoured (p : Platform) (e : Engine) (a : Action) : Prop :=
  ∀ env msg e' xs, a = .take env msg → msg.isModemReport = true → step p e a = some e' →
    e'.log = e.log ++ xs → e.data.muteSessionState = .inSession →
    e'.data.muteSessionState = .inSession → ∀ x ∈ xs, x.isReportCallback = false

/-- No NMEA sentence is taken up in a muted session, if there is a callback for it. -/
def NmeaWithheld (e : Engine) (a : Action) : Prop :=
  ∀ env nmea length, a = .take env (.reportNmea nmea length) →
    ¬ (e.data.muteSessionState = .inSession ∧ e.data.nmeaCb = true)

/-- The mute state after a message. -/
def muteAfter (d : EngData) : EngMsg → Ni.MuteSession
  | .requestNi notifyFlags _ =>
      -- An override that is accepted is waited for, even in a muted session.
      if d.ni.niNotifyCb = true ∧ d.ni.rawRequest = none ∧
          notifyFlags = Ni.GPS_NI_PRIVACY_OVERRIDE then .wait
      else d.muteSessionState
  | .reportStatus status => mutedBy d.muteSessionState status
  | .engineDown => mutedBy d.muteSessionState GPS_STATUS_ENGINE_OFF
  | .nif .engineUp => mutedBy d.muteSessionState GPS_STATUS_ENGINE_ON
  | _ => d.muteSessionState

section Rounds

variable {p : Platform} {env : ThreadEnv} {d d' : EngData} {es : List Event}

theorem muteAfter_requestNi (d : EngData) (notifyFlags timeout : Nat) :
    muteAfter d (.requestNi notifyFlags timeout) =
      if d.ni.niNotifyCb = true ∧ d.ni.rawRequest = none ∧
          notifyFlags = Ni.GPS_NI_PRIVACY_OVERRIDE then .wait
      else d.muteSessionState := rfl

theorem muteAfter_reportStatus (d : EngData) (status : GpsStatusValue) :
    muteAfter d (.reportStatus status) = mutedBy d.muteSessionState status := rfl

theorem muteAfter_engineUp (d : EngData) :
    muteAfter d (.nif .engineUp) = mutedBy d.muteSessionState GPS_STATUS_ENGINE_ON := rfl

theorem mute_of_only (h : ∃ b, d' = { d with isInSession := b }) :
    d'.muteSessionState = d.muteSessionState := by
  rcases h with ⟨b, rfl⟩
  rfl

theorem reportStatus_mute (d : EngData) (status : GpsStatusValue) :
    (reportStatus d status).1.muteSessionState = mutedBy d.muteSessionState status := rfl

theorem flushAidingData_mute (d : EngData) :
    (flushAidingData d).1.muteSessionState = d.muteSessionState := by
  unfold flushAidingData
  split
  · rfl
  · rfl

theorem postDispatch_mute (env : ThreadEnv) (d : EngData) (msg : EngMsg) :
    (postDispatch env d msg).1.muteSessionState = d.muteSessionState := by
  simp only [postDispatch]
  rw [flushAidingData_mute]
  rcases finishStop_only env d msg with ⟨b, c, h⟩
  rw [h]
  rfl

theorem niRequestHandler_mute (s : Ni.Sys) (notifyFlags timeout : Nat) (created : Bool) :
    (Ni.niRequestHandler s notifyFlags timeout created).muteSessionState =
      if s.niNotifyCb = true ∧ s.rawRequest = none ∧ notifyFlags = Ni.GPS_NI_PRIVACY_OVERRIDE then
        .wait
      else s.muteSessionState := by
  unfold Ni.niRequestHandler
  cases s.niNotifyCb with
  | false => simp only [if_true, Bool.false_eq_true, false_and, if_false]
  | true =>
      simp only [Bool.true_eq_false, if_false, true_and]
      cases s.rawRequest with
      | none => simp only [true_and]
      | some r => simp only [reduceCtorEq, false_and, if_false]

theorem niReset_mute (s : Ni.Sys) :
    (Ni.niResetOnEngineRestart s).muteSessionState = s.muteSessionState := by
  unfold Ni.niResetOnEngineRestart
  split
  · rfl
  · split
    · rfl
    · rfl

theorem handleEngineUp_mute (h : handleEngineUp p env d = some (d', es)) :
    d'.muteSessionState = mutedBy d.muteSessionState GPS_STATUS_ENGINE_ON := by
  rcases handleEngineUp_inv h with ⟨d₁, es₁, h₁, rfl, _⟩
  rcases agpsRestart_inv h₁ with ⟨xs, hn, _⟩
  -- Of the parts, only the status report looks at the mute state.
  rw [mute_of_only (resumeFix_only env _), reportStatus_mute,
    hn.same EngData.muteSessionState (fun _ => rfl)]

theorem muteAfter_nif {m : Msg} (hm : m ≠ .engineUp) :
    muteAfter d (.nif m) = d.muteSessionState := by
  cases m with
  | engineUp => exact absurd rfl hm
  | _ => rfl

/-- What is passed on does not touch it. -/
theorem muteAfter_of_isPassedOn {msg : EngMsg} (h : msg.isPassedOn = true) :
    muteAfter d msg = d.muteSessionState := by
  cases msg with
  | requestNi | reportStatus | engineDown | nif => cases h
  | _ => rfl

/-- What the dispatch makes of the mute state. -/
theorem dispatch_mute {msg : EngMsg} (h : dispatch p env d msg = some (d', es)) :
    d'.muteSessionState = muteAfter d msg := by
  cases dispatch_inv h with
  | requestNi hmsg =>
      rw [hmsg]
      exact niRequestHandler_mute d.ni _ _ env.created
  | reportStatus hmsg =>
      rw [hmsg]
      rfl
  | engineDown hmsg =>
      rw [hmsg, handleEngineDown, reportStatus_mute]
      exact congrArg (fun m => mutedBy m GPS_STATUS_ENGINE_OFF) (niReset_mute d.ni)
  | engineUp hmsg hup =>
      rw [hmsg]
      exact handleEngineUp_mute hup
  | nif hmsg hm hn =>
      rw [hmsg, hn.same EngData.muteSessionState (fun _ => rfl)]
      exact (muteAfter_nif hm).symm
  | startFix hmsg =>
      rw [hmsg]
      exact mute_of_only (startHandler_only env d)
  | stopDeferred hmsg =>
      rw [hmsg]
      rfl
  | stopFix hmsg =>
      rw [hmsg]
      exact mute_of_only (stopHandler_only env d)
  | reportPosition hmsg =>
      rw [hmsg]
      exact mute_of_only (reportPosition_only p env d _ _ _)
  | deleteAidingData hmsg =>
      rw [hmsg]
      rfl
  | passedOn hmsg => exact (muteAfter_of_isPassedOn hmsg).symm

/-- What a round makes of the mute state. -/
theorem processMsg_mute {msg : EngMsg} (h : processMsg p env d msg = some (d', es)) :
    d'.muteSessionState = muteAfter d msg := by
  rcases processMsg_inv h with ⟨d₁, es₁, hdispatch, rfl, _⟩
  rw [postDispatch_mute, dispatch_mute hdispatch]

/-- The state is in session after a status only if it was, or waited for it. -/
theorem wait_of_mutedBy {m : Ni.MuteSession} {status : GpsStatusValue} (hm : m ≠ .inSession)
    (h : mutedBy m status = .inSession) :
    m = .wait ∧ (status = GPS_STATUS_SESSION_BEGIN ∨ status = GPS_STATUS_ENGINE_ON) := by
  by_contra hnot
  have hno : ¬ ((status = GPS_STATUS_SESSION_BEGIN ∨ status = GPS_STATUS_ENGINE_ON) ∧ m = .wait) :=
    fun hc => hnot ⟨hc.2, hc.1⟩
  simp only [mutedBy, if_neg hno] at h
  split at h
  · cases h
  · exact hm h

/-- And it is not only if the session or the engine has ended. -/
theorem ended_of_mutedBy {status : GpsStatusValue} (h : mutedBy .inSession status ≠ .inSession) :
    status = GPS_STATUS_SESSION_END ∨ status = GPS_STATUS_ENGINE_OFF := by
  by_contra hnot
  refine h ?_
  have hno : ¬ ((status = GPS_STATUS_SESSION_BEGIN ∨ status = GPS_STATUS_ENGINE_ON) ∧
      Ni.MuteSession.inSession = .wait) := fun hc => absurd hc.2 (by decide)
  simp only [mutedBy, if_neg hno, true_and, if_neg hnot]

/-- A muted session begins with the session or the engine, after an override. -/
theorem mute_entered {msg : EngMsg} (h : processMsg p env d msg = some (d', es))
    (hbefore : d.muteSessionState ≠ .inSession) (hafter : d'.muteSessionState = .inSession) :
    d.muteSessionState = .wait ∧
      (msg = .reportStatus GPS_STATUS_SESSION_BEGIN ∨ msg = .reportStatus GPS_STATUS_ENGINE_ON ∨
        msg = .nif .engineUp) := by
  rw [processMsg_mute h] at hafter
  cases msg with
  | requestNi notifyFlags timeout =>
      rw [muteAfter_requestNi] at hafter
      split at hafter
      · cases hafter
      · exact absurd hafter hbefore
  | reportStatus status =>
      rcases wait_of_mutedBy hbefore hafter with ⟨hwait, rfl | rfl⟩
      · exact ⟨hwait, Or.inl rfl⟩
      · exact ⟨hwait, Or.inr (Or.inl rfl)⟩
  | engineDown =>
      -- It reports that the engine is off, which begins nothing.
      rcases wait_of_mutedBy hbefore hafter with ⟨_, hstatus | hstatus⟩
      · exact absurd hstatus (by decide)
      · exact absurd hstatus (by decide)
  | nif m =>
      cases m with
      | engineUp => exact ⟨(wait_of_mutedBy hbefore hafter).1, Or.inr (Or.inr rfl)⟩
      | _ => exact absurd hafter hbefore
  | _ => exact absurd hafter hbefore

/-- It ends with the session or the engine, or with another override. -/
theorem mute_left {msg : EngMsg} (h : processMsg p env d msg = some (d', es))
    (hbefore : d.muteSessionState = .inSession) (hafter : d'.muteSessionState ≠ .inSession) :
    msg = .reportStatus GPS_STATUS_SESSION_END ∨ msg = .reportStatus GPS_STATUS_ENGINE_OFF ∨
      msg = .engineDown ∨ ∃ timeout, msg = .requestNi Ni.GPS_NI_PRIVACY_OVERRIDE timeout := by
  rw [processMsg_mute h] at hafter
  cases msg with
  | requestNi notifyFlags timeout =>
      rw [muteAfter_requestNi] at hafter
      split at hafter
      · next haccepted => exact Or.inr (Or.inr (Or.inr ⟨timeout, by rw [haccepted.2.2]⟩))
      · exact absurd hbefore hafter
  | reportStatus status =>
      rw [muteAfter_reportStatus, hbefore] at hafter
      rcases ended_of_mutedBy hafter with rfl | rfl
      · exact Or.inl rfl
      · exact Or.inr (Or.inl rfl)
  | engineDown => exact Or.inr (Or.inr (Or.inl rfl))
  | nif m =>
      cases m with
      | engineUp =>
          rw [muteAfter_engineUp, hbefore] at hafter
          exact absurd (ended_of_mutedBy hafter) (by decide)
      | _ => exact absurd hbefore hafter
  | _ => exact absurd hbefore hafter

/-- After a message that is no answer of the service, aiding data may be
    deleted, and that is all. -/
theorem postDispatch_of_other {msg : EngMsg} (env : ThreadEnv) (d : EngData)
    (h : msg.isAtlAnswer = false) :
    ∀ x ∈ (postDispatch env d msg).2, x.isReportCallback = false := by
  intro x hx
  simp only [postDispatch, finishStop, h, Bool.false_eq_true, if_false, List.nil_append] at hx
  rcases flushAidingData_events _ x hx with ⟨f, rfl⟩
  rfl

/-- In a muted session, positions, satellites and statuses are held back. NMEA
    sentences are if there is no callback for them. -/
theorem quiet_of_muted {msg : EngMsg} (h : dispatch p env d msg = some (d', es))
    (hmsg : msg.isModemReport = true) (hbefore : d.muteSessionState = .inSession)
    (hafter : d'.muteSessionState = .inSession)
    (hnmea : ∀ nmea length, msg = .reportNmea nmea length → d.nmeaCb = false) : es = [] := by
  have hof : ∀ {r : EngData × List Event}, some r = some (d', es) → r.2 = [] → es = [] := by
    intro r heq hr
    rw [Option.some.injEq] at heq
    rw [heq] at hr
    exact hr
  cases msg with
  | reportPosition location locationExt status =>
      refine hof h ?_
      simp only [reportPosition, hbefore, if_true]
  | reportSv svStatus svExt =>
      refine hof h ?_
      simp only [hbefore, ne_eq, not_true_eq_false, false_and, if_false]
  | reportStatus status =>
      refine hof h (if_neg (fun hc => ?_))
      -- The state that is tested is the one after the report.
      have hsame : mutedBy d.muteSessionState status = d'.muteSessionState := (dispatch_mute h).symm
      exact hc.2.2.2 (hsame.trans hafter)
  | reportNmea nmea length =>
      refine hof h ?_
      simp only [hnmea nmea length rfl, Bool.false_eq_true, if_false]
  | _ => cases hmsg

end Rounds

section Runs

variable {p : Platform} {e e' : Engine}

/-- Withholding NMEA is enough. -/
theorem honoured_of_withheld {a : Action} (h : NmeaWithheld e a) : Honoured p e a := by
  intro env msg e' xs ha hmsg hstep hlog hbefore hafter x hx
  subst ha
  rcases step_take_inv hstep with ⟨_, htaken⟩
  -- The log fixes what the step has added to it.
  have htook : ∀ ys, e'.log = e.log ++ ys → xs = ys := by
    intro ys hys
    rw [hys] at hlog
    exact (List.append_cancel_left hlog).symm
  cases htaken with
  | returned _ =>
      rw [htook [.took msg] rfl] at hx
      rw [List.mem_singleton.mp hx]
      rfl
  | faulted _ _ _ =>
      rw [htook [.took msg] rfl] at hx
      rw [List.mem_singleton.mp hx]
      rfl
  | round _ _ hround =>
      rcases processMsg_inv hround with ⟨d₁, es₁, hdispatch, rfl, rfl⟩
      rw [htook ([.took msg] ++ (es₁ ++ (postDispatch env d₁ msg).2))
        (List.append_assoc _ _ _)] at hx
      simp only [postDispatch_mute] at hafter
      have hquiet : es₁ = [] := quiet_of_muted hdispatch hmsg hbefore hafter
        (fun nmea length hm => by
          have hno := h env nmea length (by rw [hm])
          rw [not_and, Bool.not_eq_true] at hno
          exact hno hbefore)
      rw [hquiet, List.nil_append] at hx
      -- What is left is what comes after the dispatch; no report is an answer.
      rcases List.mem_append.mp hx with hx | hx
      · rw [List.mem_singleton.mp hx]
        rfl
      · refine postDispatch_of_other env d₁ ?_ x hx
        cases msg with
        | nif m => cases hmsg
        | _ => rfl

/-- An NMEA sentence in a muted session is delivered. -/
theorem not_honoured_of_nmea {env : ThreadEnv} {nmea : List UInt8} {length : Nat}
    (hrunning : e.phase = .running) (hcontext : e.data.context = true)
    (hmute : e.data.muteSessionState = .inSession) (hcb : e.data.nmeaCb = true) :
    ¬ Honoured p e (.take env (.reportNmea nmea length)) := by
  intro h
  have hdispatch : dispatch p env e.data (.reportNmea nmea length) =
      some (e.data, [.nmeaCb env.now nmea length]) := by
    simp only [dispatch, hcb, if_true]
  have hround : processMsg p env e.data (.reportNmea nmea length) =
      some ((postDispatch env e.data (.reportNmea nmea length)).1,
        .nmeaCb env.now nmea length :: (postDispatch env e.data (.reportNmea nmea length)).2) := by
    unfold processMsg
    rw [hdispatch]
    rfl
  have hstep : step p e (.take env (.reportNmea nmea length)) =
      some (e.take p env (.reportNmea nmea length)) := by
    simp only [step, hrunning, reduceCtorEq, if_false, if_true]
  have htake : e.take p env (.reportNmea nmea length) =
      { e with
        data := (postDispatch env e.data (.reportNmea nmea length)).1
        log := e.log ++ [.took (.reportNmea nmea length)] ++ (.nmeaCb env.now nmea length ::
          (postDispatch env e.data (.reportNmea nmea length)).2) } := by
    simp only [Engine.take, hcontext, hround, Bool.true_eq_false, reduceCtorEq, if_false]
  have hquiet := h env _ _ ([.took (.reportNmea nmea length)] ++ (.nmeaCb env.now nmea length ::
      (postDispatch env e.data (.reportNmea nmea length)).2)) rfl rfl hstep
    (by rw [htake, List.append_assoc]) hmute (by rw [htake, postDispatch_mute]; exact hmute)
    (.nmeaCb env.now nmea length) (List.mem_append_right _ List.mem_cons_self)
  cases hquiet

/-- Of a step that can be taken, the override is honoured exactly if NMEA is
    withheld. -/
theorem honoured_step_iff {a : Action} (hw : WellStarted e) (hstep : step p e a = some e') :
    Honoured p e a ↔ NmeaWithheld e a := by
  refine ⟨fun h env nmea length ha hmuted => ?_, honoured_of_withheld⟩
  subst ha
  have hrunning := (step_take_inv hstep).1
  exact not_honoured_of_nmea hrunning (hw.context hrunning) hmuted.1 hmuted.2 h

/-- Over every run, the override is honoured in every step if and only if no
    NMEA sentence is taken up in a muted session that has a callback for it. -/
theorem honoured_iff (p : Platform) (as : List Action) :
    Run.Guarded (step p) (Honoured p) .fresh as ↔ Run.Guarded (step p) NmeaWithheld .fresh as :=
  Run.guarded_iff WellStarted (fun _ _ _ => wellStarted_step) (fun _ _ _ => honoured_step_iff)
    wellStarted_fresh

/-- A request with the override is accepted, and the session begins. -/
def mutedRun : List Action :=
  [.init .agreed, .ni (.init true), .take .agreed (.requestNi Ni.GPS_NI_PRIVACY_OVERRIDE 0),
    .take .agreed (.reportStatus GPS_STATUS_SESSION_BEGIN)]

/-- The NMEA sentence that comes next is delivered. -/
theorem mutedRun_leaks :
    ¬ Run.Guarded (step .unconfigured) (Honoured .unconfigured) .fresh
      (mutedRun ++ [.take .agreed (.reportNmea [] 0)]) := by
  have hend : (Run.exec (step .unconfigured) .fresh mutedRun).map (fun e =>
      (e.phase, e.data.context, e.data.muteSessionState, e.data.nmeaCb)) =
        some (.running, true, .inSession, true) := by
    decide +kernel
  rcases Option.map_eq_some_iff.mp hend with ⟨e, hexec, he⟩
  simp only [Prod.mk.injEq] at he
  rcases he with ⟨hrunning, hcontext, hmute, hcb⟩
  intro hall
  have hlast := Run.guarded_append hall hexec
  have hstep : ∃ t, step .unconfigured e (.take .agreed (.reportNmea [] 0)) = some t := by
    simp only [step, hrunning, reduceCtorEq, if_false, if_true]
    exact ⟨_, rfl⟩
  rcases hstep with ⟨t, ht⟩
  exact not_honoured_of_nmea hrunning hcontext hmute hcb (hlast t ht).1

end Runs

end Eng

end Taoshan

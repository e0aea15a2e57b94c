import Taoshan.Eng.DeferredStop
import Taoshan.Lib.Monitor

/-!
# Starting and Stopping a Fix

The thread starts and stops a fix in five places: the two handlers, the restart
after the modem was down, a stop that was put off, and a report that ends a
single shot. The adapter should be told to start only while it is not in session
and to stop only while it is, so that every stop comes directly after a start.

Four of the places go through the handlers, which ask the flag. The fifth does
not. An intermediate report that is passed on, with the position mode of a single
shot, stops the fix whether or not there is one, and the first of two such
reports has already turned off the flag when the second is taken up. This is the
only way in which a call can be out of place, so the condition on a run is exact
(`fixCalls_iff`).

The log of the engine does not show the flag. So the calls are told again with
the flag they meet (`roundCalls`), and these are the calls in the log
(`runCalls_log`).

## Main definitions

* `FixCall`, `FlaggedCall`: A start or a stop, and the flag it meets.
* `roundCalls`, `runCalls`: Those of a round and of a run.
* `FlaggedCall.Proper`: It starts outside a session, or stops inside one.
* `follows`: Every stop comes directly after a start.
* `StopsEarly`: A report that stops a fix of which it is not the last.
* `KeepsSession`: It is taken up in a session.

## Theorems

* `runCalls_log`: What is told is what the log shows.
* `roundCalls_proper_iff`: The calls of a round are proper if and only if it
  meets the condition.
* `roundCalls_orderly`: Proper calls are in order.
* `fixCalls_iff`: The runs in which all are.
* `twoReports_stop`: One in which a session is stopped twice.
-/

namespace Taoshan

namespace Eng

open Agps

/-- The calls of the adapter that start and stop a fix. -/
inductive FixCall
  | startFix
  | stopFix
  deriving DecidableEq

/-- The start or stop that an event is. -/
def Event.fixCall : Event → Option FixCall
  | .call _ .startFix => some .startFix
  | .call _ .stopFix => some .stopFix
  | _ => none

/-- The starts and stops among the events. -/
def fixCalls (es : List Event) : List FixCall := es.filterMap Event.fixCall

/-- A start or a stop, and what `isInSession` would have said just before. -/
structure FlaggedCall where
  inSession : Bool
  call : FixCall
  deriving DecidableEq

/-- A start outside a session, or a stop inside one. -/
def FlaggedCall.Proper (c : FlaggedCall) : Prop := c.inSession = true ↔ c.call = .stopFix

section Calls

variable (p : Platform) (env : ThreadEnv) (d : EngData)

/-- The calls of `loc_eng_start_handler`. -/
def startHandlerCalls : List FlaggedCall :=
  if d.isInSession then [] else [⟨d.isInSession, .startFix⟩]

/-- The calls of `loc_eng_stop_handler`. -/
def stopHandlerCalls : List FlaggedCall :=
  if d.isInSession then [⟨d.isInSession, .stopFix⟩] else []

/-- The calls of `LOC_ENG_MSG_REPORT_POSITION`. -/
def reportPositionCalls (location : GpsLocation) (locationExt : List UInt8)
    (status : LocSessStatus) : List FlaggedCall :=
  if d.muteSessionState = .inSession then []
  else if positionReport p d location locationExt status ≠ [] ∧
      env.recurrence = GPS_POSITION_RECURRENCE_SINGLE then
    -- The flag is turned off behind the stop, and not asked in front of it.
    if status = .intermediate then [⟨d.isInSession, .stopFix⟩] else []
  else []

/-- The calls of the last part of `loc_eng_handle_engine_up`. -/
def resumeFixCalls : List FlaggedCall :=
  if d.isInSession then startHandlerCalls { d with isInSession := false } else []

/-- The calls of the `switch`. What the modem's return does in front of its last
    part leaves the flag alone. -/
def dispatchCalls : EngMsg → List FlaggedCall
  | .startFix => startHandlerCalls d
  | .stopFix => if d.agpsRequestPending then [] else stopHandlerCalls d
  | .reportPosition location locationExt status =>
      reportPositionCalls p env d location locationExt status
  | .nif .engineUp => resumeFixCalls d
  | _ => []

/-- The calls of a stop that was put off. -/
def finishStopCalls (msg : EngMsg) : List FlaggedCall :=
  if msg.isAtlAnswer then (if d.stopRequestPending then stopHandlerCalls d else []) else []

/-- The calls of a round. One that follows a NULL pointer has not got so far. -/
def roundCalls (msg : EngMsg) : List FlaggedCall :=
  match dispatch p env d msg with
  | none => []
  | some (d', _) => dispatchCalls p env d msg ++ finishStopCalls d' msg

/-- The calls of a step: only the thread makes any. -/
def stepCalls (e : Engine) : Action → List FlaggedCall
  | .take env msg =>
      if e.data.context = false ∨ msg = .quit then [] else roundCalls p env e.data msg
  | _ => []

/-- The calls of a run. -/
def runCalls (e : Engine) (as : List Action) : List FlaggedCall :=
  Run.collect (step p) (stepCalls p) e as

end Calls

section Log

variable {p : Platform} {env : ThreadEnv} {d d' : EngData} {es : List Event} {msg : EngMsg}

theorem fixCalls_append (xs ys : List Event) :
    fixCalls (xs ++ ys) = fixCalls xs ++ fixCalls ys := List.filterMap_append

theorem fixCalls_eq_nil (h : ∀ x ∈ es, x.fixCall = none) : fixCalls es = [] :=
  List.filterMap_eq_nil_iff.mpr h

theorem fixCalls_informGpsStatus (d : EngData) (status : GpsStatusValue) :
    fixCalls (informGpsStatus d status) = [] := by
  refine fixCalls_eq_nil (fun x hx => ?_)
  rw [informGpsStatus_events d status x hx]
  rfl

theorem fixCalls_reportStatus (d : EngData) (status : GpsStatusValue) :
    fixCalls (reportStatus d status).2 = [] := by
  refine fixCalls_eq_nil (fun x hx => ?_)
  rw [reportStatus_events d status x hx]
  rfl

theorem fixCalls_queued (msgs : List EngMsg) : fixCalls (msgs.map Event.queued) = [] := by
  refine fixCalls_eq_nil (fun x hx => ?_)
  rcases List.mem_map.mp hx with ⟨msg, _, rfl⟩
  rfl

/-- The machines start and stop no session. -/
theorem fixCalls_nif (h : NifStep d d' es) : fixCalls es = [] := by
  refine fixCalls_eq_nil (fun x hx => ?_)
  rcases h.events x hx with ⟨i, y, rfl⟩
  rfl

/-- Handler by handler, the calls among the events are the ones listed, in that order.
    -/
theorem fixCalls_startHandler (env : ThreadEnv) (d : EngData) :
    fixCalls (startHandler env d).2 = (startHandlerCalls d).map FlaggedCall.call := by
  unfold startHandler startHandlerCalls
  by_cases hsession : d.isInSession = true
  · rw [if_pos hsession, if_pos hsession]
    rfl
  · rw [if_neg hsession, if_neg hsession]
    split
    · exact congrArg (FixCall.startFix :: ·) (fixCalls_informGpsStatus d _)
    · rfl

theorem fixCalls_stopHandler (env : ThreadEnv) (d : EngData) :
    fixCalls (stopHandler env d).2 = (stopHandlerCalls d).map FlaggedCall.call := by
  unfold stopHandler stopHandlerCalls
  by_cases hsession : d.isInSession = true
  · rw [if_pos hsession, if_pos hsession]
    refine congrArg (FixCall.stopFix :: ·) ?_
    split
    · exact fixCalls_informGpsStatus d _
    · rfl
  · rw [if_neg hsession, if_neg hsession]
    rfl

theorem fixCalls_resumeFix (env : ThreadEnv) (d : EngData) :
    fixCalls (resumeFix env d).2 = (resumeFixCalls d).map FlaggedCall.call := by
  unfold resumeFix resumeFixCalls
  by_cases hsession : d.isInSession = true
  · rw [if_pos hsession, if_pos hsession]
    exact fixCalls_startHandler env { d with isInSession := false }
  · rw [if_neg hsession, if_neg hsession]
    rfl

theorem fixCalls_positionReport (p : Platform) (d : EngData) (location : GpsLocation)
    (locationExt : List UInt8) (status : LocSessStatus) :
    fixCalls (positionReport p d location locationExt status) = [] := by
  refine fixCalls_eq_nil (fun x hx => ?_)
  rcases positionReport_events p d location locationExt status x hx with ⟨l, rfl⟩
  rfl

theorem fixCalls_reportPosition (p : Platform) (env : ThreadEnv) (d : EngData)
    (location : GpsLocation) (locationExt : List UInt8) (status : LocSessStatus) :
    fixCalls (reportPosition p env d location locationExt status).2 =
      (reportPositionCalls p env d location locationExt status).map FlaggedCall.call := by
  simp only [reportPosition, reportPositionCalls]
  split
  · rfl
  · split
    · rw [fixCalls_append, fixCalls_positionReport]
      split
      · rfl
      · rfl
    · exact fixCalls_positionReport p d location locationExt status

/-- A message that is passed on to the adapter starts and stops nothing. -/
theorem fixCalls_adapter (d : EngData) (msg : AdapterMsg) :
    fixCalls (msg.calls.map d.calls) = [] := by
  cases msg <;> rfl

theorem fixCalls_one {c : Prop} [Decidable c] {x : Event} (hx : x.fixCall = none) :
    fixCalls (if c then [x] else []) = [] := by
  refine fixCalls_eq_nil (fun y hy => ?_)
  rw [List.mem_singleton.mp (List.mem_ite_nil_right.mp hy).2]
  exact hx

/-- The flag is the one that the message has found. -/
theorem fixCalls_handleEngineUp (h : handleEngineUp p env d = some (d', es)) :
    fixCalls es = (resumeFixCalls d).map FlaggedCall.call := by
  rcases handleEngineUp_inv h with ⟨d₁, es₁, h₁, rfl, rfl⟩
  rcases agpsRestart_inv h₁ with ⟨xs, hn, rfl⟩
  -- Neither the machines nor the status touch the flag.
  have hsame : d₁.isInSession = d.isInSession := hn.same EngData.isInSession (fun _ => rfl)
  have hsession : (reportStatus d₁ GPS_STATUS_ENGINE_ON).1.isInSession = d.isInSession := hsame
  have hreinit : fixCalls (reinit p env.reinit d).2 = [] := by
    unfold reinit
    refine congrArg (([] : List FixCall) ++ ·) ?_
    split
    · exact fixCalls_queued _
    · rfl
  have hqueued : fixCalls (if d.agpsStatusCb then
      (agpsReinit env.resolveInAddr d).map Event.queued else []) = [] := by
    split
    · exact fixCalls_queued _
    · rfl
  simp only [fixCalls_append, hreinit, hqueued, fixCalls_nif hn, fixCalls_reportStatus,
    List.nil_append, fixCalls_resumeFix]
  simp only [resumeFixCalls, startHandlerCalls, hsession]

theorem dispatchCalls_nif (p : Platform) (env : ThreadEnv) (d : EngData) {m : Msg}
    (hm : m ≠ .engineUp) : dispatchCalls p env d (.nif m) = [] := by
  cases m with
  | engineUp => exact absurd rfl hm
  | _ => rfl

/-- So they are for a whole message. -/
theorem fixCalls_dispatch (h : dispatch p env d msg = some (d', es)) :
    fixCalls es = (dispatchCalls p env d msg).map FlaggedCall.call := by
  have hof : ∀ {r : EngData × List Event} {cs : List FixCall}, some r = some (d', es) →
      fixCalls r.2 = cs → fixCalls es = cs := by
    intro r cs heq hr
    rw [Option.some.injEq] at heq
    rw [heq] at hr
    exact hr
  cases msg with
  | nif m =>
      by_cases hm : m = .engineUp
      · subst hm
        exact fixCalls_handleEngineUp h
      · rw [fixCalls_nif (handleNif_data hm h), dispatchCalls_nif p env d hm]
        rfl
  | startFix => exact hof h (fixCalls_startHandler env d)
  | stopFix =>
      simp only [dispatch] at h
      by_cases hpending : d.agpsRequestPending = true
      · rw [if_pos hpending] at h
        exact hof h (by rw [dispatchCalls, if_pos hpending]; rfl)
      · rw [if_neg hpending] at h
        exact hof h (by rw [dispatchCalls, if_neg hpending]; exact fixCalls_stopHandler env d)
  | reportPosition location locationExt status =>
      exact hof h (fixCalls_reportPosition p env d location locationExt status)
  | adapter msg => exact hof h (fixCalls_adapter d msg)
  | reportStatus status => exact hof h (fixCalls_reportStatus d status)
  | engineDown => exact hof h (fixCalls_reportStatus _ _)
  | reportSv | reportNmea | requestXtraData | requestNetworkPosition | requestPhoneContext =>
      exact hof h (fixCalls_one rfl)
  | _ => exact hof h rfl

/-- And for what is done after it. -/
theorem fixCalls_postDispatch (env : ThreadEnv) (d : EngData) (msg : EngMsg) :
    fixCalls (postDispatch env d msg).2 = (finishStopCalls d msg).map FlaggedCall.call := by
  have hflush : ∀ d : EngData, fixCalls (flushAidingData d).2 = [] := by
    intro d
    refine fixCalls_eq_nil (fun x hx => ?_)
    rcases flushAidingData_events d x hx with ⟨f, rfl⟩
    rfl
  unfold postDispatch
  rw [fixCalls_append, hflush, List.append_nil]
  unfold finishStop finishStopCalls
  by_cases hanswer : msg.isAtlAnswer = true
  · rw [if_pos hanswer, if_pos hanswer]
    dsimp only
    by_cases hstop : d.stopRequestPending = true
    · rw [if_pos hstop, if_pos hstop]
      exact fixCalls_stopHandler env { d with agpsRequestPending := false }
    · rw [if_neg hstop, if_neg hstop]
      rfl
  · rw [if_neg hanswer, if_neg hanswer]
    rfl

/-- What is told of a round is what its events show. -/
theorem fixCalls_processMsg (h : processMsg p env d msg = some (d', es)) :
    fixCalls es = (roundCalls p env d msg).map FlaggedCall.call := by
  rcases processMsg_inv h with ⟨d₁, es₁, hdispatch, rfl, rfl⟩
  simp only [roundCalls, hdispatch, fixCalls_append, fixCalls_dispatch hdispatch,
    fixCalls_postDispatch, List.map_append]

theorem fixCalls_ofCaller (h : ∀ x ∈ es, x.ofCaller = true) : fixCalls es = [] := by
  refine fixCalls_eq_nil (fun x hx => ?_)
  have hcaller := h x hx
  cases x with
  | call engineStatus c =>
      cases c with
      | reinit => rfl
      | _ => cases hcaller
  | _ => rfl

/-- What is told of a step is what it adds to the log. -/
theorem fixCalls_step {e e' : Engine} {a : Action} (h : step p e a = some e') :
    fixCalls e'.log = fixCalls e.log ++ (stepCalls p e a).map FlaggedCall.call := by
  rcases step_cases h with ha | ⟨env, msg, rfl, _, htaken⟩
  · rcases step_caller_log ha h with ⟨xs, hxs, hcaller⟩
    have hnone : stepCalls p e a = [] := by
      cases a with
      | take env msg => cases ha
      | _ => rfl
    rw [hxs, fixCalls_append, fixCalls_ofCaller hcaller, hnone]
    rfl
  · cases htaken with
    | returned hend =>
        rw [stepCalls, if_pos hend, fixCalls_append]
        rfl
    | faulted hcontext hmsg hfault =>
        have hnone : roundCalls p env e.data msg = [] := by
          rw [roundCalls, processMsg_eq_none hfault]
        rw [stepCalls, hnone, ite_self, fixCalls_append]
        rfl
    | round hcontext hmsg hround =>
        have hgo : ¬ (e.data.context = false ∨ msg = .quit) := by
          rw [hcontext]
          exact not_or_intro (Ne.symm Bool.false_ne_true) hmsg
        rw [stepCalls, if_neg hgo, fixCalls_append, fixCalls_append, fixCalls_processMsg hround]
        rw [List.append_assoc]
        rfl

/-- What is told of a run is what the log shows at its end. -/
theorem runCalls_log {as : List Action} {e : Engine}
    (h : Run.exec (step p) .fresh as = some e) :
    fixCalls e.log = (runCalls p .fresh as).map FlaggedCall.call := by
  unfold runCalls
  rw [Run.map_collect]
  exact Run.exec_collect (fun e => fixCalls e.log) (fun _ _ _ hstep => fixCalls_step hstep) h

end Log

/-- Every stop comes directly after a start. The state is the last call. -/
def follows : Monitor FixCall FixCall where
  next _ c := c
  ok last c := c = .stopFix → last = .startFix

/-- A report that stops a fix of which it is not the last: an intermediate one
    that is passed on, with the position mode of a single shot. -/
structure StopsEarly (p : Platform) (env : ThreadEnv) (d : EngData) (location : GpsLocation)
    (status : LocSessStatus) : Prop where
  intermediate : status = .intermediate
  unmuted : d.muteSessionState ≠ .inSession
  locationCb : d.locationCb = true
  accepted : acceptsFix p d location status = true
  single : env.recurrence = GPS_POSITION_RECURRENCE_SINGLE

/-- The condition on a message: such a report is taken up in a session. -/
def KeepsSession (p : Platform) (env : ThreadEnv) (d : EngData) (msg : EngMsg) : Prop :=
  ∀ location locationExt status, msg = .reportPosition location locationExt status →
    StopsEarly p env d location status → d.isInSession = true

/-- The condition, met by whatever message is taken up. -/
def KeepsSessionStep (p : Platform) (e : Engine) (a : Action) : Prop :=
  ∀ env msg, a = .take env msg → KeepsSession p env e.data msg

section Rounds

variable {p : Platform} {env : ThreadEnv} {d d' : EngData} {es : List Event} {msg : EngMsg}
  {last : FixCall}

/-- A session is started only outside of one. -/
theorem startHandlerCalls_proper (d : EngData) : ∀ c ∈ startHandlerCalls d, c.Proper := by
  intro c hc
  unfold startHandlerCalls at hc
  split at hc
  · exact absurd hc List.not_mem_nil
  · next hsession =>
      rw [List.mem_singleton.mp hc]
      exact iff_of_false hsession (fun h => nomatch h)

theorem stopHandlerCalls_proper (d : EngData) : ∀ c ∈ stopHandlerCalls d, c.Proper := by
  intro c hc
  unfold stopHandlerCalls at hc
  split at hc
  · next hsession =>
      rw [List.mem_singleton.mp hc]
      exact iff_of_true hsession rfl
  · exact absurd hc List.not_mem_nil

theorem resumeFixCalls_proper (d : EngData) : ∀ c ∈ resumeFixCalls d, c.Proper := by
  intro c hc
  unfold resumeFixCalls at hc
  split at hc
  · exact startHandlerCalls_proper _ c hc
  · exact absurd hc List.not_mem_nil

theorem finishStopCalls_proper (d : EngData) (msg : EngMsg) :
    ∀ c ∈ finishStopCalls d msg, c.Proper := by
  intro c hc
  unfold finishStopCalls at hc
  split at hc
  · split at hc
    · exact stopHandlerCalls_proper d c hc
    · exact absurd hc List.not_mem_nil
  · exact absurd hc List.not_mem_nil

/-- An intermediate report is passed on if there is somebody to pass it to, and it
    is accurate enough. -/
theorem positionReport_intermediate (p : Platform) (d : EngData) (location : GpsLocation)
    (locationExt : List UInt8) :
    positionReport p d location locationExt .intermediate ≠ [] ↔
      d.locationCb = true ∧ acceptsFix p d location .intermediate = true := by
  unfold positionReport
  cases hcb : d.locationCb with
  | false => simp only [if_true, ne_eq, not_true_eq_false, Bool.false_eq_true, false_and]
  | true =>
      by_cases haccepts : acceptsFix p d location .intermediate = true
      · simp only [Bool.true_eq_false, if_false, reduceCtorEq, haccepts, if_true, ne_eq,
          List.cons_ne_self, not_false_eq_true, and_self]
      · simp only [Bool.true_eq_false, if_false, reduceCtorEq, haccepts, ne_eq,
          not_true_eq_false, and_false, Bool.false_eq_true]

/-- A report makes no call but an early stop. -/
theorem reportPositionCalls_eq (p : Platform) (env : ThreadEnv) (d : EngData)
    (location : GpsLocation) (locationExt : List UInt8) (status : LocSessStatus) :
    (StopsEarly p env d location status →
      reportPositionCalls p env d location locationExt status = [⟨d.isInSession, .stopFix⟩]) ∧
    (¬ StopsEarly p env d location status →
      reportPositionCalls p env d location locationExt status = []) := by
  unfold reportPositionCalls
  constructor
  · rintro ⟨rfl, hmute, hcb, haccepts, hsingle⟩
    have hreported := (positionReport_intermediate p d location locationExt).mpr ⟨hcb, haccepts⟩
    rw [if_neg hmute, if_pos ⟨hreported, hsingle⟩, if_pos rfl]
  · intro hno
    split
    · rfl
    · next hmute =>
        split
        · next hreported =>
            split
            · next hstatus =>
                subst hstatus
                rcases (positionReport_intermediate p d location locationExt).mp hreported.1 with
                  ⟨hcb, haccepts⟩
                exact absurd ⟨rfl, hmute, hcb, haccepts, hreported.2⟩ hno
            · rfl
        · rfl

/-- Of a report, the condition is what makes its call proper. -/
theorem reportPositionCalls_proper_iff (p : Platform) (env : ThreadEnv) (d : EngData)
    (location : GpsLocation) (locationExt : List UInt8) (status : LocSessStatus) :
    (∀ c ∈ reportPositionCalls p env d location locationExt status, c.Proper) ↔
      (StopsEarly p env d location status → d.isInSession = true) := by
  rcases reportPositionCalls_eq p env d location locationExt status with ⟨hstop, hnone⟩
  by_cases hearly : StopsEarly p env d location status
  · simp only [hstop hearly, List.mem_singleton, forall_eq, FlaggedCall.Proper, iff_true, hearly,
      true_implies]
  · rw [hnone hearly]
    exact iff_of_true (List.forall_mem_nil _) (fun h => absurd h hearly)

/-- Only what keeps the session does without an improper call. -/
theorem dispatchCalls_proper_iff (p : Platform) (env : ThreadEnv) (d : EngData) (msg : EngMsg) :
    (∀ c ∈ dispatchCalls p env d msg, c.Proper) ↔ KeepsSession p env d msg := by
  -- A message that is no report has no condition to meet.
  have hother : (∀ location locationExt status, msg ≠ .reportPosition location locationExt status) →
      KeepsSession p env d msg :=
    fun hne location locationExt status hmsg _ => absurd hmsg (hne location locationExt status)
  cases msg with
  | reportPosition location locationExt status =>
      refine (reportPositionCalls_proper_iff p env d location locationExt status).trans ?_
      constructor
      · intro h location' locationExt' status' hmsg hearly
        cases hmsg
        exact h hearly
      · intro h hearly
        exact h location locationExt status rfl hearly
  | startFix => exact iff_of_true (startHandlerCalls_proper d) (hother (fun _ _ _ h => nomatch h))
  | stopFix =>
      refine iff_of_true (fun c hc => ?_) (hother (fun _ _ _ h => nomatch h))
      rw [dispatchCalls] at hc
      split at hc
      · exact absurd hc List.not_mem_nil
      · exact stopHandlerCalls_proper d c hc
  | nif m =>
      refine iff_of_true (fun c hc => ?_) (hother (fun _ _ _ h => nomatch h))
      cases m with
      | engineUp => exact resumeFixCalls_proper d c hc
      | _ => exact absurd hc List.not_mem_nil
  | _ => exact iff_of_true (List.forall_mem_nil _) (hother (fun _ _ _ h => nomatch h))

/-- The calls of a round are proper if and only if it meets the condition. -/
theorem roundCalls_proper_iff (p : Platform) (env : ThreadEnv) (d : EngData) (msg : EngMsg) :
    (∀ c ∈ roundCalls p env d msg, c.Proper) ↔ KeepsSession p env d msg := by
  unfold roundCalls
  cases hdispatch : dispatch p env d msg with
  | none =>
      -- Only a message of the machines meets a NULL pointer.
      refine iff_of_true (List.forall_mem_nil _) (fun location locationExt status hmsg _ => ?_)
      rw [hmsg] at hdispatch
      exact nomatch hdispatch
  | some r =>
      simp only [List.forall_mem_append, dispatchCalls_proper_iff]
      exact and_iff_left (finishStopCalls_proper r.1 msg)

/-- The last call was a start if the flag is set. -/
def Known (last : FixCall) (d : EngData) : Prop := d.isInSession = true → last = .startFix

/-- Calls in order, after which the last one is known again. -/
structure Orderly (last : FixCall) (cs : List FlaggedCall) (d : EngData) : Prop where
  accepted : follows.Accepts last (cs.map FlaggedCall.call)
  known : Known (follows.after last (cs.map FlaggedCall.call)) d

theorem orderly_nil (h : Known last d) (hsame : d'.isInSession = d.isInSession) :
    Orderly last [] d' := ⟨trivial, fun hsession => h (hsame.symm.trans hsession)⟩

theorem orderly_start (d : EngData) (inSession : Bool) :
    Orderly last [⟨inSession, .startFix⟩] d :=
  ⟨⟨fun h => (nomatch h), trivial⟩, fun _ => rfl⟩

theorem orderly_stop {inSession : Bool} (hlast : last = .startFix)
    (hflag : d.isInSession = false) : Orderly last [⟨inSession, .stopFix⟩] d :=
  ⟨⟨fun _ => hlast, trivial⟩, fun hsession => absurd (hflag.symm.trans hsession)
    Bool.false_ne_true⟩

/-- Two orderly stretches, of which the second is orderly after whatever call came
    last, are one. -/
theorem orderly_append {xs ys : List FlaggedCall} (hxs : Orderly last xs d)
    (hys : ∀ last, Known last d → Orderly last ys d') : Orderly last (xs ++ ys) d' := by
  have hafter := hys _ hxs.known
  constructor
  · rw [List.map_append, Monitor.accepts_append]
    exact ⟨hxs.accepted, hafter.accepted⟩
  · rw [List.map_append, Monitor.after_append]
    exact hafter.known

/-- The handlers keep the calls in turn, each from what is known of the last call. -/
theorem startHandler_orderly (env : ThreadEnv) (h : Known last d) :
    Orderly last (startHandlerCalls d) (startHandler env d).1 := by
  unfold startHandlerCalls startHandler
  by_cases hsession : d.isInSession = true
  · rw [if_pos hsession, if_pos hsession]
    exact orderly_nil h rfl
  · -- Whether the modem has started or not, the last call is a start.
    rw [if_neg hsession]
    exact orderly_start _ _

theorem stopHandler_orderly (env : ThreadEnv) (h : Known last d) :
    Orderly last (stopHandlerCalls d) (stopHandler env d).1 := by
  unfold stopHandlerCalls stopHandler
  by_cases hsession : d.isInSession = true
  · rw [if_pos hsession, if_pos hsession]
    exact orderly_stop (h hsession) rfl
  · rw [if_neg hsession, if_neg hsession]
    exact orderly_nil h rfl

/-- The restart asks the flag that it has turned off itself. -/
theorem resumeFix_orderly (env : ThreadEnv) (h : Known last d) :
    Orderly last (resumeFixCalls d) (resumeFix env d).1 := by
  unfold resumeFixCalls resumeFix
  by_cases hsession : d.isInSession = true
  · rw [if_pos hsession, if_pos hsession]
    exact orderly_start _ _
  · rw [if_neg hsession, if_neg hsession]
    exact orderly_nil h rfl

theorem reportPosition_orderly (p : Platform) (env : ThreadEnv) (location : GpsLocation)
    (locationExt : List UInt8) (status : LocSessStatus) (h : Known last d)
    (hproper : ∀ c ∈ reportPositionCalls p env d location locationExt status, c.Proper) :
    Orderly last (reportPositionCalls p env d location locationExt status)
      (reportPosition p env d location locationExt status).1 := by
  simp only [reportPositionCalls, reportPosition] at hproper ⊢
  by_cases hmute : d.muteSessionState = .inSession
  · rw [if_pos hmute, if_pos hmute]
    exact orderly_nil h rfl
  rw [if_neg hmute] at hproper ⊢
  rw [if_neg hmute]
  by_cases hlast : positionReport p d location locationExt status ≠ [] ∧
      env.recurrence = GPS_POSITION_RECURRENCE_SINGLE
  · rw [if_pos hlast] at hproper ⊢
    rw [if_pos hlast]
    by_cases hstatus : status = .intermediate
    · rw [if_pos hstatus] at hproper ⊢
      -- A proper stop is made in a session, which a start has begun.
      have hsession := (hproper _ (List.mem_singleton_self _)).mpr rfl
      exact orderly_stop (h hsession) rfl
    · -- The last fix ends the session without a call.
      rw [if_neg hstatus]
      exact ⟨trivial, fun hsession => absurd hsession Bool.false_ne_true⟩
  · rw [if_neg hlast, if_neg hlast]
    exact orderly_nil h rfl

theorem handleEngineUp_orderly (hup : handleEngineUp p env d = some (d', es))
    (h : Known last d) : Orderly last (resumeFixCalls d) d' := by
  rcases handleEngineUp_inv hup with ⟨d₁, es₁, h₁, rfl, _⟩
  rcases agpsRestart_inv h₁ with ⟨xs, hn, _⟩
  have hsame : d₁.isInSession = d.isInSession := hn.same EngData.isInSession (fun _ => rfl)
  have hcalls : resumeFixCalls d =
      resumeFixCalls (reportStatus d₁ GPS_STATUS_ENGINE_ON).1 := by
    have hsession : (reportStatus d₁ GPS_STATUS_ENGINE_ON).1.isInSession = d.isInSession := hsame
    simp only [resumeFixCalls, startHandlerCalls, hsession]
  rw [hcalls]
  exact resumeFix_orderly env (fun hsession => h (hsame.symm.trans hsession))

theorem dispatchCalls_isPassedOn (p : Platform) (env : ThreadEnv) (d : EngData)
    (hmsg : msg.isPassedOn = true) : dispatchCalls p env d msg = [] := by
  cases msg with
  | startFix | stopFix | reportPosition | nif => cases hmsg
  | _ => rfl

/-- A message whose calls are proper keeps them in turn. -/
theorem dispatch_orderly (hdispatch : dispatch p env d msg = some (d', es)) (h : Known last d)
    (hproper : ∀ c ∈ dispatchCalls p env d msg, c.Proper) :
    Orderly last (dispatchCalls p env d msg) d' := by
  cases dispatch_inv hdispatch with
  | startFix hmsg =>
      rw [hmsg]
      exact startHandler_orderly env h
  | stopDeferred hmsg hpending =>
      rw [hmsg, dispatchCalls, if_pos hpending]
      exact orderly_nil h rfl
  | stopFix hmsg hpending =>
      rw [hmsg, dispatchCalls, if_neg (Bool.not_eq_true _ ▸ hpending)]
      exact stopHandler_orderly env h
  | reportPosition hmsg =>
      rw [hmsg] at hproper ⊢
      exact reportPosition_orderly p env _ _ _ h hproper
  | engineUp hmsg hup =>
      rw [hmsg]
      exact handleEngineUp_orderly hup h
  | nif hmsg hm hn =>
      rw [hmsg, dispatchCalls_nif p env d hm]
      exact orderly_nil h (hn.same EngData.isInSession (fun _ => rfl))
  | passedOn hmsg _ =>
      rw [dispatchCalls_isPassedOn p env d hmsg]
      exact orderly_nil h rfl
  | reportStatus hmsg | engineDown hmsg | requestNi hmsg | deleteAidingData hmsg =>
      rw [hmsg]
      exact orderly_nil h rfl

theorem postDispatch_orderly (env : ThreadEnv) (msg : EngMsg) (h : Known last d) :
    Orderly last (finishStopCalls d msg) (postDispatch env d msg).1 := by
  have hsame : (postDispatch env d msg).1.isInSession = (finishStop env d msg).1.isInSession := by
    unfold postDispatch flushAidingData
    dsimp only
    split
    · rfl
    · rfl
  have hfinish : Orderly last (finishStopCalls d msg) (finishStop env d msg).1 := by
    unfold finishStopCalls finishStop
    by_cases hanswer : msg.isAtlAnswer = true
    · rw [if_pos hanswer, if_pos hanswer]
      dsimp only
      by_cases hstop : d.stopRequestPending = true
      · rw [if_pos hstop, if_pos hstop]
        exact stopHandler_orderly (d := { d with agpsRequestPending := false }) env h
      · rw [if_neg hstop, if_neg hstop]
        exact orderly_nil h rfl
    · rw [if_neg hanswer, if_neg hanswer]
      exact orderly_nil h rfl
  exact ⟨hfinish.accepted, fun hsession => hfinish.known (hsame.symm.trans hsession)⟩

/-- Proper calls are in order. -/
theorem roundCalls_orderly (hround : processMsg p env d msg = some (d', es)) (h : Known last d)
    (hproper : ∀ c ∈ roundCalls p env d msg, c.Proper) :
    Orderly last (roundCalls p env d msg) d' := by
  rcases processMsg_inv hround with ⟨d₁, es₁, hdispatch, rfl, _⟩
  simp only [roundCalls, hdispatch, List.forall_mem_append] at hproper ⊢
  exact orderly_append (dispatch_orderly hdispatch h hproper.1)
    (fun last hlast => postDispatch_orderly env msg hlast)

end Rounds

section Runs

variable {p : Platform} {e e' : Engine} {a : Action} {last : FixCall}

/-- With a context, what is called is called in the round. -/
theorem stepCalls_round {env : ThreadEnv} {msg : EngMsg} (p : Platform)
    (hcontext : e.data.context = true) (hmsg : msg ≠ .quit) :
    stepCalls p e (.take env msg) = roundCalls p env e.data msg := by
  rw [stepCalls, if_neg]
  rw [hcontext]
  exact not_or_intro (Ne.symm Bool.false_ne_true) hmsg

theorem stepCalls_ofCaller (p : Platform) (e : Engine) (ha : a.ofCaller = true) :
    stepCalls p e a = [] := by
  cases a with
  | take env msg => cases ha
  | _ => rfl

/-- The calls of a step are proper if and only if it meets the condition. -/
theorem stepCalls_proper_iff (hw : WellStarted e) (h : step p e a = some e') :
    (∀ c ∈ stepCalls p e a, c.Proper) ↔ KeepsSessionStep p e a := by
  rcases step_cases h with ha | ⟨env, msg, rfl, hrunning, _⟩
  · rw [stepCalls_ofCaller p e ha]
    refine iff_of_true (List.forall_mem_nil _) (fun env msg htake => ?_)
    rw [htake] at ha
    cases ha
  · have hround : (∀ c ∈ stepCalls p e (.take env msg), c.Proper) ↔
        KeepsSession p env e.data msg := by
      by_cases hmsg : msg = .quit
      · rw [stepCalls, if_pos (.inr hmsg), hmsg]
        exact iff_of_true (List.forall_mem_nil _) (fun _ _ _ hne => nomatch hne)
      · rw [stepCalls_round p (hw.context hrunning) hmsg]
        exact roundCalls_proper_iff p env e.data msg
    rw [hround]
    constructor
    · intro hkeeps env' msg' htake
      cases htake
      exact hkeeps
    · intro hkeeps
      exact hkeeps env msg rfl

/-- The proper calls of a step are in order. -/
theorem stepCalls_orderly (hw : WellStarted e) (h : step p e a = some e')
    (hknown : Known last e.data) (hproper : ∀ c ∈ stepCalls p e a, c.Proper) :
    Orderly last (stepCalls p e a) e'.data := by
  rcases step_cases h with ha | ⟨env, msg, rfl, _, htaken⟩
  · rw [stepCalls_ofCaller p e ha]
    exact orderly_nil hknown (congrArg Session.isInSession (step_caller_session hw ha h))
  · cases htaken with
    | returned hend =>
        rw [stepCalls, if_pos hend]
        exact orderly_nil hknown rfl
    | faulted hcontext hmsg hfault =>
        rw [stepCalls_round p hcontext hmsg, roundCalls, processMsg_eq_none hfault]
        exact orderly_nil hknown rfl
    | round hcontext hmsg hround =>
        rw [stepCalls_round p hcontext hmsg] at hproper ⊢
        exact roundCalls_orderly hround hknown hproper

/-- So are those of a run. -/
theorem runCalls_follows {as : List Action} (hw : WellStarted e) (hknown : Known last e.data)
    (hproper : ∀ c ∈ runCalls p e as, c.Proper) :
    follows.Accepts last ((runCalls p e as).map FlaggedCall.call) := by
  induction as generalizing e last with
  | nil => exact trivial
  | cons a as ih =>
      cases hstep : step p e a with
      | none =>
          simp only [runCalls, Run.collect, hstep, List.map_nil]
          exact trivial
      | some e' =>
          have hcalls : runCalls p e (a :: as) = stepCalls p e a ++ runCalls p e' as :=
            Run.collect_cons_of_step as hstep
          rw [hcalls, List.forall_mem_append] at hproper
          have hfirst := stepCalls_orderly hw hstep hknown hproper.1
          rw [hcalls, List.map_append, Monitor.accepts_append]
          exact ⟨hfirst.accepted, ih (wellStarted_step hw hstep) hfirst.known hproper.2⟩

/-- In a run from the beginning the adapter is only told to start outside a session
    and to stop inside one, and every stop comes directly after a start, if and
    only if no report stops early outside a session. -/
theorem fixCalls_iff (p : Platform) (as : List Action) :
    ((∀ c ∈ runCalls p .fresh as, c.inSession = true ↔ c.call = .stopFix) ∧
        follows.Accepts .stopFix ((runCalls p .fresh as).map FlaggedCall.call)) ↔
      Run.Guarded (step p) (KeepsSessionStep p) .fresh as := by
  have hproper : (∀ c ∈ runCalls p .fresh as, c.Proper) ↔
      Run.Guarded (step p) (KeepsSessionStep p) .fresh as := by
    refine (Run.forall_collect_iff FlaggedCall.Proper).trans ?_
    exact Run.guarded_iff WellStarted (fun _ _ _ hw h => wellStarted_step hw h)
      (fun _ _ _ hw h => stepCalls_proper_iff hw h) wellStarted_fresh
  constructor
  · intro h
    exact hproper.mp h.1
  · intro h
    have hall := hproper.mpr h
    exact ⟨hall, runCalls_follows wellStarted_fresh (fun hsession => nomatch hsession) hall⟩

/-- The defaults, with intermediate reports wanted. -/
def wantsIntermediate : Platform :=
  { Platform.unconfigured with
    conf := { Platform.unconfigured.conf with INTERMEDIATE_POS := 1 } }

/-- A single shot is started, and two intermediate reports are in the queue. -/
def twoReports : List Action :=
  let single := { ThreadEnv.agreed with recurrence := GPS_POSITION_RECURRENCE_SINGLE }
  [.init .agreed, .take single .startFix,
    .take single (.reportPosition ⟨0, 0, []⟩ [] .intermediate),
    .take single (.reportPosition ⟨0, 0, []⟩ [] .intermediate)]

/-- The second report stops the session that the first has stopped. -/
theorem twoReports_stop :
    runCalls wantsIntermediate .fresh twoReports =
        [⟨false, .startFix⟩, ⟨true, .stopFix⟩, ⟨false, .stopFix⟩] ∧
      ¬ ((∀ c ∈ runCalls wantsIntermediate .fresh twoReports,
          c.inSession = true ↔ c.call = .stopFix) ∧
        follows.Accepts .stopFix
          ((runCalls wantsIntermediate .fresh twoReports).map FlaggedCall.call)) := by
  have hcalls : runCalls wantsIntermediate .fresh twoReports =
      [⟨false, .startFix⟩, ⟨true, .stopFix⟩, ⟨false, .stopFix⟩] := by
    decide +kernel
  refine ⟨hcalls, fun h => ?_⟩
  have hlast := h.1 ⟨false, .stopFix⟩ (by rw [hcalls]; decide)
  exact Bool.false_ne_true (hlast.mpr rfl)

end Runs

end Eng

end Taoshan

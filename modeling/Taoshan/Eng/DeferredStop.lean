import Taoshan.Eng.Navigating

/-!
# A Stop That Is Put Off

While a data call is under way a fix must not be stopped. `STOP_FIX` then only
sets `stop_request_pending`, and the answer of the data service is to stop the
fix when the call is finished.

The flag does not live that long. It is reset at the end of every round, also of
the round that has set it, so no later round finds it set, whatever comes in
between (`stopRequest_run`). The answer stops nothing, and the fix goes on as it
was (`answer_keeps_session`).

## Main definitions

* `stopCalls`: How often a round enters `loc_eng_stop_handler`.
* `StopDue`: A stop comes while a data call is under way.
* `CarriedOut`: The stop waits for the answer and is made with it.

## Theorems

* `round_stops_iff`: What `stopCalls` counts is seen by the adapter.
* `processMsg_stopRequest`: No round leaves the flag set.
* `stopRequest_run`: No run that has taken up the stop finds it set.
* `not_carriedOut`: No stop that is put off is carried out.
-/

namespace Taoshan

namespace Eng

open Agps

/-- How often a round enters `loc_eng_stop_handler`: in the `switch`, and after
    it. -/
def stopCalls (p : Platform) (env : ThreadEnv) (d : EngData) (msg : EngMsg) : Nat :=
  (if msg = .stopFix ∧ d.agpsRequestPending = false then 1 else 0) +
    match dispatch p env d msg with
    | none => 0
    | some (d', _) => if msg.isAtlAnswer = true ∧ d'.stopRequestPending = true then 1 else 0

/-- The thread listens for an instance that makes a fix and a data call. -/
structure StopDue (e : Engine) : Prop where
  running : e.phase = .running
  context : e.data.context = true
  agpsRequest : e.data.agpsRequestPending = true
  session : e.data.isInSession = true

/-- A message that neither starts nor stops a fix, nor answers for a data call. -/
def EngMsg.isUnrelated : EngMsg → Bool
  | .startFix | .stopFix | .nif .engineUp => false
  | msg => !msg.isAtlAnswer

/-- The fix is not stopped by `STOP_FIX`, and whoever takes up the answer after
    what comes in between stops it once. -/
structure CarriedOut (p : Platform) (e : Engine) (env : ThreadEnv) (between : List Action)
    (env' : ThreadEnv) (answer : EngMsg) : Prop where
  waits : stopCalls p env e.data .stopFix = 0
  stops : ∀ e', Run.exec (step p) e (.take env .stopFix :: between) = some e' →
    e'.phase = .running → stopCalls p env' e'.data answer = 1

section Rounds

variable {p : Platform} {env : ThreadEnv} {d d' : EngData} {es : List Event} {msg : EngMsg}

/-- The adapter is told to stop. -/
def Stops (es : List Event) : Prop := ∃ status, Event.call status .stopFix ∈ es

theorem stops_append {xs ys : List Event} : Stops (xs ++ ys) ↔ Stops xs ∨ Stops ys := by
  simp only [Stops, List.mem_append, exists_or]

theorem not_stops_nil : ¬ Stops [] := fun ⟨_, h⟩ => List.not_mem_nil h

theorem not_stops_nif (h : NifStep d d' es) : ¬ Stops es := by
  rintro ⟨status, hmem⟩
  rcases h.events _ hmem with ⟨i, x, heq⟩
  cases heq

/-- The stop handler asks the session flag. -/
theorem stopHandler_stops_iff (env : ThreadEnv) (d : EngData) :
    Stops (stopHandler env d).2 ↔ d.isInSession = true := by
  unfold stopHandler
  by_cases hsession : d.isInSession = true
  · rw [if_pos hsession]
    exact iff_of_true ⟨d.engineStatus, List.mem_cons_self⟩ hsession
  · rw [if_neg hsession]
    exact iff_of_false not_stops_nil hsession

theorem flushAidingData_not_stops (d : EngData) : ¬ Stops (flushAidingData d).2 := by
  rintro ⟨status, hmem⟩
  rcases flushAidingData_events d _ hmem with ⟨f, heq⟩
  simp only [EngData.calls, Event.call.injEq, reduceCtorEq, and_false] at heq

/-- After the `switch`, a stop is made if the message is an answer and the flag
    is found set. -/
theorem postDispatch_stops_iff (env : ThreadEnv) (d : EngData) (msg : EngMsg) :
    Stops (postDispatch env d msg).2 ↔
      (msg.isAtlAnswer = true ∧ d.stopRequestPending = true) ∧ d.isInSession = true := by
  have hfinish : Stops (finishStop env d msg).2 ↔
      (msg.isAtlAnswer = true ∧ d.stopRequestPending = true) ∧ d.isInSession = true := by
    unfold finishStop
    by_cases hanswer : msg.isAtlAnswer = true
    · by_cases hstop : d.stopRequestPending = true
      · simp only [hanswer, hstop, if_true, stopHandler_stops_iff, true_and]
      · simp only [hanswer, hstop, if_true, Bool.false_eq_true, if_false, not_stops_nil,
          and_false, false_and]
    · simp only [hanswer, Bool.false_eq_true, if_false, not_stops_nil, false_and]
  unfold postDispatch
  rw [stops_append, hfinish]
  exact or_iff_left (flushAidingData_not_stops _)

theorem isNif_of_isAtlAnswer (h : msg.isAtlAnswer = true) :
    ∃ m, msg = .nif m ∧ m ≠ .engineUp := by
  cases msg with
  | nif m =>
      refine ⟨m, rfl, fun heq => ?_⟩
      rw [heq] at h
      cases h
  | _ => cases h

/-- Of a stop and of an answer, the adapter sees exactly what is counted, if it
    is in session. -/
theorem round_stops_iff (hmsg : msg = .stopFix ∨ msg.isAtlAnswer = true)
    (h : processMsg p env d msg = some (d', es)) :
    Stops es ↔ stopCalls p env d msg = 1 ∧ d.isInSession = true := by
  rcases processMsg_inv h with ⟨d₁, es₁, hdispatch, rfl, rfl⟩
  rw [stops_append, postDispatch_stops_iff]
  simp only [stopCalls, hdispatch]
  rcases hmsg with rfl | hanswer
  · -- `STOP_FIX` is no answer: what counts is the `switch`.
    simp only [EngMsg.isAtlAnswer, Bool.false_eq_true, false_and, or_false, if_false, true_and,
      Nat.add_zero]
    simp only [dispatch] at hdispatch
    by_cases hpending : d.agpsRequestPending = true
    · rw [if_pos hpending, Option.some.injEq, Prod.mk.injEq] at hdispatch
      rw [← hdispatch.2, hpending]
      exact iff_of_false not_stops_nil (fun hc => by simp at hc)
    · rw [if_neg hpending, Option.some.injEq] at hdispatch
      rw [Bool.not_eq_true] at hpending
      have hes : (stopHandler env d).2 = es₁ := congrArg Prod.snd hdispatch
      rw [← hes, hpending, stopHandler_stops_iff]
      simp only [if_true, true_and]
  · -- An answer goes to a machine, and what counts is the flag it leaves as it was.
    rcases isNif_of_isAtlAnswer hanswer with ⟨m, rfl, hm⟩
    have hn : NifStep d d₁ es₁ := handleNif_data hm hdispatch
    have hsession := hn.same EngData.isInSession (fun _ => rfl)
    simp only [not_stops_nif hn, false_or, hsession, hanswer, true_and, reduceCtorEq, false_and,
      if_false, Nat.zero_add]
    by_cases hstop : d₁.stopRequestPending = true
    · simp only [hstop, if_true, true_and]
    · simp only [hstop, Bool.false_eq_true, if_false, Nat.zero_ne_one, false_and]

/-- No round leaves the flag set. -/
theorem processMsg_stopRequest (h : processMsg p env d msg = some (d', es)) :
    d'.stopRequestPending = false := by
  rcases processMsg_inv h with ⟨d₁, es₁, _, rfl, _⟩
  simp only [postDispatch, flushAidingData]
  split
  · rfl
  · rfl

/-- An answer that does not find the flag set stops nothing. -/
theorem answer_stopCalls (hanswer : msg.isAtlAnswer = true) (hstop : d.stopRequestPending = false) :
    stopCalls p env d msg = 0 := by
  rcases isNif_of_isAtlAnswer hanswer with ⟨m, rfl, hm⟩
  unfold stopCalls
  rw [if_neg (fun hc => by cases hc.1), Nat.zero_add]
  cases hdispatch : dispatch p env d (.nif m) with
  | none => rfl
  | some r =>
      have hn : NifStep d r.1 r.2 := handleNif_data hm hdispatch
      have hflag := hn.same EngData.stopRequestPending (fun _ => rfl)
      simp only [hflag, hstop, Bool.false_eq_true, and_false, if_false]

/-- The fix goes on as it was. -/
theorem answer_keeps_session (hanswer : msg.isAtlAnswer = true)
    (hstop : d.stopRequestPending = false) (h : processMsg p env d msg = some (d', es)) :
    ¬ Stops es ∧ d'.isInSession = d.isInSession := by
  refine ⟨fun hstops => ?_, ?_⟩
  · have hone := ((round_stops_iff (Or.inr hanswer) h).mp hstops).1
    rw [answer_stopCalls hanswer hstop] at hone
    cases hone
  · rcases isNif_of_isAtlAnswer hanswer with ⟨m, rfl, hm⟩
    rcases processMsg_inv h with ⟨d₁, es₁, hdispatch, rfl, _⟩
    have hn : NifStep d d₁ es₁ := handleNif_data hm hdispatch
    have hflag := hn.same EngData.stopRequestPending (fun _ => rfl)
    rw [(postDispatch_quiet env _ (hflag.trans hstop)).1]
    exact hn.same EngData.isInSession (fun _ => rfl)

end Rounds

section Runs

variable {p : Platform} {e e' : Engine} {env env' : ThreadEnv} {between : List Action}
  {answer : EngMsg}

/-- A flag that is not set stays so from round to round. -/
theorem stopRequest_step {a : Action} (hstop : e.data.stopRequestPending = false)
    (h : step p e a = some e') : e'.data.stopRequestPending = false := by
  rcases step_cases h with ha | ⟨env, msg, rfl, _, htaken⟩
  · cases step_caller_inv ha h with
    | kept hcore _ =>
        exact (same_of_core hcore EngData.stopRequestPending (fun _ => rfl)).trans hstop
    | saved _ _ hsession _ =>
        exact (congrArg Session.stopRequestPending hsession).trans hstop
    | begun _ _ _ _ hdata _ =>
        -- The structure has been cleared.
        rw [hdata]
        rfl
  · cases htaken with
    | returned _ => exact hstop
    | faulted _ _ _ => exact hstop
    | round _ _ hround => exact processMsg_stopRequest hround

/-- Once the stop has been taken up, the flag is not set. -/
theorem stopRequest_run (hcontext : e.data.context = true)
    (h : Run.exec (step p) e (.take env .stopFix :: between) = some e') :
    e'.data.stopRequestPending = false := by
  rcases Run.exec_cons_inv h with ⟨e₁, hfirst, hrest⟩
  have hround : e₁.data.stopRequestPending = false := by
    rcases step_take_inv hfirst with ⟨_, htaken⟩
    cases htaken with
    | returned hend =>
        rcases hend with hno | hquit
        · exact absurd (hno.symm.trans hcontext) Bool.false_ne_true
        · cases hquit
    | faulted _ _ hnone =>
        -- A stop meets no NULL pointer.
        have hsome : ∃ r, dispatch p env e.data .stopFix = some r :=
          dispatch_isSome p env e.data (fun m => by simp)
        rcases hsome with ⟨r, hr⟩
        rw [processMsg_eq_none hnone] at hr
        cases hr
    | round _ _ hround => exact processMsg_stopRequest hround
  exact Run.exec_invariant (fun e : Engine => e.data.stopRequestPending = false)
    (fun _ _ _ hs hstep => stopRequest_step hs hstep) hround hrest

/-- With a data call under way a stop waits. -/
theorem stop_waits (p : Platform) (env : ThreadEnv) {d : EngData}
    (hpending : d.agpsRequestPending = true) : stopCalls p env d .stopFix = 0 := by
  simp only [stopCalls, dispatch, hpending, if_true, EngMsg.isAtlAnswer, Bool.true_eq_false,
    and_false, Bool.false_eq_true, false_and, if_false, Nat.add_zero]

/-- A stop that is put off is not carried out, whatever comes between it and the
    answer: it waits, and then it is forgotten. -/
theorem not_carriedOut (hdue : StopDue e) (hanswer : answer.isAtlAnswer = true)
    (h : Run.exec (step p) e (.take env .stopFix :: between) = some e')
    (hrunning : e'.phase = .running) :
    stopCalls p env e.data .stopFix = 0 ∧ stopCalls p env' e'.data answer = 0 ∧
      ¬ CarriedOut p e env between env' answer := by
  have hnone : stopCalls p env' e'.data answer = 0 :=
    answer_stopCalls hanswer (stopRequest_run hdue.context h)
  refine ⟨stop_waits p env hdue.agpsRequest, hnone, fun hcarried => ?_⟩
  have hone := hcarried.stops e' h hrunning
  rw [hnone] at hone
  cases hone

/-- In a session, with its machines, and with a data call under way. -/
def calling : Engine where
  data := { withMachines .zero 0 with
    context := true
    isInSession := true
    agpsRequestPending := true }
  phase := .running
  locApiHandle := true
  log := []

/-- The data service could not open a connection. -/
def callFailed : EngMsg := .nif (.atlOpenFailed 0)

theorem not_carriedOut_calling :
    (∃ e', Run.exec (step .unconfigured) calling
        [.take .agreed .stopFix, .take .agreed (.reportNmea [] 0)] = some e' ∧
      stopCalls .unconfigured .agreed e'.data callFailed = 0) ∧
      ¬ CarriedOut .unconfigured calling .agreed [.take .agreed (.reportNmea [] 0)] .agreed
        callFailed := by
  have hdue : StopDue calling := ⟨rfl, rfl, rfl, rfl⟩
  have hrun : Run.exec (step .unconfigured) calling
      [.take .agreed .stopFix, .take .agreed (.reportNmea [] 0)] = some _ := rfl
  have hanswer : callFailed.isAtlAnswer = true := rfl
  exact ⟨⟨_, hrun, (not_carriedOut hdue hanswer hrun rfl).2.1⟩,
    (not_carriedOut hdue hanswer hrun rfl).2.2⟩

/-- The stop is taken up, an NMEA sentence is reported, the call fails: nobody
    stops the fix, and it is still being made. -/
theorem calling_not_carriedOut :
    ¬ (∀ (e : Engine) (env env' : ThreadEnv) (between : List Action) (answer : EngMsg),
      StopDue e → (∀ a ∈ between, ∃ env msg, a = .take env msg ∧ msg.isUnrelated = true) →
        answer.isAtlAnswer = true → CarriedOut .unconfigured e env between env' answer) := by
  intro hall
  have hbetween : ∀ a ∈ [Action.take .agreed (.reportNmea [] 0)],
      ∃ env msg, a = .take env msg ∧ EngMsg.isUnrelated msg = true := by
    intro a ha
    exact ⟨_, _, List.mem_singleton.mp ha, rfl⟩
  have hcarried := hall calling .agreed .agreed [.take .agreed (.reportNmea [] 0)] callFailed
    ⟨rfl, rfl, rfl, rfl⟩ hbetween rfl
  have hone := hcarried.stops _ rfl rfl
  revert hone
  decide

end Runs

end Eng

end Taoshan

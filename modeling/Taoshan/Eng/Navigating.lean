import Taoshan.Eng.Steps

/-!
# What the Framework Believes about the Session

The framework is told that a session begins and that it ends, and has no other
way to know. The engine knows from the flag of the adapter. The two agree as
long as whatever changes the flag also tells, and whatever tells has asked the
flag.

Starting does both or neither. The filter on the modem's own statuses asks the
flag, and what it lets through cannot contradict it, muted or not. Stopping
drops the flag in any case but tells only if the modem has stopped; and when
the modem comes back to a session, the flag is dropped and raised again only if
the fix is resumed, with nobody told of the drop. In a run in which every fix
is periodic, these two are all that can go wrong, and when one of them does the
belief is wrong right after that message (`right_iff`).

## Main definitions

* `lastSession`: What the framework was told last about the session.
* `Right`: The belief agrees with the flag.
* `KeepsView`: The condition on a message.
* `Navigates`: The position mode is periodic, and the status callback is set.
* `NavKept`: The invariant.

## Theorems

* `right_append`, `right_begin`, `right_end`: Logs that grow.
* `stopHandler_right`, `resumeFix_right`: The two that can go wrong.
* `processMsg_right`: A round, exactly.
* `right_iff`: The belief is right throughout a run if and only if every
  message meets the condition.
-/

namespace Taoshan

namespace Eng

open Agps

/-- The beginning or the end of a session, as told to the framework. -/
def sessionStatus : Event → Option GpsStatusValue
  | .statusCb status =>
      if status = GPS_STATUS_SESSION_BEGIN ∨ status = GPS_STATUS_SESSION_END then some status
      else none
  | _ => none

/-- What the framework was told last about the session. -/
def lastSession (log : List Event) : Option GpsStatusValue := (log.filterMap sessionStatus).getLast?

/-- The framework believes in a session exactly if the flag says so. -/
def Right (navigating : Bool) (log : List Event) : Prop :=
  lastSession log = some GPS_STATUS_SESSION_BEGIN ↔ navigating = true

/-- A stop in a session succeeds, and a session is resumed when the modem comes
    back to it. -/
def KeepsView (env : ThreadEnv) (d : EngData) : EngMsg → Prop
  | .stopFix => d.isInSession = true → env.stopFix = LOC_API_ADAPTER_ERR_SUCCESS
  | .nif .engineUp => d.isInSession = true →
      env.startFix = LOC_API_ADAPTER_ERR_SUCCESS ∨ env.startFix = LOC_API_ADAPTER_ERR_ENGINE_DOWN
  | _ => True

/-- The condition, met by whatever message is taken up. -/
def KeepsViewStep (e : Engine) (a : Action) : Prop :=
  ∀ env msg, a = .take env msg → KeepsView env e.data msg

/-- The position mode is periodic, and `loc_eng_init` is given a status
    callback. -/
def Navigates : Action → Prop
  | .take env _ => env.recurrence = GPS_POSITION_RECURRENCE_PERIODIC
  | .init args => ∀ callbacks, args.callbacks = some callbacks → callbacks.statusCb = true
  | _ => True

/-- The belief is right, and no stop is deferred. -/
structure NavKept (e : Engine) : Prop where
  started : WellStarted e
  equipped : Equipped e.data
  statusCb : e.data.context = true → e.data.statusCb = true
  agpsRequest : e.data.agpsRequestPending = false
  stopRequest : e.data.stopRequestPending = false
  right : Right e.data.isInSession e.log

section Log

variable {log xs : List Event} {navigating : Bool}

/-- Nothing is told about the session. -/
def Silent (xs : List Event) : Prop := ∀ e ∈ xs, sessionStatus e = none

theorem lastSession_append (hxs : Silent xs) : lastSession (log ++ xs) = lastSession log := by
  unfold lastSession
  rw [List.filterMap_append, List.filterMap_eq_nil_iff.mpr hxs, List.append_nil]

theorem right_append (hxs : Silent xs) : Right navigating (log ++ xs) ↔ Right navigating log := by
  unfold Right
  rw [lastSession_append hxs]

theorem right_begin : Right navigating (log ++ [.statusCb GPS_STATUS_SESSION_BEGIN]) ↔
    navigating = true := by
  have hlast : lastSession (log ++ [.statusCb GPS_STATUS_SESSION_BEGIN]) =
      some GPS_STATUS_SESSION_BEGIN := by
    unfold lastSession
    rw [List.filterMap_append]
    exact List.getLast?_concat
  unfold Right
  rw [hlast]
  exact ⟨fun h => h.mp rfl, fun h => ⟨fun _ => h, fun _ => rfl⟩⟩

theorem right_end : Right navigating (log ++ [.statusCb GPS_STATUS_SESSION_END]) ↔
    navigating = false := by
  have hlast : lastSession (log ++ [.statusCb GPS_STATUS_SESSION_END]) =
      some GPS_STATUS_SESSION_END := by
    unfold lastSession
    rw [List.filterMap_append]
    exact List.getLast?_concat
  have hne : some GPS_STATUS_SESSION_END ≠ some GPS_STATUS_SESSION_BEGIN := by decide
  unfold Right
  rw [hlast, ← Bool.not_eq_true]
  exact ⟨fun h hn => hne (h.mpr hn), fun h => ⟨fun hc => absurd hc hne, fun hn => absurd hn h⟩⟩

theorem silent_nil : Silent [] := List.forall_mem_nil _

theorem silent_singleton {e : Event} (h : sessionStatus e = none) : Silent [e] :=
  List.forall_mem_singleton.mpr h

theorem silent_append {ys : List Event} (hxs : Silent xs) (hys : Silent ys) : Silent (xs ++ ys) :=
  List.forall_mem_append.mpr ⟨hxs, hys⟩

/-- What is no status is not about the session. -/
theorem silent_of_not_status (h : ∀ e ∈ xs, ∀ status, e ≠ .statusCb status) : Silent xs := by
  intro e he
  cases e with
  | statusCb status => exact absurd rfl (h _ he status)
  | _ => rfl

end Log

section Handlers

variable {p : Platform} {env : ThreadEnv} {d d' : EngData} {es log : List Event}

theorem informGpsStatus_eq (hcb : d.statusCb = true) (status : GpsStatusValue) :
    informGpsStatus d status = [.statusCb status] := by
  unfold informGpsStatus
  rw [if_pos hcb]

/-- Starting changes the flag and tells, or does neither. -/
theorem startHandler_right (hcb : d.statusCb = true) (h : Right d.isInSession log) :
    Right (startHandler env d).1.isInSession (log ++ (startHandler env d).2) := by
  unfold startHandler
  split
  · rw [List.append_nil]
    exact h
  · split
    · rw [informGpsStatus_eq hcb, List.append_cons]
      exact right_begin.mpr rfl
    · -- A start that is refused is not told.
      exact (right_append (silent_singleton rfl)).mpr h

/-- Stopping drops the flag in any case, but tells only if it has succeeded. -/
theorem stopHandler_right (env : ThreadEnv) (hcb : d.statusCb = true)
    (h : Right d.isInSession log) :
    Right (stopHandler env d).1.isInSession (log ++ (stopHandler env d).2) ↔
      (d.isInSession = true → env.stopFix = LOC_API_ADAPTER_ERR_SUCCESS) := by
  unfold stopHandler
  by_cases hin : d.isInSession = true
  · rw [if_pos hin]
    by_cases hstop : env.stopFix = LOC_API_ADAPTER_ERR_SUCCESS
    · rw [if_pos hstop, informGpsStatus_eq hcb, List.append_cons, right_end]
      exact ⟨fun _ _ => hstop, fun _ => rfl⟩
    · rw [if_neg hstop, right_append (silent_singleton rfl)]
      -- The framework still believes in the session that is gone.
      refine ⟨fun hr => ?_, fun hok => absurd (hok hin) hstop⟩
      exact absurd (hr.mp (h.mpr hin)) Bool.false_ne_true
  · rw [if_neg hin, List.append_nil]
    exact ⟨fun _ hno => absurd hno hin, fun _ => h⟩

/-- What the filter lets through does not contradict the flag. -/
theorem reportStatus_right (hcb : d.statusCb = true) (h : Right d.isInSession log)
    (status : GpsStatusValue) :
    Right (reportStatus d status).1.isInSession (log ++ (reportStatus d status).2) := by
  simp only [reportStatus]
  split
  · next hpass =>
      rcases hpass with ⟨_, hend, hbegin, _⟩
      rw [informGpsStatus_eq hcb]
      -- A beginning passes only in a session, an end only outside of one.
      by_cases hb : status = GPS_STATUS_SESSION_BEGIN
      · subst hb
        refine right_begin.mpr ?_
        by_contra hnot
        exact hbegin ⟨rfl, hnot⟩
      · by_cases he : status = GPS_STATUS_SESSION_END
        · subst he
          refine right_end.mpr ?_
          by_contra hnot
          rw [Bool.not_eq_false] at hnot
          exact hend ⟨rfl, hnot⟩
        · refine (right_append (silent_singleton ?_)).mpr h
          simp only [sessionStatus, hb, he, or_self, if_false]
  · rw [List.append_nil]
    exact h

/-- Coming back to a session drops the flag and tells nobody; it is raised
    again if the fix is resumed. -/
theorem resumeFix_right (env : ThreadEnv) (hcb : d.statusCb = true)
    (h : Right d.isInSession log) :
    Right (resumeFix env d).1.isInSession (log ++ (resumeFix env d).2) ↔
      (d.isInSession = true → env.startFix = LOC_API_ADAPTER_ERR_SUCCESS ∨
        env.startFix = LOC_API_ADAPTER_ERR_ENGINE_DOWN) := by
  unfold resumeFix
  by_cases hin : d.isInSession = true
  · rw [if_pos hin]
    simp only [startHandler, Bool.false_eq_true, if_false]
    by_cases hstart : env.startFix = LOC_API_ADAPTER_ERR_SUCCESS ∨
        env.startFix = LOC_API_ADAPTER_ERR_ENGINE_DOWN
    · rw [if_pos hstart]
      have hinform : informGpsStatus { d with isInSession := false } GPS_STATUS_SESSION_BEGIN =
          [.statusCb GPS_STATUS_SESSION_BEGIN] := informGpsStatus_eq hcb _
      rw [hinform, List.append_cons, List.append_cons, right_begin]
      exact ⟨fun _ _ => hstart, fun _ => rfl⟩
    · rw [if_neg hstart]
      have hsilent : Silent ([d.calls (.setPositionMode none)] ++ [d.calls .startFix]) :=
        silent_append (silent_singleton rfl) (silent_singleton rfl)
      change Right false (log ++ ([d.calls (.setPositionMode none)] ++ [d.calls .startFix])) ↔ _
      rw [right_append hsilent]
      -- The flag stays down, and the framework has not been told.
      refine ⟨fun hr => ?_, fun hok => absurd (hok hin) hstart⟩
      exact absurd (hr.mp (h.mpr hin)) Bool.false_ne_true
  · rw [if_neg hin, List.append_nil]
    exact ⟨fun _ hno => absurd hno hin, fun _ => h⟩

/-- A periodic fix leaves the flag alone. -/
theorem reportPosition_right (hper : env.recurrence = GPS_POSITION_RECURRENCE_PERIODIC)
    (h : Right d.isInSession log) (location : GpsLocation) (locationExt : List UInt8)
    (status : LocSessStatus) :
    Right (reportPosition p env d location locationExt status).1.isInSession
      (log ++ (reportPosition p env d location locationExt status).2) := by
  have hsilent : Silent (reportPosition p env d location locationExt status).2 := by
    refine silent_of_not_status (fun e he s heq => ?_)
    rcases reportPosition_events p env d location locationExt status e he with rfl | ⟨l, rfl⟩
    · cases heq
    · cases heq
  rw [right_append hsilent]
  have hflag : (reportPosition p env d location locationExt status).1.isInSession =
      d.isInSession := by
    simp only [reportPosition]
    split
    · rfl
    · -- Only a single fix ends its session.
      rw [if_neg (fun hc => absurd (hper.symm.trans hc.2) (by decide))]
  rw [hflag]
  exact h

end Handlers

section Rounds

variable {p : Platform} {env : ThreadEnv} {d d' : EngData} {es log : List Event}

theorem silent_nif {xs : List Event} (h : NifStep d d' xs) : Silent xs := by
  intro e he
  rcases h.events e he with ⟨i, x, rfl⟩
  rfl

theorem silent_queued (msgs : List EngMsg) : Silent (msgs.map Event.queued) := by
  intro e he
  rcases List.mem_map.mp he with ⟨msg, _, rfl⟩
  rfl

theorem silent_reinit (p : Platform) (ret : AdapterErr) (d : EngData) :
    Silent (reinit p ret d).2 := by
  have hconfig : Silent (if ret = LOC_API_ADAPTER_ERR_SUCCESS then
      (configMessages p).map Event.queued else []) := by
    split
    · exact silent_queued _
    · exact silent_nil
  exact silent_append (silent_singleton rfl) hconfig

/-- The modem's return: what comes before the session is resumed is harmless. -/
theorem handleEngineUp_right (hcb : d.statusCb = true) (h : Right d.isInSession log)
    (hup : handleEngineUp p env d = some (d', es)) :
    Right d'.isInSession (log ++ es) ↔ KeepsView env d (.nif .engineUp) := by
  rcases handleEngineUp_inv hup with ⟨d₁, es₁, h₁, rfl, rfl⟩
  rcases agpsRestart_inv h₁ with ⟨xs, hn, rfl⟩
  have hflag : d₁.isInSession = d.isInSession := hn.same EngData.isInSession (fun _ => rfl)
  have hcb₁ : d₁.statusCb = true := hn.frame.statusCb.trans hcb
  have hsilent : Silent ((reinit p env.reinit d).2 ++ (xs ++ (if d.agpsStatusCb then
      (agpsReinit env.resolveInAddr d).map Event.queued else []))) := by
    refine silent_append (silent_reinit p _ d) (silent_append (silent_nif hn) ?_)
    split
    · exact silent_queued _
    · exact silent_nil
  have hbefore := (right_append hsilent).mpr h
  rw [← hflag] at hbefore
  -- The status report is let through or not; then the session is resumed or not.
  have hreport := reportStatus_right hcb₁ hbefore GPS_STATUS_ENGINE_ON
  have hresume := resumeFix_right env
    ((reportStatus_frame d₁ GPS_STATUS_ENGINE_ON).statusCb.trans hcb₁) hreport
  have hkept : (reportStatus d₁ GPS_STATUS_ENGINE_ON).1.isInSession = d.isInSession := hflag
  rw [hkept] at hresume
  simp only [List.append_assoc] at hresume ⊢
  exact hresume

theorem silent_of_passesOn (h : ∀ e ∈ es, e.passesOn = true) : Silent es := by
  intro e he
  cases e with
  | statusCb status => exact absurd (h _ he) Bool.false_ne_true
  | _ => rfl

theorem keepsView_nif {m : Msg} (hm : m ≠ .engineUp) : KeepsView env d (.nif m) := by
  cases m with
  | engineUp => exact absurd rfl hm
  | _ => exact trivial

theorem keepsView_of_isPassedOn {msg : EngMsg} (h : msg.isPassedOn = true) :
    KeepsView env d msg := by
  cases msg with
  | stopFix | nif => cases h
  | _ => exact trivial

/-- The dispatch, exactly. -/
theorem dispatch_right {msg : EngMsg} (hcb : d.statusCb = true)
    (hper : env.recurrence = GPS_POSITION_RECURRENCE_PERIODIC)
    (hrequest : d.agpsRequestPending = false) (h : Right d.isInSession log)
    (hdispatch : dispatch p env d msg = some (d', es)) :
    Right d'.isInSession (log ++ es) ↔ KeepsView env d msg := by
  have hquiet : ∀ {d₁ : EngData} {xs : List Event}, d₁.isInSession = d.isInSession → Silent xs →
      Right d₁.isInSession (log ++ xs) := by
    intro d₁ xs hflag hxs
    rw [hflag]
    exact (right_append hxs).mpr h
  cases dispatch_inv hdispatch with
  | stopFix hmsg =>
      rw [hmsg]
      exact stopHandler_right env hcb h
  | stopDeferred _ hpending =>
      rw [hrequest] at hpending
      cases hpending
  | engineUp hmsg hup =>
      rw [hmsg]
      exact handleEngineUp_right hcb h hup
  | nif hmsg hm hn =>
      rw [hmsg]
      exact iff_of_true (hquiet (hn.same EngData.isInSession (fun _ => rfl)) (silent_nif hn))
        (keepsView_nif hm)
  | startFix hmsg =>
      rw [hmsg]
      exact iff_of_true (startHandler_right hcb h) trivial
  | reportPosition hmsg =>
      rw [hmsg]
      exact iff_of_true (reportPosition_right hper h _ _ _) trivial
  | reportStatus hmsg =>
      rw [hmsg]
      exact iff_of_true (reportStatus_right hcb h _) trivial
  | engineDown hmsg =>
      rw [hmsg]
      exact iff_of_true (reportStatus_right (d := { d with ni := Ni.niResetOnEngineRestart d.ni })
        hcb h GPS_STATUS_ENGINE_OFF) trivial
  | requestNi hmsg =>
      rw [hmsg]
      exact iff_of_true (hquiet rfl silent_nil) trivial
  | deleteAidingData hmsg =>
      rw [hmsg]
      exact iff_of_true (hquiet rfl silent_nil) trivial
  | passedOn hmsg hes =>
      exact iff_of_true (hquiet rfl (silent_of_passesOn hes)) (keepsView_of_isPassedOn hmsg)

/-- With no stop deferred, what is done after the dispatch tells nothing. -/
theorem postDispatch_quiet (env : ThreadEnv) (msg : EngMsg) (hstop : d.stopRequestPending = false) :
    (postDispatch env d msg).1.isInSession = d.isInSession ∧ Silent (postDispatch env d msg).2 ∧
      (postDispatch env d msg).1.stopRequestPending = false ∧
      (d.agpsRequestPending = false → (postDispatch env d msg).1.agpsRequestPending = false) := by
  have hfinish : (finishStop env d msg).2 = [] ∧
      (finishStop env d msg).1.isInSession = d.isInSession ∧
      (d.agpsRequestPending = false → (finishStop env d msg).1.agpsRequestPending = false) := by
    unfold finishStop
    split
    · simp only [hstop, Bool.false_eq_true, if_false]
      exact ⟨trivial, trivial, fun _ => trivial⟩
    · exact ⟨rfl, rfl, id⟩
  rcases hfinish with ⟨hes, hflag, hrequest⟩
  simp only [postDispatch, hes, List.nil_append, flushAidingData]
  split
  · exact ⟨hflag, silent_singleton rfl, rfl, hrequest⟩
  · exact ⟨hflag, silent_nil, rfl, hrequest⟩

/-- A round, exactly. -/
theorem processMsg_right {msg : EngMsg} (hcb : d.statusCb = true)
    (hper : env.recurrence = GPS_POSITION_RECURRENCE_PERIODIC)
    (hrequest : d.agpsRequestPending = false) (hstop : d.stopRequestPending = false)
    (h : Right d.isInSession log) (hround : processMsg p env d msg = some (d', es)) :
    (Right d'.isInSession (log ++ [.took msg] ++ es) ↔ KeepsView env d msg) ∧
      d'.agpsRequestPending = false ∧ d'.stopRequestPending = false := by
  rcases processMsg_inv hround with ⟨d₁, es₁, hdispatch, rfl, rfl⟩
  have htook : Right d.isInSession (log ++ [.took msg]) :=
    (right_append (silent_singleton rfl)).mpr h
  have hiff := dispatch_right hcb hper hrequest htook hdispatch
  rcases dispatch_pending hdispatch with ⟨hrequest₁, hstop₁⟩
  rcases postDispatch_quiet env msg ((hstop₁ hrequest).trans hstop) with
    ⟨hflag, hsilent, hstop', hrequest'⟩
  refine ⟨?_, hrequest' (hrequest₁.trans hrequest), hstop'⟩
  rw [hflag, ← List.append_assoc, right_append hsilent]
  exact hiff

end Rounds

section Runs

variable {p : Platform} {e e' : Engine} {a : Action}

theorem navKept_fresh : NavKept .fresh where
  started := wellStarted_fresh
  equipped := ⟨fun i => by cases i <;> rfl, fun hcb => absurd hcb Bool.false_ne_true⟩
  statusCb := fun hcontext => absurd hcontext Bool.false_ne_true
  agpsRequest := rfl
  stopRequest := rfl
  right := ⟨fun h => absurd h (by decide), fun h => absurd h Bool.false_ne_true⟩

theorem silent_ofCaller {xs : List Event} (h : ∀ x ∈ xs, x.ofCaller = true) : Silent xs := by
  refine silent_of_not_status (fun x hx status heq => ?_)
  have hx' := h x hx
  rw [heq] at hx'
  cases hx'

/-- Calls of other threads tell nothing. -/
theorem navKept_caller (h : NavKept e) (hnav : Navigates a) (ha : a.ofCaller = true)
    (hstep : step p e a = some e') : NavKept e' := by
  have hsession := step_caller_session h.started ha hstep
  rcases step_caller_log ha hstep with ⟨xs, hlog, hxs⟩
  have hflag := congrArg Session.isInSession hsession
  have hagps := congrArg Session.agpsRequestPending hsession
  have hstop := congrArg Session.stopRequestPending hsession
  simp only [EngData.session] at hflag hagps hstop
  refine ⟨wellStarted_step h.started hstep, equipped_step h.equipped hstep, ?_,
    hagps.trans h.agpsRequest, hstop.trans h.stopRequest, ?_⟩
  · intro hcontext'
    -- The callback comes with the context, and neither goes.
    cases step_caller_inv ha hstep with
    | kept hcore _ =>
        rw [same_of_core hcore EngData.statusCb (fun _ => rfl)]
        exact h.statusCb ((same_of_core hcore EngData.context (fun _ => rfl)).symm.trans hcontext')
    | saved _ hno _ _ => exact absurd (hno.symm.trans hcontext') Bool.false_ne_true
    | begun hinit _ _ hcallbacks hdata _ =>
        subst hinit
        rw [hdata]
        exact hnav _ hcallbacks
  · rw [hflag, hlog, right_append (silent_ofCaller hxs)]
    exact h.right

/-- A step keeps the belief right exactly if it meets the condition. -/
theorem navKept_step_iff (h : NavKept e) (hnav : Navigates a) (hstep : step p e a = some e') :
    (KeepsViewStep e a → NavKept e') ∧
      (Right e'.data.isInSession e'.log → KeepsViewStep e a) := by
  have hstarted := wellStarted_step h.started hstep
  have hequipped := equipped_step h.equipped hstep
  rcases step_cases hstep with ha | ⟨env, msg, rfl, hrunning, htaken⟩
  · refine ⟨fun _ => navKept_caller h hnav ha hstep, fun _ env msg htake => ?_⟩
    rw [htake] at ha
    cases ha
  · have hcontext := h.started.context hrunning
    cases htaken with
    | returned hend =>
        refine ⟨fun _ => ⟨hstarted, hequipped, h.statusCb, h.agpsRequest, h.stopRequest,
          (right_append (silent_singleton rfl)).mpr h.right⟩, fun _ env' msg' htake => ?_⟩
        rw [Action.take.injEq] at htake
        rcases hend with hno | hquit
        · exact absurd (hno.symm.trans hcontext) Bool.false_ne_true
        · rw [← htake.2, hquit]
          exact trivial
    | faulted _ _ hfault =>
        refine ⟨fun _ => ⟨hstarted, hequipped, h.statusCb, h.agpsRequest, h.stopRequest,
          (right_append (silent_singleton rfl)).mpr h.right⟩, fun _ env' msg' htake => ?_⟩
        rw [Action.take.injEq] at htake
        rw [← htake.1, ← htake.2]
        -- Neither of the two messages with a condition can meet a NULL pointer.
        cases msg with
        | nif m =>
            cases m with
            | engineUp =>
                rcases handleEngineUp_isSome p env h.equipped with ⟨r, hr⟩
                have hnone : handleEngineUp p env e.data = none := processMsg_eq_none hfault
                rw [hr] at hnone
                cases hnone
            | _ => exact trivial
        | stopFix =>
            have hstop : ∃ r, dispatch p env e.data .stopFix = some r :=
              dispatch_isSome p env e.data
                (fun m => by simp only [ne_eq, reduceCtorEq, not_false_eq_true])
            rcases hstop with ⟨r, hr⟩
            rw [processMsg_eq_none hfault] at hr
            cases hr
        | _ => exact trivial
    | round _ _ hround =>
        rcases processMsg_right (h.statusCb hcontext) hnav h.agpsRequest h.stopRequest h.right
          hround with ⟨hiff, hagps, hstop⟩
        have hframe := processMsg_frame hround
        constructor
        · intro hkeeps
          exact ⟨hstarted, hequipped, fun _ => hframe.statusCb.trans (h.statusCb hcontext), hagps,
            hstop, hiff.mpr (hkeeps env msg rfl)⟩
        · intro hright env' msg' htake
          rw [Action.take.injEq] at htake
          rw [← htake.1, ← htake.2]
          exact hiff.mp hright

/-- Over every run in which the position mode is periodic and the status
    callback is set: after each message the framework was told last that the
    session has begun exactly if the engine is in session, if and only if every
    stop in a session succeeds and every session is resumed when the modem
    comes back to it. -/
theorem right_iff (p : Platform) (as : List Action) (hnav : ∀ a ∈ as, Navigates a) :
    Run.Throughout (step p) (fun e =>
        (e.log.filterMap sessionStatus).getLast? = some GPS_STATUS_SESSION_BEGIN ↔
          e.data.isInSession = true) .fresh as ↔
      Run.Guarded (step p) KeepsViewStep .fresh as :=
  Run.throughout_iff_guarded_on Navigates NavKept (fun _ h => h.right)
    (fun _ _ _ ha h hg hs => (navKept_step_iff h ha hs).1 hg)
    (fun _ _ _ ha h hs hr => (navKept_step_iff h ha hs).2 hr) hnav navKept_fresh

/-- A session that begins, and a stop that the modem refuses. -/
def refusedStop : List Action :=
  [.init .agreed, .take .agreed .startFix,
    .take { ThreadEnv.agreed with stopFix := LOC_API_ADAPTER_ERR_GENERAL_FAILURE } .stopFix]

theorem refusedStop_navigates : ∀ a ∈ refusedStop, Navigates a := by
  intro a ha
  simp only [refusedStop, List.mem_cons, List.not_mem_nil, or_false] at ha
  rcases ha with rfl | rfl | rfl
  · intro callbacks hcallbacks
    cases hcallbacks
    rfl
  · rfl
  · rfl

theorem right_iff_refusedStop :
    Run.Throughout (step .unconfigured) (fun e =>
        (e.log.filterMap sessionStatus).getLast? = some GPS_STATUS_SESSION_BEGIN ↔
          e.data.isInSession = true) .fresh refusedStop ↔
      Run.Guarded (step .unconfigured) KeepsViewStep .fresh refusedStop :=
  right_iff .unconfigured refusedStop refusedStop_navigates

/-- The framework goes on believing in the session. -/
theorem refusedStop_wrong :
    ¬ Run.Throughout (step .unconfigured) (fun e =>
        (e.log.filterMap sessionStatus).getLast? = some GPS_STATUS_SESSION_BEGIN ↔
          e.data.isInSession = true) .fresh refusedStop := by
  have hend : (Run.exec (step .unconfigured) .fresh refusedStop).map (fun e =>
      ((e.log.filterMap sessionStatus).getLast?, e.data.isInSession)) =
        some (some GPS_STATUS_SESSION_BEGIN, false) := by
    decide +kernel
  rcases Option.map_eq_some_iff.mp hend with ⟨e, hexec, he⟩
  rw [Prod.mk.injEq] at he
  intro hall
  have hright := Run.throughout_iff_prefix.mp hall _ e (List.prefix_refl _) hexec
  exact Bool.false_ne_true (he.2.symm.trans (hright.mp he.1))

end Runs

end Eng

end Taoshan

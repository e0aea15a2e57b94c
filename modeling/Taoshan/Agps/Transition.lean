import Taoshan.Agps.StateMachine

/-!
# What One Call Can Do

Every transition of the AGPS state machine, once, without loops, searches or
guards.

`Transition m env op m' out` lists the outcomes of a call by name: who is told
what, who is listed afterwards, whether the service is called, which state is
next. The calls are shown to do nothing else (`perform_transition`), so whatever
is to be proved of the machine is proved by going through these cases and
never by unfolding the handlers again.

The relation describes the machine under three facts about its list, `Sound`:
the listed objects are distinct, they are older than the next address, and in
the Released state there are none. The calls keep them, and so does the flush
of a modem restart, which keeps little else.

## Main definitions

* `Op`: A call.
* `AgpsStateMachine.perform`: Its effect.
* `Sound`: What every state reached satisfies, restarts included.
* `Settled`: How an unsubscription ends.
* `Transition`: The outcomes of a call.

## Theorems

* `perform_transition`: A call has one of the outcomes.
* `Transition.of_unmatched`, `Transition.of_found_wifi`, `Transition.of_found`:
  Which one an unsubscription has.
* `sound_init`, `sound_of_transition`, `sound_drop`: `Sound` is an invariant.
-/

namespace Taoshan

namespace Agps

/-- A call of the interface. -/
inductive Op
  | subscribeRsrc (subscriber : Subscriber)
  | unsubscribeRsrc (subscriber : Subscriber)
  | onRsrcEvent (event : AgpsRsrcStatus)
  deriving DecidableEq

/-- What a call leaves behind and what it does. -/
def AgpsStateMachine.perform (m : AgpsStateMachine) (env : Env) :
    Op → AgpsStateMachine × List Effect
  | .subscribeRsrc subscriber => m.subscribeRsrc env subscriber
  | .unsubscribeRsrc subscriber => (m.unsubscribeRsrc env subscriber).2
  | .onRsrcEvent event => m.onRsrcEvent env event

/-- The list of distinct objects, empty in the Released state. -/
structure Sound (m : AgpsStateMachine) : Prop where
  nodup : (m.mSubscribers.map Subscriber.obj).Nodup
  fresh : ∀ x ∈ m.mSubscribers, x.obj < m.next
  released : m.mStatePtr = .released → m.mSubscribers = []

/-- The machine in another state with another list. -/
def AgpsStateMachine.become (m : AgpsStateMachine) (st : AgpsState) (l : List Subscriber) :
    AgpsStateMachine := { m with mStatePtr := st, mSubscribers := l }

/-- How an unsubscription that began in state `st` ends, given the list it
    left: in which state, and with which call of the service. -/
inductive Settled (env : Env) (m : AgpsStateMachine) : AgpsState → List Effect → Prop
  | empty (hst : m.mStatePtr ≠ .releasing) (hl : m.mSubscribers = []) :
      Settled env m .released [.servicer (m.nifRequest env.nifRequest .releaseAgpsDataConn)]
  | emptyReleasing (hst : m.mStatePtr = .releasing) (hl : m.mSubscribers = []) :
      Settled env m .released []
  | inactive (hst : m.mStatePtr ≠ .releasing) (hl : m.mSubscribers ≠ [])
      (hall : ∀ x ∈ m.mSubscribers, x.isInactive = true) :
      Settled env m .releasing [.servicer (m.nifRequest env.nifRequest .releaseAgpsDataConn)]
  | stay (hl : m.mSubscribers ≠ [])
      (hactive : m.mStatePtr ≠ .releasing → ∃ x ∈ m.mSubscribers, x.isInactive = false) :
      Settled env m m.mStatePtr []

/-- The events a state pays no attention to. -/
def ignored : AgpsState → AgpsRsrcStatus → Bool
  | .pending, .granted => false
  | .pending, .denied => false
  | .acquired, .released => false
  | .releasing, .released => false
  | .releasing, .denied => false
  | _, _ => true

/-- What a new client is told at once. -/
def AgpsStateMachine.welcome (m : AgpsStateMachine) (s : Subscriber) : List Effect :=
  if m.mStatePtr = .acquired then told m.toNif .granted s else []

/-- The outcomes of a call. -/
inductive Transition (m : AgpsStateMachine) (env : Env) :
    Op → AgpsStateMachine → List Effect → Prop
  /-- A second client of a machine that takes one is turned away. -/
  | refuse {s : Subscriber} (hone : m.mEnforceSingleSubscriber = true)
      (hl : m.mSubscribers ≠ []) :
      Transition m env (.subscribeRsrc s) m (told m.toNif .denied s)
  /-- The first client makes the machine ask for the connection. -/
  | request {s : Subscriber} (hst : m.mStatePtr = .released) (hl : m.mSubscribers = []) :
      Transition m env (.subscribeRsrc s) { m.enlist s with mStatePtr := .pending }
        [.servicer ((m.enlist s).nifRequest env.nifRequest .requestAgpsDataConn)]
  /-- A client that matches a listed one is absorbed. -/
  | join {s : Subscriber} (hst : m.mStatePtr ≠ .released)
      (hone : m.mEnforceSingleSubscriber = true → m.mSubscribers = [])
      (hx : ∃ x ∈ m.mSubscribers, x.equals (env.wild 0) s = true) :
      Transition m env (.subscribeRsrc s) m (m.welcome s)
  /-- Any other client is listed. -/
  | enlist {s : Subscriber} (hst : m.mStatePtr ≠ .released)
      (hone : m.mEnforceSingleSubscriber = true → m.mSubscribers = [])
      (hnew : ∀ x ∈ m.mSubscribers, x.equals (env.wild 0) s = false) :
      Transition m env (.subscribeRsrc s) (m.enlist s) (m.welcome s)
  /-- Nobody listed matches. -/
  | unknown {s : Subscriber} (hnew : ∀ x ∈ m.mSubscribers, x.equals (env.wild 0) s = false) :
      Transition m env (.unsubscribeRsrc s) m []
  /-- The match is a WIFI client: it stays until the close is complete. -/
  | mute {s x : Subscriber} {st : AgpsState} {req : List Effect}
      (hst : m.mStatePtr ≠ .released)
      (hx : m.mSubscribers.find? (fun y => y.equals (env.wild 0) s) = some x)
      (hwifi : x.isWifi = true) (hset : Settled env (m.setInactive x) st req) :
      Transition m env (.unsubscribeRsrc s) { m.setInactive x with mStatePtr := st } req
  /-- The match is not a WIFI client: it leaves with all that equal it, by the
      comparisons made after the search. -/
  | leave {s x : Subscriber} {w : Wild} {st : AgpsState} {out req : List Effect}
      (hst : m.mStatePtr ≠ .released)
      (hx : m.mSubscribers.find? (fun y => y.equals (env.wild 0) s) = some x)
      (hwifi : x.isWifi = false)
      (hout : out.Perm ((m.mSubscribers.filter (fun y => y.equals w x)).flatMap
        (told m.toNif .unsubscribe)))
      (hw : ∀ y ∈ m.mSubscribers, ∃ k, y.equals w x = y.equals (env.wild (k + 1)) x)
      (hset : Settled env
        (m.become m.mStatePtr (m.mSubscribers.filter (fun y => !y.equals w x))) st req) :
      Transition m env (.unsubscribeRsrc s)
        (m.become st (m.mSubscribers.filter (fun y => !y.equals w x))) (out ++ req)
  /-- The connection is there: the active clients are told. -/
  | grant (hst : m.mStatePtr = .pending) :
      Transition m env (.onRsrcEvent .granted) (m.become .acquired m.mSubscribers)
        ((m.mSubscribers.filter (fun x => !x.isInactive)).flatMap (told m.toNif .granted))
  /-- The connection is denied: everybody is told and leaves. -/
  | deny (hst : m.mStatePtr = .pending) :
      Transition m env (.onRsrcEvent .denied) (m.become .released [])
        (m.mSubscribers.flatMap (told m.toNif .denied))
  /-- The connection is taken away: everybody is told and leaves. -/
  | force (hst : m.mStatePtr = .acquired) :
      Transition m env (.onRsrcEvent .released) (m.become .released [])
        (m.mSubscribers.flatMap (told m.toNif .released))
  /-- The close is complete and nobody wants the connection again. -/
  | close {ev : AgpsRsrcStatus} (hst : m.mStatePtr = .releasing)
      (hev : ev = .released ∨ ev = .denied)
      (hall : ∀ x ∈ m.mSubscribers, x.isInactive = true) :
      Transition m env (.onRsrcEvent ev) (m.become .released [])
        (m.mSubscribers.flatMap (told m.toNif ev))
  /-- The close is complete and somebody does. -/
  | reopen {ev : AgpsRsrcStatus} {l : List Subscriber} (hst : m.mStatePtr = .releasing)
      (hev : ev = .released ∨ ev = .denied)
      (hl : l = m.mSubscribers.filter (fun x => !x.isInactive)) (hne : l ≠ []) :
      Transition m env (.onRsrcEvent ev) (m.become .pending l)
        ((m.mSubscribers.filter (fun x => x.isInactive)).flatMap (told m.toNif ev) ++
          [.servicer ((m.become .pending l).nifRequest env.nifRequest .requestAgpsDataConn)])
  | ignore {ev : AgpsRsrcStatus} (hign : ignored m.mStatePtr ev = true) :
      Transition m env (.onRsrcEvent ev) m []

namespace Sound

variable {m : AgpsStateMachine}

theorem nodup_list (h : Sound m) : m.mSubscribers.Nodup := List.Nodup.of_map _ h.nodup

end Sound

section Pieces

variable {m : AgpsStateMachine} {s : Subscriber}

/-- The broadcasts, as the tests on clients that they are. -/
theorem forMe_broadcastActive (w : Wild) (x : Subscriber) (status : AgpsRsrcStatus)
    (del : Bool) : x.forMe w (.broadcast .broadcastActive status del) = !x.isInactive := by
  cases hx : x.isInactive with
  | true => simp only [Subscriber.forMe, Notification.broadcast, hx]; decide
  | false => simp only [Subscriber.forMe, Notification.broadcast, hx]; decide

theorem forMe_broadcastInactive (w : Wild) (x : Subscriber) (status : AgpsRsrcStatus)
    (del : Bool) : x.forMe w (.broadcast .broadcastInactive status del) = x.isInactive := by
  cases hx : x.isInactive with
  | true => simp only [Subscriber.forMe, Notification.broadcast, hx]; decide
  | false => simp only [Subscriber.forMe, Notification.broadcast, hx]; decide

/-- A machine without active clients may be told to release the connection. -/
theorem sendRsrcRequest_release (stack : AGpsStatus)
    (h : ∀ x ∈ m.mSubscribers, x.isInactive = true) :
    m.sendRsrcRequest stack .releaseAgpsDataConn =
      [.servicer (m.nifRequest stack .releaseAgpsDataConn)] := by
  refine m.sendRsrcRequest_of_guard (Bool.eq_false_iff.mpr (fun hact => ?_))
  rcases m.hasActiveSubscribers_iff.mp hact with ⟨x, hx, hfalse⟩
  rw [h x hx] at hfalse
  exact Bool.noConfusion hfalse

/-- A machine with an active client may be told to request it. -/
theorem sendRsrcRequest_request (stack : AGpsStatus)
    (h : ∃ x ∈ m.mSubscribers, x.isInactive = false) :
    m.sendRsrcRequest stack .requestAgpsDataConn =
      [.servicer (m.nifRequest stack .requestAgpsDataConn)] :=
  m.sendRsrcRequest_of_guard (m.hasActiveSubscribers_iff.mpr h)

theorem enlist_active : ∃ x ∈ (m.enlist s).mSubscribers, x.isInactive = false :=
  ⟨s.clone m.next, List.mem_cons_self, Subscriber.clone_isInactive _ _⟩

/-- The two tests of the Pending and the Acquired state settle the matter. -/
theorem closeIfUnused_settled (env : Env) {r : AgpsStateMachine × List Effect} {st : AgpsState}
    (hst : st ≠ .releasing) (hr : r.1.mStatePtr = st) :
    ∃ req, Settled env r.1 (closeIfUnused st env r).1 req ∧
      closeIfUnused st env r = ((closeIfUnused st env r).1, r.1, r.2 ++ req) := by
  have hst' : r.1.mStatePtr ≠ .releasing := by rw [hr]; exact hst
  unfold closeIfUnused
  by_cases hl : r.1.mSubscribers = []
  · rw [r.1.hasSubscribers_eq_false_iff.mpr hl, Bool.not_false, if_pos rfl]
    have hall : ∀ x ∈ r.1.mSubscribers, x.isInactive = true := by
      intro x hx
      rw [hl] at hx
      exact absurd hx List.not_mem_nil
    rw [sendRsrcRequest_release _ hall]
    exact ⟨_, Settled.empty hst' hl, rfl⟩
  · have hsub : r.1.hasSubscribers = true :=
      Bool.not_eq_false _ ▸ fun hf => hl (r.1.hasSubscribers_eq_false_iff.mp hf)
    rw [hsub, Bool.not_true, if_neg Bool.false_ne_true]
    by_cases hact : r.1.hasActiveSubscribers = true
    · rw [hact, Bool.not_true, if_neg Bool.false_ne_true]
      refine ⟨[], ?_, by rw [List.append_nil]⟩
      rw [← hr]
      exact Settled.stay hl (fun _ => r.1.hasActiveSubscribers_iff.mp hact)
    · -- Only clients waiting for the close are left.
      have hall : ∀ x ∈ r.1.mSubscribers, x.isInactive = true := by
        intro x hx
        by_contra hne
        exact hact (r.1.hasActiveSubscribers_iff.mpr ⟨x, hx, Bool.eq_false_iff.mpr hne⟩)
      rw [Bool.eq_false_iff.mpr hact, Bool.not_false, if_pos rfl, sendRsrcRequest_release _ hall]
      exact ⟨_, Settled.inactive hst' hl hall, rfl⟩

/-- The first part of an unsubscription whose match waits for the close. -/
theorem withdraw_of_wifi (env : Env) {x : Subscriber} (hx : x.isWifi = true) :
    m.withdraw env x = (m.setInactive x, []) := by
  unfold AgpsStateMachine.withdraw
  rw [Subscriber.waitForCloseComplete_eq, if_pos hx]

/-- The first part of any other unsubscription. -/
theorem withdraw_of_not_wifi (env : Env) {x : Subscriber} (hx : x.isWifi = false)
    (hnodup : m.mSubscribers.Nodup) :
    ∃ (w : Wild) (out : List Effect),
      m.withdraw env x =
        (m.become m.mStatePtr (m.mSubscribers.filter (fun y => !y.equals w x)), out) ∧
      out.Perm ((m.mSubscribers.filter (fun y => y.equals w x)).flatMap
        (told m.toNif .unsubscribe)) ∧
      ∀ y ∈ m.mSubscribers, ∃ k, y.equals w x = y.equals (env.wild (k + 1)) x := by
  unfold AgpsStateMachine.withdraw
  rw [Subscriber.waitForCloseComplete_eq, hx, if_neg Bool.false_ne_true]
  exact AgpsStateMachine.notifySubscribers_directed _ rfl hnodup

/-- An unsubscription in a state with clients, from its first part on. -/
theorem unsubscribe_settled (env : Env) {x : Subscriber} (hst : m.mStatePtr ≠ .released)
    (hkeep : (m.withdraw env x).1.mStatePtr = m.mStatePtr) :
    ∃ st req, Settled env (m.withdraw env x).1 st req ∧
      m.handle env (.unsubscribe x) =
        ({ (m.withdraw env x).1 with mStatePtr := st }, (m.withdraw env x).2 ++ req) := by
  unfold AgpsStateMachine.handle
  cases hm : m.mStatePtr with
  | released => exact absurd hm hst
  | pending =>
      rcases closeIfUnused_settled env (by decide : AgpsState.pending ≠ .releasing)
        (hkeep.trans hm) with ⟨req, hset, heq⟩
      refine ⟨_, req, hset, ?_⟩
      simp only [AgpsState.onRsrcEvent, AgpsPendingState.onRsrcEvent]
      rw [heq]
  | acquired =>
      rcases closeIfUnused_settled env (by decide : AgpsState.acquired ≠ .releasing)
        (hkeep.trans hm) with ⟨req, hset, heq⟩
      refine ⟨_, req, hset, ?_⟩
      simp only [AgpsState.onRsrcEvent, AgpsAcquiredState.onRsrcEvent]
      rw [heq]
  | releasing =>
      -- Here nothing is sent: the release is under way already.
      have hm' := hkeep.trans hm
      simp only [AgpsState.onRsrcEvent, AgpsReleasingState.onRsrcEvent]
      by_cases hl : (m.withdraw env x).1.mSubscribers = []
      · refine ⟨.released, [], Settled.emptyReleasing hm' hl, ?_⟩
        rw [AgpsStateMachine.hasSubscribers_eq_false_iff _ |>.mpr hl, Bool.not_false, if_pos rfl,
          List.append_nil]
      · have hsub : (m.withdraw env x).1.hasSubscribers = true :=
          Bool.not_eq_false _ ▸ fun hf =>
            hl ((AgpsStateMachine.hasSubscribers_eq_false_iff _).mp hf)
        refine ⟨.releasing, [], ?_, ?_⟩
        · rw [← hm']
          exact Settled.stay hl (fun hne => absurd hm' hne)
        · rw [hsub, Bool.not_true, if_neg Bool.false_ne_true, List.append_nil]

end Pieces

section Calls

variable {m : AgpsStateMachine}

/-- A subscription has one of its outcomes. -/
theorem subscribeRsrc_transition (h : Sound m) (env : Env) (s : Subscriber) :
    Transition m env (.subscribeRsrc s) (m.subscribeRsrc env s).1 (m.subscribeRsrc env s).2 := by
  unfold AgpsStateMachine.subscribeRsrc
  by_cases hone : m.mEnforceSingleSubscriber = true ∧ m.mSubscribers ≠ []
  · have hsub : m.hasSubscribers = true :=
      Bool.not_eq_false _ ▸ fun hf => hone.2 (m.hasSubscribers_eq_false_iff.mp hf)
    rw [hone.1, hsub, Bool.and_self, if_pos rfl,
      AgpsStateMachine.notifySubscriber_of_forMe (n := .broadcast .broadcastAll .denied true) rfl
        rfl]
    exact Transition.refuse hone.1 hone.2
  · have hone' : m.mEnforceSingleSubscriber = true → m.mSubscribers = [] := by
      intro h1
      by_contra h2
      exact hone ⟨h1, h2⟩
    have hguard : ¬ (m.mEnforceSingleSubscriber && m.hasSubscribers) = true := by
      intro hc
      rcases Bool.and_eq_true_iff.mp hc with ⟨h1, h2⟩
      rw [m.hasSubscribers_eq_false_iff.mpr (hone' h1)] at h2
      exact Bool.noConfusion h2
    rw [if_neg hguard]
    by_cases hst : m.mStatePtr = .released
    · -- The list is empty, so the client is added and the service is asked.
      have hl := h.released hst
      have hadd : m.addSubscriber (env.wild 0) s = m.enlist s :=
        m.addSubscriber_of_not_mem (fun x hx => by rw [hl] at hx; exact absurd hx List.not_mem_nil)
      have hreq := sendRsrcRequest_request env.nifRequest (enlist_active (m := m) (s := s))
      simp only [AgpsStateMachine.handle, hst, AgpsState.onRsrcEvent,
        AgpsReleasedState.onRsrcEvent, hadd, hreq]
      exact Transition.request hst hl
    · -- The other three states list the client alike and differ in the welcome.
      have hwelcome : m.handle env (.subscribe s) =
          (m.addSubscriber (env.wild 0) s, m.welcome s) := by
        have hself : (Subscriber.notifyRsrcStatus m.toNif (env.wild 0) s
            (.directed s .granted false)).2.map (Effect.notify s) = told m.toNif .granted s := by
          rw [Subscriber.notifyRsrcStatus_of_forMe rfl (Subscriber.forMe_directed_self _ _ _ _)]
          rfl
        have hkeep : (m.addSubscriber (env.wild 0) s).mStatePtr = m.mStatePtr := by
          unfold AgpsStateMachine.addSubscriber
          split
          · rfl
          · rfl
        unfold AgpsStateMachine.handle AgpsStateMachine.welcome
        cases hm : m.mStatePtr with
        | released => exact absurd hm hst
        | pending =>
            rw [hm] at hkeep
            simp only [AgpsState.onRsrcEvent, AgpsPendingState.onRsrcEvent, reduceCtorEq, if_false]
            rw [← hkeep]
        | acquired =>
            rw [hm] at hkeep
            simp only [AgpsState.onRsrcEvent, AgpsAcquiredState.onRsrcEvent, if_true, hself]
            rw [← hkeep]
        | releasing =>
            rw [hm] at hkeep
            simp only [AgpsState.onRsrcEvent, AgpsReleasingState.onRsrcEvent, reduceCtorEq,
              if_false]
            rw [← hkeep]
      rw [hwelcome]
      by_cases hx : ∃ x ∈ m.mSubscribers, x.equals (env.wild 0) s = true
      · rw [m.addSubscriber_of_mem hx]
        exact Transition.join hst hone' hx
      · have hnew : ∀ x ∈ m.mSubscribers, x.equals (env.wild 0) s = false :=
          fun x hin => Bool.eq_false_iff.mpr (fun he => hx ⟨x, hin, he⟩)
        rw [m.addSubscriber_of_not_mem hnew]
        exact Transition.enlist hst hone' hnew

/-- An unsubscription has one of its outcomes, and its result says which. -/
theorem unsubscribeRsrc_transition (h : Sound m) (env : Env) (s : Subscriber) :
    Transition m env (.unsubscribeRsrc s) (m.unsubscribeRsrc env s).2.1
      (m.unsubscribeRsrc env s).2.2 := by
  unfold AgpsStateMachine.unsubscribeRsrc
  rw [AgpsStateMachine.find_ofSubscriber]
  cases hf : m.mSubscribers.find? (fun x => x.equals (env.wild 0) s) with
  | none =>
      exact Transition.unknown (fun x hx => Bool.eq_false_iff.mpr (List.find?_eq_none.mp hf x hx))
  | some x =>
      -- Somebody is listed, so this is not the Released state.
      have hst : m.mStatePtr ≠ .released := by
        intro hst
        have hin := List.mem_of_find?_eq_some hf
        rw [h.released hst] at hin
        exact absurd hin List.not_mem_nil
      cases hwifi : x.isWifi with
      | true =>
          have hw := withdraw_of_wifi (m := m) env hwifi
          rcases unsubscribe_settled (x := x) env hst (by rw [hw]; rfl) with
            ⟨st, req, hset, heq⟩
          rw [hw] at hset heq
          simp only [heq, List.nil_append]
          exact Transition.mute hst hf hwifi hset
      | false =>
          rcases withdraw_of_not_wifi env hwifi h.nodup_list with
            ⟨w, out, hw, hout, hres⟩
          rcases unsubscribe_settled (x := x) env hst (by rw [hw]; rfl) with
            ⟨st, req, hset, heq⟩
          rw [hw] at hset heq
          simp only [heq]
          exact Transition.leave hst hf hwifi hout hres hset

/-- The end of a close, for the denial and the release alike. -/
theorem closed_transition (env : Env) (event : RsrcEvent) (hst : m.mStatePtr = .releasing)
    (hev : event.status = .released ∨ event.status = .denied) :
    Transition m env (.onRsrcEvent event.status)
      { (closed m env event).2.1 with mStatePtr := (closed m env event).1 }
      (closed m env event).2.2 := by
  have hhandled : Subscriber.handled event.status = true := by
    rcases hev with he | he
    · rw [he]; rfl
    · rw [he]; rfl
  have hnot := AgpsStateMachine.notifySubscribers_delete (m := m) env.wild
    (n := .broadcast .broadcastInactive event.status true) hhandled rfl
    (fun w x => forMe_broadcastInactive w x event.status true)
  by_cases hl : m.mSubscribers.filter (fun x => !x.isInactive) = []
  · -- Nobody is left: the machine is done with the connection.
    have hall : ∀ x ∈ m.mSubscribers, x.isInactive = true := by
      intro x hx
      by_contra hne
      exact (List.filter_eq_nil_iff.mp hl x hx) (by rw [Bool.eq_false_iff.mpr hne]; rfl)
    rw [hl, List.filter_eq_self.mpr hall] at hnot
    have hclosed : closed m env event = (.released, m.become m.mStatePtr [],
        m.mSubscribers.flatMap (told m.toNif event.status)) := by
      unfold closed
      rw [hnot]
      exact if_neg Bool.false_ne_true
    rw [hclosed]
    exact Transition.close hst hev hall
  · -- Whoever is left is active and makes the machine ask again.
    have hsub : (m.become m.mStatePtr
        (m.mSubscribers.filter (fun x => !x.isInactive))).hasSubscribers = true :=
      Bool.not_eq_false _ ▸ fun hf => hl ((AgpsStateMachine.hasSubscribers_eq_false_iff _).mp hf)
    have hact : ∃ x ∈ (m.become m.mStatePtr
        (m.mSubscribers.filter (fun x => !x.isInactive))).mSubscribers, x.isInactive = false := by
      rcases List.exists_mem_of_ne_nil _ hl with ⟨x, hx⟩
      exact ⟨x, hx, Bool.not_eq_true' _ |>.mp (List.mem_filter.mp hx).2⟩
    have hclosed : closed m env event = (.pending,
        m.become m.mStatePtr (m.mSubscribers.filter (fun x => !x.isInactive)),
        (m.mSubscribers.filter (fun x => x.isInactive)).flatMap (told m.toNif event.status) ++
          (m.become m.mStatePtr (m.mSubscribers.filter (fun x => !x.isInactive))).sendRsrcRequest
            env.nifRequest .requestAgpsDataConn) := by
      unfold closed
      rw [hnot]
      exact if_pos hsub
    rw [hclosed, sendRsrcRequest_request _ hact]
    exact Transition.reopen hst hev rfl hl

/-- An answer of the service has one of its outcomes. -/
theorem onRsrcEvent_transition (env : Env) (event : AgpsRsrcStatus) :
    Transition m env (.onRsrcEvent event) (m.onRsrcEvent env event).1
      (m.onRsrcEvent env event).2 := by
  have hign : ∀ st ev, m.mStatePtr = st → ignored st ev = true →
      Transition m env (.onRsrcEvent ev) { m with mStatePtr := st } [] := by
    rintro st ev rfl hi
    exact Transition.ignore hi
  unfold AgpsStateMachine.onRsrcEvent
  cases event with
  | subscribe => exact hign _ .subscribe rfl (by cases m.mStatePtr <;> rfl)
  | unsubscribe => exact hign _ .unsubscribe rfl (by cases m.mStatePtr <;> rfl)
  | statusMax => exact hign _ .statusMax rfl (by cases m.mStatePtr <;> rfl)
  | granted =>
      unfold AgpsStateMachine.handle
      cases hst : m.mStatePtr with
      | released => exact hign _ _ hst rfl
      | pending =>
          have hnot := AgpsStateMachine.notifySubscribers_keep (m := m) env.wild
            (n := .broadcast .broadcastActive .granted false) rfl rfl
          simp only [forMe_broadcastActive] at hnot
          simp only [AgpsState.onRsrcEvent, AgpsPendingState.onRsrcEvent, hnot]
          exact Transition.grant hst
      | acquired => exact hign _ _ hst rfl
      | releasing => exact hign _ _ hst rfl
  | released =>
      unfold AgpsStateMachine.handle
      cases hst : m.mStatePtr with
      | released => exact hign _ _ hst rfl
      | pending => exact hign _ _ hst rfl
      | acquired =>
          have hnot := AgpsStateMachine.notifySubscribers_delete (m := m) env.wild
            (n := .broadcast .broadcastAll .released true) rfl rfl (fun _ _ => rfl)
          simp only [Bool.not_true, List.filter_false, List.filter_true] at hnot
          simp only [AgpsState.onRsrcEvent, AgpsAcquiredState.onRsrcEvent, hnot]
          exact Transition.force hst
      | releasing => exact closed_transition env .released hst (Or.inl rfl)
  | denied =>
      unfold AgpsStateMachine.handle
      cases hst : m.mStatePtr with
      | released => exact hign _ _ hst rfl
      | pending =>
          have hnot := AgpsStateMachine.notifySubscribers_delete (m := m) env.wild
            (n := .broadcast .broadcastAll .denied true) rfl rfl (fun _ _ => rfl)
          simp only [Bool.not_true, List.filter_false, List.filter_true] at hnot
          simp only [AgpsState.onRsrcEvent, AgpsPendingState.onRsrcEvent, hnot]
          exact Transition.deny hst
      | acquired => exact hign _ _ hst rfl
      | releasing => exact closed_transition env .denied hst (Or.inr rfl)

/-- A call has one of the outcomes. -/
theorem perform_transition (h : Sound m) (env : Env) (op : Op) :
    Transition m env op (m.perform env op).1 (m.perform env op).2 := by
  cases op with
  | subscribeRsrc s => exact subscribeRsrc_transition h env s
  | unsubscribeRsrc s => exact unsubscribeRsrc_transition h env s
  | onRsrcEvent event => exact onRsrcEvent_transition env event

end Calls

section Inversion

variable {m m' : AgpsStateMachine} {env : Env} {out : List Effect} {s x : Subscriber}

/-- An unsubscription that matches nobody does nothing. -/
theorem Transition.of_unmatched (ht : Transition m env (.unsubscribeRsrc s) m' out)
    (hnew : ∀ x ∈ m.mSubscribers, x.equals (env.wild 0) s = false) : m' = m ∧ out = [] := by
  have hnone : m.mSubscribers.find? (fun y => y.equals (env.wild 0) s) = none :=
    List.find?_eq_none.mpr (fun x hx => Bool.eq_false_iff.mp (hnew x hx))
  cases ht with
  | unknown _ => exact ⟨rfl, rfl⟩
  | mute _ hx _ _ =>
      rw [hnone] at hx
      cases hx
  | leave _ hx _ _ _ _ =>
      rw [hnone] at hx
      cases hx

/-- One that matches a WIFI client marks it. -/
theorem Transition.of_found_wifi (ht : Transition m env (.unsubscribeRsrc s) m' out)
    (hx : m.mSubscribers.find? (fun y => y.equals (env.wild 0) s) = some x)
    (hwifi : x.isWifi = true) :
    ∃ st, Settled env (m.setInactive x) st out ∧
      m' = { m.setInactive x with mStatePtr := st } := by
  cases ht with
  | unknown hnew =>
      have hfound := List.find?_some hx
      rw [hnew x (List.mem_of_find?_eq_some hx)] at hfound
      exact Bool.noConfusion hfound
  | mute _ hx' _ hset =>
      rw [hx, Option.some.injEq] at hx'
      subst hx'
      exact ⟨_, hset, rfl⟩
  | leave _ hx' hwifi' _ _ _ =>
      rw [hx, Option.some.injEq] at hx'
      rw [← hx', hwifi] at hwifi'
      exact Bool.noConfusion hwifi'

/-- One that matches a client of another kind removes it with all that equal
    it. -/
theorem Transition.of_found (ht : Transition m env (.unsubscribeRsrc s) m' out)
    (hx : m.mSubscribers.find? (fun y => y.equals (env.wild 0) s) = some x)
    (hwifi : x.isWifi = false) :
    ∃ w st told' req,
      told'.Perm ((m.mSubscribers.filter (fun y => y.equals w x)).flatMap
        (told m.toNif .unsubscribe)) ∧
      (∀ y ∈ m.mSubscribers, ∃ k, y.equals w x = y.equals (env.wild (k + 1)) x) ∧
      Settled env (m.become m.mStatePtr (m.mSubscribers.filter (fun y => !y.equals w x))) st req ∧
      m' = m.become st (m.mSubscribers.filter (fun y => !y.equals w x)) ∧
      out = told' ++ req := by
  cases ht with
  | unknown hnew =>
      have hfound := List.find?_some hx
      rw [hnew x (List.mem_of_find?_eq_some hx)] at hfound
      exact Bool.noConfusion hfound
  | mute _ hx' hwifi' _ =>
      rw [hx, Option.some.injEq] at hx'
      rw [← hx', hwifi] at hwifi'
      exact Bool.noConfusion hwifi'
  | leave _ hx' _ hout hw hset =>
      rw [hx, Option.some.injEq] at hx'
      subst hx'
      exact ⟨_, _, _, _, hout, hw, hset, rfl, rfl⟩

end Inversion

section Invariant

variable {m m' : AgpsStateMachine} {env : Env} {op : Op} {out : List Effect}

theorem sound_init (type : AGpsType) (one : Bool) (bearer : Int) :
    Sound (.init type one bearer) where
  nodup := List.nodup_nil
  fresh := fun _ hx => absurd hx List.not_mem_nil
  released := fun _ => rfl

/-- A flush keeps the machine sound, in whatever state it is. -/
theorem sound_drop : Sound m.dropAllSubscribers.1 where
  nodup := List.nodup_nil
  fresh := fun _ hx => absurd hx List.not_mem_nil
  released := fun _ => rfl

/-- Clients that leave keep a machine sound. -/
theorem Sound.become (h : Sound m) {st : AgpsState} {l : List Subscriber}
    (hl : l.Sublist m.mSubscribers) (hst : st = .released → l = []) : Sound (m.become st l) where
  nodup := h.nodup.sublist (hl.map Subscriber.obj)
  fresh := fun x hx => h.fresh x (hl.subset hx)
  released := hst

/-- A client that joins does, too. -/
theorem Sound.enlist (h : Sound m) {st : AgpsState} (s : Subscriber) (hst : st ≠ .released) :
    Sound { m.enlist s with mStatePtr := st } where
  nodup := by
    simp only [AgpsStateMachine.enlist, List.map_cons, List.nodup_cons, Subscriber.clone_obj]
    -- The new object's address is newer than all that are listed.
    refine ⟨fun hin => ?_, h.nodup⟩
    rcases List.mem_map.mp hin with ⟨x, hx, hobj⟩
    have hlt := h.fresh x hx
    omega
  fresh := by
    intro x hx
    rcases List.mem_cons.mp hx with rfl | hin
    · simp only [AgpsStateMachine.enlist, Subscriber.clone_obj]
      omega
    · have hlt := h.fresh x hin
      simp only [AgpsStateMachine.enlist]
      omega
  released := fun hr => absurd hr hst

theorem setInactive_map_obj (x : Subscriber) :
    (m.setInactive x).mSubscribers.map Subscriber.obj = m.mSubscribers.map Subscriber.obj := by
  simp only [AgpsStateMachine.setInactive, List.map_map]
  refine List.map_congr_left (fun y _ => ?_)
  by_cases hy : y.obj = x.obj
  · simp only [Function.comp_apply, if_pos hy, Subscriber.setInactive_obj]
  · simp only [Function.comp_apply, if_neg hy]

theorem setInactive_eq_nil_iff (x : Subscriber) :
    (m.setInactive x).mSubscribers = [] ↔ m.mSubscribers = [] := by
  simp only [AgpsStateMachine.setInactive, List.map_eq_nil_iff]

/-- And so does marking one. -/
theorem Sound.setInactive (h : Sound m) {st : AgpsState} (x : Subscriber)
    (hst : st = .released → m.mSubscribers = []) :
    Sound { m.setInactive x with mStatePtr := st } where
  nodup := by
    have hobj := setInactive_map_obj (m := m) x
    simp only [hobj]
    exact h.nodup
  fresh := by
    intro y hy
    rcases List.mem_map.mp hy with ⟨z, hz, rfl⟩
    have hlt := h.fresh z hz
    by_cases hzx : z.obj = x.obj
    · rw [if_pos hzx, Subscriber.setInactive_obj]
      exact hlt
    · rw [if_neg hzx]
      exact hlt
  released := fun hr => (setInactive_eq_nil_iff x).mpr (hst hr)

/-- An unsubscription that ends in the Released state left nobody. -/
theorem Settled.released {m : AgpsStateMachine} {st : AgpsState} {req : List Effect}
    (h : Settled env m st req) (hm : m.mStatePtr ≠ .released) (hst : st = .released) :
    m.mSubscribers = [] := by
  cases h with
  | empty _ hl => exact hl
  | emptyReleasing _ hl => exact hl
  | inactive _ _ _ => exact absurd hst (by decide)
  | stay _ _ => exact absurd hst hm

/-- Every outcome keeps the machine sound. -/
theorem sound_of_transition (h : Sound m) (ht : Transition m env op m' out) : Sound m' := by
  cases ht with
  | refuse _ _ => exact h
  | request _ _ => exact h.enlist _ (by decide)
  | join _ _ _ => exact h
  | enlist hst _ _ => exact h.enlist _ hst
  | unknown _ => exact h
  | mute hst _ _ hset =>
      exact h.setInactive _ (fun hr => (setInactive_eq_nil_iff _).mp (hset.released hst hr))
  | leave hst _ _ _ _ hset =>
      exact h.become List.filter_sublist (fun hr => hset.released hst hr)
  | grant _ => exact h.become (List.Sublist.refl _) (fun hr => absurd hr (by decide))
  | deny _ => exact h.become (List.nil_sublist _) (fun _ => rfl)
  | force _ => exact h.become (List.nil_sublist _) (fun _ => rfl)
  | close _ _ _ => exact h.become (List.nil_sublist _) (fun _ => rfl)
  | reopen _ _ hl _ =>
      rw [hl]
      exact h.become List.filter_sublist (fun hr => absurd hr (by decide))
  | ignore _ => exact h

end Invariant

end Agps

end Taoshan

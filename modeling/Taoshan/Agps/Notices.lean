import Taoshan.Agps.Invariant

/-!
# Who Is Told, and Who Leaves

A client is notified and removed by one predicate, called by a search that
stops at its first hit and is started again until it finds nothing, so that
clients in front of a hit are visited over and over. That nobody is told twice,
left out, or removed without having been told follows from what `Sweep` proves
of such loops; here it is said for every call.

`ExactNotices` lists, for each call and each state in which it does something
different, the messages sent and the list left behind. The messages are those
of `notice`, which is one message for every status a client reacts to, except
that a WIFI client is not told that it has been unsubscribed (`notice_one`).

## Main definitions

* `noticesOf`: The messages to clients among the effects.
* `notice`: What one client is told on a status.
* `ExactNotices`: The messages and removals of every call.

## Theorems

* `notice_one`: A notice is one message.
* `granted_of_pending`, `denied_of_pending`, `released_of_acquired`,
  `closed_of_releasing`, `nothing_of_ignored`: The answers, state by state.
* `welcomed_of_subscribe`, `leave_of_unsubscribe`: Clients that come and go.
* `exactNotices_of_wellFormed`: The calls of a well-formed machine are exact.
* `exactNotices_run`: So is every call of every run.
-/

namespace Taoshan

namespace Agps

/-- The messages to clients among the effects of a call, with the client each
    is for. -/
def noticesOf (out : List Effect) : List (Subscriber × ClientMsg) :=
  out.filterMap fun
    | .notify rcver msg => some (rcver, msg)
    | _ => none

/-- What a client is told on a status. -/
def notice (nif : Nif) (status : AgpsRsrcStatus) (s : Subscriber) :
    List (Subscriber × ClientMsg) :=
  (s.msgs nif status).map fun msg => (s, msg)

/-- The messages sent and the list left by every call that can be made. -/
structure ExactNotices (m : AgpsStateMachine) : Prop where
  /-- A grant that was waited for: every active client is told, none leaves. -/
  granted_pending : ∀ env m' out, m.mStatePtr = .pending →
    m.perform env (.onRsrcEvent .granted) = (m', out) →
    noticesOf out =
      (m.mSubscribers.filter (fun x => !x.isInactive)).flatMap (notice m.toNif .granted) ∧
    m'.mSubscribers = m.mSubscribers
  /-- A denial that was waited for: everybody is told and leaves. -/
  denied_pending : ∀ env m' out, m.mStatePtr = .pending →
    m.perform env (.onRsrcEvent .denied) = (m', out) →
    noticesOf out = m.mSubscribers.flatMap (notice m.toNif .denied) ∧ m'.mSubscribers = []
  /-- A connection taken away: everybody is told and leaves. -/
  released_acquired : ∀ env m' out, m.mStatePtr = .acquired →
    m.perform env (.onRsrcEvent .released) = (m', out) →
    noticesOf out = m.mSubscribers.flatMap (notice m.toNif .released) ∧ m'.mSubscribers = []
  /-- A close that is complete: the inactive clients are told and leave. -/
  closed_releasing : ∀ env ev m' out, m.mStatePtr = .releasing → ev = .released ∨ ev = .denied →
    m.perform env (.onRsrcEvent ev) = (m', out) →
    noticesOf out =
      (m.mSubscribers.filter (fun x => x.isInactive)).flatMap (notice m.toNif ev) ∧
    m'.mSubscribers = m.mSubscribers.filter (fun x => !x.isInactive)
  /-- Every other answer: nobody is told, nothing changes. -/
  event_ignored : ∀ env ev m' out, ignored m.mStatePtr ev = true →
    m.perform env (.onRsrcEvent ev) = (m', out) → noticesOf out = [] ∧ m' = m
  /-- A client turned away: it is told so, nothing changes. -/
  subscribe_refused : ∀ env s m' out, m.mEnforceSingleSubscriber = true →
    m.mSubscribers ≠ [] → m.perform env (.subscribeRsrc s) = (m', out) →
    noticesOf out = notice m.toNif .denied s ∧ m' = m
  /-- A subscription while the connection is held: the client is told. -/
  subscribe_acquired : ∀ env s m' out, m.mStatePtr = .acquired →
    (m.mEnforceSingleSubscriber = true → m.mSubscribers = []) →
    m.perform env (.subscribeRsrc s) = (m', out) →
    noticesOf out = notice m.toNif .granted s ∧ m.mSubscribers <:+ m'.mSubscribers
  /-- Any other subscription: nobody is told yet. -/
  subscribe_waiting : ∀ env s m' out, m.mStatePtr ≠ .acquired →
    (m.mEnforceSingleSubscriber = true → m.mSubscribers = []) →
    m.perform env (.subscribeRsrc s) = (m', out) →
    noticesOf out = [] ∧ m.mSubscribers <:+ m'.mSubscribers
  /-- The match does not wait for the close: all that equal it are told, one
      message each, and leave. -/
  unsubscribe_leave : ∀ env s x m' out,
    m.mSubscribers.find? (fun y => y.equals (env.wild 0) s) = some x →
    x.waitForCloseComplete = false → m.perform env (.unsubscribeRsrc s) = (m', out) →
    ∃ w : Wild,
      (∀ y ∈ m.mSubscribers, ∃ k, y.equals w x = y.equals (env.wild (k + 1)) x) ∧
      (noticesOf out).Perm ((m.mSubscribers.filter (fun y => y.equals w x)).flatMap
        (notice m.toNif .unsubscribe)) ∧
      (∀ y ∈ m.mSubscribers.filter (fun y => y.equals w x),
        ∃ msg, notice m.toNif .unsubscribe y = [(y, msg)]) ∧
      m'.mSubscribers = m.mSubscribers.filter (fun y => !y.equals w x)
  /-- The match waits for the close: it is marked, and that is all. -/
  unsubscribe_mute : ∀ env s x m' out,
    m.mSubscribers.find? (fun y => y.equals (env.wild 0) s) = some x →
    x.waitForCloseComplete = true → m.perform env (.unsubscribeRsrc s) = (m', out) →
    noticesOf out = [] ∧
    m'.mSubscribers = m.mSubscribers.map (fun y => if y = x then y.setInactive else y)
  /-- There is no match: nothing happens. -/
  unsubscribe_unknown : ∀ env s m' out,
    (∀ x ∈ m.mSubscribers, x.equals (env.wild 0) s = false) →
    m.perform env (.unsubscribeRsrc s) = (m', out) → noticesOf out = [] ∧ m' = m

section Pieces

variable {m : AgpsStateMachine} {env : Env}

/-- A notice is one message, except that a WIFI client is not told that it has
    been unsubscribed. -/
theorem notice_one (nif : Nif) {status : AgpsRsrcStatus} {s : Subscriber}
    (hstatus : Subscriber.handled status = true)
    (h : status ≠ .unsubscribe ∨ s.isWifi = false) :
    ∃ msg, notice nif status s = [(s, msg)] := by
  cases s with
  | bit obj id ip =>
      cases status <;> first | exact ⟨_, rfl⟩ | exact absurd hstatus (by decide)
  | atl obj id mode =>
      cases status <;> first | exact ⟨_, rfl⟩ | exact absurd hstatus (by decide)
  | wifi obj ssid password senderId inactive =>
      cases status with
      | subscribe => exact absurd hstatus (by decide)
      | statusMax => exact absurd hstatus (by decide)
      | granted => exact ⟨_, rfl⟩
      | released => exact ⟨_, rfl⟩
      | denied => exact ⟨_, rfl⟩
      | unsubscribe =>
          rcases h with h | h
          · exact absurd rfl h
          · exact Bool.noConfusion h

theorem noticesOf_append (xs ys : List Effect) :
    noticesOf (xs ++ ys) = noticesOf xs ++ noticesOf ys := List.filterMap_append

@[simp] theorem noticesOf_told (nif : Nif) (status : AgpsRsrcStatus) (s : Subscriber) :
    noticesOf (told nif status s) = notice nif status s := by
  unfold noticesOf told notice
  rw [List.filterMap_map]
  exact congrFun (List.filterMap_eq_map (f := fun msg => (s, msg))) _

@[simp] theorem noticesOf_flatMap_told (nif : Nif) (status : AgpsRsrcStatus)
    (l : List Subscriber) :
    noticesOf (l.flatMap (told nif status)) = l.flatMap (notice nif status) := by
  induction l with
  | nil => rfl
  | cons s l ih =>
      rw [List.flatMap_cons, List.flatMap_cons, noticesOf_append, noticesOf_told, ih]

/-- Whatever an unsubscription says to the service, clients do not hear it. -/
theorem noticesOf_settled {st : AgpsState} {req : List Effect} (h : Settled env m st req) :
    noticesOf req = [] := by
  cases h with
  | empty _ _ => rfl
  | emptyReleasing _ _ => rfl
  | inactive _ _ _ => rfl
  | stay _ _ => rfl

/-- A client is marked through its address, which it alone has. -/
theorem setInactive_eq_map (h : Sound m) {x : Subscriber} (hx : x ∈ m.mSubscribers) :
    (m.setInactive x).mSubscribers =
      m.mSubscribers.map (fun y => if y = x then y.setInactive else y) := by
  refine List.map_congr_left (fun y hy => ?_)
  by_cases hyx : y = x
  · rw [if_pos hyx, if_pos (congrArg Subscriber.obj hyx)]
  · have hobj : y.obj ≠ x.obj := fun he => hyx (List.inj_on_of_nodup_map h.nodup hy hx he)
    rw [if_neg hyx, if_neg hobj]

theorem isWifi_of_waitForCloseComplete {x : Subscriber} {b : Bool}
    (h : x.waitForCloseComplete = b) : x.isWifi = b := by
  rw [← Subscriber.waitForCloseComplete_eq]
  exact h

end Pieces

section Calls

variable {m : AgpsStateMachine}

/-- The outcome of a call, from its result. -/
theorem transition_of_perform (h : Sound m) {env : Env} {op : Op} {m' : AgpsStateMachine}
    {out : List Effect} (hr : m.perform env op = (m', out)) : Transition m env op m' out := by
  have ht := perform_transition h env op
  rw [hr] at ht
  exact ht

/-- A machine that waits for its connection tells the active clients of a grant. -/
theorem granted_of_pending (h : Sound m) (hst : m.mStatePtr = .pending) {env : Env}
    {m' : AgpsStateMachine} {out : List Effect}
    (hr : m.perform env (.onRsrcEvent .granted) = (m', out)) :
    noticesOf out =
      (m.mSubscribers.filter (fun x => !x.isInactive)).flatMap (notice m.toNif .granted) ∧
    m'.mSubscribers = m.mSubscribers := by
  cases transition_of_perform h hr with
  | grant _ => exact ⟨noticesOf_flatMap_told _ _ _, rfl⟩
  | close hrel _ _ => rw [hst] at hrel; cases hrel
  | reopen hrel _ _ _ => rw [hst] at hrel; cases hrel
  | ignore hign => rw [hst] at hign; cases hign

/-- And everybody of a denial, with which they leave. -/
theorem denied_of_pending (h : Sound m) (hst : m.mStatePtr = .pending) {env : Env}
    {m' : AgpsStateMachine} {out : List Effect}
    (hr : m.perform env (.onRsrcEvent .denied) = (m', out)) :
    noticesOf out = m.mSubscribers.flatMap (notice m.toNif .denied) ∧ m'.mSubscribers = [] := by
  cases transition_of_perform h hr with
  | deny _ => exact ⟨noticesOf_flatMap_told _ _ _, rfl⟩
  | close hrel _ _ => rw [hst] at hrel; cases hrel
  | reopen hrel _ _ _ => rw [hst] at hrel; cases hrel
  | ignore hign => rw [hst] at hign; cases hign

/-- A machine that loses its connection tells everybody. -/
theorem released_of_acquired (h : Sound m) (hst : m.mStatePtr = .acquired) {env : Env}
    {m' : AgpsStateMachine} {out : List Effect}
    (hr : m.perform env (.onRsrcEvent .released) = (m', out)) :
    noticesOf out = m.mSubscribers.flatMap (notice m.toNif .released) ∧ m'.mSubscribers = [] := by
  cases transition_of_perform h hr with
  | force _ => exact ⟨noticesOf_flatMap_told _ _ _, rfl⟩
  | close hrel _ _ => rw [hst] at hrel; cases hrel
  | reopen hrel _ _ _ => rw [hst] at hrel; cases hrel
  | ignore hign => rw [hst] at hign; cases hign

/-- A machine that closes its connection tells the inactive clients when it is
    closed, and keeps the others. -/
theorem closed_of_releasing (h : Sound m) (hst : m.mStatePtr = .releasing) {env : Env}
    {ev : AgpsRsrcStatus} (hev : ev = .released ∨ ev = .denied) {m' : AgpsStateMachine}
    {out : List Effect} (hr : m.perform env (.onRsrcEvent ev) = (m', out)) :
    noticesOf out =
      (m.mSubscribers.filter (fun x => x.isInactive)).flatMap (notice m.toNif ev) ∧
    m'.mSubscribers = m.mSubscribers.filter (fun x => !x.isInactive) := by
  cases transition_of_perform h hr with
  | grant hpend => rw [hst] at hpend; cases hpend
  | deny hpend => rw [hst] at hpend; cases hpend
  | force hacq => rw [hst] at hacq; cases hacq
  | close _ _ hall =>
      -- Nobody is active, so the inactive clients are all there are.
      refine ⟨?_, ?_⟩
      · rw [noticesOf_flatMap_told, List.filter_eq_self.mpr hall]
      · refine (List.filter_eq_nil_iff.mpr (fun x hx => ?_)).symm
        rw [hall x hx]
        decide
  | reopen _ _ hl _ =>
      refine ⟨?_, hl⟩
      rw [noticesOf_append, noticesOf_flatMap_told]
      exact List.append_nil _
  | ignore hign =>
      rw [hst] at hign
      rcases hev with rfl | rfl
      · cases hign
      · cases hign

/-- No machine does anything about an answer that its state ignores. -/
theorem nothing_of_ignored (h : Sound m) {env : Env} {ev : AgpsRsrcStatus}
    (hign : ignored m.mStatePtr ev = true) {m' : AgpsStateMachine} {out : List Effect}
    (hr : m.perform env (.onRsrcEvent ev) = (m', out)) : noticesOf out = [] ∧ m' = m := by
  cases transition_of_perform h hr with
  | grant hst => rw [hst] at hign; cases hign
  | deny hst => rw [hst] at hign; cases hign
  | force hst => rw [hst] at hign; cases hign
  | close hst hev _ =>
      rw [hst] at hign
      rcases hev with rfl | rfl
      · cases hign
      · cases hign
  | reopen hst hev _ _ =>
      rw [hst] at hign
      rcases hev with rfl | rfl
      · cases hign
      · cases hign
  | ignore _ => exact ⟨rfl, rfl⟩

/-- A client that is taken on hears what it is welcomed with, and the others stay. -/
theorem welcomed_of_subscribe (h : Sound m) {env : Env} {s : Subscriber}
    (hone : m.mEnforceSingleSubscriber = true → m.mSubscribers = []) {m' : AgpsStateMachine}
    {out : List Effect} (hr : m.perform env (.subscribeRsrc s) = (m', out)) :
    noticesOf out = noticesOf (m.welcome s) ∧ m.mSubscribers <:+ m'.mSubscribers := by
  cases transition_of_perform h hr with
  | refuse h1 hne => exact absurd (hone h1) hne
  | request hrel _ =>
      -- A released machine has nothing to welcome anybody with.
      have hwelcome : m.welcome s = [] := if_neg (by rw [hrel]; exact nofun)
      exact ⟨by rw [hwelcome]; rfl, List.suffix_cons _ _⟩
  | join _ _ _ => exact ⟨rfl, List.suffix_refl _⟩
  | enlist _ _ _ => exact ⟨rfl, List.suffix_cons _ _⟩

/-- Those that leave with a client that unsubscribes are told, one message each. -/
theorem leave_of_unsubscribe (h : WellFormed m) {env : Env} {s x : Subscriber}
    (hx : m.mSubscribers.find? (fun y => y.equals (env.wild 0) s) = some x)
    (hwait : x.waitForCloseComplete = false) {m' : AgpsStateMachine} {out : List Effect}
    (hr : m.perform env (.unsubscribeRsrc s) = (m', out)) :
    ∃ w : Wild,
      (∀ y ∈ m.mSubscribers, ∃ k, y.equals w x = y.equals (env.wild (k + 1)) x) ∧
      (noticesOf out).Perm ((m.mSubscribers.filter (fun y => y.equals w x)).flatMap
        (notice m.toNif .unsubscribe)) ∧
      (∀ y ∈ m.mSubscribers.filter (fun y => y.equals w x),
        ∃ msg, notice m.toNif .unsubscribe y = [(y, msg)]) ∧
      m'.mSubscribers = m.mSubscribers.filter (fun y => !y.equals w x) := by
  have hwifi := isWifi_of_waitForCloseComplete hwait
  rcases (transition_of_perform h.toSound hr).of_found hx hwifi with
    ⟨w, st, told', req, hout, hres, hset, rfl, rfl⟩
  refine ⟨w, hres, ?_, fun y hy => ?_, rfl⟩
  · rw [noticesOf_append, noticesOf_settled hset, List.append_nil, ← noticesOf_flatMap_told]
    exact hout.filterMap _
  · -- No WIFI client leaves here, so each of them has one message.
    rcases List.mem_filter.mp hy with ⟨hmem, heq⟩
    refine notice_one m.toNif rfl (Or.inr (Bool.eq_false_iff.mpr (fun hw => ?_)))
    rw [wifi_stays h w (List.mem_of_find?_eq_some hx) hmem hw hwifi] at heq
    exact Bool.noConfusion heq

/-- The calls of a well-formed machine are exact. -/
theorem exactNotices_of_wellFormed (h : WellFormed m) : ExactNotices m where
  granted_pending := fun _ _ _ hst hr => granted_of_pending h.toSound hst hr
  denied_pending := fun _ _ _ hst hr => denied_of_pending h.toSound hst hr
  released_acquired := fun _ _ _ hst hr => released_of_acquired h.toSound hst hr
  closed_releasing := fun _ _ _ _ hst hev hr => closed_of_releasing h.toSound hst hev hr
  event_ignored := fun _ _ _ _ hign hr => nothing_of_ignored h.toSound hign hr
  subscribe_refused := by
    intro env s m' out hone hne hr
    cases transition_of_perform h.toSound hr with
    | refuse _ _ => exact ⟨noticesOf_told _ _ _, rfl⟩
    | request _ hl => exact absurd hl hne
    | join _ hl _ => exact absurd (hl hone) hne
    | enlist _ hl _ => exact absurd (hl hone) hne
  subscribe_acquired := by
    intro env s m' out hst hone hr
    have hwelcome : m.welcome s = told m.toNif .granted s := if_pos hst
    rcases welcomed_of_subscribe h.toSound hone hr with ⟨htold, hlist⟩
    exact ⟨by rw [htold, hwelcome, noticesOf_told], hlist⟩
  subscribe_waiting := by
    intro env s m' out hst hone hr
    have hwelcome : m.welcome s = [] := if_neg hst
    rcases welcomed_of_subscribe h.toSound hone hr with ⟨htold, hlist⟩
    exact ⟨by rw [htold, hwelcome]; rfl, hlist⟩
  unsubscribe_leave := fun _ _ _ _ _ hx hwait hr => leave_of_unsubscribe h hx hwait hr
  unsubscribe_mute := by
    intro env s x m' out hx hwait hr
    have hwifi := isWifi_of_waitForCloseComplete hwait
    rcases (transition_of_perform h.toSound hr).of_found_wifi hx hwifi with ⟨st, hset, rfl⟩
    exact ⟨noticesOf_settled hset,
      setInactive_eq_map h.toSound (List.mem_of_find?_eq_some hx)⟩
  unsubscribe_unknown := by
    intro env s m' out hnew hr
    rcases (transition_of_perform h.toSound hr).of_unmatched hnew with ⟨hm, hout⟩
    rw [hout]
    exact ⟨rfl, hm⟩

/-- In every step of every run, the messages and the removals are exactly those
    of `ExactNotices`, and every notice is one message, save for a WIFI client
    that is unsubscribed. -/
theorem exactNotices_run (type : AGpsType) (one : Bool) (bearer : Int)
    (calls : List (Env × Op)) :
    Run.Throughout callStep (fun m => ExactNotices m ∧
      ∀ status s, Subscriber.handled status = true → status ≠ .unsubscribe ∨ s.isWifi = false →
        ∃ msg, notice m.toNif status s = [(s, msg)])
      (.init type one bearer) calls :=
  Run.throughout_invariant WellFormed
    (fun m h => ⟨exactNotices_of_wellFormed h, fun _ _ hstatus => notice_one m.toNif hstatus⟩)
    (fun _ _ _ => wellFormed_step) calls (wellFormed_init type one bearer)

end Calls

end Agps

end Taoshan

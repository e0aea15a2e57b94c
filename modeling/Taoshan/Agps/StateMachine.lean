import Taoshan.Agps.Subscriber

/-!
# The AGPS State Machine

`AgpsStateMachine` of `loc_eng_agps.cpp`: one network interface, the clients
that want it, and the four states of the connection behind it.

The functions are those of the source. A call changes the machine and, on the
way, talks to clients and to the connectivity service; what it says is returned
as a list of effects in the order of the source. Two things a call reads are
not determined by the program and come in through `Env`: the outcomes of
comparisons that read past an object, and the uninitialised stack bytes of the
request that is handed to the service.

The list is searched from its head, where `linked_list_add` puts new entries.
The deleting branch of `notifySubscribers` restarts its search until nothing
is found; the bound given to `Sweep.sweep` is one more than the length, since every
turn but the last takes a client out. Clients removed that way are copied out
and not deallocated, so no effect says that they are. A client reads the
interface through its own `mStateMachine`, which is the machine that lists it.

## Main definitions

* `AgpsStateMachine`: The machine.
* `AgpsState.onRsrcEvent`: The transitions, state by state.
* `subscribeRsrc`, `unsubscribeRsrc`, `onRsrcEvent`: The interface.
* `dropAllSubscribers`: The flush done when the modem restarts.

## Theorems

* `find_eq`: A search without deleting is the first match.
* `addSubscriber_of_mem`, `addSubscriber_of_not_mem`: Adding a client.
* `sendRsrcRequest_of_guard`: When the service is called.
* `notifySubscribers_keep`: A broadcast that keeps its receivers.
* `notifySubscribers_delete`: A broadcast that removes its receivers.
* `notifySubscribers_directed`: A notification of one client.
-/

namespace Taoshan

namespace Agps

/-- Which of the four state objects `mStatePtr` points to. -/
inductive AgpsState
  | released
  | pending
  | acquired
  | releasing
  deriving DecidableEq, Repr

/-- What a call does besides changing the machine. `suppressed` marks a call of
    `sendRsrcRequest` that its guard kept from reaching the service. -/
inductive Effect
  | notify (rcver : Subscriber) (msg : ClientMsg)
  | servicer (nifRequest : AGpsStatus)
  | suppressed (action : AGpsStatusValue)
  | deleteObj (obj : Nat)
  deriving DecidableEq

/-- What a call reads that the program does not determine. Search number `k` of
    the call compares by `wild k`. -/
structure Env where
  wild : Nat → Wild
  nifRequest : AGpsStatus

/-- Nothing but zeros is read, and no ill-defined comparison succeeds. -/
def Env.zeros : Env where
  wild := fun _ _ _ => false
  nifRequest :=
    { type := 0, status := .requestAgpsDataConn, ipv4Addr := 0,
      ipv6Addr := Vector.replicate 16 0, ssid := Vector.replicate SSID_BUF_SIZE 0,
      password := Vector.replicate SSID_BUF_SIZE 0 }

/-- `mServicer` is the one service there is. `next` is the address the next
    `new` returns. -/
structure AgpsStateMachine extends Nif where
  mEnforceSingleSubscriber : Bool
  mStatePtr : AgpsState
  mSubscribers : List Subscriber
  next : Nat
  deriving DecidableEq

/-- An event as a state receives it, with the client in `data`. -/
inductive RsrcEvent
  | subscribe (subscriber : Subscriber)
  | unsubscribe (subscriber : Subscriber)
  | granted
  | released
  | denied
  deriving DecidableEq

/-- The callback for searches. -/
def hasSubscriber (wild : Wild) (notification : Notification) (s1 : Subscriber) :
    Bool × List Effect :=
  (s1.forMe wild notification, [])

/-- The callback for notifications; it asks for deletion only if the client
    has been notified. -/
def notifySubscriber (nif : Nif) (wild : Wild) (notification : Notification) (s1 : Subscriber) :
    Bool × List Effect :=
  let r := s1.notifyRsrcStatus nif wild notification
  (r.1 && notification.postNotifyDelete, r.2.map (Effect.notify s1))

/-- What a client is told on a status. -/
def told (nif : Nif) (status : AgpsRsrcStatus) (s : Subscriber) : List Effect :=
  (s.msgs nif status).map (Effect.notify s)

namespace AgpsStateMachine

/-- The constructor, which leaves `mBearer` as it finds it. -/
def init (type : AGpsType) (enforceSingleSubscriber : Bool) (mBearer : Int) : AgpsStateMachine where
  mType := type
  mAPN := none
  mBearer := mBearer
  mEnforceSingleSubscriber := enforceSingleSubscriber
  mStatePtr := .released
  mSubscribers := []
  next := 0

variable (m : AgpsStateMachine)

/-- `setAPN`: `len` bytes of the name are kept. -/
def setAPN (apn : Option (List UInt8)) (len : Nat) : AgpsStateMachine :=
  { m with mAPN := apn.map (List.take len) }

def setBearer (bearer : Int) : AgpsStateMachine :=
  { m with mBearer := bearer }

/-- A search of the list that deletes nothing. -/
def find (wild : Wild) (notification : Notification) : Option Subscriber :=
  (Sweep.search (hasSubscriber wild notification) false m.mSubscribers).hit

def hasSubscribers : Bool := !m.mSubscribers.isEmpty

/-- The first active client. A broadcast compares nothing, so the comparison
    given to the search does not matter. -/
def findActive : Option Subscriber :=
  m.find (fun _ _ => false) (.ofGroup .broadcastActive)

def hasActiveSubscribers : Bool := m.findActive.isSome

def notifySubscribers (wild : Nat → Wild) (notification : Notification) :
    AgpsStateMachine × List Effect :=
  if notification.postNotifyDelete then
    -- The source searches again from the head until nothing is found.
    let r := Sweep.sweep (fun k => notifySubscriber m.toNif (wild k) notification)
      (m.mSubscribers.length + 1) m.mSubscribers
    ({ m with mSubscribers := r.1 }, r.2)
  else
    let r := Sweep.search (notifySubscriber m.toNif (wild 0) notification) false m.mSubscribers
    ({ m with mSubscribers := r.rest }, r.out)

/-- The list after `linked_list_add` of a clone. -/
def enlist (subscriber : Subscriber) : AgpsStateMachine :=
  { m with mSubscribers := subscriber.clone m.next :: m.mSubscribers, next := m.next + 1 }

def addSubscriber (wild : Wild) (subscriber : Subscriber) : AgpsStateMachine :=
  match m.find wild (.ofSubscriber subscriber) with
  | none => m.enlist subscriber
  | some _ => m

/-- The request handed to the service, filled in over what was on the stack. -/
def nifRequest (stack : AGpsStatus) (action : AGpsStatusValue) : AGpsStatus :=
  let st := { stack with type := m.mType, status := action }
  match m.findActive with
  | none =>
      { st with ipv4Addr := INADDR_NONE, ipv6Addr := zeroFirst ipv6Addr_pos st.ipv6Addr,
                ssid := zeroFirst SSID_BUF_SIZE_pos st.ssid,
                password := zeroFirst SSID_BUF_SIZE_pos st.password }
  | some s => s.setWifiInfo (s.setIPAddresses st)

def sendRsrcRequest (stack : AGpsStatus) (action : AGpsStatusValue) : List Effect :=
  if m.findActive.isNone == (action == .releaseAgpsDataConn) then
    [.servicer (m.nifRequest stack action)]
  else [.suppressed action]

/-- `setInactive` through a pointer to a listed client. -/
def setInactive (subscriber : Subscriber) : AgpsStateMachine :=
  { m with mSubscribers := m.mSubscribers.map fun s =>
      if s.obj = subscriber.obj then s.setInactive else s }

/-- How three of the states begin to handle an unsubscription: wait for the
    close to complete, or notify and remove. -/
def withdraw (env : Env) (subscriber : Subscriber) : AgpsStateMachine × List Effect :=
  if subscriber.waitForCloseComplete then (m.setInactive subscriber, [])
  else m.notifySubscribers (fun k => env.wild (k + 1)) (.directed subscriber .unsubscribe true)

end AgpsStateMachine

/-- What a state's handler returns: the next state, the machine it has
    worked on, and the effects. -/
abbrev Handled := AgpsState × AgpsStateMachine × List Effect

/-- `AgpsReleasedState::onRsrcEvent`. -/
def AgpsReleasedState.onRsrcEvent (m : AgpsStateMachine) (env : Env) : RsrcEvent → Handled
  | .subscribe subscriber =>
      -- No notification until the grant, but the client is listed now.
      let m1 := m.addSubscriber (env.wild 0) subscriber
      (.pending, m1, m1.sendRsrcRequest env.nifRequest .requestAgpsDataConn)
  | .unsubscribe subscriber =>
      -- The list should be empty; the client is told all the same.
      let r := subscriber.notifyRsrcStatus m.toNif (env.wild 0)
        (.directed subscriber .unsubscribe false)
      (.released, m, r.2.map (Effect.notify subscriber))
  | _ => (.released, m, [])

/-- The rest of the unsubscription in the Pending and the Acquired state. -/
def closeIfUnused (st : AgpsState) (env : Env) (r : AgpsStateMachine × List Effect) : Handled :=
  if !r.1.hasSubscribers then
    -- Nobody is left.
    (.released, r.1, r.2 ++ r.1.sendRsrcRequest env.nifRequest .releaseAgpsDataConn)
  else if !r.1.hasActiveSubscribers then
    -- Only clients waiting for the close are left.
    (.releasing, r.1, r.2 ++ r.1.sendRsrcRequest env.nifRequest .releaseAgpsDataConn)
  else (st, r.1, r.2)

/-- `AgpsPendingState::onRsrcEvent`. -/
def AgpsPendingState.onRsrcEvent (m : AgpsStateMachine) (env : Env) : RsrcEvent → Handled
  | .subscribe subscriber => (.pending, m.addSubscriber (env.wild 0) subscriber, [])
  | .unsubscribe subscriber => closeIfUnused .pending env (m.withdraw env subscriber)
  | .granted =>
      let r := m.notifySubscribers env.wild (.broadcast .broadcastActive .granted false)
      (.acquired, r.1, r.2)
  -- A grant or a denial is expected; a release is left alone for fear of races.
  | .released => (.pending, m, [])
  | .denied =>
      let r := m.notifySubscribers env.wild (.broadcast .broadcastAll .denied true)
      (.released, r.1, r.2)

/-- `AgpsAcquiredState::onRsrcEvent`. -/
def AgpsAcquiredState.onRsrcEvent (m : AgpsStateMachine) (env : Env) : RsrcEvent → Handled
  | .subscribe subscriber =>
      -- The resource is in hand: granted right away, then listed.
      let r := subscriber.notifyRsrcStatus m.toNif (env.wild 0)
        (.directed subscriber .granted false)
      (.acquired, m.addSubscriber (env.wild 0) subscriber, r.2.map (Effect.notify subscriber))
  | .unsubscribe subscriber => closeIfUnused .acquired env (m.withdraw env subscriber)
  | .granted => (.acquired, m, [])
  | .released =>
      -- The service takes the connection away.
      let r := m.notifySubscribers env.wild (.broadcast .broadcastAll .released true)
      (.released, r.1, r.2)
  | .denied => (.acquired, m, [])

/-- The status an event without a client is passed on as. -/
def RsrcEvent.status : RsrcEvent → AgpsRsrcStatus
  | .subscribe _ => .subscribe
  | .unsubscribe _ => .unsubscribe
  | .granted => .granted
  | .released => .released
  | .denied => .denied

/-- The denial and the release in the Releasing state, which share one text. -/
def closed (m : AgpsStateMachine) (env : Env) (event : RsrcEvent) : Handled :=
  let r := m.notifySubscribers env.wild (.broadcast .broadcastInactive event.status true)
  if r.1.hasSubscribers then
    -- Somebody has subscribed since, and the connection is asked for again.
    (.pending, r.1, r.2 ++ r.1.sendRsrcRequest env.nifRequest .requestAgpsDataConn)
  else (.released, r.1, r.2)

/-- `AgpsReleasingState::onRsrcEvent`. -/
def AgpsReleasingState.onRsrcEvent (m : AgpsStateMachine) (env : Env) : RsrcEvent → Handled
  | .subscribe subscriber => (.releasing, m.addSubscriber (env.wild 0) subscriber, [])
  | .unsubscribe subscriber =>
      -- The release has been sent already, so no client is worth another.
      let r := m.withdraw env subscriber
      (if !r.1.hasSubscribers then .released else .releasing, r.1, r.2)
  | .denied => closed m env .denied
  | .released => closed m env .released
  | .granted => (.releasing, m, [])

/-- The virtual call. -/
def AgpsState.onRsrcEvent : AgpsState → AgpsStateMachine → Env → RsrcEvent → Handled
  | .released => AgpsReleasedState.onRsrcEvent
  | .pending => AgpsPendingState.onRsrcEvent
  | .acquired => AgpsAcquiredState.onRsrcEvent
  | .releasing => AgpsReleasingState.onRsrcEvent

namespace AgpsStateMachine

variable (m : AgpsStateMachine)

/-- `mStatePtr = mStatePtr->onRsrcEvent(event, data)`. -/
def handle (env : Env) (event : RsrcEvent) : AgpsStateMachine × List Effect :=
  let r := m.mStatePtr.onRsrcEvent m env event
  ({ r.2.1 with mStatePtr := r.1 }, r.2.2)

def subscribeRsrc (env : Env) (subscriber : Subscriber) : AgpsStateMachine × List Effect :=
  if m.mEnforceSingleSubscriber && m.hasSubscribers then
    -- The callback is called on the new client itself, which is not listed.
    (m, (notifySubscriber m.toNif (env.wild 0) (.broadcast .broadcastAll .denied true)
      subscriber).2)
  else m.handle env (.subscribe subscriber)

/-- The result says whether the client was listed. -/
def unsubscribeRsrc (env : Env) (subscriber : Subscriber) :
    Bool × AgpsStateMachine × List Effect :=
  match m.find (env.wild 0) (.ofSubscriber subscriber) with
  -- The listed object is passed on, not the argument.
  | some s => (true, m.handle env (.unsubscribe s))
  | none => (false, m, [])

def onRsrcEvent (env : Env) (event : AgpsRsrcStatus) : AgpsStateMachine × List Effect :=
  match event with
  | .granted => m.handle env .granted
  | .released => m.handle env .released
  | .denied => m.handle env .denied
  | _ => (m, [])

/-- `linked_list_flush` from the head; the state is not touched. -/
def dropAllSubscribers : AgpsStateMachine × List Effect :=
  ({ m with mSubscribers := [] }, m.mSubscribers.map fun s => .deleteObj s.obj)

section Search

/-- A search that deletes nothing finds the first client that is meant. -/
theorem find_eq (wild : Wild) (n : Notification) :
    m.find wild n = m.mSubscribers.find? (fun s => s.forMe wild n) := by
  unfold find
  rw [Sweep.search_found]
  rfl

theorem find_ofSubscriber (wild : Wild) (s : Subscriber) :
    m.find wild (.ofSubscriber s) = m.mSubscribers.find? (fun x => x.equals wild s) := by
  rw [find_eq]
  rfl

theorem findActive_eq : m.findActive = m.mSubscribers.find? (fun s => !s.isInactive) := by
  have hforMe : ∀ x : Subscriber,
      x.forMe (fun _ _ => false) (.ofGroup .broadcastActive) = !x.isInactive := by
    intro x
    cases hx : x.isInactive with
    | true => simp only [Subscriber.forMe, Notification.ofGroup, hx]; decide
    | false => simp only [Subscriber.forMe, Notification.ofGroup, hx]; decide
  unfold findActive
  simp only [find_eq, hforMe]

theorem hasSubscribers_eq_false_iff : m.hasSubscribers = false ↔ m.mSubscribers = [] := by
  unfold hasSubscribers
  rw [Bool.not_eq_eq_eq_not, Bool.not_false, List.isEmpty_iff]

theorem hasActiveSubscribers_iff :
    m.hasActiveSubscribers = true ↔ ∃ s ∈ m.mSubscribers, s.isInactive = false := by
  unfold hasActiveSubscribers
  rw [findActive_eq, List.find?_isSome]
  simp only [Bool.not_eq_eq_eq_not, Bool.not_true]

/-- The service is called exactly if the guard agrees with the request. -/
theorem sendRsrcRequest_of_guard {stack : AGpsStatus} {action : AGpsStatusValue}
    (h : m.hasActiveSubscribers = (action == .requestAgpsDataConn)) :
    m.sendRsrcRequest stack action = [.servicer (m.nifRequest stack action)] := by
  unfold sendRsrcRequest
  refine if_pos ?_
  unfold hasActiveSubscribers at h
  -- A request needs an active client, a release needs that there is none.
  cases action with
  | requestAgpsDataConn =>
      cases hf : m.findActive with
      | none =>
          rw [hf] at h
          exact absurd h (by decide)
      | some s => rfl
  | releaseAgpsDataConn =>
      cases hf : m.findActive with
      | none => rfl
      | some s =>
          rw [hf] at h
          exact absurd (show true = false from h) (by decide)

/-- The request carries the action, whatever was on the stack. -/
theorem nifRequest_status (stack : AGpsStatus) (action : AGpsStatusValue) :
    (m.nifRequest stack action).status = action := by
  unfold nifRequest
  cases m.findActive with
  | none => rfl
  | some s =>
      cases s with
      | bit obj id ip => rfl
      | atl obj id mode => rfl
      | wifi obj ssid password senderId inactive => rfl

/-- A client that matches a listed one is not added. -/
theorem addSubscriber_of_mem {wild : Wild} {s : Subscriber}
    (h : ∃ x ∈ m.mSubscribers, x.equals wild s = true) : m.addSubscriber wild s = m := by
  unfold addSubscriber
  rw [find_ofSubscriber]
  cases hf : m.mSubscribers.find? (fun x => x.equals wild s) with
  | some x => rfl
  | none =>
      rcases h with ⟨x, hx, he⟩
      exact absurd he (List.find?_eq_none.mp hf x hx)

/-- A client that matches no listed one is added at the head. -/
theorem addSubscriber_of_not_mem {wild : Wild} {s : Subscriber}
    (h : ∀ x ∈ m.mSubscribers, x.equals wild s = false) :
    m.addSubscriber wild s = m.enlist s := by
  unfold addSubscriber
  rw [find_ofSubscriber, List.find?_eq_none.mpr (fun x hx => Bool.eq_false_iff.mp (h x hx))]

end Search

section Notify

variable {m} (wild : Nat → Wild) {n : Notification}

/-- What the callback does to a client that is meant. -/
theorem notifySubscriber_of_forMe {nif : Nif} {w : Wild} {x : Subscriber}
    (hstatus : Subscriber.handled n.rsrcStatus = true) (h : x.forMe w n = true) :
    notifySubscriber nif w n x = (n.postNotifyDelete, told nif n.rsrcStatus x) := by
  unfold notifySubscriber told
  rw [Subscriber.notifyRsrcStatus_of_forMe hstatus h]
  rfl

theorem notifySubscriber_of_not_forMe {nif : Nif} {w : Wild} {x : Subscriber}
    (h : x.forMe w n = false) : notifySubscriber nif w n x = (false, []) := by
  unfold notifySubscriber
  rw [Subscriber.notifyRsrcStatus_of_not_forMe h]
  rfl

/-- A broadcast that deletes nothing tells those who are meant, once each. -/
theorem notifySubscribers_keep (hstatus : Subscriber.handled n.rsrcStatus = true)
    (hdel : n.postNotifyDelete = false) :
    m.notifySubscribers wild n = (m, (m.mSubscribers.filter (fun x => x.forMe (wild 0) n)).flatMap
      (told m.toNif n.rsrcStatus)) := by
  have hnone : ∀ x ∈ m.mSubscribers, (notifySubscriber m.toNif (wild 0) n x).1 = false := by
    intro x _
    unfold notifySubscriber
    simp only [hdel, Bool.and_false]
  -- Those who are not meant add nothing to what is said.
  have hout : ∀ l : List Subscriber,
      l.flatMap (fun x => (notifySubscriber m.toNif (wild 0) n x).2) =
        (l.filter (fun x => x.forMe (wild 0) n)).flatMap (told m.toNif n.rsrcStatus) := by
    intro l
    induction l with
    | nil => rfl
    | cons x xs ih =>
        rw [List.flatMap_cons, List.filter_cons, ih]
        by_cases hx : x.forMe (wild 0) n = true
        · rw [notifySubscriber_of_forMe hstatus hx, if_pos hx, List.flatMap_cons]
        · rw [notifySubscriber_of_not_forMe (Bool.eq_false_iff.mpr hx), if_neg hx,
            List.nil_append]
  unfold notifySubscribers
  rw [if_neg (by rw [hdel]; exact Bool.false_ne_true), Sweep.search_of_none _ _ hnone, hout]

/-- A broadcast that deletes tells and removes those who are meant. -/
theorem notifySubscribers_delete {p : Subscriber → Bool}
    (hstatus : Subscriber.handled n.rsrcStatus = true) (hdel : n.postNotifyDelete = true)
    (hp : ∀ w x, Subscriber.forMe w x n = p x) :
    m.notifySubscribers wild n =
      ({ m with mSubscribers := m.mSubscribers.filter (fun x => !p x) },
        (m.mSubscribers.filter p).flatMap (told m.toNif n.rsrcStatus)) := by
  unfold notifySubscribers
  rw [if_pos hdel, Sweep.sweep_eq_filter (p := p) (told m.toNif n.rsrcStatus)]
  · intro k x _
    cases hx : p x with
    | true => rw [notifySubscriber_of_forMe hstatus ((hp (wild k) x).trans hx), hdel]
    | false => rw [notifySubscriber_of_not_forMe ((hp (wild k) x).trans hx)]
  · intro k x _ hx
    rw [notifySubscriber_of_forMe hstatus ((hp (wild k) x).trans hx)]
  · intro k x _ hx
    rw [notifySubscriber_of_not_forMe ((hp (wild k) x).trans hx)]
  · exact Nat.lt_succ_self _

/-- A notification directed at one client, after which its receivers are
    removed, tells and removes those equal to it. A comparison that is not well
    defined may come out differently in each round, but over a list of distinct
    objects the rounds amount to one comparison, `w`, which for every client
    agrees with one of theirs. -/
theorem notifySubscribers_directed {s : Subscriber} {status : AgpsRsrcStatus}
    (hstatus : Subscriber.handled status = true) (hnodup : m.mSubscribers.Nodup) :
    ∃ (w : Wild) (out : List Effect),
      m.notifySubscribers wild (.directed s status true) =
        ({ m with mSubscribers := m.mSubscribers.filter (fun x => !x.equals w s) }, out) ∧
      out.Perm ((m.mSubscribers.filter (fun x => x.equals w s)).flatMap (told m.toNif status)) ∧
      ∀ x ∈ m.mSubscribers, ∃ k, x.equals w s = x.equals (wild k) s := by
  have hlook : ∀ k x, (notifySubscriber m.toNif (wild k) (.directed s status true) x).1 =
      x.equals (wild k) s := by
    intro k x
    cases hx : x.equals (wild k) s with
    | true => rw [notifySubscriber_of_forMe (n := .directed s status true) hstatus hx]; rfl
    | false => rw [notifySubscriber_of_not_forMe (n := .directed s status true) hx]
  -- One verdict for each listed object, taken from one of the rounds.
  rcases Sweep.sweep_resolved (told m.toNif status) (m.mSubscribers.length + 1)
    (fun k => notifySubscriber m.toNif (wild k) (.directed s status true)) m.mSubscribers
    (fun k x hx => by
      rw [hlook] at hx
      rw [notifySubscriber_of_forMe (n := .directed s status true) hstatus hx]
      rfl)
    (fun k x hx => by
      rw [hlook] at hx
      rw [notifySubscriber_of_not_forMe (n := .directed s status true) hx])
    (Nat.lt_succ_self _) hnodup with ⟨p, hrest, hout, hp⟩
  -- The verdicts are those of one comparison, wild where theirs was.
  have heq : ∀ x ∈ m.mSubscribers, x.equals (fun y _ => p y) s = p x := by
    intro x hx
    rcases hp x hx with ⟨k, hk⟩
    rw [hlook] at hk
    rcases Subscriber.equals_wild_cases x s with hdef | hwild
    · rw [hdef _ (wild k), hk]
    · rw [hwild]
  have hfilter : m.mSubscribers.filter (fun x => !x.equals (fun y _ => p y) s) =
      m.mSubscribers.filter (fun x => !p x) :=
    List.filter_congr (fun x hx => by rw [heq x hx])
  refine ⟨fun y _ => p y, (Sweep.sweep
    (fun k => notifySubscriber m.toNif (wild k) (.directed s status true))
    (m.mSubscribers.length + 1) m.mSubscribers).2, ?_, ?_, ?_⟩
  · rw [hfilter, ← hrest]
    rfl
  · rw [List.filter_congr heq]
    exact hout
  · intro x hx
    rcases hp x hx with ⟨k, hk⟩
    rw [hlook] at hk
    exact ⟨k, (heq x hx).trans hk.symm⟩

end Notify

end AgpsStateMachine

end Agps

end Taoshan

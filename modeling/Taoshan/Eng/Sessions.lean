import Taoshan.Lib.Monitor
import Taoshan.Agps.Disclosure
import Taoshan.Agps.Notices
import Taoshan.Eng.Isolation

/-!
# A Client's Session with a Machine

What one client says and hears, out of everything that goes on at a machine.
Requests of many clients are served by one connection, answers are broadcast,
and clients leave in the middle of it; seen from one client it should still be
a conversation that makes sense.

A session is judged by a monitor that knows nothing of the machine. On a
machine for many clients (`phoneTalk`) a client that asks is granted or denied
once, is granted again only if it has asked again, hears of a close only if it
was granted or has left, and a client that leaves is told at once that the
connection is closed, before anything else happens. On the machine for a single
client (`wifiTalk`) whoever asks out of turn is denied at once, which costs the
client that is served nothing, and a client that leaves hears of the close when
it is complete.

After every call the monitor is where the machine shows the client to be
(`shown`), and no answer is due (`phone_transition`, `wifi_transition`).

## Main definitions

* `Stage`, `SessionEvent`, `Talk`: A session and what happens in it.
* `phoneTalk`, `wifiTalk`: What is in order in a session.
* `shown`: How far the machine has come with a client.
* `saidIn`, `heard`: One client's part of a call.
* `Phone`, `Hotspot`: The machines as they are used.

## Theorems

* `heard_all`: Everybody is told the same, a client of a kind once.
* `phone_transition`, `wifi_transition`: One call is a piece of the session.
* `phone_sessions`: A run of a machine for many clients is a session.
-/

namespace Taoshan

namespace Eng

open Agps

/-- How far a client's session has come. -/
inductive Stage
  | absent
  | waiting
  | opened
  | closing
  deriving DecidableEq, Repr

/-- What a client says, and what it hears. -/
inductive SessionEvent
  | ask
  | leave
  | granted
  | denied
  | closed
  /-- The list the client may be in is flushed; nobody is told. -/
  | dropped
  deriving DecidableEq, Repr

/-- A session, with the answer that is due before anything else happens. -/
structure Talk where
  stage : Stage
  due : Option SessionEvent
  deriving DecidableEq, Repr

/-- No answer is due. -/
def Stage.quiet (stage : Stage) : Talk := ⟨stage, none⟩

/-- A session with a machine for many clients. -/
def phoneTalk : Monitor Talk SessionEvent where
  next t e := match e with
    | .ask => match t.stage with
      | .absent => ⟨.waiting, none⟩
      -- The connection is there, so the answer is, too.
      | .opened => ⟨.opened, some .granted⟩
      | stage => ⟨stage, none⟩
    | .leave => if t.stage = .absent then t else ⟨.closing, some .closed⟩
    | .granted => ⟨.opened, none⟩
    | .denied => ⟨.absent, none⟩
    | .closed => ⟨.absent, none⟩
    | .dropped => ⟨.absent, none⟩
  ok t e := match t.due with
    | some answer => e = answer
    | none => match e with
      | .ask => True
      | .leave => True
      | .granted => t.stage = .waiting
      | .denied => t.stage = .waiting
      | .closed => t.stage = .opened
      | .dropped => True

/-- A session with the machine for a single client. -/
def wifiTalk : Monitor Talk SessionEvent where
  next t e := match e with
    -- Who is listed is turned away like anybody else and stays listed.
    | .ask => if t.stage = .absent then ⟨.waiting, none⟩ else ⟨t.stage, some .denied⟩
    | .leave => if t.stage = .absent then t else ⟨.closing, none⟩
    | .granted => ⟨.opened, none⟩
    | .denied => if t.due.isSome then ⟨t.stage, none⟩ else ⟨.absent, none⟩
    | .closed => ⟨.absent, none⟩
    | .dropped => ⟨.absent, none⟩
  ok t e := match t.due with
    | some answer => e = answer
    | none => match e with
      | .ask => True
      | .leave => True
      | .granted => t.stage = .waiting
      | .denied => t.stage = .waiting ∨ t.stage = .closing
      | .closed => t.stage = .opened ∨ t.stage = .closing
      | .dropped => False

/-- What a client makes of a message. -/
def eventOf : ClientMsg → SessionEvent
  | .dataConn _ .requestSuccess => .granted
  | .dataConn _ .releaseSuccess => .closed
  | .dataConn _ .failure => .denied
  | .atlOpenStatus _ isSucc _ _ _ => if isSucc then .granted else .denied
  | .atlCloseStatus _ _ => .closed

/-- And of the status behind it. -/
def statusEvent : AgpsRsrcStatus → SessionEvent
  | .granted => .granted
  | .denied => .denied
  | _ => .closed

/-- A client with this `ID` is listed. -/
def isListed (l : List Subscriber) (i : BitVec 32) : Bool := l.any fun x => x.ID == i

/-- How far the machine has come with the client that has this `ID`. -/
def shown (m : AgpsStateMachine) (i : BitVec 32) : Stage :=
  if isListed m.mSubscribers i then
    match m.mStatePtr with
    -- Nobody is listed in this state.
    | .released => .absent
    | .pending => .waiting
    | .acquired => .opened
    | .releasing => .closing
  else .absent

/-- What the client with this `ID` says by a call. -/
def saidIn (i : BitVec 32) : Op → List SessionEvent
  | .subscribeRsrc s => if s.ID = i then [.ask] else []
  | .unsubscribeRsrc s => if s.ID = i then [.leave] else []
  | .onRsrcEvent _ => []

/-- What it hears. -/
def heard (i : BitVec 32) (out : List Effect) : List SessionEvent :=
  (noticesOf out).filterMap fun n => if n.1.ID = i then some (eventOf n.2) else none

/-- One client's part of a call. -/
def sessionOf (i : BitVec 32) (m : AgpsStateMachine) (call : MachineCall) : List SessionEvent :=
  (match call with
    | .interface _ op => saidIn i op
    | .dropAllSubscribers => [.dropped]
    | .setAPN _ _ => []
    | .setBearer _ => []) ++ heard i (outcome m call).2

/-- A machine for many clients, none of whom is a WIFI client. -/
structure Phone (m : AgpsStateMachine) : Prop extends Shared m where
  active : m.mStatePtr ≠ .releasing
  distinct : m.mSubscribers.Pairwise fun x y => x.ID = y.ID → x.ID = INADDR_NONE

/-- The machine for a single WIFI client. -/
structure Hotspot (m : AgpsStateMachine) : Prop extends WellFormed m where
  one : m.mEnforceSingleSubscriber = true
  kinds : ∀ x ∈ m.mSubscribers, x.isWifi = true

/-- The calls that are made on a machine for many clients. -/
def PhoneCall : MachineCall → Prop
  | .interface _ (.subscribeRsrc s) => s.isWifi = false
  | _ => True

instance : (call : MachineCall) → Decidable (PhoneCall call)
  | .interface _ (.subscribeRsrc _) => inferInstanceAs (Decidable (_ = false))
  | .interface _ (.unsubscribeRsrc _) => isTrue trivial
  | .interface _ (.onRsrcEvent _) => isTrue trivial
  | .dropAllSubscribers => isTrue trivial
  | .setAPN _ _ => isTrue trivial
  | .setBearer _ => isTrue trivial

/-- The calls that are made on the machine for WIFI clients: its list is not
    flushed. -/
def WifiCall : MachineCall → Prop
  | .interface _ (.subscribeRsrc s) => s.isWifi = true
  | .dropAllSubscribers => False
  | _ => True

section Hearing

variable {i : BitVec 32} {l : List Subscriber} {m : AgpsStateMachine} {status : AgpsRsrcStatus}

theorem heard_append (xs ys : List Effect) : heard i (xs ++ ys) = heard i xs ++ heard i ys := by
  unfold heard
  rw [noticesOf_append, List.filterMap_append]

theorem heard_of_noticesOf {out : List Effect} (h : noticesOf out = []) : heard i out = [] := by
  unfold heard
  rw [h]
  rfl

/-- A status is one event for the client it is told, and for no other. -/
theorem heard_told (nif : Nif) {s : Subscriber} (hstatus : Subscriber.handled status = true)
    (h : status ≠ .unsubscribe ∨ s.isWifi = false) :
    heard i (told nif status s) = if s.ID = i then [statusEvent status] else [] := by
  rcases notice_one nif hstatus h with ⟨msg, hmsg⟩
  have hevent : eventOf msg = statusEvent status := by
    cases s with
    | bit obj id ip => cases status <;> cases hmsg <;> rfl
    | atl obj id mode => cases status <;> cases hmsg <;> rfl
    | wifi obj ssid password senderId inactive => cases status <;> cases hmsg <;> rfl
  unfold heard
  rw [noticesOf_told, hmsg]
  by_cases hid : s.ID = i
  · simp only [List.filterMap_cons, List.filterMap_nil, hid, if_true, hevent]
  · simp only [List.filterMap_cons, List.filterMap_nil, hid, if_false]

/-- Who tells everybody tells the clients with one `ID` once each. -/
theorem heard_flatMap (nif : Nif) (hstatus : Subscriber.handled status = true)
    (h : ∀ x ∈ l, status ≠ .unsubscribe ∨ x.isWifi = false) :
    heard i (l.flatMap (told nif status)) =
      List.replicate (l.countP fun x => x.ID == i) (statusEvent status) := by
  induction l with
  | nil => rfl
  | cons x l ih =>
      have hx := heard_told (i := i) nif hstatus (h x List.mem_cons_self)
      rw [List.flatMap_cons, heard_append, hx, ih (fun y hy => h y (List.mem_cons_of_mem _ hy)),
        List.countP_cons]
      by_cases hid : x.ID = i
      · rw [if_pos hid, if_pos (beq_iff_eq.mpr hid), List.replicate_succ]
        rfl
      · rw [if_neg hid, if_neg (fun hc => hid (beq_iff_eq.mp hc))]
        rfl

theorem isListed_iff : isListed l i = true ↔ ∃ x ∈ l, x.ID = i := by
  simp only [isListed, List.any_eq_true, beq_iff_eq]

/-- If there is one client with the `ID` at most, it is told once. -/
theorem heard_all (nif : Nif) (hstatus : Subscriber.handled status = true)
    (h : ∀ x ∈ l, status ≠ .unsubscribe ∨ x.isWifi = false)
    (hone : (l.countP fun x => x.ID == i) ≤ 1) :
    heard i (l.flatMap (told nif status)) =
      if isListed l i then [statusEvent status] else [] := by
  rw [heard_flatMap nif hstatus h]
  by_cases hl : isListed l i = true
  · rcases isListed_iff.mp hl with ⟨x, hx, hid⟩
    have hpos : 0 < l.countP fun x => x.ID == i :=
      List.countP_pos_iff.mpr ⟨x, hx, beq_iff_eq.mpr hid⟩
    rw [if_pos hl, show (l.countP fun x => x.ID == i) = 1 by omega]
    rfl
  · have hzero : (l.countP fun x => x.ID == i) = 0 :=
      List.countP_eq_zero.mpr (fun x hx he => hl (isListed_iff.mpr ⟨x, hx, beq_iff_eq.mp he⟩))
    rw [if_neg hl, hzero]
    rfl

theorem countP_le_one (hi : i ≠ INADDR_NONE)
    (h : l.Pairwise fun x y => x.ID = y.ID → x.ID = INADDR_NONE) :
    (l.countP fun x => x.ID == i) ≤ 1 := by
  induction l with
  | nil => exact Nat.zero_le 1
  | cons x l ih =>
      rcases List.pairwise_cons.mp h with ⟨hx, hrest⟩
      rw [List.countP_cons]
      by_cases hid : x.ID = i
      · -- Another one would have no address.
        have hzero : (l.countP fun x => x.ID == i) = 0 := by
          refine List.countP_eq_zero.mpr (fun y hy he => hi ?_)
          rw [← hid]
          exact hx y hy (hid.trans (beq_iff_eq.mp he).symm)
        rw [hzero, if_pos (beq_iff_eq.mpr hid)]
      · rw [if_neg (fun hc => hid (beq_iff_eq.mp hc))]
        exact ih hrest

theorem shown_of_not_listed (h : isListed m.mSubscribers i = false) : shown m i = .absent := by
  unfold shown
  rw [h]
  exact if_neg Bool.false_ne_true

theorem shown_of_nil (h : m.mSubscribers = []) : shown m i = .absent :=
  shown_of_not_listed (by rw [h]; rfl)

/-- The list after a client has joined. -/
theorem isListed_enlist (m : AgpsStateMachine) (s : Subscriber) :
    isListed (m.enlist s).mSubscribers i = (s.ID == i || isListed m.mSubscribers i) := by
  simp only [isListed, AgpsStateMachine.enlist, List.any_cons, Subscriber.clone_ID]

/-- What a new client is told at once. -/
theorem heard_welcome (m : AgpsStateMachine) (s : Subscriber) :
    heard i (m.welcome s) = if m.mStatePtr = .acquired ∧ s.ID = i then [.granted] else [] := by
  unfold AgpsStateMachine.welcome
  by_cases hst : m.mStatePtr = .acquired
  · rw [if_pos hst, heard_told m.toNif rfl (Or.inl (by decide))]
    simp only [hst, true_and, statusEvent]
  · rw [if_neg hst, if_neg (fun hc => hst hc.1)]
    rfl

/-- Whoever is listed is told, and is where that leads to. -/
theorem leads_answer {M : Monitor Talk SessionEvent} (hstatus : Subscriber.handled status = true)
    (h : ∀ x ∈ m.mSubscribers, status ≠ .unsubscribe ∨ x.isWifi = false)
    (hone : (m.mSubscribers.countP fun x => x.ID == i) ≤ 1) {stage : Stage}
    (hstage : isListed m.mSubscribers i = true → M.ok (shown m i).quiet (statusEvent status) ∧
      M.next (shown m i).quiet (statusEvent status) = stage.quiet)
    (hnot : isListed m.mSubscribers i = false → stage = .absent) :
    M.Leads (shown m i).quiet (heard i (m.mSubscribers.flatMap (told m.toNif status)))
      stage.quiet := by
  rw [heard_all m.toNif hstatus h hone]
  by_cases hl : isListed m.mSubscribers i = true
  · rcases hstage hl with ⟨hok, hnext⟩
    rw [if_pos hl]
    refine Monitor.leads_cons hok ?_
    rw [hnext]
    exact Monitor.leads_nil _
  · have hl' := Bool.eq_false_iff.mpr hl
    rw [if_neg hl, hnot hl', shown_of_not_listed hl']
    exact Monitor.leads_nil _

theorem shown_ne_absent (hst : m.mStatePtr ≠ .released) (hl : isListed m.mSubscribers i = true) :
    shown m i ≠ .absent := by
  unfold shown
  rw [hl, if_pos rfl]
  cases hm : m.mStatePtr with
  | released => exact absurd hm hst
  | pending => decide
  | acquired => decide
  | releasing => decide

/-- The first client of a machine. -/
theorem shown_request (hl : m.mSubscribers = []) (s : Subscriber) :
    shown { m.enlist s with mStatePtr := .pending } i =
      if s.ID = i then .waiting else .absent := by
  have hlist : isListed (m.enlist s).mSubscribers i = (s.ID == i) := by
    rw [isListed_enlist, hl]
    exact Bool.or_false _
  unfold shown
  rw [hlist]
  by_cases hid : s.ID = i
  · rw [if_pos hid, if_pos (beq_iff_eq.mpr hid)]
  · rw [if_neg hid, if_neg (fun hc => hid (beq_iff_eq.mp hc))]

end Hearing

section Many

variable {m m' : AgpsStateMachine} {env : Env} {op : Op} {out : List Effect} {i : BitVec 32}

/-- A client with an address that matches nobody is not listed. -/
theorem not_listed_of_ne {w : Wild} {s : Subscriber} (hi : i ≠ INADDR_NONE) (hid : s.ID = i)
    (hnew : ∀ x ∈ m.mSubscribers, x.equals w s = false) :
    isListed m.mSubscribers i = false := by
  refine Bool.eq_false_iff.mpr (fun hl => ?_)
  rcases isListed_iff.mp hl with ⟨x, hx, hxi⟩
  have hne := hnew x hx
  rw [Subscriber.equals_of_ne_inaddrNone (by rw [hxi]; exact hi), hxi, hid, BEq.rfl] at hne
  exact Bool.noConfusion hne

/-- Nobody but a client with the `ID` of the one that leaves goes with it. -/
theorem isListed_leave {w : Wild} {x : Subscriber} (l : List Subscriber) (hid : x.ID ≠ i) :
    isListed (l.filter fun y => !y.equals w x) i = isListed l i := by
  refine Bool.eq_iff_iff.mpr ?_
  rw [isListed_iff, isListed_iff]
  constructor
  · rintro ⟨y, hy, hyi⟩
    exact ⟨y, (List.mem_filter.mp hy).1, hyi⟩
  · rintro ⟨y, hy, hyi⟩
    refine ⟨y, List.mem_filter.mpr ⟨hy, ?_⟩, hyi⟩
    rw [Bool.not_eq_true', Bool.eq_false_iff]
    intro he
    exact hid ((Subscriber.equals_ID he).symm.trans hyi)

/-- It takes all those with it that have its `ID`, if that is an address. -/
theorem equals_iff_ID {w : Wild} {x y : Subscriber} (hi : i ≠ INADDR_NONE) (hid : x.ID = i) :
    y.equals w x = true ↔ y.ID = i := by
  constructor
  · intro he
    exact (Subscriber.equals_ID he).trans hid
  · intro hy
    rw [Subscriber.equals_of_ne_inaddrNone (by rw [hy]; exact hi), hy, hid, BEq.rfl]

theorem phone_of_transition (h : Phone m) (ht : Transition m env op m' out)
    (hop : ∀ s, op = .subscribeRsrc s → s.isWifi = false) : Phone m' := by
  have hshared := shared_of_transition h.toShared ht hop
  -- Who joins has an `ID` of its own, or none.
  have hjoin : ∀ {s : Subscriber}, (∀ x ∈ m.mSubscribers, x.equals (env.wild 0) s = false) →
      (m.enlist s).mSubscribers.Pairwise fun x y => x.ID = y.ID → x.ID = INADDR_NONE := by
    intro s hnew
    refine List.pairwise_cons.mpr ⟨fun x hx hid => ?_, h.distinct⟩
    rw [Subscriber.clone_ID] at hid ⊢
    by_contra hne
    have hl := not_listed_of_ne hne rfl hnew
    rw [Bool.eq_false_iff] at hl
    exact hl (isListed_iff.mpr ⟨x, hx, hid.symm⟩)
  have hsettled : ∀ {l : List Subscriber} {st : AgpsState} {req : List Effect},
      l.Sublist m.mSubscribers → Settled env (m.become m.mStatePtr l) st req →
        st ≠ .releasing := by
    intro l st req hl hset
    cases hset with
    | empty _ _ => decide
    | emptyReleasing _ _ => decide
    | inactive _ hne hall =>
        -- No client of a phone's machine waits for a close.
        rcases List.exists_mem_of_ne_nil _ hne with ⟨x, hx⟩
        have hwifi := h.kinds x (hl.subset hx)
        rw [Subscriber.isWifi_of_isInactive (hall x hx)] at hwifi
        exact Bool.noConfusion hwifi
    | stay _ _ => exact h.active
  cases ht with
  | refuse _ _ => exact h
  | request _ hl => exact ⟨hshared, nofun, hjoin (fun x hx => by rw [hl] at hx; cases hx)⟩
  | join _ _ _ => exact h
  | enlist _ _ hnew => exact ⟨hshared, h.active, hjoin hnew⟩
  | unknown _ => exact h
  | mute _ hx hwifi _ =>
      rw [h.kinds _ (List.mem_of_find?_eq_some hx)] at hwifi
      exact Bool.noConfusion hwifi
  | leave _ _ _ _ _ hset =>
      exact ⟨hshared, hsettled List.filter_sublist hset,
        h.distinct.sublist List.filter_sublist⟩
  | grant _ => exact ⟨hshared, nofun, h.distinct⟩
  | deny _ => exact ⟨hshared, nofun, List.Pairwise.nil⟩
  | force _ => exact ⟨hshared, nofun, List.Pairwise.nil⟩
  | close hst _ _ => exact absurd hst h.active
  | reopen hst _ _ _ => exact absurd hst h.active
  | ignore _ => exact h

theorem Phone.wifi_ne (h : Phone m) {x : Subscriber} (hx : x ∈ m.mSubscribers)
    (status : AgpsRsrcStatus) : status ≠ .unsubscribe ∨ x.isWifi = false := Or.inr (h.kinds x hx)

/-- Nobody waits for a close. -/
theorem Phone.isInactive (h : Phone m) {x : Subscriber} (hx : x ∈ m.mSubscribers) :
    x.isInactive = false := by
  refine Bool.eq_false_iff.mpr (fun hin => ?_)
  have hwifi := h.kinds x hx
  rw [Subscriber.isWifi_of_isInactive hin] at hwifi
  exact Bool.noConfusion hwifi

/-- How a client is greeted that is listed now, the connection being requested
    or held. -/
theorem phone_welcome (h : Phone m) (hst : m.mStatePtr ≠ .released) {stage : Stage}
    {s : Subscriber} (hid : s.ID = i) (hl : isListed m'.mSubscribers i = true)
    (hsame : m'.mStatePtr = m.mStatePtr) (hstage : stage = .absent ∨ stage = shown m' i) :
    phoneTalk.Leads stage.quiet ([.ask] ++ heard i (m.welcome s)) (shown m' i).quiet := by
  rw [heard_welcome]
  simp only [shown, hl, if_true, hid, and_true, hsame] at hstage ⊢
  cases hm : m.mStatePtr with
  | released => exact absurd hm hst
  | releasing => exact absurd hm h.active
  | pending =>
      rw [hm] at hstage
      rcases hstage with rfl | rfl
      · exact Monitor.leads_cons trivial (Monitor.leads_nil _)
      · exact Monitor.leads_cons trivial (Monitor.leads_nil _)
  | acquired =>
      rw [hm] at hstage
      rcases hstage with rfl | rfl
      · exact Monitor.leads_cons trivial (Monitor.leads_cons rfl (Monitor.leads_nil _))
      · exact Monitor.leads_cons trivial (Monitor.leads_cons rfl (Monitor.leads_nil _))

/-- A client that leaves hears that the connection is closed. -/
theorem heard_leave (h : Phone m) (hi : i ≠ INADDR_NONE) {w : Wild} {x : Subscriber}
    (hx : x ∈ m.mSubscribers) (hid : x.ID = i)
    (hout : out.Perm ((m.mSubscribers.filter (fun y => y.equals w x)).flatMap
      (told m.toNif .unsubscribe))) : heard i out = [.closed] := by
  have hgone : isListed (m.mSubscribers.filter (fun y => y.equals w x)) i = true :=
    isListed_iff.mpr ⟨x, List.mem_filter.mpr ⟨hx, Subscriber.equals_refl w x⟩, hid⟩
  have hcount : ((m.mSubscribers.filter (fun y => y.equals w x)).countP fun y => y.ID == i) ≤ 1 :=
    (List.filter_sublist.countP_le).trans (countP_le_one hi h.distinct)
  have hheard : (heard i out).Perm (heard i ((m.mSubscribers.filter
      (fun y => y.equals w x)).flatMap (told m.toNif .unsubscribe))) :=
    (hout.filterMap _).filterMap _
  rw [heard_all m.toNif rfl (fun y hy => h.wifi_ne (List.mem_filter.mp hy).1 _) hcount, hgone,
    if_pos rfl, List.perm_singleton] at hheard
  exact hheard

/-- And nobody else does. -/
theorem heard_leave_ne (h : Phone m) {w : Wild} {x : Subscriber} (hid : x.ID ≠ i)
    (hout : out.Perm ((m.mSubscribers.filter (fun y => y.equals w x)).flatMap
      (told m.toNif .unsubscribe))) : heard i out = [] := by
  have hzero : ((m.mSubscribers.filter (fun y => y.equals w x)).countP fun y => y.ID == i) = 0 := by
    refine List.countP_eq_zero.mpr (fun y hy he => hid ?_)
    exact (Subscriber.equals_ID (List.mem_filter.mp hy).2).symm.trans (beq_iff_eq.mp he)
  have hheard : (heard i out).Perm (heard i ((m.mSubscribers.filter
      (fun y => y.equals w x)).flatMap (told m.toNif .unsubscribe))) :=
    (hout.filterMap _).filterMap _
  rw [heard_flatMap m.toNif rfl (fun y hy => h.wifi_ne (List.mem_filter.mp hy).1 _), hzero]
    at hheard
  exact List.perm_nil.mp hheard

/-- However it ends when somebody else leaves, this client is where it was. -/
theorem shown_leave_ne (h : Phone m) {w : Wild} {x : Subscriber} {st : AgpsState}
    {req : List Effect} (hid : x.ID ≠ i)
    (hset : Settled env (m.become m.mStatePtr (m.mSubscribers.filter (fun y => !y.equals w x)))
      st req) :
    shown (m.become st (m.mSubscribers.filter (fun y => !y.equals w x))) i = shown m i := by
  have hsame := isListed_leave (w := w) m.mSubscribers hid
  cases hset with
  | empty _ hl =>
      -- If nobody is left, this client was not there either.
      have hnil : m.mSubscribers.filter (fun y => !y.equals w x) = [] := hl
      rw [hnil] at hsame
      rw [shown_of_not_listed hsame.symm]
      exact shown_of_nil hnil
  | emptyReleasing hrel _ => exact absurd hrel h.active
  | inactive _ hne hall =>
      rcases List.exists_mem_of_ne_nil _ hne with ⟨y, hy⟩
      have hact := h.isInactive (List.mem_filter.mp hy).1
      rw [hall y hy] at hact
      exact Bool.noConfusion hact
  | stay _ _ =>
      unfold shown AgpsStateMachine.become
      rw [hsame]

/-- The `leave` outcome. -/
theorem phone_leave (h : Phone m) (hi : i ≠ INADDR_NONE) {s x : Subscriber} {w : Wild}
    {st : AgpsState} {req : List Effect} (hst : m.mStatePtr ≠ .released)
    (hx : m.mSubscribers.find? (fun y => y.equals (env.wild 0) s) = some x)
    (hout : out.Perm ((m.mSubscribers.filter (fun y => y.equals w x)).flatMap
      (told m.toNif .unsubscribe)))
    (hset : Settled env (m.become m.mStatePtr (m.mSubscribers.filter (fun y => !y.equals w x)))
      st req) :
    phoneTalk.Leads (shown m i).quiet (saidIn i (.unsubscribeRsrc s) ++ heard i (out ++ req))
      (shown (m.become st (m.mSubscribers.filter (fun y => !y.equals w x))) i).quiet := by
  have hmem := List.mem_of_find?_eq_some hx
  have heq := List.find?_some hx
  have hxs : x.ID = s.ID := Subscriber.equals_ID heq
  rw [heard_append, heard_of_noticesOf (noticesOf_settled hset), List.append_nil, saidIn]
  by_cases hid : s.ID = i
  · have hxi := hxs.trans hid
    have hleft : isListed (m.mSubscribers.filter (fun y => !y.equals w x)) i = false := by
      refine Bool.eq_false_iff.mpr (fun hl => ?_)
      rcases isListed_iff.mp hl with ⟨y, hy, hyi⟩
      have hne := (List.mem_filter.mp hy).2
      rw [(equals_iff_ID hi hxi).mpr hyi] at hne
      exact Bool.noConfusion hne
    have hshown : shown (m.become st (m.mSubscribers.filter (fun y => !y.equals w x))) i =
        .absent := shown_of_not_listed hleft
    have hnext : phoneTalk.next (shown m i).quiet .leave = ⟨.closing, some .closed⟩ :=
      if_neg (shown_ne_absent hst (isListed_iff.mpr ⟨x, hmem, hxi⟩))
    rw [heard_leave h hi hmem hxi hout, if_pos hid, hshown]
    refine Monitor.leads_cons trivial ?_
    rw [hnext]
    exact Monitor.leads_cons rfl (Monitor.leads_nil _)
  · have hne : x.ID ≠ i := fun hc => hid (hxs.symm.trans hc)
    rw [heard_leave_ne h hne hout, if_neg hid, shown_leave_ne h hne hset]
    exact Monitor.leads_nil _

/-- One call is a piece of every session. -/
theorem phone_transition (h : Phone m) (hi : i ≠ INADDR_NONE) (ht : Transition m env op m' out) :
    phoneTalk.Leads (shown m i).quiet (saidIn i op ++ heard i out) (shown m' i).quiet := by
  have hcount := countP_le_one hi h.distinct
  cases ht with
  | refuse hone _ =>
      rw [h.many] at hone
      exact Bool.noConfusion hone
  | @request s hst hl =>
      rw [heard_of_noticesOf rfl, List.append_nil, shown_of_nil hl, shown_request hl, saidIn]
      by_cases hid : s.ID = i
      · rw [if_pos hid, if_pos hid]
        exact Monitor.leads_cons trivial (Monitor.leads_nil _)
      · rw [if_neg hid, if_neg hid]
        exact Monitor.leads_nil _
  | @join s hst _ hx =>
      rcases hx with ⟨x, hx, heq⟩
      rw [saidIn]
      by_cases hid : s.ID = i
      · rw [if_pos hid]
        exact phone_welcome h hst hid
          (isListed_iff.mpr ⟨x, hx, (Subscriber.equals_ID heq).trans hid⟩) rfl (Or.inr rfl)
      · rw [heard_welcome, if_neg hid, if_neg (fun hc => hid hc.2)]
        exact Monitor.leads_nil _
  | @enlist s hst _ hnew =>
      rw [saidIn]
      by_cases hid : s.ID = i
      · rw [if_pos hid]
        refine phone_welcome h hst hid ?_ rfl
          (Or.inl (shown_of_not_listed (not_listed_of_ne hi hid hnew)))
        rw [isListed_enlist, beq_iff_eq.mpr hid, Bool.true_or]
      · have hshown : shown (m.enlist s) i = shown m i := by
          unfold shown
          rw [isListed_enlist, beq_eq_false_iff_ne.mpr hid, Bool.false_or]
          rfl
        rw [heard_welcome, if_neg hid, if_neg (fun hc => hid hc.2), hshown]
        exact Monitor.leads_nil _
  | @unknown s hnew =>
      rw [heard_of_noticesOf rfl, List.append_nil, saidIn]
      by_cases hid : s.ID = i
      · rw [if_pos hid, shown_of_not_listed (not_listed_of_ne hi hid hnew)]
        exact Monitor.leads_cons trivial (Monitor.leads_nil _)
      · rw [if_neg hid]
        exact Monitor.leads_nil _
  | mute _ hx hwifi _ =>
      rw [h.kinds _ (List.mem_of_find?_eq_some hx)] at hwifi
      exact Bool.noConfusion hwifi
  | leave hst hx _ hout _ hset => exact phone_leave h hi hst hx hout hset
  | grant hst =>
      have hall : m.mSubscribers.filter (fun x => !x.isInactive) = m.mSubscribers :=
        List.filter_eq_self.mpr (fun x hx => by rw [h.isInactive hx]; rfl)
      rw [hall]
      refine leads_answer rfl (fun x hx => h.wifi_ne hx _) hcount (fun hl => ?_)
        (fun hl => shown_of_not_listed (m := m.become .acquired m.mSubscribers) hl)
      simp only [shown, AgpsStateMachine.become, hl, if_true, hst]
      exact ⟨rfl, rfl⟩
  | deny hst =>
      rw [show shown (m.become .released []) i = .absent from shown_of_nil rfl]
      refine leads_answer rfl (fun x hx => h.wifi_ne hx _) hcount (fun hl => ?_) (fun _ => rfl)
      simp only [shown, hl, if_true, hst]
      exact ⟨rfl, rfl⟩
  | force hst =>
      rw [show shown (m.become .released []) i = .absent from shown_of_nil rfl]
      refine leads_answer rfl (fun x hx => h.wifi_ne hx _) hcount (fun hl => ?_) (fun _ => rfl)
      simp only [shown, hl, if_true, hst]
      exact ⟨rfl, rfl⟩
  | close hst _ _ => exact absurd hst h.active
  | reopen hst _ _ _ => exact absurd hst h.active
  | ignore _ =>
      rw [heard_of_noticesOf rfl, List.append_nil]
      exact Monitor.leads_nil _

end Many

section Single

variable {m m' : AgpsStateMachine} {env : Env} {op : Op} {out : List Effect} {i : BitVec 32}

/-- Whoever is listed is the only one. -/
theorem Hotspot.eq_singleton (h : Hotspot m) {x : Subscriber} (hx : x ∈ m.mSubscribers) :
    m.mSubscribers = [x] := by
  have hlen : m.mSubscribers.length = 1 :=
    Nat.le_antisymm (h.single h.one) (List.length_pos_of_mem hx)
  rcases List.length_eq_one_iff.mp hlen with ⟨y, hy⟩
  rw [hy, List.mem_singleton] at hx
  rw [hy, hx]

theorem Hotspot.countP_le (h : Hotspot m) : (m.mSubscribers.countP fun x => x.ID == i) ≤ 1 :=
  List.countP_le_length.trans (h.single h.one)

/-- WIFI clients are compared by the `ID` alone. -/
theorem Hotspot.equals_iff (h : Hotspot m) {w : Wild} {x s : Subscriber}
    (hx : x ∈ m.mSubscribers) : x.equals w s = true ↔ x.ID = s.ID := by
  rw [Subscriber.equals_of_wifi (Or.inl (h.kinds x hx)), beq_iff_eq]

theorem hotspot_init (type : AGpsType) (bearer : Int) : Hotspot (.init type true bearer) where
  toWellFormed := wellFormed_init type true bearer
  one := rfl
  kinds := fun _ hx => absurd hx List.not_mem_nil

theorem hotspot_of_transition (h : Hotspot m) (ht : Transition m env op m' out)
    (hop : ∀ s, op = .subscribeRsrc s → s.isWifi = true) : Hotspot m' := by
  refine ⟨wellFormed_of_transition h.toWellFormed ht,
    (mEnforceSingleSubscriber_of_transition ht).trans h.one, ?_⟩
  have hjoin : ∀ {s : Subscriber}, s.isWifi = true →
      ∀ x ∈ (m.enlist s).mSubscribers, x.isWifi = true := by
    intro s hs x hx
    rcases List.mem_cons.mp hx with rfl | hx
    · rw [Subscriber.clone_isWifi]
      exact hs
    · exact h.kinds x hx
  cases ht with
  | refuse _ _ => exact h.kinds
  | request _ _ => exact hjoin (hop _ rfl)
  | join _ _ _ => exact h.kinds
  | enlist _ _ _ => exact hjoin (hop _ rfl)
  | unknown _ => exact h.kinds
  | @mute s x _ _ _ _ _ _ =>
      intro y hy
      rcases List.mem_map.mp hy with ⟨z, hz, rfl⟩
      by_cases hobj : z.obj = x.obj
      · rw [if_pos hobj, Subscriber.setInactive_isWifi]
        exact h.kinds z hz
      · rw [if_neg hobj]
        exact h.kinds z hz
  | leave _ _ _ _ _ _ => exact fun x hx => h.kinds x (List.mem_filter.mp hx).1
  | grant _ => exact h.kinds
  | deny _ => exact fun x hx => absurd hx List.not_mem_nil
  | force _ => exact fun x hx => absurd hx List.not_mem_nil
  | close _ _ _ => exact fun x hx => absurd hx List.not_mem_nil
  | reopen _ _ hl _ =>
      intro x hx
      subst hl
      exact h.kinds x (List.mem_filter.mp hx).1
  | ignore _ => exact h.kinds

/-- Whoever asks while somebody is listed is denied, and nothing changes. -/
theorem wifi_refuse (stage : Stage) :
    wifiTalk.Leads stage.quiet [.ask, .denied] stage.quiet := by
  cases stage with
  | absent =>
      exact Monitor.leads_cons trivial (Monitor.leads_cons (Or.inl rfl) (Monitor.leads_nil _))
  | waiting => exact Monitor.leads_cons trivial (Monitor.leads_cons rfl (Monitor.leads_nil _))
  | opened => exact Monitor.leads_cons trivial (Monitor.leads_cons rfl (Monitor.leads_nil _))
  | closing => exact Monitor.leads_cons trivial (Monitor.leads_cons rfl (Monitor.leads_nil _))

/-- A client that leaves waits for the close. -/
theorem shown_mute (h : Hotspot m) {x : Subscriber} {st : AgpsState} {req : List Effect}
    (hx : x ∈ m.mSubscribers) (hset : Settled env (m.setInactive x) st req) :
    shown { m.setInactive x with mStatePtr := st } i =
      if x.ID = i then .closing else .absent := by
  have hlist : (m.setInactive x).mSubscribers = [x.setInactive] := by
    simp only [AgpsStateMachine.setInactive, h.eq_singleton hx, List.map_cons, List.map_nil,
      if_true]
  have hin : x.setInactive.isInactive = true := Subscriber.setInactive_isInactive (h.kinds x hx)
  have hst : st = .releasing := by
    cases hset with
    | empty _ hl => rw [hlist] at hl; cases hl
    | emptyReleasing _ hl => rw [hlist] at hl; cases hl
    | inactive _ _ _ => rfl
    | stay _ hactive =>
        by_contra hne
        rcases hactive hne with ⟨y, hy, hact⟩
        rw [hlist, List.mem_singleton] at hy
        rw [hy, hin] at hact
        exact Bool.noConfusion hact
  unfold shown
  rw [hst, hlist]
  simp only [isListed, List.any_cons, List.any_nil, Bool.or_false, Subscriber.setInactive_ID,
    beq_iff_eq]

/-- One call is a piece of every session. -/
theorem wifi_transition (h : Hotspot m) (ht : Transition m env op m' out) :
    wifiTalk.Leads (shown m i).quiet (saidIn i op ++ heard i out) (shown m' i).quiet := by
  cases ht with
  | @refuse s _ _ =>
      rw [saidIn, heard_told m.toNif rfl (Or.inl (by decide))]
      by_cases hid : s.ID = i
      · rw [if_pos hid, if_pos hid]
        exact wifi_refuse _
      · rw [if_neg hid, if_neg hid]
        exact Monitor.leads_nil _
  | @request s hst hl =>
      rw [heard_of_noticesOf rfl, List.append_nil, shown_of_nil hl, shown_request hl, saidIn]
      by_cases hid : s.ID = i
      · rw [if_pos hid, if_pos hid]
        exact Monitor.leads_cons trivial (Monitor.leads_nil _)
      · rw [if_neg hid, if_neg hid]
        exact Monitor.leads_nil _
  | join _ hone hx =>
      rcases hx with ⟨x, hx, _⟩
      rw [hone h.one] at hx
      exact absurd hx List.not_mem_nil
  | enlist hst hone _ => exact absurd (h.occupied (hone h.one)) hst
  | @unknown s hnew =>
      rw [heard_of_noticesOf rfl, List.append_nil, saidIn]
      by_cases hid : s.ID = i
      · have hl : isListed m.mSubscribers i = false := by
          refine Bool.eq_false_iff.mpr (fun hl => ?_)
          rcases isListed_iff.mp hl with ⟨x, hx, hxi⟩
          have hne := hnew x hx
          rw [(h.equals_iff hx).mpr (hxi.trans hid.symm)] at hne
          exact Bool.noConfusion hne
        rw [if_pos hid, shown_of_not_listed hl]
        exact Monitor.leads_cons trivial (Monitor.leads_nil _)
      · rw [if_neg hid]
        exact Monitor.leads_nil _
  | @mute s x _ _ hst hx _ hset =>
      have hmem := List.mem_of_find?_eq_some hx
      have heq := List.find?_some hx
      have hxs : x.ID = s.ID := Subscriber.equals_ID heq
      rw [heard_of_noticesOf (noticesOf_settled hset), List.append_nil, shown_mute h hmem hset,
        saidIn, hxs]
      by_cases hid : s.ID = i
      · have hnext : wifiTalk.next (shown m i).quiet .leave = ⟨.closing, none⟩ :=
          if_neg (shown_ne_absent hst (isListed_iff.mpr ⟨x, hmem, hxs.trans hid⟩))
        rw [if_pos hid, if_pos hid]
        refine Monitor.leads_cons trivial ?_
        rw [hnext]
        exact Monitor.leads_nil _
      · have hl : isListed m.mSubscribers i = false := by
          simp only [isListed, h.eq_singleton hmem, List.any_cons, List.any_nil, Bool.or_false, hxs]
          exact beq_eq_false_iff_ne.mpr hid
        rw [if_neg hid, if_neg hid, shown_of_not_listed hl]
        exact Monitor.leads_nil _
  | leave _ hx hwifi _ _ _ =>
      rw [h.kinds _ (List.mem_of_find?_eq_some hx)] at hwifi
      exact Bool.noConfusion hwifi
  | grant hst =>
      have hall : m.mSubscribers.filter (fun x => !x.isInactive) = m.mSubscribers := by
        rcases h.active (Or.inl hst) with ⟨x, hx, hact⟩
        rw [h.eq_singleton hx]
        exact List.filter_cons_of_pos (by rw [hact]; rfl)
      rw [hall]
      refine leads_answer rfl (fun _ _ => Or.inl (by decide)) h.countP_le (fun hl => ?_)
        (fun hl => shown_of_not_listed (m := m.become .acquired m.mSubscribers) hl)
      simp only [shown, AgpsStateMachine.become, hl, if_true, hst]
      exact ⟨rfl, rfl⟩
  | deny hst =>
      rw [show shown (m.become .released []) i = .absent from shown_of_nil rfl]
      refine leads_answer rfl (fun _ _ => Or.inl (by decide)) h.countP_le (fun hl => ?_)
        (fun _ => rfl)
      simp only [shown, hl, if_true, hst]
      exact ⟨Or.inl rfl, rfl⟩
  | force hst =>
      rw [show shown (m.become .released []) i = .absent from shown_of_nil rfl]
      refine leads_answer rfl (fun _ _ => Or.inl (by decide)) h.countP_le (fun hl => ?_)
        (fun _ => rfl)
      simp only [shown, hl, if_true, hst]
      exact ⟨Or.inl rfl, rfl⟩
  | close hst hev _ =>
      rw [show shown (m.become .released []) i = .absent from shown_of_nil rfl]
      rcases hev with rfl | rfl
      · refine leads_answer rfl (fun _ _ => Or.inl (by decide)) h.countP_le (fun hl => ?_)
          (fun _ => rfl)
        simp only [shown, hl, if_true, hst]
        exact ⟨Or.inr rfl, rfl⟩
      · refine leads_answer rfl (fun _ _ => Or.inl (by decide)) h.countP_le (fun hl => ?_)
          (fun _ => rfl)
        simp only [shown, hl, if_true, hst]
        exact ⟨Or.inr rfl, rfl⟩
  | reopen hst _ hl hne =>
      -- The one client that is listed waits for the close.
      rcases h.inactive hst with ⟨x, hx, hin⟩
      refine absurd ?_ hne
      rw [hl, h.eq_singleton hx]
      exact List.filter_cons_of_neg (by rw [hin]; decide)
  | ignore _ =>
      rw [heard_of_noticesOf rfl, List.append_nil]
      exact Monitor.leads_nil _

end Single

section Runs

variable {m m' : AgpsStateMachine} {call : MachineCall} {i : BitVec 32}

theorem phone_init (type : AGpsType) (bearer : Int) : Phone (.init type false bearer) where
  toShared := shared_init type bearer
  active := nofun
  distinct := List.Pairwise.nil

theorem phone_outcome {c : MachineCall} (h : Phone m) (hc : PhoneCall c) :
    Phone (outcome m c).1 := by
  cases c with
  | interface env op =>
      refine phone_of_transition h (perform_transition h.sound env op) (fun s hs => ?_)
      rw [hs] at hc
      exact hc
  | dropAllSubscribers =>
      exact ⟨⟨sound_drop, h.many, fun x hx => absurd hx List.not_mem_nil⟩, h.active,
        List.Pairwise.nil⟩
  | setAPN apn len =>
      exact ⟨⟨⟨h.sound.nodup, h.sound.fresh, h.sound.released⟩, h.many, h.kinds⟩, h.active,
        h.distinct⟩
  | setBearer bearer =>
      exact ⟨⟨⟨h.sound.nodup, h.sound.fresh, h.sound.released⟩, h.many, h.kinds⟩, h.active,
        h.distinct⟩

theorem phone_step (h : Phone m) (hi : i ≠ INADDR_NONE) (call : MachineCall) :
    phoneTalk.Leads (shown m i).quiet (sessionOf i m call) (shown (outcome m call).1 i).quiet := by
  cases call with
  | interface env op => exact phone_transition h hi (perform_transition h.sound env op)
  | dropAllSubscribers =>
      have hheard : heard i m.dropAllSubscribers.2 = [] := by
        refine heard_of_noticesOf (List.filterMap_eq_nil_iff.mpr (fun e he => ?_))
        rcases List.mem_map.mp he with ⟨s, _, rfl⟩
        rfl
      simp only [sessionOf, outcome, hheard, List.append_nil]
      rw [show shown m.dropAllSubscribers.1 i = .absent from shown_of_nil rfl]
      exact Monitor.leads_cons trivial (Monitor.leads_nil _)
  | setAPN apn len => exact Monitor.leads_nil _
  | setBearer bearer => exact Monitor.leads_nil _

theorem hotspot_outcome {c : MachineCall} (h : Hotspot m) (hc : WifiCall c) :
    Hotspot (outcome m c).1 := by
  cases c with
  | interface env op =>
      refine hotspot_of_transition h (perform_transition h.toSound env op) (fun s hs => ?_)
      rw [hs] at hc
      exact hc
  | dropAllSubscribers => exact hc.elim
  | setAPN apn len =>
      exact ⟨⟨⟨h.nodup, h.fresh, h.released⟩, h.occupied, h.active, h.inactive, h.single,
        h.distinct⟩, h.one, h.kinds⟩
  | setBearer bearer =>
      exact ⟨⟨⟨h.nodup, h.fresh, h.released⟩, h.occupied, h.active, h.inactive, h.single,
        h.distinct⟩, h.one, h.kinds⟩

/-- Whatever happens to a machine for many clients, what a client with an
    address says and hears is a session, and at its end the client is where the
    machine shows it. -/
theorem phone_sessions (type : AGpsType) (bearer : Int) {calls : List MachineCall}
    (hcalls : ∀ call ∈ calls, PhoneCall call) (hi : i ≠ INADDR_NONE)
    (h : Run.exec machineStep (.init type false bearer) calls = some m) :
    phoneTalk.Leads Stage.absent.quiet
      (Run.collect machineStep (sessionOf i) (.init type false bearer) calls)
      (shown m i).quiet := by
  refine Monitor.leads_collect (fun m => (shown m i).quiet) Phone PhoneCall ?_ ?_
    (phone_init type bearer) hcalls h
  · intro m call m' hc hm hs
    rw [machineStep_eq, Option.some.injEq] at hs
    rw [← hs]
    exact phone_outcome hm hc
  · intro m call m' _ hm hs
    rw [machineStep_eq, Option.some.injEq] at hs
    rw [← hs]
    exact phone_step hm hi call

/-- A client that is greeted, asks again and leaves, while another one stays. -/
def comingAndGoing : List MachineCall :=
  [.interface .zeros (.subscribeRsrc (.atl 0 1 false)), .interface .zeros (.onRsrcEvent .granted),
    .interface .zeros (.subscribeRsrc (.atl 0 2 false)),
    .interface .zeros (.subscribeRsrc (.atl 0 2 false)),
    .interface .zeros (.unsubscribeRsrc (.atl 0 2 false))]

theorem phone_sessions_comingAndGoing :
    ∃ m, Run.exec machineStep (.init AGPS_TYPE_SUPL false 0) comingAndGoing = some m ∧
      phoneTalk.Leads Stage.absent.quiet
        (Run.collect machineStep (sessionOf 2) (.init AGPS_TYPE_SUPL false 0) comingAndGoing)
        (shown m 2).quiet := by
  exact ⟨_, rfl, phone_sessions AGPS_TYPE_SUPL 0 (by decide) (by decide) rfl⟩

example : Run.collect machineStep (sessionOf 2) (.init AGPS_TYPE_SUPL false 0) comingAndGoing =
    [.ask, .granted, .ask, .granted, .leave, .closed] := by decide

end Runs

end Eng

end Taoshan

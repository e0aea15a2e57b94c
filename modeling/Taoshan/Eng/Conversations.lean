import Taoshan.Eng.Sessions

/-!
# What the Modem and the WIFI Senders Hear

The sessions of `Sessions`, as they look from outside. The modem knows neither
machines nor lists: it sends the open and close requests of a handle and hears
of the handle by the open and close statuses that carry it. The engine serves
it from one of two machines, which it shares with the BIT daemon, while the
connectivity service answers and the modem itself restarts. All the same, what
is sent and heard about one handle is a session (`modem_conversations`),
provided that the handle is always asked for by the same kind of connection and
that no BIT client has it for an address.

A WIFI sender is identified by what its answers carry. It may share the one
machine with another sender and neither can disturb the other's session, except
that one of them is turned away (`wifi_conversations`).

## Main definitions

* `modemSaid`, `modemHeard`: A handle in the messages and in the answers.
* `senderSaid`, `senderHeard`: A WIFI sender in them.
* `overheard`: What is heard, out of everything the machines do in one message.
* `ModemInv`: One machine at most lists the handle.

## Theorems

* `notify_of_transition`: Who can be told, and what.
* `conversation_filter`: What is said in a run, and what is heard.
* `conversation_leads`: A run is a session if each message is a piece of it.
* `modem_conversations`: A handle's messages are a session.
* `wifi_conversations`: And a WIFI sender's.
-/

namespace Taoshan

namespace Eng

open Agps

/-- What the modem says about a handle, and what happens to all handles when it
    is up again. -/
def modemSaid (h : BitVec 32) : Msg → List SessionEvent
  | .requestAtl handle _ => if handle = h then [.ask] else []
  | .releaseAtl handle => if handle = h then [.leave] else []
  | .engineUp => [.dropped]
  | _ => []

/-- What the modem hears about it. -/
def modemHeard (h : BitVec 32) : ClientMsg → Option SessionEvent
  | .atlOpenStatus handle isSucc _ _ _ =>
      if handle = h then some (if isSucc then .granted else .denied) else none
  | .atlCloseStatus handle _ => if handle = h then some .closed else none
  | .dataConn _ _ => none

/-- What a WIFI sender says. -/
def senderSaid (i : SenderId) : Msg → List SessionEvent
  | .requestWifi senderId _ _ => if senderId = i then [.ask] else []
  | .releaseWifi senderId _ _ => if senderId = i then [.leave] else []
  | _ => []

/-- What it hears. -/
def senderHeard (i : SenderId) : ClientMsg → Option SessionEvent
  | .dataConn senderId status =>
      if senderId = i then some (eventOf (.dataConn senderId status)) else none
  | _ => none

/-- What is heard of a call, given what is made of each message. -/
def caught (hearing : ClientMsg → Option SessionEvent) (out : List Effect) : List SessionEvent :=
  (noticesOf out).filterMap fun n => hearing n.2

/-- What is heard of everything the machines did. -/
def overheard (hearing : ClientMsg → Option SessionEvent) (log : List (NifId × Entry)) :
    List SessionEvent :=
  log.filterMap fun e => match e.2 with
    | .effect (.notify _ msg) => hearing msg
    | _ => none

/-- A message with all that is said by it and heard of it. -/
def conversation (said : Msg → List SessionEvent) (hearing : ClientMsg → Option SessionEvent)
    (t : Thread) (msg : MsgEnv × Msg) : List SessionEvent :=
  said msg.2 ++ overheard hearing (handle t.data msg.1 msg.2).2

/-- A handle that is asked for on one machine and is no BIT client's address. -/
def Reserved (h : BitVec 32) (j : NifId) : Msg → Prop
  | .requestAtl handle type => handle = h → atlNif type = j
  | .requestBit _ ipv4Addr _ => ipv4Addr ≠ h
  | .releaseBit _ ipv4Addr _ => ipv4Addr ≠ h
  | _ => True

instance (h : BitVec 32) (j : NifId) : (msg : Msg) → Decidable (Reserved h j msg)
  | .requestAtl _ _ => inferInstanceAs (Decidable (_ → _ = _))
  | .requestBit _ _ _ => inferInstanceAs (Decidable (_ ≠ _))
  | .releaseBit _ _ _ => inferInstanceAs (Decidable (_ ≠ _))
  | .releaseAtl _ => isTrue trivial
  | .requestWifi _ _ _ => isTrue trivial
  | .releaseWifi _ _ _ => isTrue trivial
  | .atlOpenSuccess _ _ _ _ => isTrue trivial
  | .atlClosed _ => isTrue trivial
  | .atlOpenFailed _ => isTrue trivial
  | .engineUp => isTrue trivial

/-- Whoever has the handle for its `ID` is an ATL connection on that machine. -/
structure ModemInv (h : BitVec 32) (j : NifId) (d : LocEngData) : Prop where
  agpsStatusCb : d.agpsStatusCb = true
  phone : ∀ k, k ≠ .wifi → Phone (d.nif k)
  hotspot : Hotspot d.wifiNif
  only : ∀ k, k ≠ .wifi → ∀ x ∈ (d.nif k).mSubscribers, x.ID = h → k = j ∧ x.isAtl = true

section Told

variable {m m' : AgpsStateMachine} {env : Env} {op : Op} {out : List Effect}

/-- `mBackwardCompatibleMode`, which only an ATL connection has. -/
def compatible : Subscriber → Bool
  | .atl _ _ mode => mode
  | _ => false

/-- Both have the same `ID`, and both are ATL connections in the same mode or
    neither is one. -/
structure SameClient (x y : Subscriber) : Prop where
  ID : x.ID = y.ID
  isAtl : x.isAtl = y.isAtl
  compatible : compatible x = compatible y

theorem SameClient.refl (x : Subscriber) : SameClient x x := ⟨rfl, rfl, rfl⟩

theorem sameClient_clone (new : Nat) (s : Subscriber) : SameClient (s.clone new) s := by
  cases s with
  | bit obj id ip => exact ⟨rfl, rfl, rfl⟩
  | atl obj id mode => exact ⟨rfl, rfl, rfl⟩
  | wifi obj ssid password senderId inactive => exact ⟨rfl, rfl, rfl⟩

theorem sameClient_setInactive (s : Subscriber) : SameClient s.setInactive s := by
  cases s with
  | bit obj id ip => exact ⟨rfl, rfl, rfl⟩
  | atl obj id mode => exact ⟨rfl, rfl, rfl⟩
  | wifi obj ssid password senderId inactive => exact ⟨rfl, rfl, rfl⟩

/-- Whoever is told something is listed or has just asked, and is told a status
    in its own words. -/
theorem notify_of_transition (ht : Transition m env op m' out) {x : Subscriber} {msg : ClientMsg}
    (hin : .notify x msg ∈ out) :
    (x ∈ m.mSubscribers ∨ op = .subscribeRsrc x) ∧ ∃ status, msg ∈ x.msgs m.toNif status := by
  have htold : ∀ {status : AgpsRsrcStatus} {s : Subscriber},
      .notify x msg ∈ told m.toNif status s → x = s ∧ msg ∈ x.msgs m.toNif status := by
    intro status s hmem
    rcases List.mem_map.mp hmem with ⟨a, ha, he⟩
    rw [Effect.notify.injEq] at he
    rcases he with ⟨rfl, rfl⟩
    exact ⟨rfl, ha⟩
  -- Everywhere else the list is gone through, or the part of it that is active.
  have hall : ∀ {status : AgpsRsrcStatus} {l : List Subscriber}, l ⊆ m.mSubscribers →
      .notify x msg ∈ l.flatMap (told m.toNif status) →
        (x ∈ m.mSubscribers ∨ op = .subscribeRsrc x) ∧ ∃ status, msg ∈ x.msgs m.toNif status := by
    intro status l hl hmem
    rcases List.mem_flatMap.mp hmem with ⟨s, hs, hmem⟩
    rcases htold hmem with ⟨rfl, hmsg⟩
    exact ⟨Or.inl (hl hs), status, hmsg⟩
  -- What a machine settles after somebody has left is between it and the service.
  have hquiet : ∀ {st : AgpsState} {n : AgpsStateMachine} {req : List Effect},
      Settled env n st req → .notify x msg ∉ req := by
    intro st n req hset hmem
    cases hset with
    | empty _ _ => exact nomatch List.mem_singleton.mp hmem
    | emptyReleasing _ _ => exact absurd hmem List.not_mem_nil
    | inactive _ _ _ => exact nomatch List.mem_singleton.mp hmem
    | stay _ _ => exact absurd hmem List.not_mem_nil
  -- Who joins an open connection is told at once, as the new subscriber itself and not
  -- as its clone.
  have hwelcome : ∀ {s : Subscriber}, op = .subscribeRsrc s → .notify x msg ∈ m.welcome s →
      (x ∈ m.mSubscribers ∨ op = .subscribeRsrc x) ∧ ∃ status, msg ∈ x.msgs m.toNif status := by
    intro s hop hmem
    unfold AgpsStateMachine.welcome at hmem
    by_cases hst : m.mStatePtr = .acquired
    · rw [if_pos hst] at hmem
      rcases htold hmem with ⟨rfl, hmsg⟩
      exact ⟨Or.inr hop, _, hmsg⟩
    · rw [if_neg hst] at hmem
      exact absurd hmem List.not_mem_nil
  cases ht with
  | refuse _ _ =>
      rcases htold hin with ⟨rfl, hmsg⟩
      exact ⟨Or.inr rfl, _, hmsg⟩
  | request _ _ => exact nomatch List.mem_singleton.mp hin
  | join _ _ _ => exact hwelcome rfl hin
  | enlist _ _ _ => exact hwelcome rfl hin
  | unknown _ => exact absurd hin List.not_mem_nil
  | mute _ _ _ hset => exact absurd hin (hquiet hset)
  | leave _ _ _ hout _ hset =>
      rcases List.mem_append.mp hin with hin | hin
      · exact hall List.filter_sublist.subset (hout.mem_iff.mp hin)
      · exact absurd hin (hquiet hset)
  | grant _ => exact hall List.filter_sublist.subset hin
  | deny _ => exact hall (List.Subset.refl _) hin
  | force _ => exact hall (List.Subset.refl _) hin
  | close _ _ _ => exact hall (List.Subset.refl _) hin
  | reopen _ _ _ _ =>
      rcases List.mem_append.mp hin with hin | hin
      · exact hall List.filter_sublist.subset hin
      · exact nomatch List.mem_singleton.mp hin
  | ignore _ => exact absurd hin List.not_mem_nil

/-- Who is listed afterwards was listed, or has just asked. -/
theorem listed_of_transition (ht : Transition m env op m' out) {x : Subscriber}
    (hx : x ∈ m'.mSubscribers) :
    ∃ y, (y ∈ m.mSubscribers ∨ op = .subscribeRsrc y) ∧ SameClient x y := by
  -- The list keeps a clone, so what is compared is the client and not the object.
  have hjoin : ∀ {s : Subscriber}, op = .subscribeRsrc s → x ∈ (m.enlist s).mSubscribers →
      ∃ y, (y ∈ m.mSubscribers ∨ op = .subscribeRsrc y) ∧ SameClient x y := by
    intro s hop hx
    rcases List.mem_cons.mp hx with rfl | hx
    · exact ⟨s, Or.inr hop, sameClient_clone _ _⟩
    · exact ⟨x, Or.inl hx, .refl x⟩
  -- Where nobody joins, whoever is listed stays as he is or is gone.
  have hstays : x ∈ m.mSubscribers →
      ∃ y, (y ∈ m.mSubscribers ∨ op = .subscribeRsrc y) ∧ SameClient x y :=
    fun hx => ⟨x, Or.inl hx, .refl x⟩
  cases ht with
  | refuse _ _ => exact hstays hx
  | request _ _ => exact hjoin rfl hx
  | join _ _ _ => exact hstays hx
  | enlist _ _ _ => exact hjoin rfl hx
  | unknown _ => exact hstays hx
  | @mute s y _ _ _ _ _ _ =>
      -- Only the one that is muted changes, and it stays the same client.
      rcases List.mem_map.mp hx with ⟨z, hz, rfl⟩
      refine ⟨z, Or.inl hz, ?_⟩
      by_cases hobj : z.obj = y.obj
      · rw [if_pos hobj]
        exact sameClient_setInactive z
      · rw [if_neg hobj]
        exact .refl z
  | leave _ _ _ _ _ _ => exact hstays (List.mem_filter.mp hx).1
  | grant _ => exact hstays hx
  | deny _ => exact absurd hx List.not_mem_nil
  | force _ => exact absurd hx List.not_mem_nil
  | close _ _ _ => exact absurd hx List.not_mem_nil
  | reopen _ _ hl _ =>
      subst hl
      exact hstays (List.mem_filter.mp hx).1
  | ignore _ => exact hstays hx

end Told

section Hearing

variable {hearing : ClientMsg → Option SessionEvent} {d : LocEngData} {h : BitVec 32}

theorem overheard_append (xs ys : List (NifId × Entry)) :
    overheard hearing (xs ++ ys) = overheard hearing xs ++ overheard hearing ys :=
  List.filterMap_append

/-- What is heard of one machine's call is what is heard of its effects. -/
theorem overheard_call (k : NifId) (env : Env) (op : Op) :
    overheard hearing (d.call k env op).2 = caught hearing ((d.nif k).perform env op).2 := by
  -- The entry that records the answer of the call is no effect.
  have hanswer :
      overheard hearing ((answerOf (d.nif k).mStatePtr op).map fun e => (k, e)) = [] := by
    cases op <;> rfl
  have heffects : ∀ out : List Effect,
      overheard hearing ((out.map Entry.effect).map fun e => (k, e)) = caught hearing out := by
    intro out
    unfold overheard caught noticesOf
    rw [List.map_map, List.filterMap_map, List.filterMap_filterMap]
    refine List.filterMap_congr (fun e _ => ?_)
    cases e <;> rfl
  simp only [LocEngData.call, List.map_append, overheard_append, hanswer, heffects, List.nil_append]

/-- A flush is not heard of. -/
theorem overheard_drop (k : NifId) : overheard hearing (d.drop k).2 = [] := by
  refine List.filterMap_eq_nil_iff.mpr (fun e he => ?_)
  rcases List.mem_map.mp he with ⟨a, ha, rfl⟩
  rcases List.mem_map.mp ha with ⟨b, hb, rfl⟩
  rcases List.mem_map.mp hb with ⟨s, _, rfl⟩
  rfl

theorem mem_noticesOf {out : List Effect} {n : Subscriber × ClientMsg} (hn : n ∈ noticesOf out) :
    .notify n.1 n.2 ∈ out := by
  rcases List.mem_filterMap.mp hn with ⟨e, he, heq⟩
  cases e with
  | notify x msg =>
      rw [Option.some.injEq] at heq
      rw [← heq]
      exact he
  | servicer r => cases heq
  | suppressed action => cases heq
  | deleteObj obj => cases heq

/-- An ATL connection is told about its handle. -/
theorem modemHeard_of_isAtl {nif : Nif} {status : AgpsRsrcStatus} {x : Subscriber}
    {msg : ClientMsg} (hx : x.isAtl = true) (hmsg : msg ∈ x.msgs nif status) :
    modemHeard h msg = if x.ID = h then some (eventOf msg) else none := by
  cases x with
  | bit obj id ip => exact Bool.noConfusion hx
  | wifi obj ssid password senderId inactive => exact Bool.noConfusion hx
  | atl obj id mode =>
      cases status <;>
        first
        | exact absurd hmsg List.not_mem_nil
        | (rw [List.mem_singleton.mp hmsg]; rfl)

/-- Nobody else is told about one. -/
theorem modemHeard_of_not_isAtl {nif : Nif} {status : AgpsRsrcStatus} {x : Subscriber}
    {msg : ClientMsg} (hx : x.isAtl = false) (hmsg : msg ∈ x.msgs nif status) :
    modemHeard h msg = none := by
  cases x with
  | atl obj id mode => exact Bool.noConfusion hx
  | bit obj id ip =>
      cases status <;>
        first
        | exact absurd hmsg List.not_mem_nil
        | (rw [List.mem_singleton.mp hmsg]; rfl)
  | wifi obj ssid password senderId inactive =>
      cases status <;>
        first
        | exact absurd hmsg List.not_mem_nil
        | (rw [List.mem_singleton.mp hmsg]; rfl)

theorem toId_eq_iff {a b : SenderId} : a.toId = b.toId ↔ a = b := by
  cases a <;> cases b <;> decide

/-- A WIFI client is told about its sender. -/
theorem senderHeard_of_isWifi {i : SenderId} {nif : Nif} {status : AgpsRsrcStatus} {x : Subscriber}
    {msg : ClientMsg} (hx : x.isWifi = true) (hmsg : msg ∈ x.msgs nif status) :
    senderHeard i msg = if x.ID = i.toId then some (eventOf msg) else none := by
  cases x with
  | bit obj id ip => exact Bool.noConfusion hx
  | atl obj id mode => exact Bool.noConfusion hx
  | wifi obj ssid password senderId inactive =>
      have hid : (Subscriber.wifi obj ssid password senderId inactive).ID = i.toId ↔ senderId = i :=
        toId_eq_iff
      cases status <;>
        first
        | exact absurd hmsg List.not_mem_nil
        | (rw [List.mem_singleton.mp hmsg, senderHeard, if_congr hid rfl rfl])

/-- The others are not told about a sender of WIFI requests. -/
theorem senderHeard_of_not_isWifi {i : SenderId} (hi : i ≠ .gpsoneDaemon) {nif : Nif}
    {status : AgpsRsrcStatus} {x : Subscriber} {msg : ClientMsg} (hx : x.isWifi = false)
    (hmsg : msg ∈ x.msgs nif status) : senderHeard i msg = none := by
  cases x with
  | wifi obj ssid password senderId inactive => exact Bool.noConfusion hx
  | atl obj id mode =>
      cases status <;>
        first
        | exact absurd hmsg List.not_mem_nil
        | (rw [List.mem_singleton.mp hmsg]; rfl)
  | bit obj id ip =>
      cases status <;>
        first
        | exact absurd hmsg List.not_mem_nil
        | (rw [List.mem_singleton.mp hmsg]; exact if_neg hi.symm)

/-- The modem asks for a handle and leaves it, and all handles are dropped. -/
theorem modemSaid_cases {msg : Msg} {e : SessionEvent} (he : e ∈ modemSaid h msg) :
    e = .ask ∨ e = .leave ∨ e = .dropped := by
  cases msg with
  | requestAtl hdl type =>
      exact Or.inl (List.mem_singleton.mp (List.mem_ite_nil_right.mp he).2)
  | releaseAtl hdl =>
      exact Or.inr (Or.inl (List.mem_singleton.mp (List.mem_ite_nil_right.mp he).2))
  | engineUp => exact Or.inr (Or.inr (List.mem_singleton.mp he))
  | _ => exact absurd he List.not_mem_nil

/-- A sender asks and leaves. -/
theorem senderSaid_cases {i : SenderId} {msg : Msg} {e : SessionEvent} (he : e ∈ senderSaid i msg) :
    e = .ask ∨ e = .leave := by
  cases msg with
  | requestWifi senderId ssid password =>
      exact Or.inl (List.mem_singleton.mp (List.mem_ite_nil_right.mp he).2)
  | releaseWifi senderId ssid password =>
      exact Or.inr (List.mem_singleton.mp (List.mem_ite_nil_right.mp he).2)
  | _ => exact absurd he List.not_mem_nil

/-- What is heard is a grant, a refusal or a close. -/
theorem eventOf_cases (msg : ClientMsg) :
    eventOf msg = .granted ∨ eventOf msg = .denied ∨ eventOf msg = .closed := by
  cases msg with
  | atlOpenStatus handle isSucc apn bearer agpsType =>
      cases isSucc with
      | true => exact Or.inl rfl
      | false => exact Or.inr (Or.inl rfl)
  | atlCloseStatus handle isSucc => exact Or.inr (Or.inr rfl)
  | dataConn senderId status =>
      cases status with
      | requestSuccess => exact Or.inl rfl
      | releaseSuccess => exact Or.inr (Or.inr rfl)
      | failure => exact Or.inr (Or.inl rfl)

theorem modemHeard_eventOf {msg : ClientMsg} {e : SessionEvent} (he : modemHeard h msg = some e) :
    e = eventOf msg := by
  cases msg with
  | atlOpenStatus handle isSucc apn bearer agpsType =>
      rcases Option.ite_none_right_eq_some.mp he with ⟨_, he⟩
      exact (Option.some.inj he).symm
  | atlCloseStatus handle isSucc =>
      rcases Option.ite_none_right_eq_some.mp he with ⟨_, he⟩
      exact (Option.some.inj he).symm
  | dataConn senderId status => cases he

theorem senderHeard_eventOf {i : SenderId} {msg : ClientMsg} {e : SessionEvent}
    (he : senderHeard i msg = some e) : e = eventOf msg := by
  cases msg with
  | atlOpenStatus handle isSucc apn bearer agpsType => cases he
  | atlCloseStatus handle isSucc => cases he
  | dataConn sender status =>
      rcases Option.ite_none_right_eq_some.mp he with ⟨hsender, he⟩
      rw [← Option.some.inj he, hsender]

/-- What is said and what is heard in a run can be taken apart again. -/
theorem conversation_filter {said : Msg → List SessionEvent} {p : SessionEvent → Bool}
    (hsaid : ∀ msg, ∀ e ∈ said msg, p e = true)
    (hheard : ∀ msg e, hearing msg = some e → p e = false) {bearer : Int}
    {msgs : List (MsgEnv × Msg)} {t : Thread}
    (hrun : Run.exec Thread.step (.init bearer) msgs = some t) :
    (Run.collect Thread.step (conversation said hearing) (.init bearer) msgs).filter p =
        (msgs.map Prod.snd).flatMap said ∧
      (Run.collect Thread.step (conversation said hearing) (.init bearer) msgs).filter
        (fun e => !p e) = overheard hearing t.log := by
  -- A step says first and hears then, so the two parts are told apart by p alone.
  have hover : ∀ log, ∀ e ∈ overheard hearing log, p e = false := by
    intro log e he
    rcases List.mem_filterMap.mp he with ⟨x, _, hx⟩
    split at hx
    · exact hheard _ _ hx
    · cases hx
  have hyes : ∀ t msg, (conversation said hearing t msg).filter p = said msg.2 := by
    intro t msg
    unfold conversation
    rw [List.filter_append, List.filter_eq_self.mpr (hsaid msg.2), List.filter_eq_nil_iff.mpr,
      List.append_nil]
    exact fun e he => by rw [hover _ e he]; decide
  have hno : ∀ t msg, (conversation said hearing t msg).filter (fun e => !p e) =
      overheard hearing (handle t.data msg.1 msg.2).2 := by
    intro t msg
    unfold conversation
    rw [List.filter_append, List.filter_eq_nil_iff.mpr, List.filter_eq_self.mpr, List.nil_append]
    · exact fun e he => by rw [hover _ e he]; rfl
    · exact fun e he => by rw [hsaid _ e he]; decide
  rw [Run.filter_collect, Run.filter_collect]
  refine ⟨?_, ?_⟩
  · rw [List.flatMap_map, ← Run.collect_labels (fun msg => said msg.2) hrun]
    congr 1
    funext t msg
    exact hyes t msg
  · -- The log of the thread collects what its steps log.
    have hlog : overheard hearing t.log = overheard hearing (Thread.init bearer).log ++
        Run.collect Thread.step (fun t msg =>
          (conversation said hearing t msg).filter fun e => !p e) (.init bearer) msgs := by
      refine Run.exec_collect (fun t => overheard hearing t.log) (fun t msg t' hs => ?_) hrun
      rw [← Option.some.inj hs, hno t msg, overheard_append]
    exact hlog.symm

/-- If each message is a piece of the session, so is a run. -/
theorem conversation_leads {M : Monitor Talk SessionEvent} {said : Msg → List SessionEvent}
    (Inv : LocEngData → Prop) (A : Msg → Prop) (view : LocEngData → Talk)
    (hstep : ∀ d env msg, A msg → Inv d → Inv (handle d env msg).1 ∧
      M.Leads (view d) (said msg ++ overheard hearing (handle d env msg).2)
        (view (handle d env msg).1))
    {bearer : Int} {msgs : List (MsgEnv × Msg)} {t : Thread} (hinit : Inv (.init bearer))
    (hmsgs : ∀ msg ∈ msgs, A msg.2) (hrun : Run.exec Thread.step (.init bearer) msgs = some t) :
    M.Leads (view (.init bearer))
      (Run.collect Thread.step (conversation said hearing) (.init bearer) msgs) (view t.data) := by
  refine Monitor.leads_collect (fun t => view t.data) (fun t => Inv t.data) (fun msg => A msg.2)
    ?_ ?_ hinit hmsgs hrun
  · intro t msg t' hmsg hd hs
    rw [← Option.some.inj hs]
    exact (hstep t.data msg.1 msg.2 hmsg hd).1
  · intro t msg t' hmsg hd hs
    rw [← Option.some.inj hs]
    exact (hstep t.data msg.1 msg.2 hmsg hd).2

end Hearing

section Modem

variable {d : LocEngData} {h : BitVec 32} {j k : NifId} {env : Env} {op : Op}

/-- The calls that respect the handle: only ATL connections ask with it, and on
    that machine. -/
def Respects (h : BitVec 32) (j k : NifId) : Op → Prop
  | .subscribeRsrc s =>
      (k = .wifi → s.isWifi = true) ∧
        (k ≠ .wifi → s.isWifi = false ∧ (s.ID = h → k = j ∧ s.isAtl = true))
  | _ => True

theorem modemInv_init (bearer : Int) : ModemInv h j (.init bearer) where
  agpsStatusCb := rfl
  phone := by
    intro k hk
    cases k with
    | agnss => exact phone_init _ _
    | internet => exact phone_init _ _
    | wifi => exact absurd rfl hk
  hotspot := hotspot_init _ _
  only := by
    intro k hk x hx
    cases k with
    | agnss => exact absurd hx List.not_mem_nil
    | internet => exact absurd hx List.not_mem_nil
    | wifi => exact absurd rfl hk

theorem ModemInv.sound (hd : ModemInv h j d) (k : NifId) : Sound (d.nif k) := by
  by_cases hk : k = .wifi
  · subst hk
    exact hd.hotspot.toSound
  · exact (hd.phone k hk).sound

theorem ModemInv.threadShared (hd : ModemInv h j d) (log : List (NifId × Entry)) :
    ThreadShared ⟨d, log⟩ := fun k hk => (hd.phone k hk).toShared

/-- A call that respects the handle keeps all that. -/
theorem modemInv_call (hd : ModemInv h j d) (hop : Respects h j k op) :
    ModemInv h j (d.call k env op).1 := by
  have ht := perform_transition (hd.sound k) env op
  refine ⟨(agpsStatusCb_setNif d _ k).trans hd.agpsStatusCb, fun l hl => ?_, ?_,
    fun l hl x hx hid => ?_⟩
  · -- The two machines for handles and addresses.
    by_cases hlk : l = k
    · subst hlk
      rw [call_nif_self]
      refine phone_of_transition (hd.phone l hl) ht (fun s hs => ?_)
      subst hs
      exact (hop.2 hl).1
    · rw [call_nif_ne _ _ _ hlk]
      exact hd.phone l hl
  · -- The machine for the WIFI senders.
    change Hotspot ((d.call k env op).1.nif .wifi)
    by_cases hk : k = .wifi
    · subst hk
      rw [call_nif_self]
      refine hotspot_of_transition hd.hotspot ht (fun s hs => ?_)
      subst hs
      exact hop.1 rfl
    · rw [call_nif_ne _ _ _ (Ne.symm hk)]
      exact hd.hotspot
  · -- Whoever has the handle now had it before, or has just asked with it.
    by_cases hlk : l = k
    · subst hlk
      rw [call_nif_self] at hx
      rcases listed_of_transition ht hx with ⟨y, hy | rfl, hsame⟩
      · rw [hsame.isAtl]
        exact hd.only l hl y hy (hsame.ID.symm.trans hid)
      · rw [hsame.isAtl]
        exact (hop.2 hl).2 (hsame.ID.symm.trans hid)
    · rw [call_nif_ne _ _ _ hlk] at hx
      exact hd.only l hl x hx hid

/-- Whoever a call tells about the handle has it, and is on that machine. -/
theorem only_told (hd : ModemInv h j d) (hop : Respects h j k op) (hk : k ≠ .wifi) {x : Subscriber}
    {msg : ClientMsg} (hin : .notify x msg ∈ ((d.nif k).perform env op).2) (hid : x.ID = h) :
    k = j ∧ x.isAtl = true := by
  rcases (notify_of_transition (perform_transition (hd.sound k) env op) hin).1 with hx | rfl
  · exact hd.only k hk x hx hid
  · exact (hop.2 hk).2 hid

/-- On that machine the modem hears what the client does. -/
theorem caught_self (hd : ModemInv h j d) (hj : j ≠ .wifi) (hop : Respects h j j op) :
    caught (modemHeard h) ((d.nif j).perform env op).2 = heard h ((d.nif j).perform env op).2 := by
  unfold caught heard
  refine List.filterMap_congr (fun n hn => ?_)
  have hin := mem_noticesOf hn
  rcases (notify_of_transition (perform_transition (hd.sound j) env op) hin).2 with ⟨status, hmsg⟩
  by_cases hatl : n.1.isAtl = true
  · exact modemHeard_of_isAtl hatl hmsg
  · -- A BIT client is not told about a handle, and whoever has this one is no BIT
    -- client.
    rw [modemHeard_of_not_isAtl (Bool.eq_false_iff.mpr hatl) hmsg,
      if_neg (fun hid => hatl (only_told hd hop hj hin hid).2)]

/-- From the others it hears nothing. -/
theorem caught_ne (hd : ModemInv h j d) (hk : k ≠ j) (hop : Respects h j k op) :
    caught (modemHeard h) ((d.nif k).perform env op).2 = [] := by
  refine List.filterMap_eq_nil_iff.mpr (fun n hn => ?_)
  have hin := mem_noticesOf hn
  rcases notify_of_transition (perform_transition (hd.sound k) env op) hin with
    ⟨hfrom, status, hmsg⟩
  by_cases hatl : n.1.isAtl = true
  · by_cases hwifi : k = .wifi
    · -- Nobody on that machine is an ATL connection.
      subst hwifi
      have hkind : n.1.isWifi = true := by
        rcases hfrom with hx | rfl
        · exact hd.hotspot.kinds _ hx
        · exact hop.1 rfl
      rcases n with ⟨x, msg⟩
      cases x with
      | bit obj id ip => exact Bool.noConfusion hatl
      | atl obj id mode => exact Bool.noConfusion hkind
      | wifi obj ssid password senderId inactive => exact Bool.noConfusion hatl
    · -- An ATL connection there has another handle.
      rw [modemHeard_of_isAtl hatl hmsg]
      exact if_neg (fun hid => hk (only_told hd hop hwifi hin hid).1)
  · exact modemHeard_of_not_isAtl (Bool.eq_false_iff.mpr hatl) hmsg

/-- A call on that machine is a piece of the session. -/
theorem modem_call_self {e : Env} {o : Op} (hd : ModemInv h j d) (hj : j ≠ .wifi)
    (hh : h ≠ INADDR_NONE) (hop : Respects h j j o) :
    phoneTalk.Leads (shown (d.nif j) h).quiet
      (saidIn h o ++ overheard (modemHeard h) (d.call j e o).2)
      (shown ((d.call j e o).1.nif j) h).quiet := by
  rw [overheard_call, caught_self hd hj hop, call_nif_self]
  exact phone_transition (hd.phone j hj) hh (perform_transition (hd.sound j) e o)

/-- A call on another has no part in it. -/
theorem modem_call_ne {e : Env} {o : Op} (hd : ModemInv h j d) (hk : k ≠ j)
    (hop : Respects h j k o) :
    phoneTalk.Leads (shown (d.nif j) h).quiet (overheard (modemHeard h) (d.call k e o).2)
      (shown ((d.call k e o).1.nif j) h).quiet := by
  rw [overheard_call, caught_ne hd hk hop, call_nif_ne _ _ _ (Ne.symm hk)]
  exact Monitor.leads_nil _

/-- A call by which nothing is said about the handle. -/
theorem modem_call (hd : ModemInv h j d) (hj : j ≠ .wifi) (hh : h ≠ INADDR_NONE)
    (hop : Respects h j k op) (hsaid : saidIn h op = []) :
    phoneTalk.Leads (shown (d.nif j) h).quiet (overheard (modemHeard h) (d.call k env op).2)
      (shown ((d.call k env op).1.nif j) h).quiet := by
  by_cases hk : k = j
  · subst hk
    have hself := modem_call_self (e := env) hd hj hh hop
    rw [hsaid] at hself
    exact hself
  · exact modem_call_ne hd hk hop

/-- What one message does: the machines go on, and the modem's part of it is a
    piece of the session. -/
def ModemStep (h : BitVec 32) (j : NifId) (d : LocEngData) (events : List SessionEvent)
    (r : LocEngData × List (NifId × Entry)) : Prop :=
  ModemInv h j r.1 ∧
    phoneTalk.Leads (shown (d.nif j) h).quiet (events ++ overheard (modemHeard h) r.2)
      (shown (r.1.nif j) h).quiet

theorem modemStep_nil (hd : ModemInv h j d) : ModemStep h j d [] (d, []) :=
  ⟨hd, Monitor.leads_nil _⟩

theorem modemStep_call (hd : ModemInv h j d) (hj : j ≠ .wifi) (hh : h ≠ INADDR_NONE) (k : NifId)
    (env : Env) {o : Op} (hop : Respects h j k o) (hsaid : saidIn h o = []) :
    ModemStep h j d [] (d.call k env o) :=
  ⟨modemInv_call hd hop, modem_call hd hj hh hop hsaid⟩

/-- A request for a handle. -/
theorem modemStep_requestAtl (hd : ModemInv h j d) (hj : j ≠ .wifi) (hh : h ≠ INADDR_NONE)
    (env : MsgEnv) {hdl : BitVec 32} {type : AGpsType} (hmsg : hdl = h → atlNif type = j) :
    ModemStep h j d (modemSaid h (.requestAtl hdl type)) (handle d env (.requestAtl hdl type)) := by
  have hop : ∀ mode, Respects h j (atlNif type) (.subscribeRsrc (atlSubscriber hdl mode)) :=
    fun mode => ⟨fun hwifi => absurd hwifi (atlNif_ne_wifi type),
      fun _ => ⟨rfl, fun hid => ⟨hmsg hid, rfl⟩⟩⟩
  by_cases hid : hdl = h
  · -- The handle is asked for, so this is its machine.
    have hj' := hmsg hid
    subst hj'
    have hsaid : modemSaid h (.requestAtl hdl type) =
        saidIn h (.subscribeRsrc (atlSubscriber hdl (AGPS_TYPE_INVALID == type))) := rfl
    rw [hsaid]
    exact ⟨modemInv_call hd (hop _), modem_call_self hd hj hh (hop _)⟩
  · -- Another handle may be asked for anywhere.
    have hsaid : modemSaid h (.requestAtl hdl type) = [] := if_neg hid
    rw [hsaid]
    exact modemStep_call hd hj hh _ _ (hop _) (if_neg hid)

/-- A release of one, wherever it is listed. -/
theorem modemStep_releaseAtl (hd : ModemInv h j d) (hj : j ≠ .wifi) (hh : h ≠ INADDR_NONE)
    (env : MsgEnv) (hdl : BitVec 32) :
    ModemStep h j d (modemSaid h (.releaseAtl hdl)) (handle d env (.releaseAtl hdl)) := by
  have hcall := handle_releaseAtl (hd.threadShared []) env hdl
  by_cases hid : hdl = h
  · have hsaid : modemSaid h (.releaseAtl hdl) = [.leave] := if_pos hid
    rw [hsaid]
    rcases hcall with ⟨hfound, heq⟩ | ⟨hnot, heq⟩
    · -- Whoever has been found has the handle, so this is the machine.
      have hagnss : (.agnss : NifId) = j := by
        have hf : (d.agnssNif.unsubscribeRsrc env.first (atlSubscriber hdl false)).1 = true :=
          hfound
        unfold AgpsStateMachine.unsubscribeRsrc at hf
        rw [AgpsStateMachine.find_ofSubscriber] at hf
        cases hx : d.agnssNif.mSubscribers.find?
            (fun x => x.equals (env.first.wild 0) (atlSubscriber hdl false)) with
        | none =>
            rw [hx] at hf
            exact Bool.noConfusion hf
        | some x =>
            have heq := List.find?_some hx
            exact (hd.only .agnss (by decide) x (List.mem_of_find?_eq_some hx)
              ((Subscriber.equals_ID heq).trans hid)).1
      subst hagnss
      have hself := modem_call_self (e := env.first) hd hj hh
        (o := .unsubscribeRsrc (atlSubscriber hdl false)) trivial
      rw [saidIn, show (atlSubscriber hdl false).ID = h from hid, if_pos rfl] at hself
      rw [heq]
      exact ⟨modemInv_call hd trivial, hself⟩
    · -- The first machine does not list it, so the second is asked to let it go.
      rw [heq]
      refine ⟨modemInv_call hd trivial, ?_⟩
      cases j with
      | wifi => exact absurd rfl hj
      | internet =>
          have hself := modem_call_self (e := env.second) hd hj hh
            (o := .unsubscribeRsrc (atlSubscriber hdl false)) trivial
          rw [saidIn, show (atlSubscriber hdl false).ID = h from hid, if_pos rfl] at hself
          exact hself
      | agnss =>
          -- The handle is not listed at all, so there is nothing to leave.
          have habsent : shown (d.nif .agnss) h = .absent := by
            refine shown_of_not_listed (not_listed_of_ne (w := env.first.wild 0)
              (s := atlSubscriber hdl false) hh hid (fun x hx => ?_))
            have hf : (d.agnssNif.unsubscribeRsrc env.first (atlSubscriber hdl false)).1 = false :=
              hnot
            unfold AgpsStateMachine.unsubscribeRsrc at hf
            rw [AgpsStateMachine.find_ofSubscriber] at hf
            cases hfind : d.agnssNif.mSubscribers.find?
                (fun x => x.equals (env.first.wild 0) (atlSubscriber hdl false)) with
            | some y =>
                rw [hfind] at hf
                exact Bool.noConfusion hf
            | none => exact Bool.eq_false_iff.mpr (List.find?_eq_none.mp hfind x hx)
          have hne := modem_call_ne (k := .internet) (e := env.second) hd (by decide)
            (o := .unsubscribeRsrc (atlSubscriber hdl false)) trivial
          rw [habsent] at hne ⊢
          exact Monitor.leads_cons trivial hne
  · have hsaid : modemSaid h (.releaseAtl hdl) = [] := if_neg hid
    rw [hsaid]
    rcases hcall with ⟨_, heq⟩ | ⟨_, heq⟩
    · rw [heq]
      exact modemStep_call hd hj hh _ _ trivial (if_neg hid)
    · rw [heq]
      exact modemStep_call hd hj hh _ _ trivial (if_neg hid)

/-- The modem's return. -/
theorem modemStep_engineUp (hd : ModemInv h j d) (hj : j ≠ .wifi) (env : MsgEnv) :
    ModemStep h j d [.dropped] (handle d env .engineUp) := by
  have hnif : ∀ k, k ≠ .wifi →
      (handle d env .engineUp).1.nif k = (d.nif k).dropAllSubscribers.1 :=
    fun k hk => (engineUp_nif d env hd.agpsStatusCb hk).1
  have hquiet : overheard (modemHeard h) (handle d env .engineUp).2 = [] := by
    simp only [handle, hd.agpsStatusCb, if_true, overheard_append, overheard_drop, List.append_nil]
  refine ⟨⟨(handle_agpsStatusCb d env .engineUp).trans hd.agpsStatusCb, fun k hk => ?_, ?_,
    fun k hk x hx _ => ?_⟩, ?_⟩
  · rw [hnif k hk]
    exact phone_outcome (c := .dropAllSubscribers) (hd.phone k hk) trivial
  · change Hotspot ((handle d env .engineUp).1.nif .wifi)
    rw [(engineUp_nif_wifi d env).1]
    exact hd.hotspot
  · rw [hnif k hk] at hx
    exact absurd hx List.not_mem_nil
  · -- Nobody is listed any more, and nobody was told.
    rw [hquiet, hnif j hj,
      show shown (d.nif j).dropAllSubscribers.1 h = .absent from shown_of_nil rfl]
    exact Monitor.leads_cons trivial (Monitor.leads_nil _)

/-- Bearer and name are no matter for a session. -/
theorem modemInv_tune (hd : ModemInv h j d) (k : NifId) (bearer : Int) (apn : Option (List UInt8))
    (len : Nat) : ModemInv h j (d.setNif (((d.nif k).setBearer bearer).setAPN apn len) k) := by
  refine ⟨(agpsStatusCb_setNif d _ k).trans hd.agpsStatusCb, fun l hl => ?_, ?_,
    fun l hl x hx => ?_⟩
  · by_cases hlk : l = k
    · subst hlk
      rw [nif_setNif_self]
      exact phone_outcome (c := .setAPN apn len)
        (phone_outcome (c := .setBearer bearer) (hd.phone l hl) trivial) trivial
    · rw [nif_setNif_ne _ _ hlk]
      exact hd.phone l hl
  · change Hotspot ((d.setNif _ k).nif .wifi)
    by_cases hk : .wifi = k
    · subst hk
      rw [nif_setNif_self]
      exact hotspot_outcome (c := .setAPN apn len)
        (hotspot_outcome (c := .setBearer bearer) hd.hotspot trivial) trivial
    · rw [nif_setNif_ne _ _ hk]
      exact hd.hotspot
  · by_cases hlk : l = k
    · subst hlk
      rw [nif_setNif_self] at hx
      exact hd.only l hl x hx
    · rw [nif_setNif_ne _ _ hlk] at hx
      exact hd.only l hl x hx

theorem modemStep_handle (hd : ModemInv h j d) (hj : j ≠ .wifi) (hh : h ≠ INADDR_NONE)
    (env : MsgEnv) {msg : Msg} (hmsg : Reserved h j msg) :
    ModemStep h j d (modemSaid h msg) (handle d env msg) := by
  cases msg with
  | requestBit ifType ipv4Addr ipv6Addr =>
      cases hi : bitNif ifType with
      | none =>
          simp only [handle, hi]
          exact modemStep_nil hd
      | some k =>
          simp only [handle, hi]
          refine modemStep_call hd hj hh k _ ?_ (if_neg hmsg)
          exact ⟨fun hk => absurd hk (bitNif_ne_wifi hi),
            fun _ => ⟨rfl, fun hid => absurd hid hmsg⟩⟩
  | releaseBit ifType ipv4Addr ipv6Addr =>
      cases hi : bitNif ifType with
      | none =>
          simp only [handle, hi]
          exact modemStep_nil hd
      | some k =>
          simp only [handle, hi]
          exact modemStep_call hd hj hh k _ trivial (if_neg hmsg)
  | requestAtl hdl type => exact modemStep_requestAtl hd hj hh env hmsg
  | releaseAtl hdl => exact modemStep_releaseAtl hd hj hh env hdl
  | requestWifi senderId ssid password =>
      simp only [handle]
      split
      · -- The WIFI machine is not one the modem hears.
        have hop : Respects h j .wifi (.subscribeRsrc (wifiSubscriber ssid password senderId)) :=
          ⟨fun _ => rfl, fun hne => absurd rfl hne⟩
        exact ⟨modemInv_call hd hop, modem_call_ne hd hj.symm hop⟩
      · exact modemStep_nil hd
  | releaseWifi senderId ssid password =>
      simp only [handle]
      exact ⟨modemInv_call hd trivial, modem_call_ne hd hj.symm trivial⟩
  | atlOpenSuccess agpsType apn length bearerType =>
      have htuned := modemInv_tune hd (statusNif agpsType) bearerType (some apn) length
      have hcall := modemStep_call htuned hj hh (statusNif agpsType) env.first
        (o := .onRsrcEvent .granted) trivial rfl
      refine ⟨hcall.1, ?_⟩
      -- Who waits and who is served does not depend on bearer and name.
      have hshown : shown ((d.setNif (((d.nif (statusNif agpsType)).setBearer bearerType).setAPN
          (some apn) length) (statusNif agpsType)).nif j) h = shown (d.nif j) h := by
        by_cases hk : j = statusNif agpsType
        · rw [← hk, nif_setNif_self]
          rfl
        · rw [nif_setNif_ne _ _ hk]
      rw [← hshown]
      exact hcall.2
  | atlClosed agpsType => exact modemStep_call hd hj hh _ _ trivial rfl
  | atlOpenFailed agpsType => exact modemStep_call hd hj hh _ _ trivial rfl
  | engineUp => exact modemStep_engineUp hd hj env

/-- What the modem says and hears about a handle is a session, and at its end
    the handle is where its machine shows it: for every run in which the handle
    is asked for on one machine and is no BIT client's address. -/
theorem modem_conversations (bearer : Int) {msgs : List (MsgEnv × Msg)} {t : Thread}
    (hj : j ≠ .wifi) (hh : h ≠ INADDR_NONE) (hmsgs : ∀ msg ∈ msgs, Reserved h j msg.2)
    (hrun : Run.exec Thread.step (.init bearer) msgs = some t) :
    phoneTalk.Leads Stage.absent.quiet
      (Run.collect Thread.step (conversation (modemSaid h) (modemHeard h)) (.init bearer) msgs)
      (shown (t.data.nif j) h).quiet := by
  -- At first no machine lists anybody.
  have hstart : (shown ((Thread.init bearer).data.nif j) h).quiet = Stage.absent.quiet := by
    cases j <;> rfl
  rw [← hstart]
  exact conversation_leads (ModemInv h j) (Reserved h j) (fun d => (shown (d.nif j) h).quiet)
    (fun _ env _ hmsg hd => modemStep_handle hd hj hh env hmsg) (modemInv_init bearer) hmsgs hrun

/-- A handle is opened next to a BIT client, the connection is taken away, and
    the modem restarts while the handle waits again. -/
def handleInUse : List (MsgEnv × Msg) :=
  [(.zeros, .requestBit .supl 0x7f000001 none), (.zeros, .requestAtl 7 AGPS_TYPE_SUPL),
    (.zeros, .atlOpenSuccess AGPS_TYPE_SUPL [] 0 0), (.zeros, .atlClosed AGPS_TYPE_SUPL),
    (.zeros, .requestAtl 7 AGPS_TYPE_INVALID), (.zeros, .engineUp), (.zeros, .releaseAtl 7)]

theorem modem_conversations_handleInUse :
    ∃ t, Run.exec Thread.step (.init 0) handleInUse = some t ∧
      phoneTalk.Leads Stage.absent.quiet
        (Run.collect Thread.step (conversation (modemSaid 7) (modemHeard 7)) (.init 0) handleInUse)
        (shown (t.data.nif .agnss) 7).quiet := by
  exact ⟨_, rfl, modem_conversations 0 (by decide) (by decide) (by decide) rfl⟩

example : Run.collect Thread.step (conversation (modemSaid 7) (modemHeard 7)) (.init 0)
    handleInUse = [.ask, .granted, .closed, .ask, .dropped, .leave] := by decide

end Modem

section Senders

variable {d : LocEngData} {i : SenderId} {k : NifId} {env : Env} {op : Op}

/-- The machine that is for WIFI clients has no other, and the others have
    none. -/
structure SenderInv (d : LocEngData) : Prop where
  shared : ∀ k, k ≠ .wifi → Shared (d.nif k)
  hotspot : Hotspot d.wifiNif

/-- The calls that keep it so. -/
def Sorted (k : NifId) : Op → Prop
  | .subscribeRsrc s => s.isWifi = (k == .wifi)
  | _ => True

theorem SenderInv.sound (hd : SenderInv d) (k : NifId) : Sound (d.nif k) := by
  by_cases hk : k = .wifi
  · subst hk
    exact hd.hotspot.toSound
  · exact (hd.shared k hk).sound

theorem senderInv_call (hd : SenderInv d) (hop : Sorted k op) : SenderInv (d.call k env op).1 := by
  have ht := perform_transition (hd.sound k) env op
  refine ⟨fun l hl => ?_, ?_⟩
  · by_cases hlk : l = k
    · subst hlk
      rw [call_nif_self]
      refine shared_of_transition (hd.shared l hl) ht (fun s hs => ?_)
      subst hs
      exact Eq.trans hop (beq_eq_false_iff_ne.mpr hl)
    · rw [call_nif_ne _ _ _ hlk]
      exact hd.shared l hl
  · change Hotspot ((d.call k env op).1.nif .wifi)
    by_cases hk : k = .wifi
    · subst hk
      rw [call_nif_self]
      refine hotspot_of_transition hd.hotspot ht (fun s hs => ?_)
      subst hs
      exact hop
    · rw [call_nif_ne _ _ _ (Ne.symm hk)]
      exact hd.hotspot

/-- Whoever a call tells something is of the machine's kind. -/
theorem sorted_told (hd : SenderInv d) (hop : Sorted k op) {x : Subscriber} {msg : ClientMsg}
    (hin : .notify x msg ∈ ((d.nif k).perform env op).2) : x.isWifi = (k == .wifi) := by
  rcases (notify_of_transition (perform_transition (hd.sound k) env op) hin).1 with hx | rfl
  · by_cases hk : k = .wifi
    · subst hk
      exact hd.hotspot.kinds x hx
    · rw [(hd.shared k hk).kinds x hx]
      exact (beq_eq_false_iff_ne.mpr hk).symm
  · -- Or it has just asked, and asks the machine of its kind.
    exact hop

/-- A call on the WIFI machine is a piece of the session. -/
theorem sender_call_self {e : Env} {o : Op} (hd : SenderInv d) (hop : Sorted .wifi o) :
    wifiTalk.Leads (shown d.wifiNif i.toId).quiet
      (saidIn i.toId o ++ overheard (senderHeard i) (d.call .wifi e o).2)
      (shown (d.call .wifi e o).1.wifiNif i.toId).quiet := by
  -- There everybody told is a WIFI client, and hears about its sender.
  have hcaught : caught (senderHeard i) ((d.nif .wifi).perform e o).2 =
      heard i.toId ((d.nif .wifi).perform e o).2 := by
    unfold caught heard
    refine List.filterMap_congr (fun n hn => ?_)
    have hin := mem_noticesOf hn
    rcases (notify_of_transition (perform_transition (hd.sound .wifi) e o) hin).2 with
      ⟨status, hmsg⟩
    exact senderHeard_of_isWifi (sorted_told hd hop hin) hmsg
  rw [overheard_call, hcaught]
  exact wifi_transition hd.hotspot (perform_transition (hd.sound .wifi) e o)

/-- A call on another machine has no part in it. -/
theorem sender_call_ne (hd : SenderInv d) (hi : i ≠ .gpsoneDaemon) (hk : k ≠ .wifi)
    (hop : Sorted k op) :
    wifiTalk.Leads (shown d.wifiNif i.toId).quiet (overheard (senderHeard i) (d.call k env op).2)
      (shown (d.call k env op).1.wifiNif i.toId).quiet := by
  have hcaught : caught (senderHeard i) ((d.nif k).perform env op).2 = [] := by
    refine List.filterMap_eq_nil_iff.mpr (fun n hn => ?_)
    have hin := mem_noticesOf hn
    rcases (notify_of_transition (perform_transition (hd.sound k) env op) hin).2 with
      ⟨status, hmsg⟩
    exact senderHeard_of_not_isWifi hi
      ((sorted_told hd hop hin).trans (beq_eq_false_iff_ne.mpr hk)) hmsg
  have hsame : (d.call k env op).1.wifiNif = d.wifiNif := call_nif_ne d env op (Ne.symm hk)
  rw [overheard_call, hcaught, hsame]
  exact Monitor.leads_nil _

/-- What one message does, for a sender. -/
def SenderStep (i : SenderId) (d : LocEngData) (events : List SessionEvent)
    (r : LocEngData × List (NifId × Entry)) : Prop :=
  SenderInv r.1 ∧
    wifiTalk.Leads (shown d.wifiNif i.toId).quiet (events ++ overheard (senderHeard i) r.2)
      (shown r.1.wifiNif i.toId).quiet

theorem senderStep_nil (hd : SenderInv d) : SenderStep i d [] (d, []) := ⟨hd, Monitor.leads_nil _⟩

/-- A call by which no sender says anything. -/
theorem senderStep_call (hd : SenderInv d) (hi : i ≠ .gpsoneDaemon) (k : NifId) (env : Env) {o : Op}
    (hop : Sorted k o) (hsaid : k = .wifi → saidIn i.toId o = []) :
    SenderStep i d [] (d.call k env o) := by
  refine ⟨senderInv_call hd hop, ?_⟩
  by_cases hk : k = .wifi
  · subst hk
    have hself := sender_call_self (e := env) (i := i) hd hop
    rw [hsaid rfl] at hself
    exact hself
  · exact sender_call_ne hd hi hk hop

theorem senderInv_init (bearer : Int) : SenderInv (.init bearer) where
  shared := threadShared_init bearer
  hotspot := hotspot_init _ _

/-- The name and the bearer are no matter for it. -/
theorem senderInv_tune (hd : SenderInv d) (k : NifId) (bearer : Int) (apn : Option (List UInt8))
    (len : Nat) : SenderInv (d.setNif (((d.nif k).setBearer bearer).setAPN apn len) k) := by
  refine ⟨fun l hl => ?_, ?_⟩
  · by_cases hlk : l = k
    · subst hlk
      rw [nif_setNif_self]
      exact ⟨⟨(hd.shared l hl).sound.nodup, (hd.shared l hl).sound.fresh,
        (hd.shared l hl).sound.released⟩, (hd.shared l hl).many, (hd.shared l hl).kinds⟩
    · rw [nif_setNif_ne _ _ hlk]
      exact hd.shared l hl
  · change Hotspot ((d.setNif _ k).nif .wifi)
    by_cases hk : .wifi = k
    · subst hk
      rw [nif_setNif_self]
      exact hotspot_outcome (c := .setAPN apn len)
        (hotspot_outcome (c := .setBearer bearer) hd.hotspot trivial) trivial
    · rw [nif_setNif_ne _ _ hk]
      exact hd.hotspot

theorem senderStep_handle (hd : SenderInv d) (hi : i = .quipc ∨ i = .msapm) (env : MsgEnv)
    (msg : Msg) : SenderStep i d (senderSaid i msg) (handle d env msg) := by
  -- The default sender is told about BIT connections too, and is left out.
  have hne : i ≠ .gpsoneDaemon := by
    rcases hi with rfl | rfl
    · decide
    · decide
  cases msg with
  | requestBit ifType ipv4Addr ipv6Addr =>
      cases hk : bitNif ifType with
      | none =>
          simp only [handle, hk]
          exact senderStep_nil hd
      | some k =>
          simp only [handle, hk]
          have hwifi := bitNif_ne_wifi hk
          exact senderStep_call hd hne k _ (beq_eq_false_iff_ne.mpr hwifi).symm
            (fun hc => absurd hc hwifi)
  | releaseBit ifType ipv4Addr ipv6Addr =>
      cases hk : bitNif ifType with
      | none =>
          simp only [handle, hk]
          exact senderStep_nil hd
      | some k =>
          simp only [handle, hk]
          exact senderStep_call hd hne k _ trivial (fun hc => absurd hc (bitNif_ne_wifi hk))
  | requestAtl hdl type =>
      have hwifi := atlNif_ne_wifi type
      exact senderStep_call hd hne _ _ (beq_eq_false_iff_ne.mpr hwifi).symm
        (fun hc => absurd hc hwifi)
  | releaseAtl hdl =>
      rcases handle_releaseAtl (t := ⟨d, []⟩) hd.shared env hdl with ⟨_, heq⟩ | ⟨_, heq⟩
      · rw [heq]
        exact senderStep_call hd hne .agnss _ trivial (fun hc => absurd hc (by decide))
      · rw [heq]
        exact senderStep_call hd hne .internet _ trivial (fun hc => absurd hc (by decide))
  | requestWifi senderId ssid password =>
      simp only [handle]
      split
      · -- What the sender says is what its client says.
        have hsaid : senderSaid i (.requestWifi senderId ssid password) =
            saidIn i.toId (.subscribeRsrc (wifiSubscriber ssid password senderId)) :=
          (if_congr toId_eq_iff rfl rfl).symm
        rw [hsaid]
        exact ⟨senderInv_call hd rfl, sender_call_self hd rfl⟩
      · -- Another sender is turned away before it gets to the machine.
        rename_i hother
        have hsaid : senderSaid i (.requestWifi senderId ssid password) = [] :=
          if_neg (fun he : senderId = i => hother (by rw [he]; exact hi))
        rw [hsaid]
        exact senderStep_nil hd
  | releaseWifi senderId ssid password =>
      have hsaid : senderSaid i (.releaseWifi senderId ssid password) =
          saidIn i.toId (.unsubscribeRsrc (wifiSubscriber ssid password senderId)) :=
        (if_congr toId_eq_iff rfl rfl).symm
      rw [hsaid]
      exact ⟨senderInv_call hd trivial, sender_call_self hd trivial⟩
  | atlOpenSuccess agpsType apn length bearerType =>
      have htuned := senderInv_tune hd (statusNif agpsType) bearerType (some apn) length
      have hcall := senderStep_call (i := i) htuned hne (statusNif agpsType) env.first
        (o := .onRsrcEvent .granted) trivial (fun _ => rfl)
      refine ⟨hcall.1, ?_⟩
      have hshown : shown (d.setNif (((d.nif (statusNif agpsType)).setBearer bearerType).setAPN
          (some apn) length) (statusNif agpsType)).wifiNif i.toId = shown d.wifiNif i.toId := by
        by_cases hk : statusNif agpsType = .wifi
        · rw [hk]
          rfl
        · exact congrArg (shown · i.toId) (nif_setNif_ne d _ (Ne.symm hk))
      rw [← hshown]
      exact hcall.2
  | atlClosed agpsType => exact senderStep_call hd hne _ _ trivial (fun _ => rfl)
  | atlOpenFailed agpsType => exact senderStep_call hd hne _ _ trivial (fun _ => rfl)
  | engineUp =>
      by_cases hcb : d.agpsStatusCb = true
      · have hwifi := engineUp_nif_wifi d env
        have hquiet : overheard (senderHeard i) (handle d env .engineUp).2 = [] := by
          simp only [handle, hcb, if_true, overheard_append, overheard_drop, List.append_nil]
        -- The modem's return leaves the WIFI machine as it is.
        have hsame : (handle d env .engineUp).1.wifiNif = d.wifiNif := hwifi.1
        refine ⟨⟨fun k hk => ?_, by rw [hsame]; exact hd.hotspot⟩, ?_⟩
        · rw [(engineUp_nif d env hcb hk).1]
          exact ⟨sound_drop, (hd.shared k hk).many, fun x hx => absurd hx List.not_mem_nil⟩
        · rw [hquiet, hsame]
          exact Monitor.leads_nil _
      · simp only [handle, if_neg hcb]
        exact senderStep_nil hd

/-- What a WIFI sender says and hears is a session, and at its end the sender is
    where the machine shows it, whatever else the engine does and whoever else
    asks. -/
theorem wifi_conversations (bearer : Int) {msgs : List (MsgEnv × Msg)} {t : Thread}
    (hi : i = .quipc ∨ i = .msapm) (hrun : Run.exec Thread.step (.init bearer) msgs = some t) :
    wifiTalk.Leads Stage.absent.quiet
      (Run.collect Thread.step (conversation (senderSaid i) (senderHeard i)) (.init bearer) msgs)
      (shown t.data.wifiNif i.toId).quiet :=
  conversation_leads SenderInv (fun _ => True) (fun d => (shown d.wifiNif i.toId).quiet)
    (fun _ env msg _ hd => senderStep_handle hd hi env msg) (senderInv_init bearer)
    (fun _ _ => trivial) hrun

/-- Two senders, the second of which is turned away while the first is served,
    and a sender that asks again. -/
def twoSenders : List (MsgEnv × Msg) :=
  [(.zeros, .requestWifi .quipc none none), (.zeros, .requestWifi .msapm none none),
    (.zeros, .atlOpenSuccess AGPS_TYPE_WIFI [] 0 0), (.zeros, .requestWifi .quipc none none),
    (.zeros, .releaseWifi .quipc none none), (.zeros, .atlClosed AGPS_TYPE_WIFI)]

theorem wifi_conversations_twoSenders :
    ∃ t, Run.exec Thread.step (.init 0) twoSenders = some t ∧
      wifiTalk.Leads Stage.absent.quiet
        (Run.collect Thread.step (conversation (senderSaid .quipc) (senderHeard .quipc)) (.init 0)
          twoSenders) (shown t.data.wifiNif SenderId.quipc.toId).quiet :=
  ⟨_, rfl, wifi_conversations 0 (Or.inl rfl) rfl⟩

example : Run.collect Thread.step (conversation (senderSaid .quipc) (senderHeard .quipc)) (.init 0)
    twoSenders = [.ask, .granted, .ask, .denied, .leave, .closed] := by decide

example : Run.collect Thread.step (conversation (senderSaid .msapm) (senderHeard .msapm)) (.init 0)
    twoSenders = [.ask, .denied] := by decide

end Senders

end Eng

end Taoshan

import Taoshan.Conn.Control
import Taoshan.Eng.Conversations

/-!
# From a Client's Request to Its Answer

The whole way of a request of the daemon's clients and of the answers to it. A
client writes a control message to the pipe of the server. The server's thread
reads it and queues what its handler makes of it, in between what the modem and
the framework queue. The deferred action thread takes the messages up, one after
the other, and lets the machines answer, also those clients that have said
nothing for a while. An answer goes to the pipe of its addressee as a control
message of its own, and there the client reads it, when it does. Each of the
five makes its steps when it likes.

Nothing is lost on the way, doubled, or overtaken by what is behind it, and
nothing reaches the wrong client. What a WIFI client has written has been taken
up as far as the run has come, and what it has read is what it was told, as far
as it has read. In between lies a session of the machine (`wifiTalk`): the
client's messages are what is said in it and the answers are what is heard. From
any point on, the threads and the client alone can bring this to an end, where
all that was written is said and all that is heard is read (`requests_answered`).

A response is sent as the whole of a `ctrl_msgbuf`, of which two fields are set;
the rest is what was on the stack. The client is taken to read its pipe as the
server does. The pipes have room and do not fail, and nobody but these clients asks
for WIFI.

## Main definitions

* `cmsgbuf`, `dataConn`, `readReply`: A response, as it is sent and read.
* `Link`, `Label`, `step`: The clients, the two threads and what is between them.
* `requestOf`: What a control message asks for.
* `Linked`: What is known of each part of the way.

## Theorems

* `readReply_of_returns`: A response is read as it was meant.
* `linked_step`: What each step does.
* `linked_drain`: The way can be emptied.
* `requests_answered`: What a client has written and read is a session.
-/

namespace Taoshan

namespace Conn

namespace EndToEnd

open Agps Bytes Eng Run

/-- `GPSONE_LOC_API_RESPONSE`. -/
def GPSONE_LOC_API_RESPONSE : UInt8 := 0xF2

/-- `GPSONE_LOC_API_IF_REQUEST_SUCCESS` and the two that follow it. -/
def statusCode : IfStatus → Nat
  | .requestSuccess => 0xF0
  | .releaseSuccess => 0xF1
  | .failure => 0xF2

/-- The status that a `result` stands for. -/
def statusOf (result : Nat) : Option IfStatus :=
  if result = 0xF0 then some .requestSuccess
  else if result = 0xF1 then some .releaseSuccess
  else if result = 0xF2 then some .failure
  else none

theorem statusOf_statusCode (status : IfStatus) : statusOf (statusCode status) = some status := by
  cases status with
  | requestSuccess => rfl
  | releaseSuccess => rfl
  | failure => rfl

/-- The pipes that responses are written to. -/
inductive ReplyQ
  | quipc
  | msapm
  | locApiResp
  deriving DecidableEq

/-- The `switch` on `sender_id`. Others are sent nothing. -/
def replyQ : SenderId → Option ReplyQ
  | .quipc => some .quipc
  | .msapm => some .msapm
  | .gpsoneDaemon => some .locApiResp
  | .modem => none
  | .unknown => none

section Response

variable (k : Nat)

/-- `cmsgbuf`, on a stack that holds anything. -/
def cmsgbuf (stack : Mem) (status : IfStatus) : List UInt8 :=
  peek (poke (poke stack (k + 8) [GPSONE_LOC_API_RESPONSE]) (typeOff k)
    (encode 4 (statusCode status))) 0 (ctrlMsgSize k)

/-- `loc_eng_dmn_conn_loc_api_server_data_conn`, for the pipe of a sender. -/
def dataConn (stack : Mem) (status : IfStatus) (s : Sys k) : Sys k :=
  { s with
    stream := (msgsnd k fifoWrite s.stream (cmsgbuf k stack status)).2
    sent := s.sent ++ [cmsgbuf k stack status] }

/-- So many responses, each with what is on the stack then. -/
def respond : (Nat → Mem) → List IfStatus → Sys k → Sys k
  | _, [], s => s
  | stack, status :: statuses, s =>
      respond (fun n => stack (n + 1)) statuses (dataConn k (stack 0) status s)

/-- What a client finds in a response: its `ctrl_type` and its `result`. -/
def readReply (call : Call) : Option IfStatus :=
  if ctrlTypeOf k call.mem = GPSONE_LOC_API_RESPONSE then statusOf (enumAt call.mem (typeOff k))
  else none

end Response

/-- What the sender of a pipe is told. -/
def toldTo (q : ReplyQ) (log : List (NifId × Entry)) : List IfStatus :=
  log.filterMap fun e => match e.2 with
    | .effect (.notify _ (.dataConn senderId status)) =>
        if replyQ senderId = some q then some status else none
    | _ => none

/-- The messages that only the clients of the daemon send. -/
def ofClients : Msg → Bool
  | .requestBit _ _ _ => true
  | .releaseBit _ _ _ => true
  | .requestWifi _ _ _ => true
  | .releaseWifi _ _ _ => true
  | _ => false

/-- A message of the machines. -/
def machineMsg : EngMsg → Option Msg
  | .nif msg => some msg
  | _ => none

/-- What `loc_api_server_proc` queues for what it has received. -/
def queuedFor (k : Nat) (call : Call) : List Msg :=
  if call.ret.toInt ≤ 0 then []
  else (posts k true (handlerOf (ctrlTypeOf k call.mem)) call.mem).filterMap fun p =>
    machineMsg p.2

/-- What a control message asks for. -/
def requestOf (k : Nat) (msg : List UInt8) : List Msg :=
  queuedFor k ⟨BitVec.ofNat 32 msg.length, poke (fun _ => 0) 0 (frame k msg)⟩

/-- The pipe of the server with the clients and the server's thread, the queue of
    the deferred action thread, the thread, and the pipes of the clients. -/
structure Link (k : Nat) where
  control : Sys k
  deferredQ : List Msg
  thread : Thread
  replies : ReplyQ → Sys k

/-- Before the first request. -/
def Link.init (k : Nat) (mBearer : Int) : Link k :=
  ⟨idleSys k, [], .init mBearer, fun _ => idleSys k⟩

/-- A client writes a message, the server's thread reads, the modem or the
    framework queues a message, the deferred action thread takes one up, a client
    reads. -/
inductive Label
  | write (msg : List UInt8)
  | serve (a : Action)
  | post (msg : Msg)
  | take (env : MsgEnv) (stack : ReplyQ → Nat → Mem)
  | read (q : ReplyQ) (a : Action)

/-- The steps, where the server has a buffer of `cap` bytes and the clients have
    one of `clientCap`. -/
def step (k : Nat) (cap clientCap : SizeT k) (s : Link k) : Label → Option (Link k)
  | .write msg => (Conn.step k cap s.control (.send msg)).map fun c => { s with control := c }
  | .serve (.send _) => none
  | .serve a => (Conn.step k cap s.control a).map fun c =>
      { s with
        control := c
        -- A call that is over has its message handled.
        deferredQ := s.deferredQ ++
          (c.calls.drop s.control.calls.length).flatMap (queuedFor k) }
  | .post msg =>
      if ofClients msg then none else some { s with deferredQ := s.deferredQ ++ [msg] }
  | .take env stack => match s.deferredQ with
    | [] => none
    | msg :: rest =>
        let r := handle s.thread.data env msg
        some { s with
          deferredQ := rest
          thread := ⟨r.1, s.thread.log ++ r.2⟩
          replies := fun q => respond k (stack q) (toldTo q r.2) (s.replies q) }
  | .read _ (.send _) => none
  | .read q a => (Conn.step k clientCap (s.replies q) a).map fun c =>
      { s with replies := Function.update s.replies q c }

/-- What the deferred action thread takes up in a step. -/
def takenBy {k : Nat} (s : Link k) : Label → List (MsgEnv × Msg)
  | .take env _ => s.deferredQ.head?.toList.map fun msg => (env, msg)
  | _ => []

section Layout

variable {k : Nat}

theorem length_cmsgbuf (stack : Mem) (status : IfStatus) :
    (cmsgbuf k stack status).length = ctrlMsgSize k := peek_length _ _ _

end Layout

section Reading

variable {k : Nat}

/-- Behind the size, what was received is what was sent. -/
theorem Returns.mem {call : Call} {msg : List UInt8} (h : Returns k call msg) {i : Nat}
    (hlo : k ≤ i) (hhi : i < msg.length) : some (call.mem i) = msg[i]? := by
  have hbytes : (peek call.mem 0 msg.length)[i]? = some (call.mem i) := by
    unfold peek
    rw [List.getElem?_map, List.getElem?_range hhi, Option.map_some, Nat.zero_add]
  rw [← hbytes, h.bytes]
  unfold frame
  rw [List.getElem?_append_right (by rw [encode_length]; exact hlo), encode_length,
    List.getElem?_drop, Nat.add_sub_cancel' hlo]

/-- A response is read as it was meant. -/
theorem readReply_of_returns (hk : 0 < k) {call : Call} {stack : Mem} {status : IfStatus}
    (h : Returns k call (cmsgbuf k stack status)) : readReply k call = some status := by
  have htype := lt_typeOff hk
  have hsize := typeOff_le_size hk
  -- What the client has in its buffer is what was on the stack.
  have hmem : ∀ i, k ≤ i → i < ctrlMsgSize k → call.mem i =
      poke (poke stack (k + 8) [GPSONE_LOC_API_RESPONSE]) (typeOff k)
        (encode 4 (statusCode status)) i := by
    intro i hlo hhi
    have hsome := Returns.mem h hlo (by rw [length_cmsgbuf]; exact hhi)
    unfold cmsgbuf peek at hsome
    rw [List.getElem?_map, List.getElem?_range hhi, Option.map_some, Nat.zero_add] at hsome
    exact Option.some.inj hsome
  have hctrl : ctrlTypeOf k call.mem = GPSONE_LOC_API_RESPONSE := by
    unfold ctrlTypeOf
    rw [hmem _ (by omega) (by omega), poke_outside _ (Or.inl htype), poke_singleton_self]
  have hresult : enumAt call.mem (typeOff k) = statusCode status := by
    unfold enumAt
    rw [peek_congr (m := poke (poke stack (k + 8) [GPSONE_LOC_API_RESPONSE]) (typeOff k)
      (encode 4 (statusCode status))) fun i hlo hhi => hmem i (by omega) (by omega)]
    have hpeek := peek_poke_self (poke stack (k + 8) [GPSONE_LOC_API_RESPONSE]) (typeOff k)
      (encode 4 (statusCode status))
    rw [encode_length] at hpeek
    rw [hpeek]
    refine decode_encode ?_
    cases status with
    | requestSuccess => decide
    | releaseSuccess => decide
    | failure => decide
  unfold readReply
  rw [if_pos hctrl, hresult]
  exact statusOf_statusCode status

/-- A control message that covers what is read of it is queued as what it asks
    for, whatever was in the buffer. -/
theorem queuedFor_of_returns {call : Call} {msg : List UInt8} (h : Returns k call msg)
    (hlen : k ≤ msg.length) (hcovers : Covers k true (frame k msg)) :
    queuedFor k call = requestOf k msg := by
  have hframe : (frame k msg).length = msg.length := by
    unfold frame
    rw [List.length_append, encode_length, List.length_drop]
    omega
  have hmem : call.mem = poke call.mem 0 (frame k msg) := by
    funext i
    rw [poke_zero]
    by_cases hi : i < msg.length
    · have hbytes : (peek call.mem 0 msg.length)[i]? = some (call.mem i) := by
        unfold peek
        rw [List.getElem?_map, List.getElem?_range hi, Option.map_some, Nat.zero_add]
      rw [← h.bytes, hbytes, Option.getD_some]
    · rw [List.getElem?_eq_none (by omega), Option.getD_none]
  rcases same_of_covers hcovers call.mem (fun _ => 0) with ⟨hhandler, hposts⟩
  unfold requestOf queuedFor
  rw [h.ret]
  rw [← hmem] at hhandler hposts
  rw [hposts]

end Reading

section Pipes

variable {k : Nat} {cap : SizeT k} {s t : Sys k} {done pending : List (List UInt8)}

/-- A read sends nothing. -/
theorem sent_of_isRead {a : Action} (ha : a.IsRead) (h : Conn.step k cap s a = some t) :
    t.sent = s.sent := by
  cases a with
  | send msg => exact absurd ha id
  | readHeader mem =>
      unfold Conn.step at h
      cases hphase : s.phase with
      | body m n => simp only [hphase, reduceCtorEq] at h
      | idle =>
          simp only [hphase, Option.ite_none_left_eq_some] at h
          rcases hafter : afterHeader k mem (plainRead s.stream k).1 cap with ⟨m, _ | count⟩
          · simp only [hafter, Option.some.injEq] at h
            rw [← h.2]
          · simp only [hafter, Option.some.injEq] at h
            rw [← h.2]
  | readBody =>
      unfold Conn.step at h
      cases hphase : s.phase with
      | idle => simp only [hphase, reduceCtorEq] at h
      | body m n =>
          simp only [hphase, Option.ite_none_left_eq_some, Option.some.injEq] at h
          rw [← h.2]

/-- A second read ends a call. -/
theorem calls_of_readBody (h : Conn.step k cap s .readBody = some t) :
    ∃ call, t.calls = s.calls ++ [call] := by
  unfold Conn.step at h
  cases hphase : s.phase with
  | idle => simp only [hphase, reduceCtorEq] at h
  | body m n =>
      simp only [hphase, Option.ite_none_left_eq_some, Option.some.injEq] at h
      rw [← h.2]
      exact ⟨_, rfl⟩

/-- Nothing is pending in an empty pipe between two calls. -/
theorem Framed.pending_nil (hk : 0 < k) (h : Framed cap s done pending) (hidle : s.phase = .idle)
    (hempty : s.stream = []) : pending = [] := by
  have hb := h.boundary
  rw [hidle, AtBoundary, hempty] at hb
  cases pending with
  | nil => rfl
  | cons msg rest =>
      have hlen := congrArg List.length hb
      rw [List.flatMap_cons, List.length_append] at hlen
      unfold frame at hlen
      rw [List.length_append, encode_length, List.length_nil] at hlen
      omega

/-- A message is a response that means this. -/
def IsResponse (k : Nat) (msg : List UInt8) (status : IfStatus) : Prop :=
  ∃ stack, msg = cmsgbuf k stack status

/-- The responses go behind what is in the pipe. -/
theorem respond_framed (hk : 0 < k) (hcap : ctrlMsgSize k ≤ cap.toNat) (stack : Nat → Mem)
    (statuses : List IfStatus) (h : Framed cap s done pending) :
    ∃ more, Framed cap (respond k stack statuses s) done (pending ++ more) ∧
      (respond k stack statuses s).sent = s.sent ++ more ∧
      List.Forall₂ (IsResponse k) more statuses := by
  induction statuses generalizing stack s pending with
  | nil =>
      refine ⟨[], ?_, (List.append_nil _).symm, List.Forall₂.nil⟩
      rw [List.append_nil]
      exact h
  | cons status statuses ih =>
      have hsize := typeOff_le_size hk
      have htype := lt_typeOff hk
      -- A response fits the buffer of whoever reads it.
      have hfits : Fits k cap (cmsgbuf k (stack 0) status) := by
        unfold Fits
        rw [length_cmsgbuf]
        omega
      have hsend : Conn.step k cap s (.send (cmsgbuf k (stack 0) status)) =
          some (dataConn k (stack 0) status s) := if_pos hfits
      rcases ih (fun n => stack (n + 1)) (framed_send h hsend) with ⟨more, hframed, hsent, hall⟩
      refine ⟨cmsgbuf k (stack 0) status :: more, ?_, ?_, List.Forall₂.cons ⟨stack 0, rfl⟩ hall⟩
      · rw [List.append_assoc, List.singleton_append] at hframed
        exact hframed
      · rw [respond, hsent]
        exact List.append_assoc _ _ _

/-- What has been read is what was meant, so far. -/
theorem read_of_framed (hk : 0 < k) (h : Framed cap s done pending) {statuses : List IfStatus}
    (hsent : List.Forall₂ (IsResponse k) s.sent statuses) :
    ∃ unread, statuses.map some = s.calls.map (readReply k) ++ unread ∧
      (pending = [] → unread = []) := by
  have hcalls := h.calls
  rw [h.sent] at hsent
  have hfirst := (List.forall₂_take_append _ _ _ hsent.flip).flip
  have hrest := (List.forall₂_drop_append _ _ _ hsent.flip).flip
  refine ⟨(statuses.drop done.length).map some, ?_, fun hnil => ?_⟩
  · -- What has been read was sent, and what was sent was meant.
    have hread : s.calls.map (readReply k) = (statuses.take done.length).map some := by
      refine List.ext_getElem ?_ fun i hi hi' => ?_
      · rw [List.length_map, List.length_map]
        exact hcalls.length_eq.trans hfirst.length_eq
      · rw [List.length_map] at hi hi'
        rw [List.getElem_map, List.getElem_map]
        have hlt : i < done.length := hcalls.length_eq ▸ hi
        have hreturns := hcalls.get hi hlt
        rcases hfirst.get hlt hi' with ⟨stack, hmsg⟩
        simp only [List.get_eq_getElem] at hreturns hmsg
        rw [hmsg] at hreturns
        exact readReply_of_returns hk hreturns
    rw [hread, ← List.map_append, List.take_append_drop]
  · rw [hnil] at hrest
    rw [List.forall₂_nil_left_iff.mp hrest]
    rfl

end Pipes

section Steps

variable {k : Nat} {cap clientCap : SizeT k} {s t : Link k} {l : Label} {mBearer : Int}
  {taken : List (MsgEnv × Msg)}

theorem toldTo_append (q : ReplyQ) (xs ys : List (NifId × Entry)) :
    toldTo q (xs ++ ys) = toldTo q xs ++ toldTo q ys := List.filterMap_append

/-- What the server has read is in the queue or taken up, as what it asks for,
    if all of it could be read. -/
structure Served (cap : SizeT k) (control : Sys k) (msgs : List Msg)
    (done pending : List (List UInt8)) : Prop where
  framed : Framed cap control done pending
  asked : (∀ msg ∈ done, Covers k true (frame k msg)) →
    msgs.filter ofClients = (done.flatMap (requestOf k)).filter ofClients

/-- What the sender of a pipe was told has been written to it. -/
structure Replied (clientCap : SizeT k) (pipe : Sys k) (statuses : List IfStatus)
    (done pending : List (List UInt8)) : Prop where
  framed : Framed clientCap pipe done pending
  told : List.Forall₂ (IsResponse k) pipe.sent statuses

/-- What is known of each part of the way. -/
structure Linked (mBearer : Int) (cap clientCap : SizeT k) (taken : List (MsgEnv × Msg))
    (s : Link k) : Prop where
  control : ∃ done pending,
    Served cap s.control (taken.map Prod.snd ++ s.deferredQ) done pending
  replies : ∀ q, ∃ done pending,
    Replied clientCap (s.replies q) (toldTo q s.thread.log) done pending
  thread : exec Thread.step (.init mBearer) taken = some s.thread

theorem linked_init (mBearer : Int) (cap clientCap : SizeT k) :
    Linked mBearer cap clientCap [] (.init k mBearer) where
  control := ⟨[], [], framed_idleSys cap, fun _ => rfl⟩
  replies _ := ⟨[], [], framed_idleSys clientCap, List.Forall₂.nil⟩
  thread := rfl

/-- A read of the server is one of its pipe, and a call that is over is handled. -/
theorem serve_inv {a : Action} (h : step k cap clientCap s (.serve a) = some t) :
    a.IsRead ∧ ∃ c, Conn.step k cap s.control a = some c ∧ t = { s with
      control := c
      deferredQ := s.deferredQ ++
        (c.calls.drop s.control.calls.length).flatMap (queuedFor k) } := by
  cases a with
  | send msg => exact absurd h (Option.some_ne_none t).symm
  | readHeader mem =>
      rcases Option.map_eq_some_iff.mp h with ⟨c, hc, rfl⟩
      exact ⟨trivial, c, hc, rfl⟩
  | readBody =>
      rcases Option.map_eq_some_iff.mp h with ⟨c, hc, rfl⟩
      exact ⟨trivial, c, hc, rfl⟩

theorem read_inv {q : ReplyQ} {a : Action} (h : step k cap clientCap s (.read q a) = some t) :
    a.IsRead ∧ ∃ c, Conn.step k clientCap (s.replies q) a = some c ∧
      t = { s with replies := Function.update s.replies q c } := by
  cases a with
  | send msg => exact absurd h (Option.some_ne_none t).symm
  | readHeader mem =>
      rcases Option.map_eq_some_iff.mp h with ⟨c, hc, rfl⟩
      exact ⟨trivial, c, hc, rfl⟩
  | readBody =>
      rcases Option.map_eq_some_iff.mp h with ⟨c, hc, rfl⟩
      exact ⟨trivial, c, hc, rfl⟩

theorem take_inv {env : MsgEnv} {stack : ReplyQ → Nat → Mem}
    (h : step k cap clientCap s (.take env stack) = some t) :
    ∃ msg rest, s.deferredQ = msg :: rest ∧ t = { s with
      deferredQ := rest
      thread := ⟨(handle s.thread.data env msg).1,
        s.thread.log ++ (handle s.thread.data env msg).2⟩
      replies := fun q =>
        respond k (stack q) (toldTo q (handle s.thread.data env msg).2) (s.replies q) } := by
  cases hqueue : s.deferredQ with
  | nil => simp only [step, hqueue, reduceCtorEq] at h
  | cons msg rest =>
      simp only [step, hqueue, Option.some.injEq] at h
      exact ⟨msg, rest, rfl, h.symm⟩

/-- The server goes on reading, and what it has read is queued. -/
theorem served_serve (hk : 0 < k) (hint : k < 2 ^ 31) {a : Action} {control c : Sys k}
    {msgs : List Msg} {done pending : List (List UInt8)} (h : Served cap control msgs done pending)
    (ha : a.IsRead) (hc : Conn.step k cap control a = some c) :
    ∃ done pending, Served cap c
      (msgs ++ (c.calls.drop control.calls.length).flatMap (queuedFor k)) done pending := by
  have hcalls := h.framed.calls
  cases a with
  | send msg => exact absurd ha id
  | readHeader mem =>
      have hframed := framed_readHeader hk hint h.framed hc
      -- No call is over yet.
      have hnone : c.calls.drop control.calls.length = [] := by
        rw [hcalls.length_eq, ← hframed.calls.length_eq, List.drop_length]
      rw [hnone, List.flatMap_nil, List.append_nil]
      exact ⟨done, pending, hframed, h.asked⟩
  | readBody =>
      rcases framed_readBody h.framed hc with ⟨msg, rest, rfl, hframed⟩
      rcases calls_of_readBody hc with ⟨call, hcall⟩
      -- The call that is over is the last one, for the message that was next.
      have hreturns : Returns k call msg := by
        have hall := hframed.calls
        rw [hcall] at hall
        have hlast := List.forall₂_drop_append _ _ _ hall
        rw [← hcalls.length_eq, List.drop_left] at hlast
        exact (List.forall₂_cons.mp hlast).1
      refine ⟨done ++ [msg], rest, hframed, fun hcovers => ?_⟩
      have hold := h.asked fun m hm => hcovers m (List.mem_append_left _ hm)
      have hlen : k ≤ msg.length := (h.framed.fits msg (by
        rw [h.framed.sent]
        exact List.mem_append_right _ List.mem_cons_self)).1
      have hnew := queuedFor_of_returns hreturns hlen
        (hcovers msg (List.mem_append_right _ List.mem_cons_self))
      rw [hcall, List.drop_left, List.flatMap_singleton, hnew, List.flatMap_append,
        List.flatMap_singleton, List.filter_append, List.filter_append, hold]

/-- What each step does. -/
theorem linked_step (hk : 0 < k) (hint : k < 2 ^ 31) (hcap : ctrlMsgSize k ≤ clientCap.toNat)
    (h : Linked mBearer cap clientCap taken s) (hs : step k cap clientCap s l = some t) :
    Linked mBearer cap clientCap (taken ++ takenBy s l) t := by
  rcases h.control with ⟨done, pending, hserved⟩
  cases l with
  | write msg =>
      rcases Option.map_eq_some_iff.mp hs with ⟨c, hc, rfl⟩
      have hnone : taken ++ takenBy s (.write msg) = taken := List.append_nil _
      rw [hnone]
      exact ⟨⟨done, pending ++ [msg], framed_send hserved.framed hc, hserved.asked⟩, h.replies,
        h.thread⟩
  | serve a =>
      rcases serve_inv hs with ⟨ha, c, hc, rfl⟩
      have hnone : taken ++ takenBy s (.serve a) = taken := List.append_nil _
      rw [hnone]
      refine ⟨?_, h.replies, h.thread⟩
      have hnext := served_serve hk hint hserved ha hc
      rw [List.append_assoc] at hnext
      exact hnext
  | post msg =>
      simp only [step, Option.ite_none_left_eq_some, Option.some.injEq] at hs
      rcases hs with ⟨hother, rfl⟩
      have hnone : taken ++ takenBy s (.post msg) = taken := List.append_nil _
      rw [hnone]
      refine ⟨⟨done, pending, hserved.framed, fun hcovers => ?_⟩, h.replies, h.thread⟩
      rw [← List.append_assoc, List.filter_append, hserved.asked hcovers,
        List.filter_cons_of_neg hother, List.filter_nil, List.append_nil]
  | take env stack =>
      rcases take_inv hs with ⟨msg, rest, hqueue, rfl⟩
      have htaken : takenBy s (.take env stack) = [(env, msg)] := by
        rw [takenBy, hqueue]
        rfl
      rw [htaken]
      refine ⟨⟨done, pending, hserved.framed, fun hcovers => ?_⟩, fun q => ?_, ?_⟩
      · have hold := hserved.asked hcovers
        rw [hqueue] at hold
        rw [List.map_append, List.append_assoc]
        exact hold
      · rcases h.replies q with ⟨done, pending, hreplied⟩
        rcases respond_framed hk hcap (stack q) (toldTo q (handle s.thread.data env msg).2)
          hreplied.framed with ⟨more, hframed, hsent, hmore⟩
        refine ⟨done, pending ++ more, hframed, ?_⟩
        rw [toldTo_append, hsent]
        exact List.rel_append hreplied.told hmore
      · rw [exec_append _ h.thread]
        rfl
  | read q a =>
      rcases read_inv hs with ⟨ha, c, hc, rfl⟩
      have hnone : taken ++ takenBy s (.read q a) = taken := List.append_nil _
      rw [hnone]
      refine ⟨⟨done, pending, hserved⟩, fun r => ?_, h.thread⟩
      rcases h.replies r with ⟨done, pending, hreplied⟩
      -- A read changes its own pipe only.
      by_cases hr : r = q
      · subst hr
        simp only [Function.update_self]
        rcases framed_step hk hint hreplied.framed hc with ⟨done', pending', hframed⟩
        refine ⟨done', pending', hframed, ?_⟩
        rw [sent_of_isRead ha hc]
        exact hreplied.told
      · simp only [Function.update_of_ne hr]
        exact ⟨done, pending, hreplied⟩

end Steps

section Drain

variable {k : Nat} {cap clientCap : SizeT k} {s t : Link k} {mBearer : Int}
  {taken : List (MsgEnv × Msg)}

/-- A step of the two threads or of a client that reads. -/
def Label.Finishing : Label → Prop
  | .write _ => False
  | .serve _ => True
  | .post _ => False
  | .take _ _ => True
  | .read _ _ => True

/-- Everything has been read, and no call is under way. -/
def Empty (p : Sys k) : Prop := p.phase = .idle ∧ p.stream = []

theorem Framed.empty {p : Sys k} {done : List (List UInt8)} (h : Framed cap p done [])
    (hidle : p.phase = .idle) : Empty p := by
  have hb := h.boundary
  rw [hidle] at hb
  exact ⟨hidle, hb⟩

/-- What the server can read of its pipe, it can read here. -/
theorem exec_serve (clientCap : SizeT k) {reads : List Action} {c : Sys k}
    (hreads : ∀ a ∈ reads, a.IsRead)
    (h : exec (Conn.step k cap) s.control reads = some c) :
    ∃ t, exec (step k cap clientCap) s (reads.map .serve) = some t ∧ t.control = c := by
  induction reads generalizing s with
  | nil => exact ⟨s, rfl, Option.some.inj h⟩
  | cons a as ih =>
      rcases exec_cons_inv h with ⟨u, hu, hrest⟩
      have hserve : step k cap clientCap s (.serve a) = some { s with
          control := u
          deferredQ := s.deferredQ ++
            (u.calls.drop s.control.calls.length).flatMap (queuedFor k) } := by
        cases a with
        | send msg => exact absurd (hreads _ List.mem_cons_self) id
        | readHeader mem => exact Option.map_eq_some_iff.mpr ⟨u, hu, rfl⟩
        | readBody => exact Option.map_eq_some_iff.mpr ⟨u, hu, rfl⟩
      rcases ih (fun b hb => hreads b (List.mem_cons_of_mem _ hb))
        (s := { s with
          control := u
          deferredQ := s.deferredQ ++
            (u.calls.drop s.control.calls.length).flatMap (queuedFor k) }) hrest with
        ⟨t, hexec, ht⟩
      refine ⟨t, ?_, ht⟩
      rw [List.map_cons, exec_cons_of_step _ hserve]
      exact hexec

/-- And what a client can read of its own. -/
theorem exec_read (cap : SizeT k) {q : ReplyQ} {reads : List Action} {c : Sys k}
    (hreads : ∀ a ∈ reads, a.IsRead)
    (h : exec (Conn.step k clientCap) (s.replies q) reads = some c) :
    exec (step k cap clientCap) s (reads.map (.read q)) =
      some { s with replies := Function.update s.replies q c } := by
  induction reads generalizing s with
  | nil =>
      rw [← Option.some.inj h, Function.update_eq_self]
      rfl
  | cons a as ih =>
      rcases exec_cons_inv h with ⟨u, hu, hrest⟩
      have hread : step k cap clientCap s (.read q a) =
          some { s with replies := Function.update s.replies q u } := by
        cases a with
        | send msg => exact absurd (hreads _ List.mem_cons_self) id
        | readHeader mem => exact Option.map_eq_some_iff.mpr ⟨u, hu, rfl⟩
        | readBody => exact Option.map_eq_some_iff.mpr ⟨u, hu, rfl⟩
      have hnext := ih (fun b hb => hreads b (List.mem_cons_of_mem _ hb))
        (s := { s with replies := Function.update s.replies q u })
        (by simp only [Function.update_self]; exact hrest)
      rw [List.map_cons, exec_cons_of_step _ hread, hnext, Function.update_idem]

/-- The thread can take up all that is queued. -/
theorem exec_take (cap clientCap : SizeT k) (s : Link k) :
    ∃ takes t, (∀ l ∈ takes, l.Finishing) ∧ exec (step k cap clientCap) s takes = some t ∧
      t.control = s.control ∧ t.deferredQ = [] := by
  induction hqueue : s.deferredQ generalizing s with
  | nil => exact ⟨[], s, fun _ hl => absurd hl List.not_mem_nil, rfl, rfl, hqueue⟩
  | cons msg rest ih =>
      have htake : step k cap clientCap s (.take .zeros fun _ _ _ => 0) = some { s with
          deferredQ := rest
          thread := ⟨(handle s.thread.data .zeros msg).1,
            s.thread.log ++ (handle s.thread.data .zeros msg).2⟩
          replies := fun q => respond k (fun _ _ => 0)
            (toldTo q (handle s.thread.data .zeros msg).2) (s.replies q) } := by
        simp only [step, hqueue]
      rcases ih { s with
          deferredQ := rest
          thread := ⟨(handle s.thread.data .zeros msg).1,
            s.thread.log ++ (handle s.thread.data .zeros msg).2⟩
          replies := fun q => respond k (fun _ _ => 0)
            (toldTo q (handle s.thread.data .zeros msg).2) (s.replies q) } rfl with
        ⟨takes, t, htakes, hexec, hcontrol, hempty⟩
      refine ⟨.take .zeros (fun _ _ _ => 0) :: takes, t, fun l hl => ?_, ?_, hcontrol, hempty⟩
      · rcases List.mem_cons.mp hl with rfl | hl
        · exact trivial
        · exact htakes l hl
      · rw [exec_cons_of_step _ htake]
        exact hexec

theorem linked_exec (hk : 0 < k) (hint : k < 2 ^ 31) (hcap : ctrlMsgSize k ≤ clientCap.toNat)
    {labels : List Label} (h : Linked mBearer cap clientCap taken s)
    (hexec : exec (step k cap clientCap) s labels = some t) :
    Linked mBearer cap clientCap
      (taken ++ collect (step k cap clientCap) takenBy s labels) t := by
  refine exec_collected (fun more t => Linked mBearer cap clientCap (taken ++ more) t) ?_ ?_ hexec
  · intro more s l t hs hstep
    rw [← List.append_assoc]
    exact linked_step hk hint hcap hs hstep
  · rw [List.append_nil]
    exact h

/-- From anywhere, the two threads and a client can empty the way to and from
    it. -/
theorem linked_drain (hk : 0 < k) (hint : k < 2 ^ 31) (hcap : ctrlMsgSize k ≤ clientCap.toNat)
    (h : Linked mBearer cap clientCap taken s) (q : ReplyQ) :
    ∃ more t, (∀ l ∈ more, l.Finishing) ∧ exec (step k cap clientCap) s more = some t ∧
      t.control.sent = s.control.sent ∧ Empty t.control ∧ t.deferredQ = [] ∧
      Empty (t.replies q) := by
  rcases h.control with ⟨done, pending, hserved⟩
  -- First the server's pipe, then the queue, then the client's pipe.
  rcases framed_drain hk hint hserved.framed with ⟨reads, c, hreads, hc, hframed, hidle, hsent⟩
  rcases exec_serve clientCap hreads hc with ⟨u, hu, rfl⟩
  rcases exec_take cap clientCap u with
    ⟨takes, v, htakes, hv, hcontrol, hempty⟩
  have hlinked := linked_exec hk hint hcap (linked_exec hk hint hcap h hu) hv
  rcases hlinked.replies q with ⟨done', pending', hreplied⟩
  rcases framed_drain hk hint hreplied.framed with ⟨reads', c', hreads', hc', hframed', hidle', _⟩
  have hlast := exec_read cap hreads' hc'
  refine ⟨reads.map .serve ++ takes ++ reads'.map (.read q),
    { v with replies := Function.update v.replies q c' }, ?_,
    (exec_append _ ((exec_append _ hu).trans hv)).trans hlast, ?_, ?_, hempty, ?_⟩
  · intro l hl
    rcases List.mem_append.mp hl with hl | hl
    · rcases List.mem_append.mp hl with hl | hl
      · rcases List.mem_map.mp hl with ⟨a, _, rfl⟩
        exact trivial
      · exact htakes l hl
    · rcases List.mem_map.mp hl with ⟨a, _, rfl⟩
      exact trivial
  · change v.control.sent = s.control.sent
    rw [hcontrol]
    exact hsent
  · change Empty v.control
    rw [hcontrol]
    exact Framed.empty hframed hidle
  · change Empty (Function.update v.replies q c' q)
    rw [Function.update_self]
    exact Framed.empty hframed' hidle'

end Drain

section Sessions

variable {k : Nat} {cap clientCap : SizeT k} {s t : Link k} {mBearer : Int}
  {taken : List (MsgEnv × Msg)} {i : SenderId} {q : ReplyQ}

/-- Something that a client says, and not something that it hears. -/
def isSaid : SessionEvent → Bool
  | .ask => true
  | .leave => true
  | _ => false

/-- What a client makes of a status. -/
def answer (status : IfStatus) : SessionEvent := eventOf (.dataConn .unknown status)

/-- What a WIFI client has said by the messages that were written. -/
def wrote (i : SenderId) (s : Link k) : List SessionEvent :=
  (s.control.sent.flatMap (requestOf k)).flatMap (senderSaid i)

/-- What has been read from a pipe. -/
def hasRead (q : ReplyQ) (s : Link k) : List (Option SessionEvent) :=
  (s.replies q).calls.map fun call => (readReply k call).map answer

/-- What a WIFI client has said and heard at its machine. -/
def talk (mBearer : Int) (i : SenderId) (taken : List (MsgEnv × Msg)) : List SessionEvent :=
  collect Thread.step (conversation (senderSaid i) (senderHeard i)) (.init mBearer) taken

/-- Only a client of the daemon is a WIFI client. -/
theorem senderSaid_of_not_ofClients {msg : Msg} (h : ofClients msg = false) :
    senderSaid i msg = [] := by
  cases msg with
  | requestWifi senderId ssid password => exact absurd h.symm Bool.false_ne_true
  | releaseWifi senderId ssid password => exact absurd h.symm Bool.false_ne_true
  | _ => rfl

theorem said_filter (msgs : List Msg) :
    (msgs.filter ofClients).flatMap (senderSaid i) = msgs.flatMap (senderSaid i) := by
  induction msgs with
  | nil => rfl
  | cons msg msgs ih =>
      cases h : ofClients msg with
      | false =>
          rw [List.filter_cons_of_neg (by rw [h]; decide), List.flatMap_cons,
            senderSaid_of_not_ofClients h, List.nil_append, ih]
      | true => rw [List.filter_cons_of_pos h, List.flatMap_cons, List.flatMap_cons, ih]

/-- What a client hears is what is written to its pipe. -/
theorem overheard_eq (hq : ∀ senderId, replyQ senderId = some q ↔ senderId = i)
    (log : List (NifId × Entry)) :
    overheard (senderHeard i) log = (toldTo q log).map answer := by
  unfold overheard toldTo
  rw [List.map_filterMap]
  refine List.filterMap_congr fun e _ => ?_
  rcases e with ⟨j, entry⟩
  cases entry with
  | handled st event => rfl
  | effect eff =>
      cases eff with
      | servicer r => rfl
      | suppressed action => rfl
      | deleteObj obj => rfl
      | notify x msg =>
          cases msg with
          | atlOpenStatus handle isSucc apn bearer agpsType => rfl
          | atlCloseStatus handle isSucc => rfl
          | dataConn senderId status =>
              have hevent : eventOf (.dataConn senderId status) = answer status := by
                cases status with
                | requestSuccess => rfl
                | releaseSuccess => rfl
                | failure => rfl
              -- Each sender has a pipe of its own.
              by_cases h : senderId = i
              · simp only [senderHeard, if_pos h, if_pos ((hq senderId).mpr h), Option.map_some,
                  hevent]
              · have hne : ¬ replyQ senderId = some q := fun heq => h ((hq senderId).mp heq)
                simp only [senderHeard, if_neg h, if_neg hne, Option.map_none]

/-- What was said is what was taken up, and what was heard is what was written. -/
theorem filter_talk (hq : ∀ senderId, replyQ senderId = some q ↔ senderId = i) {u : Thread}
    (h : exec Thread.step (.init mBearer) taken = some u) :
    (talk mBearer i taken).filter isSaid = (taken.map Prod.snd).flatMap (senderSaid i) ∧
      (talk mBearer i taken).filter (fun e => !isSaid e) = (toldTo q u.log).map answer := by
  have hsaid : ∀ msg, ∀ e ∈ senderSaid i msg, isSaid e = true := by
    intro msg e he
    rcases senderSaid_cases he with rfl | rfl
    · rfl
    · rfl
  have hheard : ∀ msg e, senderHeard i msg = some e → isSaid e = false := by
    intro msg e he
    rw [senderHeard_eventOf he]
    rcases eventOf_cases msg with h | h | h <;> (rw [h]; rfl)
  rw [← overheard_eq hq]
  exact conversation_filter hsaid hheard h

/-- So far as a run has come: what the client has written has been said at its
    machine, and it has read what was heard there. -/
theorem linked_talk (hk : 0 < k) (hq : ∀ senderId, replyQ senderId = some q ↔ senderId = i)
    (h : Linked mBearer cap clientCap taken s)
    (hcovers : ∀ msg ∈ s.control.sent, Covers k true (frame k msg)) :
    ∃ unsaid unread, wrote i s = (talk mBearer i taken).filter isSaid ++ unsaid ∧
      ((talk mBearer i taken).filter fun e => !isSaid e).map some = hasRead q s ++ unread ∧
      (Empty s.control → s.deferredQ = [] → unsaid = []) ∧
      (Empty (s.replies q) → unread = []) := by
  rcases h.control with ⟨done, pending, hserved⟩
  rcases h.replies q with ⟨done', pending', hreplied⟩
  rcases filter_talk hq h.thread with ⟨hsaid, hheard⟩
  rcases read_of_framed hk hreplied.framed hreplied.told with ⟨unread, hread, hnone⟩
  have hsent := hserved.framed.sent
  have hasked := congrArg (List.flatMap (senderSaid i)) (hserved.asked fun msg hmsg =>
    hcovers msg (by rw [hsent]; exact List.mem_append_left _ hmsg))
  rw [said_filter, said_filter, List.flatMap_append] at hasked
  refine ⟨s.deferredQ.flatMap (senderSaid i) ++
      (pending.flatMap (requestOf k)).flatMap (senderSaid i), unread.map (Option.map answer),
    ?_, ?_, ?_, ?_⟩
  · unfold wrote
    rw [hsaid, hsent, List.flatMap_append, List.flatMap_append, ← List.append_assoc, hasked]
  · have hmap := congrArg (List.map (Option.map answer)) hread
    rw [List.map_append, List.map_map, List.map_map] at hmap
    rw [hheard, List.map_map]
    exact hmap
  · intro hempty hqueue
    rw [hqueue, Framed.pending_nil hk hserved.framed hempty.1 hempty.2]
    rfl
  · intro hempty
    rw [hnone (Framed.pending_nil hk hreplied.framed hempty.1 hempty.2), List.map_nil]

/-- What was said and heard is a session. -/
theorem talk_leads (hi : i = .quipc ∨ i = .msapm) {u : Thread}
    (h : exec Thread.step (.init mBearer) taken = some u) :
    wifiTalk.Leads Stage.absent.quiet (talk mBearer i taken)
      (shown u.data.wifiNif i.toId).quiet :=
  conversation_leads SenderInv (fun _ => True) (fun d => (shown d.wifiNif i.toId).quiet)
    (fun _ env msg _ hd => senderStep_handle hd hi env msg) (senderInv_init mBearer)
    (fun _ _ => trivial) h

/-- What a WIFI client has written and read is a session of its machine as far as
    it has come, and the threads and the client can bring it to its end: all that
    was written is said then, and all that is heard is read. -/
theorem requests_answered (hk : 0 < k) (hint : k < 2 ^ 31)
    (hcap : ctrlMsgSize k ≤ clientCap.toNat) (mBearer : Int)
    (hi : i = .quipc ∧ q = .quipc ∨ i = .msapm ∧ q = .msapm) {labels : List Label}
    (h : exec (step k cap clientCap) (.init k mBearer) labels = some s)
    (hcovers : ∀ msg ∈ s.control.sent, Covers k true (frame k msg)) :
    ∃ said, wifiTalk.Leads Stage.absent.quiet said (shown s.thread.data.wifiNif i.toId).quiet ∧
      said.filter isSaid <+: wrote i s ∧
      hasRead q s <+: (said.filter fun e => !isSaid e).map some ∧
      ∃ more t said', (∀ l ∈ more, l.Finishing) ∧ exec (step k cap clientCap) s more = some t ∧
        wifiTalk.Leads Stage.absent.quiet (said ++ said')
          (shown t.thread.data.wifiNif i.toId).quiet ∧
        (said ++ said').filter isSaid = wrote i s ∧
        hasRead q t = ((said ++ said').filter fun e => !isSaid e).map some := by
  have hq : ∀ senderId, replyQ senderId = some q ↔ senderId = i := by
    rcases hi with ⟨rfl, rfl⟩ | ⟨rfl, rfl⟩
    · intro senderId
      cases senderId <;> decide
    · intro senderId
      cases senderId <;> decide
  have hsender : i = .quipc ∨ i = .msapm := hi.imp And.left And.left
  have hlinked := linked_exec hk hint hcap (linked_init mBearer cap clientCap) h
  rw [List.nil_append] at hlinked
  rcases linked_talk hk hq hlinked hcovers with ⟨unsaid, unread, hsaid, hheard, -, -⟩
  -- The rest of the run is one in which nothing new is written.
  rcases linked_drain hk hint hcap hlinked q with
    ⟨more, t, hmore, ht, hsent, hcontrol, hqueue, hreplies⟩
  have hend := linked_exec hk hint hcap hlinked ht
  -- The conversation of the whole run goes on where that of its first part stands.
  have htalk : talk mBearer i (collect (step k cap clientCap) takenBy (.init k mBearer) labels ++
        collect (step k cap clientCap) takenBy s more) =
      talk mBearer i (collect (step k cap clientCap) takenBy (.init k mBearer) labels) ++
        collect Thread.step (conversation (senderSaid i) (senderHeard i)) s.thread
          (collect (step k cap clientCap) takenBy s more) := collect_append _ hlinked.thread
  rcases linked_talk hk hq hend (by rw [hsent]; exact hcovers) with
    ⟨unsaid', unread', hsaid', hheard', hnone, hnone'⟩
  refine ⟨_, talk_leads hsender hlinked.thread, ⟨unsaid, hsaid.symm⟩, ⟨unread, hheard.symm⟩, more,
    t, collect Thread.step (conversation (senderSaid i) (senderHeard i)) s.thread
      (collect (step k cap clientCap) takenBy s more), hmore, ht, ?_, ?_, ?_⟩
  · rw [← htalk]
    exact talk_leads hsender hend.thread
  · have hwrote : wrote i t = wrote i s := congrArg
      (fun sent : List (List UInt8) => (sent.flatMap (requestOf k)).flatMap (senderSaid i)) hsent
    rw [hwrote, hnone hcontrol hqueue, List.append_nil] at hsaid'
    rw [hsaid', htalk]
  · rw [hnone' hreplies, List.append_nil] at hheard'
    rw [← hheard', htalk]

end Sessions

/-- A request for WIFI, without a name. -/
def wifiRequest : List UInt8 :=
  List.replicate 12 0 ++ [0xF0, 0, 0, 0, 1, 0, 0, 0] ++ List.replicate 92 0

theorem covers_wifiRequest : Covers 4 true (frame 4 wifiRequest) :=
  ⟨0xF0, by decide, fun _ => Or.inr (Or.inr ⟨by decide, by
    rw [if_neg (by decide)]
    exact Or.inl (by decide)⟩)⟩

/-- The request is read, taken up, and granted when the framework has opened a
    connection, and the client has read so. -/
def oneRequest : List Label :=
  [.write wifiRequest, .serve (.readHeader fun _ => 0), .serve .readBody,
    .take .zeros fun _ _ _ => 0, .post (.atlOpenSuccess AGPS_TYPE_WIFI [] 0 0),
    .take .zeros fun _ _ _ => 7, .read .quipc (.readHeader fun _ => 1), .read .quipc .readBody]

theorem requests_answered_oneRequest :
    ∃ s, exec (step 4 (BitVec.ofNat 32 (bufferSize 4)) 512) (.init 4 0) oneRequest = some s ∧
      hasRead .quipc s = [some .granted] ∧
      ∃ said, wifiTalk.Leads Stage.absent.quiet said
          (shown s.thread.data.wifiNif SenderId.quipc.toId).quiet ∧
        said.filter isSaid <+: wrote .quipc s ∧
        hasRead .quipc s <+: (said.filter fun e => !isSaid e).map some := by
  rcases Option.isSome_iff_exists.mp (by decide +kernel :
    (exec (step 4 (BitVec.ofNat 32 (bufferSize 4)) 512) (.init 4 0) oneRequest).isSome = true)
    with ⟨s, hs⟩
  have hsent : (exec (step 4 (BitVec.ofNat 32 (bufferSize 4)) 512) (.init 4 0) oneRequest).map
      (fun s => s.control.sent) = some [wifiRequest] := by decide +kernel
  have hread : (exec (step 4 (BitVec.ofNat 32 (bufferSize 4)) 512) (.init 4 0) oneRequest).map
      (hasRead .quipc) = some [some .granted] := by decide +kernel
  rw [hs, Option.map_some, Option.some.injEq] at hsent hread
  have hcovers : ∀ msg ∈ s.control.sent, Covers 4 true (frame 4 msg) := by
    intro msg hmsg
    rw [hsent] at hmsg
    rw [List.mem_singleton.mp hmsg]
    exact covers_wifiRequest
  rcases requests_answered (by decide) (by decide) (by decide) 0 (Or.inl ⟨rfl, rfl⟩) hs hcovers
    with ⟨said, hleads, hsaid, hheard, _⟩
  exact ⟨s, hs, hread, said, hleads, hsaid, hheard⟩

end EndToEnd

end Conn

end Taoshan

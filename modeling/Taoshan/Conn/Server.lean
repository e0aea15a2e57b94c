import Taoshan.Conn.Framing

/-!
# The Receiving Loop

`loc_api_server_proc`, which the thread helper calls over and over. A call
allocates a buffer, receives one message into it and hands the message to the
handler of its `ctrl_type`. If nothing was received, it returns and is called
again ("retry later").

The loop runs over a stream that is there as a whole, so the only way a call of
`msgrcv` can fail is a message larger than the buffer. Its size field has then
been read, and the rest of it has not: the next call takes the first bytes of
the rejected message for a size field (`serverProc_oversized`). So the loop
recovers from no rejected message (`recovers_iff`), and what it hands on next is
up to whoever wrote the rejected one (`forged`).

## Main definitions

* `Handler`, `handlerOf`: The handlers of the control messages.
* `Server`, `serverProc`: What is left in the pipe and was handed on, and a call.
* `Recovers`: Rejected messages are consumed as a whole, and the others handed
  on.

## Theorems

* `serverProc_frame`, `serverProc_oversized`: A call on a message that fits, and
  on one that does not.
* `serverProc_frames`: The loop over messages that all fit.
* `recovers_iff`: When the loop recovers.
-/

namespace Taoshan

namespace Conn

open Bytes Run

/-- What a control message is handed to. -/
inductive Handler
  | ifRequest
  | ifRelease
  | unblock
  | unsupported
  deriving DecidableEq

/-- `p_cmsgbuf->ctrl_type`. Two reserved fields of 16 and 32 bits, each aligned,
    lie between it and the size. -/
def ctrlTypeOf (k : Nat) (mem : Mem) : UInt8 := mem (k + 8)

/-- The `switch` on `ctrl_type`: `GPSONE_LOC_API_IF_REQUEST`,
    `GPSONE_LOC_API_IF_RELEASE` and `GPSONE_UNBLOCK`. -/
def handlerOf (ctrlType : UInt8) : Handler :=
  if ctrlType = 0xF0 then .ifRequest
  else if ctrlType = 0xF1 then .ifRelease
  else if ctrlType = 0xF3 then .unblock
  else .unsupported

/-- What is left in the pipe, and the messages handed on, with the `length` and
    the buffer that their handlers are given. -/
structure Server where
  pipe : List UInt8
  handled : List (Handler × Call)

/-- `loc_api_server_proc`, with a buffer of `sz` bytes if `malloc` returns one;
    the thread exits if not. The buffer may hold anything. -/
def serverProc (k : Nat) (sz : SizeT k) (s : Server) : Option Mem → Option Server
  | none => none
  | some buf =>
      let r := msgrcv k plainRead s.pipe buf sz
      -- What was received is dropped with its buffer: retry later.
      if r.ret.toInt ≤ 0 then some { s with pipe := r.pipe }
      else some {
        pipe := r.pipe
        handled := s.handled ++ [(handlerOf (ctrlTypeOf k r.mem), ⟨r.ret, r.mem⟩)] }

/-- The message was handed on as it was sent, and to the handler of its
    `ctrl_type` if it has one. -/
structure HandedOn (k : Nat) (p : Handler × Call) (msg : List UInt8) : Prop where
  returns : Returns k p.2 msg
  handler : ∀ t, msg[k + 8]? = some t → p.1 = handlerOf t

/-- One call consumes one message as a whole, whatever the buffers hold, and the
    messages that fit are handed on unchanged and in their order. -/
def Recovers (k : Nat) (sz : SizeT k) (msgs : List (List UInt8)) : Prop :=
  ∀ bufs : List Mem, bufs.length ≤ msgs.length →
    ∃ s, exec (serverProc k sz) ⟨msgs.flatMap (frame k), []⟩ (bufs.map some) = some s ∧
      s.pipe = (msgs.drop bufs.length).flatMap (frame k) ∧
      List.Forall₂ (HandedOn k) s.handled
        ((msgs.take bufs.length).filter fun msg => Fits k sz msg)

section Proc

variable {k : Nat} {sz : SizeT k}

/-- A call of the receiver on a message that fits. -/
theorem msgrcv_frame (hint : k < 2 ^ 31) {msg : List UInt8} (hfits : Fits k sz msg)
    (rest : List UInt8) (buf : Mem) :
    (msgrcv k plainRead (frame k msg ++ rest) buf sz).pipe = rest ∧
      Returns k ⟨(msgrcv k plainRead (frame k msg ++ rest) buf sz).ret,
        (msgrcv k plainRead (frame k msg ++ rest) buf sz).mem⟩ msg := by
  -- The two reads of the call are the two steps of the interleaved receiver.
  let s : Sys k := ⟨frame k msg ++ rest, .idle, [], []⟩
  have hhead := readHeader_frame (s := s) hint rfl hfits rfl buf
  have hfield : peek (poke buf 0 (encode k msg.length)) 0 k = encode k msg.length := by
    have hpeek := peek_poke_self buf 0 (encode k msg.length)
    rwa [encode_length] at hpeek
  rcases readBody_frame (s := { s with
      stream := msg.drop k ++ rest
      phase := .body (poke buf 0 (encode k msg.length))
        (BitVec.ofNat (8 * k) msg.length - sizeofMsgsz k) })
    rfl hfits hfield hfits.count rfl with ⟨call, hcall, hbody⟩
  rcases readHeader_readBody hhead hbody with ⟨hpipe, hcalls, _⟩
  refine ⟨hpipe.symm, ?_⟩
  rw [List.append_right_inj, List.cons.injEq] at hcalls
  rw [← hcalls.1]
  exact hcall

/-- On a message that is larger than the buffer, the receiver returns after the
    size field. -/
theorem msgrcv_oversized (hint : k < 2 ^ 31) {msg : List UInt8}
    (hlen : msg.length < 2 ^ (8 * k)) (hbig : sz.toNat < msg.length) (rest : List UInt8)
    (buf : Mem) :
    msgrcv k plainRead (frame k msg ++ rest) buf sz =
      ⟨-1, poke buf 0 (encode k msg.length), [(0, k)], msg.drop k ++ rest⟩ := by
  have hfield : (encode k msg.length).length = k := encode_length _ _
  have hread : plainRead (frame k msg ++ rest) k =
      (some (encode k msg.length), msg.drop k ++ rest) := by
    unfold plainRead frame
    rw [List.append_assoc, List.take_left' hfield, List.drop_left' hfield]
  -- The size is read back from the buffer it was received into.
  have hroom : sz < msgszOf k (poke buf 0 (encode k msg.length)) := by
    rw [BitVec.lt_def, msgszOf_toNat]
    have hpeek := peek_poke_self buf 0 (encode k msg.length)
    rw [hfield] at hpeek
    rw [hpeek, decode_encode (by rwa [← two_pow_width])]
    exact hbig
  have hvalue := intToSize_value hint hfield
  unfold msgrcv
  simp only [hread, afterHeader, hvalue, store, ne_eq, not_true_eq_false, if_false, if_pos hroom]

/-- The `ctrl_type` in the buffer is that of the message. -/
theorem Returns.ctrlType {call : Call} {msg : List UInt8} (h : Returns k call msg) {t : UInt8}
    (ht : msg[k + 8]? = some t) : ctrlTypeOf k call.mem = t := by
  rcases List.getElem?_eq_some_iff.mp ht with ⟨hlt, _⟩
  have hpeek : (peek call.mem 0 msg.length)[k + 8]? = some (call.mem (k + 8)) := by
    unfold peek
    rw [List.getElem?_map, List.getElem?_range hlt, Option.map_some, Nat.zero_add]
  have hframe : (frame k msg)[k + 8]? = msg[k + 8]? := by
    unfold frame
    rw [List.getElem?_append_right (by simp), encode_length, List.getElem?_drop,
      Nat.add_sub_cancel_left]
  rw [h.bytes, hframe, ht, Option.some.injEq] at hpeek
  exact hpeek.symm

/-- A call hands on a message that fits, and nothing of it is left. -/
theorem serverProc_frame (hk : 0 < k) (hint : k < 2 ^ 31) (hsz : sz.toNat < 2 ^ 31)
    {msg : List UInt8} (hfits : Fits k sz msg) {s : Server} {rest : List UInt8}
    (hpipe : s.pipe = frame k msg ++ rest) (buf : Mem) :
    ∃ p, HandedOn k p msg ∧ serverProc k sz s (some buf) = some ⟨rest, s.handled ++ [p]⟩ := by
  rcases msgrcv_frame hint hfits rest buf with ⟨hrest, hreturns⟩
  have hlen := hfits.1
  have hle := hfits.2
  have hret := hreturns.ret_toInt (by omega)
  have hpos : ¬ (msgrcv k plainRead (frame k msg ++ rest) buf sz).ret.toInt ≤ 0 := by
    rw [hret]
    omega
  refine ⟨(handlerOf (ctrlTypeOf k (msgrcv k plainRead (frame k msg ++ rest) buf sz).mem),
      ⟨(msgrcv k plainRead (frame k msg ++ rest) buf sz).ret,
        (msgrcv k plainRead (frame k msg ++ rest) buf sz).mem⟩),
    ⟨hreturns, fun t ht => by rw [hreturns.ctrlType ht]⟩, ?_⟩
  simp only [serverProc, hpipe, if_neg hpos, hrest]

/-- A call on a message that is too large hands nothing on and leaves all of it
    but its size field. -/
theorem serverProc_oversized (hint : k < 2 ^ 31) {msg : List UInt8}
    (hlen : msg.length < 2 ^ (8 * k)) (hbig : sz.toNat < msg.length) {s : Server}
    {rest : List UInt8} (hpipe : s.pipe = frame k msg ++ rest) (buf : Mem) :
    serverProc k sz s (some buf) = some { s with pipe := msg.drop k ++ rest } := by
  have hneg : (-1 : CInt).toInt ≤ 0 := by decide
  simp only [serverProc, hpipe, msgrcv_oversized hint hlen hbig, if_pos hneg]

end Proc

section Loop

variable {k : Nat} {sz : SizeT k}

/-- Over messages that fit, so many calls hand on so many messages. -/
theorem serverProc_frames (hk : 0 < k) (hint : k < 2 ^ 31) (hsz : sz.toNat < 2 ^ 31)
    {msgs : List (List UInt8)} (rest : List UInt8) {s : Server} {bufs : List Mem}
    (hfits : ∀ msg ∈ msgs, Fits k sz msg) (hpipe : s.pipe = msgs.flatMap (frame k) ++ rest)
    (hlen : bufs.length ≤ msgs.length) :
    ∃ t served, exec (serverProc k sz) s (bufs.map some) = some t ∧
      t.pipe = (msgs.drop bufs.length).flatMap (frame k) ++ rest ∧
      t.handled = s.handled ++ served ∧
      List.Forall₂ (HandedOn k) served (msgs.take bufs.length) := by
  -- On the calls; each takes the message in front of the pipe.
  induction bufs generalizing msgs s with
  | nil => exact ⟨s, [], rfl, hpipe, (List.append_nil _).symm, List.Forall₂.nil⟩
  | cons buf bufs ih =>
      cases msgs with
      | nil => exact absurd hlen (Nat.not_succ_le_zero _)
      | cons msg msgs =>
          rw [List.flatMap_cons, List.append_assoc] at hpipe
          rcases serverProc_frame hk hint hsz (hfits msg List.mem_cons_self) hpipe buf with
            ⟨p, hp, hproc⟩
          rcases ih (fun m hm => hfits m (List.mem_cons_of_mem _ hm))
              (s := ⟨msgs.flatMap (frame k) ++ rest, s.handled ++ [p]⟩) rfl
              (Nat.le_of_succ_le_succ hlen) with ⟨t, served, hexec, htpipe, hhandled, hserved⟩
          refine ⟨t, p :: served, ?_, htpipe, ?_, List.Forall₂.cons hp hserved⟩
          · rw [List.map_cons, exec_cons_of_step _ hproc]
            exact hexec
          · rw [hhandled, List.append_assoc, List.singleton_append]

/-- The first message that does not fit, behind those that do. -/
theorem split_oversized {msgs : List (List UInt8)}
    (hbig : ∃ msg ∈ msgs, sz.toNat < msg.length) :
    ∃ good msg rest, msgs = good ++ msg :: rest ∧ sz.toNat < msg.length ∧
      ∀ m ∈ good, m.length ≤ sz.toNat := by
  induction msgs with
  | nil =>
      rcases hbig with ⟨_, hmem, _⟩
      exact absurd hmem List.not_mem_nil
  | cons m msgs ih =>
      by_cases hm : sz.toNat < m.length
      · exact ⟨[], m, msgs, rfl, hm, fun _ h => absurd h List.not_mem_nil⟩
      · rcases hbig with ⟨b, hmem, hb⟩
        rcases List.mem_cons.mp hmem with rfl | hmem
        · exact absurd hb hm
        · rcases ih ⟨b, hmem, hb⟩ with ⟨good, msg, rest, hsplit, hmsg, hgood⟩
          refine ⟨m :: good, msg, rest, by rw [hsplit, List.cons_append], hmsg, ?_⟩
          intro x hx
          rcases List.mem_cons.mp hx with rfl | hx
          · exact Nat.le_of_not_lt hm
          · exact hgood x hx

/-- After the call that rejects a message, the pipe still holds it, but for its
    size field. -/
theorem exec_oversized (hk : 0 < k) (hint : k < 2 ^ 31) (hsz : sz.toNat < 2 ^ 31)
    {good : List (List UInt8)} (rest : List (List UInt8)) {msg : List UInt8}
    (hgood : ∀ m ∈ good, Fits k sz m)
    (hlen : msg.length < 2 ^ (8 * k)) (hbig : sz.toNat < msg.length) {bufs : List Mem}
    (hbufs : bufs.length = good.length) (buf : Mem) :
    ∃ t, exec (serverProc k sz) ⟨(good ++ msg :: rest).flatMap (frame k), []⟩
        ((bufs ++ [buf]).map some) = some t ∧
      t.pipe = msg.drop k ++ rest.flatMap (frame k) := by
  rcases serverProc_frames (s := ⟨(good ++ msg :: rest).flatMap (frame k), []⟩) hk hint hsz
      ((msg :: rest).flatMap (frame k)) hgood List.flatMap_append (Nat.le_of_eq hbufs) with
    ⟨t, served, hexec, hpipe, _, _⟩
  rw [hbufs, List.drop_length, List.flatMap_nil, List.nil_append, List.flatMap_cons] at hpipe
  have hover := serverProc_oversized hint hlen hbig hpipe buf
  refine ⟨{ t with pipe := msg.drop k ++ rest.flatMap (frame k) }, ?_, rfl⟩
  rw [List.map_append, exec_append _ hexec]
  exact exec_cons_of_step [] hover

/-- A message that is too large is not consumed as a whole. -/
theorem length_le_of_recovers (hk : 0 < k) (hint : k < 2 ^ 31) (hcap : k ≤ sz.toNat)
    (hsz : sz.toNat < 2 ^ 31) {msgs : List (List UInt8)}
    (hmsgs : ∀ msg ∈ msgs, k ≤ msg.length ∧ msg.length < 2 ^ (8 * k))
    (hrec : Recovers k sz msgs) : ∀ msg ∈ msgs, msg.length ≤ sz.toNat := by
  by_contra hbad
  simp only [not_forall, Nat.not_le, exists_prop] at hbad
  rcases split_oversized hbad with ⟨good, msg, rest, rfl, hbig, hgood⟩
  have hfits : ∀ m ∈ good, Fits k sz m := fun m hm =>
    ⟨(hmsgs m (List.mem_append_left _ hm)).1, hgood m hm⟩
  -- One call for each message in front, and one for the first that is too large.
  have hbufs : (List.replicate good.length (fun _ => 0) : List Mem).length = good.length :=
    List.length_replicate
  rcases exec_oversized hk hint hsz rest hfits
    (hmsgs msg (List.mem_append_right _ List.mem_cons_self)).2 hbig hbufs (fun _ => 0) with
    ⟨t, ht, hpipe⟩
  have hcalls : (List.replicate good.length (fun _ => 0) ++ [fun _ => 0] : List Mem).length =
      good.length + 1 := by
    rw [List.length_append, hbufs, List.length_singleton]
  have hroom : good.length + 1 ≤ (good ++ msg :: rest).length := by
    rw [List.length_append, List.length_cons]
    omega
  rcases hrec _ (hcalls.trans_le hroom) with ⟨s, hs, hspipe, _⟩
  rw [ht, Option.some.injEq] at hs
  have hdrop : (good ++ msg :: rest).drop (good.length + 1) = rest := by
    rw [List.drop_append, List.drop_eq_nil_of_le (Nat.le_succ _), Nat.add_sub_cancel_left]
    rfl
  rw [← hs, hpipe, hcalls, hdrop] at hspipe
  -- The rest of the rejected message is still in front of what follows it.
  have hlength := congrArg List.length hspipe
  rw [List.length_append, List.length_drop] at hlength
  omega

/-- The loop recovers from rejected messages if and only if there are none. -/
theorem recovers_iff (hk : 0 < k) (hint : k < 2 ^ 31) (hcap : k ≤ sz.toNat)
    (hsz : sz.toNat < 2 ^ 31) {msgs : List (List UInt8)}
    (hmsgs : ∀ msg ∈ msgs, k ≤ msg.length ∧ msg.length < 2 ^ (8 * k)) :
    Recovers k sz msgs ↔ ∀ msg ∈ msgs, msg.length ≤ sz.toNat := by
  refine ⟨length_le_of_recovers hk hint hcap hsz hmsgs, fun hall bufs hlen => ?_⟩
  have hfits : ∀ msg ∈ msgs, Fits k sz msg := fun msg hmsg =>
    ⟨(hmsgs msg hmsg).1, hall msg hmsg⟩
  rcases serverProc_frames (s := ⟨msgs.flatMap (frame k), []⟩) hk hint hsz [] hfits
      (List.append_nil _).symm hlen with ⟨t, served, hexec, hpipe, hhandled, hserved⟩
  refine ⟨t, hexec, by rwa [List.append_nil] at hpipe, ?_⟩
  have hfilter : (msgs.take bufs.length).filter (fun msg => Fits k sz msg) =
      msgs.take bufs.length := by
    rw [List.filter_eq_self]
    exact fun msg hmsg => decide_eq_true (hfits msg (List.mem_of_mem_take hmsg))
  rw [hfilter, hhandled, List.nil_append]
  exact hserved

/-- The loop over two messages that fit. -/
theorem recovers_iff_fitting :
    Recovers 4 276 [[0, 0, 0, 0], [0, 0, 0, 0, 7]] ↔
      ∀ msg ∈ [[0, 0, 0, 0], [0, 0, 0, 0, 7]], (msg : List UInt8).length ≤ (276 : SizeT 4).toNat :=
  recovers_iff (by decide) (by decide) (by decide) (by decide) (by decide)

/-- A message of 281 bytes for a buffer of 276, and one that fits behind it. -/
theorem not_recovers_oversized : ¬ Recovers 4 276 [List.replicate 281 0, [0, 0, 0, 0, 7]] := by
  intro hrec
  have hle := length_le_of_recovers (by decide) (by decide) (by decide) (by decide)
    (fun msg hmsg => by
      rcases List.mem_pair.mp hmsg with rfl | rfl
      · rw [List.length_replicate]
        exact ⟨by decide, by decide⟩
      · exact ⟨by decide, by decide⟩)
    hrec (List.replicate 281 0) List.mem_cons_self
  rw [List.length_replicate] at hle
  exact absurd hle (by decide)

/-- A rejected message whose bytes are read as a release. -/
def forged : List UInt8 := [0, 0, 0, 0, 13, 0, 0, 0, 0, 0, 0, 0, 0, 0, 0, 0, 0xF1]

example : (exec (serverProc 4 16) ⟨frame 4 forged, []⟩
    [some (fun _ => 0), some (fun _ => 0)]).map (fun s => s.handled.map Prod.fst) =
      some [.ifRelease] := by decide

end Loop

end Conn

end Taoshan

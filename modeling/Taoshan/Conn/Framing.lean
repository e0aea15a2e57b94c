import Mathlib.Data.List.Forall2
import Taoshan.Conn.Glue
import Taoshan.Lib.Run

/-!
# Framing on the Control Pipe

What is sent through the pipe by any number of writers is received, message by
message, in the order of the writes.

The pipe is a sequence of bytes. A write appends its bytes at once, and a read
returns once as many bytes are there as it asks for. The receiver reads twice a
message and may be overtaken by a writer in between, so a state of the system
holds how far the receiver is. `Framed` says what the bytes in the pipe are in
either case: whole messages, or the rest of one and then whole messages.

## Main definitions

* `Sys`, `Action`, `step`: The pipe, its writers and its receiver.
* `Fits`: The sizes the receiver has room for.
* `Returns`: What a call returns for a message.
* `Framed`: What was received, what is still in the pipe.

## Theorems

* `readHeader_readBody`: The two steps of the receiver are a call of `msgrcv`.
* `framed_send`, `framed_readHeader`, `framed_readBody`: What each step does.
* `framed_drain`: What is in the pipe can be received.
* `framing_run`: Every interleaving has both.
-/

namespace Taoshan

namespace Conn

open Bytes Run

/-- How far the receiver is: not in a call, or between its two reads with so
    many bytes still to ask for. -/
inductive Phase (k : Nat)
  | idle
  | body (mem : Mem) (count : SizeT k)

/-- A call of the receiver that is over: the value it returned and what it left
    in memory from the start of the buffer on. -/
structure Call where
  ret : CInt
  mem : Mem

/-- The pipe and its receiver, with the messages sent and the calls that are
    over. -/
structure Sys (k : Nat) where
  stream : List UInt8
  phase : Phase k
  sent : List (List UInt8)
  calls : List Call

/-- A message sent by some writer, or a read of the receiver. A call may find
    anything in its buffer. -/
inductive Action
  | send (msg : List UInt8)
  | readHeader (mem : Mem)
  | readBody

/-- The steps of the receiver. -/
def Action.IsRead : Action → Prop
  | .send _ => False
  | .readHeader _ => True
  | .readBody => True

/-- An empty pipe before the first call. -/
def idleSys (k : Nat) : Sys k := ⟨[], .idle, [], []⟩

/-- A write to the pipe puts all its bytes at the end. -/
def fifoWrite (stream bs : List UInt8) : CInt × List UInt8 :=
  (BitVec.ofNat 32 bs.length, stream ++ bs)

/-- The message holds its size field and is no larger than the buffer. -/
def Fits (k : Nat) (cap : SizeT k) (msg : List UInt8) : Prop :=
  k ≤ msg.length ∧ msg.length ≤ cap.toNat

instance (k : Nat) (cap : SizeT k) (msg : List UInt8) : Decidable (Fits k cap msg) :=
  inferInstanceAs (Decidable (_ ∧ _))

/-- The steps of the system, for a receiver with a buffer of `cap` bytes. -/
def step (k : Nat) (cap : SizeT k) (s : Sys k) : Action → Option (Sys k)
  | .send msg =>
      if Fits k cap msg then
        some { s with
          stream := (msgsnd k fifoWrite s.stream msg).2
          sent := s.sent ++ [msg] }
      else none
  | .readHeader mem =>
      match s.phase with
      | .body _ _ => none
      | .idle =>
          -- The read waits until the bytes are there.
          if s.stream.length < k then none
          else
            let r := plainRead s.stream k
            match afterHeader k mem r.1 cap with
            -- The call is over, and the bytes read are gone.
            | (mem, none) => some { s with stream := r.2, calls := s.calls ++ [⟨-1, mem⟩] }
            | (mem, some count) => some { s with stream := r.2, phase := .body mem count }
  | .readBody =>
      match s.phase with
      | .idle => none
      | .body mem count =>
          if s.stream.length < count.toNat then none
          else
            let r := plainRead s.stream count.toNat
            let done := afterBody k mem r.1
            some { s with
              stream := r.2
              phase := .idle
              calls := s.calls ++ [⟨done.2, done.1⟩] }

section Calls

variable {k : Nat} {cap : SizeT k}

/-- With no write in between, the two steps are a call of the receiver over the
    pipe as it was. -/
theorem readHeader_readBody {s t u : Sys k} {mem : Mem}
    (hhead : step k cap s (.readHeader mem) = some t) (hbody : step k cap t .readBody = some u) :
    let call := msgrcv k plainRead s.stream mem cap
    u.stream = call.pipe ∧ u.calls = s.calls ++ [⟨call.ret, call.mem⟩] ∧ u.phase = .idle := by
  unfold step at hhead
  cases hphase : s.phase with
  | body m n =>
      simp only [hphase, reduceCtorEq] at hhead
  | idle =>
      simp only [hphase, Option.ite_none_left_eq_some] at hhead
      rcases hhead with ⟨_, hhead⟩
      rcases hafter : afterHeader k mem (plainRead s.stream k).1 cap with ⟨mem', _ | count⟩
      · -- The call is over at its first read, and there is no second one.
        simp only [hafter, Option.some.injEq] at hhead
        rw [← hhead] at hbody
        simp only [step, reduceCtorEq] at hbody
      · simp only [hafter, Option.some.injEq] at hhead
        rw [← hhead] at hbody
        simp only [step, Option.ite_none_left_eq_some, Option.some.injEq] at hbody
        rcases hbody with ⟨_, rfl⟩
        unfold msgrcv
        simp only [hafter, and_self]

/-- The cast to `int` of a size that a `size_t` can hold. -/
theorem sizeToInt_ofNat {n : Nat} (h : n < 2 ^ (8 * k)) :
    sizeToInt (BitVec.ofNat (8 * k) n : SizeT k) = BitVec.ofNat 32 n := by
  refine BitVec.eq_of_toNat_eq ?_
  unfold sizeToInt
  rw [BitVec.toNat_setWidth, BitVec.toNat_ofNat, BitVec.toNat_ofNat, Nat.mod_eq_of_lt h]

/-- A message sent is at the end of the pipe, and the sender is told its
    size. -/
theorem msgsnd_fifoWrite {msg : List UInt8} (hlen : k ≤ msg.length) (stream : List UInt8)
    (hw : msg.length < 2 ^ (8 * k)) :
    msgsnd k fifoWrite stream msg = (BitVec.ofNat 32 msg.length, stream ++ frame k msg) := by
  have hframe : (frame k msg).length = msg.length := by
    unfold frame
    rw [List.length_append, encode_length, List.length_drop]
    omega
  unfold msgsnd fifoWrite
  simp only [hframe, sizeToInt_ofNat hw, ne_eq, not_true_eq_false, if_false]

/-- What a call returns for a message: its size, and in the buffer the size and
    the bytes behind it. -/
structure Returns (k : Nat) (call : Call) (msg : List UInt8) : Prop where
  ret : call.ret = BitVec.ofNat 32 msg.length
  size : (msgszOf k call.mem).toNat = msg.length
  bytes : peek call.mem 0 msg.length = frame k msg

/-- A size that an `int` can hold is the number returned. -/
theorem Returns.ret_toInt {call : Call} {msg : List UInt8} (h : Returns k call msg)
    (hint : msg.length < 2 ^ 31) : call.ret.toInt = msg.length := by
  rw [h.ret, BitVec.toInt_ofNat', Int.bmod_eq_of_le (by omega) (by omega)]

end Calls

section Stream

variable {k : Nat} {cap : SizeT k}

/-- The bytes in the pipe, for the messages that are not received yet: all of
    them whole, or the first without its size field, which the receiver has
    read. -/
def AtBoundary (k : Nat) (stream : List UInt8) (pending : List (List UInt8)) : Phase k → Prop
  | .idle => stream = pending.flatMap (frame k)
  | .body mem count => ∃ msg rest, pending = msg :: rest ∧
      peek mem 0 k = encode k msg.length ∧ count.toNat = msg.length - k ∧
      stream = msg.drop k ++ rest.flatMap (frame k)

/-- The messages sent are those received, each by one call and in the order of
    the calls, and then those pending, which are what the pipe holds. -/
structure Framed (cap : SizeT k) (s : Sys k) (done pending : List (List UInt8)) : Prop where
  sent : s.sent = done ++ pending
  fits : ∀ msg ∈ s.sent, Fits k cap msg
  calls : List.Forall₂ (Returns k) s.calls done
  boundary : AtBoundary k s.stream pending s.phase

theorem framed_idleSys (cap : SizeT k) : Framed cap (idleSys k) [] [] :=
  ⟨rfl, fun _ h => absurd h List.not_mem_nil, List.Forall₂.nil, rfl⟩

/-- A message that fits has a size that its field can hold. -/
theorem Fits.lt_width {msg : List UInt8} (h : Fits k cap msg) : msg.length < 2 ^ (8 * k) :=
  lt_of_le_of_lt h.2 cap.isLt

/-- The size field of a message that fits is its size. -/
theorem Fits.size {msg : List UInt8} {mem : Mem} (h : Fits k cap msg)
    (hfield : peek mem 0 k = encode k msg.length) :
    msgszOf k mem = BitVec.ofNat (8 * k) msg.length := by
  have hlt := h.lt_width
  rw [two_pow_width] at hlt
  unfold msgszOf
  rw [hfield, decode_encode hlt]

/-- The bytes behind the size field of a message that fits. -/
theorem Fits.count {msg : List UInt8} (h : Fits k cap msg) :
    ((BitVec.ofNat (8 * k) msg.length : SizeT k) - sizeofMsgsz k).toNat = msg.length - k := by
  have hlen : (BitVec.ofNat (8 * k) msg.length : SizeT k).toNat = msg.length := by
    rw [BitVec.toNat_ofNat, Nat.mod_eq_of_lt h.lt_width]
  rw [body_count_toNat, hlen, if_pos h.1]

/-- A write puts a whole message behind what the pipe holds, wherever the
    receiver is. -/
theorem framed_send {s t : Sys k} {done pending : List (List UInt8)} {msg : List UInt8}
    (h : Framed cap s done pending) (hstep : step k cap s (.send msg) = some t) :
    Framed cap t done (pending ++ [msg]) := by
  simp only [step, Option.ite_none_right_eq_some, Option.some.injEq] at hstep
  rcases hstep with ⟨hfits, rfl⟩
  have hwrite := msgsnd_fifoWrite hfits.1 s.stream hfits.lt_width
  refine ⟨?_, ?_, h.calls, ?_⟩
  · simp only [h.sent, List.append_assoc]
  · intro m hm
    rcases List.mem_append.mp hm with hm | hm
    · exact h.fits m hm
    · rw [List.mem_singleton.mp hm]
      exact hfits
  · have hb := h.boundary
    simp only [hwrite]
    -- In a call, the new message goes behind the rest of the first.
    cases hphase : s.phase with
    | idle =>
        rw [hphase] at hb
        simp only [AtBoundary] at hb ⊢
        rw [hb, List.flatMap_append, List.flatMap_singleton]
    | body mem count =>
        rw [hphase] at hb
        rcases hb with ⟨m, rest, rfl, hfield, hcount, hstream⟩
        refine ⟨m, rest ++ [msg], rfl, hfield, hcount, ?_⟩
        rw [hstream, List.flatMap_append, List.flatMap_singleton, List.append_assoc]

/-- The first read takes the size field of the oldest message, and the receiver
    goes on to ask for the rest of it. -/
theorem readHeader_frame (hint : k < 2 ^ 31) {s : Sys k} {msg : List UInt8} {rest : List UInt8}
    (hidle : s.phase = .idle) (hfits : Fits k cap msg) (hstream : s.stream = frame k msg ++ rest)
    (mem : Mem) :
    step k cap s (.readHeader mem) = some { s with
      stream := msg.drop k ++ rest
      phase := .body (poke mem 0 (encode k msg.length))
        (BitVec.ofNat (8 * k) msg.length - sizeofMsgsz k) } := by
  have hlen : (encode k msg.length).length = k := encode_length _ _
  have hread : plainRead s.stream k = (some (encode k msg.length), msg.drop k ++ rest) := by
    unfold plainRead
    rw [hstream]
    unfold frame
    rw [List.append_assoc, List.take_left' hlen, List.drop_left' hlen]
  have henough : ¬ s.stream.length < k := by
    rw [hstream]
    unfold frame
    rw [List.append_assoc, List.length_append, hlen]
    omega
  have hsize : msgszOf k (poke mem 0 (encode k msg.length)) = BitVec.ofNat (8 * k) msg.length := by
    refine hfits.size ?_
    have hpeek := peek_poke_self mem 0 (encode k msg.length)
    rwa [hlen] at hpeek
  have hvalue := intToSize_value hint hlen
  have hroom : ¬ cap < BitVec.ofNat (8 * k) msg.length := by
    rw [BitVec.lt_def, BitVec.toNat_ofNat, Nat.mod_eq_of_lt hfits.lt_width]
    exact Nat.not_lt.mpr hfits.2
  simp only [step, hidle, if_neg henough, hread, afterHeader, hvalue, store, hsize, ne_eq,
    not_true_eq_false, if_false, if_neg hroom]

/-- The second read takes what is left of the message, and the call is over. -/
theorem readBody_frame {s : Sys k} {msg : List UInt8} {rest : List UInt8} {mem : Mem}
    {count : SizeT k} (hphase : s.phase = .body mem count) (hfits : Fits k cap msg)
    (hfield : peek mem 0 k = encode k msg.length) (hcount : count.toNat = msg.length - k)
    (hstream : s.stream = msg.drop k ++ rest) :
    ∃ call, Returns k call msg ∧ step k cap s .readBody = some { s with
      stream := rest
      phase := .idle
      calls := s.calls ++ [call] } := by
  have hlen : (msg.drop k).length = msg.length - k := List.length_drop
  have hread : plainRead s.stream count.toNat = (some (msg.drop k), rest) := by
    unfold plainRead
    rw [hcount, hstream, List.take_left' hlen, List.drop_left' hlen]
  have henough : ¬ s.stream.length < count.toNat := by
    rw [hstream, hcount, List.length_append, hlen]
    omega
  -- The rest of the message goes behind the size field and leaves it alone.
  have hkeep : peek (poke mem k (msg.drop k)) 0 k = encode k msg.length := by
    rw [peek_poke_before mem _ (by omega)]
    exact hfield
  have hsize := hfits.size hkeep
  have hbytes : peek (poke mem k (msg.drop k)) 0 msg.length = frame k msg := by
    have hbehind := peek_poke_self mem k (msg.drop k)
    have hsplit : msg.length = k + (msg.drop k).length := by
      have := hfits.1
      omega
    unfold frame
    rw [hsplit, peek_add, Nat.zero_add, hbehind, hkeep, ← hsplit]
  -- Both sides of the comparison are the same count, cast to `int`.
  have hvalue : ReadResult.value (some (msg.drop k)) =
      sizeToInt (msgszOf k (poke mem k (msg.drop k)) - sizeofMsgsz k) := by
    refine BitVec.eq_of_toNat_eq ?_
    unfold ReadResult.value sizeToInt
    rw [BitVec.toNat_setWidth, hsize, hfits.count]
    simp only [BitVec.toNat_ofNat, hlen]
  have hret : sizeToInt (msgszOf k (poke mem k (msg.drop k))) = BitVec.ofNat 32 msg.length := by
    rw [hsize]
    exact sizeToInt_ofNat hfits.lt_width
  refine ⟨⟨BitVec.ofNat 32 msg.length, poke mem k (msg.drop k)⟩, ⟨rfl, ?_, hbytes⟩, ?_⟩
  · rw [hsize, BitVec.toNat_ofNat, Nat.mod_eq_of_lt hfits.lt_width]
  · simp only [step, hphase, if_neg henough, hread, afterBody, store, ne_eq, hvalue,
      not_true_eq_false, if_false, hret]

/-- A first read is only possible when a message is pending. -/
theorem framed_readHeader (hk : 0 < k) (hint : k < 2 ^ 31) {s t : Sys k}
    {done pending : List (List UInt8)} {mem : Mem} (h : Framed cap s done pending)
    (hstep : step k cap s (.readHeader mem) = some t) : Framed cap t done pending := by
  have hb := h.boundary
  cases hphase : s.phase with
  | body m count =>
      simp only [step, hphase, reduceCtorEq] at hstep
  | idle =>
      rw [hphase] at hb
      cases pending with
      | nil =>
          -- The pipe is empty, so the read waits.
          have hempty : s.stream.length < k := by
            rw [show s.stream = [] from hb]
            exact hk
          simp only [step, hphase, if_pos hempty, reduceCtorEq] at hstep
      | cons msg rest =>
          have hfits := h.fits msg (by
            rw [h.sent]
            exact List.mem_append_right _ List.mem_cons_self)
          rw [readHeader_frame hint hphase hfits hb mem, Option.some.injEq] at hstep
          rw [← hstep]
          refine ⟨h.sent, h.fits, h.calls, msg, rest, rfl, ?_, hfits.count, rfl⟩
          have hpeek := peek_poke_self mem 0 (encode k msg.length)
          rwa [encode_length] at hpeek

/-- A second read completes the call for the oldest pending message. -/
theorem framed_readBody {s t : Sys k} {done pending : List (List UInt8)}
    (h : Framed cap s done pending) (hstep : step k cap s .readBody = some t) :
    ∃ msg rest, pending = msg :: rest ∧ Framed cap t (done ++ [msg]) rest := by
  have hb := h.boundary
  cases hphase : s.phase with
  | idle =>
      simp only [step, hphase, reduceCtorEq] at hstep
  | body mem count =>
      rw [hphase] at hb
      rcases hb with ⟨msg, rest, rfl, hfield, hcount, hstream⟩
      have hfits := h.fits msg (by
        rw [h.sent]
        exact List.mem_append_right _ List.mem_cons_self)
      rcases readBody_frame hphase hfits hfield hcount hstream with ⟨call, hcall, hread⟩
      rw [hread, Option.some.injEq] at hstep
      rw [← hstep]
      refine ⟨msg, rest, rfl, ?_, h.fits, ?_, rfl⟩
      · rw [h.sent, List.append_assoc, List.singleton_append]
      · exact List.rel_append h.calls (List.Forall₂.cons hcall List.Forall₂.nil)

/-- Every step keeps the pipe framed. -/
theorem framed_step (hk : 0 < k) (hint : k < 2 ^ 31) {s t : Sys k} {a : Action}
    {done pending : List (List UInt8)} (h : Framed cap s done pending)
    (hstep : step k cap s a = some t) : ∃ done' pending', Framed cap t done' pending' := by
  cases a with
  | send msg => exact ⟨done, pending ++ [msg], framed_send h hstep⟩
  | readHeader mem => exact ⟨done, pending, framed_readHeader hk hint h hstep⟩
  | readBody =>
      rcases framed_readBody h hstep with ⟨msg, rest, _, ht⟩
      exact ⟨done ++ [msg], rest, ht⟩

/-- From between two calls, the receiver can receive all that is pending, and
    the pipe is empty then. -/
theorem framed_drain_idle (hk : 0 < k) (hint : k < 2 ^ 31) {s : Sys k}
    {done pending : List (List UInt8)} (h : Framed cap s done pending) (hidle : s.phase = .idle) :
    ∃ reads t, (∀ a ∈ reads, a.IsRead) ∧ exec (step k cap) s reads = some t ∧
      Framed cap t s.sent [] ∧ t.phase = .idle ∧ t.sent = s.sent := by
  induction pending generalizing s done with
  | nil =>
      refine ⟨[], s, fun _ ha => absurd ha List.not_mem_nil, rfl, ?_, hidle, rfl⟩
      have hsent := h.sent
      rw [List.append_nil] at hsent
      rw [hsent]
      exact h
  | cons msg rest ih =>
      have hb := h.boundary
      rw [hidle] at hb
      have hfits := h.fits msg (by
        rw [h.sent]
        exact List.mem_append_right _ List.mem_cons_self)
      -- One call: the size field, then the rest.
      have hhead := readHeader_frame hint hidle hfits hb (fun _ => 0)
      -- What is left between the two reads is known from the invariant.
      have h₁ := framed_readHeader hk hint h hhead
      rcases h₁.boundary with ⟨msg₁, rest₁, heq, hfield, hcount, hstream⟩
      rw [List.cons.injEq] at heq
      rcases heq with ⟨rfl, rfl⟩
      rcases readBody_frame rfl hfits hfield hcount hstream with ⟨call, _, hbody⟩
      rcases framed_readBody h₁ hbody with ⟨msg₂, rest₂, heq, h₂⟩
      rw [List.cons.injEq] at heq
      rcases heq with ⟨rfl, rfl⟩
      rcases ih h₂ rfl with ⟨reads, t, hreads, hexec, ht, hphase, hsent⟩
      refine ⟨.readHeader (fun _ => 0) :: .readBody :: reads, t, ?_, ?_, ht, hphase, hsent⟩
      · intro a ha
        rcases List.mem_cons.mp ha with rfl | ha
        · exact trivial
        · rcases List.mem_cons.mp ha with rfl | ha
          · exact trivial
          · exact hreads a ha
      · rw [exec_cons_of_step _ hhead, exec_cons_of_step _ hbody]
        exact hexec

/-- From anywhere, the receiver can finish the call it is in and receive all
    that is pending. -/
theorem framed_drain (hk : 0 < k) (hint : k < 2 ^ 31) {s : Sys k}
    {done pending : List (List UInt8)} (h : Framed cap s done pending) :
    ∃ reads t, (∀ a ∈ reads, a.IsRead) ∧ exec (step k cap) s reads = some t ∧
      Framed cap t s.sent [] ∧ t.phase = .idle ∧ t.sent = s.sent := by
  cases hphase : s.phase with
  | idle => exact framed_drain_idle hk hint h hphase
  | body mem count =>
      have hb := h.boundary
      rw [hphase] at hb
      rcases hb with ⟨msg, rest, rfl, hfield, hcount, hstream⟩
      have hfits := h.fits msg (by
        rw [h.sent]
        exact List.mem_append_right _ List.mem_cons_self)
      rcases readBody_frame hphase hfits hfield hcount hstream with ⟨call, _, hbody⟩
      rcases framed_readBody h hbody with ⟨msg₁, rest₁, _, h₁⟩
      rcases framed_drain_idle hk hint h₁ rfl with ⟨reads, t, hreads, hexec, ht, hidle, hsent⟩
      refine ⟨.readBody :: reads, t, ?_, ?_, ht, hidle, hsent⟩
      · intro a ha
        rcases List.mem_cons.mp ha with rfl | ha
        · exact trivial
        · exact hreads a ha
      · rw [exec_cons_of_step _ hbody]
        exact hexec

/-- In every interleaving of writes and reads, the calls that are over have
    returned the first messages sent, one each, and the pipe holds the others,
    whole if no call is under way. They can all be received by reading on. -/
theorem framing_run (hk : 0 < k) (hint : k < 2 ^ 31) {acts : List Action} {s : Sys k}
    (h : exec (step k cap) (idleSys k) acts = some s) :
    (∃ done pending, Framed cap s done pending) ∧
      ∃ reads t, (∀ a ∈ reads, a.IsRead) ∧ exec (step k cap) s reads = some t ∧
        Framed cap t s.sent [] ∧ t.phase = .idle ∧ t.sent = s.sent := by
  have hframed : ∃ done pending, Framed cap s done pending :=
    exec_invariant (fun s => ∃ done pending, Framed cap s done pending)
      (fun _ _ _ ⟨_, _, hs⟩ hstep => framed_step hk hint hs hstep)
      ⟨[], [], framed_idleSys cap⟩ h
  rcases hframed with ⟨done, pending, hs⟩
  exact ⟨⟨done, pending, hs⟩, framed_drain hk hint hs⟩

/-- Two messages, the second written between the two reads of the first, which
    is a size field and no more. -/
def overtaken : List Action :=
  [.send [0, 0, 0, 0], .readHeader (fun _ => 0), .send [0, 0, 0, 0, 7, 8], .readBody]

theorem framing_run_overtaken :
    ∃ s, exec (step 4 276) (idleSys 4) overtaken = some s ∧
      (∃ done pending, Framed 276 s done pending) ∧
      ∃ reads t, (∀ a ∈ reads, a.IsRead) ∧ exec (step 4 276) s reads = some t ∧
        Framed 276 t s.sent [] ∧ t.phase = .idle ∧ t.sent = s.sent :=
  ⟨(exec (step 4 276) (idleSys 4) overtaken).get rfl, (Option.some_get _).symm,
    framing_run (by decide) (by decide)
      (Option.some_get (x := exec (step 4 276) (idleSys 4) overtaken) rfl).symm⟩

end Stream

end Conn

end Taoshan

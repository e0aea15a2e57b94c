import Taoshan.Conn.Server

/-!
# A Receiver Whose Reads May Fail

`loc_eng_dmn_conn_glue_msgrcv` as its two reads, each with what becomes of it.

A read waits while the pipe is empty. It returns what it was asked for, or less, or
fails. So a call can fail in three ways: the size does not come as a whole, or is
larger than the buffer, or the rest does not come as a whole. The bytes that were
read are gone then, nothing is handed on, and `loc_api_server_proc` returns as if
something had been ("retry later"). What a read writes behind the end of the buffer
is not looked at here.

While the reads return what they are asked for, the receiver is that of the framed
pipe (`receiveHeader_whole`, `receiveBody_whole`), and a call is one of the receiving
loop (`serverProc_receive`).

## Main definitions

* `Answer`, `piperead`: What becomes of a read.
* `receiveHeader`, `receiveBody`: The receiver at each of its reads.
* `handedOn`: What becomes of a call that is over.

## Theorems

* `exists_piperead`: A read that finds a byte need not fail.
* `receiveHeader_whole`, `receiveBody_whole`, `serverProc_receive`: Reads that return
  all they ask for.
* `receiveHeader_inv`, `receiveBody_inv`: What reads of any kind do.
* `handed_of_returns`: Messages that were received as they were sent.
-/

namespace Taoshan

namespace Conn

open Bytes

/-- What becomes of a read: it returns as many bytes as it was asked for, or
    fewer, or it fails. -/
inductive Answer
  | whole
  | short (n : Nat)
  | failed
  deriving DecidableEq

/-- `loc_eng_dmn_conn_glue_piperead`, where the pipe holds these bytes. It waits for
    a first byte. -/
def piperead (stream : List UInt8) (count : Nat) : Answer → Option (ReadResult × List UInt8)
  | .whole => if count ≤ stream.length then some (plainRead stream count) else none
  | .short n =>
      if 0 < n ∧ n < count ∧ n ≤ stream.length then some (plainRead stream n) else none
  | .failed => some (none, stream)

section Receive

variable (k : Nat) (cap : SizeT k)

/-- `loc_eng_dmn_conn_glue_msgrcv` into this buffer, at its first read. -/
def receiveHeader (c : Sys k) (buf : Mem) (answer : Answer) : Option (Sys k) :=
  (piperead c.stream k answer).map fun r =>
    match afterHeader k buf r.1 cap with
    -- The call is over.
    | (mem, none) => { c with stream := r.2, calls := c.calls ++ [⟨-1, mem⟩] }
    | (mem, some count) => { c with stream := r.2, phase := .body mem count }

/-- And at its second. -/
def receiveBody (c : Sys k) (mem : Mem) (count : SizeT k) (answer : Answer) : Option (Sys k) :=
  (piperead c.stream count.toNat answer).map fun r =>
    let done := afterBody k mem r.1
    { c with stream := r.2, phase := .idle, calls := c.calls ++ [⟨done.2, done.1⟩] }

/-- What `loc_api_server_proc` does with what it has received. If that is nothing, it
    is retried later. -/
def handedOn (call : Call) : Option (Handler × Call) :=
  if call.ret.toInt ≤ 0 then none else some (handlerOf (ctrlTypeOf k call.mem), call)

end Receive

section Reads

variable {k : Nat} {cap : SizeT k} {c c' : Sys k} {answer : Answer}

/-- A read takes bytes off the front, and no more than it was asked for. -/
theorem piperead_inv {stream : List UInt8} {count : Nat} {r : ReadResult × List UInt8}
    (h : piperead stream count answer = some r) : stream.length ≤ r.2.length + count := by
  cases answer with
  | whole =>
      simp only [piperead, Option.ite_none_right_eq_some, Option.some.injEq] at h
      rw [← h.2]
      simp only [plainRead, List.length_drop]
      omega
  | short n =>
      simp only [piperead, Option.ite_none_right_eq_some, Option.some.injEq] at h
      rw [← h.2]
      simp only [plainRead, List.length_drop]
      omega
  | failed =>
      rw [← Option.some.inj h]
      exact Nat.le_add_right _ _

/-- Where there is a byte, a read need not fail. -/
theorem exists_piperead {stream : List UInt8} (hne : 0 < stream.length) (count : Nat) :
    ∃ answer r, answer ≠ .failed ∧ piperead stream count answer = some r := by
  by_cases hcount : count ≤ stream.length
  · exact ⟨.whole, _, nofun, if_pos hcount⟩
  · exact ⟨.short stream.length, _, nofun,
      if_pos ⟨hne, Nat.lt_of_not_le hcount, Nat.le_refl _⟩⟩

/-- A read that returns all it asks for waits until it is there. -/
theorem receiveHeader_whole (hidle : c.phase = .idle) (buf : Mem) :
    receiveHeader k cap c buf .whole = Conn.step k cap c (.readHeader buf) := by
  unfold receiveHeader piperead
  simp only [Conn.step, hidle]
  -- Both wait, or both read the size.
  by_cases hlen : k ≤ c.stream.length
  · rw [if_pos hlen, if_neg (Nat.not_lt.mpr hlen), Option.map_some]
    rcases afterHeader k buf (plainRead c.stream k).1 cap with ⟨mem, _ | count⟩
    · rfl
    · rfl
  · rw [if_neg hlen, if_pos (Nat.lt_of_not_le hlen), Option.map_none]

theorem receiveBody_whole {mem : Mem} {count : SizeT k} (hbody : c.phase = .body mem count) :
    receiveBody k c mem count .whole = Conn.step k cap c .readBody := by
  unfold receiveBody piperead
  simp only [Conn.step, hbody]
  by_cases hlen : count.toNat ≤ c.stream.length
  · rw [if_pos hlen, if_neg (Nat.not_lt.mpr hlen), Option.map_some]
  · rw [if_neg hlen, if_pos (Nat.lt_of_not_le hlen), Option.map_none]

/-- What a first read can do: the call is over with nothing received, or the
    receiver goes on to the second. -/
theorem receiveHeader_inv {buf : Mem} (h : receiveHeader k cap c buf answer = some c') :
    c'.sent = c.sent ∧ c.stream.length ≤ c'.stream.length + k ∧
      ((c'.phase = c.phase ∧ ∃ mem, c'.calls = c.calls ++ [⟨-1, mem⟩]) ∨
        (∃ mem count, c'.phase = .body mem count) ∧ c'.calls = c.calls) := by
  rcases Option.map_eq_some_iff.mp h with ⟨r, hr, hc⟩
  have hlen := piperead_inv hr
  rcases hafter : afterHeader k buf r.1 cap with ⟨mem, _ | count⟩
  · simp only [hafter] at hc
    rw [← hc]
    exact ⟨rfl, hlen, Or.inl ⟨rfl, mem, rfl⟩⟩
  · simp only [hafter] at hc
    rw [← hc]
    exact ⟨rfl, hlen, Or.inr ⟨⟨mem, count, rfl⟩, rfl⟩⟩

/-- After a second read the call is over. -/
theorem receiveBody_inv {mem : Mem} {count : SizeT k}
    (h : receiveBody k c mem count answer = some c') :
    c'.sent = c.sent ∧ c'.phase = .idle ∧ ∃ call, c'.calls = c.calls ++ [call] := by
  rcases Option.map_eq_some_iff.mp h with ⟨r, _, rfl⟩
  exact ⟨rfl, rfl, _, rfl⟩

/-- One call more hands on one message at most. -/
theorem handedOn_concat (calls : List Call) (call : Call) :
    ((calls ++ [call]).filterMap (handedOn k)).length ≤
      (calls.filterMap (handedOn k)).length + 1 := by
  rw [List.filterMap_append, List.length_append]
  have hone : ([call].filterMap (handedOn k)).length ≤ [call].length :=
    List.length_filterMap_le _ _
  exact Nat.add_le_add_left hone _

/-- A call whose reads return all they ask for is one of the receiving loop: it
    takes the same bytes, and hands on the same message or none. -/
theorem serverProc_receive {buf : Mem} (hidle : c.phase = .idle)
    (hhead : receiveHeader k cap c buf .whole = some c') :
    (c'.phase = .idle → serverProc k cap ⟨c.stream, c.calls.filterMap (handedOn k)⟩ (some buf) =
      some ⟨c'.stream, c'.calls.filterMap (handedOn k)⟩) ∧
    ∀ mem count c'', c'.phase = .body mem count →
      receiveBody k c' mem count .whole = some c'' →
      serverProc k cap ⟨c.stream, c.calls.filterMap (handedOn k)⟩ (some buf) =
        some ⟨c''.stream, c''.calls.filterMap (handedOn k)⟩ := by
  -- Either way it is the value returned that is looked at.
  have hserve : ∀ call : Call,
      (if call.ret.toInt ≤ 0 then c.calls.filterMap (handedOn k)
        else c.calls.filterMap (handedOn k) ++ [(handlerOf (ctrlTypeOf k call.mem), call)]) =
      (c.calls ++ [call]).filterMap (handedOn k) := by
    intro call
    rw [List.filterMap_append]
    unfold handedOn
    by_cases hret : call.ret.toInt ≤ 0
    · simp only [List.filterMap_cons, List.filterMap_nil, if_pos hret, List.append_nil]
    · simp only [List.filterMap_cons, List.filterMap_nil, if_neg hret]
  refine ⟨fun hover => ?_, fun mem count c'' hbody hsecond => ?_⟩
  · -- There was no size, or it was refused.
    rcases Option.map_eq_some_iff.mp hhead with ⟨r, hr, hc⟩
    simp only [piperead, Option.ite_none_right_eq_some, Option.some.injEq] at hr
    rcases hafter : afterHeader k buf r.1 cap with ⟨mem, _ | count⟩
    · simp only [hafter] at hc
      have hneg : (-1 : CInt).toInt ≤ 0 := by decide
      rw [← hc, ← hserve, if_pos hneg]
      rw [← hr.2] at hafter ⊢
      simp only [serverProc, msgrcv, hafter, if_pos hneg]
    · simp only [hafter] at hc
      rw [← hc] at hover
      cases hover
  · -- Both reads came to something.
    rw [receiveHeader_whole hidle] at hhead
    rw [@receiveBody_whole k cap c' mem count hbody] at hsecond
    rcases readHeader_readBody hhead hsecond with ⟨hstream, hcalls, _⟩
    rw [hstream, hcalls, ← hserve]
    unfold serverProc
    by_cases hret : (msgrcv k plainRead c.stream buf cap).ret.toInt ≤ 0
    · simp only [if_pos hret]
    · simp only [if_neg hret]

/-- What becomes of messages that were received as they were sent. -/
theorem handed_of_returns {calls : List Call} {msgs : List (List UInt8)} (hk : 0 < k)
    (hcap : cap.toNat < 2 ^ 31) (h : List.Forall₂ (Returns k) calls msgs)
    (hfits : ∀ msg ∈ msgs, Fits k cap msg) :
    List.Forall₂ (HandedOn k) (calls.filterMap (handedOn k)) msgs := by
  induction h with
  | nil => exact List.Forall₂.nil
  | @cons call msg calls msgs hreturns _ ih =>
      have hmsg := hfits msg List.mem_cons_self
      have hlen := hmsg.1
      have hle := hmsg.2
      -- A message is not empty, so it does not look like a failure.
      have hpos : ¬ call.ret.toInt ≤ 0 := by
        rw [hreturns.ret_toInt (by omega)]
        omega
      have hhanded : handedOn k call = some (handlerOf (ctrlTypeOf k call.mem), call) := if_neg hpos
      rw [List.filterMap_cons, hhanded]
      exact List.Forall₂.cons ⟨hreturns, fun t ht => by rw [hreturns.ctrlType ht]⟩
        (ih (fun m hm => hfits m (List.mem_cons_of_mem _ hm)))

end Reads

end Conn

end Taoshan

import Taoshan.Lib.Bytes

/-!
# Messages on a Control Pipe

`loc_eng_dmn_conn_glue_msgsnd` and `loc_eng_dmn_conn_glue_msgrcv`. A message
starts with its own size, `msgsz`, which is set by the sender and counts
itself. The receiver reads that field, compares it with the size of its buffer,
and reads as many bytes more as the difference says.

Everything is said for a `size_t` of `k` bytes, least significant first, and
subtraction wraps. `int` has 32 bits. What a read returns is left open: it may
fail, and it may return fewer bytes than it was asked for. The receiver is cut
in two at its second read, since the sender may write in between.

Only the upper bound of the size is checked. A size smaller than the field
itself makes the difference wrap, and the second read is then asked for almost
the whole address space (`msgrcv_overrun`). It stays in the buffer in all other
cases (`msgrcv_bounded_iff`).

## Main definitions

* `SizeT`, `ReadResult`: `size_t`, and what a read returns.
* `afterHeader`, `afterBody`: The receiver, after each of its reads.
* `msgrcv`, `Received.Within`: The receiver, over a given pipe, and whether its
  reads stay in the buffer.
* `msgsnd`: The sender.

## Theorems

* `header_complete_iff`: When the first read counts as complete.
* `afterHeader_complete`, `complete_of_afterHeader`: When there is a second, and
  how much it asks for.
* `msgrcv_bounded_iff`: When all reads stay in the buffer.
-/

namespace Taoshan

namespace Conn

open Bytes

/-- `size_t` of `k` bytes. -/
abbrev SizeT (k : Nat) := BitVec (8 * k)

/-- `int`. -/
abbrev CInt := BitVec 32

/-- The bytes a read has returned, or `none` if it has failed. -/
abbrev ReadResult := Option (List UInt8)

/-- The value `read` returns, as an `int`. -/
def ReadResult.value : ReadResult → CInt
  | none => -1
  | some bs => BitVec.ofNat 32 bs.length

/-- Converting an `int` to a `size_t`. -/
def intToSize (k : Nat) (i : CInt) : SizeT k := i.signExtend (8 * k)

/-- The cast of a `size_t` to `int`. -/
def sizeToInt {k : Nat} (n : SizeT k) : CInt := n.setWidth 32

/-- `sizeof(pmsg->msgsz)`. -/
def sizeofMsgsz (k : Nat) : SizeT k := BitVec.ofNat (8 * k) k

/-- `pmsg->msgsz`, the first field of the message in memory. -/
def msgszOf (k : Nat) (mem : Mem) : SizeT k := BitVec.ofNat (8 * k) (decode (peek mem 0 k))

/-- What a read leaves in memory. -/
def store (mem : Mem) (off : Nat) : ReadResult → Mem
  | none => mem
  | some bs => poke mem off bs

/-- The receiver after its first read: how many bytes more it asks for, or
    `none` if it gives up. -/
def afterHeader (k : Nat) (mem : Mem) (result : ReadResult) (msgbufsz : SizeT k) :
    Mem × Option (SizeT k) :=
  let mem := store mem 0 result
  -- The `int` is converted for the comparison with a `size_t`.
  if intToSize k result.value ≠ sizeofMsgsz k then (mem, none)
  else if msgbufsz < msgszOf k mem then (mem, none)
  -- The difference wraps if the size does not count its own field.
  else (mem, some (msgszOf k mem - sizeofMsgsz k))

/-- The receiver after its second read, with what it returns. -/
def afterBody (k : Nat) (mem : Mem) (result : ReadResult) : Mem × CInt :=
  let mem := store mem k result
  if result.value ≠ sizeToInt (msgszOf k mem - sizeofMsgsz k) then (mem, -1)
  else (mem, sizeToInt (msgszOf k mem))

/-- What a call of the receiver leaves behind: the value returned, the buffer
    and what lies behind it, the reads it asked for, as offset and count, and
    the pipe. -/
structure Received (σ : Type*) where
  ret : CInt
  mem : Mem
  asked : List (Nat × Nat)
  pipe : σ

/-- `loc_eng_dmn_conn_glue_msgrcv`, reading with `piperead`. -/
def msgrcv {σ : Type*} (k : Nat) (piperead : σ → Nat → ReadResult × σ) (pipe : σ) (mem : Mem)
    (msgbufsz : SizeT k) : Received σ :=
  let r := piperead pipe k
  match afterHeader k mem r.1 msgbufsz with
  | (mem, none) => ⟨-1, mem, [(0, k)], r.2⟩
  | (mem, some count) =>
      let q := piperead r.2 count.toNat
      let done := afterBody k mem q.1
      ⟨done.2, done.1, [(0, k), (k, count.toNat)], q.2⟩

/-- All reads of a call stay within so many bytes. -/
def Received.Within {σ : Type*} (r : Received σ) (size : Nat) : Prop :=
  ∀ q ∈ r.asked, q.1 + q.2 ≤ size

instance {σ : Type*} (r : Received σ) (size : Nat) : Decidable (r.Within size) :=
  inferInstanceAs (Decidable (∀ q ∈ r.asked, _))

/-- The bytes the sender writes: the message with its size in the first field. -/
def frame (k : Nat) (msg : List UInt8) : List UInt8 := encode k msg.length ++ msg.drop k

/-- `loc_eng_dmn_conn_glue_msgsnd`, writing with `pipewrite`. -/
def msgsnd {σ : Type*} (k : Nat) (pipewrite : σ → List UInt8 → CInt × σ) (pipe : σ)
    (msg : List UInt8) : CInt × σ :=
  let r := pipewrite pipe (frame k msg)
  if r.1 ≠ sizeToInt (BitVec.ofNat (8 * k) msg.length : SizeT k) then (-1, r.2) else r

section Width

variable {k : Nat}

theorem lt_two_pow_width (k : Nat) : k < 2 ^ (8 * k) :=
  lt_of_lt_of_le Nat.lt_two_pow_self (Nat.pow_le_pow_right (by omega) (by omega))

theorem two_pow_width (k : Nat) : 2 ^ (8 * k) = 256 ^ k := by
  rw [Nat.pow_mul]

@[simp] theorem sizeofMsgsz_toNat (k : Nat) : (sizeofMsgsz k).toNat = k := by
  unfold sizeofMsgsz
  rw [BitVec.toNat_ofNat, Nat.mod_eq_of_lt (lt_two_pow_width k)]

/-- The size field is the number its bytes stand for. -/
@[simp] theorem msgszOf_toNat (k : Nat) (mem : Mem) :
    (msgszOf k mem).toNat = decode (peek mem 0 k) := by
  have hlt := decode_lt (peek mem 0 k)
  rw [peek_length, ← two_pow_width] at hlt
  unfold msgszOf
  rw [BitVec.toNat_ofNat, Nat.mod_eq_of_lt hlt]

/-- A count that fits an `int` becomes the `size_t` of the same value. -/
theorem intToSize_ofNat {n : Nat} (hn : n < 2 ^ 31) :
    intToSize k (BitVec.ofNat 32 n) = BitVec.ofNat (8 * k) n := by
  have hint : (BitVec.ofNat 32 n).toInt = n := by
    rw [BitVec.toInt_ofNat', Int.bmod_eq_of_le (by omega) (by omega)]
  unfold intToSize BitVec.signExtend
  rw [hint, BitVec.ofInt_natCast]

/-- A read of the whole size field counts as complete. -/
theorem intToSize_value (hint : k < 2 ^ 31) {bs : List UInt8} (hlen : bs.length = k) :
    intToSize k (ReadResult.value (some bs)) = sizeofMsgsz k := by
  unfold ReadResult.value sizeofMsgsz
  simp only [hlen]
  exact intToSize_ofNat hint

/-- A read that has failed is not one of `sizeof(size_t)` bytes. -/
theorem intToSize_neg_one_ne (hk : 0 < k) : intToSize k (-1) ≠ sizeofMsgsz k := by
  intro heq
  have hval := congrArg BitVec.toNat heq
  have hall : intToSize k (-1) = BitVec.allOnes (8 * k) := by
    unfold intToSize BitVec.signExtend
    rw [show (-1 : CInt).toInt = -1 by decide, BitVec.ofInt_neg, ← BitVec.neg_one_eq_allOnes]
    rfl
  rw [hall, BitVec.toNat_allOnes, sizeofMsgsz_toNat] at hval
  -- `2 ^ w - 1` is more than the number of bytes.
  have hlt : k + 1 < 2 ^ (8 * k) :=
    lt_of_le_of_lt (by omega : k + 1 ≤ 8 * k) Nat.lt_two_pow_self
  omega

/-- The first read counts as complete when it has returned the whole field. -/
theorem header_complete_iff (hk : 0 < k) (hint : k < 2 ^ 31) {result : ReadResult}
    (hlen : ∀ bs, result = some bs → bs.length ≤ k) :
    intToSize k result.value = sizeofMsgsz k ↔ ∃ bs, result = some bs ∧ bs.length = k := by
  cases result with
  | none => exact ⟨fun h => absurd h (intToSize_neg_one_ne hk), fun ⟨_, h, _⟩ => nomatch h⟩
  | some bs =>
      have hle := hlen bs rfl
      have hpow := lt_two_pow_width k
      constructor
      · intro h
        have hval := congrArg BitVec.toNat h
        unfold ReadResult.value at hval
        simp only [intToSize_ofNat (by omega : bs.length < 2 ^ 31)] at hval
        rw [sizeofMsgsz_toNat, BitVec.toNat_ofNat, Nat.mod_eq_of_lt (by omega)] at hval
        exact ⟨bs, rfl, hval⟩
      · rintro ⟨bs', hbs, hlen'⟩
        rw [hbs]
        exact intToSize_value hint hlen'

end Width

section Receive

variable {k : Nat} {σ : Type*} {piperead : σ → Nat → ReadResult × σ} {pipe : σ} {mem : Mem}
  {msgbufsz : SizeT k}

/-- The size field after a complete first read. -/
theorem msgszOf_header {bs : List UInt8} (hlen : bs.length = k) :
    peek (store mem 0 (some bs)) 0 k = bs := by
  have hread := peek_poke_self mem 0 bs
  rw [hlen] at hread
  exact hread

/-- How much more the receiver asks for. -/
theorem body_count_toNat (len : SizeT k) :
    (len - sizeofMsgsz k).toNat =
      if k ≤ len.toNat then len.toNat - k else 2 ^ (8 * k) + len.toNat - k := by
  have hlen := len.isLt
  have hpow := lt_two_pow_width k
  rw [BitVec.toNat_sub, sizeofMsgsz_toNat]
  by_cases hle : k ≤ len.toNat
  · rw [if_pos hle, show 2 ^ (8 * k) - k + len.toNat = len.toNat - k + 2 ^ (8 * k) by omega,
      Nat.add_mod_right, Nat.mod_eq_of_lt (by omega)]
  · rw [if_neg hle, Nat.mod_eq_of_lt (by omega)]
    omega

/-- After a complete first read with a size that the buffer holds, the receiver
    goes on to a second. -/
theorem afterHeader_complete (hint : k < 2 ^ 31) (mem : Mem) {bs : List UInt8}
    (hlen : bs.length = k) (hle : decode bs ≤ msgbufsz.toNat) :
    ∃ count, (afterHeader k mem (some bs) msgbufsz).2 = some count ∧
      count.toNat = if k ≤ decode bs then decode bs - k else 2 ^ (8 * k) + decode bs - k := by
  have hvalue := intToSize_value hint hlen
  have hfield : (msgszOf k (store mem 0 (some bs))).toNat = decode bs := by
    rw [msgszOf_toNat, msgszOf_header hlen]
  have hroom : ¬ msgbufsz < msgszOf k (store mem 0 (some bs)) := by
    rw [BitVec.lt_def, hfield]
    exact Nat.not_lt.mpr hle
  refine ⟨msgszOf k (store mem 0 (some bs)) - sizeofMsgsz k, ?_, ?_⟩
  · unfold afterHeader
    simp only [hvalue, ne_eq, not_true_eq_false, if_false, if_neg hroom]
  · rw [body_count_toNat, hfield]

/-- There is no second read otherwise. -/
theorem complete_of_afterHeader (hk : 0 < k) (hint : k < 2 ^ 31) {result : ReadResult}
    (hread : ∀ bs, result = some bs → bs.length ≤ k) {count : SizeT k}
    (hcount : (afterHeader k mem result msgbufsz).2 = some count) :
    ∃ bs, result = some bs ∧ bs.length = k ∧ decode bs ≤ msgbufsz.toNat := by
  unfold afterHeader at hcount
  by_cases hdone : intToSize k result.value = sizeofMsgsz k
  · rcases (header_complete_iff hk hint hread).mp hdone with ⟨bs, rfl, hlen⟩
    refine ⟨bs, rfl, hlen, ?_⟩
    by_contra hbig
    have hlt : msgbufsz < msgszOf k (store mem 0 (some bs)) := by
      rw [BitVec.lt_def, msgszOf_toNat, msgszOf_header hlen]
      exact Nat.lt_of_not_le hbig
    simp only [hdone, ne_eq, not_true_eq_false, if_false, if_pos hlt, reduceCtorEq] at hcount
  · simp only [hdone, ne_eq, not_false_eq_true, if_true, reduceCtorEq] at hcount

/-- The first read stays in a buffer that holds a size field, so only a second
    one can leave it. -/
theorem msgrcv_within_iff {size : Nat} (hcap : k ≤ size) :
    (msgrcv k piperead pipe mem msgbufsz).Within size ↔
      ∀ count, (afterHeader k mem (piperead pipe k).1 msgbufsz).2 = some count →
        k + count.toNat ≤ size := by
  unfold Received.Within msgrcv
  rcases hafter : afterHeader k mem (piperead pipe k).1 msgbufsz with ⟨mem', _ | count⟩
  · simp only [hafter, List.mem_singleton, forall_eq, Nat.zero_add, hcap, reduceCtorEq,
      false_implies, implies_true]
  · simp only [hafter, List.mem_cons, List.not_mem_nil, or_false, forall_eq_or_imp, forall_eq,
      Nat.zero_add, hcap, true_and, Option.some.injEq, forall_eq']

/-- All reads of a call stay in the buffer if and only if the first read comes
    back short, or the size is more than the buffer holds, or the size counts
    at least itself. -/
theorem msgrcv_bounded_iff (hk : 0 < k) (hint : k < 2 ^ 31)
    (hread : ∀ bs, (piperead pipe k).1 = some bs → bs.length ≤ k)
    (hcap : k ≤ msgbufsz.toNat) :
    (msgrcv k piperead pipe mem msgbufsz).Within msgbufsz.toNat ↔
      ∀ bs, (piperead pipe k).1 = some bs → bs.length = k →
        msgbufsz.toNat < decode bs ∨ k ≤ decode bs := by
  have hbuf := msgbufsz.isLt
  rw [msgrcv_within_iff hcap]
  constructor
  · intro hall bs hbs hlen
    by_contra hbad
    rw [not_or, Nat.not_lt, Nat.not_le] at hbad
    rcases hbad with ⟨hle, hsmall⟩
    rcases afterHeader_complete hint mem hlen hle with ⟨count, hcount, hnat⟩
    have hsecond := hall count (by rw [hbs, hcount])
    -- The difference has wrapped.
    rw [hnat, if_neg (Nat.not_le.mpr hsmall)] at hsecond
    omega
  · intro hall count hcount
    rcases complete_of_afterHeader hk hint hread hcount with ⟨bs, hbs, hlen, hle⟩
    have hge : k ≤ decode bs := (hall bs hbs hlen).resolve_left (Nat.not_lt.mpr hle)
    rcases afterHeader_complete hint mem hlen hle with ⟨count', hcount', hnat⟩
    rw [hbs, hcount', Option.some.injEq] at hcount
    rw [← hcount, hnat, if_pos hge]
    omega

/-- A pipe that holds bytes and returns as many as it is asked for and has. -/
def plainRead (pipe : List UInt8) (count : Nat) : ReadResult × List UInt8 :=
  (some (pipe.take count), pipe.drop count)

/-- A message with a size that counts itself. -/
theorem msgrcv_bounded_plain :
    (msgrcv 4 plainRead [6, 0, 0, 0, 1, 2] (fun _ => 0) 276).Within (276 : SizeT 4).toNat :=
  (msgrcv_bounded_iff (by decide) (by decide)
    (fun bs hbs => by
      rw [← Option.some.inj hbs]
      decide)
    (by decide)).mpr (fun bs hbs _ => by
      rw [← Option.some.inj hbs]
      exact Or.inr (by decide))

/-- A size of zero: the second read is asked for all but four bytes of the
    address space, into a buffer of 276. -/
theorem msgrcv_overrun :
    ¬ (msgrcv 4 plainRead [0, 0, 0, 0] (fun _ => 0) 276).Within (276 : SizeT 4).toNat := by
  decide

end Receive

end Conn

end Taoshan

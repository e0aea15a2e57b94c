import Mathlib.Data.Nat.Digits.Defs
import Mathlib.Tactic.Common

/-!
# Bytes and Memory

Numbers of a fixed width as bytes, least significant first, and a memory that
bytes are written to and read from.

`encode` writes a number in a given number of bytes and forgets what does not
fit; `decode` is Mathlib's `Nat.ofDigits` over the bytes. The memory is total,
so that a write past the end of a buffer is a write like any other and can be
spoken of.

## Main definitions

* `encode`, `decode`: A number in a given number of bytes.
* `Mem`, `peek`, `poke`: A memory, reading and writing it.

## Theorems

* `decode_encode`: What fits is read back.
* `decode_lt`: What is read fits.
* `peek_poke_self`: What was written is read.
* `peek_poke_before`: What lies in front of a write is not affected by it.
* `peek_add`: Reading in two parts.
* `poke_append`, `poke_cover`: Writing in two parts, and writing twice.
* `peek_poke_inside`: A read inside what was written does not see the rest.
* `poke_outside`, `peek_poke_take`, `peek_poke_drop`: A write, byte by byte, and
  the parts of it.
-/

namespace Taoshan

namespace Bytes

/-- A number in `k` bytes, least significant first. -/
def encode : Nat → Nat → List UInt8
  | 0, _ => []
  | k + 1, n => UInt8.ofNat n :: encode k (n / 256)

/-- The number a sequence of bytes stands for, least significant first. -/
def decode (bs : List UInt8) : Nat := Nat.ofDigits 256 (bs.map UInt8.toNat)

@[simp] theorem encode_length (k n : Nat) : (encode k n).length = k := by
  induction k generalizing n with
  | zero => rfl
  | succ k ih =>
      unfold encode
      rw [List.length_cons, ih]

/-- What fits in the bytes is read back. -/
theorem decode_encode {k n : Nat} (h : n < 256 ^ k) : decode (encode k n) = n := by
  induction k generalizing n with
  | zero =>
      have hn : n = 0 := by
        rw [pow_zero] at h
        omega
      rw [hn]
      rfl
  | succ k ih =>
      -- One byte is split off, and what is left fits in one byte less.
      have hdiv : n / 256 < 256 ^ k := by
        rw [Nat.div_lt_iff_lt_mul (by omega), ← pow_succ]
        exact h
      have hbyte : (UInt8.ofNat n).toNat = n % 256 := UInt8.toNat_ofNat'
      have hrest := ih hdiv
      unfold decode at hrest ⊢
      unfold encode
      rw [List.map_cons, Nat.ofDigits_cons, hrest, hbyte]
      omega

/-- What the bytes stand for fits in them. -/
theorem decode_lt (bs : List UInt8) : decode bs < 256 ^ bs.length := by
  have h : Nat.ofDigits 256 (bs.map UInt8.toNat) < 256 ^ (bs.map UInt8.toNat).length := by
    refine Nat.ofDigits_lt_base_pow_length (by omega) (fun x hx => ?_)
    rcases List.mem_map.mp hx with ⟨b, _, rfl⟩
    exact b.toNat_lt
  rw [List.length_map] at h
  exact h

/-- A memory, from some address on. -/
abbrev Mem := Nat → UInt8

/-- Read `n` bytes at an offset. -/
def peek (m : Mem) (off n : Nat) : List UInt8 := (List.range n).map fun i => m (off + i)

/-- Write bytes at an offset. -/
def poke (m : Mem) (off : Nat) (bs : List UInt8) : Mem := fun i =>
  if off ≤ i then (bs[i - off]?).getD (m i) else m i

@[simp] theorem peek_length (m : Mem) (off n : Nat) : (peek m off n).length = n := by
  unfold peek
  rw [List.length_map, List.length_range]

/-- What was written is read. -/
theorem peek_poke_self (m : Mem) (off : Nat) (bs : List UInt8) :
    peek (poke m off bs) off bs.length = bs := by
  refine List.ext_getElem (peek_length _ _ _) (fun i hi hi' => ?_)
  have hsub : off + i - off = i := by omega
  simp only [peek, poke, List.getElem_map, List.getElem_range, Nat.le_add_right, if_true, hsub,
    List.getElem?_eq_getElem hi', Option.getD_some]

/-- What lies in front of a write is not affected by it. -/
theorem peek_poke_before (m : Mem) {off off' n : Nat} (bs : List UInt8) (h : off' + n ≤ off) :
    peek (poke m off bs) off' n = peek m off' n := by
  refine List.map_congr_left (fun i hi => ?_)
  have hlt := List.mem_range.mp hi
  exact if_neg (by omega)

/-- Reading in two parts. -/
theorem peek_add (m : Mem) (off a b : Nat) :
    peek m off (a + b) = peek m off a ++ peek m (off + a) b := by
  unfold peek
  rw [List.range_add, List.map_append, List.map_map]
  congr 1
  refine List.map_congr_left (fun i _ => ?_)
  rw [Function.comp_apply, Nat.add_assoc]

/-- What is written to the front is there, and the old bytes behind it. -/
theorem poke_zero (m : Mem) (bs : List UInt8) (i : Nat) : poke m 0 bs i = (bs[i]?).getD (m i) := by
  unfold poke
  rw [if_pos (Nat.zero_le i), Nat.sub_zero]

/-- Writing in two parts. -/
theorem poke_append (m : Mem) (off : Nat) (xs ys : List UInt8) :
    poke (poke m off xs) (off + xs.length) ys = poke m off (xs ++ ys) := by
  funext i
  unfold poke
  by_cases hfirst : off ≤ i
  · by_cases hsecond : off + xs.length ≤ i
    · have hsub : i - off - xs.length = i - (off + xs.length) := by omega
      rw [if_pos hsecond, if_pos hfirst, if_pos hfirst, List.getElem?_append_right (by omega), hsub,
        List.getElem?_eq_none (l := xs) (by omega), Option.getD_none]
    · rw [if_neg hsecond, if_pos hfirst, if_pos hfirst, List.getElem?_append_left (by omega)]
  · rw [if_neg (by omega), if_neg hfirst, if_neg hfirst]

/-- A write over all of an earlier one leaves nothing of it. -/
theorem poke_cover (m : Mem) (off : Nat) {xs ys : List UInt8} (h : xs.length ≤ ys.length) :
    poke (poke m off xs) off ys = poke m off ys := by
  funext i
  unfold poke
  by_cases hfirst : off ≤ i
  · rw [if_pos hfirst, if_pos hfirst, if_pos hfirst]
    by_cases hin : i - off < ys.length
    · rw [List.getElem?_eq_getElem hin, Option.getD_some, Option.getD_some]
    · rw [List.getElem?_eq_none (l := xs) (by omega), Option.getD_none]
  · rw [if_neg hfirst, if_neg hfirst, if_neg hfirst]

/-- A read inside what was written to the front does not see the rest. -/
theorem peek_poke_inside (m m' : Mem) {bs : List UInt8} {off n : Nat} (h : off + n ≤ bs.length) :
    peek (poke m 0 bs) off n = peek (poke m' 0 bs) off n := by
  refine List.map_congr_left (fun i hi => ?_)
  have hlt := List.mem_range.mp hi
  have hin : off + i < bs.length := by omega
  rw [poke_zero, poke_zero, List.getElem?_eq_getElem hin, Option.getD_some, Option.getD_some]

/-- A write changes nothing else. -/
theorem poke_outside (m : Mem) {off i : Nat} {bs : List UInt8}
    (h : i < off ∨ off + bs.length ≤ i) : poke m off bs i = m i := by
  unfold poke
  rcases h with h | h
  · exact if_neg (by omega)
  · rw [if_pos (by omega), List.getElem?_eq_none (by omega), Option.getD_none]

theorem poke_singleton_self (m : Mem) (off : Nat) (b : UInt8) : poke m off [b] off = b := by
  simp only [poke, Nat.le_refl, if_true, Nat.sub_self, List.getElem?_cons_zero, Option.getD_some]

/-- What is read depends on the bytes that are read. -/
theorem peek_congr {m m' : Mem} {off n : Nat} (h : ∀ i, off ≤ i → i < off + n → m' i = m i) :
    peek m' off n = peek m off n := by
  refine List.map_congr_left (fun i hi => ?_)
  have hlt := List.mem_range.mp hi
  exact h (off + i) (by omega) (by omega)

/-- The two parts of what was written. -/
theorem peek_poke_parts (m : Mem) (off : Nat) {bs : List UInt8} {a b : Nat}
    (h : bs.length = a + b) :
    peek (poke m off bs) off a = bs.take a ∧ peek (poke m off bs) (off + a) b = bs.drop a := by
  have hall := peek_poke_self m off bs
  rw [h, peek_add] at hall
  have hlen := peek_length (poke m off bs) off a
  exact List.append_inj (hall.trans (List.take_append_drop a bs).symm)
    (by rw [hlen, List.length_take]; omega)

theorem peek_poke_take (m : Mem) (off : Nat) {bs : List UInt8} {n : Nat} (h : n ≤ bs.length) :
    peek (poke m off bs) off n = bs.take n :=
  (peek_poke_parts m off (by omega : bs.length = n + (bs.length - n))).1

theorem peek_poke_drop (m : Mem) (off : Nat) {bs : List UInt8} {a b : Nat}
    (h : bs.length = a + b) : peek (poke m off bs) (off + a) b = bs.drop a :=
  (peek_poke_parts m off h).2

end Bytes

end Taoshan

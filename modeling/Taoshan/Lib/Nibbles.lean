import Mathlib.Data.List.Basic
import Mathlib.Tactic.Common

/-!
# Nibbles

The two halves of a byte, and two ways to write bytes and digits through them.

In upper case hexadecimal a byte is two characters, the high half first. In
packed decimal a byte is two digits, the low half first; a half above nine is
filler and stands for no digit, so a sequence of odd length can be packed.

## Main definitions

* `low`, `high`, `join`: The halves of a byte, and a byte of two halves.
* `hexOf`, `unhex`: Bytes as upper case hexadecimal, and back.
* `IsUpperHex`, `IsDecimal`: The characters of the two.
* `unpack`, `pack`: The digits in packed bytes, and packing digits.

## Theorems

* `low_join`, `high_join`: The halves of a byte made of two.
* `unhex_hexOf`: What was written in hexadecimal is read back.
* `hexOf_upper`: It is written in upper case digits.
* `hexOf_append`: Bytes behind bytes.
* `unpack_pack`: What was packed is unpacked.
-/

namespace Taoshan

namespace Nibbles

def low (c : UInt8) : UInt8 := c &&& 0x0F

def high (c : UInt8) : UInt8 := c >>> 4

def join (lo hi : UInt8) : UInt8 := hi <<< 4 ||| lo

section Halves

@[simp] theorem low_toNat (c : UInt8) : (low c).toNat = c.toNat % 16 := by
  unfold low
  rw [UInt8.toNat_and]
  exact Nat.and_two_pow_sub_one_eq_mod c.toNat 4

@[simp] theorem high_toNat (c : UInt8) : (high c).toNat = c.toNat / 16 := by
  unfold high
  rw [UInt8.toNat_shiftRight]
  exact Nat.shiftRight_eq_div_pow c.toNat 4

/-- The value of two nibbles. -/
theorem join_toNat {lo hi : UInt8} (hlo : lo.toNat < 16) (hhi : hi.toNat < 16) :
    (join lo hi).toNat = 16 * hi.toNat + lo.toNat := by
  have hshift : (hi <<< 4).toNat = hi.toNat <<< 4 := by
    rw [UInt8.toNat_shiftLeft]
    refine Nat.mod_eq_of_lt ?_
    have h4 : (4 : UInt8).toNat % 8 = 4 := rfl
    rw [h4, Nat.shiftLeft_eq]
    omega
  have hdisjoint := Nat.shiftLeft_add_eq_or_of_lt (i := 4) hlo hi.toNat
  unfold join
  rw [UInt8.toNat_or, hshift, ← hdisjoint, Nat.shiftLeft_eq]
  omega

/-- Which come out again. -/
theorem low_join {lo hi : UInt8} (hlo : lo.toNat < 16) (hhi : hi.toNat < 16) :
    low (join lo hi) = lo := by
  refine UInt8.toNat_inj.mp ?_
  rw [low_toNat, join_toNat hlo hhi]
  omega

theorem high_join {lo hi : UInt8} (hlo : lo.toNat < 16) (hhi : hi.toNat < 16) :
    high (join lo hi) = hi := by
  refine UInt8.toNat_inj.mp ?_
  rw [high_toNat, join_toNat hlo hhi]
  omega

end Halves

section Hexadecimal

/-- The character of a digit below sixteen. -/
def hexDigit (d : Nat) : UInt8 := UInt8.ofNat (if d < 10 then 0x30 + d else 0x41 + (d - 10))

/-- An upper case hexadecimal digit. -/
def IsUpperHex (c : UInt8) : Prop := 0x30 ≤ c ∧ c ≤ 0x39 ∨ 0x41 ≤ c ∧ c ≤ 0x46

instance (c : UInt8) : Decidable (IsUpperHex c) := inferInstanceAs (Decidable (_ ∨ _))

/-- The value of an upper case hexadecimal digit. -/
def hexValue (c : UInt8) : Option Nat :=
  if 0x30 ≤ c ∧ c ≤ 0x39 then some (c.toNat - 0x30)
  else if 0x41 ≤ c ∧ c ≤ 0x46 then some (c.toNat - 0x41 + 10)
  else none

/-- Bytes in hexadecimal. -/
def hexOf (bs : List UInt8) : List UInt8 :=
  bs.flatMap fun c => [hexDigit (c.toNat / 16), hexDigit (c.toNat % 16)]

/-- The bytes that pairs of hexadecimal digits stand for. -/
def unhex : List UInt8 → Option (List UInt8)
  | [] => some []
  | [_] => none
  | a :: b :: rest =>
    match hexValue a, hexValue b with
    | some x, some y => (unhex rest).map fun bs => UInt8.ofNat (16 * x + y) :: bs
    | _, _ => none

/-- A digit is read as what it was written for. -/
theorem hexValue_hexDigit : ∀ d < 16, hexValue (hexDigit d) = some d := by decide

theorem hexDigit_upper : ∀ d < 16, IsUpperHex (hexDigit d) := by decide

theorem hexOf_cons (c : UInt8) (bs : List UInt8) :
    hexOf (c :: bs) = hexDigit (c.toNat / 16) :: hexDigit (c.toNat % 16) :: hexOf bs := rfl

theorem hexOf_append (xs ys : List UInt8) : hexOf (xs ++ ys) = hexOf xs ++ hexOf ys :=
  List.flatMap_append

/-- A byte takes two characters. -/
@[simp] theorem length_hexOf (bs : List UInt8) : (hexOf bs).length = 2 * bs.length := by
  induction bs with
  | nil => rfl
  | cons c bs ih =>
      rw [hexOf_cons, List.length_cons, List.length_cons, List.length_cons, ih]
      omega

/-- The two digits of a byte are below sixteen. -/
theorem halves_lt (c : UInt8) : c.toNat / 16 < 16 ∧ c.toNat % 16 < 16 := by
  have hlt := c.toNat_lt
  omega

/-- All digits are upper case. -/
theorem hexOf_upper {bs : List UInt8} : ∀ c ∈ hexOf bs, IsUpperHex c := by
  intro c hc
  rcases List.mem_flatMap.mp hc with ⟨b, _, hb⟩
  rcases List.mem_cons.mp hb with rfl | hb
  · exact hexDigit_upper _ (halves_lt b).1
  · rw [List.mem_singleton.mp hb]
    exact hexDigit_upper _ (halves_lt b).2

/-- What was written in hexadecimal is read back. -/
theorem unhex_hexOf (bs : List UInt8) : unhex (hexOf bs) = some bs := by
  induction bs with
  | nil => rfl
  | cons c bs ih =>
      have hbyte : 16 * (c.toNat / 16) + c.toNat % 16 = c.toNat := by omega
      rw [hexOf_cons]
      simp only [unhex, hexValue_hexDigit _ (halves_lt c).1, hexValue_hexDigit _ (halves_lt c).2,
        ih, Option.map_some, hbyte, UInt8.ofNat_toNat]

end Hexadecimal

section PackedDecimal

/-- A decimal digit as a character. -/
def IsDecimal (c : UInt8) : Prop := 0x30 ≤ c ∧ c ≤ 0x39

instance (c : UInt8) : Decidable (IsDecimal c) := inferInstanceAs (Decidable (_ ∧ _))

/-- The character of a half, if it is a digit. -/
def digitChars (d : UInt8) : List UInt8 := if d ≤ 9 then [d + 0x30] else []

/-- The digits in packed bytes. -/
def unpack (bs : List UInt8) : List UInt8 :=
  bs.flatMap fun c => digitChars (low c) ++ digitChars (high c)

/-- Two digits in a byte, the first in its low half, and filler behind the last. -/
def pack : List UInt8 → List UInt8
  | [] => []
  | [a] => [join (a - 0x30) 0x0F]
  | a :: b :: rest => join (a - 0x30) (b - 0x30) :: pack rest

/-- The value of a digit. -/
theorem IsDecimal.value {c : UInt8} (h : IsDecimal c) :
    (c - 0x30).toNat < 16 ∧ digitChars (c - 0x30) = [c] := by
  have hlo := UInt8.le_iff_toNat_le.mp h.1
  have hhi := UInt8.le_iff_toNat_le.mp h.2
  have h30 : (0x30 : UInt8).toNat = 48 := rfl
  have h39 : (0x39 : UInt8).toNat = 57 := rfl
  have hsub : (c - 0x30).toNat = c.toNat - 48 := UInt8.toNat_sub_of_le _ _ h.1
  refine ⟨by omega, ?_⟩
  have hle : c - 0x30 ≤ 9 := UInt8.le_iff_toNat_le.mpr (by
    rw [hsub]
    change c.toNat - 48 ≤ 9
    omega)
  rw [digitChars, if_pos hle, UInt8.sub_add_cancel]

/-- What was packed is unpacked. -/
theorem unpack_pack {ds : List UInt8} (h : ∀ d ∈ ds, IsDecimal d) : unpack (pack ds) = ds := by
  induction ds using pack.induct with
  | case1 => rfl
  | case2 a =>
      have ha := (h a List.mem_cons_self).value
      have hfill : ((0x0F : UInt8)).toNat < 16 := by decide
      rw [pack, unpack, List.flatMap_singleton, low_join ha.1 hfill, high_join ha.1 hfill, ha.2]
      rfl
  | case3 a b rest ih =>
      have ha := (h a List.mem_cons_self).value
      have hb := (h b (List.mem_cons_of_mem _ List.mem_cons_self)).value
      have hrest := ih fun d hd => h d (List.mem_cons_of_mem _ (List.mem_cons_of_mem _ hd))
      unfold unpack at hrest
      rw [pack, unpack, List.flatMap_cons, hrest, low_join ha.1 hb.1, high_join ha.1 hb.1,
        ha.2, hb.2]
      rfl

end PackedDecimal

end Nibbles

end Taoshan

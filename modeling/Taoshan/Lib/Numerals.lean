import Mathlib.Algebra.Group.Nat.Defs
import Taoshan.Lib.Text

/-!
# Numerals

The digits of a number, and what `strtol` makes of them.

A numeral for a base has the digits that the number has in that base, without
leading zeros; a letter may be of either case. `strtol` reads every numeral as
the number it stands for, as long as a `long` can hold it, and as the largest
`long` otherwise.

## Main definitions

* `numeral`: The digits of a number, in lower case.
* `Numeral`: The digits of a number, in any case.
* `Digits`: A string of digits.

## Theorems

* `digits_numeral`: The digits of a number make that number.
* `Numeral.length_le`: How many there are.
* `strtol_numeral`: What `strtol` reads.
* `numeral_self`: A number's own digits.
* `strtol_numeral_ends`: The same in front of something else.
-/

namespace Taoshan

namespace Text

/-- A character's byte. -/
def byte (c : Char) : UInt8 := UInt8.ofNat c.toNat

/-- The digits of a number. -/
def numeral (base v : Nat) : List UInt8 := (Nat.toDigits base v).map byte

/-- The digits of a number, each letter in upper or lower case. -/
def Numeral (base v : Nat) (ds : List UInt8) : Prop := ds.map tolower = numeral base v

instance (base v : Nat) (ds : List UInt8) : Decidable (Numeral base v ds) :=
  inferInstanceAs (Decidable (_ = _))

/-- A string of digits. -/
def Digits (base : Nat) (ds : List UInt8) : Prop := ∀ c ∈ ds, (digitOf base c).isSome = true

section Digit

variable {base : Nat} {c : UInt8}

/-- A digit may be of either case. -/
theorem digitOf_tolower (base : Nat) (c : UInt8) : digitOf base (tolower c) = digitOf base c := by
  unfold tolower
  by_cases hc : 0x41 ≤ c ∧ c ≤ 0x5A
  · have hlo : 0x41 ≤ c.toNat := UInt8.le_iff_toNat_le.mp hc.1
    have hhi : c.toNat ≤ 0x5A := UInt8.le_iff_toNat_le.mp hc.2
    have hsum : (c + 0x20).toNat = c.toNat + 0x20 := by
      rw [UInt8.toNat_add]
      exact Nat.mod_eq_of_lt (by change c.toNat + 0x20 < 256; omega)
    rw [if_pos hc]
    unfold digitOf
    simp only [hsum]
    rw [if_neg (by omega), if_neg (by omega), if_pos (by omega), if_neg (by omega),
      if_pos (by omega)]
    exact congrArg (fun d => Option.filter _ (some d)) (by omega)
  · rw [if_neg hc]

/-- The character of a digit is that digit. -/
theorem digitOf_digitChar {d : Nat} (hd : d < base) (hbase : base ≤ 16) :
    digitOf base (byte d.digitChar) = some d := by
  have hvalue : ∀ k < 16, digitOf 16 (byte k.digitChar) = some k := by decide
  have h16 := hvalue d (by omega)
  unfold digitOf at h16 ⊢
  -- The value is that of base sixteen; it is below the base as well.
  rw [Option.filter_eq_some_iff] at h16 ⊢
  exact ⟨h16.1, decide_eq_true hd⟩

/-- No digit up to base sixteen is one of these. -/
theorem digit_ne (hbase : base ≤ 16) (hc : (digitOf base c).isSome = true) :
    isspace c = false ∧ c ≠ 0 ∧ c ≠ NL ∧ c ≠ 0x3D ∧ c ≠ 0x2D ∧ c ≠ 0x2B ∧ tolower c ≠ 0x78 := by
  have hdigits : ∀ x : Fin 256, (digitOf 16 (UInt8.ofNat x)).isSome = true →
      isspace (UInt8.ofNat x) = false ∧ UInt8.ofNat x ≠ 0 ∧ UInt8.ofNat x ≠ NL ∧
        UInt8.ofNat x ≠ 0x3D ∧ UInt8.ofNat x ≠ 0x2D ∧ UInt8.ofNat x ≠ 0x2B ∧
        tolower (UInt8.ofNat x) ≠ 0x78 := by
    decide +kernel
  have hsixteen : (digitOf 16 c).isSome = true := by
    rcases Option.isSome_iff_exists.mp hc with ⟨d, hd⟩
    unfold digitOf at hd ⊢
    rw [Option.filter_eq_some_iff] at hd
    exact Option.isSome_iff_exists.mpr ⟨d, Option.filter_eq_some_iff.mpr
      ⟨hd.1, decide_eq_true (Nat.lt_of_lt_of_le (of_decide_eq_true hd.2) hbase)⟩⟩
  have hself : UInt8.ofNat c.toNat = c := UInt8.ofNat_toNat
  have hall := hdigits ⟨c.toNat, UInt8.toNat_lt c⟩
  simp only [hself] at hall
  exact hall hsixteen

end Digit

section Number

variable {base v : Nat} {ds : List UInt8}

theorem digits_map_tolower (base acc : Nat) (ds : List UInt8) :
    digits base acc (ds.map tolower) = digits base acc ds := by
  induction ds generalizing acc with
  | nil => rfl
  | cons c cs ih =>
      rw [List.map_cons]
      unfold digits
      rw [digitOf_tolower]
      cases digitOf base c with
      | none => rfl
      | some d => exact ih _

/-- One more digit. -/
theorem digits_concat {d : Nat} {c : UInt8} (h : Digits base ds) (hc : digitOf base c = some d)
    (acc : Nat) : digits base acc (ds ++ [c]) = digits base acc ds * base + d := by
  induction ds generalizing acc with
  | nil =>
      rw [List.nil_append]
      simp only [digits, hc]
  | cons a as ih =>
      rcases Option.isSome_iff_exists.mp (h a List.mem_cons_self) with ⟨e, he⟩
      rw [List.cons_append]
      simp only [digits, he]
      exact ih (fun b hb => h b (List.mem_cons_of_mem _ hb)) _

/-- The digits of a number make that number. -/
theorem digits_numeral (hlo : 1 < base) (hbase : base ≤ 16) (v : Nat) :
    Digits base (numeral base v) ∧ digits base 0 (numeral base v) = v := by
  induction v using Nat.base_induction base hlo with
  | single m hm =>
      have hd := digitOf_digitChar hm hbase
      unfold numeral
      rw [Nat.toDigits_of_lt_base hm, List.map_singleton]
      refine ⟨fun c hc => ?_, ?_⟩
      · rw [List.mem_singleton.mp hc, hd]
        rfl
      · simp only [digits, hd]
        omega
  | digit m k hk hm ih =>
      -- The last digit goes behind those of the quotient.
      have hd := digitOf_digitChar hk hbase
      have hsplit : numeral base (base * m + k) = numeral base m ++ [byte k.digitChar] := by
        unfold numeral
        rw [← Nat.toDigits_append_toDigits hlo hm hk, Nat.toDigits_of_lt_base hk, List.map_append,
          List.map_singleton]
      rw [hsplit]
      refine ⟨fun c hc => ?_, ?_⟩
      · rcases List.mem_append.mp hc with hc | hc
        · exact ih.1 c hc
        · rw [List.mem_singleton.mp hc, hd]
          rfl
      · rw [digits_concat ih.1 hd, ih.2, Nat.mul_comm]

theorem Numeral.digits (h : Numeral base v ds) (hlo : 1 < base) (hbase : base ≤ 16) :
    Digits base ds := by
  intro c hc
  rw [← digitOf_tolower]
  refine (digits_numeral hlo hbase v).1 _ ?_
  rw [← show ds.map tolower = numeral base v from h]
  exact List.mem_map_of_mem hc

theorem Numeral.ne_nil (h : Numeral base v ds) : ds ≠ [] := by
  rintro rfl
  exact Nat.toDigits_ne_nil (List.map_eq_nil_iff.mp (show numeral base v = [] from h.symm))

/-- A number has as many digits as it needs. -/
theorem Numeral.length_le (h : Numeral base v ds) (hlo : 1 < base) {k : Nat} (hk : 0 < k)
    (hv : v < base ^ k) : ds.length ≤ k := by
  have hlen := congrArg List.length (show ds.map tolower = numeral base v from h)
  unfold numeral at hlen
  rw [List.length_map, List.length_map] at hlen
  rw [hlen]
  exact (Nat.length_toDigits_le_iff hlo hk).mpr hv

theorem sign_of_digit {c : UInt8} {cs : List UInt8} (hneg : c ≠ 0x2D) (hpos : c ≠ 0x2B) :
    sign (c :: cs) = (false, c :: cs) := by
  unfold sign
  split
  · rename_i heq
    exact absurd (List.cons.inj heq).1 hneg
  · rename_i heq
    exact absurd (List.cons.inj heq).1 hpos
  · rfl

/-- There is no prefix in front of the digits. -/
theorem skipHex_of_digits (h : Digits 16 ds) : skipHex ds = ds := by
  unfold skipHex
  split
  · rename_i x c cs
    refine if_neg (fun hx => ?_)
    exact (digit_ne (Nat.le_refl 16) (h x (List.mem_cons_of_mem _ List.mem_cons_self))).2.2.2.2.2.2
      hx.1
  · rfl

/-- What `strtol` reads. -/
theorem strtol_numeral (h : Numeral base v ds) (hlo : 1 < base) (hbase : base ≤ 16) :
    strtol base ds = if LONG_MAX < (v : Int) then LONG_MAX else v := by
  have hdigits := h.digits hlo hbase
  have hvalue : digits base 0 ds = v := by
    rw [← digits_map_tolower, show ds.map tolower = numeral base v from h]
    exact (digits_numeral hlo hbase v).2
  cases hds : ds with
  | nil => exact absurd hds h.ne_nil
  | cons c cs =>
      rw [hds] at hdigits hvalue
      rcases digit_ne hbase (hdigits c List.mem_cons_self) with
        ⟨hspace, _, _, _, hneg, hpos, _⟩
      have hdrop : (c :: cs).dropWhile isspace = c :: cs :=
        List.dropWhile_cons_of_neg (by rw [hspace]; exact Bool.false_ne_true)
      have hskip : (if base = 16 then skipHex (c :: cs) else c :: cs) = c :: cs := by
        by_cases hb : base = 16
        · rw [if_pos hb, skipHex_of_digits (hb ▸ hdigits)]
        · rw [if_neg hb]
      unfold strtol
      simp only [hdrop, sign_of_digit hneg hpos, hskip, hvalue, Bool.false_eq_true, if_false]
      refine if_neg ?_
      unfold LONG_MIN
      omega

/-- A number's own digits are a numeral of it. -/
theorem numeral_self (hlo : 1 < base) (hbase : base ≤ 16) (v : Nat) :
    Numeral base v (numeral base v) := by
  have hlower : ∀ k < 16, tolower (byte k.digitChar) = byte k.digitChar := by decide
  unfold Numeral numeral
  induction v using Nat.base_induction base hlo with
  | single m hm =>
      rw [Nat.toDigits_of_lt_base hm, List.map_singleton, List.map_singleton,
        hlower m (by omega)]
  | digit m k hk hm ih =>
      rw [← Nat.toDigits_append_toDigits hlo hm hk, Nat.toDigits_of_lt_base hk, List.map_append,
        List.map_append, ih, List.map_singleton, List.map_singleton, hlower k (by omega)]

/-- The digits end at the first byte that is none. -/
theorem digits_append {c : UInt8} (h : Digits base ds) (hc : digitOf base c = none) (acc : Nat)
    (rest : List UInt8) : digits base acc (ds ++ c :: rest) = digits base acc ds := by
  induction ds generalizing acc with
  | nil =>
      rw [List.nil_append]
      simp only [digits, hc]
  | cons a as ih =>
      rcases Option.isSome_iff_exists.mp (h a List.mem_cons_self) with ⟨d, hd⟩
      rw [List.cons_append]
      simp only [digits, hd]
      exact ih (fun b hb => h b (List.mem_cons_of_mem _ hb)) _

/-- What `strtol` reads in front of something that is no digit. -/
theorem strtol_numeral_ends {c : UInt8} (h : Numeral base v ds) (hlo : 1 < base)
    (hbase : base < 16) (hc : digitOf base c = none) (rest : List UInt8) :
    strtol base (ds ++ c :: rest) = if LONG_MAX < (v : Int) then LONG_MAX else v := by
  have hdigits := h.digits hlo hbase.le
  have hends := digits_append hdigits hc 0 rest
  rw [← strtol_numeral h hlo hbase.le]
  cases hds : ds with
  | nil => exact absurd hds h.ne_nil
  | cons a as =>
      rw [hds] at hdigits hends
      rcases digit_ne hbase.le (hdigits a List.mem_cons_self) with
        ⟨hspace, _, _, _, hneg, hpos, _⟩
      have hdrop : ∀ cs, (a :: cs).dropWhile isspace = a :: cs := fun cs =>
        List.dropWhile_cons_of_neg (by rw [hspace]; exact Bool.false_ne_true)
      rw [List.cons_append] at hends ⊢
      unfold strtol
      simp only [hdrop, sign_of_digit hneg hpos, if_neg hbase.ne, hends]

end Number

end Text

end Taoshan

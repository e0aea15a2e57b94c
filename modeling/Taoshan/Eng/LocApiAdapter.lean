import Taoshan.Lib.Bytes
import Taoshan.Lib.Nibbles

/-!
# Texts of the Modem

`LocApiAdapter::hexcode` and `LocApiAdapter::decodeAddress`, which turn bytes
of the modem into strings: any bytes into hexadecimal, and an address that is
packed in decimal into its digits.

Both are given a buffer and its size and stop where it is full. `hexcode` does
so byte by byte, and each of its writes ends the string, so the next one starts
on the NUL of the last. `decodeAddress` asks for room digit by digit, so the
buffer may become full between the two halves of a byte; it ends the string
once, behind the loop.

The buffer is memory from its first byte on, and a write behind its end is a
write like any other. `none` stands for a read behind the data and for an
overflow of `int`. `char` is unsigned. If one of its pointers is NULL,
`decodeAddress` returns 0; data that is not NULL is read once before its size is
looked at.

## Main definitions

* `snprintf`, `format02X`: What `hexcode` prints with.
* `hexLoop`, `hexcode`: The hexadecimal text of some bytes.
* `emit`, `decodeLoop`, `decodeAddress`: The digits of an address.
* `address`: What an address is decoded to.
* `Decoded`: The data is decoded to these digits.
* `encodeAddress`: An address of some digits.

## Theorems

* `hexLoop_spec`: The loop of `hexcode`, from any turn on.
* `hexcode_spec`: What `hexcode` returns and leaves.
* `decodeLoop_eq`: The loop of `decodeAddress`, from any byte on.
* `decodeAddress_spec`: What `decodeAddress` returns and leaves.
-/

namespace Taoshan

namespace LocApiAdapter

open Bytes Nibbles

def INT_MAX : Int := 0x7FFFFFFF

/-- `"%02X"`: upper case digits, two at least. -/
def format02X (v : Nat) : List UInt8 :=
  let ds := (Nat.toDigits 16 v).map fun c => UInt8.ofNat c.toUpper.toNat
  List.replicate (2 - ds.length) 0x30 ++ ds

/-- `snprintf` of a text to an offset: what fits, and a NUL. -/
def snprintf (m : Mem) (off size : Nat) (text : List UInt8) : Mem :=
  if size = 0 then m else poke m off (text.take (size - 1) ++ [0])

/-- The loop of `hexcode` at `i`, for the data from there on. -/
def hexLoop (stringSize : Int) : Nat → List UInt8 → Mem → Option (Nat × Mem)
  | i, [], m => some (i, m)
  | i, ch :: data, m =>
    if INT_MAX < (i * 2 + 3 : Int) then none
    else if (i * 2 + 3 : Int) ≤ stringSize then
      hexLoop stringSize (i + 1) data (snprintf m (i * 2) 3 (format02X ch.toNat))
    else some (i, m)

/-- `hexcode` of all bytes of `data`. -/
def hexcode (hexstring : Mem) (stringSize : Int) (data : List UInt8) : Option (Nat × Mem) :=
  hexLoop stringSize 0 data hexstring

/-- `addr_prefix`. -/
def ADDR_PREFIX : UInt8 := 0x91

/-- A half of a byte, written at `idxOutput` if it is a digit and there is
    room. -/
def emit (stringSize : Int) (d : UInt8) (s : Nat × Mem) : Nat × Mem :=
  if d ≤ 9 ∧ (s.1 : Int) < stringSize - 1 then (s.1 + 1, poke s.2 s.1 [d + 0x30]) else s

/-- The loop of `decodeAddress`: `idxOutput` and the buffer. -/
def decodeLoop (stringSize : Int) : List UInt8 → Nat × Mem → Nat × Mem
  | [], s => s
  | ch :: data, s =>
    decodeLoop stringSize data (emit stringSize (ch >>> 4) (emit stringSize (ch &&& 0x0F) s))

/-- `decodeAddress` of all bytes of `data`. -/
def decodeAddress (addrString : Option Mem) (stringSize : Int) (data : Option (List UInt8)) :
    Option (Nat × Option Mem) :=
  match data, addrString with
  | some (c :: data), some m =>
    -- No address of the kind that is known.
    if c ≠ ADDR_PREFIX then some (0, some (poke m 0 [0]))
    else
      let s := decodeLoop stringSize data (0, m)
      some (s.1, some (poke s.2 s.1 [0]))
  | some [], some _ => none
  | _, _ => some (0, addrString)

section Hexcode

/-- A byte is printed as its two digits. -/
theorem format02X_byte (c : UInt8) :
    format02X c.toNat = [hexDigit (c.toNat / 16), hexDigit (c.toNat % 16)] := by
  have hdigit : ∀ d < 16, UInt8.ofNat d.digitChar.toUpper.toNat = hexDigit d := by decide
  have hhalves := halves_lt c
  unfold format02X
  by_cases hone : c.toNat < 16
  · -- One digit, and a zero in front.
    have hhigh : c.toNat / 16 = 0 := Nat.div_eq_of_lt hone
    rw [Nat.toDigits_of_lt_base hone, hhigh, Nat.mod_eq_of_lt hone, ← hdigit _ hone]
    rfl
  · rw [Nat.toDigits_of_base_le (by omega) (Nat.le_of_not_lt hone),
      Nat.toDigits_of_lt_base hhalves.1, ← hdigit _ hhalves.1, ← hdigit _ hhalves.2]
    rfl

/-- The buffer with the text of some bytes in it; if there are none, nothing has
    been written. -/
def written (m : Mem) (bs : List UInt8) : Mem :=
  if bs = [] then m else poke m 0 (hexOf bs ++ [0])

/-- One turn prints one byte, over the NUL of the turn before. -/
theorem snprintf_written (m : Mem) (bs : List UInt8) (c : UInt8) :
    snprintf (written m bs) (bs.length * 2) 3 (format02X c.toNat) = written m (bs ++ [c]) := by
  have htext : hexOf [c] ++ [0] = [hexDigit (c.toNat / 16), hexDigit (c.toNat % 16), 0] := rfl
  have hprint : snprintf (written m bs) (bs.length * 2) 3 (format02X c.toNat) =
      poke (written m bs) (bs.length * 2) (hexOf [c] ++ [0]) := by
    rw [format02X_byte]
    rfl
  rw [hprint]
  unfold written
  rw [if_neg (List.append_ne_nil_of_right_ne_nil _ (List.cons_ne_nil _ _))]
  by_cases hbs : bs = []
  · subst hbs
    rfl
  · have hoff : bs.length * 2 = 0 + (hexOf bs).length := by
      rw [length_hexOf]
      omega
    have hcover : [(0 : UInt8)].length ≤ (hexOf [c] ++ [0]).length := by
      rw [htext]
      exact Nat.succ_le_succ (Nat.zero_le _)
    rw [if_neg hbs, hoff, ← poke_append m 0 (hexOf bs) [0], poke_cover _ _ hcover, poke_append,
      hexOf_append, List.append_assoc]

/-- The loop, behind some bytes that are printed: it prints as many as there is
    room for. -/
theorem hexLoop_spec {stringSize : Int} (h0 : 0 ≤ stringSize) (h1 : stringSize ≤ 2 ^ 30)
    (m : Mem) (data : List UInt8) {bs : List UInt8}
    (hroom : bs = [] ∨ 2 * (bs.length : Int) + 1 ≤ stringSize) :
    ∃ n, hexLoop stringSize bs.length data (written m bs) =
        some (bs.length + n, written m (bs ++ data.take n)) ∧ n ≤ data.length ∧
      ((bs.length + n : Nat) : Int) =
        min (bs.length + data.length : Int) (max 0 ((stringSize - 1) / 2)) := by
  have hlen : bs = [] → bs.length = 0 := fun h => by
    rw [h]
    rfl
  -- On what is left to print; the room for what is printed bounds the index.
  induction data generalizing bs with
  | nil =>
      refine ⟨0, ?_, Nat.le_refl _, ?_⟩
      · rw [List.take_zero, List.append_nil]
        rfl
      · simp only [List.length_nil, Nat.add_zero]
        rcases hroom with hbs | hroom
        · have hzero := hlen hbs
          omega
        · omega
  | cons c data ih =>
      have hsmall : ¬ INT_MAX < (bs.length * 2 + 3 : Int) := by
        have hmax : INT_MAX = 2147483647 := rfl
        rcases hroom with hbs | hroom
        · have hzero := hlen hbs
          omega
        · omega
      unfold hexLoop
      rw [if_neg hsmall]
      by_cases hfits : (bs.length * 2 + 3 : Int) ≤ stringSize
      · have hlength : (bs ++ [c]).length = bs.length + 1 := by
          rw [List.length_append, List.length_singleton]
        have hnext : bs ++ [c] = [] ∨ 2 * ((bs ++ [c]).length : Int) + 1 ≤ stringSize :=
          Or.inr (by rw [hlength]; omega)
        rcases ih hnext
          (fun h => absurd h (List.append_ne_nil_of_right_ne_nil _ (List.cons_ne_nil _ _))) with
          ⟨n, hloop, hn, hcount⟩
        rw [hlength] at hloop hcount
        refine ⟨n + 1, ?_, Nat.succ_le_succ hn, ?_⟩
        · rw [if_pos hfits, snprintf_written, hloop, List.take_succ_cons, List.append_assoc,
            List.singleton_append]
          congr 2
          omega
        · rw [List.length_cons]
          omega
      · refine ⟨0, ?_, Nat.zero_le _, ?_⟩
        · rw [if_neg hfits, List.take_zero, List.append_nil]
          rfl
        · rw [List.length_cons]
          rcases hroom with hbs | hroom
          · have hzero := hlen hbs
            omega
          · omega

/-- `hexcode` prints as many bytes as there is room for, counting the NUL, and
    returns their number. It writes to the buffer only, and the text it leaves
    stands for the bytes. -/
theorem hexcode_spec (m : Mem) (data : List UInt8) {stringSize : Int} (h0 : 0 ≤ stringSize)
    (h1 : stringSize ≤ 2 ^ 30) :
    ∃ (k : Nat) (m' : Mem), hexcode m stringSize data = some (k, m') ∧
      (k : Int) = min (data.length : Int) (max 0 ((stringSize - 1) / 2)) ∧
      (∀ i : Nat, stringSize ≤ i → m' i = m i) ∧
      (0 < k → ∃ text, peek m' 0 (2 * k + 1) = text ++ [0] ∧ text.length = 2 * k ∧
        (∀ c ∈ text, IsUpperHex c) ∧ unhex text = some (data.take k)) := by
  have hstart : ([] : List UInt8) = [] ∨ 2 * (([] : List UInt8).length : Int) + 1 ≤ stringSize :=
    Or.inl rfl
  rcases hexLoop_spec h0 h1 m data hstart with ⟨k, hloop, hk, hcount⟩
  rw [List.nil_append, List.length_nil, Nat.zero_add] at hloop
  rw [List.length_nil, Nat.zero_add, Nat.cast_zero, zero_add] at hcount
  have hlength : (data.take k).length = k := by
    rw [List.length_take, Nat.min_eq_left hk]
  have htext : (hexOf (data.take k) ++ [0]).length = 2 * k + 1 := by
    rw [List.length_append, length_hexOf, hlength, List.length_singleton]
  refine ⟨k, _, hloop, hcount, fun i hi => ?_, fun hpos => ?_⟩
  · unfold written
    by_cases hnone : data.take k = []
    · rw [if_pos hnone]
    · rw [if_neg hnone]
      have hpos : 0 < k := hlength ▸ List.length_pos_of_ne_nil hnone
      exact poke_outside m (Or.inr (by omega))
  · have hsome : data.take k ≠ [] := List.ne_nil_of_length_pos (by rw [hlength]; exact hpos)
    refine ⟨hexOf (data.take k), ?_, ?_, hexOf_upper, unhex_hexOf _⟩
    · rw [written, if_neg hsome, ← htext]
      exact peek_poke_self m 0 _
    · rw [length_hexOf, hlength]

/-- Three bytes and room for two. -/
theorem hexcode_spec_two : ∃ m', hexcode (fun _ => 0xFF) 6 [0x0A, 0xBC, 0x12] = some (2, m') ∧
    m' 6 = 0xFF := by
  have h0 : (0 : Int) ≤ 6 := by decide
  have h1 : (6 : Int) ≤ 2 ^ 30 := by decide
  rcases hexcode_spec (fun _ => 0xFF) [0x0A, 0xBC, 0x12] h0 h1 with ⟨k, m', hrun, hk, hframe, _⟩
  have hk2 : k = 2 := by
    have hmin : min (([0x0A, 0xBC, 0x12] : List UInt8).length : Int) (max 0 ((6 - 1) / 2)) = 2 := by
      decide
    omega
  rw [hk2] at hrun
  exact ⟨m', hrun, hframe 6 (Int.le_refl 6)⟩

end Hexcode

section DecodeAddress

/-- The address that some bytes stand for, as far as it fits: the digits behind
    the prefix, or none without it. -/
def address (stringSize : Int) (c : UInt8) (data : List UInt8) : List UInt8 :=
  if c ≠ ADDR_PREFIX then [] else (unpack data).take (stringSize - 1).toNat

/-- The data is decoded to `out`: that is returned by its length and left as a
    string in the buffer, and nothing behind the buffer is written. -/
def Decoded (m : Mem) (stringSize : Int) (data out : List UInt8) : Prop :=
  ∃ m', decodeAddress (some m) stringSize (some data) = some (out.length, some m') ∧
    peek m' 0 (out.length + 1) = out ++ [0] ∧ (out.length + 1 : Int) ≤ stringSize ∧
    ∀ i : Nat, stringSize ≤ i → m' i = m i

/-- The address with some digits, as the modem packs it. -/
def encodeAddress (digits : List UInt8) : List UInt8 := ADDR_PREFIX :: pack digits

variable {stringSize : Int} {m : Mem}

/-- The digits written so far, and the buffer with them. -/
def decodedSoFar (m : Mem) (out : List UInt8) : Nat × Mem := (out.length, poke m 0 out)

/-- Behind some digits, what fits of a half is written. -/
theorem emit_digits {out : List UInt8} (hout : out.length ≤ (stringSize - 1).toNat) (d : UInt8) :
    emit stringSize d (decodedSoFar m out) =
      decodedSoFar m ((out ++ digitChars d).take (stringSize - 1).toNat) := by
  unfold emit digitChars decodedSoFar
  by_cases hd : d ≤ 9
  · rw [if_pos hd]
    by_cases hroom : out.length < (stringSize - 1).toNat
    · have hfits : (out ++ [d + 0x30]).length ≤ (stringSize - 1).toNat := by
        rw [List.length_append, List.length_singleton]
        exact hroom
      have happend := poke_append m 0 out [d + 0x30]
      rw [Nat.zero_add] at happend
      rw [if_pos ⟨hd, by omega⟩, List.take_of_length_le hfits, happend, List.length_append,
        List.length_singleton]
    · -- The buffer is full, and the digit is dropped.
      have hfull : (stringSize - 1).toNat = out.length := by omega
      rw [if_neg (fun hcond => hroom (by omega)), hfull, List.take_left]
  · rw [if_neg hd, if_neg (fun hcond => hd hcond.1), List.append_nil, List.take_of_length_le hout]

/-- A prefix that was cut already may be cut again with what comes behind. -/
theorem take_take_append (n : Nat) (xs ys : List UInt8) :
    (xs.take n ++ ys).take n = (xs ++ ys).take n := by
  have hsub : n - (xs.take n).length = n - xs.length := by
    rw [List.length_take]
    omega
  rw [List.take_append, List.take_append, List.take_take, Nat.min_self, hsub]

/-- The loop, behind some digits: of those that follow it writes what fits. -/
theorem decodeLoop_eq {out : List UInt8} (hout : out.length ≤ (stringSize - 1).toNat)
    (data : List UInt8) : decodeLoop stringSize data (decodedSoFar m out) =
      decodedSoFar m ((out ++ unpack data).take (stringSize - 1).toNat) := by
  have hcut : ∀ xs : List UInt8, (xs.take (stringSize - 1).toNat).length ≤
      (stringSize - 1).toNat := fun xs => List.length_take_le _ xs
  induction data generalizing out with
  | nil =>
      have hnil : out ++ unpack [] = out := List.append_nil out
      rw [hnil, List.take_of_length_le hout]
      rfl
  | cons c data ih =>
      have hunpack : unpack (c :: data) =
          digitChars (low c) ++ digitChars (high c) ++ unpack data := List.flatMap_cons
      have hlow := emit_digits (m := m) hout (low c)
      have hhigh := emit_digits (m := m) (hcut (out ++ digitChars (low c))) (high c)
      unfold decodeLoop
      change decodeLoop stringSize data
        (emit stringSize (high c) (emit stringSize (low c) (decodedSoFar m out))) = _
      rw [hlow, hhigh, ih (hcut _), take_take_append, List.append_assoc (List.take _ _),
        take_take_append, hunpack, List.append_assoc out, List.append_assoc (digitChars (low c))]

/-- The string is ended behind the digits. -/
theorem decoded_of_loop {c : UInt8} {data out : List UInt8} {s : Nat × Mem}
    (hs : s = decodedSoFar m out) (hrun : decodeAddress (some m) stringSize (some (c :: data)) =
      some (s.1, some (poke s.2 s.1 [0]))) (hfits : (out.length + 1 : Int) ≤ stringSize) :
    Decoded m stringSize (c :: data) out := by
  subst hs
  have hend : poke (decodedSoFar m out).2 (decodedSoFar m out).1 [0] = poke m 0 (out ++ [0]) := by
    have happend := poke_append m 0 out [0]
    rwa [Nat.zero_add] at happend
  have hlength : (out ++ [0]).length = out.length + 1 := by
    rw [List.length_append, List.length_singleton]
  rw [hend] at hrun
  refine ⟨_, hrun, ?_, hfits, fun i hi => ?_⟩
  · rw [← hlength]
    exact peek_poke_self m 0 _
  · exact poke_outside m (Or.inr (by omega))

/-- Any data is decoded to its address. -/
theorem decodeAddress_decoded (m : Mem) (h : 1 ≤ stringSize) (c : UInt8) (data : List UInt8) :
    Decoded m stringSize (c :: data) (address stringSize c data) := by
  unfold address
  by_cases hc : c ≠ ADDR_PREFIX
  · have hnone : poke m 0 [0] = poke (decodedSoFar m []).2 (decodedSoFar m []).1 [0] := by
      have happend := poke_append m 0 [] [0]
      exact happend.symm
    rw [if_pos hc]
    refine decoded_of_loop rfl ?_ h
    unfold decodeAddress
    simp only [if_pos hc]
    rw [hnone]
    rfl
  · have hstart : decodedSoFar m [] = (0, m) := by
      have hnil : poke m 0 [] = m := funext fun i => by rw [poke_zero]; rfl
      unfold decodedSoFar
      rw [hnil]
      rfl
    have hempty : ([] : List UInt8).length ≤ (stringSize - 1).toNat := Nat.zero_le _
    have hloop := decodeLoop_eq (m := m) hempty data
    rw [hstart, List.nil_append] at hloop
    rw [if_neg hc]
    refine decoded_of_loop hloop ?_ ?_
    · unfold decodeAddress
      simp only [if_neg hc]
    · have hcut := List.length_take_le (stringSize - 1).toNat (unpack data)
      omega

/-- `decodeAddress` returns the address that its data stands for, as far as it
    fits; and so an address that fits is decoded to the digits that were
    packed. -/
theorem decodeAddress_spec (m : Mem) {stringSize : Int} (h : 1 ≤ stringSize) :
    (∀ c data, Decoded m stringSize (c :: data) (address stringSize c data)) ∧
    ∀ digits : List UInt8, (∀ d ∈ digits, IsDecimal d) →
      (digits.length + 1 : Int) ≤ stringSize →
      Decoded m stringSize (encodeAddress digits) digits := by
  refine ⟨decodeAddress_decoded m h, fun digits hdigits hfits => ?_⟩
  have haddress : address stringSize ADDR_PREFIX (pack digits) = digits := by
    unfold address
    rw [if_neg (not_not_intro rfl), unpack_pack hdigits, List.take_of_length_le (by omega)]
  have hdecoded := decodeAddress_decoded m h ADDR_PREFIX (pack digits)
  rwa [haddress] at hdecoded

/-- Three digits, and a buffer of four bytes. -/
theorem decodeAddress_spec_three :
    Decoded (fun _ => 0xFF) 4 [0x91, 0x21, 0xF3] [0x31, 0x32, 0x33] := by
  have hdigits : ∀ d ∈ ([0x31, 0x32, 0x33] : List UInt8), IsDecimal d := by
    rw [List.forall_mem_cons, List.forall_mem_cons, List.forall_mem_singleton]
    decide
  exact (decodeAddress_spec (fun _ => 0xFF) (by decide)).2 [0x31, 0x32, 0x33] hdigits (by decide)

end DecodeAddress

end LocApiAdapter

end Taoshan

import Mathlib.Tactic.Common
import Taoshan.Lib.Text

/-!
# Buffers of a Fixed Size

Arrays of bytes that strings are built in, with writes that are checked: a write
of which one byte would lie behind the end gives none. A string in a buffer goes
up to its first zero byte, so a string takes one byte more than it has.

`Holds` is the form that a buffer has while a string is built in it that began
as all zeros: the string, and zeros behind it. In a buffer of that form a string
can be appended exactly if there is room for it and for the byte that ends it
(`Holds.strcat`, `Holds.strcat_eq_none`), and single bytes may be put behind the
string without ending it (`Holds.put`).

## Main definitions

* `Buffer`, `Buffer.zeros`: Bytes, as many as the size says.
* `write`, `sprintf`, `strcat`: Checked writes.
* `text`: The string in a buffer.
* `Holds`: A string with zeros behind it.

## Theorems

* `write_isSome_iff`, `sprintf_isSome_iff`: What fits is written.
* `sprintf_text`: What was printed is the string in the buffer.
* `Holds.put`, `Holds.strcat`, `Holds.strcat_eq_none`: Building a string.
-/

namespace Taoshan

/-- Bytes, as many as the size says. -/
structure Buffer (size : Nat) where
  bytes : List UInt8
  length_bytes : bytes.length = size

namespace Buffer

variable {size : Nat}

def zeros (size : Nat) : Buffer size := ⟨List.replicate size 0, List.length_replicate⟩

/-- Bytes are written from a position on, unless one would lie behind the end. -/
def write (b : Buffer size) (i : Nat) (s : List UInt8) : Option (Buffer size) :=
  if h : i + s.length ≤ size then
    some ⟨b.bytes.take i ++ s ++ b.bytes.drop (i + s.length), by
      rw [List.length_append, List.length_append, List.length_take, List.length_drop,
        b.length_bytes]
      omega⟩
  else none

/-- The string in a buffer. -/
def text (b : Buffer size) : List UInt8 := b.bytes.takeWhile fun c => c ≠ 0

/-- A string is printed, with the byte that ends it. -/
def sprintf (b : Buffer size) (s : List UInt8) : Option (Buffer size) := b.write 0 (s ++ [0])

/-- A string is put behind the one that is there. -/
def strcat (b : Buffer size) (s : List UInt8) : Option (Buffer size) :=
  b.write b.text.length (s ++ [0])

/-- A write succeeds if it stays inside. -/
theorem write_isSome_iff (b : Buffer size) (i : Nat) (s : List UInt8) :
    (b.write i s).isSome = true ↔ i + s.length ≤ size := by
  unfold write
  by_cases h : i + s.length ≤ size
  · rw [dif_pos h]
    exact ⟨fun _ => h, fun _ => rfl⟩
  · rw [dif_neg h]
    exact ⟨fun hnone => absurd hnone Bool.false_ne_true, fun h' => absurd h' h⟩

theorem write_eq_none (b : Buffer size) {i : Nat} {s : List UInt8} (h : size < i + s.length) :
    b.write i s = none :=
  dif_neg (Nat.not_le_of_lt h)

/-- What it leaves in front and behind. -/
theorem write_bytes {b b' : Buffer size} {i : Nat} {s : List UInt8} (h : b.write i s = some b') :
    i + s.length ≤ size ∧ b'.bytes = b.bytes.take i ++ s ++ b.bytes.drop (i + s.length) := by
  unfold write at h
  by_cases hfits : i + s.length ≤ size
  · rw [dif_pos hfits, Option.some.injEq] at h
    rw [← h]
    exact ⟨hfits, rfl⟩
  · rw [dif_neg hfits] at h
    cases h

/-- A text needs room for its NUL. -/
theorem sprintf_isSome_iff (b : Buffer size) (s : List UInt8) :
    (b.sprintf s).isSome = true ↔ s.length < size := by
  unfold sprintf
  rw [write_isSome_iff, List.length_append, List.length_singleton, Nat.zero_add]
  exact Nat.succ_le_iff

/-- What was printed is the string in the buffer. -/
theorem sprintf_text {b b' : Buffer size} {s : List UInt8} (hs : (0 : UInt8) ∉ s)
    (h : b.sprintf s = some b') : b'.text = s := by
  rcases write_bytes h with ⟨_, hbytes⟩
  unfold text
  rw [hbytes, List.take_zero, List.nil_append, List.append_assoc, List.singleton_append]
  exact Text.takeWhile_upto hs _

/-- A string with zeros behind it. -/
structure Holds (b : Buffer size) (w : List UInt8) : Prop where
  bytes : ∃ k, b.bytes = w ++ List.replicate k 0
  nonzero : (0 : UInt8) ∉ w

namespace Holds

variable {b : Buffer size} {w : List UInt8}

theorem length_le (h : b.Holds w) : w.length ≤ size := by
  rcases h.bytes with ⟨k, hk⟩
  rw [← b.length_bytes, hk, List.length_append]
  exact Nat.le_add_right _ _

theorem text (h : b.Holds w) : b.text = w := by
  rcases h.bytes with ⟨k, hk⟩
  unfold Buffer.text
  rw [hk]
  cases k with
  | zero =>
      rw [List.replicate_zero, List.append_nil]
      exact Text.takeWhile_none h.nonzero
  | succ k => exact Text.takeWhile_upto h.nonzero _

/-- Behind the string, a write leaves zeros behind itself. -/
theorem write (h : b.Holds w) {s : List UInt8} (hfits : w.length + s.length ≤ size) :
    ∃ b', b.write w.length s = some b' ∧ ∃ k, b'.bytes = w ++ s ++ List.replicate k 0 := by
  rcases h.bytes with ⟨k, hk⟩
  rcases Option.isSome_iff_exists.mp ((write_isSome_iff b w.length s).mpr hfits) with ⟨b', hwrite⟩
  refine ⟨b', hwrite, k - s.length, ?_⟩
  have hdrop : (w ++ List.replicate k 0).drop (w.length + s.length) =
      List.replicate (k - s.length) (0 : UInt8) := by
    rw [List.drop_append, List.drop_eq_nil_of_le (Nat.le_add_right _ _), List.nil_append,
      Nat.add_sub_cancel_left, List.drop_replicate]
  rw [(write_bytes hwrite).2, hk, List.take_left, hdrop]

/-- One byte more, and nothing that ends the string. -/
theorem put (h : b.Holds w) {c : UInt8} (hc : c ≠ 0) (hfits : w.length < size) :
    ∃ b', b.write w.length [c] = some b' ∧ b'.Holds (w ++ [c]) := by
  rcases h.write (s := [c]) hfits with ⟨b', hwrite, hbytes⟩
  refine ⟨b', hwrite, hbytes, fun hmem => ?_⟩
  rcases List.mem_append.mp hmem with hmem | hmem
  · exact h.nonzero hmem
  · exact hc (List.mem_singleton.mp hmem).symm

/-- A text that fits is put behind the one that is there. -/
theorem strcat (h : b.Holds w) {s : List UInt8} (hs : (0 : UInt8) ∉ s)
    (hfits : w.length + s.length < size) :
    ∃ b', b.strcat s = some b' ∧ b'.Holds (w ++ s) := by
  have hlength : w.length + (s ++ [0]).length ≤ size := by
    rw [List.length_append, List.length_singleton]
    omega
  rcases h.write hlength with ⟨b', hwrite, k, hbytes⟩
  refine ⟨b', ?_, ⟨k + 1, ?_⟩, fun hmem => ?_⟩
  · unfold Buffer.strcat
    rw [h.text]
    exact hwrite
  · -- The byte that ends the string is one of the zeros.
    rw [hbytes, List.replicate_succ, List.append_assoc w, List.append_assoc s,
      List.singleton_append, List.append_assoc]
  · rcases List.mem_append.mp hmem with hmem | hmem
    · exact h.nonzero hmem
    · exact hs hmem

theorem strcat_eq_none (h : b.Holds w) {s : List UInt8} (hfull : size ≤ w.length + s.length) :
    b.strcat s = none := by
  refine write_eq_none b ?_
  rw [h.text, List.length_append, List.length_singleton]
  omega

end Holds

end Buffer

end Taoshan

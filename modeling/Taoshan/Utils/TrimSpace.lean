import Taoshan.Utils.LocCfg

/-!
# Trimming in Place

Every byte that `trim_space` writes, and when the string it leaves is the
trimmed one.

The text moves to the front of its buffer while it is read, so a byte is
written to where one was read before, or to the place being read. One more
byte is written at the end, the NUL, behind the last character that is not a
blank. That is never behind the NUL of the string, and where it is on that
NUL, nothing changes.

`last_nonspace` is set by characters that are not blanks. A string that has
none is left as it is, although its trimmed form is the empty string
(`trims_iff`).

## Main definitions

* `trimStores`, `trimSpaceStores`: The bytes written, with their offsets.
* `storeAll`: A buffer after bytes were written to it.
* `Trims`: The string is trimmed, and nothing outside it is written.

## Theorems

* `storeAll_trimSpaceStores`: The bytes are those that make the result.
* `storeAll_outside`: What is not written to stays.
* `trimSpaceStores_within`: Where the bytes lie.
* `trimSpace_behind`: What lies behind the string is not touched.
* `trims_iff`: When the string is trimmed.
-/

namespace Taoshan

namespace LocCfg

open Text

/-- The bytes that the loop writes, with their offsets. -/
def trimStores : Nat → Trim → List (Nat × UInt8)
  | 0, _ => []
  | n + 1, t => match t.buf[t.scan]? with
    | none => []
    | some c =>
      if c = 0 then []
      else if t.first || !isspace c then (t.write, c) :: trimStores n (trimStep t c)
      else trimStores n (trimStep t c)

/-- The variables at the start of the loop. -/
def trimStart (buf : List UInt8) : Trim := ⟨buf, 0, 0, false, none⟩

/-- The bytes that `trim_space` writes. -/
def trimSpaceStores (buf : List UInt8) : List (Nat × UInt8) :=
  trimStores buf.length (trimStart buf) ++
    match (trimLoop buf.length (trimStart buf)).last with
    | none => []
    | some n => [(n, 0)]

/-- Bytes are written to a buffer, one after the other. -/
def storeAll (buf : List UInt8) (ws : List (Nat × UInt8)) : List UInt8 :=
  ws.foldl (fun b w => b.set w.1 w.2) buf

/-- The string is trimmed. The bytes written lie in the string, but for a NUL
    that is written over the NUL of the string. -/
structure Trims (s rest : List UInt8) : Prop where
  trimmed : upToNul (trimSpace (s ++ 0 :: rest)) = trim s
  within : ∀ w ∈ trimSpaceStores (s ++ 0 :: rest), w.1 < s.length ∨ w = (s.length, 0)

section Stores

theorem storeAll_append (buf : List UInt8) (xs ys : List (Nat × UInt8)) :
    storeAll buf (xs ++ ys) = storeAll (storeAll buf xs) ys := List.foldl_append

/-- What is not written to stays. -/
theorem storeAll_outside {ws : List (Nat × UInt8)} {i : Nat} (h : ∀ w ∈ ws, w.1 ≠ i)
    (buf : List UInt8) : (storeAll buf ws)[i]? = buf[i]? := by
  induction ws generalizing buf with
  | nil => rfl
  | cons w ws ih =>
      have hrest := ih (fun v hv => h v (List.mem_cons_of_mem _ hv)) (buf.set w.1 w.2)
      exact hrest.trans (List.getElem?_set_ne (h w List.mem_cons_self))

/-- The bytes of the loop make the buffer it leaves. -/
theorem storeAll_trimStores (n : Nat) (t : Trim) :
    storeAll t.buf (trimStores n t) = (trimLoop n t).buf := by
  induction n generalizing t with
  | zero => rfl
  | succ n ih =>
      unfold trimStores trimLoop
      cases t.buf[t.scan]? with
      | none => rfl
      | some c =>
          by_cases hc : c = 0
          · simp only [if_pos hc]
            rfl
          · simp only [if_neg hc]
            rw [← ih]
            unfold trimStep
            by_cases hcopy : (t.first || !isspace c) = true
            · rw [if_pos hcopy, if_pos hcopy]
              rfl
            · rw [if_neg hcopy, if_neg hcopy]

/-- The bytes are those that make the result. -/
theorem storeAll_trimSpaceStores (buf : List UInt8) :
    storeAll buf (trimSpaceStores buf) = trimSpace buf := by
  have hloop : storeAll buf (trimStores buf.length (trimStart buf)) =
      (trimLoop buf.length (trimStart buf)).buf := storeAll_trimStores buf.length (trimStart buf)
  unfold trimSpaceStores trimSpace
  rw [storeAll_append, hloop]
  change storeAll (trimLoop buf.length (trimStart buf)).buf _ =
    match (trimLoop buf.length (trimStart buf)).last with
    | none => _
    | some n => _
  cases (trimLoop buf.length (trimStart buf)).last with
  | none => rfl
  | some n => rfl

end Stores

section Within

variable {s rest : List UInt8}

/-- The write pointer does not overtake the other one. -/
theorem TrimAt.write_le {u r : List UInt8} {t : Trim} (h : TrimAt rest u r t) :
    t.write ≤ u.length := by
  rw [h.write]
  exact (List.dropWhile_suffix _).length_le

/-- The loop writes to bytes of the string. -/
theorem trimStores_within {u r : List UInt8} {t : Trim} (n : Nat) (hnul : 0 ∉ r)
    (h : TrimAt rest u r t) : ∀ w ∈ trimStores n t, w.1 < (u ++ r).length := by
  -- On what is left to scan, as in `trimLoop_end`.
  induction r generalizing u t n with
  | nil =>
      intro w hw
      cases n with
      | zero => exact absurd hw List.not_mem_nil
      | succ n =>
          simp only [trimStores, h.read_nul, if_true] at hw
          exact absurd hw List.not_mem_nil
  | cons c r ih =>
      rw [List.mem_cons, not_or] at hnul
      intro w hw
      cases n with
      | zero => exact absurd hw List.not_mem_nil
      | succ n =>
          have hrest : ∀ w ∈ trimStores n (trimStep t c), w.1 < (u ++ c :: r).length := by
            have hnext := ih n hnul.2 (trimAt_step h)
            rwa [List.append_assoc, List.singleton_append] at hnext
          simp only [trimStores, h.read, if_neg (Ne.symm hnul.1)] at hw
          split at hw
          · rcases List.mem_cons.mp hw with rfl | hw
            · have hle := h.write_le
              rw [List.length_append, List.length_cons]
              omega
            · exact hrest w hw
          · exact hrest w hw

/-- All bytes lie in the string, but for a NUL that is written over the NUL of
    the string. -/
theorem trimSpaceStores_within (hnul : 0 ∉ s) (rest : List UInt8) :
    ∀ w ∈ trimSpaceStores (s ++ 0 :: rest), w.1 < s.length ∨ w = (s.length, 0) := by
  intro w hw
  have hstart : TrimAt rest [] s (trimStart (s ++ 0 :: rest)) := trimAt_start s rest
  have hlast := (trimLoop_end hnul hstart (n := (s ++ 0 :: rest).length) (by
    rw [List.length_append, List.length_cons]
    omega)).last
  rw [List.nil_append] at hlast
  rcases List.mem_append.mp hw with hw | hw
  · exact Or.inl (trimStores_within _ hnul hstart w hw)
  · rw [hlast] at hw
    by_cases hblank : s.dropWhile isspace = []
    · rw [if_pos hblank] at hw
      exact absurd hw List.not_mem_nil
    · rw [if_neg hblank] at hw
      have hle : ((s.dropWhile isspace).rdropWhile isspace).length ≤ s.length :=
        (List.rdropWhile_prefix isspace _).length_le.trans (List.dropWhile_suffix _).length_le
      rw [List.mem_singleton.mp hw]
      rcases Nat.lt_or_eq_of_le hle with hlt | heq
      · exact Or.inl hlt
      · exact Or.inr (by rw [heq])

/-- What lies behind the string is not touched. -/
theorem trimSpace_behind (hnul : 0 ∉ s) (rest : List UInt8) {i : Nat} (hi : s.length < i) :
    (trimSpace (s ++ 0 :: rest))[i]? = (s ++ 0 :: rest)[i]? := by
  rw [← storeAll_trimSpaceStores]
  refine storeAll_outside (fun w hw => ?_) _
  rcases trimSpaceStores_within hnul rest w hw with hlt | rfl
  · omega
  · exact Nat.ne_of_lt hi

/-- The string is trimmed exactly if it is empty or has a character that is not
    a blank. -/
theorem trims_iff (hnul : 0 ∉ s) (rest : List UInt8) :
    Trims s rest ↔ s = [] ∨ ∃ c ∈ s, isspace c = false := by
  have hspec : upToNul (trimSpace (s ++ 0 :: rest)) =
      if s.dropWhile isspace = [] then s else trim s := trimSpace_spec hnul
  by_cases hblank : s.dropWhile isspace = []
  · -- All blanks: the string stays, and trimmed it is empty.
    have hall := (List.dropWhile_eq_nil_iff (p := isspace)).mp hblank
    rw [if_pos hblank] at hspec
    have htrim : trim s = [] := by
      unfold trim
      rw [hblank]
      rfl
    constructor
    · intro h
      exact Or.inl (hspec.symm.trans (h.trimmed.trans htrim))
    · rintro (rfl | ⟨c, hc, hspace⟩)
      · exact ⟨hspec, trimSpaceStores_within hnul rest⟩
      · exact absurd (hall c hc) (by rw [hspace]; exact Bool.false_ne_true)
  · rw [if_neg hblank] at hspec
    refine iff_of_true ⟨hspec, trimSpaceStores_within hnul rest⟩ (Or.inr ?_)
    by_contra hnone
    refine hblank (List.dropWhile_eq_nil_iff.mpr fun c hc => ?_)
    by_contra hspace
    exact hnone ⟨c, hc, Bool.eq_false_iff.mpr hspace⟩

/-- `" a b "` is trimmed. -/
theorem trims_iff_letters : Trims [0x20, 0x61, 0x20, 0x62, 0x20] [] :=
  (trims_iff (by decide) []).mpr (Or.inr ⟨0x61, by decide, by decide⟩)

/-- A blank stays. -/
theorem not_trims_blank : (0 : UInt8) ∉ [0x20] ∧ ¬ Trims [0x20] [] := by
  refine ⟨by decide, fun h => ?_⟩
  have hstays : upToNul (trimSpace ([0x20] ++ 0 :: [])) = [0x20] := by decide
  exact absurd (hstays.symm.trans h.trimmed) (by decide)

end Within

end LocCfg

end Taoshan

import Mathlib.Data.List.Basic
import Mathlib.Data.List.Nodup
import Mathlib.Tactic.Common
import Taoshan.Lib.Text

/-!
# Maps as Text

A finite map from words to words, and the text it is written as: `key=value`
for each entry, with a separator in between.

The two marks are parameters. Reading takes the key up to the next mark of
assignment and the value up to the next separator, so a key may hold a
separator and a value a mark of assignment. What is written is read back if no
key holds the one and no value the other (`parse_print`), and so the map that
is read has the entries of the map that was written (`get_ofPairs`).

## Main definitions

* `get`, `set`: Looking up and replacing, in a list of pairs.
* `print`, `parse`: Writing and reading.
* `ofPairs`: The map of a list of pairs, in which later ones win.

## Theorems

* `get_set_self`, `get_set_ne`: What is replaced, and what is not.
* `nodup_set`, `nodup_ofPairs`: Keys stay distinct.
* `parse_print`: What is written is read back.
* `get_ofPairs`: A map with distinct keys is the map of its pairs.
-/

namespace Taoshan

namespace Flatten

variable {α : Type*} [DecidableEq α]

/-- Keys with their values. -/
abbrev Pairs (α : Type*) := List (List α × List α)

/-- The value of a key. -/
def get : Pairs α → List α → Option (List α)
  | [], _ => none
  | (k, v) :: m, x => if k = x then some v else get m x

/-- Give a key a value, in its place or at the end. -/
def set : Pairs α → List α → List α → Pairs α
  | [], x, w => [(x, w)]
  | (k, v) :: m, x, w => if k = x then (x, w) :: m else (k, v) :: set m x w

/-- Put pairs into a map, one after the other. -/
def addAll (m : Pairs α) (kvs : Pairs α) : Pairs α := kvs.foldl (fun m kv => set m kv.1 kv.2) m

/-- The map of a list of pairs, in which later ones win. -/
def ofPairs (kvs : Pairs α) : Pairs α := addAll [] kvs

/-- The text of a list of pairs. -/
def print (assign sep : α) : Pairs α → List α
  | [] => []
  | [(k, v)] => k ++ assign :: v
  | (k, v) :: kvs => k ++ assign :: (v ++ sep :: print assign sep kvs)

/-- The pairs of a text, at most so many. -/
def parse (assign sep : α) : Nat → List α → Pairs α
  | 0, _ => []
  | n + 1, s =>
      match s.dropWhile (fun a => a ≠ assign) with
      | [] => []
      | _ :: rest =>
          let k := s.takeWhile (fun a => a ≠ assign)
          let v := rest.takeWhile (fun a => a ≠ sep)
          match rest.dropWhile (fun a => a ≠ sep) with
          | [] => [(k, v)]
          | _ :: rest => (k, v) :: parse assign sep n rest

section Map

variable {m : Pairs α} {x y : List α}

theorem get_set_self (m : Pairs α) (x w : List α) : get (set m x w) x = some w := by
  induction m with
  | nil => simp only [set, get, if_true]
  | cons kv m ih =>
      unfold set
      by_cases hk : kv.1 = x
      · simp only [hk, if_true, get]
      · rw [if_neg hk]
        simp only [get, if_neg hk, ih]

theorem get_set_ne (m : Pairs α) (w : List α) (h : y ≠ x) : get (set m x w) y = get m y := by
  induction m with
  | nil => simp only [set, get, if_neg (Ne.symm h)]
  | cons kv m ih =>
      unfold set
      by_cases hk : kv.1 = x
      · have hky : kv.1 ≠ y := fun heq => h (heq.symm.trans hk)
        simp only [hk, if_true, get, if_neg (Ne.symm h)]
      · rw [if_neg hk]
        simp only [get, ih]

theorem get_eq_none (h : x ∉ m.map Prod.fst) : get m x = none := by
  induction m with
  | nil => rfl
  | cons kv m ih =>
      rw [List.map_cons, List.mem_cons, not_or] at h
      simp only [get, if_neg (Ne.symm h.1)]
      exact ih h.2

theorem mem_keys_set (m : Pairs α) (x w : List α) :
    y ∈ (set m x w).map Prod.fst ↔ y = x ∨ y ∈ m.map Prod.fst := by
  induction m with
  | nil =>
      simp only [set, List.map_cons, List.map_nil, List.mem_singleton, List.not_mem_nil, or_false]
  | cons kv m ih =>
      unfold set
      by_cases hk : kv.1 = x
      · simp only [hk, if_true, List.map_cons, List.mem_cons, or_self_left]
      · simp only [if_neg hk, List.map_cons, List.mem_cons, ih]
        exact or_left_comm

/-- Distinct keys stay distinct. -/
theorem nodup_set (h : (m.map Prod.fst).Nodup) (x w : List α) :
    ((set m x w).map Prod.fst).Nodup := by
  induction m with
  | nil => exact List.nodup_singleton x
  | cons kv m ih =>
      rw [List.map_cons, List.nodup_cons] at h
      unfold set
      by_cases hk : kv.1 = x
      · rw [if_pos hk, List.map_cons, List.nodup_cons, ← hk]
        exact h
      · rw [if_neg hk, List.map_cons, List.nodup_cons, mem_keys_set]
        exact ⟨not_or.mpr ⟨hk, h.1⟩, ih h.2⟩

theorem nodup_addAll (h : (m.map Prod.fst).Nodup) (kvs : Pairs α) :
    ((addAll m kvs).map Prod.fst).Nodup := by
  induction kvs generalizing m with
  | nil => exact h
  | cons kv kvs ih => exact ih (nodup_set h kv.1 kv.2)

theorem nodup_ofPairs (kvs : Pairs α) : ((ofPairs kvs).map Prod.fst).Nodup :=
  nodup_addAll (m := []) List.nodup_nil kvs

/-- What is looked up after pairs with distinct keys were put in. -/
theorem get_addAll {kvs : Pairs α} (h : (kvs.map Prod.fst).Nodup) (m : Pairs α) (x : List α) :
    get (addAll m kvs) x = (get kvs x).or (get m x) := by
  induction kvs generalizing m with
  | nil => rfl
  | cons kv kvs ih =>
      rw [List.map_cons, List.nodup_cons] at h
      have hrest := ih h.2 (set m kv.1 kv.2)
      unfold addAll at hrest ⊢
      rw [List.foldl_cons, hrest]
      by_cases hk : kv.1 = x
      · -- The key is not among the later ones, so the value stays.
        rw [← hk, get_eq_none h.1, get_set_self]
        simp only [get, if_true, Option.none_or, Option.some_or]
      · rw [get_set_ne m kv.2 (Ne.symm hk)]
        simp only [get, if_neg hk]

/-- An entry is looked up if no other has its key. -/
theorem get_of_mem {kv : List α × List α} (h : (m.map Prod.fst).Nodup) (hkv : kv ∈ m) :
    get m kv.1 = some kv.2 := by
  induction m with
  | nil => exact absurd hkv List.not_mem_nil
  | cons kv' m ih =>
      rw [List.map_cons, List.nodup_cons] at h
      rcases List.mem_cons.mp hkv with rfl | hkv
      · simp only [get, if_true]
      · have hne : kv'.1 ≠ kv.1 := fun heq => h.1 (heq ▸ List.mem_map_of_mem hkv)
        simp only [get, if_neg hne]
        exact ih h.2 hkv

theorem mem_of_get {v : List α} (h : get m x = some v) : (x, v) ∈ m := by
  induction m with
  | nil => cases h
  | cons kv m ih =>
      unfold get at h
      split at h
      · next hk =>
          rw [Option.some.injEq] at h
          rw [← hk, ← h]
          exact List.mem_cons_self
      · exact List.mem_cons_of_mem _ (ih h)

/-- A map with distinct keys is the map of its pairs. -/
theorem get_ofPairs (h : (m.map Prod.fst).Nodup) (x : List α) : get (ofPairs m) x = get m x := by
  rw [ofPairs, get_addAll h]
  exact Option.or_none

end Map

section Text

variable {assign sep : α}

omit [DecidableEq α] in
/-- Every entry takes some text. -/
theorem length_le_print (kvs : Pairs α) : kvs.length ≤ (print assign sep kvs).length := by
  induction kvs with
  | nil => exact Nat.le_refl 0
  | cons kv kvs ih =>
      cases kvs with
      | nil =>
          simp only [print, List.length_cons, List.length_nil, List.length_append]
          omega
      | cons kv' kvs =>
          simp only [print, List.length_append, List.length_cons] at ih ⊢
          omega

/-- What is written is read back. -/
theorem parse_print {kvs : Pairs α} (h : ∀ kv ∈ kvs, assign ∉ kv.1 ∧ sep ∉ kv.2) {n : Nat}
    (hn : kvs.length ≤ n) : parse assign sep n (print assign sep kvs) = kvs := by
  induction kvs generalizing n with
  | nil =>
      cases n with
      | zero => rfl
      | succ n => rfl
  | cons kv kvs ih =>
      rcases kv with ⟨k, v⟩
      have hkv := h (k, v) List.mem_cons_self
      cases n with
      | zero => exact absurd hn (Nat.not_succ_le_zero _)
      | succ n =>
          have hrest := ih (fun kv hmem => h kv (List.mem_cons_of_mem _ hmem))
            (Nat.le_of_succ_le_succ hn)
          cases kvs with
          | nil =>
              simp only [print, parse, Text.takeWhile_upto hkv.1, Text.dropWhile_upto hkv.1,
                Text.takeWhile_none hkv.2, Text.dropWhile_none hkv.2]
          | cons kv' kvs =>
              simp only [print, parse, Text.takeWhile_upto hkv.1, Text.dropWhile_upto hkv.1,
                Text.takeWhile_upto hkv.2, Text.dropWhile_upto hkv.2]
              rw [hrest]

end Text

end Flatten

end Taoshan

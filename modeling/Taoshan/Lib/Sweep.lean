import Mathlib.Data.List.Basic
import Mathlib.Data.List.Nodup
import Mathlib.Data.List.Perm.Basic
import Mathlib.Tactic.Common

/-!
# Searching and Sweeping a Sequence

A search that stops at its first hit, and the loop that repeats it until
nothing is hit any more.

The predicate of the search may act as it goes: for every element it looks at
it returns a verdict and a list of effects. `search` runs it from the front
and stops at the first positive verdict, optionally taking that element out.
The elements in front of the hit have been looked at, so their effects count.

`sweep` restarts the search from the front until it finds nothing, which
visits the survivors again on every round. The verdict may change from one
round to the next, so the predicate is indexed by the round. `sweep_spec` says
what can still be relied on then: what is removed and what remains make up the
original sequence, nothing is removed that was not hit, nothing remains that
was not missed. When the verdict does not depend on the round, the loop is one
pass of `filter` (`sweep_eq_filter`).

## Main definitions

* `search`: The first hit, what is left, and the effects on the way.
* `sweep`: Searching and removing until nothing is hit.

## Theorems

* `search_of_none`: A search without a hit looks at everything.
* `search_of_hit`: A search with a hit stops there.
* `search_cases`: Every search is one or the other.
* `search_found`: What is found is the first element hit.
* `search_map`, `sweep_map`: Looking at the elements through a function.
* `mem_search_out`, `mem_sweep_out`: Every effect is that of a look.
* `sweep_spec`: What a sweep does when verdicts may change.
* `sweep_eq_filter`: What a sweep does when they do not.
* `sweep_resolved`: Over distinct elements it is one pass of some verdict.
-/

namespace Taoshan

namespace Sweep

variable {α ε : Type*}

/-- What a search returns: the element hit, the sequence it leaves, and the
    effects of every look it took. -/
structure Found (α ε : Type*) where
  hit : Option α
  rest : List α
  out : List ε
  deriving DecidableEq

/-- Look at the elements from the front until one is hit, and take that one
    out if `rm` is set. -/
def search (look : α → Bool × List ε) (rm : Bool) : List α → Found α ε
  | [] => ⟨none, [], []⟩
  | x :: xs =>
      if (look x).1 then ⟨some x, if rm then xs else x :: xs, (look x).2⟩
      else
        let r := search look rm xs
        ⟨r.hit, x :: r.rest, (look x).2 ++ r.out⟩

/-- Search and remove until nothing is hit. Round `k` looks with `look k`; the
    first argument bounds the number of rounds. -/
def sweep (look : Nat → α → Bool × List ε) : Nat → List α → List α × List ε
  | 0, l => (l, [])
  | n + 1, l =>
      let r := search (look 0) true l
      match r.hit with
      | none => (r.rest, r.out)
      | some _ =>
          let q := sweep (fun k => look (k + 1)) n r.rest
          (q.1, r.out ++ q.2)

section Search

variable (look : α → Bool × List ε) (rm : Bool)

/-- A search without a hit has looked at everything and left it in place. -/
theorem search_of_none {l : List α} (h : ∀ x ∈ l, (look x).1 = false) :
    search look rm l = ⟨none, l, l.flatMap (fun x => (look x).2)⟩ := by
  induction l with
  | nil => rfl
  | cons x xs ih =>
      have hx : (look x).1 = false := h x List.mem_cons_self
      simp only [search, hx, Bool.false_eq_true, if_false,
        ih (fun y hy => h y (List.mem_cons_of_mem _ hy)), List.flatMap_cons]

/-- A search with a hit has looked at what is in front of it and at it. -/
theorem search_of_hit {pre post : List α} {x : α} (hpre : ∀ y ∈ pre, (look y).1 = false)
    (hx : (look x).1 = true) :
    search look rm (pre ++ x :: post) = ⟨some x, if rm then pre ++ post else pre ++ x :: post,
      pre.flatMap (fun y => (look y).2) ++ (look x).2⟩ := by
  induction pre with
  | nil =>
      simp only [List.nil_append, search, hx, if_true, List.flatMap_nil]
  | cons y ys ih =>
      have hy : (look y).1 = false := hpre y List.mem_cons_self
      simp only [List.cons_append, search, hy, Bool.false_eq_true, if_false,
        ih (fun z hz => hpre z (List.mem_cons_of_mem _ hz)), List.flatMap_cons, List.append_assoc]
      cases rm with
      | false => rfl
      | true => rfl

/-- Either nothing in the sequence is hit, or it splits at the first hit. -/
theorem search_cases (l : List α) :
    (∀ x ∈ l, (look x).1 = false) ∨
      ∃ pre x post, l = pre ++ x :: post ∧ (∀ y ∈ pre, (look y).1 = false) ∧
        (look x).1 = true := by
  induction l with
  | nil => exact Or.inl (fun x hx => absurd hx List.not_mem_nil)
  | cons x xs ih =>
      cases hx : (look x).1 with
      | true => exact Or.inr ⟨[], x, xs, rfl, fun y hy => absurd hy List.not_mem_nil, hx⟩
      | false =>
          rcases ih with hnone | ⟨pre, z, post, rfl, hpre, hz⟩
          · refine Or.inl (fun y hy => ?_)
            rcases List.mem_cons.mp hy with rfl | hin
            · exact hx
            · exact hnone y hin
          · refine Or.inr ⟨x :: pre, z, post, rfl, fun y hy => ?_, hz⟩
            rcases List.mem_cons.mp hy with rfl | hin
            · exact hx
            · exact hpre y hin

/-- What a search finds is the first element hit. -/
theorem search_found (l : List α) :
    (search look rm l).hit = l.find? (fun x => (look x).1) := by
  induction l with
  | nil => rfl
  | cons x xs ih =>
      cases hx : (look x).1 with
      | true => simp only [search, hx, if_true, List.find?_cons_of_pos]
      | false =>
          simp only [search, hx, Bool.false_eq_true, if_false, ih, not_false_eq_true,
            List.find?_cons_of_neg]

/-- A search may look at the elements through a function. -/
theorem search_map {β : Type*} (f : β → α) (l : List β) :
    search look rm (l.map f) =
      ⟨(search (fun x => look (f x)) rm l).hit.map f,
        (search (fun x => look (f x)) rm l).rest.map f,
        (search (fun x => look (f x)) rm l).out⟩ := by
  rcases search_cases (fun x => look (f x)) l with hnone | ⟨pre, x, post, rfl, hpre, hx⟩
  · rw [search_of_none _ rm hnone, search_of_none look rm (List.forall_mem_map.mpr hnone),
      List.flatMap_map]
    rfl
  · rw [search_of_hit _ rm hpre hx, List.map_append, List.map_cons,
      search_of_hit look rm (List.forall_mem_map.mpr hpre) hx, List.flatMap_map]
    cases rm with
    | false => simp only [Bool.false_eq_true, if_false, List.map_append, List.map_cons,
        Option.map_some]
    | true => simp only [if_true, List.map_append, Option.map_some]

/-- Every effect of a search is that of a look it took. -/
theorem mem_search_out {l : List α} {e : ε} (he : e ∈ (search look rm l).out) :
    ∃ x, e ∈ (look x).2 := by
  induction l with
  | nil => exact absurd he List.not_mem_nil
  | cons x xs ih =>
      cases hx : (look x).1 with
      | true =>
          simp only [search, hx, if_true] at he
          exact ⟨x, he⟩
      | false =>
          simp only [search, hx, Bool.false_eq_true, if_false] at he
          rcases List.mem_append.mp he with he | he
          · exact ⟨x, he⟩
          · exact ih he

end Search

section Loop

variable (msg : α → List ε)

/-- Every effect of a sweep is that of a look it took in some round. -/
theorem mem_sweep_out {e : ε} (n : Nat) : ∀ (look : Nat → α → Bool × List ε) (l : List α),
    e ∈ (sweep look n l).2 → ∃ k x, e ∈ (look k x).2 := by
  induction n with
  | zero => intro look l he; exact absurd he List.not_mem_nil
  | succ n ih =>
      intro look l he
      cases hhit : (search (look 0) true l).hit with
      | none =>
          simp only [sweep, hhit] at he
          rcases mem_search_out (look 0) true he with ⟨x, hx⟩
          exact ⟨0, x, hx⟩
      | some y =>
          simp only [sweep, hhit] at he
          rcases List.mem_append.mp he with he | he
          · rcases mem_search_out (look 0) true he with ⟨x, hx⟩
            exact ⟨0, x, hx⟩
          · rcases ih _ _ he with ⟨k, x, hx⟩
            exact ⟨k + 1, x, hx⟩

/-- So may a sweep. -/
theorem sweep_map {β : Type*} (f : β → α) (n : Nat) :
    ∀ (look : Nat → α → Bool × List ε) (l : List β), sweep look n (l.map f) =
      ((sweep (fun k x => look k (f x)) n l).1.map f, (sweep (fun k x => look k (f x)) n l).2) := by
  induction n with
  | zero => intro look l; rfl
  | succ n ih =>
      intro look l
      cases hhit : (search (fun x => look 0 (f x)) true l).hit with
      | none => simp only [sweep, search_map, hhit, Option.map_none]
      | some x => simp only [sweep, search_map, hhit, Option.map_some, ih]

/-- What a sweep does when the verdicts may change from round to round: it
    splits the sequence into what it removed and what it left, in place, and
    each element is where its last verdict put it. -/
theorem sweep_spec (n : Nat) : ∀ (look : Nat → α → Bool × List ε) (l : List α),
    (∀ k x, (look k x).1 = true → (look k x).2 = msg x) →
    (∀ k x, (look k x).1 = false → (look k x).2 = []) → l.length < n →
    ∃ removed, (removed ++ (sweep look n l).1).Perm l ∧ (sweep look n l).1.Sublist l ∧
      (sweep look n l).2 = removed.flatMap msg ∧
      (∀ x ∈ removed, ∃ k, (look k x).1 = true) ∧
      ∀ x ∈ (sweep look n l).1, ∃ k, (look k x).1 = false := by
  induction n with
  | zero => intro look l _ _ hlen; exact absurd hlen (Nat.not_lt_zero _)
  | succ n ih =>
      intro look l hyes hno hlen
      have hquiet : ∀ ys : List α, (∀ y ∈ ys, (look 0 y).1 = false) →
          ys.flatMap (fun y => (look 0 y).2) = [] := fun ys hys =>
        List.flatMap_eq_nil_iff.mpr (fun y hy => hno 0 y (hys y hy))
      rcases search_cases (look 0) l with hnone | ⟨pre, x, post, rfl, hpre, hx⟩
      · -- Nothing is hit: the loop ends with the sequence as it is.
        refine ⟨[], ?_⟩
        simp only [sweep, search_of_none (look 0) true hnone, hquiet l hnone, List.nil_append,
          List.flatMap_nil, List.not_mem_nil, IsEmpty.forall_iff, implies_true, true_and]
        exact ⟨List.Perm.refl _, List.Sublist.refl _, fun y hy => ⟨0, hnone y hy⟩⟩
      · -- One element goes, and the next round starts again on the rest.
        have hlen' : (pre ++ post).length < n := by
          simp only [List.length_append, List.length_cons] at hlen ⊢
          omega
        rcases ih (fun k => look (k + 1)) (pre ++ post) (fun k => hyes (k + 1))
          (fun k => hno (k + 1)) hlen' with ⟨removed, hperm, hsub, hout, hrem, hrest⟩
        refine ⟨x :: removed, ?_⟩
        simp only [sweep, search_of_hit (look 0) true hpre hx, if_true, hquiet pre hpre,
          List.nil_append, hyes 0 x hx, List.flatMap_cons, hout, List.cons_append, true_and]
        refine ⟨?_, ?_, ?_, ?_⟩
        · exact (List.Perm.cons x hperm).trans List.perm_middle.symm
        · exact hsub.trans (List.Sublist.append_left (List.sublist_cons_self x post) pre)
        · intro y hy
          rcases List.mem_cons.mp hy with rfl | hin
          · exact ⟨0, hx⟩
          · rcases hrem y hin with ⟨k, hk⟩
            exact ⟨k + 1, hk⟩
        · intro y hy
          rcases hrest y hy with ⟨k, hk⟩
          exact ⟨k + 1, hk⟩

/-- What a sweep does when the verdict of an element does not change: one pass
    that keeps the misses, with the effects of the hits in their order. -/
theorem sweep_eq_filter {p : α → Bool} (n : Nat) : ∀ (look : Nat → α → Bool × List ε) (l : List α),
    (∀ k, ∀ x ∈ l, (look k x).1 = p x) →
    (∀ k, ∀ x ∈ l, p x = true → (look k x).2 = msg x) →
    (∀ k, ∀ x ∈ l, p x = false → (look k x).2 = []) → l.length < n →
    sweep look n l = (l.filter (fun x => !p x), (l.filter p).flatMap msg) := by
  induction n with
  | zero => intro look l _ _ _ hlen; exact absurd hlen (Nat.not_lt_zero _)
  | succ n ih =>
      intro look l hp hyes hno hlen
      -- What is not hit is kept by the filter and has no effects.
      have hmiss : ∀ ys : List α, (∀ y ∈ ys, y ∈ l) → (∀ y ∈ ys, (look 0 y).1 = false) →
          ys.filter p = [] ∧ ys.filter (fun x => !p x) = ys ∧
            ys.flatMap (fun y => (look 0 y).2) = [] := by
        intro ys hin hys
        have hys' : ∀ y ∈ ys, p y = false := fun y hy => by
          rw [← hp 0 y (hin y hy)]
          exact hys y hy
        refine ⟨?_, ?_, ?_⟩
        · exact List.filter_eq_nil_iff.mpr (fun y hy => by rw [hys' y hy]; exact Bool.false_ne_true)
        · exact List.filter_eq_self.mpr (fun y hy => by rw [hys' y hy]; rfl)
        · exact List.flatMap_eq_nil_iff.mpr (fun y hy => hno 0 y (hin y hy) (hys' y hy))
      rcases search_cases (look 0) l with hnone | ⟨pre, x, post, rfl, hpre, hx⟩
      · rcases hmiss l (fun _ hy => hy) hnone with ⟨h1, h2, h3⟩
        simp only [sweep, search_of_none (look 0) true hnone, h1, h2, h3, List.flatMap_nil]
      · have hinpre : ∀ y ∈ pre, y ∈ pre ++ x :: post := fun _ hy => List.mem_append_left _ hy
        have hinx : x ∈ pre ++ x :: post := List.mem_append_right _ List.mem_cons_self
        have hrest : ∀ y ∈ pre ++ post, y ∈ pre ++ x :: post := fun y hy =>
          (List.Sublist.append_left (List.sublist_cons_self x post) pre).subset hy
        rcases hmiss pre hinpre hpre with ⟨h1, h2, h3⟩
        have hpx : p x = true := by rw [← hp 0 x hinx]; exact hx
        have hlen' : (pre ++ post).length < n := by
          simp only [List.length_append, List.length_cons] at hlen ⊢
          omega
        have hrec := ih (fun k => look (k + 1)) (pre ++ post)
          (fun k y hy => hp (k + 1) y (hrest y hy)) (fun k y hy => hyes (k + 1) y (hrest y hy))
          (fun k y hy => hno (k + 1) y (hrest y hy)) hlen'
        simp only [sweep, search_of_hit (look 0) true hpre hx, if_true, hrec, h1, h2, h3,
          List.nil_append, hyes 0 x hinx hpx, List.filter_append, List.filter_cons, hpx,
          Bool.not_true, Bool.false_eq_true, if_false, List.flatMap_cons]

/-- A part of a sequence without repetitions is what its membership picks out. -/
theorem sublist_eq_filter_mem [DecidableEq α] {m l : List α} (h : m.Sublist l) (hl : l.Nodup) :
    m = l.filter (fun x => decide (x ∈ m)) := by
  have hsub : m.Sublist (l.filter (fun x => decide (x ∈ m))) := by
    have hm := h.filter (fun x => decide (x ∈ m))
    rwa [List.filter_eq_self.mpr (fun x hx => decide_eq_true hx)] at hm
  -- The filter has no more elements, and a part that is as long is the whole.
  have hle : (l.filter (fun x => decide (x ∈ m))).length ≤ m.length :=
    (List.subperm_of_subset (hl.filter _)
      (fun x hx => of_decide_eq_true (List.mem_filter.mp hx).2)).length_le
  exact hsub.eq_of_length_le hle

/-- What a sweep over distinct elements does when the verdicts may change: it
    is the pass that some resolution of the verdicts describes. -/
theorem sweep_resolved [DecidableEq α] (n : Nat)
    (look : Nat → α → Bool × List ε) (l : List α)
    (hyes : ∀ k x, (look k x).1 = true → (look k x).2 = msg x)
    (hno : ∀ k x, (look k x).1 = false → (look k x).2 = []) (hlen : l.length < n)
    (hl : l.Nodup) :
    ∃ p : α → Bool, (sweep look n l).1 = l.filter (fun x => !p x) ∧
      (sweep look n l).2.Perm ((l.filter p).flatMap msg) ∧
      ∀ x ∈ l, ∃ k, (look k x).1 = p x := by
  rcases sweep_spec msg n look l hyes hno hlen with ⟨removed, hperm, hsub, hout, hrem, hrest⟩
  have hnodup : (removed ++ (sweep look n l).1).Nodup := hperm.nodup_iff.mpr hl
  have hdisj := List.disjoint_of_nodup_append hnodup
  -- An element is removed exactly if it does not remain.
  have hmem : ∀ x ∈ l, x ∈ removed ↔ x ∉ (sweep look n l).1 := by
    intro x hx
    constructor
    · exact fun hr hs => hdisj hr hs
    · intro hs
      rcases List.mem_append.mp (hperm.mem_iff.mpr hx) with hr | hr
      · exact hr
      · exact absurd hr hs
  refine ⟨fun x => decide (x ∈ removed), ?_, ?_, ?_⟩
  · refine (sublist_eq_filter_mem hsub hl).trans (List.filter_congr (fun x hx => ?_))
    rw [← decide_not]
    exact decide_eq_decide.mpr (by rw [hmem x hx, not_not])
  · rw [hout]
    refine List.Perm.flatMap_right msg ?_
    refine (List.perm_ext_iff_of_nodup hnodup.of_append_left (hl.filter _)).mpr (fun x => ?_)
    rw [List.mem_filter, decide_eq_true_eq]
    exact ⟨fun hx => ⟨hperm.mem_iff.mp (List.mem_append_left _ hx), hx⟩, fun hx => hx.2⟩
  · intro x hx
    by_cases hr : x ∈ removed
    · rcases hrem x hr with ⟨k, hk⟩
      exact ⟨k, hk.trans (decide_eq_true hr).symm⟩
    · have hs : x ∈ (sweep look n l).1 := by
        by_contra hs
        exact hr ((hmem x hx).mpr hs)
      rcases hrest x hs with ⟨k, hk⟩
      exact ⟨k, hk.trans (decide_eq_false hr).symm⟩
end Loop

end Sweep

end Taoshan

import Mathlib.Data.List.AList
import Mathlib.Data.List.Perm.Subperm
import Mathlib.Tactic.Common

/-!
# Doubly Linked Segments in a Heap

What it means for a heap of nodes to hold a doubly linked list, and how the
two pointer updates every such list is maintained with act on it.

A heap maps addresses to nodes; an address it does not hold is not allocated,
so following a dangling pointer is a failed lookup rather than an arbitrary
value. `Seg` is the usual segment predicate, open at both ends: it names the
pointer before the first node and the pointer after the last, which is what
lets a list be cut at a node and put together again (`seg_append`).

Unlinking or inserting a node changes one `next` pointer on its left and one
`prev` pointer on its right, and either neighbour may be the end of the list,
in which case the list's own head or tail pointer takes its place. That is
`relinkNext` and `relinkPrev`. Their two lemmas say that the segment on that
side survives with the new pointer at its open end, and that nothing outside
the segment was written.

## Main definitions

* `Node`: A heap node with both links and a payload.
* `Seg`: A doubly linked segment, open at both ends.
* `Linked`: A whole list, from its head pointer to its tail pointer.
* `relinkNext`: Redirecting what follows a segment.
* `relinkPrev`: Redirecting what precedes a segment.

## Theorems

* `seg_append`: Cutting a segment in two.
* `seg_congr`: A segment depends on its own nodes only.
* `seg_relinkNext`: Redirecting the right end of a segment.
* `seg_relinkPrev`: Redirecting the left end of a segment.
* `relinkNext_frame`, `relinkPrev_frame`: Redirecting writes to one node.
* `linked_length_le`: A list is no longer than the heap has nodes.
* `linked_nil_iff`: A list is empty exactly when its head pointer is null.
-/

namespace Taoshan

namespace DList

/-- A node of a doubly linked list. -/
structure Node (β : Type*) where
  next : Option Nat
  prev : Option Nat
  payload : β
  deriving DecidableEq, Repr

/-- Allocated nodes by address. -/
abbrev Heap (β : Type*) := AList (fun _ : Nat => Node β)

variable {β : Type*}

/-- Write through a pointer, or `none` if it points to nothing allocated. -/
def modify (h : Heap β) (a : Nat) (f : Node β → Node β) : Option (Heap β) :=
  match h.lookup a with
  | none => none
  | some n => some (h.insert a (f n))

/-- A segment between a pointer before its first node and a pointer after its
    last: `head` enters it, `last` is its last node or, when it is empty, the
    node before it. -/
def Seg (h : Heap β) : Option Nat → Option Nat → List (Nat × β) → Option Nat → Option Nat → Prop
  | before, head, [], last, after => head = after ∧ last = before
  | before, head, (a, v) :: xs, last, after =>
      head = some a ∧ ∃ mid, h.lookup a = some ⟨mid, before, v⟩ ∧ Seg h (some a) mid xs last after

/-- The addresses a segment occupies. -/
def addrs (xs : List (Nat × β)) : List Nat := xs.map Prod.fst

@[simp] theorem addrs_nil : addrs ([] : List (Nat × β)) = [] := rfl

@[simp] theorem addrs_cons (x : Nat × β) (xs : List (Nat × β)) :
    addrs (x :: xs) = x.1 :: addrs xs := rfl

@[simp] theorem addrs_append (xs ys : List (Nat × β)) :
    addrs (xs ++ ys) = addrs xs ++ addrs ys := List.map_append

/-- A list held by a head and a tail pointer. -/
structure Linked (h : Heap β) (head tail : Option Nat) (xs : List (Nat × β)) : Prop where
  seg : Seg h none head xs tail none
  nodup : (addrs xs).Nodup

/-- Cutting a segment in two, at the pointers in the middle. -/
theorem seg_append (h : Heap β) (before head last after : Option Nat) (xs ys : List (Nat × β)) :
    Seg h before head (xs ++ ys) last after ↔
      ∃ left right, Seg h before head xs left right ∧ Seg h left right ys last after := by
  induction xs generalizing before head with
  | nil =>
      constructor
      · intro hs
        exact ⟨before, head, ⟨rfl, rfl⟩, hs⟩
      · rintro ⟨left, right, ⟨hhead, hlast⟩, hs⟩
        rw [List.nil_append, hhead, ← hlast]
        exact hs
  | cons x xs ih =>
      constructor
      · rintro ⟨hhead, mid, hget, hrest⟩
        rcases (ih (some x.1) mid).mp hrest with ⟨left, right, hl, hr⟩
        exact ⟨left, right, ⟨hhead, mid, hget, hl⟩, hr⟩
      · rintro ⟨left, right, ⟨hhead, mid, hget, hl⟩, hr⟩
        exact ⟨hhead, mid, hget, (ih (some x.1) mid).mpr ⟨left, right, hl, hr⟩⟩

/-- A segment depends on its own nodes only. -/
theorem seg_congr {h h' : Heap β} {before head last after : Option Nat} {xs : List (Nat × β)}
    (hsame : ∀ a ∈ addrs xs, h'.lookup a = h.lookup a)
    (hs : Seg h before head xs last after) : Seg h' before head xs last after := by
  induction xs generalizing before head with
  | nil => exact hs
  | cons x xs ih =>
      rcases hs with ⟨hhead, mid, hget, hrest⟩
      refine ⟨hhead, mid, ?_, ih (fun a ha => hsame a (List.mem_cons_of_mem _ ha)) hrest⟩
      rw [hsame x.1 (List.mem_cons_self), hget]

/-- The nodes of a segment are allocated. -/
theorem seg_lookup_isSome {h : Heap β} {before head last after : Option Nat}
    {xs : List (Nat × β)} (hs : Seg h before head xs last after) :
    ∀ a ∈ addrs xs, (h.lookup a).isSome := by
  induction xs generalizing before head with
  | nil => intro a ha; exact absurd ha (List.not_mem_nil)
  | cons x xs ih =>
      rcases hs with ⟨_, mid, hget, hrest⟩
      intro a ha
      rcases List.mem_cons.mp ha with rfl | hin
      · rw [hget]; rfl
      · exact ih hrest a hin

/-- The last node of a nonempty segment is the one its end pointer names. -/
theorem seg_last {h : Heap β} {before head last after : Option Nat} {xs : List (Nat × β)}
    {x : Nat × β} (hs : Seg h before head (xs ++ [x]) last after) : last = some x.1 := by
  rcases (seg_append h before head last after xs [x]).mp hs with ⟨_, _, _, _, _, _, _, hlast⟩
  exact hlast

/-- The last node of a segment points to what follows it. -/
theorem seg_last_lookup {h : Heap β} {before head last after : Option Nat}
    {xs : List (Nat × β)} {x : Nat × β} (hs : Seg h before head (xs ++ [x]) last after) :
    ∃ left, Seg h before head xs left (some x.1) ∧
      h.lookup x.1 = some ⟨after, left, x.2⟩ := by
  rcases (seg_append h before head last after xs [x]).mp hs with
    ⟨left, right, hl, hright, mid, hget, hmid, _⟩
  refine ⟨left, ?_, ?_⟩
  · rw [← hright]
    exact hl
  · rw [hget, hmid]

theorem modify_of_lookup {h : Heap β} {a : Nat} {n : Node β} (f : Node β → Node β)
    (hget : h.lookup a = some n) : modify h a f = some (h.insert a (f n)) := by
  unfold modify
  rw [hget]

/-- Make the node `left` point to `after`, or, when there is no such node, let
    the head pointer do so. The second component is the head pointer. -/
def relinkNext (h : Heap β) (left head after : Option Nat) : Option (Heap β × Option Nat) :=
  match left with
  | none => some (h, after)
  | some p => match modify h p (fun n => { n with next := after }) with
    | none => none
    | some h' => some (h', head)

/-- Make the node `right` point back to `before`, or, when there is no such
    node, let the tail pointer do so. The second component is the tail
    pointer. -/
def relinkPrev (h : Heap β) (right tail before : Option Nat) : Option (Heap β × Option Nat) :=
  match right with
  | none => some (h, before)
  | some a => match modify h a (fun n => { n with prev := before }) with
    | none => none
    | some h' => some (h', tail)

/-- Writing through a pointer leaves every other node alone. -/
theorem modify_frame {h h' : Heap β} {a : Nat} {f : Node β → Node β} (hm : modify h a f = some h')
    {b : Nat} (hb : b ≠ a) : h'.lookup b = h.lookup b := by
  unfold modify at hm
  split at hm
  · cases hm
  · rw [Option.some.injEq] at hm
    rw [← hm]
    exact AList.lookup_insert_ne hb

/-- Redirecting what follows a node writes to that node only. -/
theorem relinkNext_frame {h h' : Heap β} {left head after head' : Option Nat}
    (hl : relinkNext h left head after = some (h', head')) {b : Nat} (hb : left ≠ some b) :
    h'.lookup b = h.lookup b := by
  cases left with
  | none =>
      simp only [relinkNext, Option.some.injEq, Prod.mk.injEq] at hl
      rw [hl.1]
  | some p =>
      simp only [relinkNext] at hl
      split at hl
      · cases hl
      · next g hg =>
          simp only [Option.some.injEq, Prod.mk.injEq] at hl
          rw [← hl.1]
          exact modify_frame hg (fun hbp => hb (congrArg some hbp.symm))

/-- Redirecting what precedes a node writes to that node only. -/
theorem relinkPrev_frame {h h' : Heap β} {right tail before tail' : Option Nat}
    (hl : relinkPrev h right tail before = some (h', tail')) {b : Nat} (hb : right ≠ some b) :
    h'.lookup b = h.lookup b := by
  cases right with
  | none =>
      simp only [relinkPrev, Option.some.injEq, Prod.mk.injEq] at hl
      rw [hl.1]
  | some a =>
      simp only [relinkPrev] at hl
      split at hl
      · cases hl
      · next g hg =>
          simp only [Option.some.injEq, Prod.mk.injEq] at hl
          rw [← hl.1]
          exact modify_frame hg (fun hba => hb (congrArg some hba.symm))

/-- The pointer into a segment that ends the list is null or one of its nodes. -/
theorem seg_head_mem {h : Heap β} {before head last : Option Nat} {xs : List (Nat × β)}
    (hs : Seg h before head xs last none) {b : Nat} (hb : head = some b) : b ∈ addrs xs := by
  cases xs with
  | nil =>
      rw [hs.1] at hb
      cases hb
  | cons x xs =>
      rw [hs.1, Option.some.injEq] at hb
      rw [addrs_cons, hb]
      exact List.mem_cons_self

/-- The last node of a segment that begins the list is none or one of its
    nodes. -/
theorem seg_last_mem {h : Heap β} {head last after : Option Nat} {xs : List (Nat × β)}
    (hs : Seg h none head xs last after) {b : Nat} (hb : last = some b) : b ∈ addrs xs := by
  rcases List.eq_nil_or_concat xs with rfl | ⟨ys, x, rfl⟩
  · rw [hs.2] at hb
    cases hb
  · rw [List.concat_eq_append] at *
    rw [seg_last hs, Option.some.injEq] at hb
    rw [addrs_append, addrs_cons, hb]
    exact List.mem_append_right _ List.mem_cons_self

/-- Redirecting the right end of a segment writes to its last node, or to the
    head pointer when there is none, and to nothing else. -/
theorem seg_relinkNext {h : Heap β} {head left after : Option Nat} {xs : List (Nat × β)}
    (after' : Option Nat) (hs : Seg h none head xs left after) (hnd : (addrs xs).Nodup) :
    ∃ h' head', relinkNext h left head after' = some (h', head') ∧
      Seg h' none head' xs left after' ∧ ∀ b, b ∉ addrs xs → h'.lookup b = h.lookup b := by
  rcases List.eq_nil_or_concat xs with rfl | ⟨ys, x, rfl⟩
  · -- An empty segment has no node to write to, and the head pointer is it.
    rcases hs with ⟨_, rfl⟩
    exact ⟨h, after', rfl, ⟨rfl, rfl⟩, fun _ _ => rfl⟩
  · rw [List.concat_eq_append] at *
    have hleft : left = some x.1 := seg_last hs
    rcases seg_last_lookup hs with ⟨before, hys, hget⟩
    have hx : x.1 ∉ addrs ys := by
      rw [addrs_append, addrs_cons, addrs_nil] at hnd
      exact fun hin => (List.disjoint_of_nodup_append hnd) hin (List.mem_singleton_self _)
    refine ⟨h.insert x.1 ⟨after', before, x.2⟩, head, ?_, ?_, ?_⟩
    · unfold relinkNext
      rw [hleft]
      simp only []
      rw [modify_of_lookup _ hget]
    · -- The nodes before the last are untouched; the last has its new pointer.
      refine (seg_append _ _ _ _ _ ys [x]).mpr ⟨before, some x.1, ?_, rfl, after', ?_, rfl, hleft⟩
      · refine seg_congr (fun a ha => ?_) hys
        exact AList.lookup_insert_ne (fun hax => hx (hax ▸ ha))
      · exact AList.lookup_insert _
    · intro b hb
      refine AList.lookup_insert_ne (fun hbx => hb ?_)
      rw [addrs_append, hbx]
      exact List.mem_append_right _ (List.mem_singleton_self _)

/-- Redirecting the left end of a segment writes to its first node, or to the
    tail pointer when there is none, and to nothing else. -/
theorem seg_relinkPrev {h : Heap β} {before right tail : Option Nat} {xs : List (Nat × β)}
    (before' : Option Nat) (hs : Seg h before right xs tail none) (hnd : (addrs xs).Nodup) :
    ∃ h' tail', relinkPrev h right tail before' = some (h', tail') ∧
      Seg h' before' right xs tail' none ∧ ∀ b, b ∉ addrs xs → h'.lookup b = h.lookup b := by
  cases xs with
  | nil =>
      rcases hs with ⟨rfl, _⟩
      exact ⟨h, before', rfl, ⟨rfl, rfl⟩, fun _ _ => rfl⟩
  | cons x xs =>
      rcases hs with ⟨rfl, mid, hget, hrest⟩
      have hx : x.1 ∉ addrs xs := (List.nodup_cons.mp hnd).1
      refine ⟨h.insert x.1 ⟨mid, before', x.2⟩, tail, ?_, ?_, ?_⟩
      · unfold relinkPrev
        simp only []
        rw [modify_of_lookup _ hget]
      · refine ⟨rfl, mid, AList.lookup_insert _, seg_congr (fun a ha => ?_) hrest⟩
        exact AList.lookup_insert_ne (fun hax => hx (hax ▸ ha))
      · intro b hb
        exact AList.lookup_insert_ne (fun hbx => hb (hbx ▸ List.mem_cons_self))

/-- A list has at most as many elements as the heap has nodes. -/
theorem linked_length_le {h : Heap β} {head tail : Option Nat} {xs : List (Nat × β)}
    (hl : Linked h head tail xs) : xs.length ≤ h.keys.length := by
  -- The addresses are distinct keys of the heap.
  have hsub : addrs xs ⊆ h.keys := fun a ha =>
    AList.lookup_isSome.mp (seg_lookup_isSome hl.seg a ha)
  have hlen := (hl.nodup.subperm hsub).length_le
  rwa [addrs, List.length_map] at hlen

/-- A list is empty exactly when its head pointer is null. -/
theorem linked_nil_iff {h : Heap β} {head tail : Option Nat} {xs : List (Nat × β)}
    (hl : Linked h head tail xs) : xs = [] ↔ head = none := by
  cases xs with
  | nil => exact ⟨fun _ => hl.seg.1, fun _ => rfl⟩
  | cons x xs =>
      refine ⟨fun h => absurd h (List.cons_ne_nil _ _), fun hh => ?_⟩
      rw [hl.seg.1] at hh
      exact absurd hh (by simp only [reduceCtorEq, not_false_eq_true])

/-- A list is empty exactly when its tail pointer is null. -/
theorem linked_nil_iff_tail {h : Heap β} {head tail : Option Nat} {xs : List (Nat × β)}
    (hl : Linked h head tail xs) : xs = [] ↔ tail = none := by
  rcases List.eq_nil_or_concat xs with rfl | ⟨ys, x, rfl⟩
  · exact ⟨fun _ => hl.seg.2, fun _ => rfl⟩
  · rw [List.concat_eq_append] at *
    refine ⟨fun h => absurd h (by simp only [List.append_eq_nil_iff, List.cons_ne_self, and_false,
      not_false_eq_true]), fun ht => ?_⟩
    rw [seg_last hl.seg] at ht
    exact absurd ht (by simp only [reduceCtorEq, not_false_eq_true])

end DList

end Taoshan

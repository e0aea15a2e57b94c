import Mathlib.Data.Fintype.EquivFin
import Taoshan.Lib.DList
import Taoshan.Lib.Sweep

/-!
# The Doubly Linked List

`linked_list.c`, at the level of its pointers, and the sequence it stands for.

A `list_state` is a head and a tail pointer; the elements live in a heap.
Every operation is a function into `Option`: `none` is a read or write through
a pointer to memory that is not allocated, or a loop that does not come to an
end. The lemmas below show that neither happens on a list that represents a
sequence, and say what sequence it represents afterwards. An element is added
at the head and removed at the tail, so the sequence is a queue read from its
far end.

`malloc` is an argument of `linkedListAdd`: the address it returned, which is
not in use, or nothing.

## Main definitions

* `linkedListInit`: An empty list.
* `linkedListAdd`: A new head element.
* `linkedListRemove`: Taking the tail element out.
* `linkedListEmpty`: Whether there is a head element.
* `linkedListFlush`: Deallocating and freeing from the head on.
* `linkedListSearch`: The first element a comparison accepts, optionally
  unlinked.
* `Represents`: The sequence a list represents.
* `SearchContract`: What the header promises of a search.

## Theorems

* `repr_init`: A new list represents the empty sequence.
* `repr_add`, `exists_represents`: Adding prepends, and so there is a list for
  every sequence.
* `repr_remove`: Removing takes the last element.
* `repr_empty`: The emptiness test tests emptiness.
* `repr_flush`: Flushing deallocates every element and leaves nothing.
* `repr_search`: Searching is `Sweep.search` on the sequence.
* `search_contract_iff`: When a search keeps what the header promises.
-/

namespace Taoshan

namespace Utils

open DList

/-- `linked_list_err_type`. -/
inductive LinkedListErr
  | success
  | failureGeneral
  | invalidParameter
  | invalidHandle
  | unavailableResource
  | insufficientBuffer
  deriving DecidableEq, Repr

/-- The two fields of a `list_element` that are not links. -/
structure Item (α δ : Type*) where
  dataPtr : α
  deallocFunc : Option δ
  deriving DecidableEq, Repr

/-- `list_element`. -/
abbrev ListElement (α δ : Type*) := Node (Item α δ)

/-- `list_state`. -/
structure ListState where
  pHead : Option Nat
  pTail : Option Nat
  deriving DecidableEq, Repr

/-- A list together with the heap its elements live in. -/
structure ListMem (α δ : Type*) where
  heap : Heap (Item α δ)
  state : ListState

variable {α δ ε : Type*}

/-- The call a `dealloc_func` amounts to, if there is such a function. -/
def deallocCall (item : Item α δ) : List (δ × α) :=
  match item.deallocFunc with
  | none => []
  | some f => [(f, item.dataPtr)]

def linkedListInit : ListMem α δ := ⟨∅, ⟨none, none⟩⟩

def linkedListAdd (m : ListMem α δ) (malloc : Option Nat) (dataObj : Option α)
    (dealloc : Option δ) : Option (LinkedListErr × ListMem α δ) :=
  match dataObj with
  | none => some (.invalidParameter, m)
  | some data =>
    match malloc with
    | none => some (.failureGeneral, m)
    | some elem =>
      -- The element points to the old head; the old head, or the tail pointer
      -- when there is none, points back to it.
      let heap := m.heap.insert elem ⟨m.state.pHead, none, ⟨data, dealloc⟩⟩
      match relinkPrev heap m.state.pHead m.state.pTail (some elem) with
      | none => none
      | some (heap', tail) => some (.success, ⟨heap', ⟨some elem, tail⟩⟩)

def linkedListRemove (m : ListMem α δ) : Option (LinkedListErr × Option α × ListMem α δ) :=
  match m.state.pTail with
  | none => some (.unavailableResource, none, m)
  | some tmp =>
    match m.heap.lookup tmp with
    | none => none
    | some node =>
      -- The element before the tail ends the list, or the list is empty now.
      match relinkNext m.heap node.prev m.state.pHead none with
      | none => none
      | some (heap', head) =>
          some (.success, some node.payload.dataPtr, ⟨heap'.erase tmp, ⟨head, node.prev⟩⟩)

def linkedListEmpty (m : ListMem α δ) : Bool := m.state.pHead.isNone

/-- The loop of `linked_list_flush`, for at most `n` elements: the calls it
    makes and the heap it leaves. -/
def flushLoop : Nat → Heap (Item α δ) → Option Nat → Option (List (δ × α) × Heap (Item α δ))
  | _, heap, none => some ([], heap)
  | 0, _, some _ => none
  | n + 1, heap, some a =>
    match heap.lookup a with
    | none => none
    | some node =>
      match flushLoop n (heap.erase a) node.next with
      | none => none
      | some (calls, heap') => some (deallocCall node.payload ++ calls, heap')

def linkedListFlush (m : ListMem α δ) :
    Option (LinkedListErr × List (δ × α) × ListMem α δ) :=
  match flushLoop m.heap.keys.length m.heap m.state.pHead with
  | none => none
  | some (calls, heap) => some (.success, calls, ⟨heap, ⟨none, none⟩⟩)

/-- The loop of `linked_list_search`, for at most `n` elements: the element
    accepted, if any, and the effects of the comparisons made. -/
def searchLoop (equal : α → Bool × List ε) :
    Nat → Heap (Item α δ) → Option Nat → Option (Option (Nat × ListElement α δ) × List ε)
  | _, _, none => some (none, [])
  | 0, _, some _ => none
  | n + 1, heap, some a =>
    match heap.lookup a with
    | none => none
    | some node =>
      if (equal node.payload.dataPtr).1 then
        some (some (a, node), (equal node.payload.dataPtr).2)
      else
        match searchLoop equal n heap node.next with
        | none => none
        | some (r, out) => some (r, (equal node.payload.dataPtr).2 ++ out)

/-- What `linked_list_search` leaves behind: its return value, the variable
    `data_p` points to (`none` when `data_p` is null), the effects of the
    comparisons, the deallocation made, and the list. -/
structure SearchResult (α δ ε : Type*) where
  rv : LinkedListErr
  dataP : Option (Option α)
  out : List ε
  calls : List (δ × α)
  mem : ListMem α δ

def linkedListSearch (m : ListMem α δ) (dataP : Option (Option α)) (equal : α → Bool × List ε)
    (rmIfFound : Bool) : Option (SearchResult α δ ε) :=
  match m.state.pTail with
  -- An empty list; `data_p` keeps what it pointed to.
  | none => some ⟨.unavailableResource, dataP, [], [], m⟩
  | some _ =>
    match searchLoop equal m.heap.keys.length m.heap m.state.pHead with
    | none => none
    | some (none, out) => some ⟨.success, dataP.map (fun _ => none), out, [], m⟩
    | some (some (tmp, node), out) =>
      let dataP' := dataP.map (fun _ => some node.payload.dataPtr)
      if rmIfFound then
        match relinkNext m.heap node.prev m.state.pHead node.next with
        | none => none
        | some (heap', head) =>
          match relinkPrev heap' node.next m.state.pTail node.prev with
          | none => none
          | some (heap'', tail) =>
            -- The data is deallocated only when it was not copied out.
            let calls := if dataP.isNone then deallocCall node.payload else []
            some ⟨.success, dataP', out, calls, ⟨heap''.erase tmp, ⟨head, tail⟩⟩⟩
      else some ⟨.success, dataP', out, [], m⟩

/-- The sequence a list represents, from its head, each element with its
    address. -/
def Represents (m : ListMem α δ) (xs : List (Nat × Item α δ)) : Prop :=
  Linked m.heap m.state.pHead m.state.pTail xs

/-- The data of a sequence of elements. -/
def dataOf (xs : List (Nat × Item α δ)) : List α := xs.map (fun x => x.2.dataPtr)

@[simp] theorem dataOf_nil : dataOf ([] : List (Nat × Item α δ)) = [] := rfl

@[simp] theorem dataOf_cons (x : Nat × Item α δ) (xs : List (Nat × Item α δ)) :
    dataOf (x :: xs) = x.2.dataPtr :: dataOf xs := rfl

@[simp] theorem dataOf_append (xs ys : List (Nat × Item α δ)) :
    dataOf (xs ++ ys) = dataOf xs ++ dataOf ys := List.map_append

@[simp] theorem length_dataOf (xs : List (Nat × Item α δ)) : (dataOf xs).length = xs.length :=
  List.length_map _

theorem repr_init : Represents (linkedListInit : ListMem α δ) [] :=
  ⟨⟨rfl, rfl⟩, List.nodup_nil⟩

theorem repr_empty {m : ListMem α δ} {xs : List (Nat × Item α δ)} (h : Represents m xs) :
    linkedListEmpty m = true ↔ xs = [] := by
  rw [linked_nil_iff h, linkedListEmpty, Option.isNone_iff_eq_none]

theorem linkedListAdd_noMem (m : ListMem α δ) (data : α) (dealloc : Option δ) :
    linkedListAdd m none (some data) dealloc = some (.failureGeneral, m) := rfl

/-- Adding prepends. The address is one `malloc` may return, so no element of
    the list is at it. -/
theorem repr_add {m : ListMem α δ} {xs : List (Nat × Item α δ)} (h : Represents m xs) {elem : Nat}
    (hfresh : m.heap.lookup elem = none) (data : α) (dealloc : Option δ) :
    ∃ m', linkedListAdd m (some elem) (some data) dealloc = some (.success, m') ∧
      Represents m' ((elem, ⟨data, dealloc⟩) :: xs) := by
  have hnew : elem ∉ addrs xs := by
    intro hin
    have hsome := seg_lookup_isSome h.seg elem hin
    rw [hfresh] at hsome
    exact absurd hsome (by simp only [Option.isSome_none, Bool.false_eq_true, not_false_eq_true])
  have hseg : Seg (m.heap.insert elem ⟨m.state.pHead, none, ⟨data, dealloc⟩⟩) none m.state.pHead
      xs m.state.pTail none :=
    seg_congr (fun a ha => AList.lookup_insert_ne (fun hae => hnew (hae ▸ ha))) h.seg
  rcases seg_relinkPrev (some elem) hseg h.nodup with ⟨heap', tail, hlink, hseg', hframe⟩
  refine ⟨⟨heap', ⟨some elem, tail⟩⟩, ?_, ⟨⟨rfl, m.state.pHead, ?_, hseg'⟩, ?_⟩⟩
  · simp only [linkedListAdd, hlink]
  · rw [hframe elem hnew, AList.lookup_insert]
  · exact List.nodup_cons.mpr ⟨hnew, h.nodup⟩

/-- There is a list for every sequence. -/
theorem exists_represents (items : List (Item α δ)) :
    ∃ (m : ListMem α δ) (xs : List (Nat × Item α δ)),
      Represents m xs ∧ xs.map Prod.snd = items := by
  induction items with
  | nil => exact ⟨linkedListInit, [], repr_init, rfl⟩
  | cons item items ih =>
      rcases ih with ⟨m, xs, h, hxs⟩
      rcases Infinite.exists_notMem_finset m.heap.keys.toFinset with ⟨elem, helem⟩
      rw [List.mem_toFinset, ← AList.mem_keys, ← AList.lookup_eq_none] at helem
      rcases repr_add h helem item.dataPtr item.deallocFunc with ⟨m', _, h'⟩
      exact ⟨m', _, h', by rw [List.map_cons, hxs]⟩

/-- Removing from an empty list finds nothing. -/
theorem repr_remove_nil {m : ListMem α δ} (h : Represents m []) :
    linkedListRemove m = some (.unavailableResource, none, m) := by
  simp only [linkedListRemove, (linked_nil_iff_tail h).mp rfl]

/-- Removing takes the last element and returns its data. -/
theorem repr_remove {m : ListMem α δ} {xs : List (Nat × Item α δ)} {x : Nat × Item α δ}
    (h : Represents m (xs ++ [x])) :
    ∃ m', linkedListRemove m = some (.success, some x.2.dataPtr, m') ∧ Represents m' xs := by
  have htail : m.state.pTail = some x.1 := seg_last h.seg
  rcases seg_last_lookup h.seg with ⟨left, hxs, hget⟩
  have hnd := h.nodup
  rw [addrs_append, addrs_cons, addrs_nil] at hnd
  have hx : x.1 ∉ addrs xs := fun hin =>
    (List.disjoint_of_nodup_append hnd) hin (List.mem_singleton_self _)
  rcases seg_relinkNext none hxs (List.nodup_append.mp hnd).1 with
    ⟨heap', head, hlink, hseg', _⟩
  refine ⟨⟨heap'.erase x.1, ⟨head, left⟩⟩, ?_, ⟨?_, (List.nodup_append.mp hnd).1⟩⟩
  · simp only [linkedListRemove, htail, hget, hlink]
  · exact seg_congr (fun a ha => AList.lookup_erase_ne (fun hax => hx (hax ▸ ha))) hseg'

/-- The flush loop deallocates the elements of a list from its head and frees
    them, given as many rounds as there are elements. -/
theorem flushLoop_seg {xs : List (Nat × Item α δ)} : ∀ {n : Nat} {heap : Heap (Item α δ)}
    {before head last : Option Nat}, Seg heap before head xs last none → (addrs xs).Nodup →
    xs.length ≤ n → ∃ heap', flushLoop n heap head =
      some (xs.flatMap (fun x => deallocCall x.2), heap') := by
  induction xs with
  | nil =>
      intro n heap before head last hs _ _
      rw [hs.1]
      cases n with
      | zero => exact ⟨heap, rfl⟩
      | succ n => exact ⟨heap, rfl⟩
  | cons x xs ih =>
      intro n heap before head last hs hnd hlen
      rcases hs with ⟨rfl, mid, hget, hrest⟩
      cases n with
      | zero => exact absurd hlen (Nat.not_succ_le_zero _)
      | succ n =>
          have hx : x.1 ∉ addrs xs := (List.nodup_cons.mp hnd).1
          -- Freeing the head leaves the rest of the segment alone.
          have hrest' : Seg (heap.erase x.1) (some x.1) mid xs last none :=
            seg_congr (fun a ha => AList.lookup_erase_ne (fun hax => hx (hax ▸ ha))) hrest
          rcases ih (n := n) hrest' (List.nodup_cons.mp hnd).2 (Nat.le_of_succ_le_succ hlen) with
            ⟨heap', hloop⟩
          exact ⟨heap', by simp only [flushLoop, hget, hloop, List.flatMap_cons]⟩

/-- Flushing calls every deallocation function there is, head first, and
    leaves the empty list. -/
theorem repr_flush {m : ListMem α δ} {xs : List (Nat × Item α δ)} (h : Represents m xs) :
    ∃ m', linkedListFlush m = some (.success, xs.flatMap (fun x => deallocCall x.2), m') ∧
      Represents m' [] := by
  rcases flushLoop_seg h.seg h.nodup (linked_length_le h) with ⟨heap', hloop⟩
  refine ⟨⟨heap', ⟨none, none⟩⟩, ?_, ⟨⟨rfl, rfl⟩, List.nodup_nil⟩⟩
  simp only [linkedListFlush, hloop]

/-- The search loop, where no element is accepted. -/
theorem searchLoop_none {equal : α → Bool × List ε} {heap : Heap (Item α δ)}
    {last : Option Nat} {xs : List (Nat × Item α δ)} :
    ∀ {n : Nat} {before head : Option Nat}, Seg heap before head xs last none →
    (∀ x ∈ dataOf xs, (equal x).1 = false) → xs.length ≤ n →
    searchLoop equal n heap head = some (none, (dataOf xs).flatMap (fun x => (equal x).2)) := by
  induction xs with
  | nil =>
      intro n before head hs _ _
      rw [hs.1]
      cases n with
      | zero => rfl
      | succ n => rfl
  | cons x xs ih =>
      intro n before head hs hmiss hlen
      rcases hs with ⟨rfl, mid, hget, hrest⟩
      cases n with
      | zero => exact absurd hlen (Nat.not_succ_le_zero _)
      | succ n =>
          have hx : (equal x.2.dataPtr).1 = false := hmiss _ List.mem_cons_self
          simp only [searchLoop, hget, hx, Bool.false_eq_true, if_false,
            ih hrest (fun y hy => hmiss y (List.mem_cons_of_mem _ hy))
              (Nat.le_of_succ_le_succ hlen), dataOf_cons, List.flatMap_cons]

/-- The search loop, where some element is accepted: it stops at the first. -/
theorem searchLoop_hit {equal : α → Bool × List ε} {heap : Heap (Item α δ)}
    {last after : Option Nat} {pre post : List (Nat × Item α δ)} {x : Nat × Item α δ}
    (node : ListElement α δ) (hget : heap.lookup x.1 = some node) (hpay : node.payload = x.2) :
    ∀ {n : Nat} {before head : Option Nat}, Seg heap before head (pre ++ x :: post) last after →
    (∀ y ∈ dataOf pre, (equal y).1 = false) → (equal x.2.dataPtr).1 = true →
    (pre ++ x :: post).length ≤ n →
    searchLoop equal n heap head = some (some (x.1, node),
      (dataOf pre).flatMap (fun y => (equal y).2) ++ (equal x.2.dataPtr).2) := by
  induction pre with
  | nil =>
      intro n before head hs _ hx hlen
      rcases hs with ⟨rfl, _, _, _⟩
      cases n with
      | zero => exact absurd hlen (Nat.not_succ_le_zero _)
      | succ n =>
          simp only [searchLoop, hget, hpay, hx, if_true, dataOf_nil, List.flatMap_nil,
            List.nil_append]
  | cons y ys ih =>
      intro n before head hs hmiss hx hlen
      rcases hs with ⟨rfl, mid, hgety, hrest⟩
      cases n with
      | zero => exact absurd hlen (Nat.not_succ_le_zero _)
      | succ n =>
          have hy : (equal y.2.dataPtr).1 = false := hmiss _ List.mem_cons_self
          simp only [searchLoop, hgety, hy, Bool.false_eq_true, if_false,
            ih hrest (fun z hz => hmiss z (List.mem_cons_of_mem _ hz)) hx
              (Nat.le_of_succ_le_succ hlen), dataOf_cons, List.flatMap_cons, List.append_assoc]

/-- Where a list splits at an element, that element's node has the two
    neighbours as its links. -/
theorem repr_split {m : ListMem α δ} {pre post : List (Nat × Item α δ)} {x : Nat × Item α δ}
    (h : Represents m (pre ++ x :: post)) :
    ∃ left right, Seg m.heap none m.state.pHead pre left (some x.1) ∧
      m.heap.lookup x.1 = some ⟨right, left, x.2⟩ ∧
      Seg m.heap (some x.1) right post m.state.pTail none := by
  rcases (seg_append _ _ _ _ _ pre (x :: post)).mp h.seg with
    ⟨left, entry, hpre, hentry, right, hget, hpost⟩
  exact ⟨left, right, hentry ▸ hpre, hget, hpost⟩

/-- Unlinking an element joins what is in front of it to what is behind it. -/
theorem repr_unlink {m : ListMem α δ} {pre post : List (Nat × Item α δ)} {x : Nat × Item α δ}
    {left right : Option Nat} (h : Represents m (pre ++ x :: post))
    (hpre : Seg m.heap none m.state.pHead pre left (some x.1))
    (hpost : Seg m.heap (some x.1) right post m.state.pTail none) :
    ∃ heap' head heap'' tail, relinkNext m.heap left m.state.pHead right = some (heap', head) ∧
      relinkPrev heap' right m.state.pTail left = some (heap'', tail) ∧
      Represents ⟨heap''.erase x.1, ⟨head, tail⟩⟩ (pre ++ post) := by
  have hnd := h.nodup
  rw [addrs_append, addrs_cons] at hnd
  rcases List.nodup_append.mp hnd with ⟨hndpre, hndx, hdisj⟩
  have hxpost : x.1 ∉ addrs post := (List.nodup_cons.mp hndx).1
  have hndpost : (addrs post).Nodup := (List.nodup_cons.mp hndx).2
  have hxpre : x.1 ∉ addrs pre := fun hin => hdisj _ hin _ List.mem_cons_self rfl
  have hsep : ∀ a ∈ addrs post, a ∉ addrs pre := fun a ha hin =>
    hdisj a hin a (List.mem_cons_of_mem _ ha) rfl
  rcases seg_relinkNext right hpre hndpre with ⟨heap', head, hl1, hseg1, hframe1⟩
  have hpost' : Seg heap' (some x.1) right post m.state.pTail none :=
    seg_congr (fun a ha => hframe1 a (hsep a ha)) hpost
  rcases seg_relinkPrev left hpost' hndpost with ⟨heap'', tail, hl2, hseg2, hframe2⟩
  have hpre' : Seg heap'' none head pre left right :=
    seg_congr (fun a ha => hframe2 a (fun hin => hsep a hin ha)) hseg1
  refine ⟨heap', head, heap'', tail, hl1, hl2, ⟨?_, ?_⟩⟩
  · -- The freed node belongs to neither half.
    refine seg_congr (fun a ha => AList.lookup_erase_ne (fun hax => ?_))
      ((seg_append _ _ _ _ _ pre post).mpr ⟨left, right, hpre', hseg2⟩)
    rw [addrs_append] at ha
    rcases List.mem_append.mp ha with hin | hin
    · exact hxpre (hax ▸ hin)
    · exact hxpost (hax ▸ hin)
  · rw [addrs_append]
    refine List.nodup_append.mpr ⟨hndpre, hndpost, fun a ha b hb hab => ?_⟩
    exact hsep b hb (hab ▸ ha)

/-- A search that finds nothing leaves the list alone. -/
theorem linkedListSearch_none {m : ListMem α δ} {xs : List (Nat × Item α δ)}
    (h : Represents m xs) (hne : xs ≠ []) {equal : α → Bool × List ε}
    (hmiss : ∀ y ∈ dataOf xs, (equal y).1 = false) (dataP : Option (Option α)) (rm : Bool) :
    linkedListSearch m dataP equal rm = some ⟨.success, dataP.map (fun _ => none),
      (dataOf xs).flatMap (fun x => (equal x).2), [], m⟩ := by
  rcases hptail : m.state.pTail with _ | t
  · exact absurd ((linked_nil_iff_tail h).mpr hptail) hne
  · simp only [linkedListSearch, hptail, searchLoop_none h.seg hmiss (linked_length_le h)]

/-- A search that finds an element takes out that element, if it is to take
    out any, and writes to no element of another list. -/
theorem linkedListSearch_hit {m : ListMem α δ} {pre post : List (Nat × Item α δ)}
    {x : Nat × Item α δ} (h : Represents m (pre ++ x :: post)) {equal : α → Bool × List ε}
    (hpre : ∀ y ∈ dataOf pre, (equal y).1 = false) (hx : (equal x.2.dataPtr).1 = true)
    (dataP : Option (Option α)) (rm : Bool) :
    ∃ m', linkedListSearch m dataP equal rm = some ⟨.success,
        dataP.map (fun _ => some x.2.dataPtr),
        (dataOf pre).flatMap (fun y => (equal y).2) ++ (equal x.2.dataPtr).2,
        if rm && dataP.isNone then deallocCall x.2 else [], m'⟩ ∧
      Represents m' (if rm then pre ++ post else pre ++ x :: post) ∧
      ∀ b, b ∉ addrs (pre ++ x :: post) → m'.heap.lookup b = m.heap.lookup b := by
  rcases hptail : m.state.pTail with _ | t
  · exact absurd ((linked_nil_iff_tail h).mpr hptail) (by simp only [List.append_eq_nil_iff,
      reduceCtorEq, and_false, not_false_eq_true])
  rcases repr_split h with ⟨left, right, hl, hget, hr⟩
  have hloop := searchLoop_hit ⟨right, left, x.2⟩ hget rfl h.seg hpre hx (linked_length_le h)
  cases rm with
  | false =>
      refine ⟨m, ?_, h, fun _ _ => rfl⟩
      simp only [linkedListSearch, hptail, hloop, Bool.false_and, Bool.false_eq_true, if_false]
  | true =>
      rcases repr_unlink h hl hr with ⟨heap', head, heap'', tail, hl1, hl2, hrepr⟩
      rw [hptail] at hl2
      refine ⟨⟨heap''.erase x.1, ⟨head, tail⟩⟩, ?_, hrepr, fun b hb => ?_⟩
      · simp only [linkedListSearch, hptail, hloop, if_true, hl1, hl2, Bool.true_and]
      · -- What is written to is the element and its two neighbours.
        rw [addrs_append, addrs_cons, List.mem_append, List.mem_cons, not_or, not_or] at hb
        calc (heap''.erase x.1).lookup b
            = heap''.lookup b := AList.lookup_erase_ne hb.2.1
          _ = heap'.lookup b :=
              relinkPrev_frame hl2 (fun hright => hb.2.2 (seg_head_mem hr hright))
          _ = m.heap.lookup b :=
              relinkNext_frame hl1 (fun hleft => hb.1 (seg_last_mem hl hleft))

/-- Adding writes to the new element and the old head. -/
theorem repr_add_frame {m m' : ListMem α δ} {xs : List (Nat × Item α δ)} (h : Represents m xs)
    {elem : Nat} {data : α} {dealloc : Option δ} {rv : LinkedListErr}
    (hadd : linkedListAdd m (some elem) (some data) dealloc = some (rv, m')) {b : Nat}
    (hb : b ∉ addrs xs) (hbe : b ≠ elem) : m'.heap.lookup b = m.heap.lookup b := by
  simp only [linkedListAdd] at hadd
  split at hadd
  · cases hadd
  · next heap' tail hlink =>
      simp only [Option.some.injEq, Prod.mk.injEq] at hadd
      rw [← hadd.2]
      calc heap'.lookup b
          = (m.heap.insert elem ⟨m.state.pHead, none, ⟨data, dealloc⟩⟩).lookup b :=
            relinkPrev_frame hlink (fun hhead => hb (seg_head_mem h.seg hhead))
        _ = m.heap.lookup b := AList.lookup_insert_ne hbe

/-- Removing writes to the last element and the one before it. -/
theorem repr_remove_frame {m m' : ListMem α δ} {xs : List (Nat × Item α δ)} {x : Nat × Item α δ}
    (h : Represents m (xs ++ [x])) {rv : LinkedListErr} {dataObj : Option α}
    (hrem : linkedListRemove m = some (rv, dataObj, m')) {b : Nat}
    (hb : b ∉ addrs (xs ++ [x])) : m'.heap.lookup b = m.heap.lookup b := by
  rcases seg_last_lookup h.seg with ⟨left, hxs, hget⟩
  rw [addrs_append, addrs_cons, List.mem_append, List.mem_cons, not_or, not_or] at hb
  simp only [linkedListRemove, seg_last h.seg, hget] at hrem
  split at hrem
  · cases hrem
  · next heap' head hlink =>
      simp only [Option.some.injEq, Prod.mk.injEq] at hrem
      rw [← hrem.2.2]
      calc (heap'.erase x.1).lookup b
          = heap'.lookup b := AList.lookup_erase_ne hb.2.1
        _ = m.heap.lookup b :=
            relinkNext_frame hlink (fun hleft => hb.1 (seg_last_mem hxs hleft))

/-- The flush loop frees the elements of the list and nothing else. -/
theorem flushLoop_frame {xs : List (Nat × Item α δ)} : ∀ {n : Nat} {heap heap' : Heap (Item α δ)}
    {before head last : Option Nat} {calls : List (δ × α)},
    Seg heap before head xs last none → (addrs xs).Nodup →
    flushLoop n heap head = some (calls, heap') → ∀ b, b ∉ addrs xs →
    heap'.lookup b = heap.lookup b := by
  induction xs with
  | nil =>
      intro n heap heap' before head last calls hs _ hloop b _
      rw [hs.1] at hloop
      cases n with
      | zero =>
          simp only [flushLoop, Option.some.injEq, Prod.mk.injEq] at hloop
          rw [hloop.2]
      | succ n =>
          simp only [flushLoop, Option.some.injEq, Prod.mk.injEq] at hloop
          rw [hloop.2]
  | cons x xs ih =>
      intro n heap heap' before head last calls hs hnd hloop b hb
      rcases hs with ⟨rfl, mid, hget, hrest⟩
      rw [addrs_cons, List.mem_cons, not_or] at hb
      cases n with
      | zero => cases hloop
      | succ n =>
          have hx : x.1 ∉ addrs xs := (List.nodup_cons.mp hnd).1
          have hrest' : Seg (heap.erase x.1) (some x.1) mid xs last none :=
            seg_congr (fun a ha => AList.lookup_erase_ne (fun hax => hx (hax ▸ ha))) hrest
          simp only [flushLoop, hget] at hloop
          split at hloop
          · cases hloop
          · next calls' heap'' hrec =>
              simp only [Option.some.injEq, Prod.mk.injEq] at hloop
              rw [← hloop.2, ih hrest' (List.nodup_cons.mp hnd).2 hrec b hb.2]
              exact AList.lookup_erase_ne hb.1

/-- Flushing writes to the elements of the list only. -/
theorem repr_flush_frame {m m' : ListMem α δ} {xs : List (Nat × Item α δ)} (h : Represents m xs)
    {rv : LinkedListErr} {calls : List (δ × α)}
    (hflush : linkedListFlush m = some (rv, calls, m')) {b : Nat} (hb : b ∉ addrs xs) :
    m'.heap.lookup b = m.heap.lookup b := by
  unfold linkedListFlush at hflush
  split at hflush
  · cases hflush
  · next calls' heap hloop =>
      simp only [Option.some.injEq, Prod.mk.injEq] at hflush
      rw [← hflush.2.2]
      exact flushLoop_frame h.seg h.nodup hloop b hb

/-- Searching a nonempty list is searching the sequence it represents: the
    same element is found with the same effects, and the list then represents
    what the search leaves of the sequence. -/
theorem repr_search {m : ListMem α δ} {xs : List (Nat × Item α δ)} (h : Represents m xs)
    (hne : xs ≠ []) (dataP : Option (Option α)) (equal : α → Bool × List ε) (rm : Bool) :
    ∃ r xs', linkedListSearch m dataP equal rm = some r ∧ r.rv = .success ∧
      r.dataP = dataP.map (fun _ => (Sweep.search equal rm (dataOf xs)).hit) ∧
      r.out = (Sweep.search equal rm (dataOf xs)).out ∧
      Represents r.mem xs' ∧ dataOf xs' = (Sweep.search equal rm (dataOf xs)).rest := by
  rcases Sweep.search_cases (fun x : Nat × Item α δ => equal x.2.dataPtr) xs with
    hmiss | ⟨pre, x, post, rfl, hpre, hx⟩
  · have hmiss' : ∀ y ∈ dataOf xs, (equal y).1 = false := by
      intro y hy
      rcases List.mem_map.mp hy with ⟨z, hz, rfl⟩
      exact hmiss z hz
    refine ⟨_, xs, linkedListSearch_none h hne hmiss' dataP rm, rfl, ?_, ?_, h, ?_⟩
    · rw [Sweep.search_of_none equal rm hmiss']
    · rw [Sweep.search_of_none equal rm hmiss']
    · rw [Sweep.search_of_none equal rm hmiss']
  · have hpre' : ∀ y ∈ dataOf pre, (equal y).1 = false := by
      intro y hy
      rcases List.mem_map.mp hy with ⟨z, hz, rfl⟩
      exact hpre z hz
    rcases linkedListSearch_hit h hpre' hx dataP rm with ⟨m', hsearch, hrepr, _⟩
    have hspec : Sweep.search equal rm (dataOf pre ++ x.2.dataPtr :: dataOf post) = _ :=
      Sweep.search_of_hit equal rm hpre' hx
    rw [dataOf_append, dataOf_cons, hspec]
    refine ⟨_, _, hsearch, rfl, rfl, rfl, hrepr, ?_⟩
    cases rm with
    | false => simp only [Bool.false_eq_true, if_false, dataOf_append, dataOf_cons]
    | true => simp only [if_true, dataOf_append]

section Contract

/-- What the header promises of a search: `data_p`, if there is one, gets the
    data of the first element that matches, or null; and an element that is
    removed without being copied out is deallocated. -/
structure SearchContract (xs : List (Nat × Item α δ)) (equal : α → Bool × List ε)
    (dataP : Option (Option α)) (rmIfFound : Bool) (r : SearchResult α δ ε) : Prop where
  copied : r.dataP = dataP.map fun _ => (dataOf xs).find? fun x => (equal x).1
  freed : r.calls = match xs.find? fun x => (equal x.2.dataPtr).1 with
    | none => []
    | some x => if rmIfFound && dataP.isNone then deallocCall x.2 else []

/-- The data of the first element that matches. -/
theorem find?_dataOf (xs : List (Nat × Item α δ)) (p : α → Bool) :
    (dataOf xs).find? p = (xs.find? fun x => p x.2.dataPtr).map fun x => x.2.dataPtr :=
  List.find?_map

/-- On an empty list the search returns before it writes. -/
theorem linkedListSearch_nil {m : ListMem α δ} (h : Represents m []) (dataP : Option (Option α))
    (equal : α → Bool × List ε) (rm : Bool) :
    linkedListSearch m dataP equal rm = some ⟨.unavailableResource, dataP, [], [], m⟩ := by
  simp only [linkedListSearch, (linked_nil_iff_tail h).mp rfl]

/-- On any other list it does what is promised. -/
theorem search_contract_of_ne_nil {m : ListMem α δ} {xs : List (Nat × Item α δ)}
    (h : Represents m xs) (hne : xs ≠ []) (dataP : Option (Option α)) (equal : α → Bool × List ε)
    (rm : Bool) :
    ∃ r, linkedListSearch m dataP equal rm = some r ∧ SearchContract xs equal dataP rm r := by
  rcases Sweep.search_cases (fun x : Nat × Item α δ => equal x.2.dataPtr) xs with
    hmiss | ⟨pre, x, post, rfl, hpre, hx⟩
  · have hfind : xs.find? (fun x => (equal x.2.dataPtr).1) = none :=
      List.find?_eq_none.mpr fun y hy => by rw [hmiss y hy]; exact Bool.false_ne_true
    refine ⟨_, linkedListSearch_none h hne ?_ dataP rm, ?_, ?_⟩
    · intro y hy
      rcases List.mem_map.mp hy with ⟨z, hz, rfl⟩
      exact hmiss z hz
    · rw [find?_dataOf, hfind]
      rfl
    · rw [hfind]
  · have hfind : (pre ++ x :: post).find? (fun x => (equal x.2.dataPtr).1) = some x := by
      refine List.find?_eq_some_iff_append.mpr ⟨hx, pre, post, rfl, fun y hy => ?_⟩
      rw [hpre y hy]
      rfl
    have hpre' : ∀ y ∈ dataOf pre, (equal y).1 = false := by
      intro y hy
      rcases List.mem_map.mp hy with ⟨z, hz, rfl⟩
      exact hpre z hz
    rcases linkedListSearch_hit h hpre' hx dataP rm with ⟨m', hsearch, _, _⟩
    refine ⟨_, hsearch, ?_, ?_⟩
    · rw [find?_dataOf, hfind]
      rfl
    · rw [hfind]

/-- A search keeps what the header promises exactly if the list has an element
    or `data_p` does not point to a value that is not null. -/
theorem search_contract_iff {m : ListMem α δ} {xs : List (Nat × Item α δ)} (h : Represents m xs)
    (dataP : Option (Option α)) (equal : α → Bool × List ε) (rm : Bool) :
    (∃ r, linkedListSearch m dataP equal rm = some r ∧ SearchContract xs equal dataP rm r) ↔
      (xs = [] → ∀ a, dataP ≠ some (some a)) := by
  by_cases hxs : xs = []
  · subst hxs
    rw [linkedListSearch_nil h]
    constructor
    · rintro ⟨r, hr, hdata, _⟩ _ a hstale
      rw [Option.some.injEq] at hr
      rw [← hr, hstale] at hdata
      cases hdata
    · intro hclean
      refine ⟨_, rfl, ?_, rfl⟩
      rcases dataP with _ | _ | a
      · rfl
      · rfl
      · exact absurd rfl (hclean rfl a)
  · exact iff_of_true (search_contract_of_ne_nil h hxs dataP equal rm) fun hnil => absurd hnil hxs

/-- Three elements, of which the second is looked for: its data is copied over what
    `data_p` pointed to, and so it is not deallocated when the element is removed. -/
theorem search_contract_iff_three :
    ∃ m : ListMem Nat Nat,
      Represents m [(3, ⟨7, none⟩), (2, ⟨5, some 9⟩), (1, ⟨4, some 8⟩)] ∧
      ∃ r, linkedListSearch m (some (some 6)) (fun x => (x == 5, ([] : List Nat))) true = some r ∧
        r.dataP = some (some 5) ∧ r.calls = [] := by
  have hfresh₁ : (linkedListInit : ListMem Nat Nat).heap.lookup 1 = none := rfl
  rcases repr_add repr_init hfresh₁ 4 (some 8) with ⟨m₁, hadd₁, hm₁⟩
  have hfresh₂ : m₁.heap.lookup 2 = none :=
    (repr_add_frame repr_init hadd₁ (by decide) (by decide)).trans rfl
  rcases repr_add hm₁ hfresh₂ 5 (some 9) with ⟨m₂, hadd₂, hm₂⟩
  have hfresh₃ : m₂.heap.lookup 3 = none :=
    (repr_add_frame hm₁ hadd₂ (by decide) (by decide)).trans
      ((repr_add_frame repr_init hadd₁ (by decide) (by decide)).trans rfl)
  rcases repr_add hm₂ hfresh₃ 7 none with ⟨m, _, hm⟩
  rcases (search_contract_iff hm (some (some 6)) (fun x => (x == 5, ([] : List Nat))) true).mpr
    (fun hnil => absurd hnil (List.cons_ne_nil _ _)) with ⟨r, hr, hcopied, hcalls⟩
  exact ⟨m, hm, r, hr, hcopied, hcalls⟩

/-- A variable that holds `7` still does after an empty list was searched. -/
theorem search_empty_stale : Represents (linkedListInit : ListMem Nat Nat) [] ∧
    ¬ ∃ r, linkedListSearch (linkedListInit : ListMem Nat Nat) (some (some 7))
        (fun _ => (true, ([] : List Nat))) true = some r ∧
      SearchContract [] (fun _ => (true, ([] : List Nat))) (some (some 7)) true r := by
  refine ⟨repr_init, ?_⟩
  rintro ⟨r, hr, hdata, _⟩
  rw [linkedListSearch_nil repr_init, Option.some.injEq] at hr
  rw [← hr] at hdata
  cases hdata

end Contract

end Utils

end Taoshan

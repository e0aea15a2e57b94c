import Mathlib.Data.List.TakeWhile
import Taoshan.Utils.MsgQ

/-!
# Lists as Sequences

Any calls of `linked_list.c`, on any number of lists in one heap, and the
sequences the lists stand for.

`Memory` is what the calls share: the elements of all lists, by address, and
the `list_state` each handle points to. A call is a label of `step`, with what
`malloc` and `calloc` return in it; a handle that is not valid and an address
that is in use make a label that cannot be taken. A read or write through a
dangling pointer is the reply `fault`.

`absCall` is the same interface over sequences, one for each handle. Nothing
in it has an address. `Refines` relates the two: every list represents its
sequence, and no element belongs to two lists. A call writes to the elements of
its own list and to new ones only (`refines_store`), so the other lists need no
attention.

## Main definitions

* `Memory`, `Call`, `Reply`: The lists and their interface.
* `step`: One call.
* `absCall`, `absRun`: What it comes to on sequences.
* `Refines`: The relation between the two.

## Theorems

* `refines_store`, `refines_new`: A list may be replaced by what its call left,
  and begun.
* `absSearch_miss`, `absSearch_hit`: A search of a sequence.
* `search_refines`, `add_refines`, `remove_refines`: The calls, one by one.
* `refines_step`: Every call keeps the relation and gives the same reply.
* `refines_run`, `lists_refine`: So does every sequence of calls.
-/

namespace Taoshan

namespace Utils

namespace Lists

open DList Run

variable {α δ ε : Type*}

/-- The elements of all lists, and the `list_state` at every valid handle. -/
structure Memory (α δ : Type*) where
  heap : Heap (Item α δ)
  lists : Nat → Option ListState

def Memory.empty : Memory α δ := ⟨∅, fun _ => none⟩

/-- The heap as it is left, and the list at the handle. -/
def Memory.store (m : Memory α δ) (list : Nat) (r : ListMem α δ) : Memory α δ :=
  ⟨r.heap, Function.update m.lists list (some r.state)⟩

/-- A call. `linked_list_remove` is told where to put the data, or NULL;
    `linked_list_search` too, and it is given a comparison, or NULL. -/
inductive Call (α δ ε : Type*)
  | init (calloc : Option Nat)
  | add (list : Nat) (malloc : Option Nat) (dataObj : Option α) (dealloc : Option δ)
  | remove (list : Nat) (dataObj : Bool)
  | search (list : Nat) (dataP : Option (Option α)) (equal : Option (α → Bool × List ε))
      (rmIfFound : Bool)
  | flush (list : Nat)
  | empty (list : Nat)

/-- What a call returns and does. -/
inductive Reply (α δ ε : Type*)
  | init (rv : LinkedListErr) (listData : Option Nat)
  | add (rv : LinkedListErr)
  | remove (rv : LinkedListErr) (dataObj : Option α)
  | search (rv : LinkedListErr) (dataP : Option (Option α)) (out : List ε) (calls : List (δ × α))
  | flush (rv : LinkedListErr) (calls : List (δ × α))
  | empty (isEmpty : Bool)
  | fault

/-- A call on the list at a handle, by the functions of `linked_list.c`; `none`
    if `malloc` cannot return what it is said to. -/
def callOn (m : Memory α δ) (list : Nat) (st : ListState) :
    Call α δ ε → Option (Memory α δ × Reply α δ ε)
  | .init _ => none
  | .add _ malloc dataObj dealloc =>
    if mallocOk ⟨m.heap, st⟩ malloc then
      match linkedListAdd ⟨m.heap, st⟩ malloc dataObj dealloc with
      | none => some (m, .fault)
      | some (rv, r) => some (m.store list r, .add rv)
    else none
  | .remove _ dataObj =>
    if dataObj = false then some (m, .remove .invalidParameter none)
    else match linkedListRemove ⟨m.heap, st⟩ with
      | none => some (m, .fault)
      | some (rv, data, r) => some (m.store list r, .remove rv data)
  | .search _ dataP equal rmIfFound =>
    match equal with
    | none => some (m, .search .invalidHandle dataP [] [])
    | some equal => match linkedListSearch ⟨m.heap, st⟩ dataP equal rmIfFound with
      | none => some (m, .fault)
      | some r => some (m.store list r.mem, .search r.rv r.dataP r.out r.calls)
  | .flush _ =>
    match linkedListFlush ⟨m.heap, st⟩ with
    | none => some (m, .fault)
    | some (rv, calls, r) => some (m.store list r, .flush rv calls)
  | .empty _ => some (m, .empty (linkedListEmpty ⟨m.heap, st⟩))

/-- The handle a call is made with. -/
def Call.list : Call α δ ε → Option Nat
  | .init _ => none
  | .add list _ _ _ | .remove list _ | .search list _ _ _ | .flush list | .empty list => some list

/-- One call, or `none` if its handle is not valid. -/
def call (m : Memory α δ) (c : Call α δ ε) : Option (Memory α δ × Reply α δ ε) :=
  match c with
  | .init none => some (m, .init .failureGeneral none)
  | .init (some list) =>
    if (m.lists list).isNone then
      some (m.store list ⟨m.heap, (linkedListInit : ListMem α δ).state⟩,
        .init .success (some list))
    else none
  | c => match c.list with
    | none => none
    | some list => match m.lists list with
      | none => none
      | some st => callOn m list st c

/-- The memory and the replies so far. -/
structure Sys (α δ ε : Type*) where
  mem : Memory α δ
  replies : List (Reply α δ ε)

def fresh : Sys α δ ε := ⟨.empty, []⟩

def step (s : Sys α δ ε) (c : Call α δ ε) : Option (Sys α δ ε) :=
  match call s.mem c with
  | none => none
  | some (m, r) => some ⟨m, s.replies ++ [r]⟩

/-- A sequence for every handle. -/
abbrev Abs (α δ : Type*) := Nat → Option (List (Item α δ))

/-- What a search of a sequence finds, leaves and does. An empty sequence is
    not searched, and `data_p` keeps what it pointed to. -/
def absSearch (items : List (Item α δ)) (dataP : Option (Option α)) (equal : α → Bool × List ε)
    (rmIfFound : Bool) : List (Item α δ) × Reply α δ ε :=
  let accepted := fun item : Item α δ => (equal item.dataPtr).1
  let hit := items.find? accepted
  if items = [] then ([], .search .unavailableResource dataP [] [])
  else
    (if rmIfFound then items.eraseP accepted else items,
      .search .success (dataP.map fun _ => hit.map Item.dataPtr)
        ((items.takeWhile (fun item => !accepted item) ++ hit.toList).flatMap
          fun item => (equal item.dataPtr).2)
        (if rmIfFound && dataP.isNone then hit.toList.flatMap deallocCall else []))

/-- A call on the sequence of its handle. -/
def absOn (items : List (Item α δ)) : Call α δ ε → List (Item α δ) × Reply α δ ε
  | .init _ => (items, .fault)
  | .add _ malloc dataObj dealloc => match dataObj, malloc with
    | none, _ => (items, .add .invalidParameter)
    | some _, none => (items, .add .failureGeneral)
    | some data, some _ => (⟨data, dealloc⟩ :: items, .add .success)
  | .remove _ dataObj =>
    if dataObj = false then (items, .remove .invalidParameter none)
    else match items.getLast? with
      | none => ([], .remove .unavailableResource none)
      | some item => (items.dropLast, .remove .success (some item.dataPtr))
  | .search _ dataP equal rmIfFound => match equal with
    | none => (items, .search .invalidHandle dataP [] [])
    | some equal => absSearch items dataP equal rmIfFound
  | .flush _ => ([], .flush .success (items.flatMap deallocCall))
  | .empty _ => (items, .empty items.isEmpty)

/-- A call on sequences. -/
def absCall (a : Abs α δ) (c : Call α δ ε) : Abs α δ × Reply α δ ε :=
  match c with
  | .init none => (a, .init .failureGeneral none)
  | .init (some list) => (Function.update a list (some []), .init .success (some list))
  | c => match c.list with
    | none => (a, .fault)
    | some list => match a list with
      | none => (a, .fault)
      | some items =>
          (Function.update a list (some (absOn items c).1), (absOn items c).2)

/-- Calls on sequences, one after the other, with their replies. -/
def absRun (a : Abs α δ) : List (Call α δ ε) → Abs α δ × List (Reply α δ ε)
  | [] => (a, [])
  | c :: cs =>
      let r := absRun (absCall a c).1 cs
      (r.1, (absCall a c).2 :: r.2)

/-- Every list represents its sequence by elements of its own. -/
structure RefinesBy (m : Memory α δ) (a : Abs α δ) (cells : Nat → List (Nat × Item α δ)) :
    Prop where
  repr : ∀ list st, m.lists list = some st → Represents ⟨m.heap, st⟩ (cells list)
  items : ∀ list, a list = (m.lists list).map fun _ => (cells list).map Prod.snd
  separate : ∀ list other, list ≠ other → (m.lists list).isSome → (m.lists other).isSome →
    ∀ b ∈ addrs (cells list), b ∉ addrs (cells other)

def Refines (m : Memory α δ) (a : Abs α δ) : Prop := ∃ cells, RefinesBy m a cells

theorem refines_empty : Refines (.empty : Memory α δ) (fun _ => none) :=
  ⟨fun _ => [], nofun, fun _ => rfl, nofun⟩

/-- The elements of a list are allocated. -/
theorem refines_allocated {m : Memory α δ} {a : Abs α δ} {cells : Nat → List (Nat × Item α δ)}
    (h : RefinesBy m a cells) {list b : Nat} (hlist : (m.lists list).isSome)
    (hb : b ∈ addrs (cells list)) : m.heap.lookup b ≠ none := by
  rcases Option.isSome_iff_exists.mp hlist with ⟨st, hst⟩
  -- A list runs through its elements, so each of them can be looked up.
  have hsome := seg_lookup_isSome (h.repr list st hst).seg b hb
  intro hnone
  rw [hnone] at hsome
  cases hsome

/-- A list may be replaced by one that represents another sequence, if its
    elements are old ones or new, and the heap differs in these only. -/
theorem refines_store {m : Memory α δ} {a : Abs α δ} {cells : Nat → List (Nat × Item α δ)}
    (h : RefinesBy m a cells) {list : Nat} {r : ListMem α δ} {old xs : List (Nat × Item α δ)}
    (hold : (m.lists list).isSome → old = cells list) (hnil : m.lists list = none → old = [])
    (hrepr : Represents r xs)
    (hnew : ∀ b ∈ addrs xs, b ∈ addrs old ∨ m.heap.lookup b = none)
    (hframe : ∀ b, b ∉ addrs old → m.heap.lookup b ≠ none →
      r.heap.lookup b = m.heap.lookup b) :
    Refines (m.store list r) (Function.update a list (some (xs.map Prod.snd))) := by
  -- No other list has an element in the old sequence.
  have hapart : ∀ other, other ≠ list → (m.lists other).isSome →
      ∀ b ∈ addrs (cells other), b ∉ addrs old := by
    intro other hne hother b hb hin
    cases hlist : m.lists list with
    | none =>
        rw [hnil hlist] at hin
        exact absurd hin List.not_mem_nil
    | some st =>
        have hsome : (m.lists list).isSome := by rw [hlist]; rfl
        rw [hold hsome] at hin
        exact h.separate other list hne hother hsome b hb hin
  -- Nor has it a new one, since its own are allocated.
  have hdisjoint : ∀ other, other ≠ list → (m.lists other).isSome →
      ∀ b ∈ addrs (cells other), b ∉ addrs xs := by
    intro other hne hother b hb hin
    rcases hnew b hin with hin | hnone
    · exact hapart other hne hother b hb hin
    · exact refines_allocated h hother hb hnone
  refine ⟨Function.update cells list xs, fun other st hst => ?_, fun other => ?_,
    fun one other hne hone hother => ?_⟩
  · -- Each list represents its sequence: this one the new, the others what they did.
    by_cases hol : other = list
    · subst hol
      simp only [Memory.store, Function.update_self, Option.some.injEq] at hst
      subst hst
      simp only [Function.update_self]
      exact hrepr
    · simp only [Memory.store, Function.update_of_ne hol] at hst ⊢
      have hsome : (m.lists other).isSome := by rw [hst]; rfl
      -- The heap has not changed at the elements of another list.
      have hrest := h.repr other st hst
      refine ⟨seg_congr (fun b hb => hframe b (hapart other hol hsome b hb) ?_) hrest.seg,
        hrest.nodup⟩
      exact refines_allocated h hsome hb
  · by_cases hol : other = list
    · subst hol
      simp only [Memory.store, Function.update_self, Option.map_some]
    · simp only [Memory.store, Function.update_of_ne hol]
      exact h.items other
  · -- No element belongs to two lists; one of the two may be this one.
    simp only [Memory.store] at hone hother
    by_cases hol : one = list
    · subst hol
      have hne' : other ≠ one := hne.symm
      rw [Function.update_of_ne hne'] at hother
      rw [Function.update_self, Function.update_of_ne hne']
      exact fun b hb hin => hdisjoint other hne' hother b hin hb
    · rw [Function.update_of_ne hol] at hone
      rw [Function.update_of_ne hol]
      by_cases hother' : other = list
      · subst hother'
        rw [Function.update_self]
        exact hdisjoint one hol hone
      · rw [Function.update_of_ne hother'] at hother
        rw [Function.update_of_ne hother']
        exact h.separate one other hne hone hother

/-- A new list has no element, so it shares none. -/
theorem refines_new {m : Memory α δ} {a : Abs α δ} (h : Refines m a) {list : Nat}
    (hnew : m.lists list = none) :
    Refines (m.store list ⟨m.heap, (linkedListInit : ListMem α δ).state⟩)
      (Function.update a list (some [])) := by
  rcases h with ⟨cells, h⟩
  have hold : (m.lists list).isSome → ([] : List (Nat × Item α δ)) = cells list := by
    intro hsome
    rw [hnew] at hsome
    cases hsome
  have hrepr : Represents ⟨m.heap, (linkedListInit : ListMem α δ).state⟩
      ([] : List (Nat × Item α δ)) := ⟨⟨rfl, rfl⟩, List.nodup_nil⟩
  exact refines_store h hold (fun _ => rfl) hrepr (fun b hb => absurd hb List.not_mem_nil)
    (fun _ _ _ => rfl)

/-- What a call on a list needs to show: the reply is that of the sequence,
    and the list it leaves represents the sequence left. -/
theorem refines_call {m : Memory α δ} {a : Abs α δ} {cells : Nat → List (Nat × Item α δ)}
    (h : RefinesBy m a cells) {list : Nat} {st : ListState} (hst : m.lists list = some st)
    {r : ListMem α δ} {xs : List (Nat × Item α δ)} (hrepr : Represents r xs)
    (hnew : ∀ b ∈ addrs xs, b ∈ addrs (cells list) ∨ m.heap.lookup b = none)
    (hframe : ∀ b, b ∉ addrs (cells list) → m.heap.lookup b ≠ none →
      r.heap.lookup b = m.heap.lookup b) :
    Refines (m.store list r) (Function.update a list (some (xs.map Prod.snd))) :=
  refines_store h (fun _ => rfl) (fun hnone => absurd (hst.symm.trans hnone) nofun) hrepr hnew
    hframe

/-- A call that leaves the list alone leaves its sequence alone. -/
theorem refines_same {m : Memory α δ} {a : Abs α δ} {cells : Nat → List (Nat × Item α δ)}
    (h : RefinesBy m a cells) {list : Nat} {items : List (Item α δ)}
    (hitems : a list = some items) : Refines m (Function.update a list (some items)) := by
  rw [← hitems, Function.update_eq_self]
  exact ⟨cells, h⟩

theorem refines_same_store {m : Memory α δ} {a : Abs α δ} {cells : Nat → List (Nat × Item α δ)}
    (h : RefinesBy m a cells) {list : Nat} {st : ListState} (hst : m.lists list = some st)
    {items : List (Item α δ)} (hitems : a list = some items) :
    Refines (m.store list ⟨m.heap, st⟩) (Function.update a list (some items)) := by
  have hsame : m.store list ⟨m.heap, st⟩ = m := by
    unfold Memory.store
    rw [← hst, Function.update_eq_self]
  rw [hsame]
  exact refines_same h hitems

/-- A search that accepts nothing compares everything and leaves the sequence. -/
theorem absSearch_miss {items : List (Item α δ)} (hne : items ≠ []) {equal : α → Bool × List ε}
    (hmiss : ∀ item ∈ items, (equal item.dataPtr).1 = false) (dataP : Option (Option α))
    (rm : Bool) : absSearch items dataP equal rm = (items, .search .success
      (dataP.map fun _ => none) (items.flatMap fun item => (equal item.dataPtr).2) []) := by
  have hmiss' : ∀ item ∈ items, ¬ (equal item.dataPtr).1 = true :=
    fun item hitem => Bool.eq_false_iff.mp (hmiss item hitem)
  have hfind : items.find? (fun item => (equal item.dataPtr).1) = none :=
    List.find?_eq_none.mpr hmiss'
  have herase : items.eraseP (fun item => (equal item.dataPtr).1) = items :=
    List.eraseP_of_forall_not hmiss'
  have htake : items.takeWhile (fun item => !(equal item.dataPtr).1) = items :=
    List.takeWhile_eq_self_iff.mpr (fun item hitem => by
      rw [hmiss item hitem]
      rfl)
  simp only [absSearch, if_neg hne, hfind, herase, htake, Option.toList_none, List.append_nil,
    ite_self, Option.map_none, List.flatMap_nil]

/-- A search compares up to the first item that it accepts, and takes out that
    one if it is to take out any. -/
theorem absSearch_hit {pre post : List (Item α δ)} {x : Item α δ} {equal : α → Bool × List ε}
    (hpre : ∀ item ∈ pre, (equal item.dataPtr).1 = false) (hx : (equal x.dataPtr).1 = true)
    (dataP : Option (Option α)) (rm : Bool) :
    absSearch (pre ++ x :: post) dataP equal rm =
      (if rm then pre ++ post else pre ++ x :: post, .search .success
        (dataP.map fun _ => some x.dataPtr)
        (pre.flatMap (fun item => (equal item.dataPtr).2) ++ (equal x.dataPtr).2)
        (if rm && dataP.isNone then deallocCall x else [])) := by
  have hne : pre ++ x :: post ≠ [] := List.append_ne_nil_of_right_ne_nil _ (List.cons_ne_nil _ _)
  have hpre' : ∀ item ∈ pre, ¬ (equal item.dataPtr).1 = true :=
    fun item hitem => Bool.eq_false_iff.mp (hpre item hitem)
  have hnot : ∀ item ∈ pre, (!(equal item.dataPtr).1) = true := by
    intro item hitem
    rw [hpre item hitem]
    rfl
  have hfind : (pre ++ x :: post).find? (fun item => (equal item.dataPtr).1) = some x :=
    List.find?_eq_some_iff_append.mpr ⟨hx, _, _, rfl, hnot⟩
  have herase : (pre ++ x :: post).eraseP (fun item => (equal item.dataPtr).1) = pre ++ post := by
    rw [List.eraseP_append_right (p := fun item : Item α δ => (equal item.dataPtr).1) _ hpre',
      List.eraseP_cons_of_pos (p := fun item : Item α δ => (equal item.dataPtr).1) hx]
  -- The comparisons go up to and include the first that is accepted.
  have htake : (pre ++ x :: post).takeWhile (fun item => !(equal item.dataPtr).1) = pre := by
    rw [List.takeWhile_append_of_pos hnot, List.takeWhile_cons_of_neg, List.append_nil]
    rw [hx]
    exact Bool.false_ne_true
  simp only [absSearch, if_neg hne, hfind, herase, htake, Option.toList_some, Option.map_some,
    List.flatMap_append, List.flatMap_cons, List.flatMap_nil, List.append_nil]

/-- A search of a list is a search of the sequence it represents. It writes to
    the elements of the list only. -/
theorem search_refines {m : ListMem α δ} {xs : List (Nat × Item α δ)} (h : Represents m xs)
    (dataP : Option (Option α)) (equal : α → Bool × List ε) (rm : Bool) :
    ∃ r ys, linkedListSearch m dataP equal rm = some r ∧ Represents r.mem ys ∧
      absSearch (xs.map Prod.snd) dataP equal rm =
        (ys.map Prod.snd, .search r.rv r.dataP r.out r.calls) ∧
      (∀ b ∈ addrs ys, b ∈ addrs xs) ∧
      ∀ b, b ∉ addrs xs → r.mem.heap.lookup b = m.heap.lookup b := by
  have hdata : ∀ {ys : List (Nat × Item α δ)}, (∀ y ∈ ys, (equal y.2.dataPtr).1 = false) →
      (∀ y ∈ dataOf ys, (equal y).1 = false) ∧
        ∀ item ∈ ys.map Prod.snd, (equal item.dataPtr).1 = false :=
    fun hmiss => ⟨List.forall_mem_map.mpr hmiss, List.forall_mem_map.mpr hmiss⟩
  by_cases hne : xs = []
  · subst hne
    -- An empty list is not searched, and data_p is left as it is.
    refine ⟨⟨.unavailableResource, dataP, [], [], m⟩, [], ?_, h, rfl, fun _ hb => hb,
      fun _ _ => rfl⟩
    simp only [linkedListSearch, (linked_nil_iff_tail h).mp rfl]
  rcases Sweep.search_cases (fun x : Nat × Item α δ => equal x.2.dataPtr) xs with
    hmiss | ⟨pre, x, post, rfl, hpre, hx⟩
  · -- Nothing is accepted: every item is compared and the list stays.
    have hmap : xs.map Prod.snd ≠ [] := fun hnil => hne (List.map_eq_nil_iff.mp hnil)
    refine ⟨_, xs, linkedListSearch_none h hne (hdata hmiss).1 dataP rm, h, ?_, fun _ hb => hb,
      fun _ _ => rfl⟩
    rw [absSearch_miss hmap (hdata hmiss).2]
    simp only [dataOf, List.flatMap_map]
  · -- The first that is accepted is taken out, or stays where it is.
    rcases linkedListSearch_hit h (hdata hpre).1 hx dataP rm with ⟨m', hsearch, hrepr, hframe⟩
    refine ⟨_, _, hsearch, hrepr, ?_, ?_, hframe⟩
    · rw [List.map_append, List.map_cons, absSearch_hit (hdata hpre).2 hx]
      cases rm with
      | false => simp only [Bool.false_eq_true, if_false, Bool.false_and, dataOf,
          List.flatMap_map, List.map_append, List.map_cons]
      | true => simp only [if_true, dataOf, List.flatMap_map, List.map_append]
    · intro b hb
      cases rm with
      | false => exact hb
      | true =>
          simp only [if_true, addrs_append, List.mem_append] at hb
          rw [addrs_append, addrs_cons, List.mem_append, List.mem_cons]
          rcases hb with hb | hb
          · exact Or.inl hb
          · exact Or.inr (Or.inr hb)

section Calls

variable {m m' : Memory α δ} {a : Abs α δ} {cells : Nat → List (Nat × Item α δ)} {list : Nat}
  {st : ListState} {r : Reply α δ ε}

theorem RefinesBy.items_eq (h : RefinesBy m a cells) (hst : m.lists list = some st) :
    a list = some ((cells list).map Prod.snd) := by
  rw [h.items list, hst]
  rfl

/-- `linked_list_add` prepends, if it is given data and memory. -/
theorem add_refines (h : RefinesBy m a cells) (hst : m.lists list = some st) {l : Nat}
    {malloc : Option Nat} {dataObj : Option α} {dealloc : Option δ}
    (hcall : callOn m list st (.add l malloc dataObj dealloc) = some (m', r)) :
    r = (absOn ((cells list).map Prod.snd) (.add l malloc dataObj dealloc)).2 ∧ r ≠ .fault ∧
      Refines m' (Function.update a list
        (some (absOn ((cells list).map Prod.snd)
          (.add l malloc dataObj dealloc : Call α δ ε)).1)) := by
  have hrepr : Represents ⟨m.heap, st⟩ (cells list) := h.repr list st hst
  have hitems := h.items_eq hst
  simp only [callOn, Option.ite_none_right_eq_some] at hcall
  rcases hcall with ⟨hm, hcall⟩
  cases dataObj with
  | none =>
      simp only [linkedListAdd, Option.some.injEq, Prod.mk.injEq] at hcall
      rcases hcall with ⟨rfl, rfl⟩
      exact ⟨rfl, fun hf => (by cases hf), refines_same_store h hst hitems⟩
  | some data =>
      cases malloc with
      | none =>
          simp only [linkedListAdd, Option.some.injEq, Prod.mk.injEq] at hcall
          rcases hcall with ⟨rfl, rfl⟩
          exact ⟨rfl, fun hf => (by cases hf), refines_same_store h hst hitems⟩
      | some elem =>
          -- malloc returns an address that is in no list.
          have hfresh : m.heap.lookup elem = none := by
            rw [mallocOk, Option.isNone_iff_eq_none] at hm
            exact hm
          rcases repr_add hrepr hfresh data dealloc with ⟨l', hadd, hadded⟩
          simp only [hadd, Option.some.injEq, Prod.mk.injEq] at hcall
          rcases hcall with ⟨rfl, rfl⟩
          refine ⟨rfl, fun hf => (by cases hf), refines_call h hst hadded (fun b hb => ?_)
            (fun b hb halloc => ?_)⟩
          · rcases List.mem_cons.mp hb with rfl | hb
            · exact Or.inr hfresh
            · exact Or.inl hb
          · exact repr_add_frame hrepr hadd hb (fun hbe => halloc (hbe ▸ hfresh))

/-- `linked_list_remove` takes the last element, if it is asked for its data and
    there is one. -/
theorem remove_refines (h : RefinesBy m a cells) (hst : m.lists list = some st) {l : Nat}
    {dataObj : Bool} (hcall : callOn m list st (.remove l dataObj) = some (m', r)) :
    r = (absOn ((cells list).map Prod.snd) (.remove l dataObj)).2 ∧ r ≠ .fault ∧
      Refines m' (Function.update a list
        (some (absOn ((cells list).map Prod.snd) (.remove l dataObj : Call α δ ε)).1)) := by
  have hrepr : Represents ⟨m.heap, st⟩ (cells list) := h.repr list st hst
  have hitems := h.items_eq hst
  cases dataObj with
  | false =>
      simp only [callOn, if_true, Option.some.injEq, Prod.mk.injEq] at hcall
      rcases hcall with ⟨rfl, rfl⟩
      exact ⟨rfl, fun hf => (by cases hf), refines_same h hitems⟩
  | true =>
      simp only [callOn, Bool.true_eq_false, if_false] at hcall
      -- The element that is removed is the oldest, at the tail.
      rcases List.eq_nil_or_concat (cells list) with hnil | ⟨ys, x, hcells⟩
      · rw [hnil] at hrepr hitems ⊢
        rw [repr_remove_nil hrepr] at hcall
        simp only [Option.some.injEq, Prod.mk.injEq] at hcall
        rcases hcall with ⟨rfl, rfl⟩
        exact ⟨rfl, fun hf => (by cases hf), refines_same_store h hst hitems⟩
      · rw [List.concat_eq_append] at hcells
        have hrepr' := hrepr
        rw [hcells] at hrepr'
        rcases repr_remove hrepr' with ⟨l', hrem, hremoved⟩
        simp only [hrem, Option.some.injEq, Prod.mk.injEq] at hcall
        rcases hcall with ⟨rfl, rfl⟩
        have habs : absOn ((cells list).map Prod.snd) (.remove l true : Call α δ ε) =
            (ys.map Prod.snd, .remove .success (some x.2.dataPtr)) := by
          simp only [absOn, hcells, Bool.true_eq_false, if_false, List.map_append,
            List.map_cons, List.map_nil, List.getLast?_append, List.getLast?_singleton,
            Option.some_or, List.dropLast_concat]
        rw [habs]
        refine ⟨rfl, fun hf => (by cases hf), refines_call h hst hremoved
          (fun b hb => Or.inl ?_) (fun b hb _ => ?_)⟩
        · rw [hcells, addrs_append]
          exact List.mem_append_left _ hb
        · rw [hcells] at hb
          exact repr_remove_frame hrepr' hrem hb

/-- A call on a list is the call on its sequence. -/
theorem callOn_refines (h : Refines m a) (hst : m.lists list = some st) {c : Call α δ ε}
    (hcall : callOn m list st c = some (m', r)) :
    ∃ items, a list = some items ∧ r = (absOn items c).2 ∧ r ≠ .fault ∧
      Refines m' (Function.update a list (some (absOn items c).1)) := by
  rcases h with ⟨cells, h⟩
  have hrepr : Represents ⟨m.heap, st⟩ (cells list) := h.repr list st hst
  have hitems := h.items_eq hst
  refine ⟨(cells list).map Prod.snd, hitems, ?_⟩
  cases c with
  | init calloc => cases hcall
  | add _ malloc dataObj dealloc => exact add_refines h hst hcall
  | remove _ dataObj => exact remove_refines h hst hcall
  | search _ dataP equal rmIfFound =>
      cases equal with
      | none =>
          simp only [callOn, Option.some.injEq, Prod.mk.injEq] at hcall
          rcases hcall with ⟨rfl, rfl⟩
          exact ⟨rfl, fun hf => (by cases hf), refines_same h hitems⟩
      | some equal =>
          rcases search_refines hrepr dataP equal rmIfFound with
            ⟨r', ys, hsearch, hfound, habs, hsub, hframe⟩
          simp only [callOn, hsearch, Option.some.injEq, Prod.mk.injEq] at hcall
          rcases hcall with ⟨rfl, rfl⟩
          simp only [absOn, habs]
          exact ⟨trivial, fun hf => (by cases hf), refines_call h hst hfound
            (fun b hb => Or.inl (hsub b hb)) (fun b hb _ => hframe b hb)⟩
  | flush _ =>
      rcases repr_flush hrepr with ⟨l', hflush, hflushed⟩
      simp only [callOn, hflush, Option.some.injEq, Prod.mk.injEq] at hcall
      rcases hcall with ⟨rfl, rfl⟩
      -- All elements are freed, and their data with those that can.
      refine ⟨?_, fun hf => (by cases hf), refines_call h hst hflushed
        (fun b hb => absurd hb List.not_mem_nil) (fun b hb _ => repr_flush_frame hrepr hflush hb)⟩
      simp only [absOn, List.flatMap_map]
  | empty _ =>
      simp only [callOn, Option.some.injEq, Prod.mk.injEq] at hcall
      rcases hcall with ⟨rfl, rfl⟩
      refine ⟨?_, fun hf => (by cases hf), refines_same h hitems⟩
      have hiff := repr_empty hrepr
      simp only [absOn, Reply.empty.injEq]
      rw [Bool.eq_iff_iff, hiff, List.isEmpty_iff, List.map_eq_nil_iff]

end Calls

/-- A call made with a handle is a call on the list there. -/
theorem call_of_list {m : Memory α δ} {c : Call α δ ε} {list : Nat} (hc : c.list = some list) :
    call m c = match m.lists list with
      | none => none
      | some st => callOn m list st c := by
  cases c <;> simp only [Call.list, reduceCtorEq, Option.some.injEq] at hc <;>
    simp only [call, Call.list, hc]

theorem absCall_of_list {a : Abs α δ} {c : Call α δ ε} {list : Nat} {items : List (Item α δ)}
    (hc : c.list = some list) (ha : a list = some items) :
    absCall a c = (Function.update a list (some (absOn items c).1), (absOn items c).2) := by
  cases c <;> simp only [Call.list, reduceCtorEq, Option.some.injEq] at hc <;>
    simp only [absCall, Call.list, hc, ha]

/-- Every call is the call on sequences. -/
theorem refines_step {m m' : Memory α δ} {a : Abs α δ} (h : Refines m a) {c : Call α δ ε}
    {r : Reply α δ ε} (hcall : call m c = some (m', r)) :
    r = (absCall a c).2 ∧ r ≠ .fault ∧ Refines m' (absCall a c).1 := by
  cases hc : c.list with
  | some list =>
      rw [call_of_list hc] at hcall
      split at hcall
      · cases hcall
      · -- The handle is valid, so the call is one on its list.
        next st hst =>
          rcases callOn_refines h hst hcall with ⟨items, hitems, hreply, hfault, hrefines⟩
          rw [absCall_of_list hc hitems]
          exact ⟨hreply, hfault, hrefines⟩
  | none =>
      cases c with
      | init calloc =>
          cases calloc with
          | none =>
              simp only [call, Option.some.injEq, Prod.mk.injEq] at hcall
              rcases hcall with ⟨rfl, rfl⟩
              exact ⟨rfl, nofun, h⟩
          | some list =>
              simp only [call, Option.ite_none_right_eq_some, Option.some.injEq,
                Prod.mk.injEq] at hcall
              rcases hcall with ⟨hnew, rfl, rfl⟩
              exact ⟨rfl, nofun, refines_new h (Option.isNone_iff_eq_none.mp hnew)⟩
      | _ => cases hc

/-- So is every sequence of calls, from any lists on. -/
theorem refines_run {cs : List (Call α δ ε)} : ∀ {s t : Sys α δ ε} {a : Abs α δ},
    Refines s.mem a → exec step s cs = some t → t.replies = s.replies ++ (absRun a cs).2 ∧
      (∀ r ∈ (absRun a cs).2, r ≠ .fault) ∧ Refines t.mem (absRun a cs).1 := by
  induction cs with
  | nil =>
      intro s t a hs ht
      rw [exec_nil, Option.some.injEq] at ht
      rw [← ht]
      exact ⟨(List.append_nil _).symm, fun r hr => absurd hr List.not_mem_nil, hs⟩
  | cons c cs ih =>
      intro s t a hs ht
      rcases exec_cons_inv ht with ⟨u, hu, hrest⟩
      unfold step at hu
      split at hu
      · cases hu
      · next m r hcall =>
          rw [Option.some.injEq] at hu
          rcases refines_step hs hcall with ⟨hreply, hfault, hm⟩
          rw [← hu] at hrest
          -- The relation after this call is where the rest starts from.
          rcases ih hm hrest with ⟨hreplies, hfaults, hend⟩
          refine ⟨?_, fun x hx => ?_, hend⟩
          · rw [hreplies, hreply, List.append_assoc]
            rfl
          · rcases List.mem_cons.mp hx with rfl | hx
            · rw [← hreply]
              exact hfault
            · exact hfaults x hx

/-- Every sequence of calls with valid handles is that sequence of calls on
    sequences: it has the same replies, no pointer is followed to memory that
    is not allocated, and at the end every list represents its sequence, its
    head and tail pointers being NULL exactly if the sequence is empty. -/
theorem lists_refine {cs : List (Call α δ ε)} {s : Sys α δ ε} (h : exec step fresh cs = some s) :
    s.replies = (absRun (fun _ => none) cs).2 ∧ (∀ r ∈ s.replies, r ≠ .fault) ∧
      ∃ cells, RefinesBy s.mem (absRun (fun _ => none : Abs α δ) cs).1 cells ∧
        ∀ list st, s.mem.lists list = some st →
          (st.pHead = none ↔ cells list = []) ∧ (st.pTail = none ↔ cells list = []) := by
  rcases refines_run refines_empty h with ⟨hreplies, hfaults, cells, hcells⟩
  rw [show (fresh : Sys α δ ε).replies = [] from rfl, List.nil_append] at hreplies
  refine ⟨hreplies, fun r hr => hfaults r (hreplies ▸ hr), cells, hcells, fun list st hst => ?_⟩
  have hlist := hcells.repr list st hst
  exact ⟨(linked_nil_iff hlist).symm, (linked_nil_iff_tail hlist).symm⟩

/-- Two lists in one heap: the middle of the first is searched for and taken
    out, and the second is flushed. -/
def twoLists : List (Call Nat Nat Empty) :=
  [.init (some 1), .init (some 2),
    .add 1 (some 10) (some 5) none, .add 2 (some 11) (some 6) (some 9),
    .add 1 (some 12) (some 7) none, .add 1 (some 13) (some 8) none,
    .search 1 (some none) (some fun x => (x == 7, [])) true, .remove 1 true, .flush 2, .empty 2]

theorem lists_refine_twoLists : ∃ s, exec step fresh twoLists = some s ∧
    s.replies = (absRun (fun _ => none) twoLists).2 :=
  ⟨(exec step fresh twoLists).get rfl, (Option.some_get _).symm,
    (lists_refine (Option.some_get (x := exec step fresh twoLists) rfl).symm).1⟩

end Lists

end Utils

end Taoshan

import Taoshan.Agps.StateMachine
import Taoshan.Utils.LinkedList

/-!
# The Loop of `notifySubscribers`

`AgpsStateMachine::notifySubscribers` on the pointers of `mSubscribers`.

If receivers are to be removed, the search is called in a loop that goes by
what it leaves in `s`. The first value of `s` is not null and points to
nothing; every turn sets it to null and hands its address to the search, which
writes it only if the list has an element. The callback talks to clients while
it is asked whether they match, so a client that is skipped is looked at again
in each turn.

The loop is `Sweep.sweep` on the sequence that the list represents
(`notifyLoop_sweep`), and the function is that of the model of the machine
(`notifySubscribersIn_refines`). If a client is given one answer in all turns,
the loop is one pass. A WIFI client takes part in it like any other, but on
`RSRC_UNSUBSCRIBE` it sends nothing.

## Main definitions

* `notifyLoop`: The loop, with the number of searches it has made.
* `notifySubscribersIn`: The function, both branches.
* `meant`: A client that a notification is for and that takes its status.
* `Steady`: A client is given one answer in all turns.
* `SentOne`, `untold`: One message to a client, and which client gets none.
* `OnePass`: What one pass would have done.

## Theorems

* `notifyLoop_sweep`: The loop on a list is the sweep of its sequence.
* `notifySubscribersIn_refines`: The function does what the machine's does.
* `told_eq`, `sentOne_told`: What a client sends: one message, or none.
* `steady_of_defined`: When a client is given one answer.
* `notifySubscribers_onePass`: The loop comes to an end and is one pass.
-/

namespace Taoshan

namespace Agps

open Utils

variable {δ : Type*}

/-- What the loop has done: the searches, what was said, the deallocations, and
    the list. -/
structure Notified (δ : Type*) where
  searches : Nat
  out : List Effect
  calls : List (δ × Subscriber)
  mem : ListMem Subscriber δ

/-- `while (NULL != s)`, for so many turns at most; turn `k` compares with
    `equal k`. -/
def notifyLoop (equal : Nat → Subscriber → Bool × List Effect) :
    Nat → Option Subscriber → ListMem Subscriber δ → Option (Notified δ)
  | _, none, m => some ⟨0, [], [], m⟩
  | 0, some _, _ => none
  | n + 1, some _, m =>
    -- `s` is null when its address is handed over.
    match linkedListSearch m (some none) (equal 0) true with
    | none => none
    | some r =>
      match notifyLoop (fun k => equal (k + 1)) n r.dataP.join r.mem with
      | none => none
      | some q => some ⟨q.searches + 1, r.out ++ q.out, r.calls ++ q.calls, q.mem⟩

/-- `notifySubscribers`; `fake` is what `s` points to at first. -/
def notifySubscribersIn (nif : Nif) (wild : Nat → Wild) (notification : Notification)
    (fake : Subscriber) (turns : Nat) (m : ListMem Subscriber δ) : Option (Notified δ) :=
  if notification.postNotifyDelete then
    notifyLoop (fun k => notifySubscriber nif (wild k) notification) turns (some fake) m
  else
    match linkedListSearch m none (notifySubscriber nif (wild 0) notification) false with
    | none => none
    | some r => some ⟨1, r.out, r.calls, r.mem⟩

/-- The notification is for the client, and the client takes its status. -/
def meant (wild : Wild) (notification : Notification) (s : Subscriber) : Bool :=
  s.forMe wild notification && Subscriber.handled notification.rsrcStatus

/-- Every client is given one answer in all turns. -/
def Steady (wild : Nat → Wild) (notification : Notification) (l : List Subscriber) : Prop :=
  ∀ k, ∀ s ∈ l, s.forMe (wild k) notification = s.forMe (wild 0) notification

/-- Each of the clients is sent one message, in their order. -/
def SentOne (out : List Effect) (l : List Subscriber) : Prop :=
  ∃ msg : Subscriber → ClientMsg, out = l.map fun s => .notify s (msg s)

/-- A client that is told nothing on this status. -/
def untold (status : AgpsRsrcStatus) (s : Subscriber) : Bool := s.isWifi && status == .unsubscribe

/-- What one pass over the list would have done. -/
structure OnePass (nif : Nif) (wild : Wild) (notification : Notification)
    (xs : List (Nat × Item Subscriber δ)) (r : Notified δ) : Prop where
  searches : r.searches = ((dataOf xs).filter (meant wild notification)).length + 1
  out : r.out = ((dataOf xs).filter (meant wild notification)).flatMap
    (told nif notification.rsrcStatus)
  sent : SentOne r.out (((dataOf xs).filter (meant wild notification)).filter fun s =>
    !untold notification.rsrcStatus s)
  calls : r.calls = []
  rest : Represents r.mem (xs.filter fun x => !meant wild notification x.2.dataPtr)

section Loop

variable {m : ListMem Subscriber δ} {xs : List (Nat × Item Subscriber δ)}

/-- A search that copies out and removes, on any list: it is `Sweep.search`, and
    nothing is deallocated. -/
theorem searchOut (h : Represents m xs) (equal : Subscriber → Bool × List Effect) :
    ∃ r, linkedListSearch m (some none) equal true = some r ∧
      r.dataP.join = ((Sweep.search (fun x => equal x.2.dataPtr) true xs).hit.map
        fun x => x.2.dataPtr) ∧
      r.out = (Sweep.search (fun x => equal x.2.dataPtr) true xs).out ∧ r.calls = [] ∧
      Represents r.mem (Sweep.search (fun x => equal x.2.dataPtr) true xs).rest := by
  rcases Sweep.search_cases (fun x : Nat × Item Subscriber δ => equal x.2.dataPtr) xs with
    hmiss | ⟨pre, x, post, rfl, hpre, hx⟩
  · rw [Sweep.search_of_none _ true hmiss]
    by_cases hne : xs = []
    · -- The search returns early, and `s` is null as it was.
      subst hne
      exact ⟨_, linkedListSearch_nil h _ _ _, rfl, rfl, rfl, h⟩
    · refine ⟨_, linkedListSearch_none h hne (List.forall_mem_map.mpr hmiss) _ _, rfl, ?_, rfl, h⟩
      exact List.flatMap_map _ _ _
  · rw [Sweep.search_of_hit _ true hpre hx]
    rcases linkedListSearch_hit h (List.forall_mem_map.mpr hpre) hx (some none) true with
      ⟨m', hsearch, hrepr, _⟩
    refine ⟨_, hsearch, rfl, ?_, rfl, hrepr⟩
    exact congrArg (· ++ (equal x.2.dataPtr).2) (List.flatMap_map _ _ _)

/-- The loop asks whether `s` is null, and nothing else of it. -/
theorem notifyLoop_some (equal : Nat → Subscriber → Bool × List Effect) (n : Nat)
    (s s' : Subscriber) (m : ListMem Subscriber δ) :
    notifyLoop equal n (some s) m = notifyLoop equal n (some s') m := by
  cases n with
  | zero => rfl
  | succ n => rfl

/-- More turns than the loop takes make no difference. -/
theorem notifyLoop_mono (n j : Nat) :
    ∀ (equal : Nat → Subscriber → Bool × List Effect) (s : Option Subscriber)
      {m : ListMem Subscriber δ} {r : Notified δ},
    notifyLoop equal n s m = some r → notifyLoop equal (n + j) s m = some r := by
  induction n with
  | zero =>
      intro equal s m r h
      cases s with
      | none =>
          cases j with
          | zero => exact h
          | succ j => exact h
      | some s => cases h
  | succ n ih =>
      intro equal s m r h
      rw [Nat.succ_add]
      cases s with
      | none => exact h
      | some s =>
          unfold notifyLoop at h ⊢
          split at h
          · cases h
          · next r' _ =>
              split at h
              · cases h
              · next q hq =>
                  simp only [ih _ _ hq]
                  exact h

/-- The loop on a list is the sweep of its sequence. It makes one search more
    than it removes clients, and deallocates none. -/
theorem notifyLoop_sweep (fake : Subscriber) (n : Nat) :
    ∀ (equal : Nat → Subscriber → Bool × List Effect) {m : ListMem Subscriber δ}
      {xs : List (Nat × Item Subscriber δ)}, Represents m xs → xs.length < n →
    ∃ r, notifyLoop equal n (some fake) m = some r ∧
      r.searches + (Sweep.sweep (fun k x => equal k x.2.dataPtr) n xs).1.length =
        xs.length + 1 ∧
      r.out = (Sweep.sweep (fun k x => equal k x.2.dataPtr) n xs).2 ∧ r.calls = [] ∧
      Represents r.mem (Sweep.sweep (fun k x => equal k x.2.dataPtr) n xs).1 := by
  induction n with
  | zero => intro equal m xs _ hlen; exact absurd hlen (Nat.not_lt_zero _)
  | succ n ih =>
      intro equal m xs h hlen
      rcases searchOut h (equal 0) with ⟨r, hr, hs, hout, hcalls, hrepr⟩
      rcases Sweep.search_cases (fun x : Nat × Item Subscriber δ => equal 0 x.2.dataPtr) xs with
        hmiss | ⟨pre, x, post, rfl, hpre, hx⟩
      · -- Nothing is found, and `s` stays null.
        simp only [Sweep.search_of_none _ true hmiss, Option.map_none] at hs hout hrepr
        refine ⟨⟨1, r.out ++ [], r.calls ++ [], r.mem⟩, ?_, ?_, ?_, ?_, ?_⟩
        · simp only [notifyLoop, hr, hs]
        · simp only [Sweep.sweep, Sweep.search_of_none _ true hmiss]
          exact Nat.add_comm _ _
        · simp only [Sweep.sweep, Sweep.search_of_none _ true hmiss, List.append_nil, hout]
        · exact congrArg (· ++ []) hcalls
        · simp only [Sweep.sweep, Sweep.search_of_none _ true hmiss]
          exact hrepr
      · -- One client goes, and the next turn starts on the rest.
        simp only [Sweep.search_of_hit _ true hpre hx, if_true, Option.map_some] at hs hout hrepr
        have hlen' : (pre ++ post).length < n := by
          simp only [List.length_append, List.length_cons] at hlen ⊢
          omega
        rcases ih (fun k => equal (k + 1)) hrepr hlen' with
          ⟨q, hq, hcount, hqout, hqcalls, hqrepr⟩
        refine ⟨⟨q.searches + 1, r.out ++ q.out, r.calls ++ q.calls, q.mem⟩, ?_, ?_, ?_, ?_, ?_⟩
        · simp only [notifyLoop, hr, hs]
          rw [notifyLoop_some _ _ x.2.dataPtr fake, hq]
        · simp only [Sweep.sweep, Sweep.search_of_hit _ true hpre hx, if_true]
          rw [List.length_append, List.length_cons]
          rw [List.length_append] at hcount
          omega
        · simp only [Sweep.sweep, Sweep.search_of_hit _ true hpre hx, if_true, hout, hqout]
        · exact congrArg₂ (· ++ ·) hcalls hqcalls
        · simp only [Sweep.sweep, Sweep.search_of_hit _ true hpre hx, if_true]
          exact hqrepr

end Loop

section Answers

variable {nif : Nif} {wild : Nat → Wild} {w : Wild} {n : Notification} {s : Subscriber}

/-- No client takes another status. -/
theorem statusMsgs_of_not_handled {status : AgpsRsrcStatus}
    (h : Subscriber.handled status = false) (nif : Nif) (s : Subscriber) :
    s.statusMsgs nif status = none := by
  cases status with
  | subscribe => cases s <;> rfl
  | statusMax => cases s <;> rfl
  | unsubscribe => exact Bool.noConfusion h
  | granted => exact Bool.noConfusion h
  | released => exact Bool.noConfusion h
  | denied => exact Bool.noConfusion h

/-- A client that is meant is told and asked to be removed. -/
theorem notifySubscriber_of_meant (hdel : n.postNotifyDelete = true) (h : meant w n s = true) :
    notifySubscriber nif w n s = (true, told nif n.rsrcStatus s) := by
  rw [meant, Bool.and_eq_true] at h
  rw [AgpsStateMachine.notifySubscriber_of_forMe h.2 h.1, hdel]

/-- A client that is not is left alone. -/
theorem notifySubscriber_of_not_meant (h : meant w n s = false) :
    notifySubscriber nif w n s = (false, []) := by
  cases hforMe : s.forMe w n with
  | false => exact AgpsStateMachine.notifySubscriber_of_not_forMe hforMe
  | true =>
      rw [meant, hforMe, Bool.true_and] at h
      unfold notifySubscriber Subscriber.notifyRsrcStatus
      rw [if_pos hforMe, statusMsgs_of_not_handled h]
      rfl

theorem notifySubscriber_fst (hdel : n.postNotifyDelete = true) :
    (notifySubscriber nif w n s).1 = meant w n s := by
  cases h : meant w n s with
  | true => rw [notifySubscriber_of_meant hdel h]
  | false => rw [notifySubscriber_of_not_meant h]

/-- A client that takes a status sends one message, or is one that is told
    nothing. -/
theorem told_eq {status : AgpsRsrcStatus} (h : Subscriber.handled status = true) (nif : Nif)
    (s : Subscriber) : told nif status s = if untold status s then []
      else [.notify s ((s.msgs nif status).headD (.atlCloseStatus 0 false))] := by
  cases status with
  | subscribe => exact Bool.noConfusion h
  | statusMax => exact Bool.noConfusion h
  | unsubscribe => cases s <;> rfl
  | granted => cases s <;> rfl
  | released => cases s <;> rfl
  | denied => cases s <;> rfl

/-- Clients that are meant are sent one message each, except those that are told
    nothing. -/
theorem sentOne_told (nif : Nif) {l : List Subscriber} (h : ∀ s ∈ l, meant w n s = true) :
    SentOne (l.flatMap (told nif n.rsrcStatus)) (l.filter fun s => !untold n.rsrcStatus s) := by
  refine ⟨fun s => (s.msgs nif n.rsrcStatus).headD (.atlCloseStatus 0 false), ?_⟩
  induction l with
  | nil => rfl
  | cons s l ih =>
      have hs := h s List.mem_cons_self
      rw [meant, Bool.and_eq_true] at hs
      rw [List.flatMap_cons, List.filter_cons, told_eq hs.2,
        ih fun x hx => h x (List.mem_cons_of_mem _ hx)]
      cases untold n.rsrcStatus s with
      | true => rfl
      | false => rfl

/-- A comparison is read past the receiver only for a BIT client without an IPv4
    address, and a receiver of another kind. -/
theorem steady_of_defined {l : List Subscriber} (h : ∀ rcver, n.rcver = some rcver →
      ∀ s ∈ l, s.isBit = true → s.ID = INADDR_NONE → rcver.isBit = true) : Steady wild n l := by
  intro k s hs
  unfold Subscriber.forMe
  cases hrcver : n.rcver with
  | none => rfl
  | some rcver =>
      simp only
      by_cases hid : s.ID = INADDR_NONE
      · cases s with
        | atl obj id mode => rfl
        | wifi obj ssid password senderId inactive => rfl
        | bit obj id ip =>
            have hbit := h rcver hrcver _ hs rfl hid
            cases rcver with
            | bit obj' id' ip' => rfl
            | atl obj' id' mode' => exact Bool.noConfusion hbit
            | wifi obj' ssid password senderId inactive => exact Bool.noConfusion hbit
      · rw [Subscriber.equals_of_ne_inaddrNone hid, Subscriber.equals_of_ne_inaddrNone hid]

end Answers

section Refinement

variable {m : ListMem Subscriber δ} {xs : List (Nat × Item Subscriber δ)}

/-- The loop, as a sweep of the clients. -/
theorem notifySubscribersIn_delete (nif : Nif) (wild : Nat → Wild) {n : Notification}
    (hdel : n.postNotifyDelete = true) (h : Represents m xs) (fake : Subscriber) {turns : Nat}
    (hturns : xs.length < turns) :
    ∃ r rest, notifySubscribersIn nif wild n fake turns m = some r ∧ Represents r.mem rest ∧
      (dataOf rest, r.out) =
        Sweep.sweep (fun k => notifySubscriber nif (wild k) n) turns (dataOf xs) := by
  rcases notifyLoop_sweep fake turns (fun k => notifySubscriber nif (wild k) n) h hturns with
    ⟨r, hr, _, hout, _, hrepr⟩
  refine ⟨r, _, ?_, hrepr, ?_⟩
  · unfold notifySubscribersIn
    rw [if_pos hdel]
    exact hr
  · rw [hout]
    exact (Sweep.sweep_map (fun x : Nat × Item Subscriber δ => x.2.dataPtr) turns
      (fun k => notifySubscriber nif (wild k) n) xs).symm

/-- On a list that represents the clients of a machine, the function does what
    the machine's does. -/
theorem notifySubscribersIn_refines (a : AgpsStateMachine) (h : Represents m xs)
    (ha : dataOf xs = a.mSubscribers) (wild : Nat → Wild) (n : Notification) (fake : Subscriber) :
    ∃ r rest, notifySubscribersIn a.toNif wild n fake (xs.length + 1) m = some r ∧
      Represents r.mem rest ∧ dataOf rest = (a.notifySubscribers wild n).1.mSubscribers ∧
      r.out = (a.notifySubscribers wild n).2 := by
  have hlength : a.mSubscribers.length = xs.length := by
    rw [← ha, length_dataOf]
  unfold AgpsStateMachine.notifySubscribers
  by_cases hdel : n.postNotifyDelete = true
  · rcases notifySubscribersIn_delete a.toNif wild hdel h fake
      (Nat.lt_succ_self _) with ⟨r, rest, hr, hrepr, hsweep⟩
    rw [if_pos hdel, hlength, ← ha]
    exact ⟨r, rest, hr, hrepr, congrArg Prod.fst hsweep, congrArg Prod.snd hsweep⟩
  · unfold notifySubscribersIn
    rw [if_neg hdel, if_neg hdel, ← ha]
    by_cases hne : xs = []
    · subst hne
      rw [linkedListSearch_nil h]
      exact ⟨_, [], rfl, h, rfl, rfl⟩
    · rcases repr_search h hne none (notifySubscriber a.toNif (wild 0) n) false with
        ⟨r, rest, hr, _, _, hout, hrepr, hrest⟩
      rw [hr]
      exact ⟨_, rest, rfl, hrepr, hrest, hout⟩

end Refinement

section Pass

variable {nif : Nif} {wild : Nat → Wild} {n : Notification} {m : ListMem Subscriber δ}
  {xs : List (Nat × Item Subscriber δ)}

/-- The sweep with steady answers. -/
theorem sweep_of_steady (hdel : n.postNotifyDelete = true) (hs : Steady wild n (dataOf xs))
    {turns : Nat} (hturns : xs.length < turns) :
    Sweep.sweep (fun k x => notifySubscriber nif (wild k) n x.2.dataPtr) turns xs =
      (xs.filter fun x => !meant (wild 0) n x.2.dataPtr,
        ((dataOf xs).filter (meant (wild 0) n)).flatMap (told nif n.rsrcStatus)) := by
  have hanswer : ∀ k, ∀ x ∈ xs, meant (wild k) n x.2.dataPtr = meant (wild 0) n x.2.dataPtr := by
    intro k x hx
    unfold meant
    rw [hs k x.2.dataPtr (List.mem_map_of_mem hx)]
  rw [Sweep.sweep_eq_filter (p := fun x => meant (wild 0) n x.2.dataPtr)
    (fun x => told nif n.rsrcStatus x.2.dataPtr) turns _ xs ?_ ?_ ?_ hturns]
  · rw [dataOf, List.filter_map, List.flatMap_map]
    rfl
  · intro k x hx
    rw [notifySubscriber_fst hdel, hanswer k x hx]
  · intro k x hx hmeant
    rw [notifySubscriber_of_meant hdel ((hanswer k x hx).trans hmeant)]
  · intro k x hx hmeant
    rw [notifySubscriber_of_not_meant ((hanswer k x hx).trans hmeant)]

/-- However the comparisons come out, what is left is a part of the list. -/
theorem sweep_sublist (hdel : n.postNotifyDelete = true) {turns : Nat}
    (hturns : xs.length < turns) :
    (Sweep.sweep (fun k x => notifySubscriber nif (wild k) n x.2.dataPtr) turns xs).1.Sublist
      xs := by
  have hyes : ∀ k (x : Nat × Item Subscriber δ),
      (notifySubscriber nif (wild k) n x.2.dataPtr).1 = true →
      (notifySubscriber nif (wild k) n x.2.dataPtr).2 = told nif n.rsrcStatus x.2.dataPtr := by
    intro k x hx
    rw [notifySubscriber_fst hdel] at hx
    rw [notifySubscriber_of_meant hdel hx]
  have hno : ∀ k (x : Nat × Item Subscriber δ),
      (notifySubscriber nif (wild k) n x.2.dataPtr).1 = false →
      (notifySubscriber nif (wild k) n x.2.dataPtr).2 = [] := by
    intro k x hx
    rw [notifySubscriber_fst hdel] at hx
    rw [notifySubscriber_of_not_meant hx]
  rcases Sweep.sweep_spec (fun x : Nat × Item Subscriber δ => told nif n.rsrcStatus x.2.dataPtr)
    turns _ xs hyes hno hturns with ⟨_, _, hsub, _⟩
  exact hsub

/-- The loop comes to an end, after one search more than it removes clients. If
    every client is given one answer, it is one pass. -/
theorem notifySubscribers_onePass (nif : Nif) (wild : Nat → Wild) {n : Notification}
    (hdel : n.postNotifyDelete = true) (h : Represents m xs) (fake : Subscriber) :
    ∃ r : Notified δ,
      (∀ turns, xs.length < turns → notifySubscribersIn nif wild n fake turns m = some r) ∧
      (∃ rest, Represents r.mem rest ∧ rest.Sublist xs ∧
        r.searches + rest.length = xs.length + 1) ∧
      (Steady wild n (dataOf xs) → OnePass nif (wild 0) n xs r) := by
  have hturns := Nat.lt_succ_self xs.length
  rcases notifyLoop_sweep fake (xs.length + 1) (fun k => notifySubscriber nif (wild k) n) h hturns
    with ⟨r, hr, hcount, hout, hcalls, hrepr⟩
  refine ⟨r, fun turns hlt => ?_, ⟨_, hrepr, sweep_sublist hdel hturns, hcount⟩, fun hs => ?_⟩
  · rcases Nat.exists_eq_add_of_le (Nat.succ_le_of_lt hlt) with ⟨j, rfl⟩
    unfold notifySubscribersIn
    rw [if_pos hdel]
    exact notifyLoop_mono _ j _ _ hr
  · rw [sweep_of_steady hdel hs hturns] at hcount hout hrepr
    refine ⟨?_, hout, ?_, hcalls, hrepr⟩
    · -- Those who are meant and those who are left make up the list.
      have hsplit := List.length_eq_length_filter_add (l := xs)
        fun x => meant (wild 0) n x.2.dataPtr
      have hmeant : ((dataOf xs).filter (meant (wild 0) n)).length =
          (xs.filter fun x => meant (wild 0) n x.2.dataPtr).length := by
        rw [dataOf, List.filter_map, List.length_map]
        rfl
      simp only at hcount
      omega
    · rw [hout]
      exact sentOne_told nif fun s hmem => (List.mem_filter.mp hmem).2

/-- Any clients can be listed. -/
theorem exists_listed (l : List Subscriber) :
    ∃ (m : ListMem Subscriber Nat) (xs : List (Nat × Item Subscriber Nat)),
      Represents m xs ∧ dataOf xs = l := by
  rcases exists_represents (l.map fun s => (⟨s, none⟩ : Item Subscriber Nat)) with ⟨m, xs, h, hxs⟩
  have hdata : dataOf xs = (xs.map Prod.snd).map Item.dataPtr := (List.map_map).symm
  refine ⟨m, xs, h, ?_⟩
  rw [hdata, hxs, List.map_map]
  exact List.map_id' l

/-- A denial reaches two clients, and then there is none. -/
theorem notifySubscribers_onePass_denied :
    ∃ (m : ListMem Subscriber Nat) (r : Notified Nat),
      notifySubscribersIn ⟨AGPS_TYPE_SUPL, none, 0⟩ (fun _ _ _ => false)
        (.broadcast .broadcastAll .denied true) (.atl 9 0 false) 3 m = some r ∧
      r.out = [.notify (.atl 2 5 true) (.atlOpenStatus 5 false none 0 AGPS_TYPE_INVALID),
        .notify (.wifi 1 none none .quipc false) (.dataConn .quipc .failure)] ∧
      r.searches = 3 := by
  rcases exists_listed [.atl 2 5 true, .wifi 1 none none .quipc false] with ⟨m, xs, h, hxs⟩
  have hlength : xs.length < 3 := by
    rw [← length_dataOf, hxs]
    exact Nat.lt_succ_self 2
  have hdel : (Notification.broadcast .broadcastAll .denied true).postNotifyDelete = true := rfl
  rcases notifySubscribers_onePass ⟨AGPS_TYPE_SUPL, none, 0⟩ (fun _ _ _ => false) hdel h
    (.atl 9 0 false) with ⟨r, hr, _, hpass⟩
  have hone := hpass (steady_of_defined fun _ hrcver => nomatch hrcver)
  refine ⟨m, r, hr 3 hlength, ?_, ?_⟩
  · rw [hone.out, hxs]
    rfl
  · rw [hone.searches, hxs]
    rfl

/-- A WIFI client is removed and sent nothing. And if the answer of a BIT client
    changes, which the bytes behind the receiver may make it do, the clients are
    told in another order than they are listed. -/
theorem notifySubscribers_notOnePass :
    (∃ (m : ListMem Subscriber Nat) (xs : List (Nat × Item Subscriber Nat)) (r : Notified Nat),
      Represents m xs ∧ dataOf xs = [.wifi 1 none none .quipc false] ∧
      notifySubscribersIn ⟨AGPS_TYPE_WIFI, none, 0⟩ (fun _ _ _ => false)
        (.directed (.wifi 1 none none .quipc false) .unsubscribe true) (.atl 9 0 false) 2 m =
          some r ∧
      ¬ SentOne r.out ((dataOf xs).filter (meant (fun _ _ => false)
        (.directed (.wifi 1 none none .quipc false) .unsubscribe true)))) ∧
    ∃ (m : ListMem Subscriber Nat) (xs : List (Nat × Item Subscriber Nat)) (r : Notified Nat),
      Represents m xs ∧
      dataOf xs = [.bit 1 INADDR_NONE (Vector.replicate 16 0), .atl 2 INADDR_NONE false] ∧
      notifySubscribersIn ⟨AGPS_TYPE_SUPL, none, 0⟩ (fun k _ _ => k == 1)
        (.directed (.atl 2 INADDR_NONE false) .unsubscribe true) (.atl 9 0 false) 3 m = some r ∧
      ∀ w, ¬ SentOne r.out ((dataOf xs).filter (meant w
        (.directed (.atl 2 INADDR_NONE false) .unsubscribe true))) := by
  constructor
  · rcases exists_listed [.wifi 1 none none .quipc false] with ⟨m, xs, h, hxs⟩
    have hlength : xs.length < 2 := by
      rw [← length_dataOf, hxs]
      exact Nat.lt_succ_self 1
    have hdel : (Notification.directed (.wifi 1 none none .quipc false) .unsubscribe
      true).postNotifyDelete = true := rfl
    rcases notifySubscribersIn_delete ⟨AGPS_TYPE_WIFI, none, 0⟩ (fun _ _ _ => false) hdel h
      (.atl 9 0 false) hlength with ⟨r, _, hr, _, hsweep⟩
    refine ⟨m, xs, r, h, hxs, hr, ?_⟩
    have hout : r.out = [] := by
      rw [hxs] at hsweep
      exact congrArg Prod.snd hsweep
    rw [hout, hxs]
    rintro ⟨msg, hmsg⟩
    exact List.cons_ne_nil _ _ hmsg.symm
  · rcases exists_listed [.bit 1 INADDR_NONE (Vector.replicate 16 0),
      .atl 2 INADDR_NONE false] with ⟨m, xs, h, hxs⟩
    have hlength : xs.length < 3 := by
      rw [← length_dataOf, hxs]
      exact Nat.lt_succ_self 2
    have hdel : (Notification.directed (.atl 2 INADDR_NONE false) .unsubscribe
      true).postNotifyDelete = true := rfl
    rcases notifySubscribersIn_delete ⟨AGPS_TYPE_SUPL, none, 0⟩ (fun k _ _ => k == 1) hdel h
      (.atl 9 0 false) hlength with ⟨r, _, hr, _, hsweep⟩
    refine ⟨m, xs, r, h, hxs, hr, ?_⟩
    have hout : r.out = [.notify (.atl 2 INADDR_NONE false) (.atlCloseStatus INADDR_NONE true),
        .notify (.bit 1 INADDR_NONE (Vector.replicate 16 0))
          (.dataConn .gpsoneDaemon .releaseSuccess)] := by
      rw [hxs] at hsweep
      exact congrArg Prod.snd hsweep
    rintro w ⟨msg, hmsg⟩
    rw [hout, hxs] at hmsg
    -- With either answer, the BIT client is not behind the other one.
    cases hw : meant w (.directed (.atl 2 INADDR_NONE false) .unsubscribe true)
        (.bit 1 INADDR_NONE (Vector.replicate 16 0)) with
    | true =>
        rw [List.filter_cons_of_pos hw] at hmsg
        injection (List.cons.inj hmsg).1 with hfirst
        cases hfirst
    | false =>
        rw [List.filter_cons_of_neg (by rw [hw]; exact Bool.false_ne_true)] at hmsg
        have hlen := congrArg List.length hmsg
        rw [List.length_map] at hlen
        exact absurd (hlen.trans_le (List.length_filter_le _ _)) (by decide)

end Pass

end Agps

end Taoshan

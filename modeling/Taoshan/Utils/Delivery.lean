import Taoshan.Utils.MsgQ

/-!
# Delivery by the Message Queue

Every message sent is delivered once and in order, or flushed, or still there.

The sequence of messages a queue has accepted splits in two at any moment. The
older part has been taken out, each message either by a receive or by a flush;
the younger part is what the list still represents, newest first. `Delivered`
is that split, with the receives and the deallocations made so far read off
the older part. It carries the whole claim because the order is fixed on both
sides: a receive takes the oldest queued message, so it extends the older part
by the next message sent, and a flush moves everything across at once.

A message has one place in the older part and one fate there. So no message is
received twice, or received and flushed, or lost.

## Main definitions

* `Fate`: How a message left the queue.
* `Delivered`: The split of what was sent into what left and what is queued.

## Theorems

* `delivered_snd`, `delivered_rcvLoop`, `delivered_flush`: What each section
  does to the split.
* `delivered_step`: Every step keeps it.
* `delivered_perm`: Nothing is lost or duplicated.
* `delivered_received_sublist`: Receives are in the order of the sends.
* `delivered_run`: Every interleaving has it.
-/

namespace Taoshan

namespace Utils

namespace Queue

open Run

/-- How a message left the queue. -/
inductive Fate
  | received
  | flushed
  deriving DecidableEq

variable {α δ : Type*}

/-- The messages sent, in order, are those that left the queue, each with its
    fate, followed by those queued, whose newest is at the head of the list. -/
structure Delivered (s : Sys α δ) (fate : List (Item α δ × Fate))
    (xs : List (Nat × Item α δ)) : Prop where
  repr : Represents s.q.msgList xs
  sent : sentOf s.hist = fate.map Prod.fst ++ (xs.map Prod.snd).reverse
  received : receivedOf s.hist =
    (fate.filter (fun f => f.2 = .received)).map (fun f => f.1.dataPtr)
  deallocated : (deallocatedOf s.hist).Perm
    ((fate.filter (fun f => f.2 = .flushed)).flatMap (fun f => deallocCall f.1))
  noFault : Event.fault ∉ s.hist

theorem sentOf_append (hist : List (Event α δ)) (e : Event α δ) :
    sentOf (hist ++ [e]) = sentOf hist ++ sentOf [e] := List.filterMap_append

theorem receivedOf_append (hist : List (Event α δ)) (e : Event α δ) :
    receivedOf (hist ++ [e]) = receivedOf hist ++ receivedOf [e] := List.filterMap_append

theorem deallocatedOf_append (hist : List (Event α δ)) (e : Event α δ) :
    deallocatedOf (hist ++ [e]) = deallocatedOf hist ++ deallocatedOf [e] := List.flatMap_append

/-- An event that is no fault adds none. -/
theorem noFault_append {hist : List (Event α δ)} {e : Event α δ} (h : Event.fault ∉ hist)
    (he : e ≠ .fault) : Event.fault ∉ hist ++ [e] := by
  intro hin
  rcases List.mem_append.mp hin with hin | hin
  · exact h hin
  · exact he (List.mem_singleton.mp hin).symm

/-- An event that neither sends, receives nor deallocates leaves the split as
    it is, whatever happens to the waiters. -/
theorem delivered_log {s t : Sys α δ} {fate : List (Item α δ × Fate)}
    {xs : List (Nat × Item α δ)} {e : Event α δ} (h : Delivered s fate xs)
    (hq : Represents t.q.msgList xs) (hhist : t.hist = s.hist ++ [e])
    (hs : sentOf [e] = []) (hr : receivedOf [e] = []) (hd : deallocatedOf [e] = [])
    (hf : e ≠ .fault) : Delivered t fate xs := by
  refine ⟨hq, ?_, ?_, ?_, ?_⟩
  · rw [hhist, sentOf_append, hs, List.append_nil, h.sent]
  · rw [hhist, receivedOf_append, hr, List.append_nil, h.received]
  · rw [hhist, deallocatedOf_append, hd, List.append_nil]
    exact h.deallocated
  · rw [hhist]
    exact noFault_append h.noFault hf

/-- The waiters are no part of the split. -/
theorem delivered_waiters {s : Sys α δ} {fate : List (Item α δ × Fate)}
    {xs : List (Nat × Item α δ)} (h : Delivered s fate xs) (blocked woken : List Nat) :
    Delivered { s with blocked := blocked, woken := woken } fate xs :=
  ⟨h.repr, h.sent, h.received, h.deallocated, h.noFault⟩

/-- A successful send appends its message to the queued part. -/
theorem delivered_snd {s t : Sys α δ} {fate : List (Item α δ × Fate)}
    {xs : List (Nat × Item α δ)} {a : Nat} {item : Item α δ} (h : Delivered s fate xs)
    (hq : Represents t.q.msgList ((a, item) :: xs))
    (hhist : t.hist = s.hist ++ [.snd item .success]) : Delivered t fate ((a, item) :: xs) := by
  refine ⟨hq, ?_, ?_, ?_, ?_⟩
  · rw [hhist, sentOf_append, h.sent, List.map_cons, List.reverse_cons, List.append_assoc]
    rfl
  · rw [hhist, receivedOf_append, h.received]
    exact List.append_nil _
  · rw [hhist, deallocatedOf_append]
    exact (List.append_nil _).symm ▸ h.deallocated
  · rw [hhist]
    exact noFault_append h.noFault (by simp only [ne_eq, reduceCtorEq, not_false_eq_true])

/-- A send that fails is heard of by nobody. -/
theorem delivered_sndFailed {s t : Sys α δ} {fate : List (Item α δ × Fate)}
    {xs : List (Nat × Item α δ)} {msgObj : Option α} {dealloc : Option δ} {rv : MsgQErr}
    (h : Delivered s fate xs) (hq : Represents t.q.msgList xs) (hrv : rv ≠ .success)
    (hhist : t.hist = s.hist ++ [sndEvent msgObj dealloc rv]) : Delivered t fate xs := by
  cases msgObj with
  | none =>
      exact delivered_log h hq hhist rfl rfl rfl
        (by simp only [sndEvent, ne_eq, reduceCtorEq, not_false_eq_true])
  | some data =>
      refine delivered_log h hq hhist ?_ rfl rfl
        (by simp only [sndEvent, ne_eq, reduceCtorEq, not_false_eq_true])
      cases rv with
      | success => exact absurd rfl hrv
      | _ => rfl

/-- A successful receive moves the oldest queued message to the part that
    left. -/
theorem delivered_received {s t : Sys α δ} {fate : List (Item α δ × Fate)}
    {ys : List (Nat × Item α δ)} {x : Nat × Item α δ} (h : Delivered s fate (ys ++ [x]))
    (hq : Represents t.q.msgList ys)
    (hhist : t.hist = s.hist ++ [.rcv .success (some x.2.dataPtr)]) :
    Delivered t (fate ++ [(x.2, .received)]) ys := by
  -- The oldest queued message is the next in the order of the sends.
  refine ⟨hq, ?_, ?_, ?_, ?_⟩
  · rw [hhist, sentOf_append, h.sent]
    simp only [sentOf, List.filterMap_cons, List.filterMap_nil, List.append_nil, List.map_append,
      List.map_cons, List.map_nil, List.reverse_append, List.reverse_cons, List.reverse_nil,
      List.nil_append, List.append_assoc, List.singleton_append]
  · rw [hhist, receivedOf_append, h.received]
    simp only [receivedOf, List.filterMap_cons, List.filterMap_nil, List.filter_append,
      List.filter_cons, List.filter_nil, decide_true, if_true, List.map_append, List.map_cons,
      List.map_nil]
  · rw [hhist, deallocatedOf_append]
    simp only [deallocatedOf, List.flatMap_cons, List.flatMap_nil, List.append_nil,
      List.filter_append, List.filter_cons, List.filter_nil, reduceCtorEq, decide_false,
      Bool.false_eq_true, if_false]
    exact h.deallocated
  · rw [hhist]
    exact noFault_append h.noFault (by simp only [ne_eq, reduceCtorEq, not_false_eq_true])

/-- A flush moves the whole queued part, oldest first, to the part that left.
    The deallocations run from the newest, so they agree up to order. -/
theorem delivered_flush {s t : Sys α δ} {fate : List (Item α δ × Fate)}
    {xs : List (Nat × Item α δ)} (h : Delivered s fate xs) (hq : Represents t.q.msgList [])
    (hhist : t.hist = s.hist ++ [.flush .success (xs.flatMap (fun x => deallocCall x.2))]) :
    Delivered t (fate ++ (xs.map Prod.snd).reverse.map (fun i => (i, Fate.flushed))) [] := by
  have hmap : ((xs.map Prod.snd).reverse.map (fun i => (i, Fate.flushed))).map Prod.fst
      = (xs.map Prod.snd).reverse := by
    rw [List.map_map]
    exact List.map_id _
  have hall : ∀ f ∈ (xs.map Prod.snd).reverse.map (fun i => (i, Fate.flushed)),
      f.2 = Fate.flushed := by
    intro f hf
    rcases List.mem_map.mp hf with ⟨i, _, rfl⟩
    rfl
  refine ⟨hq, ?_, ?_, ?_, ?_⟩
  · rw [hhist, sentOf_append, h.sent, List.map_append, hmap]
    simp only [sentOf, List.filterMap_cons, List.filterMap_nil, List.append_nil, List.map_nil,
      List.reverse_nil]
  · -- A flush adds nothing to what was received.
    have hnone : ((xs.map Prod.snd).reverse.map (fun i => (i, Fate.flushed))).filter
        (fun f => f.2 = .received) = [] :=
      List.filter_eq_nil_iff.mpr (fun f hf => by
        rw [hall f hf]
        decide)
    rw [hhist, receivedOf_append, h.received, List.filter_append, hnone, List.append_nil]
    exact List.append_nil _
  · have hsome : ((xs.map Prod.snd).reverse.map (fun i => (i, Fate.flushed))).filter
        (fun f => f.2 = .flushed) = (xs.map Prod.snd).reverse.map (fun i => (i, Fate.flushed)) :=
      List.filter_eq_self.mpr (fun f hf => by
        rw [hall f hf]
        decide)
    rw [hhist, deallocatedOf_append, List.filter_append, hsome, List.flatMap_append]
    refine List.Perm.append h.deallocated ?_
    simp only [deallocatedOf, List.flatMap_cons, List.flatMap_nil, List.append_nil,
      List.flatMap_map]
    have hrev := (List.reverse_perm (xs.map Prod.snd)).symm.flatMap_right deallocCall
    rwa [List.flatMap_map] at hrev
  · rw [hhist]
    exact noFault_append h.noFault (by simp only [ne_eq, reduceCtorEq, not_false_eq_true])

/-- A section of a receive, from the test of its wait loop. -/
theorem delivered_rcvLoop {s : Sys α δ} {fate : List (Item α δ × Fate)}
    {xs : List (Nat × Item α δ)} (h : Delivered s fate xs) (t : Nat) :
    ∃ fate' xs', Delivered (s.afterRcv t (rcvLoop s.q)) fate' xs' := by
  rcases rcvLoop_spec h.repr with ⟨_, _, hr⟩ | ⟨_, _, hr⟩ | ⟨ys, x, list, rfl, hlist, hr⟩
  · rw [hr]
    exact ⟨fate, xs, delivered_waiters h _ _⟩
  · rw [hr]
    exact ⟨fate, xs, delivered_log h h.repr rfl rfl rfl rfl
      (by simp only [ne_eq, reduceCtorEq, not_false_eq_true])⟩
  · rw [hr]
    exact ⟨_, ys, delivered_received h hlist rfl⟩

/-- Every critical section and every wake-up keeps the split. -/
theorem delivered_step {s t : Sys α δ} {a : Action α δ} {fate : List (Item α δ × Fate)}
    {xs : List (Nat × Item α δ)} (h : Delivered s fate xs) (hstep : step s a = some t) :
    ∃ fate' xs', Delivered t fate' xs' := by
  cases a with
  | snd malloc msgObj dealloc wake =>
      simp only [step] at hstep
      by_cases hm : mallocOk s.q.msgList malloc = true
      · rcases msgQSnd_spec h.repr hm msgObj dealloc with ⟨r, hr, _, hcase⟩
        rw [if_pos hm, hr] at hstep
        simp only [Option.ite_none_right_eq_some, Option.some.injEq] at hstep
        rcases hstep with ⟨_, rfl⟩
        -- The send put its message in front, or it failed and changed nothing.
        rcases hcase with ⟨hrv, data, a, rfl, hq⟩ | ⟨hrv, hq⟩
        · refine ⟨fate, (a, ⟨data, dealloc⟩) :: xs, delivered_snd h hq ?_⟩
          simp only [Sys.log, sndEvent, hrv]
        · exact ⟨fate, xs, delivered_sndFailed h hq hrv rfl⟩
      · rw [if_neg hm] at hstep
        exact absurd hstep (by simp only [reduceCtorEq, not_false_eq_true])
  | rcv u =>
      simp only [step, Option.ite_none_left_eq_some, Option.some.injEq] at hstep
      rcases hstep with ⟨_, rfl⟩
      unfold rcvBegin
      by_cases hu : s.q.unblocked = true
      · -- A queue that is unblocked turns receivers away at once.
        rw [if_pos hu]
        exact ⟨fate, xs, delivered_log h h.repr rfl rfl rfl rfl
          (by simp only [ne_eq, reduceCtorEq, not_false_eq_true])⟩
      · rw [if_neg hu]
        exact delivered_rcvLoop h u
  | resume u =>
      simp only [step, Option.ite_none_right_eq_some, Option.some.injEq] at hstep
      rcases hstep with ⟨_, rfl⟩
      exact delivered_rcvLoop (delivered_waiters h s.blocked (s.woken.erase u)) u
  | spurious u =>
      simp only [step, Option.ite_none_right_eq_some, Option.some.injEq] at hstep
      rcases hstep with ⟨_, rfl⟩
      exact ⟨fate, xs, delivered_waiters h _ _⟩
  | flush =>
      rcases msgQFlush_spec h.repr with ⟨list, hlist, hflush⟩
      simp only [step, hflush, Option.some.injEq] at hstep
      rw [← hstep]
      exact ⟨_, [], delivered_flush h hlist rfl⟩
  | unblock =>
      simp only [step] at hstep
      by_cases hu : (msgQUnblock s.q).1 = .success
      · rw [if_pos hu, Option.some.injEq] at hstep
        rw [← hstep]
        refine ⟨fate, xs, delivered_log h ?_ rfl rfl rfl rfl
          (by simp only [ne_eq, reduceCtorEq, not_false_eq_true])⟩
        simp only [Sys.log, msgQUnblock_msgList]
        exact h.repr
      · rw [if_neg hu, Option.some.injEq] at hstep
        rw [← hstep]
        exact ⟨fate, xs, delivered_log h h.repr rfl rfl rfl rfl
          (by simp only [ne_eq, reduceCtorEq, not_false_eq_true])⟩

/-- Up to order, what was sent is what was received, what was flushed and what
    is queued. -/
theorem delivered_perm {s : Sys α δ} {fate : List (Item α δ × Fate)}
    {xs : List (Nat × Item α δ)} (h : Delivered s fate xs) :
    (sentOf s.hist).Perm ((fate.filter (fun f => f.2 = .received)).map Prod.fst ++
      (fate.filter (fun f => f.2 = .flushed)).map Prod.fst ++ xs.map Prod.snd) := by
  have hsplit : (fate.filter (fun f => f.2 = .received) ++
      fate.filter (fun f => f.2 = .flushed)).Perm fate := by
    have hnot : ∀ f ∈ fate, decide (f.2 = Fate.flushed) = !decide (f.2 = Fate.received) := by
      intro f _
      cases f.2 with
      | received => rfl
      | flushed => rfl
    rw [List.filter_congr hnot]
    exact List.filter_append_perm _ fate
  -- Each message that left has one fate, so the two filters split them.
  rw [h.sent, ← List.map_append]
  exact (hsplit.symm.map Prod.fst).append (List.reverse_perm _)

/-- Messages are received in the order in which they were sent. -/
theorem delivered_received_sublist {s : Sys α δ} {fate : List (Item α δ × Fate)}
    {xs : List (Nat × Item α δ)} (h : Delivered s fate xs) :
    (receivedOf s.hist).Sublist ((sentOf s.hist).map Item.dataPtr) := by
  rw [h.received, h.sent, List.map_append, List.map_map]
  exact ((List.filter_sublist (l := fate)).map _).trans (List.sublist_append_left _ _)

theorem delivered_init : Delivered (init : Sys α δ) [] [] :=
  ⟨repr_init, rfl, rfl, List.Perm.refl _, List.not_mem_nil⟩

/-- In every interleaving of sends, receives, flushes and unblocks, the
    messages sent with success are, in order, those that left the queue and
    then those still in it. Of those that left, the received ones are what the
    receives returned, in that order, and the flushed ones are what the
    flushes deallocated. No section touches memory that is not allocated. -/
theorem delivered_run {acts : List (Action α δ)} {s : Sys α δ}
    (h : exec step init acts = some s) : ∃ fate xs, Delivered s fate xs :=
  exec_invariant (fun s => ∃ fate xs, Delivered s fate xs)
    (fun _ _ _ ⟨_, _, hs⟩ hstep => delivered_step hs hstep) ⟨[], [], delivered_init⟩ h

/-- Two messages sent, one received and the other flushed. -/
def sendTwo : List (Action Nat Nat) :=
  [.snd (some 1) (some 10) (some 7) [], .snd (some 2) (some 20) (some 7) [], .rcv 0, .flush]

theorem delivered_run_sendTwo :
    ∃ s, exec step init sendTwo = some s ∧ ∃ fate xs, Delivered s fate xs :=
  ⟨(exec step init sendTwo).get rfl, (Option.some_get _).symm,
    delivered_run (Option.some_get (x := exec step init sendTwo) rfl).symm⟩

end Queue

end Utils

end Taoshan

import Taoshan.Lib.Run
import Taoshan.Utils.LinkedList

/-!
# The Message Queue

`msg_q.c`, and the system of threads that share one queue.

A queue is a linked list, a mutex, a condition variable and the flag
`unblocked`. Each function runs one critical section, except a receive that
finds the queue empty: `pthread_cond_wait` gives the mutex up in the middle
and takes it again on waking. So a receive is two functions here. `rcvBegin`
is the section from the lock to the first wait or the return, and `rcvLoop` is
the test of the wait loop with what follows it, which is also what a receiver
runs each time it has been woken.

`step` interleaves the sections of any number of threads. A label names the
section and everything its outcome depends on besides the queue: the address
`malloc` returns and the waiters a signal wakes. A signal wakes at least one
waiter if there is one, and may wake more; `spurious` wakes a waiter nobody
signalled. `hist` records what each section returned, and is only written.

## Main definitions

* `msgQSnd`, `rcvBegin`, `rcvLoop`, `msgQFlush`, `msgQUnblock`: The critical
  sections.
* `Sys`: A queue with the receivers waiting on it.
* `step`: One critical section, or one spurious wake-up.
* `sentOf`, `receivedOf`, `deallocatedOf`: What a history says about messages.

## Theorems

* `msgQSnd_spec`, `rcvLoop_spec`, `msgQFlush_spec`: What each section does to
  the sequence the list represents.
-/

namespace Taoshan

namespace Utils

/-- `msq_q_err_type`. -/
inductive MsgQErr
  | success
  | failureGeneral
  | invalidParameter
  | invalidHandle
  | unavailableResource
  | insufficientBuffer
  deriving DecidableEq, Repr

def convertLinkedListErrType : LinkedListErr → MsgQErr
  | .success => .success
  | .invalidParameter => .invalidParameter
  | .invalidHandle => .invalidHandle
  | .unavailableResource => .unavailableResource
  | .insufficientBuffer => .insufficientBuffer
  | .failureGeneral => .failureGeneral

/-- `msg_q`, less the mutex and the condition variable. -/
structure MsgQ (α δ : Type*) where
  msgList : ListMem α δ
  unblocked : Bool

variable {α δ : Type*}

def msgQInit : MsgQ α δ := ⟨linkedListInit, false⟩

/-- What `msg_q_snd` returns, and whether it got as far as the signal. -/
structure SndResult (α δ : Type*) where
  rv : MsgQErr
  signal : Bool
  q : MsgQ α δ

def msgQSnd (q : MsgQ α δ) (malloc : Option Nat) (msgObj : Option α) (dealloc : Option δ) :
    Option (SndResult α δ) :=
  if msgObj.isNone then some ⟨.invalidParameter, false, q⟩
  else if q.unblocked then some ⟨.unavailableResource, false, q⟩
  else match linkedListAdd q.msgList malloc msgObj dealloc with
    | none => none
    -- The signal is sent whether or not the list took the message.
    | some (rv, list) => some ⟨convertLinkedListErrType rv, true, { q with msgList := list }⟩

/-- Where a section of `msg_q_rcv` ends: at its return or at the wait. -/
inductive RcvResult (α δ : Type*)
  | returned (rv : MsgQErr) (msgObj : Option α) (q : MsgQ α δ)
  | waits

/-- The test of the wait loop in `msg_q_rcv`, and what follows the loop. -/
def rcvLoop (q : MsgQ α δ) : Option (RcvResult α δ) :=
  if linkedListEmpty q.msgList && !q.unblocked then some .waits
  else match linkedListRemove q.msgList with
    | none => none
    | some (rv, msgObj, list) =>
        some (.returned (convertLinkedListErrType rv) msgObj { q with msgList := list })

/-- `msg_q_rcv` from taking the mutex to its first wait. -/
def rcvBegin (q : MsgQ α δ) : Option (RcvResult α δ) :=
  if q.unblocked then some (.returned .unavailableResource none q) else rcvLoop q

def msgQFlush (q : MsgQ α δ) : Option (MsgQErr × List (δ × α) × MsgQ α δ) :=
  match linkedListFlush q.msgList with
  | none => none
  | some (rv, calls, list) => some (convertLinkedListErrType rv, calls, { q with msgList := list })

def msgQUnblock (q : MsgQ α δ) : MsgQErr × MsgQ α δ :=
  if q.unblocked then (.unavailableResource, q) else (.success, { q with unblocked := true })

@[simp] theorem msgQUnblock_msgList (q : MsgQ α δ) : (msgQUnblock q).2.msgList = q.msgList := by
  unfold msgQUnblock
  by_cases hq : q.unblocked = true
  · rw [if_pos hq]
  · rw [if_neg hq]

/-- `malloc` returns an address that is not in use, or nothing. -/
def mallocOk (m : ListMem α δ) (malloc : Option Nat) : Bool :=
  match malloc with
  | none => true
  | some a => (m.heap.lookup a).isNone

/-- What a send does: it prepends the message and succeeds, or it fails and
    leaves the list alone. -/
theorem msgQSnd_spec {q : MsgQ α δ} {xs : List (Nat × Item α δ)} (h : Represents q.msgList xs)
    {malloc : Option Nat} (hm : mallocOk q.msgList malloc = true) (msgObj : Option α)
    (dealloc : Option δ) :
    ∃ r, msgQSnd q malloc msgObj dealloc = some r ∧ r.q.unblocked = q.unblocked ∧
      ((r.rv = .success ∧ ∃ data a, msgObj = some data ∧
          Represents r.q.msgList ((a, ⟨data, dealloc⟩) :: xs)) ∨
        (r.rv ≠ .success ∧ Represents r.q.msgList xs)) := by
  unfold msgQSnd
  cases msgObj with
  | none => exact ⟨_, rfl, rfl, Or.inr ⟨nofun, h⟩⟩
  | some data =>
      simp only [Option.isNone_some, Bool.false_eq_true, if_false]
      by_cases hu : q.unblocked = true
      · rw [if_pos hu]
        exact ⟨_, rfl, rfl, Or.inr ⟨nofun, h⟩⟩
      · rw [if_neg hu]
        cases malloc with
        | none =>
            rw [linkedListAdd_noMem]
            exact ⟨_, rfl, rfl, Or.inr ⟨nofun, h⟩⟩
        | some a =>
            have hfresh : q.msgList.heap.lookup a = none := by
              rw [mallocOk, Option.isNone_iff_eq_none] at hm
              exact hm
            rcases repr_add h hfresh data dealloc with ⟨m', hadd, hrepr⟩
            rw [hadd]
            exact ⟨_, rfl, rfl, Or.inl ⟨rfl, data, a, rfl, hrepr⟩⟩

/-- What the wait loop does: it waits on an empty queue that is not unblocked,
    it finds nothing in an empty queue that is, and otherwise it returns the
    oldest message. -/
theorem rcvLoop_spec {q : MsgQ α δ} {xs : List (Nat × Item α δ)} (h : Represents q.msgList xs) :
    (xs = [] ∧ q.unblocked = false ∧ rcvLoop q = some .waits) ∨
      (xs = [] ∧ q.unblocked = true ∧
        rcvLoop q = some (.returned .unavailableResource none q)) ∨
      ∃ ys x list, xs = ys ++ [x] ∧ Represents list ys ∧
        rcvLoop q = some (.returned .success (some x.2.dataPtr) { q with msgList := list }) := by
  unfold rcvLoop
  rcases List.eq_nil_or_concat xs with rfl | ⟨ys, x, rfl⟩
  · have hempty : linkedListEmpty q.msgList = true := (repr_empty h).mpr rfl
    rw [hempty, repr_remove_nil h]
    -- Nothing is there: an unblocked queue is left, any other is waited on.
    by_cases hu : q.unblocked = true
    · rw [if_neg (by rw [hu]; exact Bool.false_ne_true)]
      exact Or.inr (Or.inl ⟨rfl, hu, rfl⟩)
    · rw [Bool.not_eq_true] at hu
      rw [if_pos (by rw [hu]; rfl)]
      exact Or.inl ⟨rfl, hu, rfl⟩
  · rw [List.concat_eq_append] at *
    have hne : linkedListEmpty q.msgList = false := by
      rw [Bool.eq_false_iff]
      intro hc
      exact absurd ((repr_empty h).mp hc) (by simp only [List.append_eq_nil_iff,
        List.cons_ne_self, and_false, not_false_eq_true])
    rcases repr_remove h with ⟨list, hrem, hrepr⟩
    rw [hne, hrem]
    exact Or.inr (Or.inr ⟨ys, x, list, rfl, hrepr, rfl⟩)

/-- What a flush does. -/
theorem msgQFlush_spec {q : MsgQ α δ} {xs : List (Nat × Item α δ)} (h : Represents q.msgList xs) :
    ∃ list, Represents list [] ∧ msgQFlush q =
      some (.success, xs.flatMap (fun x => deallocCall x.2), { q with msgList := list }) := by
  rcases repr_flush h with ⟨list, hflush, hrepr⟩
  refine ⟨list, hrepr, ?_⟩
  unfold msgQFlush
  rw [hflush]
  rfl

namespace Queue

/-- What a critical section did that its callers can see. `fault` is an access
    through a dangling pointer. -/
inductive Event (α δ : Type*)
  | snd (item : Item α δ) (rv : MsgQErr)
  | sndNull (rv : MsgQErr)
  | rcv (rv : MsgQErr) (msgObj : Option α)
  | flush (rv : MsgQErr) (calls : List (δ × α))
  | unblock (rv : MsgQErr)
  | fault

/-- The messages sent with success, in the order of the sections. -/
def sentOf (hist : List (Event α δ)) : List (Item α δ) :=
  hist.filterMap fun
    | .snd item .success => some item
    | _ => none

/-- The messages received with success, in the order of the sections. -/
def receivedOf (hist : List (Event α δ)) : List α :=
  hist.filterMap fun
    | .rcv .success msgObj => msgObj
    | _ => none

/-- The deallocations made by flushes. -/
def deallocatedOf (hist : List (Event α δ)) : List (δ × α) :=
  hist.flatMap fun
    | .flush _ calls => calls
    | _ => []

/-- A queue and the receivers inside `pthread_cond_wait`: those still asleep,
    and those woken that have not taken the mutex yet. -/
structure Sys (α δ : Type*) where
  q : MsgQ α δ
  blocked : List Nat
  woken : List Nat
  hist : List (Event α δ)

def init : Sys α δ := ⟨msgQInit, [], [], []⟩

/-- One critical section with its environment. -/
inductive Action (α δ : Type*)
  | snd (malloc : Option Nat) (msgObj : Option α) (dealloc : Option δ) (wake : List Nat)
  | rcv (t : Nat)
  | resume (t : Nat)
  | spurious (t : Nat)
  | flush
  | unblock

/-- The waiters a signal may wake: some of those asleep, and at least one of
    them if there is any. -/
def wakeOk (blocked wake : List Nat) (signal : Bool) : Bool :=
  wake.Nodup ∧ wake ⊆ blocked ∧
    if signal then blocked = [] ∨ wake ≠ [] else wake = []

/-- Record an event. -/
def Sys.log (s : Sys α δ) (e : Event α δ) : Sys α δ := { s with hist := s.hist ++ [e] }

/-- The state after a section of `msg_q_rcv` by thread `t`. -/
def Sys.afterRcv (s : Sys α δ) (t : Nat) : Option (RcvResult α δ) → Sys α δ
  | none => s.log .fault
  | some .waits => { s with blocked := s.blocked ++ [t] }
  | some (.returned rv msgObj q) => ({ s with q := q } : Sys α δ).log (.rcv rv msgObj)

/-- The event of a send. -/
def sndEvent (msgObj : Option α) (dealloc : Option δ) (rv : MsgQErr) : Event α δ :=
  match msgObj with
  | none => .sndNull rv
  | some data => .snd ⟨data, dealloc⟩ rv

/-- One critical section of one thread, or a spurious wake-up; `none` if the
    label does not describe one that can happen. -/
def step (s : Sys α δ) : Action α δ → Option (Sys α δ)
  | .snd malloc msgObj dealloc wake =>
    if mallocOk s.q.msgList malloc then
      match msgQSnd s.q malloc msgObj dealloc with
      | none => some (s.log .fault)
      | some r =>
        if wakeOk s.blocked wake r.signal then
          some (({ s with q := r.q
                          blocked := s.blocked.filter (· ∉ wake)
                          woken := s.woken ++ wake } : Sys α δ).log
            (sndEvent msgObj dealloc r.rv))
        else none
    else none
  | .rcv t =>
    -- A thread inside a receive does not begin another.
    if t ∈ s.blocked ∨ t ∈ s.woken then none else some (s.afterRcv t (rcvBegin s.q))
  | .resume t =>
    -- Back from the wait with the mutex, at the test of the loop.
    if t ∈ s.woken then
      some (({ s with woken := s.woken.erase t } : Sys α δ).afterRcv t (rcvLoop s.q))
    else none
  | .spurious t =>
    if t ∈ s.blocked then
      some { s with blocked := s.blocked.erase t, woken := s.woken ++ [t] }
    else none
  | .flush =>
    match msgQFlush s.q with
    | none => some (s.log .fault)
    | some (rv, calls, q) => some (({ s with q := q } : Sys α δ).log (.flush rv calls))
  | .unblock =>
    let r := msgQUnblock s.q
    if r.1 = .success then
      -- The broadcast wakes everybody.
      some (({ s with q := r.2, blocked := [], woken := s.woken ++ s.blocked } : Sys α δ).log
        (.unblock r.1))
    else some (s.log (.unblock r.1))

end Queue

end Utils

end Taoshan

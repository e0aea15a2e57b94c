import Mathlib.Data.List.InsertIdx
import Taoshan.Lib.Run
import Taoshan.Ni.Steps

/-!
# Custody of the Payloads

Where the payload of a network initiated request is, and who frees it.

With every request the modem passes a payload, a block of memory that the
engine is to free. The handler stores it in `rawRequest`, the thread of the
session makes a message of what it finds there, and the message frees it when
it is deleted. A request that finds the slot taken is freed at once, and a
restart frees what is in the slot.

Here the session is cut finer than its functions and shows the payloads only.
The deferred thread runs the handler, deletes the messages and does the reset;
the reset tests, frees and clears the slot without the lock, and a thread may
pass its locked section in between. When a thread does so depends on responses
and on time; here it may at any time. `NULL` passed for a payload is no
payload. Every run of the session is a run of this system
(`session_simulated`).

Two things go wrong. Before `loc_eng_ni_init` the handler returns at once, and
nobody has the payload any more. And from its free to its clear the reset
leaves in the slot a payload that is freed already. This is so at every reset
that finds a request. It does harm only if a thread comes by just then: it
takes the freed payload for its message, which frees it again. `payload_run`
says it of both.

## Main definitions

* `Sys`, `Action`, `step`: The session cut at the reset's accesses.
* `places`: Where payloads are.
* `Accounted`: Every payload is in one place, at every moment.
* `Settled`: The same, with what a reset has freed no longer in the slot.
* `Prompt`, `Clear`: The conditions on steps.

## Theorems

* `session_simulated`: Runs of the session are runs of this system.
* `payload_run`: When payloads are accounted for.
-/

namespace Taoshan

namespace Ni

namespace Custody

open Run

/-- The payloads in the order in which they were passed. -/
abbrev Payload := Nat

/-- `ni_thread_proc`: before the end of its locked section, or past it with the
    message it has made. -/
inductive Thread
  | pending
  | unlocked (msg : Option Payload)
  deriving DecidableEq

/-- Where the deferred thread is in `loc_eng_ni_reset_on_engine_restart`. -/
inductive Reset
  | idle
  | tested
  | freed
  | cleared
  deriving DecidableEq

/-- The slot, the threads, the messages sent that are not deleted, and the calls
    of `free`. -/
structure Sys where
  niNotifyCb : Bool
  rawRequest : Option Payload
  threads : List Thread
  reset : Reset
  sent : List Payload
  freed : List Payload
  delivered : Nat

def fresh : Sys := ⟨false, none, [], .idle, [], [], 0⟩

inductive Action
  | init
  | request (passThrough created : Bool)
  | answer (i : Nat)
  | finish (i : Nat)
  | deleteMsg
  | restart
  | resetFree
  | resetClear
  | resetSignal
  deriving DecidableEq

/-- `loc_eng_ni_init`. -/
def niInit (s : Sys) : Sys :=
  if s.niNotifyCb then s else { s with rawRequest := none, niNotifyCb := true }

/-- `loc_eng_ni_request_handler`, with a payload or `NULL`. -/
def niRequestHandler (s : Sys) (passThrough created : Bool) : Sys :=
  let p := if passThrough then some s.delivered else none
  let s := if passThrough then { s with delivered := s.delivered + 1 } else s
  -- The payload is not looked at.
  if s.niNotifyCb = false then s
  else match s.rawRequest with
    | some _ => { s with freed := s.freed ++ p.toList }
    | none => { s with
        rawRequest := p
        threads := if created then s.threads ++ [.pending] else s.threads }

/-- The end of the locked section of `ni_thread_proc`. -/
def niThreadAnswer (s : Sys) (i : Nat) : Option Sys :=
  match s.threads[i]? with
  | some .pending => some { s with
      rawRequest := none
      threads := s.threads.set i (.unlocked s.rawRequest) }
  | _ => none

/-- `ni_thread_proc` after its unlock: the message is sent. -/
def niThreadFinish (s : Sys) (i : Nat) : Option Sys :=
  match s.threads[i]? with
  | some (.unlocked msg) => some { s with
      threads := s.threads.eraseIdx i
      sent := s.sent ++ msg.toList }
  | _ => none

/-- `delete msg`, with the destructor of `loc_eng_msg_inform_ni_response`. -/
def deleteMsg (s : Sys) : Option Sys :=
  match s.sent with
  | [] => none
  | p :: sent => some { s with sent := sent, freed := s.freed ++ [p] }

/-- `loc_eng_ni_reset_on_engine_restart` up to the first access of the slot. -/
def resetTest (s : Sys) : Sys :=
  if s.niNotifyCb = false then s
  else match s.rawRequest with
    | none => s
    | some _ => { s with reset := .tested }

def step (s : Sys) : Action → Option Sys
  | .init => some (niInit s)
  -- The deferred thread is not in the middle of a reset.
  | .request passThrough created =>
      if s.reset = .idle then some (niRequestHandler s passThrough created) else none
  | .answer i => niThreadAnswer s i
  | .finish i => niThreadFinish s i
  | .deleteMsg => if s.reset = .idle then deleteMsg s else none
  | .restart => if s.reset = .idle then some (resetTest s) else none
  | .resetFree =>
      -- The slot is read again, and `free` is given what is in it by now.
      if s.reset = .tested then
        some { s with reset := .freed, freed := s.freed ++ s.rawRequest.toList }
      else none
  | .resetClear =>
      if s.reset = .freed then some { s with reset := .cleared, rawRequest := none } else none
  | .resetSignal => if s.reset = .cleared then some { s with reset := .idle } else none

/-- The payload of the message a thread has made. -/
def Thread.owned : Thread → List Payload
  | .pending => []
  | .unlocked msg => msg.toList

/-- The payloads that messages own, not sent yet or not deleted yet. -/
def messages (s : Sys) : List Payload := s.threads.flatMap Thread.owned ++ s.sent

/-- Where payloads are: in the slot, freed, or with a message. -/
def places (s : Sys) : List Payload := s.rawRequest.toList ++ (s.freed ++ messages s)

/-- Where payloads are, the slot left out while it has what was freed. -/
def settledPlaces (s : Sys) : List Payload :=
  if s.reset = .freed then s.freed ++ messages s else places s

/-- Every payload that was passed is in one place, and there once. -/
def OneEach (s : Sys) (l : List Payload) : Prop :=
  ∀ p, l.count p = if p < s.delivered then 1 else 0

def Accounted (s : Sys) : Prop := OneEach s (places s)

def Settled (s : Sys) : Prop := OneEach s (settledPlaces s)

/-- No payload comes before the initialisation, and no reset frees one. -/
def Prompt (s : Sys) : Action → Prop
  | .request passThrough _ => passThrough = true → s.niNotifyCb = true
  | .resetFree => s.rawRequest = none
  | _ => True

/-- No payload comes before the initialisation, and no thread takes one that a
    reset has just freed. -/
def Clear (s : Sys) : Action → Prop
  | .request passThrough _ => passThrough = true → s.niNotifyCb = true
  | .answer _ => s.reset = .freed → s.rawRequest = none
  | _ => True

section Counting

/-- A thread that makes a message: the messages have one payload more. -/
theorem count_set {threads : List Thread} {i : Nat} (h : threads[i]? = some .pending)
    (msg : Option Payload) (p : Payload) :
    ((threads.set i (.unlocked msg)).flatMap Thread.owned).count p =
      (threads.flatMap Thread.owned).count p + msg.toList.count p := by
  induction threads generalizing i with
  | nil => cases h
  | cons u us ih =>
      cases i with
      | zero =>
          rw [List.getElem?_cons_zero, Option.some.injEq] at h
          subst h
          simp only [List.set_cons_zero, List.flatMap_cons, Thread.owned, List.count_append,
            List.count_nil]
          omega
      | succ i =>
          rw [List.getElem?_cons_succ] at h
          simp only [List.set_cons_succ, List.flatMap_cons, List.count_append, ih h]
          omega

/-- A thread that goes: its message is with nobody there. -/
theorem count_eraseIdx {threads : List Thread} {i : Nat} {msg : Option Payload}
    (h : threads[i]? = some (.unlocked msg)) (p : Payload) :
    ((threads.eraseIdx i).flatMap Thread.owned).count p + msg.toList.count p =
      (threads.flatMap Thread.owned).count p := by
  induction threads generalizing i with
  | nil => cases h
  | cons u us ih =>
      cases i with
      | zero =>
          rw [List.getElem?_cons_zero, Option.some.injEq] at h
          subst h
          simp only [List.eraseIdx_cons_zero, List.flatMap_cons, Thread.owned, List.count_append]
          omega
      | succ i =>
          rw [List.getElem?_cons_succ] at h
          simp only [List.eraseIdx_cons_succ, List.flatMap_cons, List.count_append, ← ih h]
          omega

/-- A thread that is made owns nothing. -/
theorem owned_created (threads : List Thread) (created : Bool) :
    (if created then threads ++ [.pending] else threads).flatMap Thread.owned =
      threads.flatMap Thread.owned := by
  cases created with
  | false => rfl
  | true =>
      simp only [if_true, List.flatMap_append, List.flatMap_cons, Thread.owned, List.flatMap_nil,
        List.append_nil]

/-- The payload passed last is the one that was not there before. -/
theorem count_delivered (n p : Nat) :
    [n].count p + (if p < n then 1 else 0) = if p < n + 1 then 1 else 0 := by
  simp only [List.count_singleton, beq_iff_eq]
  by_cases heq : n = p
  · rw [if_pos heq, if_neg (by omega), if_pos (by omega)]
  · rw [if_neg heq, Nat.zero_add]
    by_cases hlt : p < n
    · rw [if_pos hlt, if_pos (by omega)]
    · rw [if_neg hlt, if_neg (by omega)]

/-- What is in one place is not in two. -/
theorem OneEach.not_twice {s : Sys} {l : List Payload} (h : OneEach s l) (p : Payload) :
    l.count p ≤ 1 := by
  rw [h p]
  split
  · exact Nat.le_refl 1
  · exact Nat.zero_le 1

end Counting

/-- Payloads that a step leaves where they are, or moves from place to place. -/
theorem OneEach.congr {s t : Sys} {l m : List Payload} (h : OneEach s l)
    (hdelivered : t.delivered = s.delivered) (hcount : ∀ p, m.count p = l.count p) :
    OneEach t m := by
  intro p
  rw [hcount p, hdelivered]
  exact h p

/-- What the handler leaves as it is, and how many payloads it has been passed. -/
theorem request_fields (s : Sys) (passThrough created : Bool) :
    (niRequestHandler s passThrough created).reset = s.reset ∧
      (niRequestHandler s passThrough created).niNotifyCb = s.niNotifyCb ∧
      (niRequestHandler s passThrough created).delivered =
        s.delivered + (if passThrough then 1 else 0) ∧
      (s.niNotifyCb = false →
        (niRequestHandler s passThrough created).rawRequest = s.rawRequest) := by
  unfold niRequestHandler
  cases passThrough with
  | true =>
      simp only [if_true]
      split
      · exact ⟨rfl, rfl, rfl, fun _ => rfl⟩
      · next hon =>
          split
          · exact ⟨rfl, rfl, rfl, fun _ => rfl⟩
          · exact ⟨rfl, rfl, rfl, fun hoff => absurd hoff hon⟩
  | false =>
      simp only [Bool.false_eq_true, if_false]
      split
      · exact ⟨rfl, rfl, rfl, fun _ => rfl⟩
      · next hon =>
          split
          · exact ⟨rfl, rfl, rfl, fun _ => rfl⟩
          · exact ⟨rfl, rfl, rfl, fun hoff => absurd hoff hon⟩

/-- The handler puts a payload into one of its places, once there is somebody to
    notify. -/
theorem count_request {s : Sys} {passThrough : Bool}
    (hon : passThrough = true → s.niNotifyCb = true) (created : Bool) (p : Payload) :
    (places (niRequestHandler s passThrough created)).count p =
      (places s).count p + (if passThrough then [s.delivered].count p else 0) := by
  cases passThrough with
  | false =>
      unfold niRequestHandler
      simp only [Bool.false_eq_true, if_false]
      split
      · rfl
      · split
        · simp only [Option.toList_none, List.append_nil, Nat.add_zero]
        · next hempty =>
            simp only [places, messages, owned_created, hempty, Nat.add_zero]
  | true =>
      unfold niRequestHandler
      simp only [if_true, hon rfl, Bool.true_eq_false, if_false]
      split
      · next q hq =>
          simp only [places, messages, hq, Option.toList_some, List.count_append]
          omega
      · next hempty =>
          simp only [places, messages, owned_created, hempty, Option.toList_some,
            Option.toList_none, List.count_append, List.count_nil]
          omega

theorem oneEach_request {s : Sys} {passThrough : Bool} (h : OneEach s (places s))
    (hon : passThrough = true → s.niNotifyCb = true) (created : Bool) :
    OneEach (niRequestHandler s passThrough created)
      (places (niRequestHandler s passThrough created)) := by
  intro p
  rw [count_request hon created p, h p, (request_fields s passThrough created).2.2.1]
  cases passThrough with
  | true => exact (Nat.add_comm _ _).trans (count_delivered s.delivered p)
  | false => rfl

/-- A payload passed before the initialisation is nowhere. -/
theorem lost_request {s : Sys} {created : Bool} (hoff : s.niNotifyCb = false)
    {l : List Payload} (hl : OneEach (niRequestHandler s true created) l)
    (hs : OneEach s l) : False := by
  have hafter := hl s.delivered
  have hbefore := hs s.delivered
  simp only [niRequestHandler, if_true, hoff] at hafter
  rw [hafter, if_pos (Nat.lt_succ_self _), if_neg (Nat.lt_irrefl _)] at hbefore
  exact Nat.one_ne_zero hbefore

/-- A thread that takes what is in the slot for its message. -/
theorem count_answer {s t : Sys} {i : Nat} (h : niThreadAnswer s i = some t) (p : Payload) :
    t.rawRequest = none ∧ t.freed = s.freed ∧ t.reset = s.reset ∧ t.niNotifyCb = s.niNotifyCb ∧
      t.delivered = s.delivered ∧
      (messages t).count p = (messages s).count p + s.rawRequest.toList.count p := by
  unfold niThreadAnswer at h
  split at h
  · next hi =>
      rw [Option.some.injEq] at h
      subst h
      refine ⟨rfl, rfl, rfl, rfl, rfl, ?_⟩
      simp only [messages, List.count_append, count_set hi]
      omega
  · cases h

/-- A message that is sent. -/
theorem count_finish {s t : Sys} {i : Nat} (h : niThreadFinish s i = some t) (p : Payload) :
    t.rawRequest = s.rawRequest ∧ t.freed = s.freed ∧ t.reset = s.reset ∧
      t.niNotifyCb = s.niNotifyCb ∧ t.delivered = s.delivered ∧
      (messages t).count p = (messages s).count p := by
  unfold niThreadFinish at h
  split at h
  · next msg hi =>
      rw [Option.some.injEq] at h
      subst h
      refine ⟨rfl, rfl, rfl, rfl, rfl, ?_⟩
      simp only [messages, List.count_append, ← count_eraseIdx hi p]
      omega
  · cases h

/-- A message that is deleted. -/
theorem count_deleteMsg {s t : Sys} (h : deleteMsg s = some t) (p : Payload) :
    t.rawRequest = s.rawRequest ∧ t.reset = s.reset ∧ t.niNotifyCb = s.niNotifyCb ∧
      t.delivered = s.delivered ∧
      (t.freed ++ messages t).count p = (s.freed ++ messages s).count p := by
  unfold deleteMsg at h
  split at h
  · cases h
  · next q sent hsent =>
      rw [Option.some.injEq] at h
      subst h
      refine ⟨rfl, rfl, rfl, rfl, ?_⟩
      simp only [messages, hsent, List.count_append, List.count_cons, List.count_nil]
      omega

/-- Without somebody to notify there is no request and no reset. -/
structure Idle (s : Sys) : Prop where
  slot : s.rawRequest = none
  reset : s.reset = .idle

/-- The invariant of the runs in which payloads are settled. -/
structure SettledInv (s : Sys) : Prop where
  settled : Settled s
  uninit : s.niNotifyCb = false → Idle s

theorem settledInv_fresh : SettledInv fresh := by
  refine ⟨fun p => ?_, fun _ => ⟨rfl, rfl⟩⟩
  change 0 = if p < 0 then 1 else 0
  rw [if_neg (Nat.not_lt_zero p)]

theorem settledPlaces_of_ne {s : Sys} (h : s.reset ≠ .freed) :
    settledPlaces s = places s := if_neg h

theorem settledPlaces_of_freed {s : Sys} (h : s.reset = .freed) :
    settledPlaces s = s.freed ++ messages s := if_pos h

theorem count_places (s : Sys) (p : Payload) :
    (places s).count p = s.rawRequest.toList.count p + (s.freed ++ messages s).count p :=
  List.count_append

theorem count_settledPlaces (s : Sys) (p : Payload) :
    (settledPlaces s).count p =
      (if s.reset = .freed then 0 else s.rawRequest.toList.count p) +
        (s.freed ++ messages s).count p := by
  by_cases h : s.reset = .freed
  · rw [settledPlaces_of_freed h, if_pos h, Nat.zero_add]
  · rw [settledPlaces_of_ne h, if_neg h, count_places]

/-- A reset under way is one of a session that has somebody to notify. -/
theorem SettledInv.notifies {s : Sys} (h : SettledInv s) (hreset : s.reset ≠ .idle) :
    s.niNotifyCb ≠ false := fun hoff => hreset (h.uninit hoff).reset

/-- A step that loses no payload and lets no thread take a freed one. -/
theorem settledInv_step {s t : Sys} {a : Action} (h : SettledInv s) (hg : Clear s a)
    (hstep : step s a = some t) : SettledInv t := by
  cases a with
  | init =>
      simp only [step, niInit, Option.some.injEq] at hstep
      split at hstep
      · rw [← hstep]
        exact h
      · next hoff =>
          rw [Bool.not_eq_true] at hoff
          -- There has been no request before the first initialisation.
          rcases h.uninit hoff with ⟨hslot, hreset⟩
          subst hstep
          refine ⟨h.settled.congr rfl (fun p => ?_), fun hon => absurd hon nofun⟩
          rw [count_settledPlaces, count_settledPlaces, hslot]
          rfl
  | request passThrough created =>
      simp only [step, Option.ite_none_right_eq_some, Option.some.injEq] at hstep
      rcases hstep with ⟨hidle, rfl⟩
      rcases request_fields s passThrough created with ⟨hreset, hcb, _, hslot⟩
      have hidle' := hreset.trans hidle
      have hne : s.reset ≠ .freed := by rw [hidle]; decide
      have hne' : (niRequestHandler s passThrough created).reset ≠ .freed := by rw [hidle']; decide
      have hs := h.settled
      unfold Settled at hs
      rw [settledPlaces_of_ne hne] at hs
      refine ⟨?_, fun hoff => ?_⟩
      · unfold Settled
        rw [settledPlaces_of_ne hne']
        exact oneEach_request hs hg created
      · rw [hcb] at hoff
        exact ⟨(hslot hoff).trans (h.uninit hoff).slot, hidle'⟩
  | answer i =>
      have hcount := count_answer hstep
      rcases hcount 0 with ⟨hslot, hfreed, hreset, hcb, hdelivered, _⟩
      refine ⟨h.settled.congr hdelivered (fun p => ?_), fun hoff => ?_⟩
      · rw [count_settledPlaces, count_settledPlaces, hslot, hreset, List.count_append,
          List.count_append, hfreed, (hcount p).2.2.2.2.2]
        -- Between the free and the clear the slot does not count, and is empty by the
        -- guard.
        by_cases hwindow : s.reset = .freed
        · rw [if_pos hwindow, if_pos hwindow, hg hwindow]
          simp only [Option.toList_none, List.count_nil]
          omega
        · rw [if_neg hwindow, if_neg hwindow]
          simp only [Option.toList_none, List.count_nil]
          omega
      · exact ⟨hslot, hreset.trans (h.uninit (hcb.symm.trans hoff)).reset⟩
  | finish i =>
      have hcount := count_finish hstep
      rcases hcount 0 with ⟨hslot, hfreed, hreset, hcb, hdelivered, _⟩
      refine ⟨h.settled.congr hdelivered (fun p => ?_), fun hoff => ?_⟩
      · rw [count_settledPlaces, count_settledPlaces, hslot, hreset, List.count_append,
          List.count_append, hfreed, (hcount p).2.2.2.2.2]
      · have hs := h.uninit (hcb.symm.trans hoff)
        exact ⟨hslot.trans hs.slot, hreset.trans hs.reset⟩
  | deleteMsg =>
      simp only [step, Option.ite_none_right_eq_some] at hstep
      have hcount := count_deleteMsg hstep.2
      rcases hcount 0 with ⟨hslot, hreset, hcb, hdelivered, _⟩
      refine ⟨h.settled.congr hdelivered (fun p => ?_), fun hoff => ?_⟩
      · rw [count_settledPlaces, count_settledPlaces, hslot, hreset, (hcount p).2.2.2.2]
      · have hs := h.uninit (hcb.symm.trans hoff)
        exact ⟨hslot.trans hs.slot, hreset.trans hs.reset⟩
  | restart =>
      simp only [step, Option.ite_none_right_eq_some, Option.some.injEq] at hstep
      rcases hstep with ⟨hidle, rfl⟩
      unfold resetTest
      split
      · exact h
      · next hon =>
          split
          · exact h
          · refine ⟨h.settled.congr rfl (fun p => ?_), fun hoff => absurd hoff hon⟩
            rw [count_settledPlaces, count_settledPlaces, if_neg nofun,
              if_neg (by rw [hidle]; decide)]
            rfl
  | resetFree =>
      simp only [step, Option.ite_none_right_eq_some, Option.some.injEq] at hstep
      rcases hstep with ⟨htested, rfl⟩
      have hon := h.notifies (by rw [htested]; decide)
      refine ⟨h.settled.congr rfl (fun p => ?_), fun hoff => absurd hoff hon⟩
      -- The payload is freed, and the slot no longer counts.
      rw [count_settledPlaces, count_settledPlaces, if_pos rfl,
        if_neg (by rw [htested]; decide)]
      simp only [messages, List.count_append]
      omega
  | resetClear =>
      simp only [step, Option.ite_none_right_eq_some, Option.some.injEq] at hstep
      rcases hstep with ⟨hfreed, rfl⟩
      have hon := h.notifies (by rw [hfreed]; decide)
      refine ⟨h.settled.congr rfl (fun p => ?_), fun hoff => absurd hoff hon⟩
      -- What is cleared has not counted since it was freed.
      rw [count_settledPlaces, count_settledPlaces, if_neg nofun, if_pos hfreed]
      rfl
  | resetSignal =>
      simp only [step, Option.ite_none_right_eq_some, Option.some.injEq] at hstep
      rcases hstep with ⟨hcleared, rfl⟩
      have hon := h.notifies (by rw [hcleared]; decide)
      refine ⟨h.settled.congr rfl (fun p => ?_), fun hoff => absurd hoff hon⟩
      rw [count_settledPlaces, count_settledPlaces, if_neg nofun,
        if_neg (by rw [hcleared]; decide)]
      rfl

/-- A payload that was freed and is with a message is in two places. -/
theorem clear_of_settled {s t : Sys} {a : Action} (h : SettledInv s) (hstep : step s a = some t)
    (ht : Settled t) : Clear s a := by
  cases a with
  | request passThrough created =>
      simp only [step, Option.ite_none_right_eq_some, Option.some.injEq] at hstep
      rcases hstep with ⟨_, rfl⟩
      intro hpass
      subst hpass
      by_contra hoff
      rw [Bool.not_eq_true] at hoff
      have hsame : settledPlaces (niRequestHandler s true created) = settledPlaces s := by
        simp only [niRequestHandler, if_true, hoff]
        rfl
      unfold Settled at ht
      rw [hsame] at ht
      exact lost_request hoff ht h.settled
  | answer i =>
      intro hwindow
      cases hslot : s.rawRequest with
      | none => rfl
      | some p =>
          -- It has been freed, and the thread has taken it for its message.
          rcases count_answer hstep p with ⟨_, hfreed, hreset, _, hdelivered, hmessages⟩
          have hafter := ht p
          have hbefore := h.settled p
          rw [count_settledPlaces, if_pos (hreset.trans hwindow), List.count_append, hmessages,
            hfreed, hdelivered, hslot] at hafter
          rw [count_settledPlaces, if_pos hwindow, List.count_append] at hbefore
          simp only [Option.toList_some, List.count_singleton_self] at hafter
          omega
  | _ => trivial

/-- The invariant of the runs in which payloads are accounted for. -/
structure AccountedInv (s : Sys) : Prop where
  accounted : Accounted s
  uninit : s.niNotifyCb = false → Idle s
  window : s.reset = .freed → s.rawRequest = none

theorem AccountedInv.settled {s : Sys} (h : AccountedInv s) : SettledInv s := by
  refine ⟨h.accounted.congr rfl (fun p => ?_), h.uninit⟩
  rw [count_settledPlaces, count_places]
  by_cases hwindow : s.reset = .freed
  · rw [if_pos hwindow, h.window hwindow]
    rfl
  · rw [if_neg hwindow]

theorem SettledInv.accounted {s : Sys} (h : SettledInv s)
    (hwindow : s.reset = .freed → s.rawRequest = none) : AccountedInv s := by
  refine ⟨h.settled.congr rfl (fun p => ?_), h.uninit, hwindow⟩
  rw [count_settledPlaces, count_places]
  by_cases hfreed : s.reset = .freed
  · rw [if_pos hfreed, hwindow hfreed]
    rfl
  · rw [if_neg hfreed]

theorem accountedInv_fresh : AccountedInv fresh := settledInv_fresh.accounted nofun

/-- A step that loses no payload and frees none in the slot. -/
theorem accountedInv_step {s t : Sys} {a : Action} (h : AccountedInv s) (hg : Prompt s a)
    (hstep : step s a = some t) : AccountedInv t := by
  have hclear : Clear s a := by
    cases a with
    | request passThrough created => exact hg
    | answer i => exact h.window
    | _ => trivial
  refine (settledInv_step h.settled hclear hstep).accounted (fun hwindow => ?_)
  cases a with
  | init =>
      simp only [step, niInit, Option.some.injEq] at hstep
      split at hstep
      · rw [← hstep] at hwindow ⊢
        exact h.window hwindow
      · rw [← hstep]
  | request passThrough created =>
      simp only [step, Option.ite_none_right_eq_some, Option.some.injEq] at hstep
      rcases hstep with ⟨hidle, rfl⟩
      rw [(request_fields s _ _).1, hidle] at hwindow
      cases hwindow
  | answer i => exact (count_answer hstep 0).1
  | finish i =>
      rcases count_finish hstep 0 with ⟨hslot, _, hreset, _⟩
      rw [hslot]
      exact h.window (hreset.symm.trans hwindow)
  | deleteMsg =>
      simp only [step, Option.ite_none_right_eq_some] at hstep
      rcases count_deleteMsg hstep.2 0 with ⟨_, hreset, _⟩
      rw [hreset, hstep.1] at hwindow
      cases hwindow
  | restart =>
      simp only [step, Option.ite_none_right_eq_some, Option.some.injEq] at hstep
      rcases hstep with ⟨hidle, rfl⟩
      unfold resetTest at hwindow
      split at hwindow
      · rw [hidle] at hwindow
        cases hwindow
      · split at hwindow
        · rw [hidle] at hwindow
          cases hwindow
        · cases hwindow
  | resetFree =>
      simp only [step, Option.ite_none_right_eq_some, Option.some.injEq] at hstep
      rcases hstep with ⟨_, rfl⟩
      exact hg
  | resetClear =>
      simp only [step, Option.ite_none_right_eq_some, Option.some.injEq] at hstep
      rcases hstep with ⟨_, rfl⟩
      rfl
  | resetSignal =>
      simp only [step, Option.ite_none_right_eq_some, Option.some.injEq] at hstep
      rcases hstep with ⟨_, rfl⟩
      cases hwindow

/-- A payload that a reset frees in the slot is in two places. -/
theorem prompt_of_accounted {s t : Sys} {a : Action} (h : AccountedInv s)
    (hstep : step s a = some t) (ht : Accounted t) : Prompt s a := by
  cases a with
  | request passThrough created =>
      simp only [step, Option.ite_none_right_eq_some, Option.some.injEq] at hstep
      rcases hstep with ⟨_, rfl⟩
      intro hpass
      subst hpass
      by_contra hoff
      rw [Bool.not_eq_true] at hoff
      have hsame : places (niRequestHandler s true created) = places s := by
        simp only [niRequestHandler, if_true, hoff]
        rfl
      unfold Accounted at ht
      rw [hsame] at ht
      exact lost_request hoff ht h.accounted
  | resetFree =>
      simp only [step, Option.ite_none_right_eq_some, Option.some.injEq] at hstep
      rcases hstep with ⟨_, rfl⟩
      change s.rawRequest = none
      cases hslot : s.rawRequest with
      | none => rfl
      | some p =>
          have htwice := ht.not_twice p
          rw [hslot] at htwice
          simp only [places, Option.toList_some, List.count_append,
            List.count_singleton_self] at htwice
          omega
  | _ => trivial

/-- In a run, every payload is at every moment in the slot, freed or with a
    message, in one place only and there once, exactly if no payload comes
    before the initialisation and no reset frees one in the slot. Leaving out
    what the slot still has when a reset has freed it, the same holds exactly
    if no payload comes before the initialisation and no thread passes its
    locked section between the free and the clear. -/
theorem payload_run (as : List Action) :
    (Throughout step Accounted fresh as ↔ Guarded step Prompt fresh as) ∧
      (Throughout step Settled fresh as ↔ Guarded step Clear fresh as) :=
  ⟨throughout_iff_guarded AccountedInv (fun _ h => h.accounted)
      (fun _ _ _ hs hg hstep => accountedInv_step hs hg hstep)
      (fun _ _ _ hs hstep ht => prompt_of_accounted hs hstep ht) accountedInv_fresh,
    throughout_iff_guarded SettledInv (fun _ h => h.settled)
      (fun _ _ _ hs hg hstep => settledInv_step hs hg hstep)
      (fun _ _ _ hs hstep ht => clear_of_settled hs hstep ht) settledInv_fresh⟩

/-- A payload that comes too early. -/
def early : List Action := [.request true true]

/-- A thread that passes its locked section in the middle of a reset. -/
def interleaved : List Action :=
  [.init, .request true true, .restart, .resetFree, .answer 0, .resetClear, .resetSignal,
    .finish 0, .deleteMsg]

/-- The first payload is nowhere, and the second is freed twice. -/
theorem early_interleaved_not_accounted :
    (∃ s, exec step fresh early = some s ∧ places s = [] ∧ ¬ Accounted s) ∧
      ∃ s, exec step fresh interleaved = some s ∧ s.freed = [0, 0] ∧ ¬ Accounted s :=
  ⟨⟨(exec step fresh early).get rfl, (Option.some_get _).symm, rfl,
      fun h => absurd (h 0) (by decide)⟩,
    ⟨(exec step fresh interleaved).get rfl, (Option.some_get _).symm, rfl,
      fun h => absurd (h 0) (by decide)⟩⟩

section Simulation

/-- A thread of the session, with no more of its message than whether there is
    one. -/
def shapeOf : NiThread → Option Bool
  | .created => none
  | .waiting _ => none
  | .unlocked msg => some msg.isSome

def Thread.shape : Thread → Option Bool
  | .pending => none
  | .unlocked msg => some msg.isSome

/-- A state of the session and one of this system agree on what payloads depend
    on. -/
structure Agrees (s : Ni.Sys) (p : Sys) : Prop where
  niNotifyCb : p.niNotifyCb = s.niNotifyCb
  slot : p.rawRequest.isSome = s.rawRequest.isSome
  threads : p.threads.map Thread.shape = s.threads.map shapeOf
  idle : p.reset = .idle

theorem shapeOf_pending {u : NiThread} (h : u.Pending) : shapeOf u = none := by
  cases u with
  | created => rfl
  | waiting e => rfl
  | unlocked msg => exact absurd h not_false

theorem shape_pending {u : Thread} (h : u.shape = none) : u = .pending := by
  cases u with
  | pending => rfl
  | unlocked msg => cases h

/-- The thread of this system at the place of one of the session. -/
theorem Agrees.thread {s : Ni.Sys} {p : Sys} (h : Agrees s p) {i : Nat} {u : NiThread}
    (hi : s.threads[i]? = some u) : ∃ v, p.threads[i]? = some v ∧ v.shape = shapeOf u := by
  have hmap : (p.threads.map Thread.shape)[i]? = some (shapeOf u) := by
    rw [h.threads, List.getElem?_map, hi]
    rfl
  rw [List.getElem?_map, Option.map_eq_some_iff] at hmap
  exact hmap

/-- A quiet step changes no shape. -/
theorem shapes_quiet {s t : Ni.Sys} (h : Quiet s t) :
    t.threads.map shapeOf = s.threads.map shapeOf := by
  rcases h.threads with heq | ⟨i, e, hi, heq⟩
  · rw [heq]
  · rcases List.getElem?_eq_some_iff.mp hi with ⟨hlt, hget⟩
    have hsame : shapeOf (.waiting e) = shapeOf s.threads[i] := by rw [hget]; rfl
    rw [heq, List.map_set, hsame, ← List.map_set, List.set_getElem_self]

/-- A step of the session is some steps of this system. -/
theorem agrees_step {s t : Ni.Sys} {a : Ni.Action} {p : Sys} (h : Agrees s p)
    (hstep : Ni.step s a = some t) : ∃ as q, exec step p as = some q ∧ Agrees t q := by
  cases step_change hstep with
  | quiet same =>
      exact ⟨[], p, rfl, h.niNotifyCb.trans same.niNotifyCb.symm, by rw [same.rawRequest, h.slot],
        by rw [h.threads, shapes_quiet same], h.idle⟩
  | inited off on slot id notified threads =>
      have hoff : ¬ p.niNotifyCb = true := by
        rw [h.niNotifyCb, off]
        decide
      refine ⟨[.init], { p with rawRequest := none, niNotifyCb := true }, ?_, on.symm, ?_, ?_,
        h.idle⟩
      · simp only [exec, step, niInit, if_neg hoff]
      · rw [slot]
        rfl
      · rw [threads]
        exact h.threads
  | accepted notifyFlags timeout created r action on empty still slot serial id same notified
      threads =>
      have hempty : p.rawRequest = none := by
        rw [← Option.not_isSome_iff_eq_none, h.slot, empty]
        decide
      have hon : p.niNotifyCb = true := h.niNotifyCb.trans on
      refine ⟨[.request true created], niRequestHandler p true created, ?_, ?_, ?_, ?_, ?_⟩
      · simp only [exec, step, h.idle, if_true]
      · simp only [niRequestHandler, if_true, hon, Bool.true_eq_false, if_false, hempty, still]
      · simp only [niRequestHandler, if_true, hon, Bool.true_eq_false, if_false, hempty, slot,
          Option.isSome_some]
      · simp only [niRequestHandler, if_true, hon, Bool.true_eq_false, if_false, hempty, threads]
        cases created with
        | true =>
            simp only [if_true, List.map_append, h.threads, List.map_cons, List.map_nil]
            rfl
        | false => exact h.threads
      · exact (request_fields p _ _).1.trans h.idle
  | answered i u msg thread pending taken niNotifyCb slot id notified threads =>
      -- The thread here takes what is in the slot here.
      rcases h.thread thread with ⟨v, hv, hshape⟩
      rw [shapeOf_pending pending] at hshape
      rw [shape_pending hshape] at hv
      refine ⟨[.answer i], { p with
        rawRequest := none
        threads := p.threads.set i (.unlocked p.rawRequest) }, ?_, ?_, ?_, ?_, h.idle⟩
      · simp only [exec, step, niThreadAnswer, hv]
      · exact h.niNotifyCb.trans niNotifyCb.symm
      · rw [slot]
        rfl
      · rw [threads, List.map_set, List.map_set, h.threads]
        simp only [Thread.shape, shapeOf, h.slot, taken]
  | finished i msg action thread niNotifyCb slot id notified threads =>
      rcases h.thread thread with ⟨v, hv, hshape⟩
      cases v with
      | pending => cases hshape
      | unlocked m =>
          refine ⟨[.finish i], { p with
            threads := p.threads.eraseIdx i
            sent := p.sent ++ m.toList }, ?_, ?_, ?_, ?_, h.idle⟩
          · simp only [exec, step, niThreadFinish, hv]
          · exact h.niNotifyCb.trans niNotifyCb.symm
          · rw [slot]
            exact h.slot
          · change (p.threads.eraseIdx i).map Thread.shape = t.threads.map shapeOf
            rw [threads, ← List.eraseIdx_map, ← List.eraseIdx_map, h.threads]
  | cleared on full niNotifyCb slot id notified threads =>
      have hfull : p.rawRequest.isSome := by rw [h.slot, full]
      rcases Option.isSome_iff_exists.mp hfull with ⟨x, hx⟩
      have hon : p.niNotifyCb = true := h.niNotifyCb.trans on
      -- One step of the session is the four of a reset.
      refine ⟨[.restart, .resetFree, .resetClear, .resetSignal], { p with
        reset := .idle
        freed := p.freed ++ p.rawRequest.toList
        rawRequest := none }, ?_, ?_, ?_, ?_, rfl⟩
      · simp only [exec, step, h.idle, if_true, resetTest, hon, Bool.true_eq_false, if_false, hx]
      · exact h.niNotifyCb.trans niNotifyCb.symm
      · rw [slot]
        rfl
      · rw [threads]
        exact h.threads

/-- Every run of the session is a run of this system. -/
theorem session_simulated {as : List Ni.Action} : ∀ {s t : Ni.Sys} {p : Sys}, Agrees s p →
    exec Ni.step s as = some t → ∃ bs q, exec step p bs = some q ∧ Agrees t q := by
  induction as with
  | nil =>
      intro s t p h ht
      rw [exec_nil, Option.some.injEq] at ht
      exact ⟨[], p, rfl, ht ▸ h⟩
  | cons a as ih =>
      intro s t p h ht
      rcases exec_cons_inv ht with ⟨u, hu, hrest⟩
      rcases agrees_step h hu with ⟨bs, q, hq, hagrees⟩
      rcases ih hagrees hrest with ⟨cs, r, hr, hend⟩
      exact ⟨bs ++ cs, r, (exec_append cs hq).trans hr, hend⟩

end Simulation

end Custody

end Ni

end Taoshan

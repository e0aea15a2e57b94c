import Taoshan.Utils.MsgQ

/-!
# Wake-ups of the Message Queue

No message sits beside a sleeping receiver, and an unblocked queue stays so.

A send wakes one receiver, but a receiver that was never asleep may take the
message before the woken one has the mutex, and a woken receiver that finds
nothing goes back to sleep. So there is no receiver for each message; what
holds is a count. While anyone sleeps, the queued messages are no more than the
receivers that were woken and have not run (`Awake.woken`). A send adds to both
sides, a woken receiver that runs takes from both or finds nothing, and all
other sections only lower the left side or raise the right one.

A queue is unblocked for good, and its broadcast leaves nobody asleep. Later
sends and receives are turned away before they look at the list.

## Main definitions

* `Awake`: The count, and who sleeps on an unblocked queue.

## Theorems

* `awake_snd`, `awake_rcvLoop`: A send and the wait loop keep it.
* `awake_step`: Every step keeps it.
* `msgQSnd_unblocked`, `rcvBegin_unblocked`: What an unblocked queue answers.
* `wakeups_run`: Every interleaving has it.
-/

namespace Taoshan

namespace Utils

/-- An unblocked queue takes no message. -/
theorem msgQSnd_unblocked {α δ : Type*} {q : MsgQ α δ} (h : q.unblocked = true)
    (malloc : Option Nat) (msgObj : Option α) (dealloc : Option δ) :
    ∃ rv, rv ≠ MsgQErr.success ∧ msgQSnd q malloc msgObj dealloc = some ⟨rv, false, q⟩ := by
  unfold msgQSnd
  cases msgObj with
  | none => exact ⟨.invalidParameter, nofun, rfl⟩
  | some data =>
      refine ⟨.unavailableResource, nofun, ?_⟩
      simp only [Option.isNone_some, Bool.false_eq_true, if_false, h, if_true]

/-- An unblocked queue gives no message to a receive that begins. -/
theorem rcvBegin_unblocked {α δ : Type*} {q : MsgQ α δ} (h : q.unblocked = true) :
    rcvBegin q = some (.returned .unavailableResource none q) := by
  unfold rcvBegin
  rw [if_pos h]

namespace Queue

open Run

variable {α δ : Type*}

/-- While a receiver sleeps, the queued messages `xs` are no more than the
    receivers woken that have not run. Nobody sleeps on an unblocked queue, and
    a queue is unblocked once a call said so. -/
structure Awake (s : Sys α δ) (xs : List (Nat × Item α δ)) : Prop where
  repr : Represents s.q.msgList xs
  woken : s.blocked ≠ [] → xs.length ≤ s.woken.length
  asleep : s.q.unblocked = true → s.blocked = []
  unblocked : Event.unblock .success ∈ s.hist → s.q.unblocked = true

theorem awake_init : Awake (init : Sys α δ) [] :=
  ⟨repr_init, fun h => absurd rfl h, fun _ => rfl, fun h => absurd h List.not_mem_nil⟩

/-- An event that does not say that the queue was unblocked says nothing new. -/
theorem unblock_mem_append {hist : List (Event α δ)} {e : Event α δ} (he : e ≠ .unblock .success)
    (h : Event.unblock .success ∈ hist ++ [e]) : Event.unblock .success ∈ hist := by
  rcases List.mem_append.mp h with h | h
  · exact h
  · exact absurd (List.mem_singleton.mp h).symm he

theorem sndEvent_ne_unblock (msgObj : Option α) (dealloc : Option δ) (rv : MsgQErr) :
    sndEvent msgObj dealloc rv ≠ .unblock .success := by
  cases msgObj with
  | none => exact nofun
  | some data => exact nofun

/-- A signal with sleepers about wakes one of them at least. -/
theorem wakeOk_length {blocked wake : List Nat} (h : wakeOk blocked wake true = true)
    (hne : blocked ≠ []) : 1 ≤ wake.length := by
  simp only [wakeOk, if_true, decide_eq_true_eq] at h
  rcases h.2.2 with hnil | hwake
  · exact absurd hnil hne
  · exact List.length_pos_iff.mpr hwake

/-- Only a send that failed early sends no signal. -/
theorem msgQSnd_signal {q : MsgQ α δ} {malloc : Option Nat} {msgObj : Option α}
    {dealloc : Option δ} {r : SndResult α δ} (h : msgQSnd q malloc msgObj dealloc = some r)
    (hrv : r.rv = .success) : r.signal = true := by
  unfold msgQSnd at h
  split at h
  · rw [Option.some.injEq] at h
    rw [← h] at hrv
    cases hrv
  · split at h
    · rw [Option.some.injEq] at h
      rw [← h] at hrv
      cases hrv
    · split at h
      · cases h
      · rw [Option.some.injEq] at h
        rw [← h]

/-- Whoever sleeps after a send slept before it. -/
theorem filter_ne_nil {blocked wake : List Nat} (h : blocked.filter (· ∉ wake) ≠ []) :
    blocked ≠ [] := by
  intro hnil
  rw [hnil] at h
  exact h rfl

/-- A send: a message more, and a receiver more that was woken. -/
theorem awake_snd {s : Sys α δ} {xs : List (Nat × Item α δ)} (h : Awake s xs)
    {malloc : Option Nat} (hm : mallocOk s.q.msgList malloc = true) {msgObj : Option α}
    {dealloc : Option δ} {wake : List Nat} {r : SndResult α δ}
    (hr : msgQSnd s.q malloc msgObj dealloc = some r)
    (hwake : wakeOk s.blocked wake r.signal = true) :
    ∃ xs', Awake (({ s with q := r.q
                            blocked := s.blocked.filter (· ∉ wake)
                            woken := s.woken ++ wake } : Sys α δ).log
      (sndEvent msgObj dealloc r.rv)) xs' := by
  rcases msgQSnd_spec h.repr hm msgObj dealloc with ⟨r', hr', hun, hcase⟩
  rw [hr, Option.some.injEq] at hr'
  subst hr'
  have hasleep : r.q.unblocked = true → s.blocked.filter (· ∉ wake) = [] := by
    intro hq
    rw [h.asleep (hun ▸ hq)]
    rfl
  have hsaid : Event.unblock .success ∈ s.hist ++ [sndEvent msgObj dealloc r.rv] →
      r.q.unblocked = true := by
    intro hin
    rw [hun]
    exact h.unblocked (unblock_mem_append (sndEvent_ne_unblock msgObj dealloc r.rv) hin)
  rcases hcase with ⟨hrv, data, a, _, hrepr⟩ | ⟨_, hrepr⟩
  · refine ⟨(a, ⟨data, dealloc⟩) :: xs, hrepr, fun hne => ?_, hasleep, hsaid⟩
    have hslept : s.blocked ≠ [] := filter_ne_nil hne
    have hone : 1 ≤ wake.length := by
      rw [msgQSnd_signal hr hrv] at hwake
      exact wakeOk_length hwake hslept
    have hbefore := h.woken hslept
    change xs.length + 1 ≤ (s.woken ++ wake).length
    rw [List.length_append]
    omega
  · refine ⟨xs, hrepr, fun hne => ?_, hasleep, hsaid⟩
    have hbefore := h.woken (filter_ne_nil hne)
    change xs.length ≤ (s.woken ++ wake).length
    rw [List.length_append]
    omega

/-- A section of a receive, from the test of its wait loop, where the count may
    be one short: the receiver that runs is no longer among the woken ones. -/
theorem awake_rcvLoop {s : Sys α δ} {xs : List (Nat × Item α δ)}
    (hrepr : Represents s.q.msgList xs) (hwoken : s.blocked ≠ [] → xs.length ≤ s.woken.length + 1)
    (hasleep : s.q.unblocked = true → s.blocked = [])
    (hun : Event.unblock .success ∈ s.hist → s.q.unblocked = true) (t : Nat) :
    ∃ xs', Awake (s.afterRcv t (rcvLoop s.q)) xs' := by
  have hsaid : ∀ {rv : MsgQErr} {msgObj : Option α},
      Event.unblock .success ∈ s.hist ++ [.rcv rv msgObj] → s.q.unblocked = true :=
    fun {rv msgObj} hin => hun (unblock_mem_append (e := .rcv rv msgObj) nofun hin)
  rcases rcvLoop_spec hrepr with ⟨rfl, hu, hr⟩ | ⟨rfl, hu, hr⟩ | ⟨ys, x, list, rfl, hlist, hr⟩
  · -- It goes to sleep on an empty queue that is not unblocked.
    rw [hr]
    exact ⟨[], hrepr, fun _ => Nat.zero_le _, fun hq => absurd (hu.symm.trans hq) nofun, hun⟩
  · rw [hr]
    exact ⟨[], hrepr, fun _ => Nat.zero_le _, hasleep, hsaid⟩
  · rw [hr]
    refine ⟨ys, hlist, fun hne => ?_, hasleep, hsaid⟩
    have hbefore := hwoken hne
    rw [List.length_append, List.length_singleton] at hbefore
    exact Nat.le_of_succ_le_succ hbefore

/-- Every critical section and every wake-up keeps the count. -/
theorem awake_step {s t : Sys α δ} {a : Action α δ} {xs : List (Nat × Item α δ)} (h : Awake s xs)
    (hstep : step s a = some t) : ∃ xs', Awake t xs' := by
  cases a with
  | snd malloc msgObj dealloc wake =>
      simp only [step] at hstep
      by_cases hm : mallocOk s.q.msgList malloc = true
      · rcases msgQSnd_spec h.repr hm msgObj dealloc with ⟨r, hr, _⟩
        rw [if_pos hm, hr] at hstep
        simp only [Option.ite_none_right_eq_some, Option.some.injEq] at hstep
        rcases hstep with ⟨hwake, rfl⟩
        exact awake_snd h hm hr hwake
      · rw [if_neg hm] at hstep
        cases hstep
  | rcv u =>
      simp only [step, Option.ite_none_left_eq_some, Option.some.injEq] at hstep
      rcases hstep with ⟨_, rfl⟩
      by_cases hu : s.q.unblocked = true
      · rw [rcvBegin_unblocked hu]
        have hrcv : Event.rcv (α := α) (δ := δ) .unavailableResource none ≠ .unblock .success :=
          nofun
        exact ⟨xs, h.repr, h.woken, h.asleep,
          fun hin => h.unblocked (unblock_mem_append hrcv hin)⟩
      · unfold rcvBegin
        rw [if_neg hu]
        exact awake_rcvLoop h.repr (fun hne => Nat.le_succ_of_le (h.woken hne)) h.asleep
          h.unblocked u
  | resume u =>
      simp only [step, Option.ite_none_right_eq_some, Option.some.injEq] at hstep
      rcases hstep with ⟨hu, rfl⟩
      -- One receiver fewer is woken and has not run, for it runs now.
      refine awake_rcvLoop (s := { s with woken := s.woken.erase u }) h.repr (fun hne => ?_)
        h.asleep h.unblocked u
      have hlen := List.length_erase_add_one hu
      have hbefore := h.woken hne
      change xs.length ≤ (s.woken.erase u).length + 1
      rw [hlen]
      exact hbefore
  | spurious u =>
      simp only [step, Option.ite_none_right_eq_some, Option.some.injEq] at hstep
      rcases hstep with ⟨hu, rfl⟩
      refine ⟨xs, h.repr, fun _ => ?_, fun hq => ?_, h.unblocked⟩
      · have hbefore := h.woken (List.ne_nil_of_mem hu)
        change xs.length ≤ (s.woken ++ [u]).length
        rw [List.length_append]
        exact Nat.le_add_right_of_le hbefore
      · -- There was nobody asleep to be woken.
        rw [h.asleep hq] at hu
        exact absurd hu List.not_mem_nil
  | flush =>
      rcases msgQFlush_spec h.repr with ⟨list, hlist, hflush⟩
      simp only [step, hflush, Option.some.injEq] at hstep
      rw [← hstep]
      exact ⟨[], hlist, fun _ => Nat.zero_le _, h.asleep,
        fun hin => h.unblocked (unblock_mem_append (e := .flush .success _) nofun hin)⟩
  | unblock =>
      simp only [step] at hstep
      by_cases hu : s.q.unblocked = true
      · have hr : msgQUnblock s.q = (.unavailableResource, s.q) := if_pos hu
        rw [hr, if_neg nofun, Option.some.injEq] at hstep
        rw [← hstep]
        exact ⟨xs, h.repr, h.woken, h.asleep, fun _ => hu⟩
      · have hr : msgQUnblock s.q = (.success, { s.q with unblocked := true }) := if_neg hu
        rw [hr, if_pos rfl, Option.some.injEq] at hstep
        rw [← hstep]
        exact ⟨xs, h.repr, fun hne => absurd rfl hne, fun _ => rfl, fun _ => rfl⟩

/-- In every interleaving of sends, receives, flushes and unblocks, with
    signals that wake more than one and wake-ups without a signal: while a
    receiver sleeps, the queued messages are no more than the receivers that
    were woken and have not run. And once the queue was unblocked nobody sleeps
    on it, no send changes it, and a receive that begins returns without a
    message. -/
theorem wakeups_run {acts : List (Action α δ)} {s : Sys α δ}
    (h : exec step init acts = some s) :
    (∃ xs, Represents s.q.msgList xs ∧ (s.blocked ≠ [] → xs.length ≤ s.woken.length)) ∧
      (Event.unblock .success ∈ s.hist →
        s.blocked = [] ∧
        (∀ malloc msgObj dealloc wake t, step s (.snd malloc msgObj dealloc wake) = some t →
          t.q = s.q ∧ ∃ rv, rv ≠ .success ∧ t.hist = s.hist ++ [sndEvent msgObj dealloc rv]) ∧
        ∀ u t, step s (.rcv u) = some t →
          t = s.log (.rcv .unavailableResource none)) := by
  have hawake : ∃ xs, Awake s xs :=
    exec_invariant (fun s => ∃ xs, Awake s xs)
      (fun _ _ _ ⟨_, hs⟩ hstep => awake_step hs hstep) ⟨[], awake_init⟩ h
  rcases hawake with ⟨xs, hs⟩
  refine ⟨⟨xs, hs.repr, hs.woken⟩, fun hsaid => ?_⟩
  have hu : s.q.unblocked = true := hs.unblocked hsaid
  refine ⟨hs.asleep hu, fun malloc msgObj dealloc wake t hstep => ?_, fun u t hstep => ?_⟩
  · rcases msgQSnd_unblocked hu malloc msgObj dealloc with ⟨rv, hrv, hr⟩
    simp only [step, hr, Option.ite_none_right_eq_some, Option.some.injEq] at hstep
    rcases hstep with ⟨_, _, rfl⟩
    exact ⟨rfl, rv, hrv, rfl⟩
  · simp only [step, rcvBegin_unblocked hu, Option.ite_none_left_eq_some,
      Option.some.injEq] at hstep
    exact hstep.2.symm

/-- Two receivers fall asleep; a message wakes one, a third receiver takes it
    first, and the queue is unblocked. -/
def overtaken : List (Action Nat Nat) :=
  [.rcv 0, .rcv 1, .snd (some 1) (some 10) none [0], .rcv 2, .resume 0, .unblock]

theorem wakeups_run_overtaken : ∃ s, exec step init overtaken = some s ∧
    Event.unblock .success ∈ s.hist ∧ s.blocked = [] := by
  refine ⟨(exec step init overtaken).get rfl, (Option.some_get _).symm, ?_, ?_⟩
  · exact List.mem_of_mem_getLast? rfl
  · exact ((wakeups_run (Option.some_get (x := exec step init overtaken) rfl).symm).2
      (List.mem_of_mem_getLast? rfl)).1

end Queue

end Utils

end Taoshan

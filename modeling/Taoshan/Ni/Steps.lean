import Taoshan.Ni.Session

/-!
# What a Step of the Session Changes

The steps of the NI session taken apart by what they do to the slot, the
threads and the id counter.

Ten actions come down to six changes, and most steps are `quiet`: they move a
thread into its wait, or touch only what says how and when a request is
answered. What is proved of slots, threads and ids is proved of the changes.

## Main definitions

* `Quiet`: A step that leaves slot, counter and number of threads alone.
* `Change`: What a step can do to them.

## Theorems

* `step_change`: Every step is one of the changes.
-/

namespace Taoshan

namespace Ni

/-- Slot, counter and notifications stay, and no thread comes, goes or passes
    its locked section. -/
structure Quiet (s t : Sys) : Prop where
  niNotifyCb : t.niNotifyCb = s.niNotifyCb
  rawRequest : t.rawRequest = s.rawRequest
  reqID : t.reqID = s.reqID
  notified : t.notified = s.notified
  threads : t.threads = s.threads ∨
    ∃ i e, s.threads[i]? = some .created ∧ t.threads = s.threads.set i (.waiting e)

/-- What a step does to the slot, the threads and the counter. -/
inductive Change (s : Sys) (a : Action) (t : Sys) : Prop
  | quiet (same : Quiet s t)
  | inited (off : s.niNotifyCb = false) (on : t.niNotifyCb = true) (slot : t.rawRequest = none)
      (id : t.reqID = 0) (notified : t.notified = s.notified) (threads : t.threads = s.threads)
  | accepted (notifyFlags timeout : Nat) (created : Bool) (r : Request)
      (action : a = .request notifyFlags timeout created) (on : s.niNotifyCb = true)
      (empty : s.rawRequest = none) (still : t.niNotifyCb = true) (slot : t.rawRequest = some r)
      (serial : r.serial = s.notified.length) (id : r.notificationId = s.reqID)
      (same : t.reqID = s.reqID) (notified : t.notified = s.notified ++ [r])
      (threads : t.threads = if created then s.threads ++ [.created] else s.threads)
  | answered (i : Nat) (u : NiThread) (msg : Option (Request × UserResponse))
      (thread : s.threads[i]? = some u) (pending : u.Pending)
      (taken : msg.isSome = s.rawRequest.isSome)
      (niNotifyCb : t.niNotifyCb = s.niNotifyCb) (slot : t.rawRequest = none)
      (id : t.reqID = s.reqID) (notified : t.notified = s.notified)
      (threads : t.threads = s.threads.set i (.unlocked msg))
  | finished (i : Nat) (msg : Option (Request × UserResponse)) (action : a = .finish i)
      (thread : s.threads[i]? = some (.unlocked msg)) (niNotifyCb : t.niNotifyCb = s.niNotifyCb)
      (slot : t.rawRequest = s.rawRequest) (id : t.reqID = s.reqID + 1)
      (notified : t.notified = s.notified) (threads : t.threads = s.threads.eraseIdx i)
  | cleared (on : s.niNotifyCb = true) (full : s.rawRequest.isSome)
      (niNotifyCb : t.niNotifyCb = s.niNotifyCb) (slot : t.rawRequest = none)
      (id : t.reqID = s.reqID) (notified : t.notified = s.notified)
      (threads : t.threads = s.threads)

theorem Quiet.refl (s : Sys) : Quiet s s := ⟨rfl, rfl, rfl, rfl, Or.inl rfl⟩

/-- The locked section of a thread that is waiting, or that need not wait. -/
theorem Change.ofAnswer {s s' : Sys} {a : Action} {i : Nat} {u : NiThread}
    (hthread : s.threads[i]? = some u) (hpending : u.Pending)
    (hsame : Quiet s s') (hthreads : s'.threads = s.threads) :
    Change s a (niThreadAnswer s' i) :=
  .answered i u (s'.rawRequest.map fun r => (r, s'.resp)) hthread hpending
    (by rw [Option.isSome_map, hsame.rawRequest]) hsame.niNotifyCb rfl hsame.reqID hsame.notified
    (by rw [← hthreads]; rfl)

/-- Every step is one of the changes. -/
theorem step_change {s t : Sys} {a : Action} (h : step s a = some t) : Change s a t := by
  cases a with
  | init notifyCb =>
      simp only [step, Option.some.injEq] at h
      rw [← h]
      unfold niInit
      split
      · exact .quiet (.refl s)
      · split
        · exact .quiet (.refl s)
        · next hoff => exact .inited (Bool.not_eq_true _ ▸ hoff) rfl rfl rfl rfl rfl
  | request notifyFlags timeout created =>
      simp only [step, Option.some.injEq] at h
      rw [← h]
      unfold niRequestHandler
      split
      · exact .quiet (.refl s)
      · next hon =>
          rw [Bool.not_eq_false] at hon
          split
          · exact .quiet (.refl s)
          · next hempty =>
              exact .accepted notifyFlags timeout created _ rfl hon hempty hon rfl rfl rfl rfl rfl
                rfl
  | respond notifId userResponse =>
      simp only [step, Option.some.injEq] at h
      rw [← h]
      exact .quiet ⟨rfl, rfl, rfl, rfl, Or.inl rfl⟩
  | commit i =>
      simp only [step, niRespondCommit] at h
      split at h
      · cases h
      · rw [Option.some.injEq] at h
        rw [← h]
        exact .quiet ⟨rfl, rfl, rfl, rfl, Or.inl rfl⟩
  | start i =>
      simp only [step, niThreadStart] at h
      split at h
      · next hi =>
          split at h
          · rw [Option.some.injEq] at h
            rw [← h]
            exact .ofAnswer hi trivial (.refl s) rfl
          · rw [Option.some.injEq] at h
            rw [← h]
            exact .quiet ⟨rfl, rfl, rfl, rfl, Or.inr ⟨i, _, hi, rfl⟩⟩
      · cases h
  | wake i =>
      simp only [step, niThreadWake] at h
      split at h
      · next hi =>
          split at h
          · rw [Option.some.injEq] at h
            rw [← h]
            exact .ofAnswer hi trivial (.refl s) rfl
          · rw [Option.some.injEq] at h
            rw [← h]
            exact .quiet (.refl s)
      · cases h
  | timedOut i =>
      simp only [step, niThreadTimedOut] at h
      split at h
      · next hi =>
          rw [Option.ite_none_right_eq_some, Option.some.injEq] at h
          rw [← h.2]
          exact .ofAnswer hi trivial ⟨rfl, rfl, rfl, rfl, Or.inl rfl⟩ rfl
      · cases h
  | finish i =>
      simp only [step, niThreadFinish] at h
      split at h
      · next msg hi =>
          rw [Option.some.injEq] at h
          rw [← h]
          exact .finished i msg rfl hi rfl rfl rfl rfl rfl
      · cases h
  | restart =>
      simp only [step, Option.some.injEq] at h
      rw [← h]
      unfold niResetOnEngineRestart
      split
      · exact .quiet (.refl s)
      · next hon =>
          split
          · exact .quiet (.refl s)
          · next hfull =>
              exact .cleared (Bool.not_eq_false _ ▸ hon) (by rw [hfull]; rfl) rfl rfl rfl rfl rfl
  | elapse d =>
      simp only [step, Option.some.injEq] at h
      rw [← h]
      exact .quiet ⟨rfl, rfl, rfl, rfl, Or.inl rfl⟩

/-- All threads still have their locked section before them. -/
def AllPending (threads : List NiThread) : Prop := ∀ u ∈ threads, u.Pending

/-- Where all threads are, a quiet step keeps. -/
theorem Quiet.allPending {s t : Sys} (h : Quiet s t) (hs : AllPending s.threads) :
    AllPending t.threads := by
  rcases h.threads with heq | ⟨i, e, _, heq⟩
  · rw [heq]
    exact hs
  · intro u hu
    rw [heq] at hu
    rcases List.mem_or_eq_of_mem_set hu with hu | rfl
    · exact hs u hu
    · exact trivial

theorem Quiet.length_threads {s t : Sys} (h : Quiet s t) : t.threads.length = s.threads.length := by
  rcases h.threads with heq | ⟨i, e, _, heq⟩
  · rw [heq]
  · rw [heq, List.length_set]

end Ni

end Taoshan

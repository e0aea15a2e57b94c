import Taoshan.Lib.Monitor
import Taoshan.Lib.Run

/-!
# Launching the Server Thread

`loc_eng_dmn_conn_launch_thelper` and the thread that it starts.

The two threads share the flags `thread_exit` and `thread_ready`. The launching
thread goes to sleep on a condition variable unless one of them is set, and
`thelper_signal_ready` wakes it. What it returns is `thread_exit`, read behind
the critical section. The started thread sets `thread_exit` outside the mutex.

Everything that holds the mutex is one step, and so is each access to a flag
outside it. A sleeping thread may also wake by itself. Nothing is asked of what
the procedures return. The initialisation of the mutex and of the condition
variable is taken to succeed, and no third thread touches the flags.

`thelper_signal_wait` tests the flags before it sleeps and not again after. A
thread that has woken by itself goes on as if it had been signalled; it reads a
`thread_exit` that nobody has set yet, and the launch succeeds. And a thread
that comes to the test when a failed `thread_proc_init` has set `thread_exit`,
but has not signalled yet, does not wait for the signal. Nothing else goes wrong
(`launch_waits_iff`).

## Main definitions

* `Procs`: Which of the function pointers are given.
* `Sys`, `Label`, `step`: The two threads, their steps, and what a step does.
* `Waits`: What has to come before a return.
* `Careful`: No step is one of the two that go wrong.
* `Stepped`: A step by its kinds, with what each needs.
* `Kept`: The invariant of careful steps.
* `Calm`, `Quiet`: Nothing unusual happens, and what calm steps keep.

## Theorems

* `helperStep_inv`, `step_inv`: What a step can do.
* `Kept.goto`, `Kept.goHelper`, `Kept.happen`, `Kept.exit`, `Kept.signal`,
  `Kept.wait`: What a step is made of keeps the invariant.
* `kept_step`: What every careful step keeps.
* `careful_of_waits`: A step that is not careful returns too early.
* `launch_waits_iff`: When the launch waits for its thread.
* `quiet_step`, `waits_of_calm`: It does if nobody wakes by himself and
  `thread_proc_init` does not fail.
-/

namespace Taoshan

namespace Conn

namespace Launch

/-- The arguments of `loc_eng_dmn_conn_launch_thelper` that may be NULL. -/
structure Procs where
  threadProcInit : Bool
  threadProcPre : Bool
  threadProc : Bool
  threadProcPost : Bool
  createThreadCb : Bool

/-- Where the launching thread is. -/
inductive Launcher
  | start
  | create
  | wait
  | asleep
  | woken (byItself : Bool)
  | waited
  | returned
  deriving DecidableEq

/-- Where the started thread is, by what it does next. -/
inductive Helper
  | none
  | init
  | initFailed
  | signalFailed
  | signal
  | pre
  | preFailed
  | proc
  | procFailed
  | test
  | post
  | ended
  deriving DecidableEq

/-- What can be seen of the two threads. `initDone` carries the `result` that
    `thelper_main` has behind `thread_proc_init`. -/
inductive Event
  | initDone (result : Int)
  | signalReady
  | waitReturned (result : Int)
  | launchReturned (result : Int)
  deriving DecidableEq

/-- The flags of `loc_eng_dmn_conn_thelper`, the threads, and what they did. -/
structure Sys where
  threadExit : Bool
  threadReady : Bool
  launcher : Launcher
  helper : Helper
  log : List Event
  deriving DecidableEq

/-- Before the launch, with what is in the flags. -/
def Sys.fresh (threadExit threadReady : Bool) : Sys := ⟨threadExit, threadReady, .start, .none, []⟩

/-- The steps. What `create_thread_cb` has really done cannot be seen from its
    result; `result` is that of the procedure that the thread calls, if it calls
    one. -/
inductive Label
  | signalInit
  | createThreadCb (started : Bool)
  | pthreadCreate (result : Int)
  | lock
  | wakeUp
  | relock
  | ret
  | helper (result : Int)
  deriving DecidableEq

/-- `thelper_signal_ready`: the flag, and the signal. -/
def signalReady (s : Sys) : Sys :=
  { s with
    threadReady := true
    launcher := if s.launcher = .asleep then .woken false else s.launcher
    log := s.log ++ [.signalReady] }

/-- The end of `thelper_signal_wait`. What `pthread_cond_wait` returns is 0. -/
def returnWait (s : Sys) : Sys :=
  { s with
    launcher := .waited
    log := s.log ++ [.waitReturned (if s.threadExit then -1 else 0)] }

/-- The next step of `thelper_main`. -/
def helperStep (p : Procs) (result : Int) (s : Sys) : Option Sys :=
  match s.helper with
  | .none => none
  | .init =>
      let result := if p.threadProcInit then result else 0
      some { s with
        helper := if result < 0 then .initFailed else .signal
        log := s.log ++ [.initDone result] }
  | .initFailed => some { s with threadExit := true, helper := .signalFailed }
  | .signalFailed => some (signalReady { s with helper := .ended })
  | .signal => some (signalReady { s with helper := .pre })
  | .pre => some { s with helper := if p.threadProcPre && result < 0 then .preFailed else .proc }
  | .preFailed => some { s with threadExit := true, helper := .ended }
  | .proc => some { s with helper := if p.threadProc && result < 0 then .procFailed else .test }
  | .procFailed => some { s with threadExit := true, helper := .test }
  | .test => some { s with helper := if s.threadExit then .post else .proc }
  -- `thread_proc_post` is called or not; its result is not used.
  | .post => some { s with helper := .ended }
  | .ended => none

/-- One step of one of the threads, or `none` if it cannot be taken. -/
def step (p : Procs) (s : Sys) : Label → Option Sys
  | .signalInit =>
      if s.launcher = .start then
        some { s with threadExit := false, threadReady := false, launcher := .create }
      else none
  | .createThreadCb started =>
      if s.launcher = .create ∧ p.createThreadCb then
        some { s with launcher := .wait, helper := if started then .init else .none }
      else none
  | .pthreadCreate result =>
      if s.launcher = .create ∧ ¬ p.createThreadCb then
        if result ≠ 0 then
          some { s with launcher := .returned, log := s.log ++ [.launchReturned (-1)] }
        else some { s with launcher := .wait, helper := .init }
      else none
  -- `thelper_signal_wait` up to `pthread_cond_wait`, or all of it.
  | .lock =>
      if s.launcher = .wait then
        if !s.threadReady && !s.threadExit then some { s with launcher := .asleep }
        else some (returnWait s)
      else none
  | .wakeUp =>
      if s.launcher = .asleep then some { s with launcher := .woken true } else none
  -- From the return of `pthread_cond_wait` on.
  | .relock =>
      match s.launcher with
      | .woken _ => some (returnWait s)
      | _ => none
  | .ret =>
      if s.launcher = .waited then
        some { s with
          launcher := .returned
          log := s.log ++ [.launchReturned (if s.threadExit then 1 else 0)] }
      else none
  | .helper result => helperStep p result s

/-- What has to come before a return: the signal, and for a launch that succeeds
    a `thread_proc_init` that did not fail. -/
def Waits (pre : List Event) : Event → Prop
  | .waitReturned _ => .signalReady ∈ pre
  | .launchReturned result => result = 0 → ∃ r, 0 ≤ r ∧ .initDone r ∈ pre
  | _ => True

/-- No test of the flags finds `thread_exit` set and `thread_ready` not, and no
    thread that woke by itself gets the mutex while `thread_ready` is not set. -/
def Careful (s : Sys) : Label → Prop
  | .lock => s.threadExit = true → s.threadReady = true
  | .relock => s.launcher = .woken true → s.threadReady = true
  | _ => True

section Steps

variable {p : Procs} {s t : Sys} {a : Label} {result : Int}

/-- The thread has neither set `thread_exit` nor completed `thread_proc_init`. -/
def Helper.early : Helper → Bool
  | .none | .init | .initFailed => true
  | _ => false

/-- The thread has called `thelper_signal_ready`. -/
def Helper.late : Helper → Bool
  | .pre | .preFailed | .proc | .procFailed | .test | .post | .ended => true
  | _ => false

theorem Helper.early_of_late {helper : Helper} (h : helper.late = true) :
    helper.early = false := by
  cases helper <;> first | rfl | cases h

theorem Helper.ne_none {helper : Helper} (h : helper.early = false) : helper ≠ .none := by
  rintro rfl
  cases h

/-- What a step does to the two threads, by what it needs. -/
inductive Stepped (p : Procs) (s : Sys) : Label → Sys → Prop
  | cleared (hat : s.launcher = .start) : Stepped p s .signalInit
      { s with threadExit := false, threadReady := false, launcher := .create }
  | called (started : Bool) (hat : s.launcher = .create) : Stepped p s (.createThreadCb started)
      { s with launcher := .wait, helper := if started then .init else .none }
  | refused (result : Int) (hat : s.launcher = .create) : Stepped p s (.pthreadCreate result)
      { s with launcher := .returned, log := s.log ++ [.launchReturned (-1)] }
  | created (result : Int) (hat : s.launcher = .create) : Stepped p s (.pthreadCreate result)
      { s with launcher := .wait, helper := .init }
  | slept (hat : s.launcher = .wait) (hready : s.threadReady = false)
      (hexit : s.threadExit = false) : Stepped p s .lock { s with launcher := .asleep }
  | passed (hat : s.launcher = .wait) (hset : s.threadReady = true ∨ s.threadExit = true) :
      Stepped p s .lock (returnWait s)
  | wokeUp (hat : s.launcher = .asleep) : Stepped p s .wakeUp { s with launcher := .woken true }
  | relocked (byItself : Bool) (hat : s.launcher = .woken byItself) :
      Stepped p s .relock (returnWait s)
  | returned (hat : s.launcher = .waited) : Stepped p s .ret
      { s with
        launcher := .returned
        log := s.log ++ [.launchReturned (if s.threadExit then 1 else 0)] }
  | moved (result : Int) (next : Helper) (hat : s.helper.late = true)
      (hnext : next.late = true) : Stepped p s (.helper result) { s with helper := next }
  | inited (result r : Int) (hat : s.helper = .init)
      (hr : r = if p.threadProcInit then result else 0) : Stepped p s (.helper result)
      { s with
        helper := if r < 0 then .initFailed else .signal
        log := s.log ++ [.initDone r] }
  | failed (result : Int) (hat : s.helper = .initFailed) : Stepped p s (.helper result)
      { s with threadExit := true, helper := .signalFailed }
  | exited (result : Int) (next : Helper) (hat : s.helper.late = true)
      (hnext : next.late = true) :
      Stepped p s (.helper result) { s with threadExit := true, helper := next }
  | signalled (result : Int) (next : Helper)
      (hat : s.helper = .signal ∨ s.helper = .signalFailed) (hnext : next.late = true) :
      Stepped p s (.helper result) (signalReady { s with helper := next })

theorem helperStep_inv (h : helperStep p result s = some t) : Stepped p s (.helper result) t := by
  -- Behind the signal the thread goes on or exits, and it matters little where to.
  have move : ∀ next : Helper, s.helper.late = true → next.late = true →
      some { s with helper := next } = some t → Stepped p s (.helper result) t := by
    intro next hat hnext ht
    cases ht
    exact .moved result next hat hnext
  have exit : ∀ next : Helper, s.helper.late = true → next.late = true →
      some { s with threadExit := true, helper := next } = some t →
      Stepped p s (.helper result) t := by
    intro next hat hnext ht
    cases ht
    exact .exited result next hat hnext
  have signal : ∀ next : Helper, s.helper = .signal ∨ s.helper = .signalFailed →
      next.late = true → some (signalReady { s with helper := next }) = some t →
      Stepped p s (.helper result) t := by
    intro next hat hnext ht
    cases ht
    exact .signalled result next hat hnext
  cases hat : s.helper with
  | none =>
      simp only [helperStep, hat, reduceCtorEq] at h
  | init =>
      simp only [helperStep, hat, Option.some.injEq] at h
      rw [← h]
      exact .inited result _ hat rfl
  | initFailed =>
      simp only [helperStep, hat, Option.some.injEq] at h
      rw [← h]
      exact .failed result hat
  | signalFailed =>
      simp only [helperStep, hat] at h
      exact signal _ (Or.inr hat) rfl h
  | signal =>
      simp only [helperStep, hat] at h
      exact signal _ (Or.inl hat) rfl h
  | pre =>
      simp only [helperStep, hat] at h
      exact move _ (by rw [hat]; rfl) (by split <;> rfl) h
  | preFailed =>
      simp only [helperStep, hat] at h
      exact exit _ (by rw [hat]; rfl) rfl h
  | proc =>
      simp only [helperStep, hat] at h
      exact move _ (by rw [hat]; rfl) (by split <;> rfl) h
  | procFailed =>
      simp only [helperStep, hat] at h
      exact exit _ (by rw [hat]; rfl) rfl h
  | test =>
      simp only [helperStep, hat] at h
      exact move _ (by rw [hat]; rfl) (by split <;> rfl) h
  | post =>
      simp only [helperStep, hat] at h
      exact move _ (by rw [hat]; rfl) rfl h
  | ended =>
      simp only [helperStep, hat, reduceCtorEq] at h

theorem step_inv (h : step p s a = some t) : Stepped p s a t := by
  cases a with
  | signalInit =>
      simp only [step, Option.ite_none_right_eq_some, Option.some.injEq] at h
      rcases h with ⟨hat, rfl⟩
      exact .cleared hat
  | createThreadCb started =>
      simp only [step, Option.ite_none_right_eq_some, Option.some.injEq] at h
      rcases h with ⟨⟨hat, _⟩, rfl⟩
      exact .called started hat
  | pthreadCreate result =>
      simp only [step, Option.ite_none_right_eq_some] at h
      rcases h with ⟨⟨hat, _⟩, h⟩
      split at h
      · cases h
        exact .refused result hat
      · cases h
        exact .created result hat
  | lock =>
      simp only [step, Option.ite_none_right_eq_some] at h
      rcases h with ⟨hat, h⟩
      split at h
      next htest =>
        simp only [Bool.and_eq_true, Bool.not_eq_true'] at htest
        cases h
        exact .slept hat htest.1 htest.2
      next htest =>
        simp only [Bool.and_eq_true, Bool.not_eq_true', not_and_or, Bool.not_eq_false] at htest
        cases h
        exact .passed hat htest
  | wakeUp =>
      simp only [step, Option.ite_none_right_eq_some, Option.some.injEq] at h
      rcases h with ⟨hat, rfl⟩
      exact .wokeUp hat
  | relock =>
      simp only [step] at h
      split at h
      next byItself hat =>
        cases h
        exact .relocked byItself hat
      next => cases h
  | ret =>
      simp only [step, Option.ite_none_right_eq_some, Option.some.injEq] at h
      rcases h with ⟨hat, rfl⟩
      exact .returned hat
  | helper result => exact helperStep_inv h

/-- The signal starts nobody. -/
theorem signalReady_launched (h : s.launcher ≠ .start) : (signalReady s).launcher ≠ .start := by
  unfold signalReady
  split
  · exact nofun
  · exact h

/-- The signal makes nobody wake by himself. -/
theorem signalReady_woken (h : s.launcher ≠ .woken true) :
    (signalReady s).launcher ≠ .woken true := by
  unfold signalReady
  split
  · exact nofun
  · exact h

end Steps

section Runs

variable {p : Procs} {s t : Sys} {a : Label}

/-- What the signal says of the thread that gave it. -/
def Settled (s : Sys) : Prop := s.threadExit = true ∨ ∃ r, 0 ≤ r ∧ .initDone r ∈ s.log

/-- The invariant of careful steps. A signal that has been given is seen in
    `thread_ready`, and whoever goes on goes on behind one. -/
structure Kept (s : Sys) : Prop where
  idle : s.launcher = .start → s.log = [] ∧ s.helper = .none
  ready : s.launcher ≠ .start → (s.threadReady = true ↔ .signalReady ∈ s.log)
  woken : s.launcher = .woken false → s.threadReady = true
  waited : s.launcher = .waited → .signalReady ∈ s.log
  helper : s.helper.early = true ∨ Settled s
  signalled : .signalReady ∈ s.log → Settled s
  log : InOrder Waits s.log

theorem kept_fresh (threadExit threadReady : Bool) : Kept (.fresh threadExit threadReady) where
  idle := fun _ => ⟨rfl, rfl⟩
  ready := fun h => absurd rfl h
  woken := nofun
  waited := nofun
  helper := Or.inl rfl
  signalled := fun h => absurd h List.not_mem_nil
  log := inOrder_nil

/-- A thread that has been started was launched. -/
theorem Kept.launched (h : Kept s) (hhelper : s.helper ≠ .none) : s.launcher ≠ .start :=
  fun hstart => hhelper (h.idle hstart).2

theorem Kept.settled (h : Kept s) (hhelper : s.helper.early = false) : Settled s := by
  rcases h.helper with hearly | hsettled
  · exact absurd (hhelper.symm.trans hearly) Bool.false_ne_true
  · exact hsettled

/-- The launching thread goes somewhere else. -/
theorem Kept.goto {next : Launcher} (h : Kept s) (hat : s.launcher ≠ .start)
    (hstart : next ≠ .start) (hwoken : next = .woken false → s.threadReady = true)
    (hwaited : next = .waited → .signalReady ∈ s.log) : Kept { s with launcher := next } where
  idle := fun hnext => absurd hnext hstart
  ready := fun _ => h.ready hat
  woken := hwoken
  waited := hwaited
  helper := h.helper
  signalled := h.signalled
  log := h.log

/-- The started thread goes somewhere else. -/
theorem Kept.goHelper {next : Helper} (h : Kept s) (hat : s.launcher ≠ .start)
    (hnext : next.early = true ∨ Settled s) : Kept { s with helper := next } where
  idle := fun hstart => absurd hstart hat
  ready := h.ready
  woken := h.woken
  waited := h.waited
  helper := hnext
  signalled := h.signalled
  log := h.log

/-- Something happens that is not the signal. -/
theorem Kept.happen {e : Event} (h : Kept s) (hat : s.launcher ≠ .start) (he : e ≠ .signalReady)
    (hw : Waits s.log e) : Kept { s with log := s.log ++ [e] } := by
  have hmem : .signalReady ∈ s.log ++ [e] ↔ .signalReady ∈ s.log := by
    rw [List.mem_append, List.mem_singleton, or_iff_left (Ne.symm he)]
  have hsettled : Settled s → Settled { s with log := s.log ++ [e] } :=
    Or.imp_right (fun ⟨r, hr, hdone⟩ => ⟨r, hr, List.mem_append_left _ hdone⟩)
  exact {
    idle := fun hstart => absurd hstart hat
    ready := fun hne => (h.ready hne).trans hmem.symm
    woken := h.woken
    waited := fun hwaited => hmem.mpr (h.waited hwaited)
    helper := h.helper.imp_right hsettled
    signalled := fun hsignal => hsettled (h.signalled (hmem.mp hsignal))
    log := inOrder_concat h.log hw }

/-- `thread_exit` is set. -/
theorem Kept.exit (h : Kept s) : Kept { s with threadExit := true } where
  idle := h.idle
  ready := h.ready
  woken := h.woken
  waited := h.waited
  helper := Or.inr (Or.inl rfl)
  signalled := fun _ => Or.inl rfl
  log := h.log

/-- The signal is given by a thread that is entitled to it. -/
theorem Kept.signal (h : Kept s) (hat : s.launcher ≠ .start) (hsettled : Settled s) :
    Kept (signalReady s) := by
  have hmem : .signalReady ∈ (signalReady s).log :=
    List.mem_append_right _ (List.mem_singleton.mpr rfl)
  have hsettled' : Settled (signalReady s) :=
    hsettled.imp_right (fun ⟨r, hr, hdone⟩ => ⟨r, hr, List.mem_append_left _ hdone⟩)
  exact {
    idle := fun hstart => absurd hstart (signalReady_launched hat)
    ready := fun _ => iff_of_true rfl hmem
    woken := fun _ => rfl
    waited := fun _ => hmem
    helper := Or.inr hsettled'
    signalled := fun _ => hsettled'
    log := inOrder_concat h.log trivial }

/-- `thelper_signal_wait` returns behind the signal. -/
theorem Kept.wait (h : Kept s) (hat : s.launcher ≠ .start) (hready : s.threadReady = true) :
    Kept (returnWait s) := by
  have hsignal : .signalReady ∈ s.log := (h.ready hat).mp hready
  have hlog := h.happen hat (e := .waitReturned (if s.threadExit then -1 else 0)) nofun hsignal
  exact hlog.goto hat nofun nofun (fun _ => List.mem_append_left _ hsignal)

/-- What every careful step keeps. -/
theorem kept_step (h : Kept s) (hg : Careful s a) (hstep : step p s a = some t) : Kept t := by
  cases step_inv hstep with
  | cleared hat =>
      -- Nothing has happened yet, so nothing is lost with the flags.
      rcases h.idle hat with ⟨hlog, hhelper⟩
      have hnot : .signalReady ∉ s.log := by
        rw [hlog]
        exact List.not_mem_nil
      exact {
        idle := nofun
        ready := fun _ => iff_of_false Bool.false_ne_true hnot
        woken := nofun
        waited := nofun
        helper := Or.inl (by rw [hhelper]; rfl)
        signalled := fun hsignal => absurd hsignal hnot
        log := h.log }
  | called started hat =>
      have hstart : s.launcher ≠ .start := by rw [hat]; decide
      have hhelper : Kept { s with helper := if started then .init else .none } := by
        refine h.goHelper hstart (Or.inl ?_)
        split <;> rfl
      exact hhelper.goto hstart nofun nofun nofun
  | refused _ hat =>
      have hstart : s.launcher ≠ .start := by rw [hat]; decide
      have hlog := h.happen hstart (e := .launchReturned (-1)) nofun nofun
      exact hlog.goto hstart nofun nofun nofun
  | created _ hat =>
      have hstart : s.launcher ≠ .start := by rw [hat]; decide
      have hhelper : Kept { s with helper := .init } := h.goHelper hstart (Or.inl rfl)
      exact hhelper.goto hstart nofun nofun nofun
  | slept hat _ _ => exact h.goto (by rw [hat]; decide) nofun nofun nofun
  | passed hat hset =>
      -- `thread_exit` alone is no reason to go on, and so it is not alone.
      refine h.wait (by rw [hat]; decide) ?_
      rcases hset with hready | hexit
      · exact hready
      · exact hg hexit
  | wokeUp hat => exact h.goto (by rw [hat]; decide) nofun nofun nofun
  | relocked byItself hat =>
      -- Who was woken was signalled; who woke by himself is careful.
      refine h.wait (by rw [hat]; nofun) ?_
      cases byItself with
      | false => exact h.woken hat
      | true => exact hg hat
  | returned hat =>
      have hstart : s.launcher ≠ .start := by rw [hat]; decide
      have hlog := h.happen hstart (e := .launchReturned (if s.threadExit then 1 else 0)) nofun
        (fun hzero => by
          -- 0 means that `thread_exit` is not set, and the signal was given.
          rcases h.signalled (h.waited hat) with hexit | hdone
          · rw [hexit] at hzero
            cases hzero
          · exact hdone)
      exact hlog.goto hstart nofun nofun nofun
  | moved _ next hat hnext =>
      have hearly := Helper.early_of_late hat
      exact h.goHelper (h.launched (Helper.ne_none hearly)) (Or.inr (h.settled hearly))
  | inited _ r hat _ =>
      have hstart := h.launched (by rw [hat]; decide)
      refine (h.happen hstart (e := .initDone r) nofun trivial).goHelper hstart ?_
      split
      · exact Or.inl rfl
      next hr =>
        have hdone : .initDone r ∈ s.log ++ [.initDone r] :=
          List.mem_append_right _ (List.mem_singleton.mpr rfl)
        exact Or.inr (Or.inr ⟨r, Int.not_lt.mp hr, hdone⟩)
  | failed _ hat =>
      exact h.exit.goHelper (h.launched (by rw [hat]; decide)) (Or.inr (Or.inl rfl))
  | exited _ next hat _ =>
      have hhelper := Helper.ne_none (Helper.early_of_late hat)
      exact h.exit.goHelper (h.launched hhelper) (Or.inr (Or.inl rfl))
  | signalled _ next hat _ =>
      have hearly : s.helper.early = false := by
        rcases hat with hat | hat
        · rw [hat]
          rfl
        · rw [hat]
          rfl
      have hstart := h.launched (Helper.ne_none hearly)
      have hsettled := h.settled hearly
      exact (h.goHelper hstart (Or.inr hsettled)).signal hstart hsettled

/-- A wait that returned in order did so with `thread_ready` set. -/
theorem Kept.ready_of_wait (h : Kept s) (hat : s.launcher ≠ .start)
    (hlog : InOrder Waits (returnWait s).log) : s.threadReady = true :=
  (h.ready hat).mpr (hlog s.log _ [] rfl)

/-- A step that is not careful returns too early. -/
theorem careful_of_waits (h : Kept s) (hstep : step p s a = some t)
    (hlog : InOrder Waits t.log) : Careful s a := by
  cases step_inv hstep with
  | slept hat _ hexit =>
      intro hset
      rw [hexit] at hset
      cases hset
  | passed hat _ => exact fun _ => h.ready_of_wait (by rw [hat]; decide) hlog
  | relocked byItself hat => exact fun _ => h.ready_of_wait (by rw [hat]; nofun) hlog
  | _ => trivial

/-- For every interleaving of the two threads, whatever the procedures return,
    no wait returns before the signal and no launch returns 0 before a good
    `thread_proc_init`, if and only if every step was careful. -/
theorem launch_waits_iff (p : Procs) (threadExit threadReady : Bool) (as : List Label) :
    Run.Throughout (step p) (fun s => InOrder Waits s.log) (.fresh threadExit threadReady) as ↔
      Run.Guarded (step p) Careful (.fresh threadExit threadReady) as :=
  Run.throughout_iff_guarded Kept (fun _ h => h.log)
    (fun _ _ _ h hg hstep => kept_step h hg hstep)
    (fun _ _ _ h hstep hlog => careful_of_waits h hstep hlog) (kept_fresh threadExit threadReady)

/-- The launching thread wakes by itself before the other has done anything. -/
def wokeEarly : List Label :=
  [.signalInit, .pthreadCreate 0, .lock, .wakeUp, .relock, .ret]

/-- The launch succeeds, and `thread_proc_init` has not been called. -/
theorem wokeEarly_returns :
    ¬ Run.Throughout (step ⟨true, true, true, true, false⟩) (fun s => InOrder Waits s.log)
      (.fresh false false) wokeEarly := by
  have hend : (Run.exec (step ⟨true, true, true, true, false⟩) (.fresh false false)
      wokeEarly).map Sys.log = some [.waitReturned 0, .launchReturned 0] := by
    decide
  rcases Option.map_eq_some_iff.mp hend with ⟨s, hexec, hlog⟩
  intro hall
  have horder := Run.throughout_iff_prefix.mp hall wokeEarly s (List.prefix_refl _) hexec
  rcases horder [.waitReturned 0] (.launchReturned 0) [] hlog rfl with ⟨r, _, hmem⟩
  cases List.mem_singleton.mp hmem

end Runs

section Calm

variable {p : Procs} {s t : Sys} {a : Label}

/-- Nobody wakes by himself, and `thread_proc_init` does not fail. -/
def Calm (p : Procs) (s : Sys) : Label → Prop
  | .wakeUp => False
  | .helper result => s.helper = .init → p.threadProcInit = true → 0 ≤ result
  | _ => True

/-- The invariant of calm steps: `thread_exit` is set behind the signal only. -/
structure Quiet (s : Sys) : Prop where
  idle : s.launcher = .start → s.helper = .none
  exit : s.launcher ≠ .start → s.threadExit = true → s.threadReady = true
  woken : s.launcher ≠ .woken true
  ready : s.helper.late = true → s.threadReady = true
  good : s.helper ≠ .initFailed

theorem quiet_fresh (threadExit threadReady : Bool) : Quiet (.fresh threadExit threadReady) where
  idle := fun _ => rfl
  exit := fun h => absurd rfl h
  woken := nofun
  ready := nofun
  good := nofun

/-- The launching thread goes somewhere else, whatever is seen of that. -/
theorem Quiet.goto {next : Launcher} (h : Quiet s) (log : List Event) (hat : s.launcher ≠ .start)
    (hstart : next ≠ .start) (hwoken : next ≠ .woken true) :
    Quiet { s with launcher := next, log := log } where
  idle := fun hnext => absurd hnext hstart
  exit := fun _ => h.exit hat
  woken := hwoken
  ready := h.ready
  good := h.good

/-- The started thread goes somewhere else. -/
theorem Quiet.goHelper {next : Helper} (h : Quiet s) (log : List Event)
    (hat : s.launcher ≠ .start) (hready : next.late = true → s.threadReady = true)
    (hgood : next ≠ .initFailed) : Quiet { s with helper := next, log := log } where
  idle := fun hstart => absurd hstart hat
  exit := h.exit
  woken := h.woken
  ready := hready
  good := hgood

theorem Helper.good_of_late {helper : Helper} (h : helper.late = true) :
    helper ≠ .initFailed := by
  rintro rfl
  cases h

/-- A thread that has been started was launched. -/
theorem Quiet.launched (h : Quiet s) (hhelper : s.helper ≠ .none) : s.launcher ≠ .start :=
  fun hstart => hhelper (h.idle hstart)

/-- What every calm step keeps. -/
theorem quiet_step (h : Quiet s) (hg : Calm p s a) (hstep : step p s a = some t) : Quiet t := by
  cases step_inv hstep with
  | cleared hat =>
      have hnone := h.idle hat
      exact {
        idle := nofun
        exit := fun _ hset => absurd hset Bool.false_ne_true
        woken := nofun
        ready := fun hlate => absurd hlate (by rw [hnone]; decide)
        good := h.good }
  | called started hat =>
      have hstart : s.launcher ≠ .start := by rw [hat]; decide
      have hhelper : Quiet { s with helper := if started then .init else .none } := by
        refine h.goHelper s.log hstart (fun hlate => ?_) ?_
        · split at hlate <;> cases hlate
        · split <;> decide
      exact hhelper.goto s.log hstart nofun nofun
  | refused _ hat => exact h.goto _ (by rw [hat]; decide) nofun nofun
  | created _ hat =>
      have hstart : s.launcher ≠ .start := by rw [hat]; decide
      have hhelper : Quiet { s with helper := .init } := h.goHelper s.log hstart nofun nofun
      exact hhelper.goto s.log hstart nofun nofun
  | slept hat _ _ => exact h.goto s.log (by rw [hat]; decide) nofun nofun
  | passed hat _ => exact h.goto _ (by rw [hat]; decide) nofun nofun
  | wokeUp _ => exact hg.elim
  | relocked byItself hat => exact h.goto _ (by rw [hat]; nofun) nofun nofun
  | returned hat => exact h.goto _ (by rw [hat]; decide) nofun nofun
  | moved _ next hat hnext =>
      have hhelper := Helper.ne_none (Helper.early_of_late hat)
      exact h.goHelper s.log (h.launched hhelper) (fun _ => h.ready hat)
        (Helper.good_of_late hnext)
  | inited result r hat hr =>
      have hnonneg : 0 ≤ r := by
        rw [hr]
        split
        next hproc => exact hg hat hproc
        next => exact Int.le_refl 0
      have hstart := h.launched (by rw [hat]; decide)
      rw [if_neg (Int.not_lt.mpr hnonneg)]
      exact h.goHelper _ hstart nofun nofun
  | failed _ hat => exact absurd hat h.good
  | exited _ next hat hnext =>
      have hready := h.ready hat
      exact {
        idle := fun hstart => absurd (h.idle hstart) (Helper.ne_none (Helper.early_of_late hat))
        exit := fun _ _ => hready
        woken := h.woken
        ready := fun _ => hready
        good := Helper.good_of_late hnext }
  | signalled _ next hat hnext =>
      have hnone : s.helper ≠ .none := by
        rcases hat with hat | hat
        · rw [hat]
          decide
        · rw [hat]
          decide
      exact {
        idle := fun hstart => absurd hstart (signalReady_launched (h.launched hnone))
        exit := fun _ _ => rfl
        woken := signalReady_woken h.woken
        ready := fun _ => rfl
        good := Helper.good_of_late hnext }

/-- Without wake-ups by itself and with a `thread_proc_init` that does not fail,
    the launch waits in every interleaving. -/
theorem waits_of_calm (threadExit threadReady : Bool) {as : List Label}
    (h : Run.Guarded (step p) (Calm p) (.fresh threadExit threadReady) as) :
    Run.Throughout (step p) (fun s => InOrder Waits s.log) (.fresh threadExit threadReady) as := by
  have hcareful : Run.Guarded (step p) Careful (.fresh threadExit threadReady) as := by
    refine Run.guarded_of_invariant Quiet (fun _ _ _ hs hg hstep => quiet_step hs hg hstep)
      (fun s a t hs hstep _ => ?_) (quiet_fresh threadExit threadReady) h
    cases step_inv hstep with
    | slept hat _ _ => exact hs.exit (by rw [hat]; decide)
    | passed hat _ => exact hs.exit (by rw [hat]; decide)
    | relocked _ _ => exact fun hwoken => absurd hwoken hs.woken
    | _ => trivial
  exact Run.throughout_of_guarded Kept (fun _ hs => hs.log)
    (fun _ _ _ hs hg hstep => kept_step hs hg hstep) (kept_fresh threadExit threadReady) hcareful

end Calm

end Launch

end Conn

end Taoshan

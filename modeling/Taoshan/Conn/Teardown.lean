import Taoshan.Conn.ServerThread

/-!
# The Life of the Server Thread

From the launch of the daemon's server thread to its end: its calls, what it hands
on, and how it ends.

Nothing that a read returns matters for how the thread ends. It hands on one message
at most when it is to end (`handled_after_exit`), and if the message that unblocks it
got into the pipe, then it is never stuck whatever is in front of that message
(`moves_of_delivered`) and ends after seven steps of its own (`ends_of_exit`).

It matters for what is handed on. While the reads return what they are asked for and
the messages fit the buffer, they are handed on as they were written and in that
order, and those that are not are in the pipe (`inFrames_step`). A read that fails,
or a message that is too large, and the next bytes are taken for a size.

## Main definitions

* `remaining`, `unread`: How many steps a thread that is to end has left, and how many
  messages.
* `Ending`: The server is being ended.
* `AllFit`, `InFrames`: The messages fit, and the pipe is framed.

## Theorems

* `ends_of_exit`, `handled_after_exit`, `moves_of_delivered`: The end of the thread.
* `inFrames_step`: What steps with whole reads keep, if the messages fit.
* `server_life`: What holds after every run.
* `server_ends`: How it ends.
-/

namespace Taoshan

namespace Conn

namespace Teardown

open Bytes Launch

section Runs

variable {k : Nat} {cap : SizeT k} {cb : Bool} {answer : Answer} {s t : Life k} {a : Label}

/-- How many steps a thread has left that finds `thread_exit` set. -/
def remaining (phase : Phase k) : Helper → Nat
  | .init => 7
  | .signal => 6
  | .pre => 5
  | .proc => match phase with
    | .idle => 4
    | .body _ _ => 3
  | .procFailed => 3
  | .test => 2
  | .post => 1
  | _ => 0

/-- And how many messages it hands on. -/
def unread : Helper → Nat
  | .init | .signal | .pre | .proc => 1
  | _ => 0

/-- The server is being ended. -/
structure Ending (s : Life k) : Prop extends Alive s where
  closing : s.closer ≠ .idle

/-- The one that ends it does not change its mind. -/
theorem closer_step (h : Alive s) (hclosing : s.closer ≠ .idle)
    (hs : step cap (serverProcs cb) s a = some t) : t.closer ≠ .idle := by
  cases a with
  | launching b =>
      rcases launching_inv hs with ⟨_, v, _, rfl⟩
      exact hclosing
  | send msg =>
      rcases write_inv hs with ⟨_, stream, _, rfl⟩
      exact hclosing
  | server memory answer =>
      rw [(frame_of_served (served_of_step h.calls hs)).closer]
      exact hclosing
  | unblockThelper =>
      simp only [step, Option.ite_none_right_eq_some, Option.some.injEq] at hs
      exact absurd hs.1.1 hclosing
  | unblockProc stack written =>
      rcases unblockProc_inv hs with ⟨_, ⟨u, _, rfl⟩ | rfl⟩
      · exact fun heq => Closer.noConfusion heq
      · exact fun heq => Closer.noConfusion heq
  | join =>
      simp only [step, Option.ite_none_right_eq_some, Option.some.injEq] at hs
      rw [← hs.2]
      exact fun heq => Closer.noConfusion heq

theorem ending_step (hk : 0 < k) (h : Ending s) (hs : step cap (serverProcs cb) s a = some t) :
    Ending t :=
  ⟨alive_step hk h.toAlive hs, closer_step h.toAlive h.closing hs⟩

theorem remaining_proc (phase : Phase k) :
    3 ≤ remaining phase .proc ∧ remaining phase .proc ≤ 4 := by
  cases phase with
  | idle => exact ⟨Nat.le_succ 3, Nat.le_refl 4⟩
  | body mem count => exact ⟨Nat.le_refl 3, Nat.le_succ 3⟩

theorem remaining_le (phase : Phase k) (helper : Helper) : remaining phase helper ≤ 7 := by
  have hproc := (remaining_proc phase).2
  cases helper with
  | proc => omega
  | _ => dsimp only [remaining]; decide

/-- The thread has one step less to go. -/
theorem remaining_served (h : Ending s) (hs : Served cap answer s t) :
    remaining t.control.phase t.threads.helper + 1 ≤
      remaining s.control.phase s.threads.helper := by
  have hexit := (h.exit h.closing).1
  cases hs with
  | inited hat log => rw [hat]; exact Nat.le_refl _
  | signalled hat => rw [hat]; exact Nat.le_refl _
  | prepared hat => rw [hat]; exact Nat.succ_le_succ (remaining_proc _).2
  | goesOn hat hidle _ hbody => rw [hat, hidle, hbody]; exact Nat.le_refl _
  | givesUp hat _ _ _ => rw [hat]; exact (remaining_proc _).1
  | received hat _ _ => rw [hat]; exact (remaining_proc _).1
  | starved hat hidle => rw [hat, hidle]; exact Nat.le_refl _
  | failed hat => rw [hat]; exact Nat.le_refl _
  -- The flag is set, so it does not go round again.
  | again _ hnot =>
      rw [hexit] at hnot
      exact Bool.noConfusion hnot
  | left hat _ => rw [hat]; exact Nat.le_refl _
  | removed hat => rw [hat]; exact Nat.le_refl _

/-- And one message less to hand on if it has handed on one. -/
theorem handled_served (h : Ending s) (hs : Served cap answer s t) :
    t.handled.length + unread t.threads.helper ≤ s.handled.length + unread s.threads.helper := by
  have hexit := (h.exit h.closing).1
  cases hs with
  | inited hat log => rw [hat]; exact Nat.le_refl _
  | signalled hat => rw [hat]; exact Nat.le_refl _
  | prepared hat => rw [hat]; exact Nat.le_refl _
  | goesOn _ hidle hread hbody =>
      -- There is a second read to come.
      rcases (receiveHeader_inv hread).2.2 with ⟨hphase, _⟩ | ⟨_, hcalls⟩
      · rw [hidle, hbody] at hphase
        cases hphase
      · unfold Life.handled
        rw [hcalls]
  | givesUp hat hidle hread hover =>
      -- No second read follows, so the call is over.
      rcases (receiveHeader_inv hread).2.2 with ⟨_, mem, hcalls⟩ | ⟨⟨mem, count, hbody⟩, _⟩
      · rw [hat]
        unfold Life.handled
        rw [hcalls]
        exact handedOn_concat _ _
      · rw [hover] at hbody
        cases hbody
  | received hat _ hread =>
      rcases (receiveBody_inv hread).2.2 with ⟨call, hcalls⟩
      rw [hat]
      unfold Life.handled
      rw [hcalls]
      exact handedOn_concat _ _
  | starved hat _ => rw [hat]; exact Nat.le_succ _
  | failed hat => rw [hat]; exact Nat.le_refl _
  | again _ hnot =>
      rw [hexit] at hnot
      exact Bool.noConfusion hnot
  | left hat _ => rw [hat]; exact Nat.le_refl _
  | removed hat => rw [hat]; exact Nat.le_refl _

/-- The others do not give it more to do. -/
theorem remaining_other (h : Ending s) (ha : a.isServer = false)
    (hs : step cap (serverProcs cb) s a = some t) :
    t.control.phase = s.control.phase ∧ t.threads.helper = s.threads.helper ∧
      t.handled = s.handled := by
  cases a with
  -- The launch has returned before anybody ends the server.
  | launching b =>
      rcases launching_inv hs with ⟨hb, v, hv, rfl⟩
      exact absurd (h.exit h.closing).2 (launching_spec hb hv).2.1
  | send msg =>
      rcases write_inv hs with ⟨_, stream, _, rfl⟩
      exact ⟨rfl, rfl, rfl⟩
  | server memory answer => cases ha
  | unblockThelper =>
      simp only [step, Option.ite_none_right_eq_some, Option.some.injEq] at hs
      exact absurd hs.1.1 h.closing
  | unblockProc stack written =>
      rcases unblockProc_inv hs with ⟨_, ⟨u, hu, rfl⟩ | rfl⟩
      · rcases write_inv hu with ⟨_, stream, _, rfl⟩
        exact ⟨rfl, rfl, rfl⟩
      · exact ⟨rfl, rfl, rfl⟩
  | join =>
      simp only [step, Option.ite_none_right_eq_some, Option.some.injEq] at hs
      rw [← hs.2]
      exact ⟨rfl, rfl, rfl⟩

/-- A thread that is to end takes seven steps at most, whatever the others do. -/
theorem ends_of_exit (hk : 0 < k) {as : List Label} (h : Ending s)
    (hrun : Run.exec (step cap (serverProcs cb)) s as = some t) :
    as.countP Label.isServer ≤ 7 := by
  have hmeasure := Run.countP_le_measure Ending
    (fun s => remaining s.control.phase s.threads.helper) Label.isServer
    (fun _ _ _ hs hstep => ending_step hk hs hstep) ?_ h hrun
  · have hseven := remaining_le s.control.phase s.threads.helper
    omega
  · intro s a t hs hstep
    cases ha : a.isServer with
    | true =>
        -- A step of the thread counts, and what the others do does not.
        rw [if_pos rfl]
        cases a with
        | server memory answer => exact remaining_served hs (served_of_step hs.calls hstep)
        | _ => cases ha
    | false =>
        rcases remaining_other hs ha hstep with ⟨hphase, hhelper, _⟩
        rw [hphase, hhelper]
        exact Nat.le_refl _

/-- And hands on one message at most. -/
theorem handled_after_exit (hk : 0 < k) {as : List Label} (h : Ending s)
    (hrun : Run.exec (step cap (serverProcs cb)) s as = some t) :
    t.handled.length ≤ s.handled.length + 1 := by
  have hmeasure := Run.countP_le_measure Ending
    (fun s => s.handled.length + unread s.threads.helper) (fun _ => false)
    (fun _ _ _ hs hstep => ending_step hk hs hstep) ?_ h hrun
  · have hone : unread s.threads.helper ≤ 1 := by
      cases s.threads.helper <;> decide
    omega
  · intro s a t hs hstep
    rw [if_neg Bool.false_ne_true, Nat.add_zero]
    cases ha : a.isServer with
    | true =>
        cases a with
        | server memory answer => exact handled_served hs (served_of_step hs.calls hstep)
        | _ => cases ha
    | false =>
        rcases remaining_other hs ha hstep with ⟨_, hhelper, hhandled⟩
        rw [hhelper, hhandled]

/-- A receiver that finds bytes in the pipe is not stuck, with memory or without. -/
theorem moves_of_supplied (hat : s.threads.helper = .proc) (h : Supplied s.control)
    (memory : Option Mem) : ∃ answer, answer ≠ .failed ∧
      ∃ t, step cap (serverProcs cb) s (.server memory answer) = some t := by
  -- Behind the read it goes on, with a message or without.
  have hread : ∀ c : Sys k, ∃ t, procRead (serverProcs cb) s c = some t := by
    intro c
    unfold procRead
    cases c.phase with
    | body mem count => exact ⟨_, rfl⟩
    | idle => exact ⟨_, advance_proc hat c⟩
  unfold Supplied at h
  cases hphase : s.control.phase with
  | body mem count =>
      simp only [hphase] at h
      rcases exists_piperead h count.toNat with ⟨answer, r, hanswer, hr⟩
      rcases hread { s.control with
        stream := r.2
        phase := .idle
        calls := s.control.calls ++ [⟨(afterBody k mem r.1).2, (afterBody k mem r.1).1⟩] } with
        ⟨t, ht⟩
      refine ⟨answer, hanswer, t, ?_⟩
      simp only [step, serverStep, hat, proc, hphase, receiveBody, hr, Option.map_some,
        Option.bind_some, ht]
  | idle =>
      simp only [hphase] at h
      rcases exists_piperead (Nat.zero_lt_of_lt h) k with ⟨answer, r, hanswer, hr⟩
      cases memory with
      | none =>
          -- Without memory it reads nothing and returns.
          refine ⟨answer, hanswer, ?_⟩
          simp only [step, serverStep, hat, proc, hphase]
          exact ⟨_, advance_starved hat⟩
      | some buf =>
          rcases hc : receiveHeader k cap s.control buf answer with _ | c
          · simp only [receiveHeader, hr, Option.map_some, reduceCtorEq] at hc
          · rcases hread c with ⟨t, ht⟩
            refine ⟨answer, hanswer, t, ?_⟩
            simp only [step, serverStep, hat, proc, hphase, hc, Option.bind_some, ht]

/-- Outside of `thread_proc` the thread can always go on. -/
theorem moves_elsewhere (hnone : s.threads.helper ≠ .none) (hended : s.threads.helper ≠ .ended)
    (hproc : s.threads.helper ≠ .proc) (memory : Option Mem) (answer : Answer) :
    ∃ t, step cap (serverProcs cb) s (.server memory answer) = some t := by
  cases hat : s.threads.helper with
  | none => exact absurd hat hnone
  | proc => exact absurd hat hproc
  | ended => exact absurd hat hended
  | _ =>
      simp only [step, serverStep, hat, advance, helperStep, Option.map_some, Option.some.injEq,
        exists_eq']

/-- A thread that the message has reached is never stuck: where it reads, there is
    something to read. -/
theorem moves_of_delivered (h : Alive s) (hdel : s.delivered = true)
    (hended : s.threads.helper ≠ .ended) (memory : Option Mem) :
    ∃ answer, answer ≠ .failed ∧
      ∃ t, step cap (serverProcs cb) s (.server memory answer) = some t := by
  rcases h.unblocked hdel with ⟨_, hnone, _, hsupplied⟩
  by_cases hproc : s.threads.helper = .proc
  · exact moves_of_supplied hproc (hsupplied (by rw [hproc]; trivial)) memory
  · -- What becomes of a read does not matter there.
    exact ⟨.whole, nofun, moves_elsewhere hnone hended hproc memory .whole⟩

theorem alive_exec (hk : 0 < k) {threadExit threadReady : Bool} {as : List Label}
    (h : Run.exec (step cap (serverProcs cb)) (.fresh k threadExit threadReady) as = some s) :
    Alive s :=
  Run.exec_invariant Alive (fun _ _ _ hs hstep => alive_step hk hs hstep)
    (alive_fresh threadExit threadReady) h

/-- What the server thread does with the pipe if its reads return all they ask for:
    nothing, or one of the reads of the receiving loop. -/
theorem read_of_served (hs : Served cap .whole s t) : t.control = s.control ∨
    (∃ buf, Conn.step k cap s.control (.readHeader buf) = some t.control) ∨
      Conn.step k cap s.control .readBody = some t.control := by
  cases hs with
  | goesOn _ hidle hread _ =>
      exact Or.inr (Or.inl ⟨_, by rw [← receiveHeader_whole hidle]; exact hread⟩)
  | givesUp _ hidle hread _ =>
      exact Or.inr (Or.inl ⟨_, by rw [← receiveHeader_whole hidle]; exact hread⟩)
  | received _ hbody hread =>
      exact Or.inr (Or.inr (by rw [← receiveBody_whole hbody]; exact hread))
  | signalled _ => exact Or.inl rfl
  | _ => exact Or.inl rfl

/-- The messages written so far fit the buffer. -/
def AllFit (cap : SizeT k) (s : Life k) : Prop := ∀ msg ∈ s.control.sent, Fits k cap msg

/-- The pipe is framed. -/
def InFrames (cap : SizeT k) (s : Life k) : Prop :=
  ∃ done pending, Framed cap s.control done pending

theorem inFrames_write {msg : List UInt8} (h : AllFit cap s → InFrames cap s)
    (hw : write msg s = some t) (hfits : AllFit cap t) : InFrames cap t := by
  simp only [write, Option.ite_none_right_eq_some, Option.some.injEq] at hw
  rcases hw with ⟨_, rfl⟩
  rcases h (fun m hm => hfits m (List.mem_append_left _ hm)) with ⟨done, pending, hframed⟩
  have hmsg : Fits k cap msg := hfits msg (List.mem_append_right _ List.mem_cons_self)
  exact ⟨done, pending ++ [msg], framed_send hframed (if_pos hmsg)⟩

/-- Whole reads of messages that fit keep the pipe framed, whatever happens in
    between. -/
theorem inFrames_step (hk : 0 < k) (hint : k < 2 ^ 31) (halive : Alive s)
    (h : AllFit cap s → InFrames cap s) (hwhole : a.Whole)
    (hs : step cap (serverProcs cb) s a = some t) (hfits : AllFit cap t) : InFrames cap t := by
  cases a with
  | launching b =>
      rcases launching_inv hs with ⟨_, v, _, rfl⟩
      exact h hfits
  | send msg => exact inFrames_write h hs hfits
  | server memory answer =>
      have hserved := served_of_step halive.calls hs
      have hsent := (frame_of_served hserved).sent
      rw [show answer = .whole from hwhole] at hserved
      rcases h (fun m hm => hfits m (by rw [hsent]; exact hm)) with ⟨done, pending, hframed⟩
      -- A read of the receiving loop keeps the framing, and nothing else touches the
      -- pipe.
      rcases read_of_served hserved with hsame | ⟨buf, hhead⟩ | hbody
      · exact ⟨done, pending, by rw [hsame]; exact hframed⟩
      · exact ⟨done, pending, framed_readHeader hk hint hframed hhead⟩
      · rcases framed_readBody hframed hbody with ⟨msg, rest, _, ht⟩
        exact ⟨done ++ [msg], rest, ht⟩
  | unblockThelper =>
      simp only [step, Option.ite_none_right_eq_some, Option.some.injEq] at hs
      rw [← hs.2] at hfits ⊢
      exact h hfits
  | unblockProc stack written =>
      rcases unblockProc_inv hs with ⟨_, ⟨u, hu, rfl⟩ | rfl⟩
      · have hframed : InFrames cap u := inFrames_write h hu hfits
        exact hframed
      · exact h hfits
  | join =>
      simp only [step, Option.ite_none_right_eq_some, Option.some.injEq] at hs
      rw [← hs.2] at hfits ⊢
      exact h hfits

/-- In every run the thread makes its calls in their order, `thread_proc` once at
    least and `thread_proc_post` once and last, and the join returns only when all
    of that is over. As long as the messages fit the buffer, a thread whose reads
    return what they ask for hands them on as they were written and in that order,
    and while the pipe is there it holds all the others. -/
theorem server_life (hk : 0 < k) (hint : k < 2 ^ 31) (hcap : cap.toNat < 2 ^ 31)
    (cb threadExit threadReady : Bool) (as : List Label) :
    Run.Throughout (step cap (serverProcs cb)) (fun s => CallsAt s.calls s.threads.helper ∧
      (s.closer = .joined → s.threads.helper = .ended ∧ s.opened = false))
      (.fresh k threadExit threadReady) as ∧
    ((∀ a ∈ as, a.Whole) → Run.Throughout (step cap (serverProcs cb)) (fun s => AllFit cap s →
      ∃ done pending, s.control.sent = done ++ pending ∧
        List.Forall₂ (HandedOn k) s.handled done ∧
        (s.opened = true → AtBoundary k s.control.stream pending s.control.phase))
      (.fresh k threadExit threadReady) as) := by
  refine ⟨?_, fun hwhole => ?_⟩
  · refine Run.throughout_invariant Alive (fun s h => ⟨h.calls, fun hj => ⟨h.joined hj, ?_⟩⟩)
      (fun _ _ _ hs hstep => alive_step hk hs hstep) as (alive_fresh threadExit threadReady)
    -- The pipe is removed before the thread ends.
    have hclosed : ¬ s.opened = true := by
      rw [h.opened, h.joined hj]
      exact id
    exact Bool.eq_false_iff.mpr hclosed
  · refine Run.throughout_of_guarded (fun s => Alive s ∧ (AllFit cap s → InFrames cap s))
      (fun s h hfits => ?_) (fun s a t h ha hstep => ⟨alive_step hk h.1 hstep,
        inFrames_step hk hint h.1 h.2 ha hstep⟩)
      ⟨alive_fresh threadExit threadReady, fun _ => ⟨[], [], framed_idleSys cap⟩⟩
      (Run.guarded_of_forall hwhole _)
    rcases h.2 hfits with ⟨done, pending, hframed⟩
    refine ⟨done, pending, hframed.sent, ?_, fun _ => hframed.boundary⟩
    refine handed_of_returns hk hcap hframed.calls (fun msg hmsg => hfits msg ?_)
    rw [hframed.sent]
    exact List.mem_append_left _ hmsg

/-- The launch, up to the first read of the thread. -/
def launched (stack : Mem) : List Label :=
  [.launching .signalInit, .launching (.pthreadCreate 0), .server (some stack) .whole,
    .server (some stack) .whole, .launching .lock, .launching .ret, .server (some stack) .whole]

/-- A request and a release, the second written between the two reads of the first,
    and the end of the server. -/
def served (stack : Mem) : List Label :=
  let read : Label := .server (some stack) .whole
  launched stack ++
    [.send [0, 0, 0, 0, 0, 0, 0, 0, 0, 0, 0, 0, 0xF0], read,
      .send [0, 0, 0, 0, 0, 0, 0, 0, 0, 0, 0, 0, 0xF1], read, read, read, read, read,
      .unblockThelper, .unblockProc stack true, read, read, read, read, .join]

theorem server_life_served :
    ((∀ a ∈ served (fun _ => 0), a.Whole) ∧
      (Run.exec (step 512 (serverProcs false)) (.fresh 4 false false) (served fun _ => 0)).map
        (fun s => (s.closer, s.handled.map Prod.fst)) =
          some (.joined, [.ifRequest, .ifRelease, .unblock])) ∧
    Run.Throughout (step 512 (serverProcs false)) (fun s => CallsAt s.calls s.threads.helper ∧
      (s.closer = .joined → s.threads.helper = .ended ∧ s.opened = false))
      (.fresh 4 false false) (served fun _ => 0) ∧
    ((∀ a ∈ served (fun _ => 0), a.Whole) →
      Run.Throughout (step 512 (serverProcs false)) (fun s => AllFit 512 s →
        ∃ done pending, s.control.sent = done ++ pending ∧
          List.Forall₂ (HandedOn 4) s.handled done ∧
          (s.opened = true → AtBoundary 4 s.control.stream pending s.control.phase))
        (.fresh 4 false false) (served fun _ => 0)) :=
  ⟨⟨by decide, by decide +kernel⟩,
    server_life (by decide) (by decide) (by decide) false false false (served fun _ => 0)⟩

/-- Once the flag is set, the thread takes seven steps at most and hands on one
    message at most, whatever is still written, whatever its reads return and
    however the steps fall; and once the message that unblocks it is in the pipe, it
    is not stuck before it has ended: a read that it is at has something to
    return. -/
theorem server_ends (hk : 0 < k) {threadExit threadReady : Bool} {as bs : List Label}
    (hrun : Run.exec (step cap (serverProcs cb)) (.fresh k threadExit threadReady) as = some s)
    (hclosing : s.closer ≠ .idle)
    (hrest : Run.exec (step cap (serverProcs cb)) s bs = some t) :
    bs.countP Label.isServer ≤ 7 ∧ t.handled.length ≤ s.handled.length + 1 ∧
      (t.delivered = true → t.threads.helper = .ended ∨
        ∀ memory, ∃ answer, answer ≠ .failed ∧
          ∃ u, step cap (serverProcs cb) t (.server memory answer) = some u) := by
  have h : Ending s := ⟨alive_exec hk hrun, hclosing⟩
  refine ⟨ends_of_exit hk h hrest, handled_after_exit hk h hrest, fun hdel => ?_⟩
  by_cases hended : t.threads.helper = .ended
  · exact Or.inl hended
  · have halive : Alive t := Run.exec_invariant Alive
      (fun _ _ _ hs hstep => alive_step hk hs hstep) h.toAlive hrest
    exact Or.inr (moves_of_delivered halive hdel hended)

/-- A thread at its first read, when it is to end. -/
def blocked : Life 4 where
  threads := ⟨true, true, .returned, .proc,
    [.initDone 0, .signalReady, .waitReturned 0, .launchReturned 0]⟩
  opened := true
  control := idleSys 4
  closer := .flagged
  delivered := false
  calls := [.init, .pre]

/-- Without the message the thread waits, however often it is told to end. -/
example (buf : Mem) (n : Nat) :
    step 512 (serverProcs false) blocked (.server (some buf) .whole) = none ∧
      step 512 (serverProcs false) blocked (.server (some buf) (.short n)) = none := by
  have hread : piperead [] 4 (.short n) = none := if_neg fun h => by
    have hle : n ≤ 0 := h.2.2
    omega
  refine ⟨rfl, ?_⟩
  simp only [step, serverStep, proc, blocked, idleSys, receiveHeader, hread, Option.map_none,
    Option.bind_none]

/-- With it, the thread ends, even if it gets no more than two bytes of it. -/
def released : List Label :=
  [.unblockProc (fun _ => 0) true, .server (some fun _ => 0) (.short 2),
    .server none .failed, .server none .failed, .join]

theorem server_ends_blocked :
    ∃ t, Run.exec (step 512 (serverProcs false)) (.fresh 4 false false)
        (launched (fun _ => 0) ++ [.unblockThelper]) = some blocked ∧
      Run.exec (step 512 (serverProcs false)) blocked released = some t ∧
      (t.closer, t.handled.length) = (.joined, 0) ∧
      released.countP Label.isServer ≤ 7 ∧ t.handled.length ≤ blocked.handled.length + 1 ∧
      (t.delivered = true → t.threads.helper = .ended ∨
        ∀ memory, ∃ answer, answer ≠ .failed ∧
          ∃ u, step 512 (serverProcs false) t (.server memory answer) = some u) := by
  have hrun : Run.exec (step 512 (serverProcs false)) (.fresh 4 false false)
      (launched (fun _ => 0) ++ [.unblockThelper]) = some blocked := rfl
  have hend : (Run.exec (step 512 (serverProcs false)) blocked released).map
      (fun t => (t.closer, t.handled.length)) = some (.joined, 0) := by decide +kernel
  rcases Option.map_eq_some_iff.mp hend with ⟨t, hrest, ht⟩
  exact ⟨t, hrun, hrest, ht, server_ends (by decide) hrun nofun hrest⟩

end Runs

end Teardown

end Conn

end Taoshan

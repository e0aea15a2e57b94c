import Taoshan.Conn.Control
import Taoshan.Conn.Launch
import Taoshan.Conn.Receive

/-!
# The Server Thread

The daemon's server thread with the thread that launches it, those that write into
its pipe and the one that ends it.

The server thread calls `thread_proc_init`, which makes the pipe, `thread_proc_pre`,
`thread_proc` once at least, and `thread_proc_post`, which removes the pipe. The
procedures are those of `loc_eng_dmn_conn.cpp`. Only `thread_proc` can fail, when
there is no memory for a buffer. It receives a message in two reads, and the other
threads may come in between.

`loc_eng_dmn_conn_loc_api_server_unblock` sets `thread_exit` and then writes a
message of its own into the control pipe, because the server thread may be
blocked in a read and would not look at the flag. The flag comes first: a thread
that has read from the message finds it set. `loc_eng_dmn_conn_loc_api_server_join`
waits for the thread.

A write puts all its bytes into the pipe at once. It may also fail, and then nothing
is written.

## Main definitions

* `Life`, `Label`, `step`: The threads, the pipe and what they do.
* `CallsAt`: The calls the thread has made, by where it is.
* `Alive`: The invariant of every run.
* `Served`: A step of the server thread by its kinds.

## Theorems

* `served_of_step`: Every step of the server thread is of one of these kinds.
* `launching_spec`: What the launching thread does.
* `frame_of_served`: What the server thread leaves alone.
* `alive_step`: What every step keeps.
-/

namespace Taoshan

namespace Conn

namespace Teardown

open Bytes Launch

/-- `loc_api_server_proc_init` and the others, which are all given. -/
def serverProcs (createThreadCb : Bool) : Procs := ⟨true, true, true, true, createThreadCb⟩

/-- Where the thread is that ends the server. -/
inductive Closer
  | idle
  | flagged
  | unblocked
  | joined
  deriving DecidableEq, Repr

/-- What the server thread has called. -/
inductive Called
  | init
  | pre
  | proc
  | post
  deriving DecidableEq, Repr

/-- The threads, and the control pipe; it is there between `thread_proc_init` and
    `thread_proc_post`. `control` has the bytes that are in it, how far the receiver
    is, what was written, and the calls of the receiver that are over. `delivered`
    says whether the message that unblocks the thread got into the pipe. -/
structure Life (k : Nat) where
  threads : Launch.Sys
  opened : Bool
  control : Sys k
  closer : Closer
  delivered : Bool
  calls : List Called

/-- The messages that were handed on. -/
def Life.handled {k : Nat} (s : Life k) : List (Handler × Call) :=
  s.control.calls.filterMap (handedOn k)

/-- Before the launch. -/
def Life.fresh (k : Nat) (threadExit threadReady : Bool) : Life k :=
  ⟨Launch.Sys.fresh threadExit threadReady, false, idleSys k, .idle, false, []⟩

/-- The steps: those of the launching thread, somebody writing a message, the next
    step of the server thread, with the buffer that `malloc` returns and what becomes
    of the read if there is one, and the three steps of ending it. -/
inductive Label
  | launching (a : Launch.Label)
  | send (msg : List UInt8)
  | server (memory : Option Mem) (answer : Answer)
  | unblockThelper
  | unblockProc (stack : Mem) (written : Bool)
  | join

def Label.isServer : Label → Bool
  | .server _ _ => true
  | _ => false

/-- If the step reads, then as much as it asks for. -/
def Label.Whole : Label → Prop
  | .server _ answer => answer = .whole
  | _ => True

instance : (a : Label) → Decidable a.Whole
  | .server _ answer => inferInstanceAs (Decidable (answer = .whole))
  | .launching _ | .send _ | .unblockThelper | .unblockProc _ _ | .join => isTrue trivial

/-- The `cmsgbuf` of `loc_eng_dmn_conn_unblock_proc`, on a stack that holds anything. -/
def unblockMsg (k : Nat) (stack : Mem) : List UInt8 :=
  peek (poke stack (k + 8) [0xF3]) 0 (ctrlMsgSize k)

section Step

variable {k : Nat} (cap : SizeT k) (p : Procs)

/-- The message is written if the pipe is there. -/
def write (msg : List UInt8) (s : Life k) : Option (Life k) :=
  if s.opened then
    some { s with control := { s.control with
      stream := (msgsnd k fifoWrite s.control.stream msg).2
      sent := s.control.sent ++ [msg] } }
  else none

/-- The next step of the server thread, `called` being what it calls. -/
def advance (result : Int) (called : List Called) (s : Life k) : Option (Life k) :=
  (helperStep p result s.threads).map fun t => { s with threads := t, calls := s.calls ++ called }

/-- `loc_api_server_proc` behind a read. -/
def procRead (s : Life k) (c : Sys k) : Option (Life k) :=
  match c.phase with
  | .body _ _ => some { s with control := c }
  -- It returns 0, with a message or without.
  | .idle => advance p 0 [.proc] { s with control := c }

/-- `loc_api_server_proc`, from one read to the next. -/
def proc (memory : Option Mem) (answer : Answer) (s : Life k) : Option (Life k) :=
  match s.control.phase with
  | .body mem count => (receiveBody k s.control mem count answer).bind (procRead p s)
  | .idle => match memory with
    | none => advance p (-1) [.proc] s
    | some buf => (receiveHeader k cap s.control buf answer).bind (procRead p s)

def serverStep (memory : Option Mem) (answer : Answer) (s : Life k) : Option (Life k) :=
  match s.threads.helper with
  | .init => advance p 0 [.init] { s with opened := true }
  | .pre => advance p 0 [.pre] s
  | .proc => proc cap p memory answer s
  | .post => advance p 0 [.post] { s with opened := false }
  | _ => advance p 0 [] s

/-- One step of one of the threads, or `none` if it cannot be taken. -/
def step (s : Life k) : Label → Option (Life k)
  | .launching (.helper _) => none
  | .launching a => (Launch.step p s.threads a).map fun t => { s with threads := t }
  | .send msg => write msg s
  | .server memory answer => serverStep cap p memory answer s
  -- The server is ended only after the launch has returned.
  | .unblockThelper =>
      if s.closer = .idle ∧ s.threads.launcher = .returned then
        some { s with closer := .flagged, threads := { s.threads with threadExit := true } }
      else none
  | .unblockProc stack written =>
      if s.closer = .flagged then
        match (if written then write (unblockMsg k stack) s else none) with
        | some t => some { t with closer := .unblocked, delivered := true }
        | none => some { s with closer := .unblocked }
      else none
  -- `pthread_join` waits for the end.
  | .join =>
      if s.closer = .unblocked ∧ s.threads.helper = .ended then some { s with closer := .joined }
      else none

end Step

/-- The calls the thread has made, by what it does next. -/
def CallsAt (calls : List Called) : Helper → Prop
  | .none | .init => calls = []
  | .signal | .pre => calls = [.init]
  | .proc => ∃ n, calls = .init :: .pre :: List.replicate n .proc
  | .procFailed | .test | .post => ∃ n, calls = .init :: .pre :: List.replicate (n + 1) .proc
  | .ended => ∃ n, calls = .init :: .pre :: (List.replicate (n + 1) .proc ++ [.post])
  | .initFailed | .signalFailed | .preFailed => False

/-- The pipe is there. -/
def Opened : Helper → Prop
  | .none | .init | .ended => False
  | _ => True

/-- The thread reads before it looks at `thread_exit`. -/
def Reads : Helper → Prop
  | .signal | .pre | .proc => True
  | _ => False

/-- The reads that are left of a call do not find the pipe empty. -/
def Supplied {k : Nat} (c : Sys k) : Prop :=
  match c.phase with
  | .idle => k < c.stream.length
  | .body _ _ => 0 < c.stream.length

/-- The invariant of every run. -/
structure Alive {k : Nat} (s : Life k) : Prop where
  calls : CallsAt s.calls s.threads.helper
  opened : s.opened = true ↔ Opened s.threads.helper
  between : s.threads.helper ≠ .proc → s.control.phase = .idle
  unstarted : s.threads.launcher = .start ∨ s.threads.launcher = .create →
    s.threads.helper = .none
  exit : s.closer ≠ .idle → s.threads.threadExit = true ∧ s.threads.launcher = .returned
  joined : s.closer = .joined → s.threads.helper = .ended
  unblocked : s.delivered = true → s.closer ≠ .idle ∧ s.threads.helper ≠ .none ∧
    s.threads.helper ≠ .init ∧ (Reads s.threads.helper → Supplied s.control)

section Writes

variable {k : Nat}

/-- A message that is written is that much in the pipe. -/
theorem length_write {s t : Life k} {msg : List UInt8} (h : write msg s = some t) :
    t.control.stream.length = s.control.stream.length + (frame k msg).length := by
  simp only [write, Option.ite_none_right_eq_some, Option.some.injEq] at h
  rw [← h.2]
  have hsnd : (msgsnd k fifoWrite s.control.stream msg).2 = s.control.stream ++ frame k msg := by
    unfold msgsnd fifoWrite
    dsimp only
    split
    · rfl
    · rfl
  simp only [hsnd, List.length_append]

theorem lt_length_unblockMsg (hk : 0 < k) (stack : Mem) :
    k < (frame k (unblockMsg k stack)).length := by
  have hsize := typeOff_le_size hk
  have htype := lt_typeOff hk
  have hlen : (unblockMsg k stack).length = ctrlMsgSize k := peek_length _ _ _
  unfold frame
  rw [List.length_append, encode_length, List.length_drop, hlen]
  omega

end Writes

section Steps

variable {k : Nat} {cap : SizeT k} {cb : Bool} {memory : Option Mem} {answer : Answer}
  {s t : Life k}

/-- What a step of the server thread does. -/
inductive Served (cap : SizeT k) (answer : Answer) (s : Life k) : Life k → Prop
  | inited (hat : s.threads.helper = .init) (log : List Event) : Served cap answer s
      { s with
        threads := { s.threads with helper := .signal, log := log }
        opened := true, calls := s.calls ++ [.init] }
  | signalled (hat : s.threads.helper = .signal) : Served cap answer s
      { s with threads := signalReady { s.threads with helper := .pre } }
  | prepared (hat : s.threads.helper = .pre) : Served cap answer s
      { s with threads := { s.threads with helper := .proc }, calls := s.calls ++ [.pre] }
  | goesOn (hat : s.threads.helper = .proc) (hidle : s.control.phase = .idle) {buf : Mem}
      {c : Sys k} (hread : receiveHeader k cap s.control buf answer = some c) {mem : Mem}
      {count : SizeT k} (hbody : c.phase = .body mem count) : Served cap answer s
      { s with control := c }
  | givesUp (hat : s.threads.helper = .proc) (hidle : s.control.phase = .idle) {buf : Mem}
      {c : Sys k} (hread : receiveHeader k cap s.control buf answer = some c)
      (hover : c.phase = .idle) : Served cap answer s
      { s with
        threads := { s.threads with helper := .test }
        control := c, calls := s.calls ++ [.proc] }
  | received (hat : s.threads.helper = .proc) {mem : Mem} {count : SizeT k}
      (hbody : s.control.phase = .body mem count) {c : Sys k}
      (hread : receiveBody k s.control mem count answer = some c) : Served cap answer s
      { s with
        threads := { s.threads with helper := .test }
        control := c, calls := s.calls ++ [.proc] }
  | starved (hat : s.threads.helper = .proc) (hidle : s.control.phase = .idle) :
      Served cap answer s
      { s with threads := { s.threads with helper := .procFailed }, calls := s.calls ++ [.proc] }
  | failed (hat : s.threads.helper = .procFailed) : Served cap answer s
      { s with threads := { s.threads with threadExit := true, helper := .test } }
  | again (hat : s.threads.helper = .test) (hexit : s.threads.threadExit = false) :
      Served cap answer s { s with threads := { s.threads with helper := .proc } }
  | left (hat : s.threads.helper = .test) (hexit : s.threads.threadExit = true) :
      Served cap answer s { s with threads := { s.threads with helper := .post } }
  | removed (hat : s.threads.helper = .post) : Served cap answer s
      { s with
        threads := { s.threads with helper := .ended }
        opened := false, calls := s.calls ++ [.post] }

/-- `loc_api_server_proc` that returns 0. -/
theorem advance_proc (hat : s.threads.helper = .proc) (c : Sys k) :
    advance (serverProcs cb) 0 [.proc] { s with control := c } = some { s with
      threads := { s.threads with helper := .test }
      control := c, calls := s.calls ++ [.proc] } := by
  simp only [advance, helperStep, hat, serverProcs, Int.lt_irrefl, decide_false, Bool.and_false,
    Bool.false_eq_true, if_false, Option.map_some]

/-- And one that returns -1. -/
theorem advance_starved (hat : s.threads.helper = .proc) :
    advance (serverProcs cb) (-1) [.proc] s = some { s with
      threads := { s.threads with helper := .procFailed }, calls := s.calls ++ [.proc] } := by
  have hneg : decide ((-1 : Int) < 0) = true := rfl
  simp only [advance, helperStep, hat, serverProcs, hneg, Bool.and_self, if_true, Option.map_some]

theorem served_of_proc (hat : s.threads.helper = .proc)
    (hs : proc cap (serverProcs cb) memory answer s = some t) : Served cap answer s t := by
  unfold proc at hs
  cases hphase : s.control.phase with
  | body mem count =>
      simp only [hphase] at hs
      rcases Option.bind_eq_some_iff.mp hs with ⟨c, hread, hs⟩
      rw [procRead, (receiveBody_inv hread).2.1] at hs
      simp only [advance_proc hat, Option.some.injEq] at hs
      rw [← hs]
      exact .received hat hphase hread
  | idle =>
      simp only [hphase] at hs
      cases memory with
      | none =>
          simp only [advance_starved hat, Option.some.injEq] at hs
          rw [← hs]
          exact .starved hat hphase
      | some buf =>
          rcases Option.bind_eq_some_iff.mp hs with ⟨c, hread, hs⟩
          unfold procRead at hs
          cases hnext : c.phase with
          | body mem count =>
              simp only [hnext, Option.some.injEq] at hs
              rw [← hs]
              exact .goesOn hat hphase hread hnext
          | idle =>
              simp only [hnext, advance_proc hat, Option.some.injEq] at hs
              rw [← hs]
              exact .givesUp hat hphase hread hnext

theorem served_of_step (h : CallsAt s.calls s.threads.helper)
    (hs : serverStep cap (serverProcs cb) memory answer s = some t) : Served cap answer s t := by
  unfold serverStep at hs
  cases hat : s.threads.helper with
  | none =>
      simp only [hat, advance, helperStep, Option.map_none, reduceCtorEq] at hs
  | init =>
      simp only [hat, advance, helperStep, serverProcs, if_true, Int.lt_irrefl, if_false,
        Option.map_some, Option.some.injEq] at hs
      rw [← hs]
      exact .inited hat _
  -- Only thread_proc fails.
  | initFailed =>
      rw [hat] at h
      exact h.elim
  | signalFailed =>
      rw [hat] at h
      exact h.elim
  | signal =>
      simp only [hat, advance, helperStep, Option.map_some, Option.some.injEq, List.append_nil]
        at hs
      rw [← hs]
      exact .signalled hat
  | pre =>
      simp only [hat, advance, helperStep, serverProcs, Int.lt_irrefl, decide_false, Bool.and_false,
        Bool.false_eq_true, if_false, Option.map_some, Option.some.injEq] at hs
      rw [← hs]
      exact .prepared hat
  | preFailed =>
      rw [hat] at h
      exact h.elim
  | proc =>
      simp only [hat] at hs
      exact served_of_proc hat hs
  | procFailed =>
      simp only [hat, advance, helperStep, Option.map_some, Option.some.injEq, List.append_nil]
        at hs
      rw [← hs]
      exact .failed hat
  | test =>
      simp only [hat, advance, helperStep, Option.map_some, Option.some.injEq, List.append_nil]
        at hs
      rw [← hs]
      by_cases hexit : s.threads.threadExit = true
      · rw [if_pos hexit]
        exact .left hat hexit
      · rw [if_neg hexit]
        exact .again hat (Bool.eq_false_iff.mpr hexit)
  | post =>
      simp only [hat, advance, helperStep, Option.map_some, Option.some.injEq] at hs
      rw [← hs]
      exact .removed hat
  | ended =>
      simp only [hat, advance, helperStep, Option.map_none, reduceCtorEq] at hs

theorem launching_inv {p : Procs} {b : Launch.Label}
    (hs : step cap p s (.launching b) = some t) :
    (∀ result, b ≠ .helper result) ∧
      ∃ v, Launch.step p s.threads b = some v ∧ t = { s with threads := v } := by
  have hmap : ∀ {o : Option Launch.Sys}, (o.map fun v => { s with threads := v }) = some t →
      ∃ v, o = some v ∧ t = { s with threads := v } := by
    intro o ho
    rcases Option.map_eq_some_iff.mp ho with ⟨v, hv, he⟩
    exact ⟨v, hv, he.symm⟩
  cases b with
  | helper result => cases hs
  | signalInit => exact ⟨nofun, hmap hs⟩
  | createThreadCb started => exact ⟨nofun, hmap hs⟩
  | pthreadCreate result => exact ⟨nofun, hmap hs⟩
  | lock => exact ⟨nofun, hmap hs⟩
  | wakeUp => exact ⟨nofun, hmap hs⟩
  | relock => exact ⟨nofun, hmap hs⟩
  | ret => exact ⟨nofun, hmap hs⟩

/-- What the launching thread does: it starts the other one, and it clears the
    flags before that. -/
theorem launching_spec {p : Procs} {u v : Launch.Sys} {a : Launch.Label}
    (ha : ∀ result, a ≠ .helper result) (h : Launch.step p u a = some v) :
    (v.helper = u.helper ∨ u.launcher = .create ∧ (v.helper = .none ∨ v.helper = .init)) ∧
      u.launcher ≠ .returned ∧
      (v.launcher = .start ∨ v.launcher = .create → u.launcher = .start ∧ v.helper = u.helper) := by
  cases Launch.step_inv h with
  | cleared hat => exact ⟨Or.inl rfl, by rw [hat]; decide, fun _ => ⟨hat, rfl⟩⟩
  | called started hat =>
      refine ⟨Or.inr ⟨hat, ?_⟩, by rw [hat]; decide, nofun⟩
      cases started with
      | true => exact Or.inr rfl
      | false => exact Or.inl rfl
  | refused result hat => exact ⟨Or.inl rfl, by rw [hat]; decide, nofun⟩
  | created result hat => exact ⟨Or.inr ⟨hat, Or.inr rfl⟩, by rw [hat]; decide, nofun⟩
  | slept hat _ _ => exact ⟨Or.inl rfl, by rw [hat]; decide, nofun⟩
  | passed hat _ => exact ⟨Or.inl rfl, by rw [hat]; decide, nofun⟩
  | wokeUp hat => exact ⟨Or.inl rfl, by rw [hat]; decide, nofun⟩
  | relocked byItself hat => exact ⟨Or.inl rfl, by rw [hat]; exact nofun, nofun⟩
  | returned hat => exact ⟨Or.inl rfl, by rw [hat]; decide, nofun⟩
  | moved result next _ _ => exact absurd rfl (ha result)
  | inited result r _ _ => exact absurd rfl (ha result)
  | failed result _ => exact absurd rfl (ha result)
  | exited result next _ _ => exact absurd rfl (ha result)
  | signalled result next _ _ => exact absurd rfl (ha result)

/-- What the server thread leaves alone: it does not start, end or take away
    anything of the other threads. -/
structure Frame (s t : Life k) : Prop where
  closer : t.closer = s.closer
  delivered : t.delivered = s.delivered
  sent : t.control.sent = s.control.sent
  launcher : t.threads.launcher = s.threads.launcher ∨
    s.threads.launcher = .asleep ∧ t.threads.launcher = .woken false
  exit : s.threads.threadExit = true → t.threads.threadExit = true
  started : s.threads.helper ≠ .none ∧ s.threads.helper ≠ .ended
  running : t.threads.helper ≠ .none ∧ t.threads.helper ≠ .init

theorem frame_of_served (h : Served cap answer s t) : Frame s t := by
  have started : ∀ {helper : Helper}, s.threads.helper = helper → helper ≠ .none →
      helper ≠ .ended → s.threads.helper ≠ .none ∧ s.threads.helper ≠ .ended := by
    intro helper hat hnone hended
    rw [hat]
    exact ⟨hnone, hended⟩
  cases h with
  | inited hat log =>
      exact ⟨rfl, rfl, rfl, Or.inl rfl, id, started hat nofun nofun, nofun, nofun⟩
  | signalled hat =>
      -- A launching thread that is asleep is woken.
      refine ⟨rfl, rfl, rfl, ?_, id, started hat nofun nofun, nofun, nofun⟩
      by_cases hasleep : s.threads.launcher = .asleep
      · exact Or.inr ⟨hasleep, if_pos hasleep⟩
      · exact Or.inl (if_neg hasleep)
  | prepared hat => exact ⟨rfl, rfl, rfl, Or.inl rfl, id, started hat nofun nofun, nofun, nofun⟩
  | goesOn hat _ hread _ =>
      refine ⟨rfl, rfl, (receiveHeader_inv hread).1, Or.inl rfl, id, started hat nofun nofun, ?_,
        ?_⟩
      · exact (started hat nofun nofun).1
      · rw [hat]
        exact nofun
  | givesUp hat _ hread _ =>
      exact ⟨rfl, rfl, (receiveHeader_inv hread).1, Or.inl rfl, id, started hat nofun nofun, nofun,
        nofun⟩
  | received hat _ hread =>
      exact ⟨rfl, rfl, (receiveBody_inv hread).1, Or.inl rfl, id, started hat nofun nofun, nofun,
        nofun⟩
  | starved hat _ => exact ⟨rfl, rfl, rfl, Or.inl rfl, id, started hat nofun nofun, nofun, nofun⟩
  | failed hat =>
      exact ⟨rfl, rfl, rfl, Or.inl rfl, fun _ => rfl, started hat nofun nofun, nofun, nofun⟩
  | again hat _ => exact ⟨rfl, rfl, rfl, Or.inl rfl, id, started hat nofun nofun, nofun, nofun⟩
  | left hat _ => exact ⟨rfl, rfl, rfl, Or.inl rfl, id, started hat nofun nofun, nofun, nofun⟩
  | removed hat => exact ⟨rfl, rfl, rfl, Or.inl rfl, id, started hat nofun nofun, nofun, nofun⟩

end Steps

section Runs

variable {k : Nat} {cap : SizeT k} {cb : Bool} {answer : Answer} {s t : Life k} {a : Label}

theorem alive_fresh (threadExit threadReady : Bool) : Alive (.fresh k threadExit threadReady) where
  calls := rfl
  opened := iff_of_false Bool.false_ne_true id
  between := fun _ => rfl
  unstarted := fun _ => rfl
  exit := fun h => absurd rfl h
  joined := nofun
  unblocked := nofun

/-- The calls go on as they should. -/
theorem callsAt_served (h : CallsAt s.calls s.threads.helper) (hs : Served cap answer s t) :
    CallsAt t.calls t.threads.helper := by
  -- Every round is one more call of thread_proc.
  have hproc : s.threads.helper = .proc →
      ∃ n, s.calls ++ [.proc] = .init :: .pre :: List.replicate (n + 1) .proc := by
    intro hat
    rw [hat] at h
    rcases h with ⟨n, hn⟩
    exact ⟨n, by simp only [hn, List.cons_append, List.replicate_succ']⟩
  cases hs with
  | inited hat log =>
      rw [hat] at h
      exact (congrArg (· ++ [Called.init]) h).trans rfl
  | signalled hat =>
      rw [hat] at h
      exact h
  | prepared hat =>
      rw [hat] at h
      exact ⟨0, (congrArg (· ++ [Called.pre]) h).trans rfl⟩
  | goesOn _ _ _ _ => exact h
  | givesUp hat _ _ _ => exact hproc hat
  | received hat _ _ => exact hproc hat
  | starved hat _ => exact hproc hat
  | failed hat =>
      rw [hat] at h
      exact h
  | again hat _ =>
      rw [hat] at h
      rcases h with ⟨n, hn⟩
      exact ⟨n + 1, hn⟩
  | left hat _ =>
      rw [hat] at h
      exact h
  | removed hat =>
      rw [hat] at h
      rcases h with ⟨n, hn⟩
      refine ⟨n, ?_⟩
      simp only [hn, List.cons_append]

/-- The pipe is there from the first call to the last, and a receiver between its
    reads is in `thread_proc`. -/
theorem pipe_served (h : Alive s) (hs : Served cap answer s t) :
    (t.opened = true ↔ Opened t.threads.helper) ∧
      (t.threads.helper ≠ .proc → t.control.phase = .idle) := by
  have same : ∀ {helper next : Helper}, s.threads.helper = helper → Opened helper → Opened next →
      (s.opened = true ↔ Opened next) := by
    intro helper next hat hopen hnext
    exact iff_of_true (h.opened.mpr (hat ▸ hopen)) hnext
  have quiet : ∀ {helper : Helper}, s.threads.helper = helper → helper ≠ .proc →
      s.control.phase = .idle := fun hat hne => h.between (by rw [hat]; exact hne)
  cases hs with
  | inited hat log => exact ⟨iff_of_true rfl trivial, fun _ => quiet hat nofun⟩
  | signalled hat => exact ⟨same hat trivial trivial, fun _ => quiet hat nofun⟩
  | prepared hat => exact ⟨same hat trivial trivial, fun _ => quiet hat nofun⟩
  | goesOn hat _ _ _ => exact ⟨h.opened, fun hne => absurd hat hne⟩
  | givesUp hat _ _ hover => exact ⟨same hat trivial trivial, fun _ => hover⟩
  | received hat _ hread =>
      exact ⟨same hat trivial trivial, fun _ => (receiveBody_inv hread).2.1⟩
  | starved hat hidle => exact ⟨same hat trivial trivial, fun _ => hidle⟩
  | failed hat => exact ⟨same hat trivial trivial, fun _ => quiet hat nofun⟩
  | again hat _ => exact ⟨same hat trivial trivial, fun hne => absurd rfl hne⟩
  | left hat _ => exact ⟨same hat trivial trivial, fun _ => quiet hat nofun⟩
  | removed hat => exact ⟨iff_of_false Bool.false_ne_true id, fun _ => quiet hat nofun⟩

/-- A thread that is to end finds bytes where it looks for them. -/
theorem supplied_served (h : Alive s) (hs : Served cap answer s t) (hdel : s.delivered = true)
    (hreads : Reads t.threads.helper) : Supplied t.control := by
  rcases h.unblocked hdel with ⟨hcloser, _, hinit, hsupplied⟩
  cases hs with
  | inited hat log => exact absurd hat hinit
  | signalled hat => exact hsupplied (by rw [hat]; trivial)
  | prepared hat => exact hsupplied (by rw [hat]; trivial)
  | @goesOn hat hidle buf c hread mem count hbody =>
      -- The first read takes no more than the size, and there was more.
      have hmore := hsupplied (by rw [hat]; trivial)
      have hlen := (receiveHeader_inv hread).2.1
      unfold Supplied at hmore ⊢
      simp only [hidle] at hmore
      simp only [hbody]
      omega
  | givesUp _ _ _ _ => exact hreads.elim
  | received _ _ _ => exact hreads.elim
  | starved _ _ => exact hreads.elim
  | failed hat => exact hreads.elim
  | again hat hexit =>
      -- The flag was set before the message was written.
      rw [(h.exit hcloser).1] at hexit
      exact Bool.noConfusion hexit
  | left hat _ => exact hreads.elim
  | removed hat => exact hreads.elim

theorem alive_server (h : Alive s) (hs : Served cap answer s t) : Alive t := by
  have hframe := frame_of_served hs
  rcases pipe_served h hs with ⟨hopened, hbetween⟩
  have hlauncher : ∀ l : Launcher, l ≠ .woken false → t.threads.launcher = l →
      s.threads.launcher = l := by
    intro l hl ht
    rcases hframe.launcher with hsame | ⟨_, hwoken⟩
    · rw [← hsame]
      exact ht
    · rw [hwoken] at ht
      exact absurd ht.symm hl
  refine ⟨callsAt_served h.calls hs, hopened, hbetween, fun hl => ?_, fun hc => ?_, fun hc => ?_,
    fun hd => ⟨?_, hframe.running.1, hframe.running.2, ?_⟩⟩
  · -- It could not have taken a step before it was started.
    refine absurd (h.unstarted ?_) hframe.started.1
    rcases hl with hl | hl
    · exact Or.inl (hlauncher _ (by decide) hl)
    · exact Or.inr (hlauncher _ (by decide) hl)
  · rw [hframe.closer] at hc
    rcases h.exit hc with ⟨hexit, hret⟩
    refine ⟨hframe.exit hexit, ?_⟩
    rcases hframe.launcher with hsame | ⟨hasleep, _⟩
    · rw [hsame, hret]
    · rw [hret] at hasleep
      cases hasleep
  · -- Nothing moves any more.
    rw [hframe.closer] at hc
    exact absurd (h.joined hc) hframe.started.2
  · rw [hframe.delivered] at hd
    rw [hframe.closer]
    exact (h.unblocked hd).1
  · rw [hframe.delivered] at hd
    exact supplied_served h hs hd

/-- What is written leaves the threads alone, and adds to what is in the pipe. -/
theorem write_inv {msg : List UInt8} (hw : write msg s = some t) :
    s.opened = true ∧ ∃ stream, s.control.stream.length ≤ stream.length ∧
      t = { s with control :=
        { s.control with stream := stream, sent := s.control.sent ++ [msg] } } := by
  have hlen := length_write hw
  simp only [write, Option.ite_none_right_eq_some, Option.some.injEq] at hw
  rcases hw with ⟨hopen, rfl⟩
  exact ⟨hopen, _, by rw [hlen]; exact Nat.le_add_right _ _, rfl⟩

theorem supplied_mono {c c' : Sys k} (h : Supplied c) (hphase : c'.phase = c.phase)
    (hlen : c.stream.length ≤ c'.stream.length) : Supplied c' := by
  unfold Supplied at h ⊢
  rw [hphase]
  cases hp : c.phase with
  | idle =>
      simp only [hp] at h ⊢
      omega
  | body mem count =>
      simp only [hp] at h ⊢
      omega

theorem alive_write (h : Alive s) {msg : List UInt8} (hw : write msg s = some t) : Alive t := by
  rcases write_inv hw with ⟨_, stream, hlen, rfl⟩
  exact ⟨h.calls, h.opened, h.between, h.unstarted, h.exit, h.joined, fun hd =>
    ⟨(h.unblocked hd).1, (h.unblocked hd).2.1, (h.unblocked hd).2.2.1, fun hreads =>
      supplied_mono ((h.unblocked hd).2.2.2 hreads) rfl hlen⟩⟩

theorem alive_launching (h : Alive s) {b : Launch.Label} {v : Launch.Sys}
    (hb : ∀ result, b ≠ .helper result)
    (hs : Launch.step (serverProcs cb) s.threads b = some v) : Alive { s with threads := v } := by
  rcases launching_spec hb hs with ⟨hhelper, hret, hstart⟩
  -- The server is not being ended before the launch has returned.
  have hidle : s.closer = .idle := by
    by_contra hne
    exact hret (h.exit hne).2
  have hnotSent : s.delivered ≠ true := fun hd => (h.unblocked hd).1 hidle
  have hunjoined : s.closer ≠ .joined := by
    rw [hidle]
    exact nofun
  -- Until it starts the server thread, nothing that the invariant speaks of changes.
  rcases hhelper with hsame | ⟨hcreate, hnew⟩
  · refine ⟨?_, ?_, fun hne => h.between (hsame ▸ hne), fun hl => ?_, fun hc => absurd hidle hc,
      fun hc => absurd hc hunjoined, fun hd => absurd hd hnotSent⟩
    · change CallsAt s.calls v.helper
      rw [hsame]
      exact h.calls
    · change s.opened = true ↔ Opened v.helper
      rw [hsame]
      exact h.opened
    · rcases hstart hl with ⟨hat, _⟩
      exact hsame.trans (h.unstarted (Or.inl hat))
  · -- The thread is started, or it is not.
    have hnone := h.unstarted (Or.inr hcreate)
    have hcalls := h.calls
    have hopened := h.opened
    rw [hnone] at hcalls hopened
    have hquiet : s.control.phase = .idle := h.between (by rw [hnone]; exact nofun)
    refine ⟨?_, ?_, fun _ => hquiet, fun hl => ?_, fun hc => absurd hidle hc,
      fun hc => absurd hc hunjoined, fun hd => absurd hd hnotSent⟩
    · change CallsAt s.calls v.helper
      rcases hnew with hnew | hnew
      · rw [hnew]
        exact hcalls
      · rw [hnew]
        exact hcalls
    · change s.opened = true ↔ Opened v.helper
      rcases hnew with hnew | hnew
      · rw [hnew]
        exact hopened
      · rw [hnew]
        exact hopened
    · rw [hcreate] at hstart
      exact absurd (hstart hl).1 (by decide)

/-- What becomes of the message that unblocks the thread: it is in the pipe, or
    nothing has happened. -/
theorem unblockProc_inv {p : Procs} {stack : Mem} {written : Bool}
    (hs : step cap p s (.unblockProc stack written) = some t) :
    s.closer = .flagged ∧
      ((∃ u, write (unblockMsg k stack) s = some u ∧
        t = { u with closer := .unblocked, delivered := true }) ∨
      t = { s with closer := .unblocked }) := by
  simp only [step, Option.ite_none_right_eq_some] at hs
  rcases hs with ⟨hflagged, hs⟩
  refine ⟨hflagged, ?_⟩
  split at hs
  · rename_i u hu
    rw [Option.ite_none_right_eq_some] at hu
    exact Or.inl ⟨u, hu.2, (Option.some.inj hs).symm⟩
  · exact Or.inr (Option.some.inj hs).symm

/-- Every step keeps the invariant. -/
theorem alive_step (hk : 0 < k) (h : Alive s) (hs : step cap (serverProcs cb) s a = some t) :
    Alive t := by
  cases a with
  | launching b =>
      rcases launching_inv hs with ⟨hb, v, hv, rfl⟩
      exact alive_launching h hb hv
  | send msg => exact alive_write h hs
  | server memory answer => exact alive_server h (served_of_step h.calls hs)
  -- The flag is set before the message is written.
  | unblockThelper =>
      simp only [step, Option.ite_none_right_eq_some, Option.some.injEq] at hs
      rcases hs with ⟨⟨hidle, hret⟩, rfl⟩
      exact ⟨h.calls, h.opened, h.between, h.unstarted, fun _ => ⟨rfl, hret⟩, nofun,
        fun hd => absurd hidle (h.unblocked hd).1⟩
  | unblockProc stack written =>
      rcases unblockProc_inv hs with ⟨hflagged, hcases⟩
      have hexit := h.exit (by rw [hflagged]; decide)
      rcases hcases with ⟨u, hu, rfl⟩ | rfl
      · -- The message is in the pipe, which is there, and it is more than a size.
        have halive := alive_write h hu
        have hlen := length_write hu
        have hmore := lt_length_unblockMsg hk stack
        rcases write_inv hu with ⟨hopen, stream, _, rfl⟩
        have hopened := h.opened.mp hopen
        refine ⟨halive.calls, halive.opened, halive.between, halive.unstarted, fun _ => hexit,
          nofun, fun _ => ⟨nofun, ?_, ?_, fun _ => ?_⟩⟩
        · intro hnone
          rw [show s.threads.helper = .none from hnone] at hopened
          exact hopened
        · intro hinit
          rw [show s.threads.helper = .init from hinit] at hopened
          exact hopened
        · have hlong : k < stream.length := by
            rw [show stream.length = _ from hlen]
            omega
          unfold Supplied
          dsimp only
          cases s.control.phase with
          | idle => exact hlong
          | body mem count => exact Nat.zero_lt_of_lt hlong
      · exact ⟨h.calls, h.opened, h.between, h.unstarted, fun _ => hexit, nofun,
          fun hd => ⟨nofun, (h.unblocked hd).2⟩⟩
  | join =>
      simp only [step, Option.ite_none_right_eq_some, Option.some.injEq] at hs
      rcases hs with ⟨⟨hunblocked, hended⟩, rfl⟩
      exact ⟨h.calls, h.opened, h.between, h.unstarted,
        fun _ => h.exit (by rw [hunblocked]; decide), fun _ => hended,
        fun hd => ⟨nofun, (h.unblocked hd).2⟩⟩

end Runs

end Teardown

end Conn

end Taoshan

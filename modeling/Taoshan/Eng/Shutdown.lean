import Mathlib.Logic.Function.Basic
import Taoshan.Eng.System
import Taoshan.Lib.Run

/-!
# Dropping the Last Context

`LocEngContext::drop`, called by one thread, against the loop of the deferred
action thread. The caller takes the lock, puts `QUIT` into the queue and waits
on the condition variable, which releases the lock. The thread takes up what is
queued, and when it finds `QUIT` it takes the lock, signals and exits. Then the
caller destroys the queues and the context.

A message carries its owner, and the thread reads the field `context` of the
structure it believes the owner to be. Every producer but one puts an instance
of `loc_eng_data_s_type` there. `drop` puts the context itself. It is four words
long, the field lies behind its end, and what the thread reads there is whatever
happens to be in memory: nothing that can be read, NULL, or something else
(`behind`). In the first case the thread crashes, in the second it takes its
leave without a signal, and the caller waits for good.

The handler of a message may queue others, which go to the end of the queue: the
modem's return queues the configuration. They are served too if they are ahead of
`QUIT`, and always can be (`serve_own`); behind it they stay where they are.

So the messages are never what the thread takes them for. The rest goes well
exactly if every message that was queued can be served and the word behind the
context is not NULL (`clean_iff`). That takes a wait that ends only when it
is signalled; the source does not ask whether it was.

## Main definitions

* `Owner`, `Posted`, `Queued`: Messages and whom they belong to.
* `Sys`, `step`: The two threads.
* `serve`, `Fit`: What the thread needs of the queue.
* `Own`: The messages that handlers queue.
* `ServedUpToQuit`, `Clean`, `ShutsDown`: How `drop` ought to end.

## Theorems

* `step_moved`: The steps, taken apart.
* `run_length`: No run goes on for good.
* `quit_posted`: Who has come past the lock has put `QUIT` into the queue.
* `kept_step`: The invariant.
* `clean_iff`, `shutdown_run`: How a run ends.
-/

namespace Taoshan

namespace Eng

namespace Shutdown

/-- What the `owner` of a message points to: an instance, or the context. -/
inductive Owner (ι : Type)
  | data (i : ι)
  | context

/-- A message with its owner, and what it meets when it is taken up. -/
structure Posted (ι : Type) where
  owner : Owner ι
  env : ThreadEnv
  msg : EngMsg

/-- A message as the producers make it, who all have an instance at hand. -/
structure Queued (ι : Type) where
  instanceData : ι
  env : ThreadEnv
  msg : EngMsg

def Queued.posted {ι : Type} (m : Queued ι) : Posted ι := ⟨.data m.instanceData, m.env, m.msg⟩

/-- The messages that a handler queues for its instance. They are for the adapter,
    and it does not matter what they meet. -/
def owned {ι : Type} (i : ι) (env : ThreadEnv) (msgs : List EngMsg) : List (Queued ι) :=
  msgs.map fun msg => ⟨i, env, msg⟩

/-- The message of `drop`. -/
def quitMsg (ι : Type) : Posted ι := ⟨.context, .agreed, .quit⟩

/-- Where the caller of `drop` is: it has the lock from `last` on, until it
    waits. -/
inductive DropPc
  | called
  | last
  | posted
  | waiting
  | woken
  | returned
  deriving DecidableEq, Repr

/-- Where the deferred action thread is. It has `left` if it returned without a
    signal. -/
inductive ThreadPc
  | listening
  | quitting
  | exited
  | left
  | crashed
  deriving DecidableEq, Repr

/-- The instances, the context, and the two threads. `behind` is what is read as
    the field `context` of the context. -/
structure Sys (ι : Type) where
  data : ι → EngData
  behind : Option Bool
  counter : Int
  me : Bool
  deferredQ : List (Posted ι)
  posted : List (Posted ι)
  served : List (Posted ι)
  deferredQDestroyed : Nat
  ulpQDestroyed : Nat
  drop : DropPc
  thread : ThreadPc

/-- One context, with one user, and a thread that listens. -/
def start {ι : Type} (data : ι → EngData) (behind : Option Bool) (content : List (Queued ι)) :
    Sys ι where
  data := data
  behind := behind
  counter := 1
  me := true
  deferredQ := content.map Queued.posted
  posted := content.map Queued.posted
  served := []
  deferredQDestroyed := 0
  ulpQDestroyed := 0
  drop := .called
  thread := .listening

/-- The steps of the caller, the two of the thread, and a wake-up without a
    signal. -/
inductive Label
  | lock
  | post
  | wait
  | spurious
  | resume
  | take
  | signal
  deriving DecidableEq, Repr

section System

variable {ι : Type} [DecidableEq ι] (p : Platform)

/-- `loc_eng_data_p->context`: whether it is NULL, if it can be read. -/
def Sys.contextOf (s : Sys ι) : Owner ι → Option Bool
  | .data i => some (s.data i).context
  | .context => s.behind

/-- What the loop does with a message. -/
def takeUp (s : Sys ι) (m : Posted ι) : Sys ι :=
  match s.contextOf m.owner with
  | none => { s with thread := .crashed }
  -- "instance cleanup happened"
  | some false => { s with thread := .left }
  | some true =>
      if m.msg = .quit then { s with thread := .quitting }
      else match m.owner with
        -- The handlers would write where there is no instance.
        | .context => { s with thread := .crashed }
        | .data i => match processMsg p m.env (s.data i) m.msg with
          | none => { s with thread := .crashed }
          | some (d, es) =>
              let own := (owned i m.env (queuedOf es)).map Queued.posted
              { s with
                data := Function.update s.data i d
                deferredQ := s.deferredQ ++ own
                posted := s.posted ++ own
                served := s.served ++ [m] }

def step (s : Sys ι) : Label → Option (Sys ι)
  | .lock =>
      if s.drop = .called then
        some { s with
          counter := s.counter - 1
          drop := if s.counter - 1 = 0 then .last else .returned }
      else none
  | .post =>
      if s.drop = .last then
        some { s with
          deferredQ := s.deferredQ ++ [quitMsg ι]
          posted := s.posted ++ [quitMsg ι]
          drop := .posted }
      else none
  | .wait => if s.drop = .posted then some { s with drop := .waiting } else none
  | .spurious => if s.drop = .waiting then some { s with drop := .woken } else none
  | .resume =>
      if s.drop = .woken then
        some { s with
          deferredQDestroyed := s.deferredQDestroyed + 1
          ulpQDestroyed := s.ulpQDestroyed + 1
          me := false
          drop := .returned }
      else none
  | .take =>
      if s.thread = .listening then
        -- A queue that has been destroyed is listened to all the same.
        if 0 < s.deferredQDestroyed then some { s with thread := .crashed }
        else match s.deferredQ with
          | [] => none
          | m :: rest => some (takeUp p { s with deferredQ := rest } m)
      else none
  | .signal =>
      -- The lock has to be free.
      if s.thread = .quitting ∧ s.drop ≠ .last ∧ s.drop ≠ .posted then
        some { s with
          thread := .exited
          drop := if s.drop = .waiting then .woken else s.drop }
      else none

/-- Nobody can go on, unless a wait ends without a signal. -/
def Stuck (s : Sys ι) : Prop := ∀ a, a ≠ .spurious → step p s a = none

/-- A message is served: its instance has its context, it does not end the loop,
    and it meets no NULL pointer. -/
def serve (data : ι → EngData) (m : Queued ι) : Option (ι → EngData) :=
  if (data m.instanceData).context = true ∧ m.msg ≠ .quit then
    (processMsg p m.env (data m.instanceData) m.msg).map
      (fun r => Function.update data m.instanceData r.1)
  else none

/-- All that is queued can be served, and what lies behind the context can be
    read and is not NULL. -/
def Fit (data : ι → EngData) (behind : Option Bool) (content : List (Queued ι)) : Prop :=
  (Run.exec (serve p) data content).isSome = true ∧ behind = some true

/-- All that was queued ahead of `QUIT` was served in order: the content, and what
    the handlers had queued by then. -/
def ServedUpToQuit (content : List (Queued ι)) (s : Sys ι) : Prop :=
  ∃ own later : List (Queued ι), s.served = (content ++ own).map Queued.posted ∧
    s.posted = s.served ++ quitMsg ι :: later.map Queued.posted

/-- What was queued was served in order, `QUIT` was recognised and answered with
    a signal, and `drop` has returned after it had destroyed all there is. -/
structure Clean (content : List (Queued ι)) (s : Sys ι) : Prop where
  served : ServedUpToQuit content s
  thread : s.thread = .exited
  drop : s.drop = .returned
  deferredQ : s.deferredQDestroyed = 1
  ulpQ : s.ulpQDestroyed = 1
  me : s.me = false

/-- The same, and every message belonged to an instance. -/
structure ShutsDown (content : List (Queued ι)) (s : Sys ι) : Prop where
  owned : ∀ m ∈ s.posted, ∃ i, m.owner = .data i
  clean : Clean content s

end System

section Steps

variable {ι : Type} [DecidableEq ι] {p : Platform} {s s' : Sys ι}

/-- What taking up a message comes to. -/
inductive TakenUp (p : Platform) (s : Sys ι) (m : Posted ι) : Sys ι → Prop
  | failed {t : ThreadPc} (ht : t = .left ∨ t = .crashed)
      (hno : ∀ i, m.owner = .data i →
        (s.data i).context = false ∨ processMsg p m.env (s.data i) m.msg = none)
      (hquit : m = quitMsg ι → s.behind ≠ some true) :
      TakenUp p s m { s with thread := t }
  | quitting (hmsg : m.msg = .quit) (hbehind : m.owner = .context → s.behind = some true) :
      TakenUp p s m { s with thread := .quitting }
  | served {i : ι} {d : EngData} {es : List Event} (howner : m.owner = .data i)
      (hcontext : (s.data i).context = true) (hmsg : m.msg ≠ .quit)
      (hround : processMsg p m.env (s.data i) m.msg = some (d, es)) :
      TakenUp p s m { s with
        data := Function.update s.data i d
        deferredQ := s.deferredQ ++ (owned i m.env (queuedOf es)).map Queued.posted
        posted := s.posted ++ (owned i m.env (queuedOf es)).map Queued.posted
        served := s.served ++ [m] }

theorem takenUp_takeUp (p : Platform) (s : Sys ι) (m : Posted ι) :
    TakenUp p s m (takeUp p s m) := by
  have hfailed : ∀ {t : ThreadPc}, t = .left ∨ t = .crashed →
      s.contextOf m.owner ≠ some true → TakenUp p s m { s with thread := t } := by
    intro t ht hno
    refine .failed ht (fun i hi => Or.inl ?_) (fun hquit hbehind => hno ?_)
    · rw [hi] at hno
      exact Bool.eq_false_iff.mpr (fun hcontext => hno (congrArg some hcontext))
    · rw [hquit]
      exact hbehind
  unfold takeUp
  cases hcontext : s.contextOf m.owner with
  | none => exact hfailed (Or.inr rfl) (by rw [hcontext]; decide)
  | some b =>
      cases b with
      | false => exact hfailed (Or.inl rfl) (by rw [hcontext]; decide)
      | true =>
          dsimp only
          by_cases hmsg : m.msg = .quit
          · rw [if_pos hmsg]
            refine .quitting hmsg (fun howner => ?_)
            rw [howner] at hcontext
            exact hcontext
          · rw [if_neg hmsg]
            cases howner : m.owner with
            | context =>
                refine .failed (Or.inr rfl) (fun i hi => ?_) (fun hquit => ?_)
                · cases howner.symm.trans hi
                · exact absurd (congrArg Posted.msg hquit) hmsg
            | data i =>
                rw [howner] at hcontext
                dsimp only
                cases hround : processMsg p m.env (s.data i) m.msg with
                | none =>
                    refine .failed (Or.inr rfl) (fun j hj => Or.inr ?_) (fun hquit => ?_)
                    · rw [← Owner.data.inj (howner.symm.trans hj)]
                      exact hround
                    · exact absurd (congrArg Posted.msg hquit) hmsg
                | some r => exact .served howner (Option.some.inj hcontext) hmsg hround

/-- The steps, taken apart. -/
inductive Moved (p : Platform) (s : Sys ι) : Label → Sys ι → Prop
  | lockLast (hdrop : s.drop = .called) (hcounter : s.counter - 1 = 0) :
      Moved p s .lock { s with counter := s.counter - 1, drop := .last }
  | lockOther (hdrop : s.drop = .called) (hcounter : s.counter - 1 ≠ 0) :
      Moved p s .lock { s with counter := s.counter - 1, drop := .returned }
  | post (hdrop : s.drop = .last) :
      Moved p s .post { s with
        deferredQ := s.deferredQ ++ [quitMsg ι]
        posted := s.posted ++ [quitMsg ι]
        drop := .posted }
  | wait (hdrop : s.drop = .posted) : Moved p s .wait { s with drop := .waiting }
  | spurious (hdrop : s.drop = .waiting) : Moved p s .spurious { s with drop := .woken }
  | resume (hdrop : s.drop = .woken) :
      Moved p s .resume { s with
        deferredQDestroyed := s.deferredQDestroyed + 1
        ulpQDestroyed := s.ulpQDestroyed + 1
        me := false
        drop := .returned }
  | gone (hthread : s.thread = .listening) (hgone : 0 < s.deferredQDestroyed) :
      Moved p s .take { s with thread := .crashed }
  | take {m : Posted ι} {rest : List (Posted ι)} {s' : Sys ι} (hthread : s.thread = .listening)
      (hqueue : s.deferredQ = m :: rest) (h : TakenUp p { s with deferredQ := rest } m s') :
      Moved p s .take s'
  | signal (hthread : s.thread = .quitting) (hdrop : s.drop = .waiting) :
      Moved p s .signal { s with thread := .exited, drop := .woken }
  | signalNobody (hthread : s.thread = .quitting) (hdrop : s.drop ≠ .waiting)
      (hlast : s.drop ≠ .last) (hposted : s.drop ≠ .posted) :
      Moved p s .signal { s with thread := .exited }

theorem step_moved {a : Label} (h : step p s a = some s') : Moved p s a s' := by
  cases a with
  | lock =>
      simp only [step, Option.ite_none_right_eq_some, Option.some.injEq] at h
      rcases h with ⟨hdrop, rfl⟩
      by_cases hcounter : s.counter - 1 = 0
      · rw [if_pos hcounter]
        exact .lockLast hdrop hcounter
      · rw [if_neg hcounter]
        exact .lockOther hdrop hcounter
  | post =>
      simp only [step, Option.ite_none_right_eq_some, Option.some.injEq] at h
      rcases h with ⟨hdrop, rfl⟩
      exact .post hdrop
  | wait =>
      simp only [step, Option.ite_none_right_eq_some, Option.some.injEq] at h
      rcases h with ⟨hdrop, rfl⟩
      exact .wait hdrop
  | spurious =>
      simp only [step, Option.ite_none_right_eq_some, Option.some.injEq] at h
      rcases h with ⟨hdrop, rfl⟩
      exact .spurious hdrop
  | resume =>
      simp only [step, Option.ite_none_right_eq_some, Option.some.injEq] at h
      rcases h with ⟨hdrop, rfl⟩
      exact .resume hdrop
  | take =>
      simp only [step, Option.ite_none_right_eq_some] at h
      rcases h with ⟨hthread, h⟩
      by_cases hgone : 0 < s.deferredQDestroyed
      · rw [if_pos hgone, Option.some.injEq] at h
        rw [← h]
        exact .gone hthread hgone
      · rw [if_neg hgone] at h
        cases hqueue : s.deferredQ with
        | nil =>
            rw [hqueue] at h
            cases h
        | cons m rest =>
            rw [hqueue] at h
            simp only [Option.some.injEq] at h
            rw [← h]
            exact .take hthread hqueue (takenUp_takeUp p _ m)
  | signal =>
      simp only [step, Option.ite_none_right_eq_some, Option.some.injEq] at h
      rcases h with ⟨⟨hthread, hlast, hposted⟩, rfl⟩
      by_cases hdrop : s.drop = .waiting
      · rw [if_pos hdrop]
        exact .signal hthread hdrop
      · rw [if_neg hdrop]
        exact .signalNobody hthread hdrop hlast hposted

/-- How far the caller has to go, and what `QUIT` makes of it. -/
def DropPc.left : DropPc → Nat
  | .called => 29
  | .last => 28
  | .posted => 3
  | .waiting => 2
  | .woken => 1
  | .returned => 0

/-- How many steps can follow, at most. A message that is not for the adapter may
    make its handler queue seven. -/
def fuel (s : Sys ι) : Nat :=
  3 * s.deferredQ.length + 21 * s.deferredQ.countP (fun m => !m.msg.isAdapter) + s.drop.left +
    match s.thread with
    | .listening => 2
    | .quitting => 1
    | _ => 0

omit [DecidableEq ι] in
/-- What a handler queues is for the adapter, and there is none of it if the message
    was for the adapter itself. -/
theorem owned_adapter {i : ι} {m : Posted ι} {data d : EngData} {es : List Event}
    (hround : processMsg p m.env data m.msg = some (d, es)) :
    (∀ q ∈ owned i m.env (queuedOf es), q.instanceData = i ∧ q.msg.isAdapter = true) ∧
      (owned i m.env (queuedOf es)).length ≤ if m.msg.isAdapter then 0 else 7 := by
  have hlength : (owned i m.env (queuedOf es)).length = (queuedOf es).length := List.length_map _
  have hup := upMessages_adapter p m.env data
  refine ⟨fun q hq => ?_, ?_⟩
  · rcases List.mem_map.mp hq with ⟨msg, hmsg, rfl⟩
    rw [queuedOf_processMsg hround] at hmsg
    exact ⟨rfl, hup.2 msg (List.mem_ite_nil_right.mp hmsg).2⟩
  · rw [hlength, queuedOf_processMsg hround]
    by_cases hmsg : m.msg = .nif .engineUp
    · rw [if_pos hmsg, hmsg]
      exact hup.1
    · rw [if_neg hmsg]
      exact Nat.zero_le _

omit [DecidableEq ι] in
/-- What is served makes room for what its handler queues. -/
theorem weight_served (i : ι) {m : Posted ι} (rest : List (Posted ι)) {data d : EngData}
    {es : List Event} (hround : processMsg p m.env data m.msg = some (d, es)) :
    let own := (owned i m.env (queuedOf es)).map Queued.posted
    3 * (rest ++ own).length + 21 * (rest ++ own).countP (fun m => !m.msg.isAdapter) <
      3 * (m :: rest).length + 21 * (m :: rest).countP (fun m => !m.msg.isAdapter) := by
  intro own
  have hown := owned_adapter (i := i) hround
  have hplain : own.countP (fun m => !m.msg.isAdapter) = 0 := by
    refine List.countP_eq_zero.mpr (fun x hx => ?_)
    rcases List.mem_map.mp hx with ⟨q, hq, rfl⟩
    simp only [Queued.posted, (hown.1 q hq).2, Bool.not_true, Bool.false_eq_true, not_false_eq_true]
  have hlength : own.length ≤ if m.msg.isAdapter then 0 else 7 := by
    rw [List.length_map]
    exact hown.2
  rw [List.length_append, List.countP_append, List.countP_cons, hplain, List.length_cons]
  cases hmsg : m.msg.isAdapter with
  | true =>
      rw [hmsg, if_pos rfl] at hlength
      rw [Bool.not_true, if_neg Bool.false_ne_true]
      omega
  | false =>
      rw [hmsg, if_neg Bool.false_ne_true] at hlength
      rw [Bool.not_false, if_pos rfl]
      omega

theorem fuel_step {a : Label} (h : step p s a = some s') : fuel s' < fuel s := by
  cases step_moved h with
  | lockLast hdrop _ | lockOther hdrop _ | wait hdrop | spurious hdrop | resume hdrop =>
      simp only [fuel, hdrop, DropPc.left]
      omega
  | post hdrop =>
      have hone : [quitMsg ι].countP (fun m => !m.msg.isAdapter) = 1 := rfl
      simp only [fuel, hdrop, DropPc.left, List.length_append, List.length_singleton,
        List.countP_append, hone]
      omega
  | gone hthread _ =>
      simp only [fuel, hthread]
      omega
  | @take m rest s' hthread hqueue htaken =>
      have hless : 3 * rest.length + 21 * rest.countP (fun m => !m.msg.isAdapter) + 3 ≤
          3 * s.deferredQ.length + 21 * s.deferredQ.countP (fun m => !m.msg.isAdapter) := by
        rw [hqueue, List.length_cons, List.countP_cons]
        omega
      cases htaken with
      | failed ht _ _ =>
          rcases ht with rfl | rfl
          · simp only [fuel, hthread]
            omega
          · simp only [fuel, hthread]
            omega
      | quitting _ _ =>
          simp only [fuel, hthread]
          omega
      | @served i _ _ _ _ _ hround =>
          have hweight := weight_served i rest hround
          simp only [fuel, hthread, hqueue] at hweight ⊢
          omega
  | signal hthread hdrop =>
      simp only [fuel, hthread, hdrop, DropPc.left]
      omega
  | signalNobody hthread _ _ _ =>
      simp only [fuel, hthread]
      omega

/-- No run goes on for good. -/
theorem run_length {acts : List Label} (h : Run.exec (step p) s acts = some s') :
    acts.length ≤ fuel s := by
  induction acts generalizing s with
  | nil => exact Nat.zero_le _
  | cons a acts ih =>
      rcases Run.exec_cons_inv h with ⟨s₁, hstep, hrest⟩
      have hless := fuel_step hstep
      have hmore := ih hrest
      rw [List.length_cons]
      omega

/-- Whoever is past the lock has put `QUIT` into the queue. -/
def QuitPosted (s : Sys ι) : Prop :=
  (s.drop = .called → s.counter = 1) ∧
    (s.drop = .called ∨ s.drop = .last ∨ quitMsg ι ∈ s.posted)

theorem quitPosted_step {a : Label} (hq : QuitPosted s) (h : step p s a = some s') :
    QuitPosted s' := by
  -- Past the lock, what has been posted stays posted.
  have hlater : s.drop ≠ .called → s.drop ≠ .last → quitMsg ι ∈ s.posted := by
    intro hcalled hlast
    rcases hq.2 with hdrop | hdrop | hmem
    · exact absurd hdrop hcalled
    · exact absurd hdrop hlast
    · exact hmem
  cases step_moved h with
  | lockLast _ _ => exact ⟨nofun, Or.inr (Or.inl rfl)⟩
  | lockOther hdrop hcounter =>
      rw [hq.1 hdrop] at hcounter
      exact absurd rfl hcounter
  | post _ => exact ⟨nofun, Or.inr (Or.inr (List.mem_append_right _ (List.mem_singleton_self _)))⟩
  | wait hdrop | spurious hdrop | resume hdrop =>
      exact ⟨nofun, Or.inr (Or.inr (hlater (by rw [hdrop]; decide) (by rw [hdrop]; decide)))⟩
  | gone _ _ => exact hq
  | take _ _ htaken =>
      cases htaken with
      | failed _ _ _ => exact hq
      | quitting _ _ => exact hq
      | served _ _ _ _ =>
          exact ⟨hq.1, hq.2.imp id (Or.imp id (List.mem_append_left _))⟩
  | signal _ hdrop =>
      exact ⟨nofun, Or.inr (Or.inr (hlater (by rw [hdrop]; decide) (by rw [hdrop]; decide)))⟩
  | signalNobody _ _ _ _ => exact hq

/-- When `drop` has returned, a message was posted that belongs to no instance. -/
theorem quit_posted {data : ι → EngData} {behind : Option Bool} {content : List (Queued ι)}
    {acts : List Label} (h : Run.exec (step p) (start data behind content) acts = some s)
    (hdrop : s.drop = .returned) : quitMsg ι ∈ s.posted := by
  have hstart : QuitPosted (start data behind content) := ⟨fun _ => rfl, Or.inl rfl⟩
  have hq := Run.exec_invariant QuitPosted (fun _ _ _ hs hstep => quitPosted_step hs hstep) hstart h
  rcases hq.2 with hcalled | hlast | hmem
  · cases hdrop.symm.trans hcalled
  · cases hdrop.symm.trans hlast
  · exact hmem

end Steps

section Outcome

variable {ι : Type} [DecidableEq ι] {p : Platform} {s s' : Sys ι} {data : ι → EngData}
  {behind : Option Bool} {content : List (Queued ι)}

/-- A message that a handler has queued: it can be served. -/
def Own (data : ι → EngData) (m : Queued ι) : Prop :=
  (data m.instanceData).context = true ∧ m.msg.isAdapter = true

/-- What is in the queue from `QUIT` on, once that is there. -/
def fromQuit (drop : DropPc) (later : List (Queued ι)) : List (Posted ι) :=
  if drop = .called ∨ drop = .last then [] else quitMsg ι :: later.map Queued.posted

/-- How far the thread has come with the queue. Once it is `lost`, nothing makes
    up for it. -/
inductive Stage (p : Platform) (data : ι → EngData) (behind : Option Bool)
    (content : List (Queued ι)) (s : Sys ι) : Prop
  | listening {done rest own later : List (Queued ι)} (hall : done ++ rest = content ++ own)
      (hown : ∀ m ∈ own, Own data m) (hserve : Run.exec (serve p) data done = some s.data)
      (hserved : s.served = done.map Queued.posted)
      (hqueue : s.deferredQ = rest.map Queued.posted ++ fromQuit s.drop later)
      (hposted : s.posted = (content ++ own).map Queued.posted ++ fromQuit s.drop later)
      (hthread : s.thread = .listening) (hdrop : s.drop ≠ .woken ∧ s.drop ≠ .returned)
  | quitting (hfit : Fit p data behind content) (hserved : ServedUpToQuit content s)
      (hthread : s.thread = .quitting) (hdrop : s.drop = .posted ∨ s.drop = .waiting)
  | exited (hfit : Fit p data behind content) (hserved : ServedUpToQuit content s)
      (hthread : s.thread = .exited) (hdrop : s.drop = .woken ∨ s.drop = .returned)
  | lost (hfit : ¬ Fit p data behind content) (hthread : s.thread ≠ .listening)
      (hserved : s.thread = .quitting ∨ s.thread = .exited →
        ¬ content.map Queued.posted <+: s.served)

/-- The invariant of every run whose wait is not ended too early. -/
structure Kept (p : Platform) (data : ι → EngData) (behind : Option Bool)
    (content : List (Queued ι)) (s : Sys ι) : Prop where
  behind_eq : s.behind = behind
  counter : s.drop = .called → s.counter = 1
  deferredQ : s.deferredQDestroyed = if s.drop = .returned then 1 else 0
  ulpQ : s.ulpQDestroyed = if s.drop = .returned then 1 else 0
  me : s.drop = .returned → s.me = false
  stage : Stage p data behind content s

theorem kept_start (p : Platform) (data : ι → EngData) (behind : Option Bool)
    (content : List (Queued ι)) : Kept p data behind content (start data behind content) where
  behind_eq := rfl
  counter := fun _ => rfl
  deferredQ := rfl
  ulpQ := rfl
  me := nofun
  stage := @Stage.listening _ _ _ _ _ _ _ [] content [] [] (List.append_nil content).symm
    (List.forall_mem_nil _) rfl rfl (List.append_nil _).symm
    (by rw [List.append_nil]; exact (List.append_nil _).symm) rfl ⟨nofun, nofun⟩

/-- A message that cannot be served spoils the queue it is in. -/
theorem not_fit {done rest : List (Queued ι)} {data' : ι → EngData} {m : Queued ι}
    (hserve : Run.exec (serve p) data done = some data') (hnone : serve p data' m = none) :
    ¬ Fit p data behind (done ++ m :: rest) := by
  rintro ⟨hsome, _⟩
  rw [Run.exec_append (m :: rest) hserve, Run.exec, hnone] at hsome
  cases hsome

theorem serve_of_round {m : Queued ι} {d : EngData} {es : List Event}
    (hcontext : (data m.instanceData).context = true) (hmsg : m.msg ≠ .quit)
    (hround : processMsg p m.env (data m.instanceData) m.msg = some (d, es)) :
    serve p data m = some (Function.update data m.instanceData d) := by
  unfold serve
  rw [if_pos ⟨hcontext, hmsg⟩, hround, Option.map_some]

/-- What is served, one message further. -/
theorem exec_serve_snoc {done : List (Queued ι)} {data' data'' : ι → EngData} {m : Queued ι}
    (hserve : Run.exec (serve p) data done = some data') (h : serve p data' m = some data'') :
    Run.exec (serve p) data (done ++ [m]) = some data'' := by
  rw [Run.exec_append [m] hserve, Run.exec_cons_of_step [] h]
  rfl

/-- A thread that has left or crashed neither listens nor has found `QUIT`. -/
theorem failed_pc {t : ThreadPc} (ht : t = .left ∨ t = .crashed) :
    t ≠ .listening ∧ ¬ (t = .quitting ∨ t = .exited) := by
  rcases ht with rfl | rfl
  · decide
  · decide

/-- Serving leaves it to every instance whether it has its context. -/
theorem context_of_exec_serve {done : List (Queued ι)} {data' : ι → EngData}
    (h : Run.exec (serve p) data done = some data') (i : ι) :
    (data' i).context = (data i).context := by
  refine Run.exec_invariant (fun d => ∀ i, (d i).context = (data i).context) ?_ (fun _ => rfl) h i
  intro d m d' hd hstep j
  simp only [serve, Option.ite_none_right_eq_some, Option.map_eq_some_iff] at hstep
  rcases hstep with ⟨_, r, hround, rfl⟩
  by_cases hj : j = m.instanceData
  · rw [hj, Function.update_self, (processMsg_frame hround).context]
    exact hd _
  · rw [Function.update_of_ne hj]
    exact hd j

/-- What a handler has queued can be served whenever its turn comes. -/
theorem serve_own {done : List (Queued ι)} {data' : ι → EngData} {m : Queued ι}
    (hserve : Run.exec (serve p) data done = some data') (hm : Own data m) :
    serve p data' m ≠ none := by
  rcases processMsg_adapter p m.env (data' m.instanceData) hm.2 with ⟨d, es, hround, _⟩
  have hmsg : m.msg ≠ .quit := by
    intro hquit
    have hadapter := hm.2
    rw [hquit] at hadapter
    cases hadapter
  rw [serve_of_round ((context_of_exec_serve hserve _).trans hm.1) hmsg hround]
  exact nofun

/-- So a message that cannot be served is one of those that were there. -/
theorem content_of_unserved {done rest own : List (Queued ι)} {data' : ι → EngData}
    {m : Queued ι} (hall : done ++ m :: rest = content ++ own) (hown : ∀ m ∈ own, Own data m)
    (hserve : Run.exec (serve p) data done = some data') (hnone : serve p data' m = none) :
    ∃ r, content = done ++ m :: r := by
  rcases List.append_eq_append_iff.mp hall with ⟨as, hcontent, hrest⟩ | ⟨bs, _, hbs⟩
  · cases as with
    | nil =>
        rw [List.nil_append] at hrest
        refine absurd hnone (serve_own hserve (hown m ?_))
        rw [← hrest]
        exact List.mem_cons_self
    | cons a as =>
        rw [List.cons_append, List.cons.injEq] at hrest
        rw [hrest.1]
        exact ⟨as, hcontent⟩
  · refine absurd hnone (serve_own hserve (hown m ?_))
    rw [hbs]
    exact List.mem_append_right _ List.mem_cons_self

/-- The thread has found a message that it cannot serve. -/
theorem lost_of_unserved {done rest own : List (Queued ι)} {data' : ι → EngData} {m : Queued ι}
    (hall : done ++ m :: rest = content ++ own) (hown : ∀ m ∈ own, Own data m)
    (hserve : Run.exec (serve p) data done = some data') (hnone : serve p data' m = none)
    (hserved : s.served = done.map Queued.posted) (hthread : s.thread ≠ .listening) :
    Stage p data behind content s := by
  rcases content_of_unserved hall hown hserve hnone with ⟨r, rfl⟩
  refine .lost (not_fit hserve hnone) hthread (fun _ hprefix => ?_)
  -- What has been served is shorter than the content.
  have hlength := hprefix.length_le
  rw [hserved, List.length_map, List.length_map, List.length_append, List.length_cons] at hlength
  omega

/-- A message is served, and what its handler queues goes to the end: ahead of
    `QUIT`, or behind it. -/
theorem stage_served {done rest own later : List (Queued ι)} {m : Queued ι} {d : EngData}
    {es : List Event} (hall : done ++ m :: rest = content ++ own) (hown : ∀ m ∈ own, Own data m)
    (hserve : Run.exec (serve p) data done = some s.data)
    (hserved : s.served = done.map Queued.posted)
    (hposted : s.posted = (content ++ own).map Queued.posted ++ fromQuit s.drop later)
    (hcontext : (s.data m.instanceData).context = true) (hmsg : m.msg ≠ .quit)
    (hround : processMsg p m.env (s.data m.instanceData) m.msg = some (d, es))
    (hthread : s.thread = .listening) (hdrop : s.drop ≠ .woken ∧ s.drop ≠ .returned) :
    Stage p data behind content { s with
      data := Function.update s.data m.instanceData d
      deferredQ := rest.map Queued.posted ++ fromQuit s.drop later ++
        (owned m.instanceData m.env (queuedOf es)).map Queued.posted
      posted := s.posted ++ (owned m.instanceData m.env (queuedOf es)).map Queued.posted
      served := s.served ++ [m.posted] } := by
  have hserve' := exec_serve_snoc hserve (serve_of_round hcontext hmsg hround)
  have hserved' : s.served ++ [m.posted] = (done ++ [m]).map Queued.posted := by
    rw [List.map_append, ← hserved]
    rfl
  have hall' : (done ++ [m]) ++ rest = content ++ own := by
    rw [← hall, List.append_assoc]
    rfl
  have hnew : ∀ q ∈ owned m.instanceData m.env (queuedOf es),
      q.instanceData = m.instanceData ∧ q.msg.isAdapter = true :=
    (owned_adapter (i := m.instanceData) (m := m.posted) hround).1
  generalize owned m.instanceData m.env (queuedOf es) = new at hnew ⊢
  unfold fromQuit at hposted ⊢
  by_cases hbefore : s.drop = .called ∨ s.drop = .last
  · rw [if_pos hbefore, List.append_nil] at hposted ⊢
    refine @Stage.listening _ _ _ _ _ _ _ (done ++ [m]) (rest ++ new) (own ++ new) []
      ?_ (fun q hq => ?_) hserve' hserved' ?_ ?_ hthread hdrop
    · rw [← List.append_assoc, hall', List.append_assoc]
    · rcases List.mem_append.mp hq with hq | hq
      · exact hown q hq
      · refine ⟨?_, (hnew q hq).2⟩
        rw [(hnew q hq).1, ← context_of_exec_serve hserve]
        exact hcontext
    · simp only [fromQuit, if_pos hbefore, List.map_append, List.append_nil]
    · simp only [fromQuit, if_pos hbefore, hposted, List.map_append, List.append_assoc,
        List.append_nil]
  · rw [if_neg hbefore] at hposted ⊢
    refine @Stage.listening _ _ _ _ _ _ _ (done ++ [m]) rest own (later ++ new)
      hall' hown hserve' hserved' ?_ ?_ hthread hdrop
    · simp only [fromQuit, if_neg hbefore, List.map_append, List.append_assoc, List.cons_append]
    · simp only [fromQuit, if_neg hbefore, hposted, List.map_append, List.append_assoc,
        List.cons_append]

/-- What the thread makes of the next message. -/
theorem stage_take {done rest own later : List (Queued ι)} {m : Posted ι}
    {queue : List (Posted ι)} (hbehind : s.behind = behind) (hall : done ++ rest = content ++ own)
    (hown : ∀ m ∈ own, Own data m) (hserve : Run.exec (serve p) data done = some s.data)
    (hserved : s.served = done.map Queued.posted)
    (hqueue : m :: queue = rest.map Queued.posted ++ fromQuit s.drop later)
    (hposted : s.posted = (content ++ own).map Queued.posted ++ fromQuit s.drop later)
    (hthread : s.thread = .listening) (hdrop : s.drop ≠ .woken ∧ s.drop ≠ .returned)
    (h : TakenUp p { s with deferredQ := queue } m s') : Stage p data behind content s' := by
  cases rest with
  | nil =>
      -- Nothing is left ahead of `QUIT`, and the caller has come as far as to wait for it.
      rw [List.append_nil] at hall
      rw [List.map_nil, List.nil_append] at hqueue
      unfold fromQuit at hqueue hposted
      by_cases hbefore : s.drop = .called ∨ s.drop = .last
      · rw [if_pos hbefore] at hqueue
        cases hqueue
      · rw [if_neg hbefore] at hqueue hposted
        rw [List.cons.injEq] at hqueue
        rcases hqueue with ⟨rfl, rfl⟩
        cases h with
        | failed ht _ hquit =>
            exact .lost (fun hfit => hquit rfl (hbehind.trans hfit.2)) (failed_pc ht).1
              (fun hc => absurd hc (failed_pc ht).2)
        | quitting _ hword =>
            have hfit : Fit p data behind content := by
              refine ⟨?_, hbehind.symm.trans (hword rfl)⟩
              rw [hall] at hserve
              rcases Run.exec_append_inv hserve with ⟨data', hcontent, _⟩
              rw [hcontent]
              rfl
            rw [hall] at hserved
            refine .quitting hfit ⟨own, later, hserved, by rw [hserved]; exact hposted⟩ rfl ?_
            cases hpc : s.drop with
            | called => exact absurd (Or.inl hpc) hbefore
            | last => exact absurd (Or.inr hpc) hbefore
            | posted => exact Or.inl rfl
            | waiting => exact Or.inr rfl
            | woken => exact absurd hpc hdrop.1
            | returned => exact absurd hpc hdrop.2
        | served howner _ _ _ => cases howner
  | cons q rest =>
      rw [List.map_cons, List.cons_append, List.cons.injEq] at hqueue
      rcases hqueue with ⟨rfl, rfl⟩
      cases h with
      | failed ht hno _ =>
          have hnone : serve p s.data q = none := by
            unfold serve
            rcases hno q.instanceData rfl with hcontext | hround
            · have hcontext : (s.data q.instanceData).context = false := hcontext
              rw [hcontext, if_neg (fun hc => Bool.false_ne_true hc.1)]
            · have hround : processMsg p q.env (s.data q.instanceData) q.msg = none := hround
              rw [hround, Option.map_none, ite_self]
          exact lost_of_unserved hall hown hserve hnone hserved (failed_pc ht).1
      | quitting hmsg _ =>
          have hnone : serve p s.data q = none := if_neg (fun hc => hc.2 hmsg)
          exact lost_of_unserved hall hown hserve hnone hserved nofun
      | served howner hcontext hmsg hround =>
          have howner := Owner.data.inj howner
          subst howner
          exact stage_served hall hown hserve hserved hposted hcontext hmsg hround hthread hdrop

/-- A step of the caller leaves a thread that is lost where it is. -/
theorem lost_of_same {s' : Sys ι} (hfit : ¬ Fit p data behind content)
    (hthread : s.thread ≠ .listening)
    (hserved : s.thread = .quitting ∨ s.thread = .exited →
      ¬ content.map Queued.posted <+: s.served)
    (ht : s'.thread = s.thread) (hs : s'.served = s.served) : Stage p data behind content s' := by
  refine .lost hfit (by rw [ht]; exact hthread) ?_
  rw [ht, hs]
  exact hserved

/-- Between the first call and the return of `drop` nothing is destroyed. -/
theorem Kept.advance {s' : Sys ι} (hk : Kept p data behind content s)
    (hbehind : s'.behind = s.behind) (hdeferred : s'.deferredQDestroyed = s.deferredQDestroyed)
    (hulp : s'.ulpQDestroyed = s.ulpQDestroyed) (hbefore : s.drop ≠ .returned)
    (hafter : s'.drop ≠ .called ∧ s'.drop ≠ .returned) (hstage : Stage p data behind content s') :
    Kept p data behind content s' where
  behind_eq := hbehind.trans hk.behind_eq
  counter := fun hdrop => absurd hdrop hafter.1
  deferredQ := by rw [hdeferred, hk.deferredQ, if_neg hbefore, if_neg hafter.2]
  ulpQ := by rw [hulp, hk.ulpQ, if_neg hbefore, if_neg hafter.2]
  me := fun hdrop => absurd hdrop hafter.2
  stage := hstage

/-- Every step keeps the invariant, if the wait is not ended too early. -/
theorem kept_step {a : Label} (hk : Kept p data behind content s) (ha : a ≠ .spurious)
    (h : step p s a = some s') : Kept p data behind content s' := by
  have hstage := hk.stage
  cases step_moved h with
  | lockLast hdrop hzero =>
      refine hk.advance rfl rfl rfl (by rw [hdrop]; nofun) ⟨nofun, nofun⟩ ?_
      cases hstage with
      | listening hall hown hserve hserved hqueue hposted hthread _ =>
          rw [hdrop] at hqueue hposted
          exact @Stage.listening _ _ _ _ _ _ _ _ _ _ [] hall hown hserve hserved hqueue hposted
            hthread ⟨nofun, nofun⟩
      | quitting _ _ _ hd | exited _ _ _ hd => simp [hdrop] at hd
      | lost hfit hthread hserved => exact lost_of_same hfit hthread hserved rfl rfl
  | lockOther hdrop hother =>
      rw [hk.counter hdrop] at hother
      exact absurd rfl hother
  | post hdrop =>
      refine hk.advance rfl rfl rfl (by rw [hdrop]; nofun) ⟨nofun, nofun⟩ ?_
      cases hstage with
      | listening hall hown hserve hserved hqueue hposted hthread _ =>
          -- There was no `QUIT` in the queue, and nothing is behind it yet.
          simp only [hdrop, fromQuit, or_true, if_true, List.append_nil] at hqueue hposted
          refine @Stage.listening _ _ _ _ _ _ _ _ _ _ [] hall hown hserve hserved ?_ ?_ hthread
            ⟨nofun, nofun⟩
          · rw [hqueue]
            rfl
          · rw [hposted]
            rfl
      | quitting _ _ _ hd | exited _ _ _ hd => simp [hdrop] at hd
      | lost hfit hthread hserved => exact lost_of_same hfit hthread hserved rfl rfl
  | wait hdrop =>
      refine hk.advance rfl rfl rfl (by rw [hdrop]; nofun) ⟨nofun, nofun⟩ ?_
      cases hstage with
      | listening hall hown hserve hserved hqueue hposted hthread _ =>
          rw [hdrop] at hqueue hposted
          exact .listening hall hown hserve hserved hqueue hposted hthread ⟨nofun, nofun⟩
      | quitting hfit hserved hthread _ => exact .quitting hfit hserved hthread (Or.inr rfl)
      | exited _ _ _ hd => simp [hdrop] at hd
      | lost hfit hthread hserved => exact lost_of_same hfit hthread hserved rfl rfl
  | spurious _ => exact absurd rfl ha
  | resume hdrop =>
      have hbefore : s.drop ≠ .returned := by rw [hdrop]; nofun
      refine ⟨hk.behind_eq, nofun, ?_, ?_, fun _ => rfl, ?_⟩
      · rw [hk.deferredQ, if_neg hbefore]
        rfl
      · rw [hk.ulpQ, if_neg hbefore]
        rfl
      · cases hstage with
        | listening _ _ _ _ _ _ _ hd => exact absurd hdrop hd.1
        | quitting _ _ _ hd => simp [hdrop] at hd
        | exited hfit hserved hthread _ => exact .exited hfit hserved hthread (Or.inr rfl)
        | lost hfit hthread hserved => exact lost_of_same hfit hthread hserved rfl rfl
  | gone hthread hgone =>
      cases hstage with
      | listening _ _ _ _ _ _ _ hd =>
          rw [hk.deferredQ, if_neg hd.2] at hgone
          exact absurd hgone (Nat.lt_irrefl 0)
      | quitting _ _ ht _ | exited _ _ ht _ => cases ht.symm.trans hthread
      | lost _ ht _ => exact absurd hthread ht
  | take hthread hqueue htaken =>
      have hnext : Stage p data behind content s' := by
        cases hstage with
        | listening hall hown hserve hserved hq hposted _ hd =>
            exact stage_take hk.behind_eq hall hown hserve hserved (hqueue.symm.trans hq) hposted
              hthread hd htaken
        | quitting _ _ ht _ | exited _ _ ht _ => cases ht.symm.trans hthread
        | lost _ ht _ => exact absurd hthread ht
      cases htaken with
      | failed _ _ _ => exact ⟨hk.behind_eq, hk.counter, hk.deferredQ, hk.ulpQ, hk.me, hnext⟩
      | quitting _ _ => exact ⟨hk.behind_eq, hk.counter, hk.deferredQ, hk.ulpQ, hk.me, hnext⟩
      | served _ _ _ _ => exact ⟨hk.behind_eq, hk.counter, hk.deferredQ, hk.ulpQ, hk.me, hnext⟩
  | signal hthread hdrop =>
      refine hk.advance rfl rfl rfl (by rw [hdrop]; nofun) ⟨nofun, nofun⟩ ?_
      cases hstage with
      | listening _ _ _ _ _ _ ht _ => cases ht.symm.trans hthread
      | quitting hfit hserved _ _ => exact .exited hfit hserved rfl (Or.inl rfl)
      | exited _ _ ht _ => cases ht.symm.trans hthread
      | lost hfit _ hserved => exact .lost hfit nofun (fun _ => hserved (Or.inl hthread))
  | signalNobody hthread hdrop hlast hposted =>
      refine ⟨hk.behind_eq, hk.counter, hk.deferredQ, hk.ulpQ, hk.me, ?_⟩
      cases hstage with
      | listening _ _ _ _ _ _ ht _ => cases ht.symm.trans hthread
      | quitting _ _ _ hd =>
          -- `QUIT` is not found before somebody waits.
          rcases hd with hd | hd
          · exact absurd hd hposted
          · exact absurd hd hdrop
      | exited _ _ ht _ => cases ht.symm.trans hthread
      | lost hfit _ hserved => exact .lost hfit nofun (fun _ => hserved (Or.inl hthread))

theorem kept_run {acts : List Label} (hacts : .spurious ∉ acts)
    (h : Run.exec (step p) (start data behind content) acts = some s) :
    Kept p data behind content s := by
  refine Run.exec_invariant_of_guarded (Kept p data behind content) (fun _ a => a ≠ .spurious)
    (fun _ _ _ hk ha hstep => kept_step hk ha hstep) (kept_start p data behind content) ?_ h
  have hplain : ∀ a ∈ acts, a ≠ .spurious := by
    intro a ha hspurious
    rw [hspurious] at ha
    exact hacts ha
  exact Run.guarded_of_forall hplain _

/-- A thread that is not lost and a caller go on until `drop` has returned. -/
theorem returned_of_stuck (hk : Kept p data behind content s) (hfit : Fit p data behind content)
    (hstuck : Stuck p s) : s.thread = .exited ∧ s.drop = .returned := by
  have hlock : s.drop ≠ .called := by
    intro hdrop
    have hnone := hstuck .lock nofun
    simp [step, hdrop] at hnone
  have hpost : s.drop ≠ .last := by
    intro hdrop
    have hnone := hstuck .post nofun
    simp [step, hdrop] at hnone
  have hwait : s.drop ≠ .posted := by
    intro hdrop
    have hnone := hstuck .wait nofun
    simp [step, hdrop] at hnone
  have hresume : s.drop ≠ .woken := by
    intro hdrop
    have hnone := hstuck .resume nofun
    simp [step, hdrop] at hnone
  cases hk.stage with
  | listening _ _ _ _ hqueue _ hthread hdrop =>
      -- The queue is there, and `QUIT` at least is in it.
      have hnone := hstuck .take nofun
      have hthere : ¬ 0 < s.deferredQDestroyed := by
        rw [hk.deferredQ, if_neg hdrop.2]
        exact Nat.lt_irrefl 0
      rw [fromQuit, if_neg (not_or.mpr ⟨hlock, hpost⟩)] at hqueue
      simp only [step, hthread, if_true, if_neg hthere] at hnone
      split at hnone
      · next hempty =>
          rw [hempty] at hqueue
          exact absurd hqueue.symm (List.append_ne_nil_of_right_ne_nil _ nofun)
      · cases hnone
  | quitting _ _ hthread hdrop =>
      rcases hdrop with hdrop | hdrop
      · exact absurd hdrop hwait
      · have hnone := hstuck .signal nofun
        simp [step, hthread, hdrop] at hnone
  | exited _ _ hthread hdrop =>
      rcases hdrop with hdrop | hdrop
      · exact absurd hdrop hresume
      · exact ⟨hthread, hdrop⟩
  | lost hno _ _ => exact absurd hfit hno

/-- A run whose wait is not ended too early, and that can go no further, ends as
    it ought to exactly if the thread could serve the queue and found something
    behind the context. -/
theorem clean_iff (hk : Kept p data behind content s) (hstuck : Stuck p s) :
    Clean content s ↔ Fit p data behind content := by
  constructor
  · intro hclean
    cases hk.stage with
    | listening _ _ _ _ _ _ ht _ => cases ht.symm.trans hclean.thread
    | quitting hfit _ _ _ => exact hfit
    | exited hfit _ _ _ => exact hfit
    | lost _ _ hserved =>
        rcases hclean.served with ⟨own, later, hall, _⟩
        refine absurd ?_ (hserved (Or.inr hclean.thread))
        rw [hall, List.map_append]
        exact List.prefix_append _ _
  · intro hfit
    rcases returned_of_stuck hk hfit hstuck with ⟨hthread, hdrop⟩
    refine ⟨?_, hthread, hdrop, ?_, ?_, hk.me hdrop⟩
    · cases hk.stage with
      | listening _ _ _ _ _ _ ht _ => cases ht.symm.trans hthread
      | quitting _ hserved _ _ => exact hserved
      | exited _ hserved _ _ => exact hserved
      | lost hno _ _ => exact absurd hfit hno
    · rw [hk.deferredQ, if_pos hdrop]
    · rw [hk.ulpQ, if_pos hdrop]

/-- No run ends as it ought to, since `QUIT` belongs to no instance. Apart from
    that, a run that can go no further does exactly if the queue was fit. -/
theorem shutdown_run (p : Platform) (data : ι → EngData) (behind : Option Bool)
    (content : List (Queued ι)) {acts : List Label} {s : Sys ι}
    (h : Run.exec (step p) (start data behind content) acts = some s) :
    ¬ ShutsDown content s ∧
      (.spurious ∉ acts → Stuck p s → (Clean content s ↔ Fit p data behind content)) := by
  refine ⟨fun hdown => ?_, fun hacts hstuck => clean_iff (kept_run hacts h) hstuck⟩
  rcases hdown.owned _ (quit_posted h hdown.clean.drop) with ⟨i, hi⟩
  cases hi

/-- The caller comes to wait, the thread finds `QUIT`. -/
def toQuit : List Label := [.lock, .post, .wait, .take]

/-- One instance, with its context. -/
def instances : Unit → EngData := fun _ => { EngData.zero with context := true }

/-- The modem is up again, and a session is to be started. -/
def upAndStart : List (Queued Unit) := [⟨(), .agreed, .nif .engineUp⟩, ⟨(), .agreed, .startFix⟩]

/-- The first is served before `drop` is called, so the configuration that its handler
    queues is ahead of `QUIT`. -/
def upThenQuit : List Label :=
  [.take, .lock, .post, .wait] ++ List.replicate 5 .take ++ [.take, .signal, .resume]

theorem shutdown_run_upThenQuit :
    ∃ s, Run.exec (step .unconfigured) (start instances (some true) upAndStart) upThenQuit =
      some s ∧
      s.served.length = 6 ∧ ¬ ShutsDown upAndStart s ∧ Clean upAndStart s ∧
      (Clean upAndStart s ↔ Fit .unconfigured instances (some true) upAndStart) := by
  have hrun : Run.exec (step .unconfigured) (start instances (some true) upAndStart) upThenQuit =
      some _ := rfl
  have h := shutdown_run .unconfigured instances (some true) upAndStart hrun
  have hclean := h.2 (by decide) (fun a ha => by
    cases a with
    | spurious => exact absurd rfl ha
    | _ => rfl)
  exact ⟨_, hrun, rfl, h.1, hclean.mpr ⟨rfl, rfl⟩, hclean⟩

/-- NULL lies behind the context: the thread takes its leave, the caller waits
    for good. -/
theorem toQuit_hangs :
    ¬ (∀ (content : List (Queued Unit)) (behind : Option Bool) (acts : List Label) (s : Sys Unit),
      Run.exec (step .unconfigured) (start instances behind content) acts = some s →
        Stuck .unconfigured s → ShutsDown content s) := by
  intro hall
  have hstuck : Stuck .unconfigured ((Run.exec (step .unconfigured)
      (start instances (some false) []) toQuit).get rfl) := by
    intro a ha
    cases a with
    | spurious => exact absurd rfl ha
    | _ => rfl
  have hdown := hall [] (some false) toQuit _ (Option.some_get rfl).symm hstuck
  cases hdown.clean.drop

end Outcome

end Shutdown

end Eng

end Taoshan

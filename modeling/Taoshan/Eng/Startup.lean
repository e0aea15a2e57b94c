import Taoshan.Eng.Machines

/-!
# Messages before the Machines

The state machines are created by `loc_eng_agps_init`, and messages for them
can come before. The service is asked for its callback before an answer of its
is queued, and the daemon has no link before `loc_eng_agps_init` launches it,
so neither is early. The modem is asked for nothing. When it is up again, the
handler looks at the callback first; when it asks for a connection, or lets one
go, the handler does not, and follows a NULL pointer.

That is the only way to one (`neverFaulted_iff`). What carries it is that a
message in the queue stays harmless: the callback is never taken away once
there is a context.

## Main definitions

* `AtlAfterInit`: A request or a release of the modem is taken up after
  `loc_eng_agps_init`.
* `Prepared`: No message in the queue can meet a machine that is not there,
  unless it is of the modem.

## Theorems

* `processMsg_prepared`: What a message needs to be processed.
* `prepared_step`: The invariant is kept.
* `neverFaulted_iff`: No pointer is NULL if and only if no request of the modem
  is early.
-/

namespace Taoshan

namespace Eng

open Agps

/-- The modem asks for a connection or lets it go. -/
def isAtlRequest : Msg → Bool
  | .requestAtl .. => true
  | .releaseAtl _ => true
  | _ => false

/-- A request or a release of the modem is not taken up before
    `loc_eng_agps_init`. -/
def AtlAfterInit (s : System) (l : Label) : Prop :=
  ∀ env m queue, l = .take env → s.queue = .nif m :: queue → isAtlRequest m = true →
    s.engine.data.agpsStatusCb = true

section Messages

variable {p : Platform} {env : ThreadEnv} {d d' : EngData} {es : List Event}

theorem nif_eq_none (hd : Equipped d) (hcb : d.agpsStatusCb = false) (i : NifId) :
    d.nif i = none := by
  have hi := hd.nif i
  rw [hcb] at hi
  exact Option.isSome_eq_false_iff.mp hi |> Option.isNone_iff_eq_none.mp

/-- With the callback, all three machines are there. -/
theorem exists_holds (hd : Equipped d) (hcb : d.agpsStatusCb = true) :
    ∃ l, Holds d l ∧ l.agpsStatusCb = true := by
  have hsome : ∀ i, ∃ m, d.nif i = some m :=
    fun i => Option.isSome_iff_exists.mp ((hd.nif i).trans hcb)
  rcases hsome .agnss with ⟨a, ha⟩
  rcases hsome .internet with ⟨b, hb⟩
  rcases hsome .wifi with ⟨c, hc⟩
  refine ⟨⟨true, a, b, c⟩, ⟨hcb, fun i => ?_⟩, rfl⟩
  cases i with
  | agnss => exact ha
  | internet => exact hb
  | wifi => exact hc

/-- A request of the modem before the machines meets a NULL pointer. -/
theorem processMsg_early (p : Platform) (env : ThreadEnv) {m : Msg} (hd : Equipped d)
    (hcb : d.agpsStatusCb = false) (hm : isAtlRequest m = true) :
    processMsg p env d (.nif m) = none := by
  have hcall : ∀ i nifEnv op, d.call i nifEnv op = none := by
    intro i nifEnv op
    simp only [EngData.call, nif_eq_none hd hcb i]
  have hdispatch : dispatch p env d (.nif m) = none := by
    cases m with
    | requestAtl handle type => exact hcall _ _ _
    | releaseAtl handle =>
        simp only [dispatch, handleNif, hcall, Outcome.andThen]
    | _ => cases hm
  simp only [processMsg, hdispatch, Outcome.andThen]

/-- A message is processed if it is not of the machines, if they are there, or
    if it is that the modem is up again. -/
theorem processMsg_prepared {msg : EngMsg} (hd : Equipped d)
    (h : ∀ m, msg = .nif m → m = .engineUp ∨ d.agpsStatusCb = true) :
    processMsg p env d msg ≠ none := by
  intro hnone
  have hdispatch := processMsg_eq_none hnone
  by_cases hmsg : ∃ m, msg = .nif m
  · rcases hmsg with ⟨m, rfl⟩
    rcases h m rfl with rfl | hcb
    · rcases handleEngineUp_isSome p env hd with ⟨r, hr⟩
      exact absurd (hdispatch.symm.trans hr) (Option.some_ne_none r).symm
    · -- The machines are there, so each message finds its own.
      rcases exists_holds hd hcb with ⟨l, hl, hset⟩
      rcases processMsg_holds hl hset p env m with ⟨d', es, hsome, _⟩
      exact absurd (hnone.symm.trans hsome) (Option.some_ne_none _).symm
  · have hother : ∀ m, msg ≠ .nif m := fun m hm => hmsg ⟨m, hm⟩
    rcases dispatch_isSome p env d hother with ⟨r, hr⟩
    exact absurd (hdispatch.symm.trans hr) (Option.some_ne_none r).symm

end Messages

section Steps

variable {p : Platform} {e e' : Engine}

/-- The callback is never taken away, since nobody clears the structure while
    there is a context. -/
theorem step_agpsStatusCb {a : Action} (hd : Equipped e.data) (h : step p e a = some e')
    (hcb : e.data.agpsStatusCb = true) : e'.data.agpsStatusCb = true := by
  rcases step_cases h with ha | ⟨env, msg, rfl, _, htaken⟩
  · exact (step_caller_machines ha (hd.context hcb) hcb h).1.agpsStatusCb.trans hcb
  · cases htaken with
    | returned _ => exact hcb
    | faulted _ _ _ => exact hcb
    | round _ _ hround => exact (processMsg_frame hround).agpsStatusCb.trans hcb

/-- The daemon's link is launched together with the machines. -/
theorem step_locApiHandle {a : Action} (hd : Equipped e.data)
    (hlink : e.locApiHandle = true → e.data.agpsStatusCb = true) (h : step p e a = some e')
    (hhandle : e'.locApiHandle = true) : e'.data.agpsStatusCb = true := by
  have hsame : e'.locApiHandle = e.locApiHandle → e'.data.agpsStatusCb = true :=
    fun heq => step_agpsStatusCb hd h (hlink (heq.symm.trans hhandle))
  rcases step_cases h with ha | ⟨env, msg, rfl, _, htaken⟩
  · cases (step_called ha h).2 with
    | agpsInit _ _ => rfl
    | _ => exact hsame rfl
  · refine hsame ?_
    cases htaken with
    | returned _ => rfl
    | faulted _ _ _ => rfl
    | round _ _ _ => rfl

/-- A step follows a NULL pointer if the message cannot be processed. -/
theorem step_faulted {a : Action} (halive : e.phase ≠ .faulted) (h : step p e a = some e')
    (hfault : e'.phase = .faulted) :
    ∃ env msg, a = .take env msg ∧ processMsg p env e.data msg = none := by
  rcases step_cases h with ha | ⟨env, msg, rfl, _, htaken⟩
  · cases step_caller_inv ha h with
    | kept _ hphase => exact absurd (hphase.symm.trans hfault) halive
    | saved _ _ _ hphase => exact absurd (hphase.symm.trans hfault) halive
    | begun _ _ _ _ _ hphase =>
        rw [hphase] at hfault
        split at hfault
        · cases hfault
        · cases hfault
  · refine ⟨env, msg, rfl, ?_⟩
    cases htaken with
    | returned _ => cases hfault
    | faulted _ _ hnone => exact hnone
    | round _ _ _ => exact absurd hfault halive

end Steps

section Runs

variable {p : Platform} {s s' : System}

/-- The thread is well, the link and the machines come together, and a message
    in the queue that is not of the modem will find its machine. -/
structure Prepared (s : System) : Prop where
  alive : s.engine.phase ≠ .faulted
  started : WellStarted s.engine
  equipped : Equipped s.engine.data
  link : s.engine.locApiHandle = true → s.engine.data.agpsStatusCb = true
  queued : ∀ m, .nif m ∈ s.queue → ofModem m = true ∨ s.engine.data.agpsStatusCb = true

theorem prepared_fresh : Prepared .fresh where
  alive := by decide
  started := wellStarted_fresh
  equipped := ⟨fun i => by cases i <;> rfl, fun h => absurd h Bool.false_ne_true⟩
  link := fun h => absurd h Bool.false_ne_true
  queued := fun _ h => absurd h List.not_mem_nil

/-- A step of the engine keeps what is left of the queue harmless. -/
theorem prepared_engineStep {a : Action} {e : Engine} {queue : List EngMsg} (h : Prepared s)
    (hstep : Eng.step p s.engine a = some e) (hqueue : ∀ msg ∈ queue, msg ∈ s.queue)
    (halive : e.phase ≠ .faulted) : Prepared ⟨e, queue ++ queuedBy s.engine e⟩ := by
  refine ⟨halive, wellStarted_step h.started hstep, equipped_step h.equipped hstep,
    step_locApiHandle h.equipped h.link hstep, fun m hm => ?_⟩
  rcases List.mem_append.mp hm with hm | hm
  · rcases h.queued m (hqueue _ hm) with hmodem | hcb
    · exact Or.inl hmodem
    · exact Or.inr (step_agpsStatusCb h.equipped hstep hcb)
  · -- What the step itself has queued is not of the machines.
    cases queuedBy_plain hstep _ hm

/-- The message that is taken up can be processed. -/
theorem prepared_take {env : ThreadEnv} {msg : EngMsg} {queue : List EngMsg} (h : Prepared s)
    (hg : AtlAfterInit s (.take env)) (hqueue : s.queue = msg :: queue) :
    processMsg p env s.engine.data msg ≠ none := by
  refine processMsg_prepared h.equipped (fun m hm => ?_)
  subst hm
  have hmem : .nif m ∈ s.queue := by
    rw [hqueue]
    exact List.mem_cons_self
  rcases h.queued m hmem with hmodem | hcb
  · -- Of the three messages of the modem, two must wait and one need not.
    cases m with
    | engineUp => exact Or.inl rfl
    | requestAtl handle type => exact Or.inr (hg env _ queue rfl hqueue rfl)
    | releaseAtl handle => exact Or.inr (hg env _ queue rfl hqueue rfl)
    | _ => cases hmodem
  · exact Or.inr hcb

theorem prepared_step {l : Label} (h : Prepared s) (hg : AtlAfterInit s l)
    (hstep : s.step p l = some s') : Prepared s' := by
  cases (system_step_inv hstep).2 with
  | took hl hqueue hengine =>
      subst hl
      refine prepared_engineStep h hengine (fun msg hmsg => ?_) (fun hfault => ?_)
      · rw [hqueue]
        exact List.mem_cons_of_mem _ hmsg
      · rcases step_faulted h.alive hengine hfault with ⟨env', msg', ha, hnone⟩
        rw [Action.take.injEq] at ha
        rw [← ha.1, ← ha.2] at hnone
        exact prepared_take h hg hqueue hnone
  | called hl ha hengine =>
      -- A call takes nothing up, so it follows no pointer.
      refine prepared_engineStep h hengine (fun _ hmsg => hmsg) (fun hfault => ?_)
      rcases step_faulted h.alive hengine hfault with ⟨env', msg', htake, _⟩
      rw [htake] at ha
      cases ha
  | filled hl hmsgs =>
      -- What is new in the queue was admitted by its producer.
      refine ⟨h.alive, h.started, h.equipped, h.link, fun m hm => ?_⟩
      rcases List.mem_append.mp hm with hm | hm
      · exact h.queued m hm
      · rcases hmsgs _ hm m rfl with hmodem | hcb | hlink
        · exact Or.inl hmodem
        · exact Or.inr hcb
        · exact Or.inr (h.link hlink)

/-- A step after which the thread is well was guarded. -/
theorem atlAfterInit_of_alive {l : Label} (h : Prepared s) (hstep : s.step p l = some s')
    (halive : s'.engine.phase ≠ .faulted) : AtlAfterInit s l := by
  intro env m queue hl hqueue hm
  by_contra hcb
  rw [Bool.not_eq_true] at hcb
  cases (system_step_inv hstep).2 with
  | @took env' msg' queue' e hl' hqueue' hengine =>
      rw [hqueue', List.cons.injEq] at hqueue
      rw [hqueue.1] at hengine
      -- The machine is missing, so there cannot have been a round.
      have hnone := processMsg_early p env' h.equipped hcb hm
      cases (step_take_inv hengine).2 with
      | returned hquit =>
          rcases hquit with hcontext | hquit
          · have hrunning := (step_take_inv hengine).1
            exact absurd (hcontext.symm.trans (h.started.context hrunning)) Bool.false_ne_true
          · cases hquit
      | faulted _ _ _ => exact halive rfl
      | round _ _ hround => exact absurd (hnone.symm.trans hround) (Option.some_ne_none _).symm
  | called hl' _ _ =>
      rw [hl'] at hl
      cases hl
  | filled hl' _ =>
      rw [hl] at hl'
      cases hl'

/-- Over every run of the system, no NULL pointer is followed if and only if
    every request and every release of the modem is taken up after
    `loc_eng_agps_init`. -/
theorem neverFaulted_iff (p : Platform) (ls : List Label) :
    Run.Throughout (System.step p) (fun s => s.engine.phase ≠ .faulted) .fresh ls ↔
      Run.Guarded (System.step p) AtlAfterInit .fresh ls :=
  Run.throughout_iff_guarded Prepared (fun _ h => h.alive)
    (fun _ _ _ h hg hstep => prepared_step h hg hstep)
    (fun _ _ _ h hstep halive => atlAfterInit_of_alive h hstep halive) prepared_fresh

/-- The engine is initialised, AGPS is not, and the modem asks for a connection;
    five messages of `loc_eng_init` are in front. -/
def earlyAtl : List Label :=
  [.call (.init .agreed), .requestATL 1 AGPS_TYPE_SUPL] ++ List.replicate 6 (.take .agreed)

/-- The thread follows the NULL pointer. -/
theorem earlyAtl_faults :
    ¬ Run.Throughout (System.step .unconfigured) (fun s => s.engine.phase ≠ .faulted) .fresh
      earlyAtl := by
  have hend : (Run.exec (System.step .unconfigured) .fresh earlyAtl).map (fun s =>
      s.engine.phase) = some .faulted := by
    decide +kernel
  rcases Option.map_eq_some_iff.mp hend with ⟨s, hexec, hfault⟩
  intro hall
  exact Run.throughout_iff_prefix.mp hall earlyAtl s (List.prefix_refl _) hexec hfault

end Runs

end Eng

end Taoshan

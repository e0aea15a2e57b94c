import Taoshan.Eng.Steps
import Taoshan.Lib.Monitor

/-!
# Setting Up and Cleaning Up

What a call of `loc_eng_init` that returns zero is worth. It ought to mean that
the modem has been configured: `loc_eng_reinit` has succeeded, in this call or
before, and its messages are in the queue.

A call that sets the engine up returns what the last of its tries returned, and
a try that succeeds queues the messages (`reinitTries_success`). Two other
calls return zero. One is given bad parameters, and one finds a context, which
thirty failed tries leave behind as well as a success does. So the value is
right exactly if the engine has been configured, or if the parameters are good
and there is no context yet (`returnsConfigured_iff`).

## Main definitions

* `SetupCall`: The calls of a sequence.
* `Configured`: The messages have been queued.
* `ReturnsConfigured`: What zero is to mean.
* `SetsUp`: The condition on a call.

## Theorems

* `reinitTries_success`: A successful try queues the messages.
* `configured_context`: What has been configured is not replaced.
* `returnsConfigured_iff`: The value is right if and only if every call is.
-/

namespace Taoshan

namespace Eng

/-- The calls of a sequence that sets the engine up and cleans up. -/
inductive SetupCall
  | init (args : InitArgs)
  | cleanup

def SetupCall.action : SetupCall → Action
  | .init args => .init args
  | .cleanup => .cleanup

/-- The messages of `loc_eng_reinit` have been queued. -/
def Configured (p : Platform) (log : List Event) : Prop :=
  ∀ msg ∈ configMessages p, .queued msg ∈ log

/-- Zero is returned only after the messages have been queued. -/
def ReturnsConfigured (p : Platform) (log : List Event) : Prop :=
  InOrder (fun pre x => x = .initReturned 0 → Configured p pre) log

/-- A call comes to an engine that has been configured, or it has good
    parameters and meets no context. -/
def SetsUp (p : Platform) (e : Engine) (a : Action) : Prop :=
  ∀ args, a = .init args → Configured p e.log ∨ getsContext e.data args = true

section Calls

variable {p : Platform} {d : EngData} {args : InitArgs} {log xs : List Event}

theorem Configured.append (h : Configured p log) (xs : List Event) : Configured p (log ++ xs) :=
  fun msg hmsg => List.mem_append_left _ (h msg hmsg)

/-- A loop that ends well has queued the messages. -/
theorem reinitTries_success {answers : Nat → AdapterErr} {tries : Nat} {ret : AdapterErr}
    (hret : ret ≠ LOC_API_ADAPTER_ERR_SUCCESS)
    (h : (reinitTries p d answers tries ret).1 = LOC_API_ADAPTER_ERR_SUCCESS) :
    Configured p (reinitTries p d answers tries ret).2 := by
  induction tries generalizing ret with
  | zero => exact absurd h hret
  | succ tries ih =>
      simp only [reinitTries] at h ⊢
      by_cases htry : (reinit p (answers (tries + 1)) d).1 = LOC_API_ADAPTER_ERR_SUCCESS
      · rw [if_pos htry]
        intro msg hmsg
        have hanswer : answers (tries + 1) = LOC_API_ADAPTER_ERR_SUCCESS := htry
        simp only [reinit, hanswer, if_true]
        exact List.mem_cons_of_mem _ (List.mem_map_of_mem hmsg)
      · -- The answer of this try is what the next one starts from.
        rw [if_neg htry] at h ⊢
        have hrest := ih htry h
        exact fun msg hmsg => List.mem_append_right _ (hrest msg hmsg)

/-- A call that sets the engine up returns zero only if it has configured it. -/
theorem init_configured (hget : getsContext d args = true) (h : (init p d args).1 = 0) :
    Configured p (init p d args).2.2 := by
  have hinit := initialised_init p d args
  generalize init p d args = r at h hinit ⊢
  cases hinit with
  | kept hkept _ => exact absurd (hkept.symm.trans hget) Bool.false_ne_true
  | dropped _ _ _ _ => exact absurd h (show (-1 : Int) ≠ 0 by decide)
  | tried _ _ _ _ =>
      have hmsgs := reinitTries_success (by decide) h
      refine Configured.append (fun msg hmsg => ?_) _
      exact List.mem_append_right _ (hmsgs msg hmsg)

/-- Any other call returns zero and queues at most that the engine is unlocked. -/
theorem init_kept (hget : getsContext d args = false) :
    (init p d args).1 = 0 ∧
      ∀ x ∈ (init p d args).2.2, x = .queued (.adapter (.engineLock 1)) := by
  unfold init
  cases hcallbacks : args.callbacks with
  | none => exact ⟨rfl, fun x hx => absurd hx List.not_mem_nil⟩
  | some callbacks =>
      dsimp only
      by_cases hevent : args.event = 0
      · rw [if_pos hevent]
        exact ⟨rfl, fun x hx => absurd hx List.not_mem_nil⟩
      · rw [if_neg hevent]
        have hcontext : d.context = true := by
          simp only [getsContext, hcallbacks, Option.isSome_some, ne_eq, hevent, not_false_eq_true,
            decide_true, Bool.and_self, Bool.true_and, Bool.not_eq_false'] at hget
          exact hget
        simp only [hcontext, if_true, setEngineLock, List.mem_singleton, imp_self, implies_true,
          and_self]

/-- The lock is not a message of the configuration. -/
theorem engineLock_not_mem (p : Platform) (lock : BitVec 32) :
    .adapter (.engineLock lock) ∉ configMessages p := by
  intro h
  exact absurd (isConfig_of_mem h) Bool.false_ne_true

/-- What a call of `loc_eng_init` may do. -/
inductive InitEvent (p : Platform) : Event → Prop
  | told (capabilities : ULong) : InitEvent p (.setCapabilitiesCb capabilities)
  | asked (status : GpsStatusValue) : InitEvent p (.call status .reinit)
  | configured (msg : EngMsg) (h : msg ∈ configMessages p) : InitEvent p (.queued msg)
  | locked (lock : BitVec 32) : InitEvent p (.queued (.adapter (.engineLock lock)))

theorem reinit_initEvent (p : Platform) (ret : AdapterErr) (d : EngData) :
    ∀ x ∈ (reinit p ret d).2, InitEvent p x := by
  intro x hx
  rcases List.mem_cons.mp hx with rfl | hx
  · exact .asked _
  · rcases List.mem_map.mp (List.mem_ite_nil_right.mp hx).2 with ⟨msg, hmsg, rfl⟩
    exact .configured msg hmsg

theorem reinitTries_initEvent (p : Platform) (d : EngData) (answers : Nat → AdapterErr)
    (tries : Nat) (ret : AdapterErr) :
    ∀ x ∈ (reinitTries p d answers tries ret).2, InitEvent p x := by
  induction tries generalizing ret with
  | zero => exact fun x hx => absurd hx List.not_mem_nil
  | succ tries ih =>
      intro x hx
      simp only [reinitTries] at hx
      split at hx
      · exact reinit_initEvent p _ d x hx
      · rcases List.mem_append.mp hx with hx | hx
        · exact reinit_initEvent p _ d x hx
        · exact ih _ x hx

theorem setEngineLock_initEvent (p : Platform) (d : EngData) (lock : BitVec 32) :
    ∀ x ∈ setEngineLock d lock, InitEvent p x := by
  intro x hx
  rw [setEngineLock_events d lock x hx]
  exact .locked lock

theorem init_initEvent (p : Platform) (d : EngData) (args : InitArgs) :
    ∀ x ∈ (init p d args).2.2, InitEvent p x := by
  intro x hx
  by_cases hget : getsContext d args = true
  · have htold : ∀ {callbacks : LocCallbacks}, x ∈ (if callbacks.setCapabilitiesCb then
        [Event.setCapabilitiesCb p.conf.CAPABILITIES] else []) → InitEvent p x := by
      intro callbacks hx
      rw [List.mem_singleton.mp (List.mem_ite_nil_right.mp hx).2]
      exact .told _
    simp only [getsContext, Bool.and_eq_true, decide_eq_true_eq, Bool.not_eq_true'] at hget
    rcases Option.isSome_iff_exists.mp hget.1.1 with ⟨callbacks, hcallbacks⟩
    simp only [init, hcallbacks, hget.1.2, hget.2, Bool.false_eq_true, if_false] at hx
    split at hx
    · exact htold hx
    · rcases List.mem_append.mp hx with hx | hx
      · rcases List.mem_append.mp hx with hx | hx
        · exact htold hx
        · exact reinitTries_initEvent p _ _ _ _ x hx
      · exact setEngineLock_initEvent p _ 1 x (List.mem_ite_nil_right.mp hx).2
  · rw [Bool.not_eq_true] at hget
    rw [(init_kept hget).2 x hx]
    exact .locked 1

/-- Cleaning up returns nothing. -/
theorem cleanup_not_returned (p : Platform) (d : EngData) :
    ∀ x ∈ cleanup p d, x ≠ .initReturned 0 := by
  intro x hx
  rcases cleanup_events p d x hx with rfl | rfl | rfl
  · simp only [ne_eq, reduceCtorEq, not_false_eq_true]
  · simp only [ne_eq, reduceCtorEq, not_false_eq_true]
  · simp only [ne_eq, reduceCtorEq, not_false_eq_true]

theorem InitEvent.not_returned {x : Event} (h : InitEvent p x) : x ≠ .initReturned 0 := by
  cases h with
  | _ => simp only [ne_eq, reduceCtorEq, not_false_eq_true]

end Calls

section Runs

variable {p : Platform} {e e' : Engine}

theorem step_init_eq {args : InitArgs} (h : step p e (.init args) = some e') :
    e'.log = e.log ++ (init p e.data args).2.2 ++ [.initReturned (init p e.data args).1] := by
  cases (step_called rfl h).2 with
  | init => rfl

theorem step_init_data {args : InitArgs} (h : step p e (.init args) = some e') :
    e'.data = (init p e.data args).2.1 := by
  cases (step_called rfl h).2 with
  | init => rfl

theorem step_init_phase {args : InitArgs} (h : step p e (.init args) = some e') :
    e'.phase ≠ .faulted := by
  rcases step_called rfl h with ⟨halive, hcalled⟩
  cases hcalled with
  | init =>
      dsimp only
      split
      · split
        · decide
        · decide
      · exact halive

theorem step_cleanup_eq (h : step p e .cleanup = some e') :
    e'.log = e.log ++ cleanup p e.data := by
  cases (step_called rfl h).2 with
  | cleanup => rfl

theorem step_cleanup_data (h : step p e .cleanup = some e') : e'.data = e.data := by
  cases (step_called rfl h).2 with
  | cleanup => rfl

/-- A call that sets up, or comes to an engine that is, returns what it should. -/
theorem returnsConfigured_step {c : SetupCall} (h : ReturnsConfigured p e.log)
    (hg : SetsUp p e c.action) (hstep : step p e c.action = some e') :
    ReturnsConfigured p e'.log := by
  cases c with
  | init args =>
      rw [step_init_eq hstep]
      refine inOrder_concat (inOrder_append_of_free h (fun x hx pre hret => ?_)) (fun hret => ?_)
      · exact absurd hret (init_initEvent p e.data args x hx).not_returned
      · rw [Event.initReturned.injEq] at hret
        rcases hg args rfl with hbefore | hget
        · exact hbefore.append _
        · -- What this call has queued is what counts.
          have hnow := init_configured hget hret
          exact fun msg hmsg => List.mem_append_right _ (hnow msg hmsg)
  | cleanup =>
      rw [step_cleanup_eq hstep]
      exact inOrder_append_of_free h (fun x hx pre hret =>
        absurd hret (cleanup_not_returned p e.data x hx))

/-- A call that does neither returns zero for nothing. -/
theorem setsUp_of_returns {c : SetupCall} (hstep : step p e c.action = some e')
    (h : ReturnsConfigured p e'.log) : SetsUp p e c.action := by
  intro args ha
  by_contra hno
  rw [not_or, Bool.not_eq_true] at hno
  rw [ha] at hstep
  -- Such a call returns zero whatever the modem would have answered.
  rcases init_kept (p := p) hno.2 with ⟨hret, hevents⟩
  rw [step_init_eq hstep, hret] at h
  have hconfigured : Configured p (e.log ++ (init p e.data args).2.2) := h _ _ [] rfl rfl
  refine hno.1 (fun msg hmsg => ?_)
  rcases List.mem_append.mp (hconfigured msg hmsg) with hold | hnew
  · exact hold
  · -- The lock is not a message of the configuration.
    have hlock := hevents _ hnew
    rw [Event.queued.injEq] at hlock
    rw [hlock] at hmsg
    exact absurd hmsg (engineLock_not_mem p 1)

/-- Without a context, nothing of the configuration has been queued. -/
def Unconfigured (p : Platform) (e : Engine) : Prop :=
  e.data.context = false → ∀ msg ∈ configMessages p, .queued msg ∉ e.log

/-- A call that is left without a context has queued nothing. -/
theorem init_without_context {args : InitArgs} {d : EngData}
    (h : (init p d args).2.1.context = false) :
    d.context = false ∧ ∀ msg ∈ configMessages p, .queued msg ∉ (init p d args).2.2 := by
  by_cases hget : getsContext d args = true
  · simp only [getsContext, Bool.and_eq_true, decide_eq_true_eq, Bool.not_eq_true'] at hget
    rcases Option.isSome_iff_exists.mp hget.1.1 with ⟨callbacks, hcallbacks⟩
    refine ⟨hget.2, fun msg hmsg hmem => ?_⟩
    simp only [init, hcallbacks, hget.1.2, hget.2, Bool.false_eq_true, if_false] at h hmem
    split at hmem
    · -- There is no adapter, and the capabilities are all that is told.
      cases List.mem_singleton.mp (List.mem_ite_nil_right.mp hmem).2
    · next hadapter =>
        rw [if_neg hadapter] at h
        exact absurd h (by simp only [contextSet, Bool.true_eq_false, not_false_eq_true])
  · rw [Bool.not_eq_true] at hget
    have hinit := initialised_init p d args
    have hsame : (init p d args).2.1 = d := by
      generalize init p d args = r at hinit
      cases hinit with
      | kept _ _ => rfl
      | dropped hset _ _ _ => exact absurd (hget.symm.trans hset) Bool.false_ne_true
      | tried hset _ _ _ => exact absurd (hget.symm.trans hset) Bool.false_ne_true
    refine ⟨by rw [← hsame]; exact h, fun msg hmsg hmem => ?_⟩
    -- At most the lock has been queued.
    have hlock := (init_kept hget).2 _ hmem
    rw [Event.queued.injEq] at hlock
    rw [hlock] at hmsg
    exact engineLock_not_mem p 1 hmsg

theorem unconfigured_step {c : SetupCall} (h : Unconfigured p e)
    (hstep : step p e c.action = some e') : Unconfigured p e' := by
  intro hcontext msg hmsg hmem
  cases c with
  | init args =>
      rw [step_init_data hstep] at hcontext
      rcases init_without_context hcontext with ⟨hbefore, hnone⟩
      rw [step_init_eq hstep] at hmem
      rcases List.mem_append.mp hmem with hmem | hmem
      · rcases List.mem_append.mp hmem with hold | hnew
        · exact h hbefore msg hmsg hold
        · exact hnone msg hmsg hnew
      · cases List.mem_singleton.mp hmem
  | cleanup =>
      rw [step_cleanup_data hstep] at hcontext
      -- Without a context, cleaning up does nothing.
      have hquiet : cleanup p e.data = [] := by
        simp only [cleanup, hcontext, if_true]
      rw [step_cleanup_eq hstep, hquiet, List.append_nil] at hmem
      exact h hcontext msg hmsg hmem

/-- An engine that has been configured has a context, so no later call replaces
    it by another. -/
theorem configured_context {cs : List SetupCall}
    (h : Run.exec (step p) .fresh (cs.map SetupCall.action) = some e)
    (hconfigured : Configured p e.log) : e.data.context = true := by
  have hinv : ∀ (cs : List SetupCall) (e₀ : Engine), Unconfigured p e₀ →
      Run.exec (step p) e₀ (cs.map SetupCall.action) = some e → Unconfigured p e := by
    intro cs
    induction cs with
    | nil =>
        intro e₀ h₀ hexec
        rw [List.map_nil, Run.exec_nil, Option.some.injEq] at hexec
        rw [← hexec]
        exact h₀
    | cons c cs ih =>
        intro e₀ h₀ hexec
        rcases Run.exec_cons_inv hexec with ⟨e₁, hstep, hrest⟩
        exact ih e₁ (unconfigured_step h₀ hstep) hrest
  by_contra hcontext
  rw [Bool.not_eq_true] at hcontext
  have hfresh : Unconfigured p .fresh := fun _ _ _ => List.not_mem_nil
  exact hinv cs .fresh hfresh h hcontext _ List.mem_cons_self
    (hconfigured _ List.mem_cons_self)

/-- Over every sequence of calls, zero means that the engine has been configured
    if and only if every call comes to an engine that has been, or has good
    parameters and meets no context. -/
theorem returnsConfigured_iff (p : Platform) (cs : List SetupCall) :
    Run.Throughout (step p) (fun e => ReturnsConfigured p e.log) .fresh (cs.map SetupCall.action) ↔
      Run.Guarded (step p) (SetsUp p) .fresh (cs.map SetupCall.action) := by
  have hfresh : ReturnsConfigured p Engine.fresh.log := inOrder_nil
  refine Run.throughout_iff_guarded_on (fun a => ∃ c : SetupCall, a = c.action)
    (fun e : Engine => ReturnsConfigured p e.log) (fun _ h => h) ?_ ?_ ?_ hfresh
  · rintro e a e' ⟨c, rfl⟩ h hg hstep
    exact returnsConfigured_step h hg hstep
  · rintro e a e' ⟨c, rfl⟩ _ hstep h
    exact setsUp_of_returns hstep h
  · intro a ha
    rcases List.mem_map.mp ha with ⟨c, _, rfl⟩
    exact ⟨c, rfl⟩

/-- The modem does not answer a first call; a second one is made. -/
def failedThenCalled : List SetupCall :=
  [.init { InitArgs.agreed with reinit := fun _ => LOC_API_ADAPTER_ERR_GENERAL_FAILURE },
    .init .agreed]

/-- The second call returns zero, and nothing has been queued. -/
theorem failedThenCalled_returns :
    ¬ Run.Throughout (step .unconfigured) (fun e => ReturnsConfigured .unconfigured e.log) .fresh
      (failedThenCalled.map SetupCall.action) := by
  -- The first call has queued nothing, but the context is there.
  have hfirst : (Run.exec (step .unconfigured) .fresh [.init { InitArgs.agreed with
      reinit := fun _ => LOC_API_ADAPTER_ERR_GENERAL_FAILURE }]).map (fun e =>
        (decide (.queued (.adapter (.suplVersion 0x10000)) ∈ e.log), getsContext e.data .agreed,
          (step .unconfigured e (.init .agreed)).isSome)) = some (false, false, true) := by
    decide +kernel
  rcases Option.map_eq_some_iff.mp hfirst with ⟨e, hexec, he⟩
  simp only [Prod.mk.injEq, decide_eq_false_iff_not] at he
  rcases he with ⟨hlog, hget, hsome⟩
  rcases Option.isSome_iff_exists.mp hsome with ⟨e', hstep⟩
  intro hall
  have hlast : ReturnsConfigured .unconfigured e'.log := by
    refine Run.throughout_iff_prefix.mp hall _ e' (List.prefix_refl _) ?_
    have happend := Run.exec_append [.init .agreed] hexec
    rw [Run.exec_cons_of_step _ hstep, Run.exec_nil] at happend
    exact happend
  rcases setsUp_of_returns (c := .init .agreed) hstep hlast .agreed rfl with hconfigured | hset
  · exact hlog (hconfigured _ List.mem_cons_self)
  · exact absurd (hget.symm.trans hset) Bool.false_ne_true

end Runs

end Eng

end Taoshan

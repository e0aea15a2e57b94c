import Taoshan.Eng.Frame

/-!
# Steps of the Engine

What one label does, said once. A message that is taken up ends the thread,
meets a NULL pointer, or is processed in a round (`Taken`). A call of another
thread leaves what concerns the thread alone, saves a server address, or is the
`loc_eng_init` that starts from nothing (`CallerStep`); what it adds to the log
is plain (`Event.ofCaller`).

Before there is a context the thread does not listen and nothing is under way,
and the machines are there exactly from `loc_eng_agps_init` on. Both hold of
every state a run from the start can reach.

## Main definitions

* `Taken`, `Called`, `CallerStep`, `Initialised`: What the steps come to.
* `Event.ofCaller`: What the callers may do.
* `Session`: The part of the structure that is about sessions.
* `WellStarted`, `Equipped`: Two invariants of every run.

## Theorems

* `step_cases`, `step_take_inv`, `step_called`: The steps taken apart.
* `step_caller_inv`, `step_caller_log`: What a call means for the thread.
* `step_caller_session`: The callers leave the session alone.
* `wellStarted_step`, `equipped_step`: The invariants are kept.
* `handleEngineUp_isSome`: The modem's return meets no NULL pointer.
-/

namespace Taoshan

namespace Eng

open Agps

section Steps

variable {p : Platform} {e e' : Engine}

/-- What taking up a message comes to: the thread returns, it follows a NULL
    pointer, or it makes a round. -/
inductive Taken (p : Platform) (e : Engine) (env : ThreadEnv) (msg : EngMsg) : Engine → Prop
  | returned (h : e.data.context = false ∨ msg = .quit) :
      Taken p e env msg { e with phase := .returned, log := e.log ++ [.took msg] }
  | faulted (hcontext : e.data.context = true) (hmsg : msg ≠ .quit)
      (h : processMsg p env e.data msg = none) :
      Taken p e env msg { e with phase := .faulted, log := e.log ++ [.took msg] }
  | round {d : EngData} {es : List Event} (hcontext : e.data.context = true) (hmsg : msg ≠ .quit)
      (h : processMsg p env e.data msg = some (d, es)) :
      Taken p e env msg { e with data := d, log := e.log ++ [.took msg] ++ es }

/-- Taking up a message comes to one of these. -/
theorem taken_take (p : Platform) (e : Engine) (env : ThreadEnv) (msg : EngMsg) :
    Taken p e env msg (e.take p env msg) := by
  unfold Engine.take
  by_cases hcontext : e.data.context = false
  · simp only [hcontext, if_true]
    exact .returned (Or.inl hcontext)
  · simp only [hcontext]
    have hcontext : e.data.context = true := by
      rw [Bool.not_eq_false] at hcontext
      exact hcontext
    by_cases hmsg : msg = .quit
    · rw [if_pos hmsg]
      exact .returned (Or.inr hmsg)
    · rw [if_neg hmsg]
      cases h : processMsg p env e.data msg with
      | none => exact .faulted hcontext hmsg h
      | some r => exact .round hcontext hmsg h

/-- A message is taken up by a thread that listens. -/
theorem step_take_inv {env : ThreadEnv} {msg : EngMsg} (h : step p e (.take env msg) = some e') :
    e.phase = .running ∧ Taken p e env msg e' := by
  unfold step at h
  split at h
  · cases h
  · dsimp only at h
    split at h
    · next hrunning =>
        rw [Option.some.injEq] at h
        rw [← h]
        exact ⟨hrunning, taken_take p e env msg⟩
    · cases h

/-- The structure without what the callers may change once there is a context. -/
def EngData.core (d : EngData) : EngData :=
  { d with
    agpsStatusCb := false
    ulpNetworkCallback := false
    ulpPhoneContextReqCb := false
    downloadRequestCb := false
    ni := { Ni.fresh with muteSessionState := d.ni.muteSessionState }
    agnssNif := none
    internetNif := none
    wifiNif := none
    ulpInitialized := false }

/-- What a caller may do: be noted, queue a message that is not of the machines,
    ask the adapter whether it is ready, and tell the capabilities. -/
def Event.ofCaller : Event → Bool
  | .call _ .reinit => true
  | .setCapabilitiesCb _ => true
  | .queued msg => !msg.isNif
  | .ulpQueued _ => true
  | .setServerProxy .. => true
  | .initReturned _ => true
  | _ => false

/-- A label of another thread. -/
def Action.ofCaller : Action → Bool
  | .take .. => false
  | _ => true

/-- A step is a call of another thread, or a message is taken up. -/
theorem step_cases {a : Action} (h : step p e a = some e') :
    a.ofCaller = true ∨
      ∃ env msg, a = .take env msg ∧ e.phase = .running ∧ Taken p e env msg e' := by
  cases a with
  | take env msg => exact Or.inr ⟨env, msg, rfl, step_take_inv h⟩
  | _ => exact Or.inl rfl

/-- The other threads leave the mute state alone. -/
theorem niStep_mute {s s' : Ni.Sys} {a : Ni.Action} (ha : ofOtherThread a = true)
    (h : Ni.step s a = some s') : s'.muteSessionState = s.muteSessionState := by
  -- The override is looked at when a request comes in, by the thread itself.
  cases a with
  | init notifyCb =>
      simp only [Ni.step, Option.some.injEq] at h
      rw [← h]
      unfold Ni.niInit
      split
      · rfl
      · split
        · rfl
        · rfl
  | request notifyFlags timeout created => cases ha
  | respond notifId userResponse =>
      simp only [Ni.step, Option.some.injEq] at h
      rw [← h]
      rfl
  | commit i =>
      simp only [Ni.step, Ni.niRespondCommit] at h
      split at h
      · cases h
      · rw [Option.some.injEq] at h
        rw [← h]
  | start i =>
      simp only [Ni.step, Ni.niThreadStart] at h
      split at h
      · split at h
        · rw [Option.some.injEq] at h
          rw [← h]
          rfl
        · rw [Option.some.injEq] at h
          rw [← h]
      · cases h
  | wake i =>
      simp only [Ni.step, Ni.niThreadWake] at h
      split at h
      · split at h
        · rw [Option.some.injEq] at h
          rw [← h]
          rfl
        · rw [Option.some.injEq] at h
          rw [← h]
      · cases h
  | timedOut i =>
      simp only [Ni.step, Ni.niThreadTimedOut] at h
      split at h
      · split at h
        · rw [Option.some.injEq] at h
          rw [← h]
          rfl
        · cases h
      · cases h
  | finish i =>
      simp only [Ni.step, Ni.niThreadFinish] at h
      split at h
      · rw [Option.some.injEq] at h
        rw [← h]
      · cases h
  | restart => cases ha
  | elapse d =>
      simp only [Ni.step, Option.some.injEq] at h
      rw [← h]

/-- The lock is passed on as a message. -/
theorem setEngineLock_events (d : EngData) (lock : BitVec 32) :
    ∀ x ∈ setEngineLock d lock, x = .queued (.adapter (.engineLock lock)) := by
  intro x hx
  unfold setEngineLock at hx
  exact List.mem_singleton.mp (List.mem_ite_nil_right.mp hx).2

/-- A stop goes to the thread or to the ULP. -/
theorem stop_events (p : Platform) (d : EngData) :
    ∀ x ∈ (stop p d).2, x = .ulpQueued .stopFix ∨ x = .queued .stopFix := by
  intro x hx
  unfold stop at hx
  split at hx
  · exact absurd hx List.not_mem_nil
  · split at hx
    · exact Or.inl (List.mem_singleton.mp hx)
    · exact Or.inr (List.mem_singleton.mp hx)

/-- Cleaning up stops and locks. -/
theorem cleanup_events (p : Platform) (d : EngData) : ∀ x ∈ cleanup p d,
    x = .ulpQueued .stopFix ∨ x = .queued .stopFix ∨ x = .queued (.adapter (.engineLock 0)) := by
  intro x hx
  unfold cleanup at hx
  split at hx
  · exact absurd hx List.not_mem_nil
  · rcases List.mem_append.mp hx with hx | hx
    · rcases stop_events p d x (List.mem_ite_nil_right.mp hx).2 with h | h
      · exact Or.inl h
      · exact Or.inr (Or.inl h)
    · exact Or.inr (Or.inr (setEngineLock_events d 0 x hx))

theorem setEngineLock_ofCaller (d : EngData) (lock : BitVec 32) :
    ∀ x ∈ setEngineLock d lock, x.ofCaller = true := by
  intro x hx
  rw [setEngineLock_events d lock x hx]
  rfl

theorem stop_ofCaller (p : Platform) (d : EngData) : ∀ x ∈ (stop p d).2, x.ofCaller = true := by
  intro x hx
  rcases stop_events p d x hx with rfl | rfl
  · rfl
  · rfl

theorem cleanup_ofCaller (p : Platform) (d : EngData) :
    ∀ x ∈ cleanup p d, x.ofCaller = true := by
  intro x hx
  rcases cleanup_events p d x hx with rfl | rfl | rfl
  · rfl
  · rfl
  · rfl

theorem queued_ofCaller {msgs : List EngMsg} (h : ∀ msg ∈ msgs, msg.isNif = false) :
    ∀ x ∈ msgs.map Event.queued, x.ofCaller = true := by
  intro x hx
  rcases List.mem_map.mp hx with ⟨msg, hmsg, rfl⟩
  simp only [Event.ofCaller, h msg hmsg, Bool.not_false]

theorem nil_ofCaller : ∀ x ∈ ([] : List Event), x.ofCaller = true :=
  fun _ hx => absurd hx List.not_mem_nil

theorem reinit_ofCaller (p : Platform) (ret : AdapterErr) (d : EngData) :
    ∀ x ∈ (reinit p ret d).2, x.ofCaller = true := by
  intro x hx
  rcases List.mem_cons.mp hx with rfl | hx
  · rfl
  · exact queued_ofCaller (configMessages_plain p) x (List.mem_ite_nil_right.mp hx).2

/-- However often the modem is tried, the events are those of one try. -/
theorem reinitTries_ofCaller (p : Platform) (d : EngData) (answers : Nat → AdapterErr)
    (tries : Nat) (ret : AdapterErr) :
    ∀ x ∈ (reinitTries p d answers tries ret).2, x.ofCaller = true := by
  -- By the number of tries that are left.
  induction tries generalizing ret with
  | zero => exact nil_ofCaller
  | succ tries ih =>
      intro x hx
      simp only [reinitTries] at hx
      split at hx
      · exact reinit_ofCaller p _ d x hx
      · rcases List.mem_append.mp hx with hx | hx
        · exact reinit_ofCaller p _ d x hx
        · exact ih _ x hx

/-- What `loc_eng_init` comes to: nothing is set up, the context is dropped
    again for want of an adapter, or the modem is tried. -/
inductive Initialised (p : Platform) (d : EngData) (args : InitArgs) :
    Int × EngData × List Event → Prop
  | kept {es : List Event} (hget : getsContext d args = false)
      (hes : ∀ x ∈ es, x.ofCaller = true) : Initialised p d args (0, d, es)
  | dropped {callbacks : LocCallbacks} {es : List Event} (hget : getsContext d args = true)
      (hcallbacks : args.callbacks = some callbacks) (hadapter : args.adapter = false)
      (hes : ∀ x ∈ es, x.ofCaller = true) :
      Initialised p d args (-1, { contextSet p d callbacks with context := false }, es)
  | tried {callbacks : LocCallbacks} {told : List Event} (hget : getsContext d args = true)
      (hcallbacks : args.callbacks = some callbacks) (hadapter : args.adapter = true)
      (htold : ∀ x ∈ told, x.ofCaller = true) :
      Initialised p d args ((reinitTries p (contextSet p d callbacks) args.reinit 30 (-1)).1,
        contextSet p d callbacks,
        told ++ (reinitTries p (contextSet p d callbacks) args.reinit 30 (-1)).2 ++
          (if (reinitTries p (contextSet p d callbacks) args.reinit 30 (-1)).1 =
            LOC_API_ADAPTER_ERR_SUCCESS then setEngineLock (contextSet p d callbacks) 1 else []))

/-- What `loc_eng_init` comes to, by how far it gets. -/
theorem initialised_init (p : Platform) (d : EngData) (args : InitArgs) :
    Initialised p d args (init p d args) := by
  unfold init
  cases hcallbacks : args.callbacks with
  | none =>
      refine .kept ?_ nil_ofCaller
      simp only [getsContext, hcallbacks, Option.isSome_none, Bool.false_and]
  | some callbacks =>
      dsimp only
      by_cases hevent : args.event = 0
      · rw [if_pos hevent]
        refine .kept ?_ nil_ofCaller
        simp only [getsContext, hevent, ne_eq, not_true_eq_false, decide_false, Bool.and_false,
          Bool.false_and]
      · rw [if_neg hevent]
        by_cases hcontext : d.context = true
        · -- Set up before: the engine is unlocked, and nothing else.
          rw [if_pos hcontext]
          refine .kept ?_ (setEngineLock_ofCaller d 1)
          simp only [getsContext, hcontext, Bool.not_true, Bool.and_false]
        · rw [if_neg hcontext]
          have hget : getsContext d args = true := by
            rw [Bool.not_eq_true] at hcontext
            simp only [getsContext, hcallbacks, Option.isSome_some, ne_eq, hevent,
              not_false_eq_true, decide_true, hcontext, Bool.not_false, Bool.and_true]
          have htold : ∀ x ∈ (if callbacks.setCapabilitiesCb then
              [Event.setCapabilitiesCb p.conf.CAPABILITIES] else []), x.ofCaller = true := by
            intro x hx
            rw [List.mem_singleton.mp (List.mem_ite_nil_right.mp hx).2]
            rfl
          by_cases hadapter : args.adapter = false
          · rw [if_pos hadapter]
            exact .dropped hget hcallbacks hadapter htold
          · rw [if_neg hadapter]
            exact .tried hget hcallbacks (by rw [Bool.not_eq_false] at hadapter; exact hadapter)
              htold

theorem init_ofCaller (p : Platform) (d : EngData) (args : InitArgs) :
    ∀ x ∈ (init p d args).2.2, x.ofCaller = true := by
  have h := initialised_init p d args
  generalize init p d args = r at h ⊢
  cases h with
  | kept _ hes => exact hes
  | dropped _ _ _ hes => exact hes
  | tried _ _ _ htold =>
      intro x hx
      rcases List.mem_append.mp hx with hx | hx
      · rcases List.mem_append.mp hx with hx | hx
        · exact htold x hx
        · exact reinitTries_ofCaller p _ _ _ _ x hx
      · exact setEngineLock_ofCaller _ 1 x (List.mem_ite_nil_right.mp hx).2

/-- `loc_eng_agps_init` does its work once, and not without a context. -/
theorem agpsInit_eq (d : EngData) (mBearer : Int) (r : List UInt8 → Option (BitVec 32)) :
    agpsInit d mBearer r = if d.context = true ∧ d.agpsStatusCb = false then
      (withMachines d mBearer, (agpsReinit r (withMachines d mBearer)).map .queued)
    else (d, []) := by
  unfold agpsInit
  cases d.context with
  | false => simp only [if_true, Bool.false_eq_true, false_and, if_false]
  | true =>
      cases d.agpsStatusCb with
      | false => simp only [Bool.true_eq_false, Bool.false_eq_true, and_self, if_false, if_true]
      | true => simp only [Bool.true_eq_false, and_false, if_false, if_true]

/-- The part of the structure that is about sessions and the engine. -/
structure Session where
  isInSession : Bool
  agpsRequestPending : Bool
  stopRequestPending : Bool
  engineStatus : GpsStatusValue
  aidingDataForDeletion : GpsAidingData
  deriving DecidableEq

def EngData.session (d : EngData) : Session where
  isInSession := d.isInSession
  agpsRequestPending := d.agpsRequestPending
  stopRequestPending := d.stopRequestPending
  engineStatus := d.engineStatus
  aidingDataForDeletion := d.aidingDataForDeletion

/-- What a call of another thread does, call by call. -/
inductive Called (p : Platform) (e : Engine) : Action → Engine → Prop
  | init (args : InitArgs) :
      Called p e (.init args) { e with
        data := (init p e.data args).2.1
        phase := if getsContext e.data args then
          (if (init p e.data args).2.1.context then .running else .returned) else e.phase
        log := e.log ++ (init p e.data args).2.2 ++ [.initReturned (init p e.data args).1] }
  | cleanup : Called p e .cleanup { e with log := e.log ++ cleanup p e.data }
  | agpsInit {mBearer : Int} {launches : Bool} {r : List UInt8 → Option (BitVec 32)}
      (hcontext : e.data.context = true) (hcb : e.data.agpsStatusCb = false) :
      Called p e (.agpsInit mBearer launches r) { e with
        data := withMachines e.data mBearer
        locApiHandle := e.locApiHandle || launches
        log := e.log ++ (agpsReinit r (withMachines e.data mBearer)).map .queued }
  | agpsKept {mBearer : Int} {launches : Bool} {r : List UInt8 → Option (BitVec 32)}
      (hno : ¬ (e.data.context = true ∧ e.data.agpsStatusCb = false)) :
      Called p e (.agpsInit mBearer launches r) e
  | serverSet {type : LocServerType} {hostname : List UInt8} {port : BitVec 32}
      {r : List UInt8 → Option (BitVec 32)} (hcontext : e.data.context = true) :
      Called p e (.setServerProxy type hostname port r) { e with
        log := e.log ++ .setServerProxy type hostname port ::
          (setServer r type hostname port).2.map .queued }
  | serverSaved {type : LocServerType} {hostname : List UInt8} {port : BitVec 32}
      {r : List UInt8 → Option (BitVec 32)} (hcontext : e.data.context = false) :
      Called p e (.setServerProxy type hostname port r) { e with
        data := saveServer e.data type hostname port
        log := e.log ++ [.setServerProxy type hostname port] }
  | register (r : Registration) : Called p e (.register r) { e with data := register e.data r }
  | ni {a : Ni.Action} {ni : Ni.Sys} (hother : ofOtherThread a = true)
      (hni : Ni.step e.data.ni a = some ni) :
      Called p e (.ni a) { e with data := { e.data with ni := ni } }

/-- The calls of other threads, taken apart. -/
theorem step_called {a : Action} (ha : a.ofCaller = true) (h : step p e a = some e') :
    e.phase ≠ .faulted ∧ Called p e a e' := by
  unfold step at h
  by_cases halive : e.phase = .faulted
  · rw [if_pos halive] at h
    cases h
  · rw [if_neg halive] at h
    refine ⟨halive, ?_⟩
    cases a with
    | take env msg => cases ha
    | init args =>
        rw [Option.some.injEq] at h
        rw [← h]
        exact .init args
    | cleanup =>
        rw [Option.some.injEq] at h
        rw [← h]
        exact .cleanup
    | agpsInit mBearer launches resolveInAddr =>
        rw [Option.some.injEq] at h
        rw [← h]
        simp only [agpsInit_eq]
        by_cases hfirst : e.data.context = true ∧ e.data.agpsStatusCb = false
        · rw [if_pos hfirst]
          simp only [hfirst.1, hfirst.2, Bool.and_true, Bool.not_false]
          exact .agpsInit hfirst.1 hfirst.2
        · -- The link is launched by the call that puts the machines in.
          have hlink : (launches && e.data.context && !e.data.agpsStatusCb) = false := by
            rw [Bool.eq_false_iff]
            intro hall
            simp only [Bool.and_eq_true, Bool.not_eq_true'] at hall
            exact hfirst ⟨hall.1.2, hall.2⟩
          simp only [if_neg hfirst, hlink, Bool.or_false, List.append_nil]
          exact .agpsKept hfirst
    | setServerProxy type hostname port resolveInAddr =>
        rw [Option.some.injEq] at h
        rw [← h]
        by_cases hcontext : e.data.context = true
        · simp only [setServerProxy, hcontext, if_true]
          exact .serverSet hcontext
        · rw [Bool.not_eq_true] at hcontext
          simp only [setServerProxy, hcontext, Bool.false_eq_true, if_false]
          exact .serverSaved hcontext
    | register r =>
        rw [Option.some.injEq] at h
        rw [← h]
        exact .register r
    | ni a =>
        dsimp only at h
        split at h
        · next hother =>
            cases hni : Ni.step e.data.ni a with
            | none => rw [hni] at h; cases h
            | some ni =>
                rw [hni, Option.some.injEq] at h
                rw [← h]
                exact .ni hother hni
        · cases h

/-- What a call of another thread comes to: what concerns the thread is kept; an
    address is saved for later; or `loc_eng_init` has started from nothing. -/
inductive CallerStep (p : Platform) (e : Engine) (a : Action) (e' : Engine) : Prop
  | kept (hcore : e'.data.core = e.data.core) (hphase : e'.phase = e.phase)
  | saved (hcontext : e.data.context = false) (hcontext' : e'.data.context = false)
      (hsession : e'.data.session = e.data.session) (hphase : e'.phase = e.phase)
  | begun {args : InitArgs} {callbacks : LocCallbacks} (ha : a = .init args)
      (hcontext : e.data.context = false) (hget : getsContext e.data args = true)
      (hcallbacks : args.callbacks = some callbacks)
      (hdata : e'.data = { contextSet p e.data callbacks with context := args.adapter })
      (hphase : e'.phase = if args.adapter then .running else .returned)

/-- An initialisation is a step of a caller. -/
theorem step_init_inv {args : InitArgs} (h : step p e (.init args) = some e') :
    CallerStep p e (.init args) e' := by
  have hcontext : getsContext e.data args = true → e.data.context = false := by
    intro hget
    simp only [getsContext, Bool.and_eq_true, Bool.not_eq_true'] at hget
    exact hget.2
  cases (step_called rfl h).2 with
  | init =>
      have hinit := initialised_init p e.data args
      generalize init p e.data args = r at hinit
      cases hinit with
      | kept hget _ =>
          refine .kept rfl ?_
          simp only [hget, Bool.false_eq_true, if_false]
      | dropped hget hcallbacks hadapter _ =>
          refine .begun rfl (hcontext hget) hget hcallbacks ?_ ?_
          · rw [hadapter]
          · simp only [hget, hadapter, if_true, Bool.false_eq_true, if_false]
      | tried hget hcallbacks hadapter _ =>
          refine .begun rfl (hcontext hget) hget hcallbacks ?_ ?_
          · rw [hadapter]
            rfl
          · simp only [hget, hadapter, if_true]
            exact if_pos rfl

theorem register_core (d : EngData) (r : Registration) : (register d r).core = d.core := by
  cases r with
  | xtraInit downloadRequestCb => rfl
  | ulpInit interface =>
      simp only [register]
      split
      · rfl
      · rfl
  | ulpPhoneContextInit requestCb => rfl
  | ulpNetworkInit requestCb => rfl

theorem saveServer_context (d : EngData) (type : LocServerType) (hostname : List UInt8)
    (port : BitVec 32) : (saveServer d type hostname port).context = d.context := by
  cases type <;> rfl

/-- Saving a server is no matter for the session. -/
theorem saveServer_session (d : EngData) (type : LocServerType) (hostname : List UInt8)
    (port : BitVec 32) : (saveServer d type hostname port).session = d.session := by
  cases type <;> rfl

/-- What the calls of other threads mean for the thread. -/
theorem step_caller_inv {a : Action} (ha : a.ofCaller = true) (h : step p e a = some e') :
    CallerStep p e a e' := by
  cases (step_called ha h).2 with
  | init args => exact step_init_inv h
  | cleanup | agpsInit | agpsKept | serverSet => exact .kept rfl rfl
  | serverSaved hcontext =>
      exact .saved hcontext ((saveServer_context _ _ _ _).trans hcontext)
        (saveServer_session _ _ _ _) rfl
  | register r => exact .kept (register_core e.data r) rfl
  | ni hother hni =>
      refine .kept ?_ rfl
      simp only [EngData.core, niStep_mute hother hni]

/-- What the calls of other threads add to the log. -/
theorem step_caller_log {a : Action} (ha : a.ofCaller = true) (h : step p e a = some e') :
    ∃ xs, e'.log = e.log ++ xs ∧ ∀ x ∈ xs, x.ofCaller = true := by
  have hsame : ∃ xs, e.log = e.log ++ xs ∧ ∀ x ∈ xs, x.ofCaller = true :=
    ⟨[], (List.append_nil _).symm, nil_ofCaller⟩
  cases (step_called ha h).2 with
  | init args =>
      refine ⟨_, List.append_assoc _ _ _, fun x hx => ?_⟩
      rcases List.mem_append.mp hx with hx | hx
      · exact init_ofCaller p e.data args x hx
      · rw [List.mem_singleton.mp hx]
        rfl
  | cleanup => exact ⟨_, rfl, cleanup_ofCaller p e.data⟩
  | agpsInit _ _ => exact ⟨_, rfl, queued_ofCaller (agpsReinit_plain _ _)⟩
  | serverSet _ =>
      refine ⟨_, rfl, fun x hx => ?_⟩
      rcases List.mem_cons.mp hx with rfl | hx
      · rfl
      · exact queued_ofCaller (setServer_plain _ _ _ _) x hx
  | serverSaved _ =>
      refine ⟨_, rfl, fun x hx => ?_⟩
      rw [List.mem_singleton.mp hx]
      rfl
  | agpsKept | register | ni => exact hsame

/-- What the callers do not change can be read off the core. -/
theorem same_of_core {d d' : EngData} (h : d'.core = d.core) {α : Type} (f : EngData → α)
    (hf : ∀ d, f d.core = f d) : f d' = f d := by
  rw [← hf d', h, hf d]

/-- Without a context the thread does not listen, and nothing is under way. -/
def WellStarted (e : Engine) : Prop :=
  e.data.context = false → e.phase ≠ .running ∧ e.data.session = EngData.zero.session

theorem wellStarted_fresh : WellStarted .fresh := fun _ => ⟨by decide, rfl⟩

/-- A running engine has its context. -/
theorem WellStarted.context (h : WellStarted e) (hrunning : e.phase = .running) :
    e.data.context = true := by
  by_contra hcontext
  rw [Bool.not_eq_true] at hcontext
  exact (h hcontext).1 hrunning

/-- Every step keeps it so. -/
theorem wellStarted_step {a : Action} (hw : WellStarted e) (h : step p e a = some e') :
    WellStarted e' := by
  intro hcontext'
  rcases step_cases h with ha | ⟨env, msg, rfl, hrunning, htaken⟩
  · cases step_caller_inv ha h with
    | kept hcore hphase =>
        have hcontext := same_of_core hcore EngData.context (fun _ => rfl)
        rw [hphase, same_of_core hcore EngData.session (fun _ => rfl)]
        exact hw (hcontext.symm.trans hcontext')
    | saved hcontext _ hsession hphase =>
        rw [hphase, hsession]
        exact hw hcontext
    | begun _ _ _ _ hdata hphase =>
        -- The structure was cleared, and without an adapter the thread has quit.
        have hadapter : _ = false := (congrArg EngData.context hdata).symm.trans hcontext'
        rw [hphase, hdata]
        simp only at hadapter
        simp only [hadapter, Bool.false_eq_true, if_false]
        exact ⟨by decide, rfl⟩
  · have hcontext := hw.context hrunning
    cases htaken with
    | returned _ => exact absurd hcontext (by rw [hcontext']; decide)
    | faulted _ _ _ => exact absurd hcontext (by rw [hcontext']; decide)
    | round _ _ hround =>
        have hsame := (processMsg_frame hround).context
        exact absurd (hsame.symm.trans hcontext') (by rw [hcontext]; decide)

/-- The calls of other threads are no matter to the session. -/
theorem step_caller_session {a : Action} (hw : WellStarted e) (ha : a.ofCaller = true)
    (h : step p e a = some e') : e'.data.session = e.data.session := by
  cases step_caller_inv ha h with
  | kept hcore _ => exact same_of_core hcore EngData.session (fun _ => rfl)
  | saved _ _ hsession _ => exact hsession
  | begun _ hcontext _ _ hdata _ =>
      rw [(hw hcontext).2, hdata]
      rfl

/-- The machines are there exactly if a callback of the service is registered,
    and that is only done with a context. -/
structure Equipped (d : EngData) : Prop where
  nif : ∀ i, (d.nif i).isSome = d.agpsStatusCb
  context : d.agpsStatusCb = true → d.context = true

/-- Machines that are there stay there where the setup is left alone. -/
theorem equipped_of_frame {d d' : EngData} (h : Equipped d) (hf : Frame d d') : Equipped d' := by
  refine ⟨fun i => ?_, fun hcb => ?_⟩
  · rw [hf.nif i, hf.agpsStatusCb]
    exact h.nif i
  · rw [hf.context]
    exact h.context (hf.agpsStatusCb.symm.trans hcb)

theorem equipped_register {d : EngData} (hd : Equipped d) (r : Registration) :
    Equipped (register d r) := by
  cases r with
  | ulpInit interface =>
      simp only [register]
      split
      · exact ⟨hd.nif, hd.context⟩
      · exact hd
  | _ => exact ⟨hd.nif, hd.context⟩

theorem equipped_saveServer {d : EngData} (hd : Equipped d) (type : LocServerType)
    (hostname : List UInt8) (port : BitVec 32) : Equipped (saveServer d type hostname port) := by
  cases type with
  | _ => exact ⟨hd.nif, hd.context⟩

/-- Every step keeps the machines with their callback. -/
theorem equipped_step {a : Action} (hd : Equipped e.data) (h : step p e a = some e') :
    Equipped e'.data := by
  have hbare : ∀ {d : EngData}, (∀ i, d.nif i = none) → d.agpsStatusCb = false → Equipped d := by
    intro d hnone hcb
    refine ⟨fun i => ?_, fun hset => absurd (hcb.symm.trans hset) Bool.false_ne_true⟩
    rw [hnone i, hcb]
    rfl
  rcases step_cases h with ha | ⟨env, msg, rfl, _, htaken⟩
  · cases (step_called ha h).2 with
    | init args =>
        have hinit := initialised_init p e.data args
        generalize init p e.data args = r at hinit
        -- A structure that has been cleared has no callback.
        cases hinit with
        | kept _ _ => exact hd
        | dropped _ _ _ _ => exact hbare (fun i => by cases i <;> rfl) rfl
        | tried _ _ _ _ => exact hbare (fun i => by cases i <;> rfl) rfl
    | agpsInit hcontext _ => exact ⟨fun i => by cases i <;> rfl, fun _ => hcontext⟩
    -- Saving a server touches neither the machines nor the callback.
    | serverSaved _ => exact equipped_saveServer hd _ _ _
    | register r => exact equipped_register hd r
    | ni => exact ⟨hd.nif, hd.context⟩
    | cleanup | agpsKept | serverSet => exact hd
  · cases htaken with
    | returned _ => exact hd
    | faulted _ _ _ => exact hd
    | round _ _ hround => exact equipped_of_frame hd (processMsg_frame hround)

theorem drop_isSome {d : EngData} {i : NifId} (h : (d.nif i).isSome = true) :
    ∃ r, d.drop i = some r := by
  rcases Option.isSome_iff_exists.mp h with ⟨m, hm⟩
  simp only [EngData.drop, hm]
  exact ⟨_, rfl⟩

/-- The modem's return meets no NULL pointer. -/
theorem handleEngineUp_isSome (p : Platform) (env : ThreadEnv) {d : EngData} (hd : Equipped d) :
    ∃ r, handleEngineUp p env d = some r := by
  have hrestart : ∃ r, agpsRestart env d = some r := by
    unfold agpsRestart
    by_cases hcb : d.agpsStatusCb = true
    · rw [if_pos hcb]
      rcases drop_isSome ((hd.nif .agnss).trans hcb) with ⟨⟨d₁, es₁⟩, hagnss⟩
      -- The first flush leaves the second machine where it is.
      have hd₁ : (d₁.nif .internet).isSome = true := by
        rw [(NifStep.of_drop hagnss).nif]
        exact (hd.nif .internet).trans hcb
      rcases drop_isSome hd₁ with ⟨⟨d₂, es₂⟩, hinternet⟩
      rw [hagnss, andThen_some, hinternet, andThen_some]
      exact ⟨_, rfl⟩
    · rw [if_neg hcb]
      exact ⟨_, rfl⟩
  rcases hrestart with ⟨⟨d₁, es₁⟩, h₁⟩
  unfold handleEngineUp
  simp only [andThen_some, h₁]
  exact ⟨_, rfl⟩

end Steps

end Eng

end Taoshan

import Taoshan.Eng.System

/-!
# The Machines in the Engine

The three state machines as part of the whole structure. From
`loc_eng_agps_init` on they are there, and then a message of the machines does
in the engine what `handle` says (`handleNif_withNifs`); the message that says
that the modem is up again does more, but not to the machines
(`agpsRestart_withNifs`).

A run of the engine is, for the machines, a run of the thread that knows
nothing but them, and the two logs agree on what the machines did
(`machines_run`). So what holds of all runs of `Thread` holds in the engine.

## Main definitions

* `EngData.withNifs`: The structure with all three machines in it.
* `machineLog`: What the machines did, out of the log of the engine.
* `Carries`: An engine and a thread that agree on the machines.

## Theorems

* `handleNif_withNifs`, `agpsRestart_withNifs`: The messages agree.
* `carries_agpsInit`: `loc_eng_agps_init` puts in what the thread starts from.
* `machines_run`: And so do all runs from there.
-/

namespace Taoshan

namespace Eng

open Agps

/-- The structure with all three machines in it. -/
def EngData.withNifs (d : EngData) (l : LocEngData) : EngData :=
  { d with
    agpsStatusCb := l.agpsStatusCb
    agnssNif := some l.agnssNif
    internetNif := some l.internetNif
    wifiNif := some l.wifiNif }

/-- What the machines did, as the engine records it. -/
def nifEvents (xs : List (NifId × Entry)) : List Event := xs.map fun x => .nif x.1 x.2

section Messages

variable (p : Platform) (env : ThreadEnv) (d : EngData) (l : LocEngData)

/-- The machines that were put in are found there. -/
@[simp] theorem nif_withNifs (i : NifId) : (d.withNifs l).nif i = some (l.nif i) := by
  cases i <;> rfl

@[simp] theorem setNif_withNifs (m : AgpsStateMachine) (i : NifId) :
    (d.withNifs l).setNif (some m) i = d.withNifs (l.setNif m i) := by
  cases i <;> rfl

theorem nifEvents_append (xs ys : List (NifId × Entry)) :
    nifEvents (xs ++ ys) = nifEvents xs ++ nifEvents ys := List.map_append

/-- A call of one machine, and the flush of one, are those of the thread on its own.
    -/
theorem call_withNifs (i : NifId) (env : Env) (op : Op) :
    (d.withNifs l).call i env op =
      some (d.withNifs (l.call i env op).1, nifEvents (l.call i env op).2) := by
  simp only [EngData.call, nif_withNifs, setNif_withNifs, LocEngData.call, nifEvents, List.map_map,
    Function.comp_def]

theorem drop_withNifs (i : NifId) :
    (d.withNifs l).drop i = some (d.withNifs (l.drop i).1, nifEvents (l.drop i).2) := by
  simp only [EngData.drop, nif_withNifs, setNif_withNifs, LocEngData.drop, nifEvents, List.map_map,
    Function.comp_def]

/-- A message of the machines does to them what it does in the thread. -/
theorem handleNif_withNifs {m : Msg} (hm : m ≠ .engineUp) :
    handleNif p env (d.withNifs l) m =
      some (d.withNifs (handle l env.nif m).1, nifEvents (handle l env.nif m).2) := by
  cases m with
  | requestBit ifType ipv4Addr ipv6Addr =>
      simp only [handleNif, handle]
      cases bitNif ifType with
      | none => rfl
      | some i => exact call_withNifs d l i _ _
  | releaseBit ifType ipv4Addr ipv6Addr =>
      simp only [handleNif, handle]
      cases bitNif ifType with
      | none => rfl
      | some i => exact call_withNifs d l i _ _
  | requestAtl handle type => exact call_withNifs d l _ _ _
  | releaseAtl handle =>
      simp only [handleNif, Eng.handle]
      have hagnss : (d.withNifs l).agnssNif = some l.agnssNif := rfl
      rw [call_withNifs, andThen_some, hagnss]
      -- Whether the second machine is asked depends on what the first answers.
      by_cases hfound :
          (l.agnssNif.unsubscribeRsrc env.nif.first (atlSubscriber handle false)).1 = true
      · simp only [hfound, if_true, Bool.not_true, Bool.false_eq_true, if_false, Option.map_some,
          List.append_nil]
      · rw [Bool.not_eq_true] at hfound
        simp only [hfound, Bool.false_eq_true, if_false, Bool.not_false, if_true, call_withNifs,
          Option.map_some, nifEvents_append]
  | requestWifi senderId ssid password =>
      simp only [handleNif, handle]
      split
      · exact call_withNifs d l _ _ _
      · rfl
  | releaseWifi senderId ssid password =>
      simp only [handleNif, handle]
      exact call_withNifs d l _ _ _
  | atlOpenSuccess agpsType apn length bearerType =>
      simp only [handleNif, handle, nif_withNifs, setNif_withNifs]
      exact call_withNifs d _ _ _ _
  | atlClosed agpsType => exact call_withNifs d l _ _ _
  | atlOpenFailed agpsType => exact call_withNifs d l _ _ _
  | engineUp => exact absurd rfl hm

/-- And so does the modem's return, before it sets the servers. -/
theorem agpsRestart_withNifs (hcb : l.agpsStatusCb = true) :
    agpsRestart env (d.withNifs l) =
      some (d.withNifs (handle l env.nif .engineUp).1,
        nifEvents (handle l env.nif .engineUp).2 ++
          (agpsReinit env.resolveInAddr d).map .queued) := by
  have hset : (d.withNifs l).agpsStatusCb = true := hcb
  simp only [agpsRestart, hset, if_true, drop_withNifs, andThen_some, Option.map_some, handle, hcb,
    nifEvents_append, List.append_assoc]
  rfl

end Messages

section Rounds

variable {p : Platform} {env : ThreadEnv} {d d' d'' : EngData} {es xs ys : List Event}
  {l : LocEngData}

/-- What a machine did, if the line is about one. -/
def Event.machineEntry : Event → Option (NifId × Entry)
  | .nif i x => some (i, x)
  | _ => none

/-- What the machines did, out of the log of the engine. -/
def machineLog (log : List Event) : List (NifId × Entry) := log.filterMap Event.machineEntry

/-- What the machines did, in two parts of the log. -/
theorem machineLog_append (xs ys : List Event) :
    machineLog (xs ++ ys) = machineLog xs ++ machineLog ys := List.filterMap_append

@[simp] theorem machineLog_nifEvents (xs : List (NifId × Entry)) :
    machineLog (nifEvents xs) = xs := by
  induction xs with
  | nil => rfl
  | cons x xs ih =>
      simp only [nifEvents, machineLog] at ih ⊢
      rw [List.map_cons, List.filterMap_cons, ih]
      rfl

/-- Nothing about machines is said. -/
def NoMachine (xs : List Event) : Prop := ∀ x ∈ xs, x.machineEntry = none

/-- Where nothing is said about machines, they did nothing. -/
theorem NoMachine.log (h : NoMachine xs) : machineLog xs = [] := List.filterMap_eq_nil_iff.mpr h

theorem NoMachine.append (h : NoMachine xs) (h' : NoMachine ys) : NoMachine (xs ++ ys) :=
  List.forall_mem_append.mpr ⟨h, h'⟩

theorem noMachine_nil : NoMachine [] := List.forall_mem_nil _

theorem noMachine_singleton {x : Event} (h : x.machineEntry = none) : NoMachine [x] :=
  List.forall_mem_singleton.mpr h

/-- Queueing messages is not about machines. -/
theorem noMachine_queued (msgs : List EngMsg) : NoMachine (msgs.map Event.queued) := by
  intro x hx
  rcases List.mem_map.mp hx with ⟨msg, _, rfl⟩
  rfl

/-- Nor is what the callers of the engine do, or any of these handlers. -/
theorem noMachine_caller (h : ∀ x ∈ xs, x.ofCaller = true) : NoMachine xs := by
  intro x hx
  have hcaller := h x hx
  cases x with
  | nif i y => cases hcaller
  | _ => rfl

theorem noMachine_startHandler (env : ThreadEnv) (d : EngData) :
    NoMachine (startHandler env d).2 := by
  intro x hx
  rcases startHandler_events env d x hx with rfl | rfl
  · rfl
  · rfl

theorem noMachine_stopHandler (env : ThreadEnv) (d : EngData) :
    NoMachine (stopHandler env d).2 := by
  intro x hx
  rcases stopHandler_events env d x hx with rfl | rfl
  · rfl
  · rfl

theorem noMachine_reportStatus (d : EngData) (status : GpsStatusValue) :
    NoMachine (reportStatus d status).2 := by
  intro x hx
  rw [reportStatus_events d status x hx]
  rfl

theorem noMachine_reportPosition (p : Platform) (env : ThreadEnv) (d : EngData)
    (location : GpsLocation) (locationExt : List UInt8) (status : LocSessStatus) :
    NoMachine (reportPosition p env d location locationExt status).2 := by
  intro x hx
  rcases reportPosition_events p env d location locationExt status x hx with rfl | ⟨_, rfl⟩
  · rfl
  · rfl

theorem noMachine_resumeFix (env : ThreadEnv) (d : EngData) : NoMachine (resumeFix env d).2 := by
  unfold resumeFix
  split
  · intro x hx
    rcases List.mem_cons.mp hx with rfl | hx
    · rfl
    · exact noMachine_startHandler env _ x hx
  · exact noMachine_nil

/-- Nor is the configuration. -/
theorem noMachine_reinit (p : Platform) (ret : AdapterErr) (d : EngData) :
    NoMachine (reinit p ret d).2 := by
  have hconfig : NoMachine (if ret = LOC_API_ADAPTER_ERR_SUCCESS then
      (configMessages p).map Event.queued else []) := by
    split
    · exact noMachine_queued _
    · exact noMachine_nil
  exact NoMachine.append (noMachine_singleton rfl) hconfig

/-- The machines and the callback are the same. -/
structure SameNifs (d d' : EngData) : Prop where
  agpsStatusCb : d'.agpsStatusCb = d.agpsStatusCb
  nif : ∀ i, d'.nif i = d.nif i

theorem SameNifs.refl (d : EngData) : SameNifs d d := ⟨rfl, fun _ => rfl⟩

theorem SameNifs.trans (h : SameNifs d d') (h' : SameNifs d' d'') : SameNifs d d'' :=
  ⟨h'.agpsStatusCb.trans h.agpsStatusCb, fun i => (h'.nif i).trans (h.nif i)⟩

/-- A change of the session flag leaves the machines as they are. -/
theorem sameNifs_of_only (h : ∃ b, d' = { d with isInSession := b }) : SameNifs d d' := by
  rcases h with ⟨b, rfl⟩
  exact ⟨rfl, fun i => by cases i <;> rfl⟩

/-- And so does a report. -/
theorem sameNifs_reportStatus (d : EngData) (status : GpsStatusValue) :
    SameNifs d (reportStatus d status).1 := ⟨rfl, fun i => by cases i <;> rfl⟩

theorem noMachine_of_passesOn (h : ∀ e ∈ es, e.passesOn = true) : NoMachine es := by
  intro e he
  cases e with
  | nif i x => exact absurd (h _ he) Bool.false_ne_true
  | _ => rfl

/-- A message that is not of the machines leaves them alone. -/
theorem dispatch_machines {msg : EngMsg} (hmsg : msg.isNif = false)
    (h : dispatch p env d msg = some (d', es)) : SameNifs d d' ∧ NoMachine es := by
  cases dispatch_inv h with
  | startFix =>
      exact ⟨sameNifs_of_only (startHandler_only env d), noMachine_startHandler env d⟩
  | stopDeferred => exact ⟨⟨rfl, fun i => by cases i <;> rfl⟩, noMachine_nil⟩
  | stopFix => exact ⟨sameNifs_of_only (stopHandler_only env d), noMachine_stopHandler env d⟩
  | reportPosition =>
      exact ⟨sameNifs_of_only (reportPosition_only p env d _ _ _),
        noMachine_reportPosition p env d _ _ _⟩
  | reportStatus => exact ⟨sameNifs_reportStatus d _, noMachine_reportStatus d _⟩
  | engineDown =>
      have hni : SameNifs d { d with ni := Ni.niResetOnEngineRestart d.ni } :=
        ⟨rfl, fun i => by cases i <;> rfl⟩
      exact ⟨hni.trans (sameNifs_reportStatus _ _), noMachine_reportStatus _ _⟩
  | requestNi => exact ⟨⟨rfl, fun i => by cases i <;> rfl⟩, noMachine_nil⟩
  | deleteAidingData => exact ⟨⟨rfl, fun i => by cases i <;> rfl⟩, noMachine_nil⟩
  | engineUp heq =>
      rw [heq] at hmsg
      cases hmsg
  | nif heq =>
      rw [heq] at hmsg
      cases hmsg
  | passedOn _ hes => exact ⟨.refl d, noMachine_of_passesOn hes⟩

/-- What is done after the dispatch leaves them alone, too. -/
theorem postDispatch_machines (env : ThreadEnv) (d : EngData) (msg : EngMsg) :
    SameNifs d (postDispatch env d msg).1 ∧ NoMachine (postDispatch env d msg).2 := by
  have hfinish : SameNifs d (finishStop env d msg).1 := by
    rcases finishStop_only env d msg with ⟨b, c, h⟩
    rw [h]
    exact ⟨rfl, fun i => by cases i <;> rfl⟩
  have hflag : ∀ d : EngData, SameNifs d { d with stopRequestPending := false } :=
    fun d => ⟨rfl, fun i => by cases i <;> rfl⟩
  have hflush : ∀ d : EngData, SameNifs d (flushAidingData d).1 := by
    intro d
    unfold flushAidingData
    split
    · exact ⟨rfl, fun i => by cases i <;> rfl⟩
    · exact .refl d
  refine ⟨hfinish.trans ((hflag _).trans (hflush _)), fun x hx => ?_⟩
  rcases postDispatch_events env d msg x hx with rfl | rfl | ⟨status, f, rfl⟩
  · rfl
  · rfl
  · rfl

/-- The machines of a structure, with the callback. -/
structure Holds (d : EngData) (l : LocEngData) : Prop where
  agpsStatusCb : d.agpsStatusCb = l.agpsStatusCb
  nif : ∀ i, d.nif i = some (l.nif i)

theorem holds_withNifs (d : EngData) (l : LocEngData) : Holds (d.withNifs l) l :=
  ⟨rfl, fun i => nif_withNifs d l i⟩

/-- A structure is known by its machines and the rest. -/
theorem Holds.eq (h : Holds d l) : d = d.withNifs l := by
  have hagnss : d.agnssNif = some l.agnssNif := h.nif .agnss
  have hinternet : d.internetNif = some l.internetNif := h.nif .internet
  have hwifi : d.wifiNif = some l.wifiNif := h.nif .wifi
  unfold EngData.withNifs
  rw [← h.agpsStatusCb, ← hagnss, ← hinternet, ← hwifi]

/-- What leaves the machines alone leaves it at that. -/
theorem Holds.same (h : Holds d l) (hs : SameNifs d d') : Holds d' l :=
  ⟨hs.agpsStatusCb.trans h.agpsStatusCb, fun i => (hs.nif i).trans (h.nif i)⟩

/-- The modem's return, given what it does to the machines. -/
theorem handleEngineUp_of_restart (p : Platform) (h : agpsRestart env d = some (d', es)) :
    handleEngineUp p env d = some
      ((resumeFix env (reportStatus d' GPS_STATUS_ENGINE_ON).1).1,
        (reinit p env.reinit d).2 ++ (es ++ ((reportStatus d' GPS_STATUS_ENGINE_ON).2 ++
          (resumeFix env (reportStatus d' GPS_STATUS_ENGINE_ON).1).2))) := by
  simp only [handleEngineUp, andThen_some, h]
  rfl

/-- A message of the machines does to them what it does in the thread, and no
    pointer is NULL. -/
theorem handleNif_holds (h : Holds d l) (hcb : l.agpsStatusCb = true) (p : Platform)
    (env : ThreadEnv) (m : Msg) :
    ∃ d' es, handleNif p env d m = some (d', es) ∧ Holds d' (handle l env.nif m).1 ∧
      machineLog es = (handle l env.nif m).2 := by
  by_cases hm : m = .engineUp
  · subst hm
    have hrestart := agpsRestart_withNifs env d l hcb
    rw [← h.eq] at hrestart
    have hup := handleEngineUp_of_restart p hrestart
    refine ⟨_, _, hup, ?_, ?_⟩
    · -- Neither the status nor the session is a matter for the machines.
      refine Holds.same (holds_withNifs d _) ?_
      exact (sameNifs_reportStatus _ _).trans (sameNifs_of_only (resumeFix_only env _))
    · simp only [machineLog_append, machineLog_nifEvents, (noMachine_reinit p _ _).log,
        (noMachine_queued _).log, (noMachine_reportStatus _ _).log, (noMachine_resumeFix _ _).log,
        List.nil_append, List.append_nil]
  · have hmsg := handleNif_withNifs p env d l hm
    rw [← h.eq] at hmsg
    exact ⟨_, _, hmsg, holds_withNifs d _, machineLog_nifEvents _⟩

/-- A round with a message of the machines. -/
theorem processMsg_holds (h : Holds d l) (hcb : l.agpsStatusCb = true) (p : Platform)
    (env : ThreadEnv) (m : Msg) :
    ∃ d' es, processMsg p env d (.nif m) = some (d', es) ∧ Holds d' (handle l env.nif m).1 ∧
      machineLog es = (handle l env.nif m).2 := by
  rcases handleNif_holds h hcb p env m with ⟨d₁, es₁, hhandle, hholds, hlog⟩
  have hpost := postDispatch_machines env d₁ (.nif m)
  refine ⟨(postDispatch env d₁ (.nif m)).1, es₁ ++ (postDispatch env d₁ (.nif m)).2, ?_, ?_, ?_⟩
  · have hdispatch : dispatch p env d (.nif m) = some (d₁, es₁) := hhandle
    unfold processMsg
    rw [hdispatch]
    rfl
  · exact hholds.same hpost.1
  · rw [machineLog_append, hpost.2.log, List.append_nil]
    exact hlog

/-- A round with another message. -/
theorem processMsg_machines {msg : EngMsg} (hmsg : msg.isNif = false)
    (h : processMsg p env d msg = some (d', es)) : SameNifs d d' ∧ NoMachine es := by
  rcases processMsg_inv h with ⟨d₁, es₁, hdispatch, rfl, rfl⟩
  have hquiet := dispatch_machines hmsg hdispatch
  have hpost := postDispatch_machines env d₁ msg
  exact ⟨hquiet.1.trans hpost.1, hquiet.2.append hpost.2⟩

end Rounds

section Runs

variable {p : Platform} {e e' : Engine} {t : Thread}

/-- An engine and a thread that agree on the machines and on what they did. -/
structure Carries (e : Engine) (t : Thread) : Prop where
  context : e.data.context = true
  registered : t.data.agpsStatusCb = true
  holds : Holds e.data t.data
  log : machineLog e.log = t.log

/-- `loc_eng_agps_init` puts in what the thread starts from. -/
theorem carries_agpsInit {mBearer : Int} {launches : Bool}
    {r : List UInt8 → Option (BitVec 32)} (hcontext : e.data.context = true)
    (hcb : e.data.agpsStatusCb = false) (hlog : machineLog e.log = [])
    (h : step p e (.agpsInit mBearer launches r) = some e') : Carries e' (.init mBearer) := by
  cases (step_called rfl h).2 with
  | agpsInit _ _ =>
      refine ⟨hcontext, rfl, ⟨rfl, fun i => by cases i <;> rfl⟩, ?_⟩
      rw [machineLog_append, hlog, (noMachine_queued _).log]
      rfl
  | agpsKept hno => exact absurd ⟨hcontext, hcb⟩ hno

/-- A registration changes no machine. -/
theorem sameNifs_register (d : EngData) (r : Registration) : SameNifs d (register d r) := by
  cases r with
  | ulpInit interface =>
      simp only [register]
      split
      · exact ⟨rfl, fun i => by cases i <;> rfl⟩
      · exact .refl _
  | _ => exact ⟨rfl, fun i => by cases i <;> rfl⟩

/-- The calls of other threads leave the machines alone once they are there. -/
theorem step_caller_machines {a : Action} (ha : a.ofCaller = true)
    (hcontext : e.data.context = true) (hcb : e.data.agpsStatusCb = true)
    (h : step p e a = some e') :
    SameNifs e.data e'.data ∧ machineLog e'.log = machineLog e.log := by
  have hlog : machineLog e'.log = machineLog e.log := by
    rcases step_caller_log ha h with ⟨xs, hxs, hcaller⟩
    rw [hxs, machineLog_append, (noMachine_caller hcaller).log, List.append_nil]
  refine ⟨?_, hlog⟩
  cases (step_called ha h).2 with
  | init args =>
      have hget : getsContext e.data args = false := by
        simp only [getsContext, hcontext, Bool.not_true, Bool.and_false]
      have hinit := initialised_init p e.data args
      generalize init p e.data args = r at hinit
      -- With a context, nothing is set up anew.
      cases hinit with
      | kept _ _ => exact .refl _
      | dropped hset _ _ _ => exact absurd (hget.symm.trans hset) Bool.false_ne_true
      | tried hset _ _ _ => exact absurd (hget.symm.trans hset) Bool.false_ne_true
  | agpsInit _ hno => exact absurd (hno.symm.trans hcb) Bool.false_ne_true
  | serverSaved hno => exact absurd (hno.symm.trans hcontext) Bool.false_ne_true
  | register r => exact sameNifs_register e.data r
  | ni => exact ⟨rfl, fun i => by cases i <;> rfl⟩
  | cleanup | agpsKept | serverSet => exact .refl _

/-- One step of the engine is a step of the thread, or none. -/
theorem machines_step {a : Action} (hc : Carries e t) (h : step p e a = some e') :
    ∃ ms t', Run.exec Thread.step t ms = some t' ∧ Carries e' t' := by
  have hcb : e.data.agpsStatusCb = true := hc.holds.agpsStatusCb.trans hc.registered
  have hsame : SameNifs e.data e'.data → e'.data.context = true →
      machineLog e'.log = machineLog e.log → ∃ ms t', Run.exec Thread.step t ms = some t' ∧
        Carries e' t' :=
    fun hs hcontext hlog => ⟨[], t, rfl, hcontext, hc.registered, hc.holds.same hs,
      hlog.trans hc.log⟩
  rcases step_cases h with ha | ⟨env, msg, rfl, _, htaken⟩
  · rcases step_caller_machines ha hc.context hcb h with ⟨hs, hlog⟩
    refine hsame hs ?_ hlog
    cases step_caller_inv ha h with
    | kept hcore _ =>
        exact (same_of_core hcore EngData.context (fun _ => rfl)).trans hc.context
    | saved hcontext _ _ _ => exact absurd (hcontext.symm.trans hc.context) Bool.false_ne_true
    | begun _ hcontext _ _ _ _ =>
        exact absurd (hcontext.symm.trans hc.context) Bool.false_ne_true
  · have htook : ∀ xs,
        machineLog (e.log ++ [.took msg] ++ xs) = machineLog e.log ++ machineLog xs := by
      intro xs
      have hnone : machineLog [.took msg] = [] := rfl
      rw [machineLog_append, machineLog_append, hnone, List.append_nil]
    cases htaken with
    | returned _ =>
        refine hsame (.refl _) hc.context ?_
        exact (machineLog_append _ _).trans (List.append_nil _)
    | faulted _ _ _ =>
        refine hsame (.refl _) hc.context ?_
        exact (machineLog_append _ _).trans (List.append_nil _)
    | round _ _ hround =>
        have hcontext := (processMsg_frame hround).context.trans hc.context
        -- A message of the machines is a step of the thread; any other is none.
        by_cases hmsg : msg.isNif = true
        · cases msg with
          | nif m =>
              rcases processMsg_holds hc.holds hc.registered p env m with
                ⟨d, es, hholds, hd, hlog⟩
              rw [hround, Option.some.injEq, Prod.mk.injEq] at hholds
              rcases hholds with ⟨rfl, rfl⟩
              refine ⟨[(env.nif, m)],
                ⟨(handle t.data env.nif m).1, t.log ++ (handle t.data env.nif m).2⟩, rfl,
                hcontext, ?_, hd, ?_⟩
              · rw [handle_agpsStatusCb]
                exact hc.registered
              · rw [htook, hlog, hc.log]
          | _ => cases hmsg
        · rw [Bool.not_eq_true] at hmsg
          rcases processMsg_machines hmsg hround with ⟨hs, hquiet⟩
          refine hsame hs hcontext ?_
          rw [htook, hquiet.log, List.append_nil]

/-- A run of the engine from `loc_eng_agps_init` on is, for the machines, a run
    of the thread that knows nothing but them. -/
theorem machines_run {as : List Action} (hc : Carries e t)
    (h : Run.exec (step p) e as = some e') :
    ∃ ms t', Run.exec Thread.step t ms = some t' ∧ Carries e' t' := by
  induction as generalizing e t with
  | nil =>
      rw [Run.exec_nil, Option.some.injEq] at h
      exact ⟨[], t, rfl, by rw [← h]; exact hc⟩
  | cons a as ih =>
      rcases Run.exec_cons_inv h with ⟨e₁, hstep, hrest⟩
      rcases machines_step hc hstep with ⟨ms, t₁, hms, hc₁⟩
      rcases ih hc₁ hrest with ⟨ms', t', hms', hc'⟩
      exact ⟨ms ++ ms', t', by rw [Run.exec_append ms' hms]; exact hms', hc'⟩

end Runs

end Eng

end Taoshan

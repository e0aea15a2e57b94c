import Taoshan.Eng.Setup
import Taoshan.Eng.System

/-!
# Server Settings

What becomes of the servers that `loc_eng_set_server_proxy` is told. With a
context the server is set at once and nothing is kept. Without one it is kept
in the structure, for `loc_eng_agps_reinit` to set it later: at the end of
`loc_eng_agps_init`, and whenever the modem is up again.

The two ways never meet. Setting up clears the structure, and with it what was
kept; after that there is a context, and nothing is kept any more
(`nothingSaved_step`). So `loc_eng_agps_reinit` finds nothing, whoever calls it.
The settings made before the initialisation arrive exactly if there was nothing
to arrive (`settings_kept_iff`), and a restart restores the server exactly if
none was set (`restored_iff`).

## Main definitions

* `ServerCall`, `lastOf`: Calls of `loc_eng_set_server_proxy`, and the last of a
  kind.
* `setServerUrls`, `setServerAddresses`: The messages about the two servers.
* `SettingsKept`: What is set later is what would have been set at once.
* `Restores`: A restart sets the last server again.

## Theorems

* `nothingSaved_step`: With a context nothing is kept.
* `exec_setup`: What is queued by setting up after such calls.
* `settings_kept_iff`: The settings arrive if and only if none had to.
* `restored_iff`: The server is restored if and only if none was set.
-/

namespace Taoshan

namespace Eng

/-- A call of `loc_eng_set_server_proxy`. What a name resolves to is no matter
    as long as nothing is set. -/
structure ServerCall where
  type : LocServerType
  hostname : List UInt8
  port : BitVec 32
  resolveInAddr : List UInt8 → Option (BitVec 32)

def ServerCall.action (c : ServerCall) : Action :=
  .setServerProxy c.type c.hostname c.port c.resolveInAddr

/-- The last call for a server of the type. -/
def lastOf (type : LocServerType) (calls : List ServerCall) : Option ServerCall :=
  (calls.filter fun c => c.type = type).getLast?

/-- What `loc_eng_set_server` would queue for it. -/
def direct (r : List UInt8 → Option (BitVec 32)) (type : LocServerType)
    (calls : List ServerCall) : List EngMsg :=
  match lastOf type calls with
  | none => []
  | some c => (setServer r c.type c.hostname c.port).2

/-- `LOC_ENG_MSG_SET_SERVER_URL`. -/
def EngMsg.isServerUrl : EngMsg → Bool
  | .adapter (.setServerUrl ..) => true
  | _ => false

/-- `LOC_ENG_MSG_SET_SERVER_IPV4`. -/
def EngMsg.isServerIpv4 : EngMsg → Bool
  | .adapter (.setServerIpv4 ..) => true
  | _ => false

/-- What has been queued since then about the one and about the other. -/
def setServerUrls (e e' : Engine) : List EngMsg := (queuedBy e e').filter EngMsg.isServerUrl
def setServerAddresses (e e' : Engine) : List EngMsg := (queuedBy e e').filter EngMsg.isServerIpv4

/-- A call of `loc_eng_init` that is successful if it meets no context. -/
structure InitArgs.Succeeds (args : InitArgs) : Prop where
  callbacks : args.callbacks.isSome = true
  event : args.event ≠ 0
  adapter : args.adapter = true
  reinit : ∃ tries, 0 < tries ∧ tries ≤ 30 ∧ args.reinit tries = LOC_API_ADAPTER_ERR_SUCCESS

/-- The calls, then `loc_eng_init`, then `loc_eng_agps_init`. -/
def setupRun (calls : List ServerCall) (args : InitArgs) (mBearer : Int) (launches : Bool)
    (r : List UInt8 → Option (BitVec 32)) : List Action :=
  calls.map ServerCall.action ++ [.init args, .agpsInit mBearer launches r]

/-- What is queued for the two servers is what the last call for each would
    have queued. -/
def SettingsKept (r : List UInt8 → Option (BitVec 32)) (calls : List ServerCall)
    (e e' : Engine) : Prop :=
  setServerUrls e e' = direct r .supl calls ∧ setServerAddresses e e' = direct r .cdmaPde calls

/-- The last call for SUPL has an address that is too long, or there is none;
    the last call for C2K has a name that does not resolve, or there is none. -/
def NothingToKeep (r : List UInt8 → Option (BitVec 32)) (calls : List ServerCall) : Prop :=
  (∀ c, lastOf .supl calls = some c → MAX_URL_LEN ≤ (serverUrl c.hostname c.port).length) ∧
    ∀ c, lastOf .cdmaPde calls = some c → r c.hostname = none

section Queue

variable {p : Platform} {e e' : Engine} {xs ys : List Event}

/-- Something is queued about a server. -/
def Event.setsServer : Event → Bool
  | .queued msg => msg.isServerUrl || msg.isServerIpv4
  | _ => false

/-- Nothing is queued about a server. -/
def Serverless (xs : List Event) : Prop := ∀ x ∈ xs, x.setsServer = false

theorem serverless_nil : Serverless [] := List.forall_mem_nil _

theorem Serverless.append (h : Serverless xs) (h' : Serverless ys) : Serverless (xs ++ ys) :=
  List.forall_mem_append.mpr ⟨h, h'⟩

theorem serverless_singleton {x : Event} (h : x.setsServer = false) : Serverless [x] :=
  List.forall_mem_singleton.mpr h

theorem configMessages_serverless (p : Platform) :
    ∀ msg ∈ configMessages p, (msg.isServerUrl || msg.isServerIpv4) = false := by
  intro msg hmsg
  have hconfig := isConfig_of_mem hmsg
  cases msg with
  | adapter m =>
      cases m with
      | setServerUrl | setServerIpv4 => cases hconfig
      | _ => rfl
  | _ => cases hconfig

theorem InitEvent.serverless {x : Event} (h : InitEvent p x) : x.setsServer = false := by
  cases h with
  | told capabilities => rfl
  | asked status => rfl
  | configured msg hmsg => exact configMessages_serverless p msg hmsg
  | locked lock => rfl

/-- Nothing about a server among the events, nothing among the messages. -/
theorem Serverless.queued (h : Serverless xs) :
    (queuedOf xs).filter EngMsg.isServerUrl = [] ∧
      (queuedOf xs).filter EngMsg.isServerIpv4 = [] := by
  have hnone : ∀ msg ∈ queuedOf xs, (msg.isServerUrl || msg.isServerIpv4) = false := by
    intro msg hmsg
    rcases List.mem_filterMap.mp hmsg with ⟨x, hx, hqueued⟩
    cases x with
    | queued m =>
        have hm : m = msg := Option.some.inj hqueued
        rw [← hm]
        exact h _ hx
    | _ => cases hqueued
  refine ⟨List.filter_eq_nil_iff.mpr (fun msg hmsg => ?_),
    List.filter_eq_nil_iff.mpr (fun msg hmsg => ?_)⟩
  · rw [(Bool.or_eq_false_iff.mp (hnone msg hmsg)).1]
    exact Bool.false_ne_true
  · rw [(Bool.or_eq_false_iff.mp (hnone msg hmsg)).2]
    exact Bool.false_ne_true

theorem queuedBy_of_log (h : e'.log = e.log ++ xs) : queuedBy e e' = queuedOf xs := by
  unfold queuedBy
  rw [h, List.drop_left]

end Queue

section Setup

variable {p : Platform} {e e' : Engine}

/-- Without a context, a call sets nothing. -/
theorem step_serverCall (c : ServerCall) (hcontext : e.data.context = false)
    (hphase : e.phase ≠ .faulted) :
    ∃ e', step p e c.action = some e' ∧ e'.data.context = false ∧ e'.phase ≠ .faulted ∧
      ∃ xs, e'.log = e.log ++ xs ∧ Serverless xs := by
  refine ⟨{ e with
    data := saveServer e.data c.type c.hostname c.port
    log := e.log ++ [.setServerProxy c.type c.hostname c.port] }, ?_, ?_, hphase, _, rfl, ?_⟩
  · simp only [ServerCall.action, step, hphase, if_false, setServerProxy, hcontext,
      Bool.false_eq_true]
  · exact (saveServer_context e.data c.type c.hostname c.port).trans hcontext
  · exact serverless_singleton rfl

/-- Nor does a sequence of calls. -/
theorem exec_serverCalls (calls : List ServerCall) (hcontext : e.data.context = false)
    (hphase : e.phase ≠ .faulted) :
    ∃ e', Run.exec (step p) e (calls.map ServerCall.action) = some e' ∧
      e'.data.context = false ∧ e'.phase ≠ .faulted ∧
      ∃ xs, e'.log = e.log ++ xs ∧ Serverless xs := by
  -- Each call leaves the engine without a context for the next one.
  induction calls generalizing e with
  | nil => exact ⟨e, rfl, hcontext, hphase, [], (List.append_nil _).symm, serverless_nil⟩
  | cons c calls ih =>
      rcases step_serverCall (p := p) c hcontext hphase with
        ⟨e₁, hstep, hcontext₁, hphase₁, xs, hlog, hxs⟩
      rcases ih hcontext₁ hphase₁ with ⟨e', hexec, hcontext', hphase', ys, hlog', hys⟩
      refine ⟨e', ?_, hcontext', hphase', xs ++ ys, ?_, hxs.append hys⟩
      · rw [List.map_cons, Run.exec_cons_of_step _ hstep]
        exact hexec
      · rw [hlog', hlog, List.append_assoc]

/-- Setting up clears the structure. -/
theorem step_init_succeeds {args : InitArgs} (hargs : args.Succeeds)
    (hcontext : e.data.context = false) (hphase : e.phase ≠ .faulted) :
    ∃ e' callbacks, step p e (.init args) = some e' ∧
      e'.data = contextSet p e.data callbacks ∧ e'.phase ≠ .faulted ∧
      ∃ xs, e'.log = e.log ++ xs ∧ Serverless xs := by
  -- The parameters are good and there is no context: the modem is tried.
  have hget : getsContext e.data args = true := by
    simp only [getsContext, hargs.callbacks, ne_eq, hargs.event, not_false_eq_true, decide_true,
      hcontext, Bool.not_false, Bool.and_self]
  have hserverless : Serverless
      ((init p e.data args).2.2 ++ [.initReturned (init p e.data args).1]) := by
    refine Serverless.append (fun x hx => ?_) (serverless_singleton rfl)
    exact (init_initEvent p e.data args x hx).serverless
  have hdata : ∃ callbacks, (init p e.data args).2.1 = contextSet p e.data callbacks := by
    have hinit := initialised_init p e.data args
    generalize init p e.data args = r at hinit
    cases hinit with
    | kept hkept _ => exact absurd (hkept.symm.trans hget) Bool.false_ne_true
    | dropped _ _ hadapter _ =>
        exact absurd (hadapter.symm.trans hargs.adapter) Bool.false_ne_true
    | tried _ _ _ _ => exact ⟨_, rfl⟩
  rcases hdata with ⟨callbacks, hdata⟩
  have hstep : ∃ e', step p e (.init args) = some e' := by
    simp only [step, hphase, if_false]
    exact ⟨_, rfl⟩
  rcases hstep with ⟨e', hstep⟩
  refine ⟨e', callbacks, hstep, (step_init_data hstep).trans hdata, step_init_phase hstep, _, ?_,
    hserverless⟩
  rw [step_init_eq hstep, List.append_assoc]

/-- And then there is nothing kept to set. -/
theorem step_agpsInit_serverless {callbacks : LocCallbacks} {d : EngData} (mBearer : Int)
    (launches : Bool) (r : List UInt8 → Option (BitVec 32))
    (hdata : e.data = contextSet p d callbacks) (hphase : e.phase ≠ .faulted) :
    ∃ e', step p e (.agpsInit mBearer launches r) = some e' ∧ e'.log = e.log := by
  have hdone : e.data.context = true ∧ e.data.agpsStatusCb = false := by
    rw [hdata]
    exact ⟨rfl, rfl⟩
  -- The flags of what was saved have been cleared with the structure.
  have hnothing : agpsReinit r (withMachines e.data mBearer) = [] := by
    rw [hdata]
    rfl
  simp only [step, hphase, if_false, agpsInit_eq, if_pos hdone, hnothing, List.map_nil,
    List.append_nil]
  exact ⟨_, rfl, rfl⟩

/-- What is queued by setting up after such calls. -/
theorem exec_setup (p : Platform) (calls : List ServerCall) {args : InitArgs}
    (hargs : args.Succeeds) (mBearer : Int) (launches : Bool)
    (r : List UInt8 → Option (BitVec 32)) (hcontext : e.data.context = false)
    (hphase : e.phase ≠ .faulted) :
    ∃ e', Run.exec (step p) e (setupRun calls args mBearer launches r) = some e' ∧
      setServerUrls e e' = [] ∧ setServerAddresses e e' = [] := by
  rcases exec_serverCalls (p := p) calls hcontext hphase with
    ⟨e₁, hcalls, hcontext₁, hphase₁, xs, hlog₁, hxs⟩
  rcases step_init_succeeds (p := p) hargs hcontext₁ hphase₁ with
    ⟨e₂, callbacks, hinit, hdata₂, hphase₂, ys, hlog₂, hys⟩
  rcases step_agpsInit_serverless mBearer launches r hdata₂ hphase₂ with ⟨e₃, hagps, hlog₃⟩
  have hlog : e₃.log = e.log ++ (xs ++ ys) := by
    rw [hlog₃, hlog₂, hlog₁, List.append_assoc]
  have hnone := (hxs.append hys).queued
  refine ⟨e₃, ?_, ?_, ?_⟩
  · unfold setupRun
    rw [Run.exec_append _ hcalls, Run.exec_cons_of_step _ hinit, Run.exec_cons_of_step _ hagps,
      Run.exec_nil]
  · rw [setServerUrls, queuedBy_of_log hlog]
    exact hnone.1
  · rw [setServerAddresses, queuedBy_of_log hlog]
    exact hnone.2

theorem lastOf_type {type : LocServerType} {calls : List ServerCall} {c : ServerCall}
    (h : lastOf type calls = some c) : c.type = type := by
  have hmem := List.mem_of_getLast? h
  exact of_decide_eq_true (List.mem_filter.mp hmem).2

/-- What would have been queued for SUPL is nothing exactly if there was no call,
    or an address that is too long. -/
theorem direct_supl_iff {r : List UInt8 → Option (BitVec 32)} {calls : List ServerCall} :
    direct r .supl calls = [] ↔ ∀ c, lastOf .supl calls = some c →
      MAX_URL_LEN ≤ (serverUrl c.hostname c.port).length := by
  unfold direct
  cases hlast : lastOf .supl calls with
  | none => exact ⟨fun _ _ h => absurd h.symm (Option.some_ne_none _), fun _ => rfl⟩
  | some c =>
      simp only [lastOf_type hlast, setServer, Option.some.injEq, forall_eq']
      by_cases hfits : (serverUrl c.hostname c.port).length < MAX_URL_LEN
      · rw [if_pos hfits]
        exact ⟨fun h => absurd h (List.cons_ne_nil _ _), fun h => absurd hfits (Nat.not_lt.mpr h)⟩
      · rw [if_neg hfits]
        exact ⟨fun _ => Nat.not_lt.mp hfits, fun _ => rfl⟩

/-- And for C2K, or a name that does not resolve. -/
theorem direct_cdmaPde_iff {r : List UInt8 → Option (BitVec 32)} {calls : List ServerCall} :
    direct r .cdmaPde calls = [] ↔
      ∀ c, lastOf .cdmaPde calls = some c → r c.hostname = none := by
  unfold direct
  cases hlast : lastOf .cdmaPde calls with
  | none => exact ⟨fun _ _ h => absurd h.symm (Option.some_ne_none _), fun _ => rfl⟩
  | some c =>
      have htype := lastOf_type hlast
      have hnot : c.type ≠ .supl := by
        rw [htype]
        decide
      simp only [Option.some.injEq, forall_eq']
      cases hr : r c.hostname with
      | none => simp only [setServer_unresolved c.port hnot hr]
      | some sAddr =>
          simp only [setServer_resolved c.port hnot hr, List.cons_ne_nil, reduceCtorEq]

/-- Whatever calls were made without a context, what is queued when the engine
    is set up is what they would have queued if and only if they would have
    queued nothing. -/
theorem settings_kept_iff (p : Platform) (e : Engine) (hcontext : e.data.context = false)
    (hphase : e.phase ≠ .faulted) (calls : List ServerCall) (args : InitArgs)
    (hargs : args.Succeeds) (mBearer : Int) (launches : Bool)
    (r : List UInt8 → Option (BitVec 32)) :
    ∃ e', Run.exec (step p) e (setupRun calls args mBearer launches r) = some e' ∧
      (SettingsKept r calls e e' ↔ NothingToKeep r calls) := by
  rcases exec_setup p calls hargs mBearer launches r hcontext hphase with
    ⟨e', hexec, hurls, haddresses⟩
  refine ⟨e', hexec, ?_⟩
  unfold SettingsKept NothingToKeep
  rw [hurls, haddresses, eq_comm, direct_supl_iff, @eq_comm _ [], direct_cdmaPde_iff]

theorem agreed_succeeds : InitArgs.agreed.Succeeds where
  callbacks := rfl
  event := by decide
  adapter := rfl
  reinit := ⟨30, by decide, by decide, rfl⟩

/-- A server for SUPL with a name of 256 bytes, and one for C2K whose name does not
    resolve. -/
def unusable : List ServerCall :=
  [⟨.supl, List.replicate 256 0x61, 7275, fun _ => none⟩, ⟨.cdmaPde, [0x62], 5, fun _ => none⟩]

theorem nothingToKeep_unusable : NothingToKeep (fun _ => none) unusable := by
  refine ⟨fun c hc => ?_, fun _ _ => rfl⟩
  -- The name alone is too long.
  have hname : c.hostname = List.replicate 256 0x61 := by
    rw [← Option.some.inj hc]
    rfl
  unfold serverUrl MAX_URL_LEN
  rw [List.length_append, hname, List.length_replicate]
  exact Nat.le_add_right _ _

/-- Neither would have been queued, so nothing is lost. -/
theorem settings_kept_iff_unusable :
    ∃ e', Run.exec (step .unconfigured) .fresh
        (setupRun unusable .agreed 0 false (fun _ => none)) = some e' ∧
      (SettingsKept (fun _ => none) unusable .fresh e' ↔ NothingToKeep (fun _ => none) unusable) ∧
      SettingsKept (fun _ => none) unusable .fresh e' := by
  rcases settings_kept_iff .unconfigured .fresh rfl (by decide) unusable .agreed agreed_succeeds 0
    false (fun _ => none) with ⟨e', hexec, hiff⟩
  exact ⟨e', hexec, hiff, hiff.mpr nothingToKeep_unusable⟩

/-- A server for SUPL is told before the engine is set up. -/
def earlySupl : List ServerCall := [⟨.supl, [0x61], 7275, fun _ => none⟩]

/-- It is lost. -/
theorem earlySupl_lost :
    ∃ e', Run.exec (step .unconfigured) .fresh
        (setupRun earlySupl .agreed 0 false (fun _ => none)) = some e' ∧
      ¬ SettingsKept (fun _ => none) earlySupl .fresh e' := by
  rcases exec_setup (e := .fresh) .unconfigured earlySupl agreed_succeeds 0 false (fun _ => none)
    rfl (by decide) with ⟨e', hexec, hurls, _⟩
  refine ⟨e', hexec, fun h => ?_⟩
  have hkept : [] = direct (fun _ => none) .supl earlySupl := hurls.symm.trans h.1
  exact absurd hkept (by decide)

end Setup

section Restart

variable {p : Platform} {e e' : Engine}

/-- The server and the port of a call for SUPL. -/
def Event.suplCall : Event → Option (List UInt8 × BitVec 32)
  | .setServerProxy .supl hostname port => some (hostname, port)
  | _ => none

/-- The last call for SUPL that the log records. -/
def lastSupl (log : List Event) : Option (List UInt8 × BitVec 32) :=
  (log.filterMap Event.suplCall).getLast?

/-- `LOC_ENG_MSG_SET_SERVER_URL` for a server. -/
def serverUrlMsg (hostname : List UInt8) (port : BitVec 32) : EngMsg :=
  .adapter (.setServerUrl (serverUrl hostname port) (serverUrl hostname port).length)

/-- When the modem is up again and AGPS is initialised, the URL of the last call
    for SUPL is queued, if there was one, and no other. -/
def Restores (p : Platform) (e : Engine) (a : Action) : Prop :=
  ∀ env e' hostname port, a = .take env (.nif .engineUp) → step p e a = some e' →
    e.data.agpsStatusCb = true → lastSupl e.log = some (hostname, port) →
    serverUrlMsg hostname port ∈ setServerUrls e e' ∧
      ∀ msg ∈ setServerUrls e e', msg = serverUrlMsg hostname port

/-- When the modem is up again and AGPS is initialised, there has been no call
    for SUPL. -/
def NoSuplCall (e : Engine) (a : Action) : Prop :=
  ∀ env, a = .take env (.nif .engineUp) → e.data.agpsStatusCb = true → lastSupl e.log = none

/-- With a context, no server is kept. -/
def NothingSaved (e : Engine) : Prop :=
  e.data.context = true → e.data.supl.hostSet = false ∧ e.data.c2k.hostSet = false

theorem nothingSaved_step {a : Action} (h : NothingSaved e) (hstep : step p e a = some e') :
    NothingSaved e' := by
  intro hcontext'
  rcases step_cases hstep with ha | ⟨env, msg, rfl, _, htaken⟩
  · cases step_caller_inv ha hstep with
    | kept hcore _ =>
        have hcontext := same_of_core hcore EngData.context (fun _ => rfl)
        rw [same_of_core hcore EngData.supl (fun _ => rfl),
          same_of_core hcore EngData.c2k (fun _ => rfl)]
        exact h (hcontext.symm.trans hcontext')
    | saved _ hno _ _ => exact absurd (hno.symm.trans hcontext') Bool.false_ne_true
    | begun _ _ _ _ hdata _ =>
        -- The structure has just been cleared.
        rw [hdata]
        exact ⟨rfl, rfl⟩
  · cases htaken with
    | returned _ => exact h hcontext'
    | faulted _ _ _ => exact h hcontext'
    | round hcontext _ hround =>
        have hframe := processMsg_frame hround
        have hsupl := hframe.supl
        have hc2k := hframe.c2k
        simp only [hsupl, hc2k]
        exact h hcontext

theorem setsServer_of_unqueued {x : Event} (h : x.queuedMsg = none) : x.setsServer = false := by
  cases x with
  | queued msg => cases h
  | _ => rfl

/-- So the modem's return sets none. -/
theorem engineUp_serverless {env : ThreadEnv} {d d' : EngData} {es : List Event}
    (hsupl : d.supl.hostSet = false) (hc2k : d.c2k.hostSet = false)
    (h : processMsg p env d (.nif .engineUp) = some (d', es)) : Serverless es := by
  rcases processMsg_inv h with ⟨d₁, es₁, hdispatch, _, rfl⟩
  refine Serverless.append ?_
    (fun x hx => setsServer_of_unqueued (postDispatch_unqueued _ _ _ x hx))
  -- Of its parts, only the AGPS one could set a server, and it finds none saved.
  rcases handleEngineUp_inv hdispatch with ⟨d₂, es₂, hrestart, _, rfl⟩
  rcases agpsRestart_inv hrestart with ⟨xs, hn, rfl⟩
  have hnothing : agpsReinit env.resolveInAddr d = [] := by
    simp only [agpsReinit, hsupl, hc2k, Bool.false_eq_true, if_false, List.append_nil]
  have hmachines : Serverless xs := by
    intro x hx
    rcases hn.events x hx with ⟨i, y, rfl⟩
    rfl
  have hstatus : Serverless (reportStatus d₂ GPS_STATUS_ENGINE_ON).2 := by
    intro x hx
    rw [reportStatus_events d₂ _ x hx]
    rfl
  have hresume : ∀ d, Serverless (resumeFix env d).2 := by
    intro d x hx
    unfold resumeFix at hx
    split at hx
    · rcases List.mem_cons.mp hx with rfl | hx
      · rfl
      · rcases startHandler_events env _ x hx with rfl | rfl
        · rfl
        · rfl
    · exact absurd hx List.not_mem_nil
  rw [hnothing]
  refine Serverless.append (fun x hx => (reinit_initEvent p _ d x hx).serverless) ?_
  refine Serverless.append (Serverless.append hmachines ?_) (hstatus.append (hresume _))
  split
  · exact serverless_nil
  · exact serverless_nil

/-- Nor does the step in which it is taken up. -/
theorem step_engineUp_serverless {env : ThreadEnv} (h : NothingSaved e)
    (hstep : step p e (.take env (.nif .engineUp)) = some e') : setServerUrls e e' = [] := by
  have hof : ∀ xs, e'.log = e.log ++ xs → Serverless xs → setServerUrls e e' = [] := by
    intro xs hlog hxs
    rw [setServerUrls, queuedBy_of_log hlog]
    exact hxs.queued.1
  have htook : Serverless [Event.took (.nif .engineUp)] := serverless_singleton rfl
  cases (step_take_inv hstep).2 with
  | returned _ => exact hof _ rfl htook
  | faulted _ _ _ => exact hof _ rfl htook
  | round hcontext _ hround =>
      rcases h hcontext with ⟨hsupl, hc2k⟩
      exact hof _ (List.append_assoc _ _ _)
        (htook.append (engineUp_serverless hsupl hc2k hround))

/-- Of a step that can be taken, the server is restored exactly if there was
    none to restore. -/
theorem restores_step_iff {a : Action} (h : NothingSaved e) (hstep : step p e a = some e') :
    Restores p e a ↔ NoSuplCall e a := by
  constructor
  · intro hr env ha hcb
    by_contra hsome
    rcases Option.ne_none_iff_exists'.mp hsome with ⟨⟨hostname, port⟩, hlast⟩
    have hmem := (hr env e' hostname port ha hstep hcb hlast).1
    rw [ha] at hstep
    rw [step_engineUp_serverless h hstep] at hmem
    exact absurd hmem List.not_mem_nil
  · intro hno env e₁ hostname port ha _ hcb hlast
    exact absurd (hlast.symm.trans (hno env ha hcb)) (Option.some_ne_none _)

/-- Over every run, each return of the modem restores the server that was set
    last if and only if none is met after a call for SUPL. -/
theorem restored_iff (p : Platform) (as : List Action) :
    Run.Guarded (step p) (Restores p) .fresh as ↔ Run.Guarded (step p) NoSuplCall .fresh as :=
  Run.guarded_iff NothingSaved (fun _ _ _ => nothingSaved_step)
    (fun _ _ _ => restores_step_iff) (fun h => absurd h Bool.false_ne_true)

/-- The engine is set up and told a server, and the modem restarts. -/
def restartRun : List Action :=
  [.init .agreed, .agpsInit 0 false (fun _ => none),
    .setServerProxy .supl [0x61] 7275 (fun _ => none), .take .agreed (.nif .engineUp)]

/-- The server is not set again. -/
theorem restartRun_loses :
    ¬ Run.Guarded (step .unconfigured) (Restores .unconfigured) .fresh restartRun := by
  -- Before the restart: the thread listens, AGPS is there, and so is a call.
  have hthree : (Run.exec (step .unconfigured) .fresh (restartRun.take 3)).map (fun e =>
      (e.phase, e.data.agpsStatusCb, lastSupl e.log)) =
        some (.running, true, some ([0x61], 7275)) := by
    decide +kernel
  rcases Option.map_eq_some_iff.mp hthree with ⟨e, hexec, he⟩
  simp only [Prod.mk.injEq] at he
  rcases he with ⟨hrunning, hcb, hlast⟩
  have hsaved : NothingSaved e :=
    Run.exec_invariant NothingSaved (fun _ _ _ => nothingSaved_step)
      (fun h => absurd h Bool.false_ne_true) hexec
  have hstep : ∃ e', step .unconfigured e (.take .agreed (.nif .engineUp)) = some e' := by
    simp only [step, hrunning, reduceCtorEq, if_false, if_true]
    exact ⟨_, rfl⟩
  rcases hstep with ⟨e', hstep⟩
  intro hall
  have hsplit : restartRun = restartRun.take 3 ++ [.take .agreed (.nif .engineUp)] := rfl
  rw [hsplit] at hall
  have hrestores := (Run.guarded_append hall hexec e' hstep).1
  have hnone := (restores_step_iff hsaved hstep).mp hrestores .agreed rfl hcb
  exact absurd (hlast.symm.trans hnone) (Option.some_ne_none _)

end Restart

end Eng

end Taoshan

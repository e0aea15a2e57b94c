import Taoshan.Eng.Engine

/-!
# Calls into the Engine

The functions of `loc_eng.cpp` that other threads call, on the same data, and
the system of the thread and its callers.

Most of them check the context and queue one message. Those that do more are
`loc_eng_init`, which clears the whole structure first and then tries to reach
the modem thirty times; `loc_eng_agps_init`, which creates the state machines;
and `loc_eng_set_server_proxy`, which keeps an address for later if the context
is NULL.

A label of the system is a message that the thread takes up, a call, or a step
of an NI thread. Which messages there are to take up is not said here. The
thread is gone after it has met QUIT or a NULL context, and everything is after
a NULL pointer (`Phase`).

## Main definitions

* `InitArgs`, `init`, `cleanup`: Setting up, and what is left of cleaning up.
* `agpsInit`, `setServerProxy`: The two other calls that change the data.
* `agpsOpen`, `agpsClosed`, `agpsOpenFailed`, `start`, `stop`: Calls that queue.
* `Engine`, `Action`, `step`: The thread with its callers.
-/

namespace Taoshan

namespace Eng

open Agps

/-- `LocCallbacks`, as far as it is saved. -/
structure LocCallbacks where
  setCapabilitiesCb : Bool
  locationCb : Bool
  statusCb : Bool
  svStatusCb : Bool
  nmeaCb : Bool
  deriving DecidableEq

/-- What a call of `loc_eng_init` is given and meets: whether there is an
    adapter, and its answer to `reinit` with so many tries left. -/
structure InitArgs where
  callbacks : Option LocCallbacks
  event : BitVec 32
  adapter : Bool
  reinit : Nat → AdapterErr

/-- All callbacks are there, and the first try succeeds. -/
def InitArgs.agreed : InitArgs :=
  ⟨some ⟨true, true, true, true, true⟩, 1, true, fun _ => LOC_API_ADAPTER_ERR_SUCCESS⟩

/-- `ULP_CAPABILITY`. -/
def ULP_CAPABILITY : ULong := 0x99

section Calls

variable (p : Platform) (d : EngData)

/-- `loc_eng_set_engine_lock`. -/
def setEngineLock (lock : BitVec 32) : List Event :=
  if d.context then [.queued (.adapter (.engineLock lock))] else []

/-- The parameters are good and nothing has been set up: `loc_eng_init` gets a
    context, and with it a thread. -/
def getsContext (args : InitArgs) : Bool :=
  args.callbacks.isSome && args.event ≠ 0 && !d.context

/-- The loop around `loc_eng_reinit`, with the value returned so far. -/
def reinitTries (answers : Nat → AdapterErr) : Nat → AdapterErr → AdapterErr × List Event
  | 0, ret => (ret, [])
  | tries + 1, _ =>
      let r := reinit p (answers (tries + 1)) d
      if r.1 = LOC_API_ADAPTER_ERR_SUCCESS then r
      else
        let q := reinitTries answers tries r.1
        (q.1, r.2 ++ q.2)

/-- `memset` on the structure, and with it on the pointer to the adapter. The
    threads that wait in it stay. -/
def cleared : EngData :=
  { EngData.zero with
    ni := { d.ni with
      niNotifyCb := false
      muteSessionState := .none
      respTimeLeft := 0
      respRecvd := false
      rawRequest := none
      reqID := 0
      resp := 0 } }

/-- The structure with a context and the callbacks saved. -/
def contextSet (callbacks : LocCallbacks) : EngData :=
  { cleared d with
    context := true
    locationCb := callbacks.locationCb
    svStatusCb := callbacks.svStatusCb
    statusCb := callbacks.statusCb
    nmeaCb := callbacks.nmeaCb
    intermediateFix := p.conf.INTERMEDIATE_POS.setWidth 8 }

/-- `loc_eng_init`: what it returns, leaves and does. -/
def init (args : InitArgs) : Int × EngData × List Event :=
  match args.callbacks with
  | none => (0, d, [])
  | some callbacks =>
      if args.event = 0 then (0, d, [])
      -- `loc_eng_cleanup` keeps the context, so the engine is only unlocked.
      else if d.context then (0, d, setEngineLock d 1)
      else
        -- An adapter that comes in with it is not in a session.
        let d := contextSet p d callbacks
        let told := if callbacks.setCapabilitiesCb then [.setCapabilitiesCb p.conf.CAPABILITIES]
          else []
        if args.adapter = false then (-1, { d with context := false }, told)
        else
          let r := reinitTries p d args.reinit 30 (-1)
          (r.1, d, told ++ r.2 ++
            (if r.1 = LOC_API_ADAPTER_ERR_SUCCESS then setEngineLock d 1 else []))

/-- `loc_eng_start`: what it returns and queues. -/
def start : Int × List Event :=
  if d.context = false then (-1, [])
  else if d.ulpInitialized ∧ p.conf.CAPABILITIES &&& ULP_CAPABILITY ≠ 0 then
    (0, [.ulpQueued .startFix])
  else (0, [.queued .startFix])

/-- `loc_eng_stop`. -/
def stop : Int × List Event :=
  if d.context = false then (-1, [])
  else if d.ulpInitialized ∧ p.conf.CAPABILITIES &&& ULP_CAPABILITY ≠ 0 then
    (0, [.ulpQueued .stopFix])
  else (0, [.queued .stopFix])

/-- `loc_eng_cleanup`. -/
def cleanup : List Event :=
  if d.context = false then []
  else (if d.isInSession then (stop p d).2 else []) ++ setEngineLock d 0

/-- The callback and the three machines that `loc_eng_agps_init` puts in. -/
def withMachines (mBearer : Int) : EngData :=
  { d with
    agpsStatusCb := true
    agnssNif := some (.init AGPS_TYPE_SUPL false mBearer)
    internetNif := some (.init AGPS_TYPE_WWAN_ANY false mBearer)
    wifiNif := some (.init AGPS_TYPE_WIFI true mBearer) }

/-- `loc_eng_agps_init`, with a callback. -/
def agpsInit (mBearer : Int) (resolveInAddr : List UInt8 → Option (BitVec 32)) :
    EngData × List Event :=
  if d.context = false then (d, [])
  -- Already done: a second callback is ignored.
  else if d.agpsStatusCb then (d, [])
  else
    let d := withMachines d mBearer
    (d, (agpsReinit resolveInAddr d).map .queued)

/-- The size of `supl_host_buf` and of `c2k_host_buf`. -/
def HOST_BUF_SIZE : Nat := 101

/-- What `loc_eng_set_server_proxy` keeps for later. -/
def saveServer (type : LocServerType) (hostname : List UInt8) (port : BitVec 32) : EngData :=
  match type with
  | .supl => { d with supl := ⟨true, hostname.take (HOST_BUF_SIZE - 1), port⟩ }
  | .cdmaPde => { d with c2k := ⟨true, hostname.take (HOST_BUF_SIZE - 1), port⟩ }
  -- The other two have no buffer.
  | _ => d

/-- `loc_eng_set_server_proxy`: what it returns, leaves and does. -/
def setServerProxy (resolveInAddr : List UInt8 → Option (BitVec 32)) (type : LocServerType)
    (hostname : List UInt8) (port : BitVec 32) : Int × EngData × List Event :=
  if d.context then
    let r := setServer resolveInAddr type hostname port
    (r.1, d, r.2.map .queued)
  else (0, saveServer d type hostname port, [])

/-- `MAX_APN_LEN`. -/
def MAX_APN_LEN : Nat := 100

/-- The check of the three calls that answer a request of the service. -/
def agpsPost (msg : Msg) : Int × List EngMsg :=
  if d.context ∧ d.agpsStatusCb then (0, [.nif msg]) else (-1, [])

/-- `loc_eng_agps_open`. -/
def agpsOpen (agpsType : AGpsType) (apn : Option (List UInt8)) (bearerType : Int) :
    Int × List EngMsg :=
  match apn with
  -- Without a name, success is returned and nothing queued.
  | none => if d.context ∧ d.agpsStatusCb then (0, []) else (-1, [])
  | some apn =>
      agpsPost d (.atlOpenSuccess agpsType (apn.take MAX_APN_LEN) (min apn.length MAX_APN_LEN)
        bearerType)

/-- `loc_eng_agps_closed`. -/
def agpsClosed (agpsType : AGpsType) : Int × List EngMsg := agpsPost d (.atlClosed agpsType)

/-- `loc_eng_agps_open_failed`. -/
def agpsOpenFailed (agpsType : AGpsType) : Int × List EngMsg := agpsPost d (.atlOpenFailed agpsType)

end Calls

/-- The callbacks that are registered one by one, and `ulp_initialized`. -/
inductive Registration
  | xtraInit (downloadRequestCb : Bool)
  | ulpInit (interface : Bool)
  | ulpPhoneContextInit (requestCb : Bool)
  | ulpNetworkInit (requestCb : Bool)
  deriving DecidableEq

/-- `loc_eng_xtra_init`, `loc_eng_ulp_init`, `loc_eng_ulp_phone_context_init` and
    `loc_eng_ulp_network_init`; none of them checks the context. -/
def register (d : EngData) : Registration → EngData
  | .xtraInit downloadRequestCb => { d with downloadRequestCb := downloadRequestCb }
  -- It is never taken back.
  | .ulpInit interface => if interface then { d with ulpInitialized := true } else d
  | .ulpPhoneContextInit requestCb => { d with ulpPhoneContextReqCb := requestCb }
  | .ulpNetworkInit requestCb => { d with ulpNetworkCallback := requestCb }

/-- Whether the thread listens, has returned, or has followed a NULL pointer. -/
inductive Phase
  | running
  | returned
  | faulted
  deriving DecidableEq, Repr

/-- The engine with its thread. `locApiHandle` says whether the link to the
    daemon has been launched. -/
structure Engine where
  data : EngData
  phase : Phase
  locApiHandle : Bool
  log : List Event

/-- Before the first call. -/
def Engine.fresh : Engine := ⟨.zero, .returned, false, []⟩

/-- A message is taken up; another thread makes a call or a step. -/
inductive Action
  | take (env : ThreadEnv) (msg : EngMsg)
  | init (args : InitArgs)
  | cleanup
  | agpsInit (mBearer : Int) (launches : Bool) (resolveInAddr : List UInt8 → Option (BitVec 32))
  | setServerProxy (type : LocServerType) (hostname : List UInt8) (port : BitVec 32)
      (resolveInAddr : List UInt8 → Option (BitVec 32))
  | register (r : Registration)
  | ni (a : Ni.Action)

/-- The steps of the NI part that are not the deferred action thread's own. -/
def ofOtherThread : Ni.Action → Bool
  | .request .. => false
  | .restart => false
  | _ => true

/-- The thread takes up a message. -/
def Engine.take (p : Platform) (e : Engine) (env : ThreadEnv) (msg : EngMsg) : Engine :=
  let log := e.log ++ [.took msg]
  if e.data.context = false then { e with phase := .returned, log := log }
  else if msg = .quit then { e with phase := .returned, log := log }
  else match processMsg p env e.data msg with
    | none => { e with phase := .faulted, log := log }
    | some (d, es) => { e with data := d, log := log ++ es }

def step (p : Platform) (e : Engine) (a : Action) : Option Engine :=
  if e.phase = .faulted then none
  else match a with
    | .take env msg => if e.phase = .running then some (e.take p env msg) else none
    | .init args =>
        let r := init p e.data args
        some { e with
          data := r.2.1
          -- Without an adapter the new thread is told to quit.
          phase := if getsContext e.data args then
            (if r.2.1.context then .running else .returned) else e.phase
          log := e.log ++ r.2.2 ++ [.initReturned r.1] }
    | .cleanup => some { e with log := e.log ++ cleanup p e.data }
    | .agpsInit mBearer launches resolveInAddr =>
        let r := agpsInit e.data mBearer resolveInAddr
        some { e with
          data := r.1
          locApiHandle := e.locApiHandle ||
            (launches && e.data.context && !e.data.agpsStatusCb)
          log := e.log ++ r.2 }
    | .setServerProxy type hostname port resolveInAddr =>
        let r := setServerProxy e.data resolveInAddr type hostname port
        some { e with
          data := r.2.1
          log := e.log ++ .setServerProxy type hostname port :: r.2.2 }
    | .register r => some { e with data := register e.data r }
    | .ni a =>
        if ofOtherThread a then match Ni.step e.data.ni a with
          | none => none
          | some ni => some { e with data := { e.data with ni := ni } }
        else none

end Eng

end Taoshan

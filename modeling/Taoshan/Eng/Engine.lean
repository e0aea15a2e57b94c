import Taoshan.Eng.Messages
import Taoshan.Ni.Session

/-!
# The Deferred Action Thread

The body of `loc_eng_deferred_action_thread`: the dispatch on the message and
what is done after it, on the data the thread shares with the callers of the
engine.

A handler returns the data it leaves and what it did, in order. It returns
`none` where the source follows a pointer to a state machine that is NULL
(`EngData.call`, `EngData.drop`). What the program does not determine comes
with the message: what the adapter answers, how a host name resolves, and what
the state machines read (`ThreadEnv`).

The adapter is there whenever the context is, since `loc_eng_init` drops the
context again if it gets no adapter. So the data has the adapter's session
flag (`isInSession`) and no pointer to it. A call of the adapter is noted with
the engine status it is made under.

## Main definitions

* `EngData`: `loc_eng_data_s_type`.
* `ThreadEnv`, `Event`: What a message meets, and what the thread does.
* `setServer`, `reinit`, `agpsReinit`: What queues messages.
* `startHandler`, `stopHandler`, `reportStatus`, `handleEngineDown`,
  `handleEngineUp`, `reportPosition`, `handleNif`: The handlers.
* `dispatch`, `postDispatch`, `processMsg`: One round of the loop.
-/

namespace Taoshan

namespace Eng

open Agps

/-- A server address that is kept for later: flag, name and port. -/
structure SavedServer where
  hostSet : Bool
  hostBuf : List UInt8
  portBuf : BitVec 32
  deriving DecidableEq

/-- `loc_eng_data_s_type`. Of a callback it is known whether there is one. -/
structure EngData where
  isInSession : Bool
  locationCb : Bool
  statusCb : Bool
  svStatusCb : Bool
  agpsStatusCb : Bool
  nmeaCb : Bool
  ulpNetworkCallback : Bool
  ulpPhoneContextReqCb : Bool
  downloadRequestCb : Bool
  intermediateFix : BitVec 8
  agpsRequestPending : Bool
  stopRequestPending : Bool
  ni : Ni.Sys
  agnssNif : Option AgpsStateMachine
  internetNif : Option AgpsStateMachine
  wifiNif : Option AgpsStateMachine
  engineStatus : GpsStatusValue
  fixSessionStatus : GpsStatusValue
  aidingDataForDeletion : GpsAidingData
  context : Bool
  supl : SavedServer
  c2k : SavedServer
  ulpInitialized : Bool

/-- What a message meets that the program does not determine. -/
structure ThreadEnv where
  nif : MsgEnv
  startFix : AdapterErr
  stopFix : AdapterErr
  reinit : AdapterErr
  recurrence : GpsPositionRecurrence
  created : Bool
  now : BitVec 64
  resolveInAddr : List UInt8 → Option (BitVec 32)

/-- The adapter agrees to everything, and no host name resolves. -/
def ThreadEnv.agreed : ThreadEnv where
  nif := .zeros
  startFix := LOC_API_ADAPTER_ERR_SUCCESS
  stopFix := LOC_API_ADAPTER_ERR_SUCCESS
  reinit := LOC_API_ADAPTER_ERR_SUCCESS
  recurrence := GPS_POSITION_RECURRENCE_PERIODIC
  created := true
  now := 0
  resolveInAddr := fun _ => none

/-- The messages that the engine puts into the queue of the ULP module. -/
inductive UlpMsg
  | startFix
  | stopFix
  deriving DecidableEq, Repr

/-- What the thread and the callers do: a message taken up, a method of the
    adapter called, a message queued, a line in the log of a state machine, a
    callback; of two calls of the interface, that they were made and what they
    returned. -/
inductive Event
  | took (msg : EngMsg)
  | call (engineStatus : GpsStatusValue) (c : AdapterCall)
  | queued (msg : EngMsg)
  | nif (i : NifId) (e : Entry)
  | locationCb (location : Option (GpsLocation × List UInt8))
  | svStatusCb (svStatus svExt : List UInt8)
  | statusCb (status : GpsStatusValue)
  | nmeaCb (now : BitVec 64) (nmea : List UInt8) (length : Nat)
  | downloadRequestCb
  | ulpNetworkCallback (networkPosRequest : List UInt8)
  | ulpPhoneContextReqCb (contextRequest : List UInt8)
  | setCapabilitiesCb (capabilities : ULong)
  | ulpQueued (msg : UlpMsg)
  | setServerProxy (type : LocServerType) (hostname : List UInt8) (port : BitVec 32)
  | initReturned (ret : Int)
  deriving DecidableEq

/-- What a handler leaves and does, or `none` after a NULL pointer. -/
abbrev Outcome := Option (EngData × List Event)

/-- One handler after another. -/
def Outcome.andThen (r : Outcome) (f : EngData → Outcome) : Outcome :=
  match r with
  | none => none
  | some (d, es) => match f d with
    | none => none
    | some (d', es') => some (d', es ++ es')

namespace EngData

variable (d : EngData)

/-- All bytes zero: before `loc_eng_init`, and what its `memset` leaves. -/
def zero : EngData where
  isInSession := false
  locationCb := false
  statusCb := false
  svStatusCb := false
  agpsStatusCb := false
  nmeaCb := false
  ulpNetworkCallback := false
  ulpPhoneContextReqCb := false
  downloadRequestCb := false
  intermediateFix := 0
  agpsRequestPending := false
  stopRequestPending := false
  ni := Ni.fresh
  agnssNif := none
  internetNif := none
  wifiNif := none
  engineStatus := GPS_STATUS_NONE
  fixSessionStatus := GPS_STATUS_NONE
  aidingDataForDeletion := 0
  context := false
  supl := ⟨false, [], 0⟩
  c2k := ⟨false, [], 0⟩
  ulpInitialized := false

/-- `mute_session_state`. -/
def muteSessionState : Ni.MuteSession := d.ni.muteSessionState

def setMute (m : Ni.MuteSession) : EngData := { d with ni := { d.ni with muteSessionState := m } }

def nif : NifId → Option AgpsStateMachine
  | .agnss => d.agnssNif
  | .internet => d.internetNif
  | .wifi => d.wifiNif

def setNif (m : Option AgpsStateMachine) : NifId → EngData
  | .agnss => { d with agnssNif := m }
  | .internet => { d with internetNif := m }
  | .wifi => { d with wifiNif := m }

/-- A call of one machine. -/
def call (i : NifId) (env : Env) (op : Op) : Outcome :=
  match d.nif i with
  -- The pointer is followed unasked.
  | none => none
  | some m =>
      let r := m.perform env op
      some (d.setNif (some r.1) i,
        (answerOf m.mStatePtr op ++ r.2.map Entry.effect).map (Event.nif i))

/-- The flush of one machine. -/
def drop (i : NifId) : Outcome :=
  match d.nif i with
  | none => none
  | some m =>
      let r := m.dropAllSubscribers
      some (d.setNif (some r.1) i, (r.2.map Entry.effect).map (Event.nif i))

/-- A call of the adapter. -/
def calls (c : AdapterCall) : Event := .call d.engineStatus c

end EngData

/-- `htonl` on a little-endian machine. -/
def htonl (x : BitVec 32) : BitVec 32 :=
  x.extractLsb' 0 8 ++ x.extractLsb' 8 8 ++ x.extractLsb' 16 8 ++ x.extractLsb' 24 8

/-- `MAX_URL_LEN`. -/
def MAX_URL_LEN : Nat := 256

/-- What `"%s:%u"` prints. -/
def serverUrl (hostname : List UInt8) (port : BitVec 32) : List UInt8 :=
  hostname ++ 0x3A :: (Nat.toDigits 10 port.toNat).map (fun c => UInt8.ofNat c.toNat)

/-- `loc_eng_set_server`: what it returns and what it queues. -/
def setServer (resolveInAddr : List UInt8 → Option (BitVec 32)) (type : LocServerType)
    (hostname : List UInt8) (port : BitVec 32) : Int × List EngMsg :=
  match type with
  | .supl =>
      let url := serverUrl hostname port
      -- What does not fit is dropped, and the caller is told nothing.
      (0, if url.length < MAX_URL_LEN then [.adapter (.setServerUrl url url.length)] else [])
  -- The name is resolved here and now; the message holds the address.
  | type => match resolveInAddr hostname with
    | none => (-2, [])
    | some sAddr => (0, [.adapter (.setServerIpv4 (htonl sAddr) port type)])

/-- `loc_eng_agps_reinit`. -/
def agpsReinit (resolveInAddr : List UInt8 → Option (BitVec 32)) (d : EngData) : List EngMsg :=
  (if d.supl.hostSet then (setServer resolveInAddr .supl d.supl.hostBuf d.supl.portBuf).2
    else []) ++
  (if d.c2k.hostSet then (setServer resolveInAddr .cdmaPde d.c2k.hostBuf d.c2k.portBuf).2
    else [])

/-- One property as the constructor of the message takes it. -/
def sensorProperty (p : Platform) (c : SensorConf) : SensorProperty :=
  ⟨c.valid ≠ 0, p.narrow c.value⟩

/-- The messages `loc_eng_reinit` queues when the adapter is ready. -/
def configMessages (p : Platform) : List EngMsg :=
  let c := p.conf
  [.adapter (.suplVersion c.SUPL_VER), .adapter (.lppConfig c.LPP_PROFILE),
    .adapter (.setSensorControlConfig c.SENSOR_USAGE)] ++
  -- Properties only if at least one of them is specified.
  (if c.GYRO_BIAS_RANDOM_WALK.valid ≠ 0 ∨ c.ACCEL_RANDOM_WALK_SPECTRAL_DENSITY.valid ≠ 0 ∨
      c.ANGLE_RANDOM_WALK_SPECTRAL_DENSITY.valid ≠ 0 ∨
      c.RATE_RANDOM_WALK_SPECTRAL_DENSITY.valid ≠ 0 ∨
      c.VELOCITY_RANDOM_WALK_SPECTRAL_DENSITY.valid ≠ 0 then
    [.adapter (.setSensorProperties {
      gyroBiasVarianceRandomWalk := sensorProperty p c.GYRO_BIAS_RANDOM_WALK
      accelRandomWalk := sensorProperty p c.ACCEL_RANDOM_WALK_SPECTRAL_DENSITY
      angleRandomWalk := sensorProperty p c.ANGLE_RANDOM_WALK_SPECTRAL_DENSITY
      rateRandomWalk := sensorProperty p c.RATE_RANDOM_WALK_SPECTRAL_DENSITY
      velocityRandomWalk := sensorProperty p c.VELOCITY_RANDOM_WALK_SPECTRAL_DENSITY })]
  else []) ++
  [.adapter (.setSensorPerfControlConfig {
    controlMode := c.SENSOR_CONTROL_MODE
    accelSamplesPerBatch := c.SENSOR_ACCEL_SAMPLES_PER_BATCH
    accelBatchesPerSec := c.SENSOR_ACCEL_BATCHES_PER_SEC
    gyroSamplesPerBatch := c.SENSOR_GYRO_SAMPLES_PER_BATCH
    gyroBatchesPerSec := c.SENSOR_GYRO_BATCHES_PER_SEC
    accelSamplesPerBatchHigh := c.SENSOR_ACCEL_SAMPLES_PER_BATCH_HIGH
    accelBatchesPerSecHigh := c.SENSOR_ACCEL_BATCHES_PER_SEC_HIGH
    gyroSamplesPerBatchHigh := c.SENSOR_GYRO_SAMPLES_PER_BATCH_HIGH
    gyroBatchesPerSecHigh := c.SENSOR_GYRO_BATCHES_PER_SEC_HIGH
    algorithmConfig := c.SENSOR_ALGORITHM_CONFIG_MASK })]

/-- `loc_eng_reinit`: what the adapter answered, and what was done. -/
def reinit (p : Platform) (ret : AdapterErr) (d : EngData) : AdapterErr × List Event :=
  (ret, d.calls .reinit ::
    (if ret = LOC_API_ADAPTER_ERR_SUCCESS then (configMessages p).map .queued else []))

section Handlers

variable (p : Platform) (env : ThreadEnv) (d : EngData)

/-- `loc_inform_gps_status`. -/
def informGpsStatus (status : GpsStatusValue) : List Event :=
  if d.statusCb then [.statusCb status] else []

/-- `loc_eng_start_handler`. -/
def startHandler : EngData × List Event :=
  if d.isInSession then (d, [])
  -- A modem that is down counts as started: it is resumed when it is back.
  else if env.startFix = LOC_API_ADAPTER_ERR_SUCCESS ∨
      env.startFix = LOC_API_ADAPTER_ERR_ENGINE_DOWN then
    ({ d with isInSession := true },
      d.calls .startFix :: informGpsStatus d GPS_STATUS_SESSION_BEGIN)
  else (d, [d.calls .startFix])

/-- `loc_eng_stop_handler`. -/
def stopHandler : EngData × List Event :=
  if d.isInSession then
    ({ d with isInSession := false },
      d.calls .stopFix ::
        -- The flag goes in any case, the status only if the modem has stopped.
        (if env.stopFix = LOC_API_ADAPTER_ERR_SUCCESS then
          informGpsStatus d GPS_STATUS_SESSION_END
        else []))
  else (d, [])

/-- What `loc_eng_report_status` makes of `mute_session_state`. -/
def mutedBy (m : Ni.MuteSession) (status : GpsStatusValue) : Ni.MuteSession :=
  let m := if (status = GPS_STATUS_SESSION_BEGIN ∨ status = GPS_STATUS_ENGINE_ON) ∧ m = .wait then
    .inSession else m
  -- Asked of the state just set; no status both begins and ends.
  if m = .inSession ∧ (status = GPS_STATUS_SESSION_END ∨ status = GPS_STATUS_ENGINE_OFF) then
    .none
  else m

/-- `loc_eng_report_status`. -/
def reportStatus (status : GpsStatusValue) : EngData × List Event :=
  let mute := mutedBy d.muteSessionState status
  ({ d.setMute mute with
      engineStatus :=
        if status = GPS_STATUS_ENGINE_ON ∨ status = GPS_STATUS_ENGINE_OFF then status
        else d.engineStatus
      fixSessionStatus :=
        if status = GPS_STATUS_SESSION_BEGIN ∨ status = GPS_STATUS_SESSION_END then status
        else d.fixSessionStatus },
    -- The end of a session is not reported while navigating, nor a beginning while not.
    if status ≠ GPS_STATUS_NONE ∧ ¬ (status = GPS_STATUS_SESSION_END ∧ d.isInSession) ∧
        ¬ (status = GPS_STATUS_SESSION_BEGIN ∧ ¬ d.isInSession) ∧ mute ≠ .inSession then
      informGpsStatus d status
    else [])

/-- `loc_eng_handle_engine_down`. -/
def handleEngineDown : EngData × List Event :=
  reportStatus { d with ni := Ni.niResetOnEngineRestart d.ni } GPS_STATUS_ENGINE_OFF

/-- The AGPS part of `loc_eng_handle_engine_up`. -/
def agpsRestart : Outcome :=
  if d.agpsStatusCb then
    -- The machine for Wi-Fi is not flushed.
    Outcome.andThen (d.drop .agnss) fun d => Outcome.andThen (d.drop .internet) fun d =>
      some (d, (agpsReinit env.resolveInAddr d).map .queued)
  else some (d, [])

/-- The last part: a session that was interrupted is started again. -/
def resumeFix : EngData × List Event :=
  if d.isInSession then
    let r := startHandler env { d with isInSession := false }
    (r.1, d.calls (.setPositionMode none) :: r.2)
  else (d, [])

/-- `loc_eng_handle_engine_up`. -/
def handleEngineUp : Outcome :=
  -- What the adapter answers to `reinit` is ignored.
  Outcome.andThen (some (d, (reinit p env.reinit d).2)) fun d =>
    Outcome.andThen (agpsRestart env d) fun d =>
      Outcome.andThen (some (reportStatus d GPS_STATUS_ENGINE_ON)) fun d =>
        some (resumeFix env d)

/-- A fix is passed on: a final one, or one that is accurate enough if
    intermediate ones are wanted. -/
def acceptsFix (location : GpsLocation) (status : LocSessStatus) : Bool :=
  status = .success || (d.intermediateFix = LOC_SESS_INTERMEDIATE &&
    !(location.flags &&& GPS_LOCATION_HAS_ACCURACY ≠ 0 && p.conf.ACCURACY_THRES ≠ 0 &&
      p.exceeds location.accuracy p.conf.ACCURACY_THRES))

/-- What `location_cb` is told of a report, if it is told of it. -/
def positionReport (location : GpsLocation) (locationExt : List UInt8) (status : LocSessStatus) :
    List Event :=
  if d.locationCb = false then []
  else if status = .failure then [.locationCb none]
  else if acceptsFix p d location status then [.locationCb (some (location, locationExt))]
  else []

/-- `LOC_ENG_MSG_REPORT_POSITION`. -/
def reportPosition (location : GpsLocation) (locationExt : List UInt8) (status : LocSessStatus) :
    EngData × List Event :=
  if d.muteSessionState = .inSession then (d, [])
  else
    let out := positionReport p d location locationExt status
    -- One fix was asked for, and here it is.
    if out ≠ [] ∧ env.recurrence = GPS_POSITION_RECURRENCE_SINGLE then
      ({ d with isInSession := false },
        out ++ (if status = .intermediate then [d.calls .stopFix] else []))
    else (d, out)

/-- The messages of the state machines. -/
def handleNif : Msg → Outcome
  | .requestBit ifType ipv4Addr ipv6Addr => match bitNif ifType with
    -- No machine is for this type: the request is passed over.
    | none => some (d, [])
    | some i =>
        d.call i env.nif.first
          (.subscribeRsrc (bitSubscriber env.nif.ipv6Addr ipv4Addr ipv6Addr))
  | .releaseBit ifType ipv4Addr ipv6Addr => match bitNif ifType with
    | none => some (d, [])
    | some i =>
        d.call i env.nif.first
          (.unsubscribeRsrc (bitSubscriber env.nif.ipv6Addr ipv4Addr ipv6Addr))
  | .requestAtl handle type =>
      d.call (atlNif type) env.nif.first
        (.subscribeRsrc (atlSubscriber handle (AGPS_TYPE_INVALID == type)))
  | .releaseAtl handle =>
      let s := atlSubscriber handle false
      Outcome.andThen (d.call .agnss env.nif.first (.unsubscribeRsrc s)) fun d' =>
        -- Not found on the first machine: the second is tried.
        match d.agnssNif with
        | some m =>
            if (m.unsubscribeRsrc env.nif.first s).1 then some (d', [])
            else d'.call .internet env.nif.second (.unsubscribeRsrc s)
        | none => none
  | .requestWifi senderId ssid password =>
      if senderId = .quipc ∨ senderId = .msapm then
        d.call .wifi env.nif.first (.subscribeRsrc (wifiSubscriber ssid password senderId))
      else some (d, [])
  | .releaseWifi senderId ssid password =>
      d.call .wifi env.nif.first (.unsubscribeRsrc (wifiSubscriber ssid password senderId))
  | .atlOpenSuccess agpsType apn length bearerType =>
      let i := statusNif agpsType
      -- The bearer and the name are set before the event.
      match d.nif i with
      | none => none
      | some m =>
          (d.setNif (some ((m.setBearer bearerType).setAPN (some apn) length)) i).call i
            env.nif.first (.onRsrcEvent .granted)
  | .atlClosed agpsType => d.call (statusNif agpsType) env.nif.first (.onRsrcEvent .released)
  | .atlOpenFailed agpsType => d.call (statusNif agpsType) env.nif.first (.onRsrcEvent .denied)
  | .engineUp => handleEngineUp p env d

/-- The `switch` of the loop. -/
def dispatch : EngMsg → Outcome
  | .quit => some (d, [])
  | .requestNi notifyFlags timeout =>
      some ({ d with ni := Ni.niRequestHandler d.ni notifyFlags timeout env.created }, [])
  | .startFix => some (startHandler env d)
  | .stopFix =>
      -- A data call is under way: the stop is put off.
      if d.agpsRequestPending then some ({ d with stopRequestPending := true }, [])
      else some (stopHandler env d)
  | .adapter msg => some (d, msg.calls.map d.calls)
  | .reportPosition location locationExt status =>
      some (reportPosition p env d location locationExt status)
  | .reportSv svStatus svExt =>
      some (d, if d.muteSessionState ≠ .inSession ∧ d.svStatusCb then
        [.svStatusCb svStatus svExt] else [])
  | .reportStatus status => some (reportStatus d status)
  | .reportNmea nmea length =>
      -- `mute_session_state` is not asked here.
      some (d, if d.nmeaCb then [.nmeaCb env.now nmea length] else [])
  | .nif msg => handleNif p env d msg
  | .requestXtraData => some (d, if d.downloadRequestCb then [.downloadRequestCb] else [])
  | .deleteAidingData type =>
      some ({ d with aidingDataForDeletion := d.aidingDataForDeletion ||| type }, [])
  | .engineDown => some (handleEngineDown d)
  | .requestNetworkPosition request =>
      some (d, if d.ulpNetworkCallback then [.ulpNetworkCallback request] else [])
  | .requestPhoneContext request =>
      some (d, if d.ulpPhoneContextReqCb then [.ulpPhoneContextReqCb request] else [])
  | .other _ => some (d, [])

/-- An answer of the data service. -/
def EngMsg.isAtlAnswer : EngMsg → Bool
  | .nif (.atlOpenSuccess ..) | .nif (.atlClosed _) | .nif (.atlOpenFailed _) => true
  | _ => false

/-- A stop that was deferred until the data call was finished. -/
def finishStop (msg : EngMsg) : EngData × List Event :=
  if msg.isAtlAnswer then
    let d := { d with agpsRequestPending := false }
    if d.stopRequestPending then stopHandler env d else (d, [])
  else (d, [])

/-- Aiding data that is to be deleted is, unless the engine is on. -/
def flushAidingData : EngData × List Event :=
  if d.engineStatus ≠ GPS_STATUS_ENGINE_ON ∧ d.aidingDataForDeletion ≠ 0 then
    ({ d with aidingDataForDeletion := 0 }, [d.calls (.deleteAidingData d.aidingDataForDeletion)])
  else (d, [])

/-- What is done after the `switch`. -/
def postDispatch (msg : EngMsg) : EngData × List Event :=
  let r := finishStop env d msg
  -- The flag goes after every message, even the one that has just set it.
  let q := flushAidingData { r.1 with stopRequestPending := false }
  (q.1, r.2 ++ q.2)

/-- One round of the loop, for a message that does not end it. -/
def processMsg (msg : EngMsg) : Outcome :=
  Outcome.andThen (dispatch p env d msg) fun d => some (postDispatch env d msg)

end Handlers

end Eng

end Taoshan

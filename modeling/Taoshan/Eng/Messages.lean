import Taoshan.Eng.Deferred

/-!
# Messages of the Engine

What the deferred action thread can take out of its queue, what it can ask the
adapter for, and the part of `gps.conf` it reads.

Fifteen messages are only passed on: the thread calls one or two methods of the
adapter with what the message carries. They are one constructor here
(`EngMsg.adapter`), and `AdapterMsg.calls` is the table of the calls. The
messages of the state machines are those of `Msg`; `engineUp` among them does
more in the engine than it does to the machines.

Floating-point numbers are kept as the bits that hold them. Nothing is
computed with them but a comparison and a narrowing, which are parameters
(`Platform`).

## Main definitions

* `GpsConf`, `Platform`: The configuration, and the machine's floating point.
* `AdapterCall`: The methods of `LocApiAdapter`.
* `AdapterMsg`, `EngMsg`: The messages.
* `AdapterMsg.calls`: What is passed on.
-/

namespace Taoshan

namespace Eng

open Agps

/-- `GpsStatusValue`, a `uint16_t`. -/
abbrev GpsStatusValue := BitVec 16

def GPS_STATUS_NONE : GpsStatusValue := 0
def GPS_STATUS_SESSION_BEGIN : GpsStatusValue := 1
def GPS_STATUS_SESSION_END : GpsStatusValue := 2
def GPS_STATUS_ENGINE_ON : GpsStatusValue := 3
def GPS_STATUS_ENGINE_OFF : GpsStatusValue := 4

/-- `loc_sess_status`. -/
inductive LocSessStatus
  | success
  | intermediate
  | failure
  deriving DecidableEq, Repr

/-- `LOC_SESS_INTERMEDIATE`, as the flag `intermediateFix` is compared with it. -/
def LOC_SESS_INTERMEDIATE : BitVec 8 := 1

/-- `enum loc_api_adapter_err`. -/
abbrev AdapterErr := Int

def LOC_API_ADAPTER_ERR_SUCCESS : AdapterErr := 0
def LOC_API_ADAPTER_ERR_GENERAL_FAILURE : AdapterErr := 1
def LOC_API_ADAPTER_ERR_ENGINE_DOWN : AdapterErr := 100

/-- `GpsPositionRecurrence`, a `uint32_t`. -/
abbrev GpsPositionRecurrence := BitVec 32

def GPS_POSITION_RECURRENCE_PERIODIC : GpsPositionRecurrence := 0
def GPS_POSITION_RECURRENCE_SINGLE : GpsPositionRecurrence := 1

/-- `GpsAidingData`, a `uint32_t` of flags. -/
abbrev GpsAidingData := BitVec 32

def GPS_LOCATION_HAS_ACCURACY : BitVec 16 := 0x0010

/-- The bits of a `float` and of a `double`. -/
abbrev CFloat := BitVec 32
abbrev CDouble := BitVec 64

/-- `unsigned long`, which has 32 bits on the device. -/
abbrev ULong := BitVec 32

/-- `LocServerType`. -/
inductive LocServerType
  | cdmaPde
  | customPde
  | mpc
  | supl
  deriving DecidableEq, Repr

/-- `GpsLocation`: the two fields the thread reads, and the others. -/
structure GpsLocation where
  flags : BitVec 16
  accuracy : CFloat
  others : List UInt8
  deriving DecidableEq

/-- `LocPosMode`. -/
structure LocPosMode where
  mode : BitVec 32
  recurrence : GpsPositionRecurrence
  minInterval : BitVec 32
  preferredAccuracy : BitVec 32
  preferredTime : BitVec 32
  share : Bool
  credentials : List UInt8
  provider : List UInt8
  deriving DecidableEq

/-- One of the five sensor properties of `gps.conf`, with its `_VALID` flag. -/
structure SensorConf where
  valid : BitVec 8
  value : CDouble
  deriving DecidableEq

/-- A property as the adapter is told. -/
structure SensorProperty where
  valid : Bool
  value : CFloat
  deriving DecidableEq

/-- `loc_eng_msg_sensor_properties`. -/
structure SensorProperties where
  gyroBiasVarianceRandomWalk : SensorProperty
  accelRandomWalk : SensorProperty
  angleRandomWalk : SensorProperty
  rateRandomWalk : SensorProperty
  velocityRandomWalk : SensorProperty
  deriving DecidableEq

/-- `loc_eng_msg_sensor_perf_control_config`. -/
structure SensorPerfControl where
  controlMode : BitVec 32
  accelSamplesPerBatch : BitVec 32
  accelBatchesPerSec : BitVec 32
  gyroSamplesPerBatch : BitVec 32
  gyroBatchesPerSec : BitVec 32
  accelSamplesPerBatchHigh : BitVec 32
  accelBatchesPerSecHigh : BitVec 32
  gyroSamplesPerBatchHigh : BitVec 32
  gyroBatchesPerSecHigh : BitVec 32
  algorithmConfig : BitVec 32
  deriving DecidableEq

/-- `loc_gps_cfg_s_type`, as far as the engine reads it. -/
structure GpsConf where
  INTERMEDIATE_POS : ULong
  ACCURACY_THRES : ULong
  SUPL_VER : ULong
  CAPABILITIES : ULong
  GYRO_BIAS_RANDOM_WALK : SensorConf
  SENSOR_ACCEL_BATCHES_PER_SEC : ULong
  SENSOR_ACCEL_SAMPLES_PER_BATCH : ULong
  SENSOR_GYRO_BATCHES_PER_SEC : ULong
  SENSOR_GYRO_SAMPLES_PER_BATCH : ULong
  SENSOR_ACCEL_BATCHES_PER_SEC_HIGH : ULong
  SENSOR_ACCEL_SAMPLES_PER_BATCH_HIGH : ULong
  SENSOR_GYRO_BATCHES_PER_SEC_HIGH : ULong
  SENSOR_GYRO_SAMPLES_PER_BATCH_HIGH : ULong
  SENSOR_CONTROL_MODE : ULong
  SENSOR_USAGE : ULong
  LPP_PROFILE : ULong
  SENSOR_ALGORITHM_CONFIG_MASK : ULong
  ACCEL_RANDOM_WALK_SPECTRAL_DENSITY : SensorConf
  ANGLE_RANDOM_WALK_SPECTRAL_DENSITY : SensorConf
  RATE_RANDOM_WALK_SPECTRAL_DENSITY : SensorConf
  VELOCITY_RANDOM_WALK_SPECTRAL_DENSITY : SensorConf

/-- `loc_default_parameters`. -/
def locDefaultParameters : GpsConf where
  INTERMEDIATE_POS := 0
  ACCURACY_THRES := 0
  SUPL_VER := 0x10000
  CAPABILITIES := 0x7
  GYRO_BIAS_RANDOM_WALK := ⟨0, 0⟩
  SENSOR_ACCEL_BATCHES_PER_SEC := 2
  SENSOR_ACCEL_SAMPLES_PER_BATCH := 5
  SENSOR_GYRO_BATCHES_PER_SEC := 2
  SENSOR_GYRO_SAMPLES_PER_BATCH := 5
  SENSOR_ACCEL_BATCHES_PER_SEC_HIGH := 4
  SENSOR_ACCEL_SAMPLES_PER_BATCH_HIGH := 25
  SENSOR_GYRO_BATCHES_PER_SEC_HIGH := 4
  SENSOR_GYRO_SAMPLES_PER_BATCH_HIGH := 25
  SENSOR_CONTROL_MODE := 0
  SENSOR_USAGE := 0
  LPP_PROFILE := 0
  SENSOR_ALGORITHM_CONFIG_MASK := 0
  ACCEL_RANDOM_WALK_SPECTRAL_DENSITY := ⟨0, 0⟩
  ANGLE_RANDOM_WALK_SPECTRAL_DENSITY := ⟨0, 0⟩
  RATE_RANDOM_WALK_SPECTRAL_DENSITY := ⟨0, 0⟩
  VELOCITY_RANDOM_WALK_SPECTRAL_DENSITY := ⟨0, 0⟩

/-- The configuration, and what the machine does with floating point: whether a
    `float` exceeds an `unsigned long`, and a `double` narrowed to a `float`. -/
structure Platform where
  conf : GpsConf
  exceeds : CFloat → ULong → Bool
  narrow : CDouble → CFloat

/-- Nothing is configured, and no fix is too inaccurate. -/
def Platform.unconfigured : Platform := ⟨locDefaultParameters, fun _ _ => false, fun _ => 0⟩

/-- The methods of `LocApiAdapter` that are called. -/
inductive AdapterCall
  | reinit
  | startFix
  | stopFix
  | setPositionMode (posMode : Option LocPosMode)
  | setTime (time timeReference : BitVec 64) (uncertainty : BitVec 32)
  | injectPosition (latitude longitude : CDouble) (accuracy : CFloat)
  | setServerIp (ip port : BitVec 32) (type : LocServerType)
  | setServerUrl (url : List UInt8) (len : Nat)
  | setSUPLVersion (version : BitVec 32)
  | setLPPConfig (profile : BitVec 32)
  | setSensorControlConfig (sensorUsage : BitVec 32)
  | setSensorProperties (properties : SensorProperties)
  | setSensorPerfControlConfig (config : SensorPerfControl)
  | setExtPowerConfig (isBatteryCharging : BitVec 32)
  | informNiResponse (userResponse : Int) (passThroughData : Nat)
  | enableData (enable : BitVec 32)
  | setAPN (apn : List UInt8) (len : Nat)
  | setXtraData (data : List UInt8) (length : Nat)
  | setEngineLock (locked : BitVec 32)
  | deleteAidingData (f : GpsAidingData)
  deriving DecidableEq

/-- The messages that are passed on to the adapter. -/
inductive AdapterMsg
  | informNiResponse (response : Int) (passThroughData : Nat)
  | setPositionMode (pMode : LocPosMode)
  | setTime (time timeReference : BitVec 64) (uncertainty : BitVec 32)
  | injectLocation (latitude longitude : CDouble) (accuracy : CFloat)
  | setServerIpv4 (nlAddr port : BitVec 32) (serverType : LocServerType)
  | setServerUrl (url : List UInt8) (len : Nat)
  | suplVersion (suplVersion : BitVec 32)
  | lppConfig (lppConfig : BitVec 32)
  | setSensorControlConfig (sensorsDisabled : BitVec 32)
  | setSensorProperties (properties : SensorProperties)
  | setSensorPerfControlConfig (config : SensorPerfControl)
  | extPowerConfig (isBatteryCharging : BitVec 32)
  | enableData (enable : BitVec 32) (apn : List UInt8) (length : Nat)
  | injectXtraData (data : List UInt8) (length : Nat)
  | engineLock (engineLock : BitVec 32)
  deriving DecidableEq

/-- The messages of the deferred action thread. `other` stands for the ids it
    does not know, and for those it knows and ignores. -/
inductive EngMsg
  | quit
  | requestNi (notifyFlags timeout : Nat)
  | startFix
  | stopFix
  | adapter (msg : AdapterMsg)
  | reportPosition (location : GpsLocation) (locationExt : List UInt8) (status : LocSessStatus)
  | reportSv (svStatus svExt : List UInt8)
  | reportStatus (status : GpsStatusValue)
  | reportNmea (nmea : List UInt8) (length : Nat)
  | nif (msg : Msg)
  | requestXtraData
  | deleteAidingData (type : GpsAidingData)
  | engineDown
  | requestNetworkPosition (networkPosRequest : List UInt8)
  | requestPhoneContext (contextRequest : List UInt8)
  | other (msgid : BitVec 32)
  deriving DecidableEq

/-- What is called for a message that is passed on. -/
def AdapterMsg.calls : AdapterMsg → List AdapterCall
  | .informNiResponse response passThroughData => [.informNiResponse response passThroughData]
  | .setPositionMode pMode => [.setPositionMode (some pMode)]
  | .setTime time timeReference uncertainty => [.setTime time timeReference uncertainty]
  | .injectLocation latitude longitude accuracy => [.injectPosition latitude longitude accuracy]
  | .setServerIpv4 nlAddr port serverType => [.setServerIp nlAddr port serverType]
  | .setServerUrl url len => [.setServerUrl url len]
  | .suplVersion version => [.setSUPLVersion version]
  | .lppConfig profile => [.setLPPConfig profile]
  | .setSensorControlConfig sensorsDisabled => [.setSensorControlConfig sensorsDisabled]
  | .setSensorProperties properties => [.setSensorProperties properties]
  | .setSensorPerfControlConfig config => [.setSensorPerfControlConfig config]
  | .extPowerConfig isBatteryCharging => [.setExtPowerConfig isBatteryCharging]
  | .enableData enable apn length => [.enableData enable, .setAPN apn length]
  | .injectXtraData data length => [.setXtraData data length]
  | .engineLock lock => [.setEngineLock lock]

/-- Aiding data is not deleted by a message that is passed on. -/
theorem AdapterMsg.deleteAidingData_not_mem (msg : AdapterMsg) (f : GpsAidingData) :
    .deleteAidingData f ∉ msg.calls := by
  cases msg <;> simp only [AdapterMsg.calls, List.mem_cons, List.not_mem_nil, or_false,
    reduceCtorEq, not_false_eq_true]

end Eng

end Taoshan

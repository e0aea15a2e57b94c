import Taoshan.Utils.LocCfg

/-!
# The Parameter Tables

The two tables that `loc_read_conf` is used with: that of `loc_eng.cpp`, whose
entries point into `gps_conf`, and that of `loc_cfg.cpp`, whose entries point to
the two variables that control logging. An entry names its parameter and has a
pointer without a type to the variable, a pointer to a flag or `NULL`, and a
letter. The letter alone says how much is stored.

## Main definitions

* `CType`, `Variable`: What the variables are declared as.
* `ParamSpec`: An entry as the source writes it.
* `gpsConf`: The fields of `gps_conf`.
* `gpsParameterTable`, `ownParameterTable`: The two tables.
* `ParamSpec.Describes`: The entry of `LocCfg` that is meant.

## Theorems

* `type_of_mem`, `type_of_mem_own`: Letters and declarations, which agree in the
  first table and do not in the second.
-/

namespace Taoshan

namespace LocCfg

open Text

/-- The types of the variables. -/
inductive CType
  | uint8
  | unsignedLong
  | double
  deriving DecidableEq, Repr

/-- `sizeof`, on the 32-bit target. -/
def CType.size : CType → Nat
  | .uint8 => 1
  | .unsignedLong => 4
  | .double => 8

/-- A variable as it is declared. -/
structure Variable where
  name : String
  type : CType
  deriving DecidableEq, Repr

/-- An initializer of a `loc_param_s_type`; `none` stands for `NULL`. -/
structure ParamSpec where
  paramName : String
  paramPtr : Variable
  paramSet : Option Variable
  paramType : Char
  deriving DecidableEq, Repr

def unsignedLong (name : String) : Variable := ⟨name, .unsignedLong⟩
def uint8 (name : String) : Variable := ⟨name, .uint8⟩
def double (name : String) : Variable := ⟨name, .double⟩

/-- `loc_gps_cfg_s_type`. -/
def gpsConf : List Variable :=
  [unsignedLong "INTERMEDIATE_POS", unsignedLong "ACCURACY_THRES", unsignedLong "ENABLE_WIPER",
    unsignedLong "SUPL_VER", unsignedLong "CAPABILITIES",
    uint8 "GYRO_BIAS_RANDOM_WALK_VALID", double "GYRO_BIAS_RANDOM_WALK",
    unsignedLong "SENSOR_ACCEL_BATCHES_PER_SEC", unsignedLong "SENSOR_ACCEL_SAMPLES_PER_BATCH",
    unsignedLong "SENSOR_GYRO_BATCHES_PER_SEC", unsignedLong "SENSOR_GYRO_SAMPLES_PER_BATCH",
    unsignedLong "SENSOR_ACCEL_BATCHES_PER_SEC_HIGH",
    unsignedLong "SENSOR_ACCEL_SAMPLES_PER_BATCH_HIGH",
    unsignedLong "SENSOR_GYRO_BATCHES_PER_SEC_HIGH",
    unsignedLong "SENSOR_GYRO_SAMPLES_PER_BATCH_HIGH",
    unsignedLong "SENSOR_CONTROL_MODE", unsignedLong "SENSOR_USAGE", unsignedLong "QUIPC_ENABLED",
    unsignedLong "LPP_PROFILE", unsignedLong "SENSOR_ALGORITHM_CONFIG_MASK",
    uint8 "ACCEL_RANDOM_WALK_SPECTRAL_DENSITY_VALID", double "ACCEL_RANDOM_WALK_SPECTRAL_DENSITY",
    uint8 "ANGLE_RANDOM_WALK_SPECTRAL_DENSITY_VALID", double "ANGLE_RANDOM_WALK_SPECTRAL_DENSITY",
    uint8 "RATE_RANDOM_WALK_SPECTRAL_DENSITY_VALID", double "RATE_RANDOM_WALK_SPECTRAL_DENSITY",
    uint8 "VELOCITY_RANDOM_WALK_SPECTRAL_DENSITY_VALID",
    double "VELOCITY_RANDOM_WALK_SPECTRAL_DENSITY"]

/-- A number of `gps_conf`, under the name of its field. -/
def number (name : String) : ParamSpec := ⟨name, unsignedLong name, none, 'n'⟩

/-- A floating point number of `gps_conf`, with its flag. -/
def float (name : String) : ParamSpec :=
  ⟨name, double name, some (uint8 (name ++ "_VALID")), 'f'⟩

/-- `loc_parameter_table` of `loc_eng.cpp`. -/
def gpsParameterTable : List ParamSpec :=
  [number "INTERMEDIATE_POS", number "ACCURACY_THRES", number "ENABLE_WIPER", number "SUPL_VER",
    number "CAPABILITIES", float "GYRO_BIAS_RANDOM_WALK",
    float "ACCEL_RANDOM_WALK_SPECTRAL_DENSITY", float "ANGLE_RANDOM_WALK_SPECTRAL_DENSITY",
    float "RATE_RANDOM_WALK_SPECTRAL_DENSITY", float "VELOCITY_RANDOM_WALK_SPECTRAL_DENSITY",
    number "SENSOR_ACCEL_BATCHES_PER_SEC", number "SENSOR_ACCEL_SAMPLES_PER_BATCH",
    number "SENSOR_GYRO_BATCHES_PER_SEC", number "SENSOR_GYRO_SAMPLES_PER_BATCH",
    number "SENSOR_ACCEL_BATCHES_PER_SEC_HIGH", number "SENSOR_ACCEL_SAMPLES_PER_BATCH_HIGH",
    number "SENSOR_GYRO_BATCHES_PER_SEC_HIGH", number "SENSOR_GYRO_SAMPLES_PER_BATCH_HIGH",
    number "SENSOR_CONTROL_MODE", number "SENSOR_USAGE", number "SENSOR_ALGORITHM_CONFIG_MASK",
    number "QUIPC_ENABLED", number "LPP_PROFILE"]

/-- `loc_parameter_table` of `loc_cfg.cpp`. -/
def ownParameterTable : List ParamSpec :=
  [⟨"DEBUG_LEVEL", uint8 "DEBUG_LEVEL", none, 'n'⟩, ⟨"TIMESTAMP", uint8 "TIMESTAMP", none, 'n'⟩]

/-- The entry that a `ParamSpec` initializes, as far as it does not change. -/
structure ParamSpec.Describes {D : Type*} (spec : ParamSpec) (e : LocParam D) : Prop where
  name : e.paramName = cstr spec.paramName
  type : e.paramType = spec.paramType
  held : e.held.isSome = true

/-- The letters and the declarations agree in the table of `gps_conf`. -/
theorem type_of_mem {spec : ParamSpec} (h : spec ∈ gpsParameterTable) :
    spec.paramType = 'n' ∧ spec.paramPtr.type = .unsignedLong ∨
      spec.paramType = 'f' ∧ spec.paramPtr.type = .double := by
  have hall : ∀ spec ∈ gpsParameterTable,
      spec.paramType = 'n' ∧ spec.paramPtr.type = .unsignedLong ∨
        spec.paramType = 'f' ∧ spec.paramPtr.type = .double := by
    decide +kernel
  exact hall spec h

/-- In the other they do not: what is stored as a number is a byte. -/
theorem type_of_mem_own {spec : ParamSpec} (h : spec ∈ ownParameterTable) :
    spec.paramType = 'n' ∧ spec.paramPtr.type = .uint8 ∧ spec.paramSet = none := by
  have hall : ∀ spec ∈ ownParameterTable,
      spec.paramType = 'n' ∧ spec.paramPtr.type = .uint8 ∧ spec.paramSet = none := by
    decide +kernel
  exact hall spec h

end LocCfg

end Taoshan

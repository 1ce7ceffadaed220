import SolarTwin.Markup.Json.Reading
import SolarTwin.Markup.Yaml.Alias
import SolarTwin.Markup.Yaml.Reading
import SolarTwin.Profile.Basic

namespace SolarTwin

/-!
# Reading profiles

A profile is decoded from a document in the same way in every language; the `Markup.Dialect` of
the language says what its nodes mean.  A record may leave out the fields that have a default.
-/

open Markup

/-! ### The names of the fields -/

/-- The fields of an identity. -/
def identityFields : List String :=
  ["unit_id", "serial_number", "susy_id", "device_class", "manufacturer", "software_package"]

/-- The fields of a weather. -/
def weatherFields : List String := ["name", "power_multiplier", "temp_increase_factor"]

/-- The fields of the parameters. -/
def parameterFields : List String :=
  ["update_interval_ms", "max_power_watts", "efficiency_percent", "max_internal_temp_celsius",
    "fault_probability_percent", "power_variation_percent", "phase_imbalance_percent",
    "voltage_variation_percent", "grid_voltage_nominal", "grid_frequency_nominal",
    "frequency_variation_hz", "daily_yield_reset_hour", "ambient_temp_celsius",
    "startup_delay_seconds", "shutdown_delay_seconds", "weather_change_interval_seconds",
    "weather_models"]

/-- The fields of a register entry. -/
def entryFields : List String := ["address", "type", "format", "access", "value", "name"]

/-- The fields of a profile. -/
def profileFields : List String := ["device_identity", "simulation_parameters", "registers"]

/-- What of a document is looked at when a profile is read from it. -/
def profileShape : Yaml.Shape :=
  .record profileFields fun
    | "device_identity" => .record identityFields fun _ => .value
    | "simulation_parameters" =>
      .record parameterFields fun
        | "weather_models" => .list (.record weatherFields fun _ => .value)
        | _ => .value
    | "registers" => .list (.record entryFields fun _ => .value)
    | _ => .value

/-! ### The parts of a profile -/

namespace Markup.Dialect

variable {ν : Type}

/-- An integer of at most 8 bits. -/
def byte (d : Dialect ν) (n : ν) : Option UInt8 := (d.below 256 n).map UInt8.ofNat

/-- An integer of at most 16 bits. -/
def word (d : Dialect ν) (n : ν) : Option UInt16 := (d.below 65536 n).map UInt16.ofNat

/-- An integer of at most 32 bits. -/
def double (d : Dialect ν) (n : ν) : Option UInt32 := (d.below 4294967296 n).map UInt32.ofNat

/-- An integer of at most 64 bits. -/
def quad (d : Dialect ν) (n : ν) : Option UInt64 := (d.below 18446744073709551616 n).map UInt64.ofNat

/-- The identity a node describes. -/
def identity? (d : Dialect ν) (n : ν) : Option Identity := do
  let f ← d.record identityFields n
  return {
    unit := ← f.required "unit_id" d.byte
    serialNumber := ← f.required "serial_number" d.double
    susyId := ← f.required "susy_id" d.double
    deviceClass := ← f.required "device_class" d.double
    manufacturer := ← f.required "manufacturer" d.double
    softwarePackage := ← f.required "software_package" d.double }

/-- The weather a node describes. -/
def weather? (d : Dialect ν) (n : ν) : Option Weather := do
  let f ← d.record weatherFields n
  return {
    name := ← f.required "name" d.text
    power := ← f.required "power_multiplier" d.real
    heating := ← f.optional "temp_increase_factor" d.real 1.0 }

/-- The parameters a node describes. -/
def parameters? (d : Dialect ν) (n : ν) : Option Parameters := do
  let f ← d.record parameterFields n
  return {
    updateInterval := ← f.required "update_interval_ms" d.quad
    ratedPower := ← f.required "max_power_watts" d.real
    efficiency := ← f.required "efficiency_percent" d.real
    maxTemperature := ← f.required "max_internal_temp_celsius" d.real
    faultProbability := ← f.required "fault_probability_percent" d.real
    powerVariation := ← f.optional "power_variation_percent" d.real 3.0
    phaseImbalance := ← f.optional "phase_imbalance_percent" d.real 1.0
    voltageVariation := ← f.optional "voltage_variation_percent" d.real 1.0
    gridVoltage := ← f.optional "grid_voltage_nominal" d.real 230.0
    gridFrequency := ← f.optional "grid_frequency_nominal" d.real 50.0
    frequencyVariation := ← f.optional "frequency_variation_hz" d.real 0.05
    resetHour := ← f.optional "daily_yield_reset_hour" d.double 0
    ambientTemperature := ← f.optional "ambient_temp_celsius" d.real 25.0
    startupDelay := ← f.optional "startup_delay_seconds" d.quad 0
    shutdownDelay := ← f.optional "shutdown_delay_seconds" d.quad 0
    weatherInterval := ← f.required "weather_change_interval_seconds" d.quad
    weather := ← f.required "weather_models" (d.list d.weather?) }

/-- The initial value a node describes: an integer, or a missing value. -/
def initialValue? (d : Dialect ν) (n : ν) : Option (Option Int) :=
  if d.isAbsent n then some none else (d.integer n).map some

/-- The register entry a node describes. -/
def entry? (d : Dialect ν) (n : ν) : Option Entry := do
  let f ← d.record entryFields n
  return {
    address := ← f.required "address" d.word
    kind := ← f.required "type" fun n => (d.choice n).bind Kind.ofName?
    format := ← f.required "format" fun n => (d.choice n).bind Format.ofName?
    access := ← f.required "access" fun n => (d.choice n).bind Access.ofName?
    value := ← f.optional "value" d.initialValue? none
    name := ← f.optional "name" d.text "" }

/-- The profile a node describes. -/
def profile? (d : Dialect ν) (n : ν) : Option Profile := do
  let f ← d.record profileFields n
  return {
    identity := ← f.required "device_identity" d.identity?
    parameters := ← f.required "simulation_parameters" d.parameters?
    entries := ← f.optional "registers" (d.list d.entry?) [] }

end Markup.Dialect

namespace Profile

/-- The profile written in a text, if it is one. -/
def read? (language : Language) (text : String) : Option Profile :=
  match language with
  | .json => (Json.read? text).bind Json.dialect.profile?
  | .yaml => (Yaml.Document.ofText? text).bind fun document =>
      if document.isModest profileShape then document.dialect.profile? document.root else none

/-- Reads a profile from a text. -/
def read (language : Language) (text : String) : Except Error Profile :=
  match read? language text with
  | some p => .ok p
  | none => .error (.configuration (.document language))

end Profile

end SolarTwin

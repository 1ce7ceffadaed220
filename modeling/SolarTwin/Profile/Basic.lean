import SolarTwin.Register.Basic

namespace SolarTwin

/-!
# Device profiles

A profile describes a device in three parts: who it is, how it behaves, and which registers it
has.  The default values are those of the device the twin was made for.
-/

/-- Who a device is. -/
structure Identity where
  unit : UInt8 := 3
  serialNumber : UInt32 := 3001234567
  susyId : UInt32 := 9346
  deviceClass : UInt32 := 8001
  manufacturer : UInt32 := 461
  softwarePackage : UInt32 := 50462756
  deriving DecidableEq

/-- A kind of weather: factors on the power output and on the heating. -/
structure Weather where
  name : String
  power : Float
  heating : Float := 1.0

/-- How a device behaves. -/
structure Parameters where
  /-- Milliseconds between two ticks. -/
  updateInterval : UInt64 := 1000
  /-- Rated AC power in watts. -/
  ratedPower : Float := 5000.0
  /-- Percent of the DC power that is delivered. -/
  efficiency : Float := 97.0
  /-- Internal temperature at rated power. -/
  maxTemperature : Float := 60.0
  /-- Percent chance of a fault per tick without load. -/
  faultProbability : Float := 0.0
  /-- Bound of the short-term variation of the power output, in percent. -/
  powerVariation : Float := 3.0
  /-- Bound of the imbalance of the first two phases, in percent. -/
  phaseImbalance : Float := 1.0
  /-- Bound of the variation of the phase voltages, in percent. -/
  voltageVariation : Float := 1.0
  gridVoltage : Float := 230.0
  gridFrequency : Float := 50.0
  /-- Bound of the variation of the grid frequency, in hertz. -/
  frequencyVariation : Float := 0.05
  /-- The hour of the day at which the daily yield starts again. -/
  resetHour : UInt32 := 0
  ambientTemperature : Float := 25.0
  startupDelay : UInt64 := 0
  shutdownDelay : UInt64 := 0
  /-- Seconds after which the weather may change. -/
  weatherInterval : UInt64 := 300
  weather : List Weather := [⟨"Sunny", 1.0, 1.0⟩, ⟨"Partly cloudy", 0.6, 0.8⟩, ⟨"Overcast", 0.2, 0.5⟩]

/-- A register as a profile lists it.  The initial value is not yet known to fit the kind. -/
structure Entry where
  address : UInt16
  kind : Kind
  format : Format := .raw
  access : Access := .readOnly
  value : Option Int := none
  name : String := ""
  deriving DecidableEq

/-- A device profile. -/
structure Profile where
  identity : Identity
  parameters : Parameters
  entries : List Entry

/-- The register of an entry, holding its initial value or else zero. -/
def Entry.register (e : Entry) : Except Error Register :=
  match e.value with
  | none => .ok ⟨e.address, Value.zero e.kind, e.format, e.access, e.name⟩
  | some n =>
    match Value.ofInt? e.kind n with
    | some v => .ok ⟨e.address, v, e.format, e.access, e.name⟩
    | none => .error (.configuration (.initialValue n e.address.toNat e.kind))

/-- The registers of a profile, or the first entry whose value does not fit. -/
def Profile.registers (p : Profile) : Except Error (List Register) :=
  p.entries.mapM Entry.register

end SolarTwin

import SolarTwin.Bank.Layout
import SolarTwin.Profile.Basic

namespace SolarTwin

/-!
# Checking a profile

A profile is checked before anything is started.  `Parameters.conditions` lists what must hold of
the parameters, each with the fault it is reported as; a NaN fails every condition on a double.
`Profile.check` looks at the parameters first and then at the registers.
-/

namespace Weather

/-- Whether both factors are at least zero. -/
def isSound (w : Weather) : Bool := 0.0 ≤ w.power && 0.0 ≤ w.heating

end Weather

namespace Parameters

/-- What must hold of the parameters, in the order in which it is checked. -/
def conditions (p : Parameters) : List (Bool × ParameterFault) :=
  [ (p.updateInterval != 0, .updateInterval),
    (0.0 < p.ratedPower, .ratedPower),
    (0.0 < p.efficiency && p.efficiency ≤ 100.0, .efficiency p.efficiency),
    (0.0 ≤ p.faultProbability && p.faultProbability ≤ 100.0,
      .faultProbability p.faultProbability),
    (p.resetHour ≤ 23, .resetHour p.resetHour.toNat),
    (0.0 ≤ p.powerVariation, .negative "power_variation_percent"),
    (0.0 ≤ p.phaseImbalance, .negative "phase_imbalance_percent"),
    (0.0 ≤ p.voltageVariation, .negative "voltage_variation_percent"),
    (0.0 ≤ p.frequencyVariation, .negative "frequency_variation_hz"),
    (!p.weather.isEmpty, .noWeather) ] ++
  p.weather.map fun w => (w.isSound, .weather w.name)

/-- The fault of the first condition that does not hold. -/
def fault? (p : Parameters) : Option ParameterFault :=
  (p.conditions.find? (!·.1)).map (·.2)

theorem fault?_eq_none_iff (p : Parameters) :
    p.fault? = none ↔ ∀ c ∈ p.conditions, c.1 = true := by
  simp [fault?]

end Parameters

/-- Checks a profile: its parameters, the values of its registers, their layout. -/
def Profile.check (p : Profile) : Except Error Unit :=
  match p.parameters.fault? with
  | some fault => .error (.configuration (.parameter fault))
  | none => p.registers.bind Layout.check

end SolarTwin

import SolarTwin.Plant.Chance
import SolarTwin.Plant.Sun
import SolarTwin.Profile.Basic

namespace SolarTwin.Plant

/-!
# The physics of the plant

From the time, the weather and chance follow the power output, the temperature inside, the power of
each phase, and the quantities at the DC inputs and on the grid.
-/

/-! ### Power and temperature -/

/-- The power output before derating: zero without sun, at most the rated power with it. -/
def powerOutput (p : Parameters) (now : DateTime) (w : Weather) : Chance Float := do
  let day := now.date.dayOfYear
  let light := (Daylight.ofDay day).factor now.hourOfDay
  if light ≤ 0.0 then return 0.0
  let variation := 1.0 + (← Chance.around (p.powerVariation / 100.0))
  Chance.clamp 0.0 p.ratedPower (p.ratedPower * light * strength day * w.power * variation)

/-- The temperature inside that a load settles at. -/
def settledTemperature (p : Parameters) (ratio : Float) (w : Weather) : Float :=
  p.ambientTemperature +
    (p.maxTemperature - p.ambientTemperature) * Binary64.clamp 0.0 1.0 ratio * w.heating

/-- The factor on the output at a temperature: above 65 degrees, each degree takes two percent
    away, down to one half. -/
def derating (temperature : Float) : Float :=
  if temperature ≤ 65.0 then 1.0
  else Binary64.atLeast 0.5 (1.0 - 0.02 * (temperature - 65.0))

/-- The temperature inside follows the settled one with inertia. -/
def smoothed (before settled : Float) : Float := 0.9 * before + 0.1 * settled

/-! ### Phases -/

/-- A quantity of each of the three phases. -/
structure Phases where
  l1 : Float
  l2 : Float
  l3 : Float

/-- The sum over the phases. -/
def Phases.total (x : Phases) : Float := x.l1 + x.l2 + x.l3

/-- Splits a power into whole watts per phase: the first two vary by chance, the third takes what
    remains. -/
def splitPhases (power imbalance : Float) : Chance Phases := do
  let total := Binary64.round power
  let share := total / 3.0
  let bound := imbalance / 100.0
  let l1 := Binary64.round (share * (1.0 + (← Chance.around bound)))
  let l2 := Binary64.round (share * (1.0 + (← Chance.around bound)))
  return ⟨l1, l2, total - l1 - l2⟩

/-! ### The DC inputs -/

/-- The quantities at one DC input. -/
structure DcInput where
  power : Float
  voltage : Float
  current : Float

/-- The quantities at both DC inputs. -/
structure DcSide where
  total : Float
  a : DcInput
  b : DcInput

/-- The quantities at an input that takes up a power; the voltage grows with the load. -/
def DcInput.ofPower (power load base slope : Float) : DcInput :=
  if power ≤ 0.0 then ⟨0.0, 0.0, 0.0⟩
  else
    let voltage := base + slope * load
    ⟨power, voltage, power / voltage⟩

/-- The share of the first input in the DC power. -/
def firstShare : Float := 0.52

/-- What the inputs take up to deliver an AC power. -/
def dcSide (p : Parameters) (power : Float) : DcSide :=
  let total := Binary64.atLeast 0.0 power / (p.efficiency / 100.0)
  let load := Binary64.clamp 0.0 1.0 (power / p.ratedPower)
  ⟨total, .ofPower (total * firstShare) load 320.0 180.0,
    .ofPower (total * (1.0 - firstShare)) load 300.0 170.0⟩

/-! ### The grid -/

/-- The quantities on the grid. -/
structure GridSide where
  voltages : Phases
  currents : Phases
  totalCurrent : Float
  frequency : Float
  powerFactor : Float
  reactive : Float
  apparent : Float

/-- The power factor of a load: 0.95 without load, 0.99 at rated power. -/
def powerFactor (ratio : Float) : Float := 0.95 + 0.04 * Binary64.clamp 0.0 1.0 ratio

/-- The ripple of a phase voltage after so many seconds: one wave a minute, a third of a wave later
    for each phase. -/
def ripple (seconds phase : Float) : Float :=
  0.002 * Float.sin (2.0 * Binary64.pi * seconds / 60.0 + phase * 2.0 * Binary64.pi / 3.0)

/-- The voltage of a phase. -/
def phaseVoltage (p : Parameters) (seconds phase : Float) : Chance Float := do
  let variation ← Chance.around (p.voltageVariation / 100.0)
  return p.gridVoltage * (1.0 + variation + ripple seconds phase)

/-- The current of a phase; none without voltage. -/
def phaseCurrent (power voltage : Float) : Float :=
  if 0.0 < voltage then Binary64.atLeast 0.0 power / voltage else 0.0

/-- The power factor, the reactive and the apparent power of an active power. -/
def powerTriangle (p : Parameters) (power : Float) : Float × Float × Float :=
  if 0.0 < power then
    let factor := powerFactor (power / p.ratedPower)
    (factor, power * Float.tan (Float.acos factor), power / factor)
  else (1.0, 0.0, 0.0)

/-- The quantities on the grid for the powers of the phases. -/
def gridSide (p : Parameters) (powers : Phases) (seconds : Float) : Chance GridSide := do
  let v1 ← phaseVoltage p seconds 0.0
  let v2 ← phaseVoltage p seconds 1.0
  let v3 ← phaseVoltage p seconds 2.0
  let currents : Phases :=
    ⟨phaseCurrent powers.l1 v1, phaseCurrent powers.l2 v2, phaseCurrent powers.l3 v3⟩
  let frequency := p.gridFrequency + (← Chance.around p.frequencyVariation)
  let (factor, reactive, apparent) := powerTriangle p powers.total
  return ⟨⟨v1, v2, v3⟩, currents, currents.total, frequency, factor, reactive, apparent⟩

end SolarTwin.Plant

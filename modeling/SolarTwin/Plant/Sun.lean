import SolarTwin.Calendar

namespace SolarTwin.Plant

/-!
# The sun

How much light there is depends on the time of the day and on the day of the year.  A day is
twelve hours long at the equinoxes and fifteen at midsummer.
-/

/-- The hours between which the sun is up. -/
structure Daylight where
  sunrise : Float
  sunset : Float

/-- Where a day stands in the yearly cycle: zero at the spring equinox, one at midsummer. -/
def season (day : Nat) : Float :=
  Float.sin (2.0 * Binary64.pi * (Binary64.ofInt day - 80.0) / 365.0)

namespace Daylight

/-- The daylight of a day of the year. -/
def ofDay (day : Nat) : Daylight :=
  let s := season day
  ⟨6.0 - 1.5 * s, 18.0 + 1.5 * s⟩

/-- Whether the sun is up at an hour; it is not at sunrise and sunset themselves. -/
def contains (d : Daylight) (hour : Float) : Bool := d.sunrise < hour && hour < d.sunset

/-- How much light there is at an hour, from zero to one: a bell with its top at noon. -/
def factor (d : Daylight) (hour : Float) : Float :=
  if d.contains hour then
    let height := Float.sin (Binary64.pi * ((hour - d.sunrise) / (d.sunset - d.sunrise)))
    height * height
  else 0.0

end Daylight

/-- How strong the light of a day of the year is, from 0.7 to one. -/
def strength (day : Nat) : Float := 0.85 + 0.15 * season day

end SolarTwin.Plant

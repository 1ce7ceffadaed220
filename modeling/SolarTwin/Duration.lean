import SolarTwin.Binary64.Decimal
import SolarTwin.Binary64.Whole

namespace SolarTwin

/-!
# Spans of time

A duration is a whole number of nanoseconds.  It has three texts: `exact` in the largest unit that
is not below one, `short` with two places for people, and `clock` with all nine places of a second.
-/

/-- A span of time in nanoseconds. -/
structure Duration where
  nanos : Nat
  deriving DecidableEq

namespace Duration

/-- No time at all. -/
def zero : Duration := ⟨0⟩

/-- A number of whole seconds and nanoseconds. -/
def ofSeconds (seconds nanos : Nat) : Duration := ⟨seconds * 1000000000 + nanos⟩

/-- A number of whole milliseconds. -/
def ofMillis (millis : Nat) : Duration := ⟨millis * 1000000⟩

/-- The whole seconds. -/
def seconds (d : Duration) : Nat := d.nanos / 1000000000

/-- The whole microseconds. -/
def micros (d : Duration) : Nat := d.nanos / 1000

/-- The double of the seconds: whole seconds plus the fraction, each rounded first. -/
def toSeconds (d : Duration) : Float :=
  Binary64.ofInt d.seconds + Binary64.ofInt (d.nanos % 1000000000 : Nat) / 1e9

/-- The sum of two spans. -/
def add (a b : Duration) : Duration := ⟨a.nanos + b.nanos⟩

/-- The span divided by a count, rounded down to whole nanoseconds. -/
def div (d : Duration) (count : Nat) : Duration := ⟨d.nanos / count⟩

/-- The text of `n` units of `10 ^ places` parts, without trailing zeros after the point. -/
def trimmed (places n : Nat) : List Char :=
  let whole := Nat.toDigits 10 (n / Nat.pow 10 places)
  let fraction := Binary64.padded places (n % Nat.pow 10 places)
  match fraction.reverse.dropWhile (· == '0') with
  | [] => whole
  | digits => if places = 0 then whole else whole ++ '.' :: digits.reverse

/-- The exact text in the largest unit that is not below one: `1.5s`, `239.286196ms`, `0ns`. -/
def exact (d : Duration) : String :=
  let (places, unit) :=
    if 1000000000 ≤ d.nanos then (9, "s")
    else if 1000000 ≤ d.nanos then (6, "ms")
    else if 1000 ≤ d.nanos then (3, "µs")
    else (0, "ns")
  String.ofList (trimmed places d.nanos) ++ unit

/-- The text for people: whole microseconds, milliseconds or seconds with two places, or minutes
    and seconds from one minute on. -/
def short (d : Duration) : String :=
  if d.micros < 1000 then s!"{d.micros}µs"
  else if d.micros < 1000000 then Binary64.fixed 2 (d.toSeconds * 1000.0) ++ "ms"
  else if d.micros < 60 * 1000000 then Binary64.fixed 2 d.toSeconds ++ "s"
  else s!"{d.seconds / 60}m {d.seconds % 60}s"

/-- The seconds with all nine places. -/
def clock (d : Duration) : String :=
  String.ofList (Binary64.positional 9 d.nanos)

end Duration

end SolarTwin

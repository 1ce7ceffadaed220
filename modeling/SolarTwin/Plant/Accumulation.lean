import SolarTwin.Plant.Board

namespace SolarTwin.Plant

/-!
# Accumulation

Counters hold whole numbers, but time and energy come in fractions.  `Carries` keeps the fractions
that are not counted yet; each tick turns what has become whole into `Increments`.
-/

/-- Fractions that have not been counted. -/
structure Carries where
  /-- Watt hours. -/
  energy : Float
  /-- Seconds in operation. -/
  operating : Float
  /-- Seconds of feeding in. -/
  feedIn : Float
  /-- Seconds since the grid contactor was closed or since the last whole hour after that. -/
  closed : Float

/-- What the counters grow by in a tick. -/
structure Increments where
  operating : Nat
  feedIn : Nat
  energy : Nat
  hours : Nat
  deriving DecidableEq

/-- Adds an amount to what is carried and takes out what is whole. -/
def takeWhole (carry amount : Float) : Nat × Float :=
  let sum := carry + amount
  let whole := Binary64.floor sum
  ((Binary64.toBounded 0 Binary64.maxUnsigned64 whole).toNat, sum - whole)

/-- The seconds of an hour. -/
def hour : Float := 3600.0

/-- Takes hours out of a time as long as there is one in it, and counts them on.  If an hour less
    is no less the time is too long for doubles, and the counting would not end. -/
def takeHours (counted : Nat) (time : Float) : Except Halt (Nat × Float) :=
  if hour ≤ time then
    let rest := time - hour
    if rest.toBits.toNat < time.toBits.toNat then takeHours (counted + 1) rest
    else .error .endless
  else .ok (counted, time)
termination_by time.toBits.toNat

namespace Carries

/-- Nothing is carried. -/
def none : Carries := ⟨0.0, 0.0, 0.0, 0.0⟩

/-- The increments of a tick.  Energy and the time of feeding in only grow while feeding in, and
    the hours on the grid start again when the contactor opens. -/
def step (c : Carries) (elapsed power : Float) (feeding closed : Bool) :
    Except Halt (Increments × Carries) := do
  let (operating, operatingRest) := takeWhole c.operating elapsed
  let (feedIn, feedInRest) := if feeding then takeWhole c.feedIn elapsed else (0, c.feedIn)
  let (energy, energyRest) :=
    if feeding then takeWhole c.energy (power * elapsed / hour) else (0, c.energy)
  let (hours, closedRest) ←
    if closed then takeHours 0 (c.closed + elapsed) else pure (0, 0.0)
  return (⟨operating, feedIn, energy, hours⟩, ⟨energyRest, operatingRest, feedInRest, closedRest⟩)

end Carries

/-- Adds increments to their counters; energy goes to the total and to the daily yield alike. -/
def Board.accumulate (b : Board) (i : Increments) : Board :=
  ((((b.add Point.operatingTime i.operating).add Point.feedInTime i.feedIn).add
    Point.totalYield i.energy).add Point.dailyYield i.energy).add Point.gridConnections i.hours

end SolarTwin.Plant

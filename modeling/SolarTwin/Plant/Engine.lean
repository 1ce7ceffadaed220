import SolarTwin.Duration
import SolarTwin.Plant.Accumulation

namespace SolarTwin.Plant

/-!
# The engine

The engine moves the plant through time, tick by tick.

* `Engine.advance` computes a tick from the commands, the local time and the time since the last
  tick.  It does not see the bank, so nothing that is published can influence what follows;
* `Board.publishBeat` publishes a tick;
* `Engine.tick` does both.
-/

/-- Which weather there is, and since when. -/
structure Sky where
  index : Nat
  /-- The simulated time at which it was drawn. -/
  drawn : Option Float

/-- What a tick is summed up as. -/
structure Summary where
  state : State
  weather : String
  power : Float
  phases : Phases
  temperature : Float
  contactorClosed : Bool

/-- All that a tick brings. -/
structure Beat where
  /-- The date for which the daily yield starts again. -/
  reset : Option Date
  transition : Transition
  /-- The weather that is announced. -/
  announced : Option String
  /-- The factor on the output and the temperature it comes from. -/
  derating : Float
  settled : Float
  summary : Summary
  dc : DcSide
  grid : GridSide
  increments : Increments

/-- The plant between two ticks. -/
structure Engine where
  parameters : Parameters
  source : Source
  state : State
  sky : Sky
  /-- The date of the last reset of the daily yield. -/
  reset : Option Date
  temperature : Float
  /-- The output of the last tick over the rated power. -/
  ratio : Float
  /-- The simulated time in seconds. -/
  seconds : Float
  carries : Carries
  ticks : Nat

/-! ### Weather -/

namespace Sky

/-- The weather before the first draw is the first one of the list. -/
def initial : Sky := ⟨0, none⟩

/-- Whether new weather is drawn: at once, and then whenever the interval has gone by. -/
def isDue (sky : Sky) (interval : UInt64) (seconds : Float) : Bool :=
  match sky.drawn with
  | none => true
  | some last => Binary64.ofInt interval.toNat ≤ seconds - last

/-- Draws new weather if it is due and there is any to choose from. -/
def advance (sky : Sky) (p : Parameters) (seconds : Float) : Chance Sky :=
  if !p.weather.isEmpty ∧ sky.isDue p.weatherInterval seconds then do
    return ⟨← Chance.below p.weather.length, some seconds⟩
  else pure sky

/-- The weather, if there is any. -/
def weather? (sky : Sky) (p : Parameters) : Option Weather := p.weather[sky.index]?

/-- The weather; without any the sky is clear. -/
def weather (sky : Sky) (p : Parameters) : Weather := (sky.weather? p).getD ⟨"Clear", 1.0, 1.0⟩

/-- The weather that is announced when a draw at a time has led to `next`: another one, and any at
    the first tick. -/
def announced (sky next : Sky) (p : Parameters) (seconds : Float) (isFirst : Bool) :
    Option String :=
  if sky.isDue p.weatherInterval seconds ∧ (sky.index ≠ next.index ∨ isFirst) then
    (next.weather? p).map (·.name)
  else none

end Sky

namespace Engine

/-- An engine before its first tick. -/
def initial (p : Parameters) (source : Source) : Engine where
  parameters := p
  source := source
  state := .ok
  sky := .initial
  reset := none
  temperature := p.ambientTemperature
  ratio := 0.0
  seconds := 0.0
  carries := .none
  ticks := 0

/-- The weather in effect, if there is any. -/
def weather? (e : Engine) : Option Weather := e.sky.weather? e.parameters

/-- Whether the daily yield starts again: in the hour of the reset, once per date. -/
def resetsAt (e : Engine) (now : DateTime) : Bool :=
  e.reset ≠ some now.date && now.hour == e.parameters.resetHour.toNat

/-- Output in watts up to which the device does not feed in. -/
def feedInThreshold : Float := 10.0

/-- The tick, with its draws. -/
def beat (e : Engine) (c : Commands) (now : DateTime) (elapsed : Float) :
    Chance (Beat × Engine) := do
  let p := e.parameters
  let elapsed := Binary64.atLeast 0.0 elapsed
  let seconds := e.seconds + elapsed
  let transition ← (fun s => .ok (e.state.step c p.faultProbability e.ratio s) : Chance Transition)
  let state := transition.after
  let sky ← e.sky.advance p seconds
  let weather := sky.weather p
  let raw ← if state = .ok then powerOutput p now weather else pure 0.0
  let settled := settledTemperature p (raw / p.ratedPower) weather
  let factor := Plant.derating settled
  let power := Binary64.round (raw * factor)
  let phases ← splitPhases power p.phaseImbalance
  let grid ← gridSide p phases seconds
  let feeding := feedInThreshold < power
  let closed := state = .ok && feeding
  let (increments, carries) ← (e.carries.step elapsed power feeding closed : Except Halt _)
  let temperature := smoothed e.temperature settled
  let beat : Beat := {
    reset := if e.resetsAt now then some now.date else none
    transition
    announced := e.sky.announced sky p seconds (e.ticks = 0)
    derating := factor
    settled
    summary := ⟨state, weather.name, power, phases, temperature, closed⟩
    dc := dcSide p power
    grid
    increments }
  return (beat, { e with
    state
    sky
    reset := if e.resetsAt now then some now.date else e.reset
    temperature
    ratio := power / p.ratedPower
    seconds
    carries
    ticks := e.ticks + 1 })

/-- Computes a tick.  A time that is negative or not a number counts as none. -/
def advance (e : Engine) (c : Commands) (now : DateTime) (elapsed : Float) :
    Except Halt (Beat × Engine) := do
  let ((beat, e), source) ← (e.beat c now elapsed).run e.source
  return (beat, { e with source })

end Engine

/-! ### Publishing -/

namespace Beat

/-- The journal of the start of a tick. -/
def opening (t : Beat) : Journal :=
  (t.reset.toList.map fun d => .info s!"📅 Daily yield reset for {d.text}") ++ t.transition.lines

/-- The journal of the weather and the power of a tick. -/
def course (t : Beat) : Journal :=
  let announcement := t.announced.toList.map fun name => .info s!"🌤️ Weather changed to: {name}"
  let percent := Binary64.fixed 0 (t.derating * 100.0)
  announcement ++
  if t.derating < 1.0 then [.debug s!"Derating to {percent}% at {Binary64.fixed 1 t.settled} °C"]
  else []

/-- The journal of the end of a tick. -/
def closing (t : Beat) : Journal :=
  let s := t.summary
  let contactor := if s.contactorClosed then "closed" else "open"
  [.debug (s!"Tick: state={s.state.name} weather={s.weather} ac={Binary64.plain s.power}W " ++
    s!"temp={Binary64.fixed 1 s.temperature}°C contactor={contactor}")]

/-- The quantities of a tick and their points, in the order of publishing. -/
def points (t : Beat) : List (UInt16 × Float) :=
  let s := t.summary
  [ (Point.deviceStatus, Binary64.ofInt s.state.status),
    (Point.gridContactor, Binary64.ofInt (contactorStatus s.contactorClosed)),
    (Point.acPower, s.power),
    (Point.acPowerL1, s.phases.l1),
    (Point.acPowerL2, s.phases.l2),
    (Point.acPowerL3, s.phases.l3) ] ++
  t.dc.points ++ t.grid.points ++ [ (Point.temperature, s.temperature) ]

end Beat

/-- Publishes a tick: resets first, then what the counters grow by, then the quantities. -/
def Board.publishBeat (b : Board) (t : Beat) : Board :=
  let b := if t.reset.isSome then b.publishCount Point.dailyYield 0 else b
  let b := b.say t.opening
  let b := if t.transition.acknowledged then b.publishCount Point.acknowledgeCommand 0 else b
  let b := (b.say t.course).accumulate t.increments
  (b.publishAll t.points).say t.closing

namespace Engine

/-- Publishes who the device is and starts an engine for it. -/
def launch (bank : Bank) (i : Identity) (p : Parameters) (source : Source) : Engine × Board :=
  (initial p source, Board.publishIdentity ⟨bank, []⟩ i p.ratedPower)

/-- Runs one tick on a bank; the board holds the bank after it and what it wrote. -/
def tick (e : Engine) (bank : Bank) (now : DateTime) (elapsed : Float) :
    Except Halt (Summary × Engine × Board) := do
  let (beat, e) ← e.advance (Board.commands ⟨bank, []⟩) now elapsed
  return (beat.summary, e, Board.publishBeat ⟨bank, []⟩ beat)

/-- What is written when an engine starts to run by itself. -/
def startedLine (p : Parameters) : Line :=
  let interval := Duration.ofMillis p.updateInterval.toNat
  .info s!"🌞 Simulation engine started, tick every {interval.exact}"

/-- What is written when it stops. -/
def stoppedLine (e : Engine) : Line :=
  .info s!"🛑 Simulation engine stopped after {e.ticks} ticks"

end Engine

end SolarTwin.Plant

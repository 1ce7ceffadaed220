import SolarTwin.Duration
import SolarTwin.Journal

namespace SolarTwin.Plant

/-!
# Tick metrics

How long the ticks of a run took: their number, sum, least, greatest and average duration, and how
many took longer than they may.
-/

/-- The durations of the ticks so far. -/
structure Metrics where
  ticks : Nat
  /-- Ticks that took longer than their budget. -/
  overruns : Nat
  total : Duration
  least : Option Duration
  greatest : Option Duration
  average : Duration
  deriving DecidableEq

namespace Metrics

/-- The metrics before the first tick. -/
def fresh : Metrics := ⟨0, 0, .zero, none, none, .zero⟩

/-- The shorter of two durations. -/
def shorter (a b : Duration) : Duration := if b.nanos < a.nanos then b else a

/-- The longer of two durations. -/
def longer (a b : Duration) : Duration := if a.nanos < b.nanos then b else a

/-- Whether a tick took longer than its budget. -/
def overran (took budget : Duration) : Bool := budget.nanos < took.nanos

/-- Records one tick.  The count that the average is divided by has at most 32 bits. -/
def record (m : Metrics) (took budget : Duration) : Metrics :=
  let ticks := m.ticks + 1
  let total := m.total.add took
  { ticks
    overruns := if overran took budget then m.overruns + 1 else m.overruns
    total
    least := some (m.least.elim took (shorter took))
    greatest := some (m.greatest.elim took (longer took))
    average := total.div (min ticks (4294967295)) }

/-- What recording a tick leaves in the journal. -/
def lines (took budget : Duration) : Journal :=
  if overran took budget then
    [.warn s!"⏱️ Simulation tick took {took.exact}, over its {budget.exact} budget"]
  else []

/-- The share of ticks that overran, in percent. -/
def overrunRate (m : Metrics) : Float :=
  if m.ticks = 0 then 0.0
  else Binary64.ofInt m.overruns / Binary64.ofInt m.ticks * 100.0

/-- The metrics as a small tree. -/
def text (m : Metrics) : String :=
  let orNone (d : Option Duration) : String := d.elim "N/A" Duration.short
  "\n".intercalate
    [ "Simulation Metrics:",
      s!"├─ Ticks: {m.ticks}",
      s!"├─ Overruns: {m.overruns} ({Binary64.fixed 1 m.overrunRate}%)",
      s!"├─ Average Tick: {m.average.short}",
      s!"├─ Min Tick: {orNone m.least}",
      s!"└─ Max Tick: {orNone m.greatest}" ]

end Metrics

end SolarTwin.Plant

import SolarTwin.Journal
import SolarTwin.Plant.Chance

namespace SolarTwin.Plant

/-!
# The state of the device

Once per tick the state may change.  In this order:

* an error is left when it is acknowledged, which uses the acknowledgement up;
* a stop command turns the device off, whatever else happens in the tick;
* a device that works may fail by chance, unless it has just left an error;
* a start command turns the device on again.
-/

/-- What the device is doing. -/
inductive State where
  | off
  | ok
  /-- Reserved: no rule enters this state. -/
  | warning
  | error
  deriving DecidableEq

/-- The commands of the clients. -/
structure Commands where
  operating : UInt32
  acknowledge : UInt32
  deriving DecidableEq

/-- What a step did. -/
structure Transition where
  before : State
  after : State
  /-- The acknowledgement has been used up. -/
  acknowledged : Bool
  deriving DecidableEq

namespace Commands

/-- The command to start at the maximum power point. -/
def start : UInt32 := 295

/-- The command to stop. -/
def stop : UInt32 := 381

/-- The command to acknowledge an error. -/
def acknowledgement : UInt32 := 26

/-- What is assumed without command registers. -/
def unset : Commands := ⟨start, 0⟩

end Commands

namespace State

/-- The name of a state. -/
def name : State → String
  | .off => "OFF"
  | .ok => "OK"
  | .warning => "WARNING"
  | .error => "ERROR"

/-- All states. -/
def all : List State := [.off, .ok, .warning, .error]

/-- The state of a name. -/
def ofName? (text : String) : Option State := all.find? (·.name == text)

/-- The number a state is published as. -/
def status : State → Nat
  | .off => 303
  | .ok => 307
  | .warning => 455
  | .error => 35

/-- The chance of a fault in percent: it doubles from no load to rated power. -/
def risk (probability ratio : Float) : Float :=
  probability * (1.0 + Binary64.clamp 0.0 1.0 ratio)

/-- Whether a working device fails.  Nothing is drawn without a risk. -/
def fails (probability ratio : Float) (s : Source) : Bool × Source :=
  let risk := risk probability ratio
  if 0.0 < risk then
    let (x, s) := s.real 0.0 100.0
    (x < risk, s)
  else (false, s)

/-- Whether an error is left. -/
def isAcknowledged (state : State) (c : Commands) : Bool :=
  state = .error && c.acknowledge = Commands.acknowledgement

/-- One step.  The ratio is the output of the last tick over the rated power. -/
def step (state : State) (c : Commands) (probability ratio : Float) (s : Source) :
    Transition × Source :=
  if c.operating = Commands.stop then (⟨state, .off, state.isAcknowledged c⟩, s)
  else if state.isAcknowledged c then (⟨state, .ok, true⟩, s)
  else
    match state with
    | .ok =>
      let (failed, s) := fails probability ratio s
      (⟨.ok, if failed then .error else .ok, false⟩, s)
    | .error => (⟨.error, .error, false⟩, s)
    | .off | .warning =>
      (⟨state, if c.operating = Commands.start then .ok else state, false⟩, s)

end State

namespace Transition

/-- Whether the state is another one. -/
def changed (t : Transition) : Bool := t.before != t.after

/-- What a step leaves in the journal. -/
def lines (t : Transition) : Journal :=
  if t.changed then [.info s!"🔄 Device state {t.before.name} -> {t.after.name}"] else []

end Transition

end SolarTwin.Plant

import SolarTwin.Bank.Basic
import SolarTwin.Plant.Model
import SolarTwin.Plant.Point
import SolarTwin.Plant.State

namespace SolarTwin.Plant

/-!
# The plant's side of the bank

The plant publishes what it computes in the registers that start at its points and reads its
commands there.  A point without register is passed over when publishing; a command without
register has its value from `Commands.unset`.

* `Board.publish` stores a quantity, scaled as the format of the register says;
* `Board.publishCount` stores a number as it is;
* `Board.add` counts on from the number stored so far.
-/

/-- The bank and what the plant has written into the journal. -/
structure Board where
  bank : Bank
  journal : Journal

namespace Board

/-- Writes lines into the journal. -/
def say (b : Board) (lines : Journal) : Board := { b with journal := b.journal ++ lines }

/-- Stores a value in the register that starts at a point. -/
def store (b : Board) (a : UInt16) (v : Value) : Board :=
  match b.bank.setLogical a v with
  | .ok bank => { b with bank }
  | .error e => b.say [.warn s!"Failed to publish register {a.toNat}: {e.message}"]

/-- Stores a quantity, as near as the register can hold it. -/
def publish (b : Board) (a : UInt16) (quantity : Float) : Board :=
  match b.bank.find? a with
  | none => b
  | some r => b.store a (Value.clamp r.kind (r.format.toRaw quantity))

/-- Stores a number, as near as the register can hold it; numbers count up to the greatest signed
    one of 64 bits. -/
def publishCount (b : Board) (a : UInt16) (n : Nat) : Board :=
  match b.bank.find? a with
  | none => b
  | some r => b.store a (Value.clamp r.kind (min n Binary64.maxSigned64))

/-- The number stored at a point; a negative or missing one counts as zero. -/
def count (b : Board) (a : UInt16) : Nat := ((b.bank.logical? a).bind Value.toNat?).getD 0

/-- Adds to the number stored at a point.  Adding nothing does not touch the register. -/
def add (b : Board) (a : UInt16) (n : Nat) : Board :=
  if n = 0 then b else b.publishCount a (b.count a + n)

/-- The number stored at a point, if it is one of 32 bits. -/
def command? (b : Board) (a : UInt16) : Option UInt32 :=
  ((b.bank.logical? a).bind Value.toNat?).bind fun n =>
    if n < 4294967296 then some (UInt32.ofNat n) else none

/-- The commands of the clients. -/
def commands (b : Board) : Commands :=
  ⟨(b.command? Point.operatingCommand).getD Commands.unset.operating,
    (b.command? Point.acknowledgeCommand).getD Commands.unset.acknowledge⟩

/-! ### Groups of points -/

/-- Publishes who the device is. -/
def publishIdentity (b : Board) (i : Identity) (ratedPower : Float) : Board :=
  let counts : List (UInt16 × Nat) :=
    [ (Point.susyId, i.susyId.toNat),
      (Point.susyIdMirror, i.susyId.toNat),
      (Point.serialNumber, i.serialNumber.toNat),
      (Point.serialNumberMirror, i.serialNumber.toNat),
      (Point.deviceClass, i.deviceClass.toNat),
      (Point.manufacturer, i.manufacturer.toNat),
      (Point.softwarePackage, i.softwarePackage.toNat) ]
  let b := counts.foldl (fun b (a, n) => b.publishCount a n) b
  (b.publish Point.ratedPower ratedPower).say
    [.debug s!"Published identity of unit {i.unit.toNat} (serial {i.serialNumber.toNat})"]

/-- Publishes quantities at their points, in order. -/
def publishAll (b : Board) (quantities : List (UInt16 × Float)) : Board :=
  quantities.foldl (fun b (a, x) => b.publish a x) b

end Board

/-- The number the grid contactor is published as. -/
def contactorStatus (closed : Bool) : Nat := if closed then 51 else 311

/-- The points of a DC side. -/
def DcSide.points (dc : DcSide) : List (UInt16 × Float) :=
  [ (Point.dcPowerA, dc.a.power),
    (Point.dcVoltageA, dc.a.voltage),
    (Point.dcCurrentA, dc.a.current),
    (Point.dcPowerB, dc.b.power),
    (Point.dcVoltageB, dc.b.voltage),
    (Point.dcCurrentB, dc.b.current) ]

/-- The points of a grid side. -/
def GridSide.points (g : GridSide) : List (UInt16 × Float) :=
  [ (Point.gridVoltageL1, g.voltages.l1),
    (Point.gridVoltageL2, g.voltages.l2),
    (Point.gridVoltageL3, g.voltages.l3),
    (Point.gridCurrentL1, g.currents.l1),
    (Point.gridCurrentL2, g.currents.l2),
    (Point.gridCurrentL3, g.currents.l3),
    (Point.gridCurrent, g.totalCurrent),
    (Point.gridFrequency, g.frequency),
    (Point.powerFactor, g.powerFactor),
    (Point.reactivePower, g.reactive),
    (Point.apparentPower, g.apparent) ]

end SolarTwin.Plant

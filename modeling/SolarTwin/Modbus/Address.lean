import SolarTwin.Modbus.Function

namespace SolarTwin.Modbus

/-!
# Wire and logical addresses

Requests count registers from zero in the table their function works on.  The device numbers its
registers logically: input registers from 30001 on, holding registers from 40001 on.  The function
alone selects the table.
-/

/-- The logical address of a function's first register. -/
def Function.base : Function → Nat
  | .readInput => 30001
  | .readHolding | .writeSingle | .writeMultiple => 40001

/-- The logical address of a wire address; it may lie past the address space. -/
def Function.logical (f : Function) (wire : UInt16) : Nat :=
  wire.toNat + f.base

/-- The logical address of a wire address, if it lies in the address space. -/
def Function.logical? (f : Function) (wire : UInt16) : Option UInt16 :=
  if f.logical wire < 65536 then some (UInt16.ofNat (f.logical wire)) else none

/-- The wire address a client sends for a logical address; none below the table. -/
def Function.wire? (f : Function) (logical : UInt16) : Option UInt16 :=
  if f.base ≤ logical.toNat then some (UInt16.ofNat (logical.toNat - f.base)) else none

end SolarTwin.Modbus

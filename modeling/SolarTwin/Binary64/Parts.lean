namespace SolarTwin.Binary64

/-!
# The parts of a double

A finite double is `± significand · 2 ^ exponent`; `parts` reads the three fields off the bit
pattern.  Everything exact about doubles (rounding, text) is computed from these parts in
integer arithmetic.
-/

/-- What a double stands for. -/
inductive Parts where
  | nan
  | infinite (negative : Bool)
  | finite (negative : Bool) (significand : Nat) (exponent : Int)
  deriving DecidableEq

/-- The parts of a 64-bit pattern: a sign bit, eleven exponent bits, 52 fraction bits.  The lowest
    exponent is shared by the subnormal numbers, which lack the leading one. -/
def partsOfBits (bits : Nat) : Parts :=
  let negative := (bits >>> 63) % 2 == 1
  let exponent : Nat := (bits >>> 52) % 2048
  let fraction := bits % 4503599627370496
  if exponent = 2047 then
    if fraction = 0 then .infinite negative else .nan
  else if exponent = 0 then .finite negative fraction (-1074)
  else .finite negative (4503599627370496 + fraction) ((exponent : Int) - 1075)

/-- The parts of a double. -/
def parts (x : Float) : Parts :=
  partsOfBits x.toBits.toNat

/-- The circle constant. -/
def pi : Float := 3.14159265358979323846

end SolarTwin.Binary64

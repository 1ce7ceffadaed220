import SolarTwin.Binary64.Parts
import SolarTwin.Binary64.Quotient

namespace SolarTwin.Binary64

/-!
# Whole numbers next to a double

Rounding to nearest (a half goes away from zero), the floor, and the step from a double to a
bounded integer.  All three work on the exact value of the double.
-/

/-- The whole number nearest to a finite double, a half away from zero. -/
def nearest? (x : Float) : Option Int :=
  match parts x with
  | .finite negative m q =>
    let n := if 0 ≤ q then m <<< q.toNat else roundHalfUp m (1 <<< (-q).toNat)
    some (if negative then -(n : Int) else n)
  | _ => none

/-- The greatest whole number not above a finite double. -/
def floor? (x : Float) : Option Int :=
  match parts x with
  | .finite negative m q =>
    let signed : Int := if negative then -(m : Int) else m
    some (if 0 ≤ q then signed <<< q.toNat else signed >>> (-q).toNat)
  | _ => none

/-- The double of a whole number below `2 ^ 53`, with the given sign. -/
def ofWhole (negative : Bool) (n : Nat) : Float :=
  if negative then -n.toUInt64.toFloat else n.toUInt64.toFloat

/-- The double nearest to `x` among the whole ones, a half away from zero.  The sign is kept,
    also of a zero; whole doubles, infinities and NaN stay as they are. -/
def round (x : Float) : Float :=
  match parts x with
  | .finite negative m q =>
    if 0 ≤ q then x else ofWhole negative (roundHalfUp m (1 <<< (-q).toNat))
  | _ => x

/-- The greatest whole double not above `x`; infinities and NaN stay as they are. -/
def floor (x : Float) : Float :=
  match parts x with
  | .finite negative m q =>
    if 0 ≤ q then x
    else
      let unit := 1 <<< (-q).toNat
      ofWhole negative (if negative then (m + unit - 1) / unit else m / unit)
  | _ => x

/-- An integer brought into a closed range. -/
def clampInt (lo hi n : Int) : Int :=
  max lo (min hi n)

/-- The integer a whole double stands for, brought into `lo..hi`: infinities give the bounds and
    NaN gives zero. -/
def toBounded (lo hi : Int) (x : Float) : Int :=
  match parts x with
  | .nan => 0
  | .infinite negative => if negative then lo else hi
  | .finite negative m q =>
    let n := if 0 ≤ q then m <<< q.toNat else m >>> (-q).toNat
    clampInt lo hi (if negative then -(n : Int) else n)

/-- The bounds of signed 64-bit integers. -/
def minSigned64 : Int := -9223372036854775808

/-- The greatest signed 64-bit integer. -/
def maxSigned64 : Int := 9223372036854775807

/-- The greatest unsigned 64-bit integer. -/
def maxUnsigned64 : Int := 18446744073709551615

/-- The double nearest to an integer of at most 64 bits, ties to even. -/
def ofInt (n : Int) : Float :=
  ofWhole (n < 0) n.natAbs

/-! ### Choosing between doubles -/

/-- The greater of two doubles; a NaN gives way to the other operand. -/
def atLeast (bound x : Float) : Float :=
  if x.isNaN then bound else if x < bound then bound else x

/-- `x` brought into `lo..hi`; NaN stays NaN. -/
def clamp (lo hi x : Float) : Float :=
  let x := if x < lo then lo else x
  if hi < x then hi else x

end SolarTwin.Binary64

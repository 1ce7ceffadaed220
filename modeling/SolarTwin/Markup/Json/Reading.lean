import SolarTwin.Binary64.Reading
import SolarTwin.Markup.Dialect
import SolarTwin.Markup.Json.Value

namespace SolarTwin.Markup.Json

/-!
# What JSON values mean

A number without fraction and exponent is an integer if it has at most 64 bits, and a minus zero
is not one.  Any other number is a double, computed from the leading digits that fit 64 bits and
one power of ten; a number beyond the doubles is an error.  A record may be an array of its fields
in order, and a choice may be an object with the name of the choice and a null.
-/

/-- What a number is. -/
inductive Numeric where
  | natural (n : Nat)
  | negative (n : Int)
  | real (x : Float)

/-- The digits that were read and the power of ten that is still missing. -/
structure Scaled where
  significand : Nat
  exponent : Int

/-- Takes up the digits of a whole part: as soon as one does not fit 64 bits, it and all behind it
    only count for the exponent.  The flag says whether all digits fitted. -/
def takeWhole (significand : Nat) : List Char → Scaled × Bool
  | [] => (⟨significand, 0⟩, true)
  | c :: cs =>
    let next := significand * 10 + Binary64.digitValue c
    if next < 18446744073709551616 then takeWhole next cs else (⟨significand, cs.length + 1⟩, false)

/-- Takes up the digits of a fraction as far as they fit 64 bits; the rest is dropped. -/
def takeFraction (s : Scaled) : List Char → Scaled
  | [] => s
  | c :: cs =>
    let next := s.significand * 10 + Binary64.digitValue c
    if next < 18446744073709551616 then takeFraction ⟨next, s.exponent - 1⟩ cs else s

/-- The double of `10 ^ k`. -/
def powerOfTen (k : Nat) : Float := Binary64.ofDecimal ⟨1, k⟩

/-- Multiplies or divides by powers of ten with at most 308 zeros; none beyond the doubles. -/
def scaleBy (x : Float) (exponent : Int) : Nat → Option Float
  | 0 => some 0.0
  | tries + 1 =>
    if exponent.natAbs ≤ 308 then
      if 0 ≤ exponent then
        let y := x * powerOfTen exponent.toNat
        if y.isInf then none else some y
      else some (x / powerOfTen exponent.natAbs)
    else if x == 0.0 then some x
    else if 0 ≤ exponent then none
    else scaleBy (x / powerOfTen 308) (exponent + 308) tries

/-- The greatest exponent that is told apart from greater ones. -/
def maxExponent : Nat := 2147483647

/-- The double of a scaled number with a written exponent. -/
def realOf (s : Scaled) (exponent : Option (Bool × List Char)) : Option Float :=
  let scaled (e : Int) : Option Float := scaleBy (Binary64.ofInt s.significand) e 8
  match exponent with
  | none => scaled s.exponent
  | some (negative, digits) =>
    let e := Binary64.ofDigits digits
    if maxExponent < e then
      if s.significand ≠ 0 ∧ !negative then none else some 0.0
    else if negative then scaled (max (s.exponent - e) (-(maxExponent : Int) - 1))
    else scaled (min (s.exponent + e) maxExponent)

/-- What a number is, if it is not beyond the doubles. -/
def Number.numeric? (n : Number) : Option Numeric :=
  let (s, fits) := takeWhole 0 n.whole
  if fits ∧ n.fraction.isEmpty ∧ n.exponent.isNone then
    if !n.negative then some (.natural s.significand)
    else if s.significand = 0 ∨ 9223372036854775808 < s.significand then
      some (.real (-Binary64.ofInt s.significand))
    else some (.negative (-(s.significand : Int)))
  else
    (realOf (takeFraction s n.fraction) n.exponent).map fun x =>
      .real (if n.negative then -x else x)

/-- The numeric reading of a value. -/
def numeric? : Value → Option Numeric
  | .number n => n.numeric?
  | _ => none

/-- The text of a value. -/
def textOf : Value → Option String
  | .string pieces => (text? pieces).map String.ofList
  | _ => none

/-- The readings of JSON values. -/
def dialect : Dialect Value where
  entries
    | .object entries => some (entries.map fun (key, v) => (.string key, v))
    | _ => none
  positional
    | .array items => some items
    | _ => none
  items
    | .array items => some items
    | _ => none
  text := textOf
  natural v :=
    match numeric? v with
    | some (.natural n) => some n
    | _ => none
  integer v :=
    match numeric? v with
    | some (.natural n) => some n
    | some (.negative n) => some n
    | _ => none
  real v :=
    match numeric? v with
    | some (.natural n) => some (Binary64.ofInt n)
    | some (.negative n) => some (Binary64.ofInt n)
    | some (.real x) => some x
    | none => none
  choice
    | .object [(key, .null)] => textOf (.string key)
    | v => textOf v
  isAbsent
    | .null => true
    | _ => false

end SolarTwin.Markup.Json

import SolarTwin.Binary64.Whole

namespace SolarTwin.Binary64

/-!
# Reading doubles from decimal text

`read?` accepts an optional sign, digits with at most one point among them, and an optional
exponent; there must be a digit in front of the exponent.  The result is the double nearest to the
number that was written.
-/

/-- A decimal number: `significand · 10 ^ exponent`. -/
structure Decimal where
  significand : Nat
  exponent : Int
  deriving DecidableEq

/-- The number of decimal digits of `n`. -/
def digitCount (n : Nat) : Nat := (Nat.toDigits 10 n).length

/-- The double nearest to a decimal number, ties to even.  Numbers far outside the range are
    decided by their magnitude alone. -/
def ofDecimal (d : Decimal) : Float :=
  if d.significand = 0 then 0.0
  else
    let magnitude := d.exponent + digitCount d.significand
    if 400 < magnitude then 1.0 / 0.0
    else if magnitude < -400 then 0.0
    else Float.ofScientific d.significand (d.exponent < 0) d.exponent.natAbs

/-- The value of a digit. -/
def digitValue (c : Char) : Nat := c.toNat - 48

/-- The number written by a list of decimal digits. -/
def ofDigits (cs : List Char) : Nat :=
  cs.foldl (fun n c => 10 * n + digitValue c) 0

/-- The digits a text begins with, and the rest. -/
def spanDigits (cs : List Char) : List Char × List Char :=
  (cs.takeWhile Char.isDigit, cs.dropWhile Char.isDigit)

/-- The exponent behind the digits: nothing, or a mark, an optional sign and digits. -/
def exponent? : List Char → Option Int
  | [] => some 0
  | mark :: rest =>
    if mark = 'e' ∨ mark = 'E' then
      let (negative, digits) : Bool × List Char :=
        match rest with
        | '-' :: ds => (true, ds)
        | '+' :: ds => (false, ds)
        | ds => (false, ds)
      if digits.isEmpty ∨ digits.any (!·.isDigit) then none
      else some (if negative then -(ofDigits digits : Int) else ofDigits digits)
    else none

/-- The decimal number written by an unsigned text. -/
def decimal? (cs : List Char) : Option Decimal :=
  let (whole, rest) := spanDigits cs
  let (fraction, rest) :=
    match rest with
    | '.' :: more => spanDigits more
    | more => ([], more)
  if whole.isEmpty && fraction.isEmpty then none
  else (exponent? rest).map fun e => ⟨ofDigits (whole ++ fraction), e - fraction.length⟩

/-- The sign of a text and what follows it. -/
def splitSign : List Char → Bool × List Char
  | '-' :: cs => (true, cs)
  | '+' :: cs => (false, cs)
  | cs => (false, cs)

/-- The double written by a text.  The range is not checked: a number that is too large reads as
    an infinity. -/
def read? (cs : List Char) : Option Float :=
  let (negative, digits) := splitSign cs
  (decimal? digits).map fun d =>
    let x := ofDecimal d
    if negative then -x else x

end SolarTwin.Binary64

import SolarTwin.Binary64.Parts
import SolarTwin.Binary64.Quotient

namespace SolarTwin.Binary64

/-!
# Decimal text of doubles

* `plain x` has the fewest digits that read back as `x`, and of those the nearest to `x`; it is
  always positional;
* `fixed places x` has exactly `places` digits after the point, rounded from the exact value, a
  half to the even neighbour.
-/

/-! ### Positional text -/

/-- The decimal digits of `n`, with zeros in front up to `width` digits. -/
def padded (width n : Nat) : List Char :=
  let digits := Nat.toDigits 10 n
  List.replicate (width - digits.length) '0' ++ digits

/-- `n / 10 ^ places` in positional notation with exactly `places` digits after the point. -/
def positional (places n : Nat) : List Char :=
  let whole := Nat.toDigits 10 (n / Nat.pow 10 places)
  if places = 0 then whole else whole ++ '.' :: padded places (n % Nat.pow 10 places)

/-- A sign in front of the digits of a negative number. -/
def signed (negative : Bool) (digits : List Char) : String :=
  String.ofList (if negative then '-' :: digits else digits)

/-- The value `m · 2 ^ q` times `10 ^ places`, as a fraction. -/
def scaledFraction (m : Nat) (q : Int) (places : Nat) : Nat × Nat :=
  if 0 ≤ q then ((m <<< q.toNat) * Nat.pow 10 places, 1)
  else (m * Nat.pow 10 places, 1 <<< (-q).toNat)

/-- The text with a fixed number of places; a zero keeps its sign. -/
def fixed (places : Nat) (x : Float) : String :=
  match parts x with
  | .nan => "NaN"
  | .infinite negative => signed negative ['i', 'n', 'f']
  | .finite negative m q =>
    let (num, den) := scaledFraction m q places
    signed negative (positional places (roundHalfEven num den))

/-! ### The decimal exponent -/

/-- How many decimal digits the whole part of `num / den` has, if it is at least one. -/
def wholeDigits (num den : Nat) : Nat :=
  (Nat.toDigits 10 (num / den)).length

/-- How many zeros follow the point of `num / den` before its first digit, looking at no more than
    `limit` places. -/
def leadingZeros (num den : Nat) : Nat → Nat
  | 0 => 0
  | limit + 1 => if den ≤ 10 * num then 0 else leadingZeros (10 * num) den limit + 1

/-- The exponent `k` with `10 ^ (k - 1) ≤ num / den < 10 ^ k`, for a value of a positive double. -/
def decimalExponent (num den : Nat) : Int :=
  if den ≤ num then wholeDigits num den else -(leadingZeros num den 400 : Int)

/-! ### The shortest digits -/

/-- A positive double's value and the two ends of the interval of reals that round to it, all over
    one denominator.  The ends belong to the interval iff the significand is even; the lower half
    gap is halved again at the start of a binade. -/
structure Neighbourhood where
  low : Nat
  value : Nat
  high : Nat
  den : Nat
  closed : Bool

/-- The neighbourhood of `m · 2 ^ q`. -/
def neighbourhood (m : Nat) (q : Int) : Neighbourhood :=
  let low := if m = 4503599627370496 ∧ -1074 < q then 4 * m - 1 else 4 * m - 2
  let scale := 1 <<< (q - 2).toNat
  let den := 1 <<< (2 - q).toNat
  ⟨low * scale, 4 * m * scale, (4 * m + 2) * scale, den, m % 2 = 0⟩

/-- Whether the grid point `n`, which stands for `n · up / down`, lies in the neighbourhood. -/
def Neighbourhood.holds (h : Neighbourhood) (up down n : Nat) : Bool :=
  let point := n * up * h.den
  let low := h.low * down
  let high := h.high * down
  if h.closed then low ≤ point && point ≤ high else low < point && point < high

/-- The grid point next to the value that reads back, on the grid of step `up / down`: of two, the
    nearer; of two equally near, the greater. -/
def Neighbourhood.onGrid? (h : Neighbourhood) (up down : Nat) : Option Nat :=
  let num := h.value * down
  let den := h.den * up
  let below := num / den
  let above := below + 1
  let nearer := roundHalfUp num den
  let other := if nearer = below then above else below
  if h.holds up down nearer then some nearer
  else if h.holds up down other then some other
  else none

/-- The coarsest grid with a point that reads back, tried from `digits` digits on; the result is
    the point and the decimal exponent of its step. -/
def Neighbourhood.shortestFrom (h : Neighbourhood) (exponent : Int) (digits : Nat) :
    Nat → Nat × Int
  | 0 =>
    let step := exponent - digits
    (h.value * Nat.pow 10 (-step).toNat / (h.den * Nat.pow 10 step.toNat), step)
  | tries + 1 =>
    let step := exponent - digits
    match h.onGrid? (Nat.pow 10 step.toNat) (Nat.pow 10 (-step).toNat) with
    | some n => (n, step)
    | none => h.shortestFrom exponent (digits + 1) tries

/-- The digits and step exponent of the shortest decimal for a positive `m · 2 ^ q`; seventeen
    digits always suffice.  Where one digit is enough it may carry to ten, which is one digit again
    on the next coarser grid. -/
def shortest (m : Nat) (q : Int) : Nat × Int :=
  let h := neighbourhood m q
  let (n, step) := h.shortestFrom (decimalExponent h.value h.den) 1 17
  if n % 10 = 0 then (n / 10, step + 1) else (n, step)

/-- `n · 10 ^ step` in positional notation. -/
def positionalAt (n : Nat) (step : Int) : List Char :=
  if 0 ≤ step then Nat.toDigits 10 (n * Nat.pow 10 step.toNat)
  else positional (-step).toNat n

/-- The shortest text that reads back, never with an exponent; a zero keeps its sign and a whole
    number has no point. -/
def plain (x : Float) : String :=
  match parts x with
  | .nan => "NaN"
  | .infinite negative => signed negative ['i', 'n', 'f']
  | .finite negative m q =>
    if m = 0 then signed negative ['0']
    else
      let (n, step) := shortest m q
      signed negative (positionalAt n step)

end SolarTwin.Binary64

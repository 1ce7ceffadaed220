namespace SolarTwin.Binary64

/-!
# Rounded quotients

The two ways a quotient of natural numbers is rounded here: both go to the nearest whole number
and differ at a half.
-/

/-- `num / den` rounded to the nearest whole number, a half upwards. -/
def roundHalfUp (num den : Nat) : Nat :=
  (2 * num + den) / (2 * den)

/-- `num / den` rounded to the nearest whole number, a half to the even neighbour. -/
def roundHalfEven (num den : Nat) : Nat :=
  let q := num / den
  let r := num % den
  if 2 * r < den then q
  else if den < 2 * r then q + 1
  else q + q % 2

end SolarTwin.Binary64

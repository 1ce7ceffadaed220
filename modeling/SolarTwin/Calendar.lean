import SolarTwin.Binary64.Decimal
import SolarTwin.Binary64.Whole

namespace SolarTwin

/-!
# Calendar dates and local times

Dates of the Gregorian calendar, continued before its introduction; year zero and negative years
are ordinary years.  The plant reads the day of the year and the hour of the day off them.
-/

/-- A calendar date. -/
structure Date where
  year : Int
  month : Nat
  day : Nat
  deriving DecidableEq

/-- A local time to the second. -/
structure DateTime where
  date : Date
  hour : Nat
  minute : Nat
  second : Nat
  deriving DecidableEq

namespace Date

/-- Whether a year has a 29th of February. -/
def isLeap (year : Int) : Bool :=
  year % 4 == 0 && (year % 100 != 0 || year % 400 == 0)

/-- The days of a year before a month starts. -/
def daysBefore (leap : Bool) (month : Nat) : Nat :=
  let ordinary := [0, 31, 59, 90, 120, 151, 181, 212, 243, 273, 304, 334].getD (month - 1) 0
  if leap && 2 < month then ordinary + 1 else ordinary

/-- The day of the year, counted from one. -/
def dayOfYear (d : Date) : Nat :=
  daysBefore (isLeap d.year) d.month + d.day

/-- The year with at least four digits; outside 0 to 9999 it carries a sign. -/
def yearText (year : Int) : String :=
  let digits := Binary64.padded 4 year.natAbs
  String.ofList <|
    if 0 ≤ year ∧ year ≤ 9999 then digits
    else if year < 0 then '-' :: digits
    else '+' :: digits

/-- Year, month and day joined by hyphens. -/
def text (d : Date) : String :=
  yearText d.year ++ String.ofList
    ('-' :: Binary64.padded 2 d.month ++ '-' :: Binary64.padded 2 d.day)

end Date

namespace DateTime

/-- The hour of the day with its fraction. -/
def hourOfDay (t : DateTime) : Float :=
  Binary64.ofInt t.hour + Binary64.ofInt t.minute / 60.0 + Binary64.ofInt t.second / 3600.0

end DateTime

end SolarTwin

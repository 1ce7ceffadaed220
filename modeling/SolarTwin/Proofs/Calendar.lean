import Mathlib.Order.Defs.PartialOrder
import SolarTwin.Calendar

namespace SolarTwin

/-!
# The order of local times

Dates come in the order of year, month and day, and local times in that of their dates and then of
the clock.

* `Date.lt_iff`, `DateTime.le_iff` and `DateTime.lt_iff` — the order, spelt out;
* `DateTime.date_le` and `DateTime.hour_le` — a later time has a later date, or the same date and a
  later hour;
* `Date.atHour` and `DateTime.atHour_le_iff` — the instant at which an hour of a date begins.
-/

/-! ### Dates -/

namespace Date

/-- Dates are ordered by year, then by month, then by day. -/
instance : PartialOrder Date where
  le d d' := d.year < d'.year ∨ d.year = d'.year ∧
    (d.month < d'.month ∨ d.month = d'.month ∧ d.day ≤ d'.day)
  lt d d' := d.year < d'.year ∨ d.year = d'.year ∧
    (d.month < d'.month ∨ d.month = d'.month ∧ d.day < d'.day)
  le_refl d := by omega
  le_trans d d' d'' h h' := by omega
  lt_iff_le_not_ge d d' := by omega
  le_antisymm d d' h h' := by
    obtain ⟨hyear, hmonth, hday⟩ : d.year = d'.year ∧ d.month = d'.month ∧ d.day = d'.day := by
      omega
    cases d
    cases d'
    simp_all

theorem lt_iff {d d' : Date} : d < d' ↔ d.year < d'.year ∨ d.year = d'.year ∧
    (d.month < d'.month ∨ d.month = d'.month ∧ d.day < d'.day) := Iff.rfl

instance : DecidableLT Date := fun _ _ => decidable_of_iff' _ lt_iff

end Date

/-! ### Local times -/

namespace DateTime

/-- Local times are ordered by date, then by the clock. -/
instance : PartialOrder DateTime where
  le t t' := t.date < t'.date ∨ t.date = t'.date ∧
    (t.hour < t'.hour ∨ t.hour = t'.hour ∧
      (t.minute < t'.minute ∨ t.minute = t'.minute ∧ t.second ≤ t'.second))
  lt t t' := t.date < t'.date ∨ t.date = t'.date ∧
    (t.hour < t'.hour ∨ t.hour = t'.hour ∧
      (t.minute < t'.minute ∨ t.minute = t'.minute ∧ t.second < t'.second))
  le_refl t := .inr ⟨rfl, by omega⟩
  le_trans t t' t'' h h' := by
    rcases h with hlt | ⟨hsame, hclock⟩
    · rcases h' with hlt' | ⟨hsame', -⟩
      · exact .inl (lt_trans hlt hlt')
      · exact .inl (hsame' ▸ hlt)
    · rcases h' with hlt' | ⟨hsame', hclock'⟩
      · exact .inl (hsame ▸ hlt')
      · exact .inr ⟨hsame.trans hsame', by omega⟩
  lt_iff_le_not_ge t t' := by
    by_cases hsame : t.date = t'.date
    · simp only [hsame, lt_irrefl, true_and, false_or]
      omega
    · have hother : t'.date ≠ t.date := fun h => hsame h.symm
      simp only [hsame, hother, false_and, or_false]
      exact ⟨fun h => ⟨h, lt_asymm h⟩, And.left⟩
  le_antisymm t t' h h' := by
    rcases h with hlt | ⟨hsame, hclock⟩
    · rcases h' with hlt' | ⟨hsame', -⟩
      · exact absurd hlt' (lt_asymm hlt)
      · exact absurd hsame'.symm (ne_of_lt hlt)
    · rcases h' with hlt' | ⟨-, hclock'⟩
      · exact absurd hsame.symm (ne_of_lt hlt')
      · obtain ⟨hhour, hminute, hsecond⟩ :
            t.hour = t'.hour ∧ t.minute = t'.minute ∧ t.second = t'.second := by
          omega
        cases t
        cases t'
        simp_all

variable {t t' : DateTime}

theorem le_iff : t ≤ t' ↔ t.date < t'.date ∨ t.date = t'.date ∧
    (t.hour < t'.hour ∨ t.hour = t'.hour ∧
      (t.minute < t'.minute ∨ t.minute = t'.minute ∧ t.second ≤ t'.second)) := Iff.rfl

theorem lt_iff : t < t' ↔ t.date < t'.date ∨ t.date = t'.date ∧
    (t.hour < t'.hour ∨ t.hour = t'.hour ∧
      (t.minute < t'.minute ∨ t.minute = t'.minute ∧ t.second < t'.second)) := Iff.rfl

instance : DecidableLE DateTime := fun _ _ => decidable_of_iff' _ le_iff

instance : DecidableLT DateTime := fun _ _ => decidable_of_iff' _ lt_iff

theorem date_le (h : t ≤ t') : t.date ≤ t'.date := by
  rcases le_iff.1 h with hlt | ⟨hsame, -⟩
  · exact le_of_lt hlt
  · exact le_of_eq hsame

theorem hour_le (h : t ≤ t') (hdate : t.date = t'.date) : t.hour ≤ t'.hour := by
  rcases le_iff.1 h with hlt | ⟨-, hclock⟩
  · exact absurd hdate (ne_of_lt hlt)
  · omega

end DateTime

/-! ### The beginning of an hour -/

/-- The instant at which an hour of a date begins. -/
def Date.atHour (d : Date) (hour : Nat) : DateTime := ⟨d, hour, 0, 0⟩

/-- It is reached by the times of that date whose hour is the same or a later one. -/
theorem DateTime.atHour_le_iff {t : DateTime} {hour : Nat} :
    t.date.atHour hour ≤ t ↔ hour ≤ t.hour := by
  constructor
  · intro h
    exact hour_le h rfl
  · intro h
    -- No minute and no second of the hour is before the first.
    refine le_iff.2 (.inr ⟨rfl, ?_⟩)
    simp only [Date.atHour]
    omega

example : (⟨⟨2024, 6, 20⟩, 5, 59, 59⟩ : DateTime) < Date.atHour ⟨2024, 6, 20⟩ 6 := by decide

end SolarTwin

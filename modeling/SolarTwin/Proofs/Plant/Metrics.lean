import Mathlib.Algebra.Group.Action.Defs
import Mathlib.Algebra.Order.BigOperators.Group.List
import Mathlib.Algebra.Order.Ring.Nat
import Mathlib.Data.List.Induction
import Mathlib.Order.Bounds.Basic
import SolarTwin.Plant.Metrics

namespace SolarTwin

/-!
# The metrics of a run

The metrics are brought up to date tick after tick, so they are never compared with the ticks that
they tell of.  They are nevertheless what these ticks add up to, in whatever order they came.

* `Plant.Metrics.Tallies` — the metrics that belong to some ticks, said of all of them at once;
* `Plant.Metrics.Tallies.recorded` — a tick keeps them so, and `Plant.Metrics.tallies_after` does
  every run;
* `Plant.Metrics.after_perm` — the order of the ticks does not matter;
* `Plant.Metrics.run_tallied` — the metrics of a run whose sum can still be stored.
-/

/-! ### Durations in order -/

namespace Duration

private theorem nanos_injective : Function.Injective nanos := by
  rintro ⟨m⟩ ⟨n⟩ h
  exact congrArg mk h

/-- Durations are ordered by their nanoseconds. -/
instance : LinearOrder Duration := LinearOrder.lift' nanos nanos_injective

theorem le_iff {a b : Duration} : a ≤ b ↔ a.nanos ≤ b.nanos := Iff.rfl

theorem lt_iff {a b : Duration} : a < b ↔ a.nanos < b.nanos := Iff.rfl

/-- A duration is stored in 64 bits of seconds. -/
def Representable (d : Duration) : Prop := d.seconds < 2 ^ 64

instance (d : Duration) : Decidable d.Representable :=
  inferInstanceAs (Decidable (d.seconds < 2 ^ 64))

theorem Representable.mono {a b : Duration} (hb : b.Representable) (h : a ≤ b) :
    a.Representable :=
  (Nat.div_le_div_right (le_iff.1 h)).trans_lt hb

end Duration

namespace Plant

/-- How long a tick took, and how long it may take. -/
structure Timing where
  took : Duration
  budget : Duration
  deriving DecidableEq

namespace Timing

/-- The durations of some ticks. -/
def durations (ts : List Timing) : Set Duration := {d | ∃ t ∈ ts, t.took = d}

/-- The sum of these durations. -/
def total (ts : List Timing) : Duration := ⟨(ts.map (·.took.nanos)).sum⟩

@[simp] theorem durations_nil : durations [] = ∅ := by
  simp [durations]

theorem durations_concat (ts : List Timing) (t : Timing) :
    durations (ts ++ [t]) = insert t.took (durations ts) := by
  ext d
  simp only [durations, List.mem_append, List.mem_singleton, Set.mem_ofPred_eq, Set.mem_insert_iff]
  constructor
  · rintro ⟨s, hs | rfl, rfl⟩
    · exact .inr ⟨s, hs, rfl⟩
    · exact .inl rfl
  · rintro (rfl | ⟨s, hs, rfl⟩)
    · exact ⟨t, .inr rfl, rfl⟩
    · exact ⟨s, .inl hs, rfl⟩

theorem total_concat (ts : List Timing) (t : Timing) :
    total (ts ++ [t]) = (total ts).add t.took := by
  simp [total, Duration.add]

/-- The first ticks of a run take no longer than all of them. -/
private theorem total_le_total {us ts : List Timing} (h : us <+: ts) : total us ≤ total ts := by
  obtain ⟨rest, rfl⟩ := h
  rw [Duration.le_iff, total, total, List.map_append, List.sum_append]
  exact Nat.le_add_right _ _

end Timing

namespace Metrics

open Timing

/-! ### Runs -/

/-- The metrics once a tick has been recorded. -/
def recorded (m : Metrics) (t : Timing) : Metrics := m.record t.took t.budget

/-- The metrics after some ticks. -/
def after (ts : List Timing) : Metrics := ts.foldl recorded fresh

/-- What recording these ticks leaves in the journal. -/
def journal (ts : List Timing) : Journal := ts.flatMap fun t => lines t.took t.budget

theorem after_concat (ts : List Timing) (t : Timing) :
    after (ts ++ [t]) = (after ts).recorded t := by
  simp [after]

/-! ### One tick after another -/

/-- The metrics that belong to some ticks. -/
structure Tallies (m : Metrics) (ts : List Timing) : Prop where
  ticks : m.ticks = ts.length
  overruns : m.overruns = ts.countP fun t => t.budget < t.took
  total : m.total = Timing.total ts
  /-- Without ticks there is no least duration. -/
  least : m.least.elim (ts = []) fun d => IsLeast (durations ts) d
  greatest : m.greatest.elim (ts = []) fun d => IsGreatest (durations ts) d
  average : m.average = (Timing.total ts).div (min ts.length 4294967295)

theorem shorter_eq_min : shorter = min := by
  funext a b
  unfold shorter
  by_cases h : b < a
  · rw [if_pos (Duration.lt_iff.1 h), min_eq_right h.le]
  · rw [if_neg (mt Duration.lt_iff.2 h), min_eq_left (not_lt.1 h)]

theorem longer_eq_max : longer = max := by
  funext a b
  unfold longer
  by_cases h : a < b
  · rw [if_pos (Duration.lt_iff.1 h), max_eq_right h.le]
  · rw [if_neg (mt Duration.lt_iff.2 h), max_eq_left (not_lt.1 h)]

/-- What is kept as the least or the greatest duration stays so: the first duration is alone, and
    each later one is compared with what has been kept. -/
theorem extreme_concat {P : Set Duration → Duration → Prop}
    {pick : Duration → Duration → Duration} (hsingle : ∀ d, P {d} d)
    (hinsert : ∀ d {ds e}, P ds e → P (insert d ds) (pick d e)) {ts : List Timing}
    {o : Option Duration} (h : o.elim (ts = []) (P (durations ts))) (t : Timing) :
    P (durations (ts ++ [t])) (o.elim t.took (pick t.took)) := by
  rw [durations_concat]
  cases o with
  | none =>
    obtain rfl : ts = [] := h
    rw [durations_nil, insert_empty_eq]
    exact hsingle t.took
  | some d => exact hinsert t.took h

theorem tallies_fresh : fresh.Tallies [] := ⟨rfl, rfl, rfl, rfl, rfl, rfl⟩

/-- A tick that is recorded is counted with those before. -/
theorem Tallies.recorded {m : Metrics} {ts : List Timing} (h : m.Tallies ts) (t : Timing) :
    (m.recorded t).Tallies (ts ++ [t]) where
  ticks := by
    rw [List.length_append, ← h.ticks]
    rfl
  overruns := by
    rw [List.countP_append, List.countP_singleton, ← h.overruns]
    simp only [Metrics.recorded, record, overran, Duration.lt_iff, decide_eq_true_eq]
    split <;> rfl
  total := by
    rw [total_concat, ← h.total]
    rfl
  least := by
    show IsLeast _ (m.least.elim t.took (shorter t.took))
    rw [shorter_eq_min]
    exact extreme_concat (fun _ => isLeast_singleton) (fun d => IsLeast.insert d) h.least t
  greatest := by
    show IsGreatest _ (m.greatest.elim t.took (longer t.took))
    rw [longer_eq_max]
    exact extreme_concat (fun _ => isGreatest_singleton) (fun d => IsGreatest.insert d) h.greatest t
  average := by
    rw [total_concat, List.length_append, ← h.total, ← h.ticks]
    rfl

/-- The metrics after some ticks are those that belong to them. -/
theorem tallies_after (ts : List Timing) : (after ts).Tallies ts := by
  induction ts using List.reverseRecOn with
  | nil => exact tallies_fresh
  | append_singleton ts t ih =>
    rw [after_concat]
    exact ih.recorded t

/-! ### Ticks in another order -/

/-- It does not matter which of two ticks is recorded first. -/
theorem recorded_right_comm (m : Metrics) (t u : Timing) :
    (m.recorded t).recorded u = (m.recorded u).recorded t := by
  simp only [recorded, record, shorter_eq_min, longer_eq_max, Option.elim_some, Duration.add,
    Metrics.mk.injEq, Option.some.injEq, true_and]
  refine ⟨?_, ?_, ?_, ?_, ?_⟩
  · split <;> split <;> omega
  · rw [Nat.add_right_comm]
  -- The one recorded first is compared with what was there, if anything, and then with the other.
  · cases m.least with
    | none => exact min_comm ..
    | some d => exact min_left_comm ..
  · cases m.greatest with
    | none => exact max_comm ..
    | some d => exact max_left_comm ..
  · rw [Nat.add_right_comm m.total.nanos]

instance : RightCommutative recorded := ⟨recorded_right_comm⟩

theorem after_perm {us ts : List Timing} (h : us.Perm ts) : after us = after ts :=
  h.foldl_eq fresh

/-- The same warnings are left, in some order. -/
theorem journal_perm {us ts : List Timing} (h : us.Perm ts) : (journal us).Perm (journal ts) :=
  h.flatMap_right _

/-! ### The tally of a run -/

/-- Where there are ticks, a least and a greatest duration have been kept. -/
private theorem exists_of_elim {o : Option Duration} {P : Duration → Prop} {ts : List Timing}
    (h : o.elim (ts = []) P) (hne : ts ≠ []) : ∃ d, o = some d ∧ P d := by
  cases o with
  | none => exact absurd h hne
  | some d => exact ⟨d, rfl, h⟩

/-- The metrics of some ticks, whose least and greatest duration are known. -/
private theorem Tallies.eq_mk {m : Metrics} {ts : List Timing} {d e : Duration} (h : m.Tallies ts)
    (hd : m.least = some d) (he : m.greatest = some e) :
    m =
      { ticks := ts.length
        overruns := ts.countP fun t => t.budget < t.took
        total := Timing.total ts
        least := some d
        greatest := some e
        average := (Timing.total ts).div (min ts.length 4294967295) } := by
  obtain ⟨ticks, overruns, total, least, greatest, average⟩ := m
  obtain ⟨rfl, rfl, rfl, -, -, rfl⟩ := h
  obtain rfl : least = some d := hd
  obtain rfl : greatest = some e := he
  rfl

/-! ### What is stored -/

/-- The counts have 64 bits, and the sum is a duration. -/
structure Fits (m : Metrics) : Prop where
  ticks : m.ticks < 2 ^ 64
  overruns : m.overruns < 2 ^ 64
  total : m.total.Representable

theorem Tallies.overruns_le {m : Metrics} {ts : List Timing} (h : m.Tallies ts) :
    m.overruns ≤ m.ticks := by
  rw [h.overruns, h.ticks]
  exact List.countP_le_length

theorem Tallies.fits {m : Metrics} {ts : List Timing} (h : m.Tallies ts)
    (hcount : ts.length < 2 ^ 64) (hsum : (Timing.total ts).Representable) : m.Fits where
  ticks := by rwa [h.ticks]
  overruns := h.overruns_le.trans_lt (by rwa [h.ticks])
  total := by rwa [h.total]

/-! ### The average -/

/-- The average, rounded down, is not below a duration that is below all others. -/
theorem le_average {ts : List Timing} {d : Duration} (hne : ts ≠ [])
    (h : d ∈ lowerBounds (durations ts)) : d ≤ (Timing.total ts).div ts.length := by
  have hsum := List.card_nsmul_le_sum (ts.map (·.took.nanos)) d.nanos fun n hn => by
    obtain ⟨t, ht, rfl⟩ := List.mem_map.1 hn
    exact h ⟨t, ht, rfl⟩
  rw [List.length_map, smul_eq_mul, mul_comm] at hsum
  rw [Duration.le_iff]
  exact (Nat.le_div_iff_mul_le (List.length_pos_iff.2 hne)).2 hsum

theorem average_le {ts : List Timing} {d : Duration} (h : d ∈ upperBounds (durations ts)) :
    (Timing.total ts).div ts.length ≤ d := by
  have hsum := List.sum_le_card_nsmul (ts.map (·.took.nanos)) d.nanos fun n hn => by
    obtain ⟨t, ht, rfl⟩ := List.mem_map.1 hn
    exact h ⟨t, ht, rfl⟩
  rw [List.length_map, smul_eq_mul] at hsum
  rw [Duration.le_iff]
  exact Nat.div_le_of_le_mul hsum

/-- **The metrics are those of the run.**  Of ticks whose number has 32 bits and whose durations have
    a sum that can be stored, they are the number, the sum, the least and the greatest duration, the
    number of those longer than their budget, and the average in whole nanoseconds, rounded down.
    The average lies between the least and the greatest.  Everything can be stored after each of the
    ticks, and another order of them gives the same metrics and the same warnings. -/
theorem run_tallied {ts : List Timing} (hne : ts ≠ []) (hcount : ts.length ≤ 4294967295)
    (hsum : (Timing.total ts).Representable) :
    (∃ least greatest,
      after ts =
        { ticks := ts.length
          overruns := ts.countP fun t => t.budget < t.took
          total := Timing.total ts
          least := some least
          greatest := some greatest
          average := ⟨(Timing.total ts).nanos / ts.length⟩ } ∧
      IsLeast (durations ts) least ∧ IsGreatest (durations ts) greatest ∧
      least ≤ (after ts).average ∧ (after ts).average ≤ greatest) ∧
    (after ts).overruns ≤ (after ts).ticks ∧
    (∀ us, us <+: ts → (after us).Fits) ∧
    ∀ us : List Timing, us.Perm ts → after us = after ts ∧ (journal us).Perm (journal ts) := by
  have htallies := tallies_after ts
  refine ⟨?_, htallies.overruns_le, fun us hus => ?_,
    fun us hus => ⟨after_perm hus, journal_perm hus⟩⟩
  · obtain ⟨d, hd, hleast⟩ := exists_of_elim htallies.least hne
    obtain ⟨e, he, hgreatest⟩ := exists_of_elim htallies.greatest hne
    -- So few ticks are divided by their own number, not by the largest divisor there is.
    have haverage := htallies.average
    rw [min_eq_left hcount] at haverage
    refine ⟨d, e, ?_, hleast, hgreatest, ?_, ?_⟩
    · rw [htallies.eq_mk hd he, min_eq_left hcount]
      rfl
    · rw [haverage]
      exact le_average hne hleast.2
    · rw [haverage]
      exact average_le hgreatest.2
  · have hlength := hus.length_le
    exact (tallies_after us).fits (by omega) (hsum.mono (total_le_total hus))

/-- Three ticks of which the second one takes too long, and the third one exactly as long as it
    may. -/
def threeTicks : List Timing :=
  [⟨.ofMillis 100, .ofMillis 150⟩, ⟨.ofMillis 200, .ofMillis 150⟩, ⟨.ofMillis 150, .ofMillis 150⟩]

/-- One of them has overrun, and their average is the duration of the third one. -/
theorem run_tallied_threeTicks :
    after threeTicks =
        ⟨3, 1, .ofMillis 450, some (.ofMillis 100), some (.ofMillis 200), .ofMillis 150⟩ ∧
      Duration.ofMillis 100 ≤ (after threeTicks).average ∧
      (after threeTicks).average ≤ Duration.ofMillis 200 ∧
      (after threeTicks).Fits ∧ after threeTicks.reverse = after threeTicks := by
  have hvalue : after threeTicks =
      ⟨3, 1, .ofMillis 450, some (.ofMillis 100), some (.ofMillis 200), .ofMillis 150⟩ := by decide
  obtain ⟨⟨d, e, hafter, -, -, hleast, hgreatest⟩, -, hfits, hperm⟩ :=
    @run_tallied threeTicks (by decide) (by decide) (by decide)
  obtain rfl : Duration.ofMillis 100 = d :=
    Option.some.inj (congrArg Metrics.least (hvalue.symm.trans hafter))
  obtain rfl : Duration.ofMillis 200 = e :=
    Option.some.inj (congrArg Metrics.greatest (hvalue.symm.trans hafter))
  exact ⟨hvalue, hleast, hgreatest, hfits _ (List.prefix_refl _), (hperm _ (List.reverse_perm _)).1⟩

end Metrics

end Plant

end SolarTwin

import SolarTwin.Proofs.Binary64.Nearest
import SolarTwin.Proofs.Binary64.Order
import SolarTwin.Proofs.Plant.Halting
import SolarTwin.Proofs.Plant.Publishing

namespace SolarTwin.Plant

open Binary64
open Chance (Ends)

/-!
# Hours on the grid

While the contactor is closed, hours are taken out of a time one by one.  Every turn leaves the
double nearest to an hour less.  Up to `2 ^ 57` seconds this is exact; up to `2 ^ 65` seconds there
is a double less than the time that is near enough; beyond, the nearest double is the time itself,
and the loop turns for ever.

* `Turns` — the loop as a relation, turn by turn;
* `sub_hour_lt`, `sub_hour_exact` and `sub_hour_eq` — what one turn does to a time;
* `takeHours_eq_ok_iff` and `takeHours_eq_endless_iff` — taking hours is this loop, and goes on for
  ever exactly if the loop does;
* `exists_turns_iff` and `Counted` — which times the loop comes to an end with, and how;
* `hours_on_grid` — what a tick makes of the time on the grid.
-/

/-! ### The loop -/

/-- The turns of the loop that lead from a time to the rest: as long as there is an hour in it, one
    is taken out. -/
inductive Turns : Float → Nat → Float → Prop
  | done {time : Float} (h : ¬ hour ≤ time) : Turns time 0 time
  | turn {time rest : Float} {n : Nat} (h : hour ≤ time) (hrest : Turns (time - hour) n rest) :
      Turns time (n + 1) rest

/-- The loop does not end where a turn changes nothing. -/
theorem Turns.not_of_sub_hour_eq {time rest : Float} {n : Nat} (hsome : hour ≤ time)
    (hsame : time - hour = time) : ¬ Turns time n rest := by
  induction n with
  | zero =>
    intro h
    cases h with
    | done hnone => exact hnone hsome
  | succ n ih =>
    intro h
    cases h with
    | turn _ hturns =>
      rw [hsame] at hturns
      exact ih hturns

/-! ### One hour less -/

section

variable {x : Float} {t : ℚ} (hx : value? x = some t)

theorem value?_hour : value? hour = some 3600 := by decide +kernel

include hx

/-- One hour less is the nearest double, which lies between zero and the time. -/
theorem exists_value?_sub_hour (ht : 3600 ≤ t) :
    ∃ r, value? (x - hour) = some r ∧ 0 ≤ r ∧ r ≤ t ∧
      ∀ d, IsDouble d → |r - (t - 3600)| ≤ |d - (t - 3600)| :=
  exists_nearest_sub hx value?_hour isDouble_zero (isDouble_of_value? hx) (by linarith)
    (by linarith)

/-- Up to `2 ^ 57` seconds one hour less is exact. -/
theorem sub_hour_exact (ht : 3600 ≤ t) (hmax : t ≤ 2 ^ 57) :
    value? (x - hour) = some (t - 3600) := by
  obtain ⟨r, hr, -, -, hnearest⟩ := exists_value?_sub_hour hx ht
  have hdouble : IsDouble (t - (225 : ℤ) * 2 ^ (4 : ℤ)) := by
    refine (isDouble_of_value? hx).sub_multiple (by decide) (by decide) ?_ ?_
    · rw [abs_of_nonneg (by linarith)]
      norm_num at hmax ⊢
      exact hmax
    · rw [abs_of_nonneg (by norm_num; linarith), abs_of_nonneg (by linarith)]
      norm_num
  have hexact : (t - (225 : ℤ) * 2 ^ (4 : ℤ) : ℚ) = t - 3600 := by norm_num
  have hnear := hnearest _ hdouble
  rw [hexact, sub_self, abs_zero, abs_nonpos_iff, sub_eq_zero] at hnear
  rwa [hnear] at hr

/-- Up to `2 ^ 65` seconds there is a double less than the time that is nearer to an hour less. -/
theorem sub_hour_lt (ht : 3600 ≤ t) (hmax : t ≤ 2 ^ 65) :
    ∃ r, value? (x - hour) = some r ∧ 0 ≤ r ∧ r < t := by
  obtain ⟨r, hr, hpos, -, hnearest⟩ := exists_value?_sub_hour hx ht
  have hdouble : IsDouble (t - (1 : ℤ) * 2 ^ (12 : ℤ)) := by
    refine (isDouble_of_value? hx).sub_multiple (by decide) (by decide) ?_ ?_
    · rw [abs_of_nonneg (by linarith)]
      norm_num at hmax ⊢
      exact hmax
    · rw [abs_of_nonneg (by linarith : (0 : ℚ) ≤ t), abs_lt]
      norm_num
      linarith
  have hnear := hnearest _ hdouble
  have hoff : |t - (1 : ℤ) * 2 ^ (12 : ℤ) - (t - 3600)| = 496 := by
    norm_num
  rw [hoff] at hnear
  have := (abs_le.1 hnear).2
  exact ⟨r, hr, hpos, by linarith⟩

/-- Beyond `2 ^ 65` seconds the nearest double to an hour less is the time itself. -/
theorem sub_hour_eq (hmin : 2 ^ 65 < t) : x - hour = x := by
  have htime := isDouble_of_value? hx
  have hgreat : (3600 : ℚ) ≤ t := by norm_num at hmin; linarith
  obtain ⟨r, hr, -, hle, hnearest⟩ := exists_value?_sub_hour hx hgreat
  have hnear := hnearest t htime
  rw [sub_sub_cancel, abs_of_nonneg (by norm_num : (0 : ℚ) ≤ 3600)] at hnear
  have hlower : t - 7200 ≤ r := by linarith [(abs_le.1 hnear).1]
  -- The doubles this far out are 8192 seconds apart.
  have hunit : (2 : ℚ) ^ ((12 : ℤ) + 1) = 8192 := by norm_num
  have hsame : r = t := (isDouble_of_value? hr).eq_of_lt_add htime (k := 12)
    (by norm_num at hmin ⊢; exact hmin) hle (by rw [hunit]; linarith)
  rw [hsame] at hr
  exact eq_of_value?_eq hr hx (by linarith)

/-- The bits go down where the time does. -/
private theorem toBits_sub_hour_lt (ht : 3600 ≤ t) (hmax : t ≤ 2 ^ 65) :
    (x - hour).toBits.toNat < x.toBits.toNat := by
  rcases ht.eq_or_lt with rfl | hmore
  · -- Of an hour nothing is left.
    rw [eq_of_value?_eq hx value?_hour (by norm_num)]
    decide +kernel
  · obtain ⟨r, hr, hpos, hless⟩ := sub_hour_lt hx ht hmax
    suffices hpos : 0 < r from toBits_lt_toBits hr hx hpos hless
    by_cases hexact : t ≤ 2 ^ 57
    · rw [sub_hour_exact hx ht hexact, Option.some.injEq] at hr
      linarith
    · norm_num at hexact
      obtain ⟨r', hr', hone, -⟩ := exists_nearest_sub hx value?_hour isDouble_one
        (isDouble_of_value? hx) (by linarith) (by linarith)
      obtain rfl := Option.some.inj (hr.symm.trans hr')
      linarith

end

private theorem infinity_sub_hour : 1.0 / 0.0 - hour = 1.0 / 0.0 := rfl

/-- An hour less is less by its bits, or it is no less at all. -/
theorem toBits_sub_hour_lt_or_eq {time : Float} (hsome : hour ≤ time) :
    (time - hour).toBits.toNat < time.toBits.toNat ∨ time - hour = time := by
  rcases (le_iff_infinite_or value?_hour).1 hsome with rfl | ⟨t, ht, hsome⟩
  · exact .inr infinity_sub_hour
  · rcases le_or_gt t (2 ^ 65) with hmax | hmin
    · exact .inl (toBits_sub_hour_lt ht hsome hmax)
    · exact .inr (sub_hour_eq ht hmin)

/-! ### Taking hours is the loop -/

private theorem takeHours_of_turns {time rest : Float} {n : Nat} (h : Turns time n rest)
    (counted : Nat) : takeHours counted time = .ok (counted + n, rest) := by
  induction h generalizing counted with
  | done hnone => rw [takeHours, if_neg hnone, Nat.add_zero]
  | @turn time rest n hsome hturns ih =>
    rcases toBits_sub_hour_lt_or_eq hsome with hless | hsame
    · rw [takeHours, if_pos hsome]
      dsimp only
      rw [if_pos hless, ih, Nat.add_right_comm, Nat.add_assoc]
    · rw [hsame] at hturns
      exact absurd hturns (Turns.not_of_sub_hour_eq hsome hsame)

private theorem exists_turns_of_takeHours {counted n : Nat} {time rest : Float}
    (h : takeHours counted time = .ok (n, rest)) : ∃ k, n = counted + k ∧ Turns time k rest := by
  fun_induction takeHours counted time with
  | case1 counted time hsome rest' hless ih =>
    obtain ⟨k, rfl, hturns⟩ := ih h
    exact ⟨k + 1, by omega, .turn hsome hturns⟩
  | case2 => cases h
  | case3 counted time hnone =>
    obtain ⟨rfl, rfl⟩ := Prod.mk.inj (Except.ok.inj h)
    exact ⟨0, rfl, .done hnone⟩

/-- Hours are taken as the loop turns. -/
theorem takeHours_eq_ok_iff {time rest : Float} {n : Nat} :
    takeHours 0 time = .ok (n, rest) ↔ Turns time n rest := by
  constructor
  · intro h
    obtain ⟨k, rfl, hturns⟩ := exists_turns_of_takeHours h
    rwa [Nat.zero_add]
  · intro h
    rw [takeHours_of_turns h, Nat.zero_add]

/-- They are taken for ever exactly if the loop does not come to an end. -/
theorem takeHours_eq_endless_iff {time : Float} :
    takeHours 0 time = .error .endless ↔ ¬ ∃ n rest, Turns time n rest := by
  constructor
  · rintro h ⟨n, rest, hturns⟩
    rw [takeHours_eq_ok_iff.2 hturns] at h
    cases h
  · intro hnone
    cases htake : takeHours 0 time with
    | error halt => rw [takeHours_eq_error htake]
    | ok r => exact absurd ⟨r.1, r.2, takeHours_eq_ok_iff.1 htake⟩ hnone

/-! ### Which times come to an end -/

/-- The longest time that the loop comes to an end with: `2 ^ 65` seconds. -/
def longest : Float := 36893488147419103232.0

/-- The time up to which every turn is exact: `2 ^ 57` seconds. -/
def exactly : Float := 144115188075855872.0

private theorem value?_longest : value? longest = some (2 ^ 65) := by decide +kernel

private theorem value?_exactly : value? exactly = some (2 ^ 57) := by decide +kernel

section

variable {time : Float} {t : ℚ}

/-- Every time up to the longest one comes to an end. -/
theorem exists_turns_of_le (ht : value? time = some t) (hmax : t ≤ 2 ^ 65) :
    ∃ n rest, Turns time n rest := by
  -- The bits of the time go down with every turn.
  induction hbits : time.toBits.toNat using Nat.strong_induction_on generalizing time t with
  | h bits ih =>
    by_cases hsome : hour ≤ time
    · have hgreat : 3600 ≤ t := (le_iff value?_hour ht).1 hsome
      obtain ⟨r, hr, -, hless⟩ := sub_hour_lt ht hgreat hmax
      have hfewer := toBits_sub_hour_lt ht hgreat hmax
      rw [hbits] at hfewer
      obtain ⟨n, rest, hturns⟩ := ih _ hfewer hr (hless.le.trans hmax) rfl
      exact ⟨n + 1, rest, .turn hsome hturns⟩
    · exact ⟨0, time, .done hsome⟩

/-- The loop comes to an end with a time that is not below zero exactly if that is at most the
    longest one. -/
theorem exists_turns_iff (hnonneg : 0.0 ≤ time) :
    (∃ n rest, Turns time n rest) ↔ time ≤ longest := by
  rcases nonneg_iff.1 hnonneg with rfl | ⟨t, ht, hpos⟩
  · refine iff_of_false ?_ (by decide +kernel)
    rintro ⟨n, rest, hturns⟩
    exact Turns.not_of_sub_hour_eq (by decide +kernel) infinity_sub_hour hturns
  · rw [le_iff ht value?_longest]
    constructor
    · rintro ⟨n, rest, hturns⟩
      by_contra hmin
      rw [not_le] at hmin
      have hsome : hour ≤ time := (le_iff value?_hour ht).2 (by norm_num at hmin; linarith)
      exact Turns.not_of_sub_hour_eq hsome (sub_hour_eq ht hmin) hturns
    · exact exists_turns_of_le ht

/-- What is left is less than an hour and not below zero, and up to `2 ^ 57` seconds it is what is
    left of the time exactly. -/
theorem Turns.exists_value?_rest {rest : Float} {n : Nat} (h : Turns time n rest)
    (ht : value? time = some t) (hpos : 0 ≤ t) :
    ∃ r, value? rest = some r ∧ 0 ≤ r ∧ r < 3600 ∧ (t ≤ 2 ^ 57 → r = t - 3600 * n) := by
  induction h generalizing t with
  | done hnone =>
    rw [le_iff value?_hour ht, not_le] at hnone
    exact ⟨t, ht, hpos, hnone, fun _ => by simp⟩
  | turn hsome _ ih =>
    rw [le_iff value?_hour ht] at hsome
    obtain ⟨r', hr', hpos', hless, -⟩ := exists_value?_sub_hour ht hsome
    obtain ⟨r, hr, hr0, hr1, hexact⟩ := ih hr' hpos'
    refine ⟨r, hr, hr0, hr1, fun hmax => ?_⟩
    have hturn := sub_hour_exact ht hsome hmax
    rw [hr', Option.some.injEq] at hturn
    rw [hexact (hless.trans hmax), hturn]
    push_cast
    ring

end

/-- How a time ends from which hours have been taken: with less than an hour, and up to `2 ^ 57`
    seconds exactly with what is left of the whole hours in it. -/
structure Counted (time : Float) (n : Nat) (rest : Float) : Prop where
  limit : time ≤ longest
  nonneg : 0.0 ≤ rest
  less : rest < hour
  exact : time ≤ exactly →
    ∃ t : ℚ, value? time = some t ∧ n = ⌊t / 3600⌋₊ ∧ value? rest = some (t - 3600 * n)

theorem Turns.counted {time rest : Float} {n : Nat} (h : Turns time n rest)
    (hnonneg : 0.0 ≤ time) : Counted time n rest := by
  have hlimit := (exists_turns_iff hnonneg).1 ⟨n, rest, h⟩
  obtain ⟨t, ht, hpos, -⟩ := within_of_le value?_zero value?_longest hnonneg hlimit
  obtain ⟨r, hr, hr0, hr1, hexact⟩ := h.exists_value?_rest ht hpos
  refine
    { limit := hlimit, nonneg := (le_iff value?_zero hr).2 hr0,
      less := (lt_iff hr value?_hour).2 hr1, exact := fun hmax => ?_ }
  obtain rfl := hexact ((le_iff ht value?_exactly).1 hmax)
  refine ⟨t, ht, ?_, hr⟩
  have hcount : ⌊t / 3600⌋₊ = n := by
    rw [Nat.floor_eq_iff (by positivity), le_div_iff₀ (by norm_num), div_lt_iff₀ (by norm_num)]
    constructor <;> linarith
  exact hcount.symm

/-! ### Draws halt by panics -/

/-- Drawing around zero halts only by a panic. -/
theorem around_panics (bound : Float) :
    Ends (Chance.around bound) (fun _ => True) Halt.IsPanic :=
  (Chance.around_ends bound).mono (fun _ _ => trivial) fun _ hh => by rw [hh.1]; trivial

theorem Sky.advance_panics (sky : Sky) (p : Parameters) (seconds : Float) :
    Ends (sky.advance p seconds) (fun _ => True) Halt.IsPanic := by
  unfold Sky.advance
  split
  · have hbelow : Ends (Chance.below p.weather.length) (fun _ => True) Halt.IsPanic :=
      (Chance.below_ends _).mono (fun _ _ => trivial) fun _ hh => by rw [hh.1]; trivial
    exact hbelow.bind fun _ _ => .pure trivial
  · exact .pure trivial

theorem powerOutput_panics (p : Parameters) (now : DateTime) (w : Weather) :
    Ends (powerOutput p now w) (fun _ => True) Halt.IsPanic := by
  unfold powerOutput
  dsimp only
  split
  · exact .pure trivial
  · refine (around_panics _).bind fun variation _ => ?_
    exact (Chance.clamp_ends _ _ _).mono (fun _ _ => trivial) fun _ hh => by rw [hh.1]; trivial

theorem splitPhases_panics (power imbalance : Float) :
    Ends (splitPhases power imbalance) (fun _ => True) Halt.IsPanic :=
  (around_panics _).bind fun _ _ => (around_panics _).bind fun _ _ => .pure trivial

theorem gridSide_panics (p : Parameters) (powers : Phases) (seconds : Float) :
    Ends (gridSide p powers seconds) (fun _ => True) Halt.IsPanic := by
  have hvoltage (phase : Float) :
      Ends (phaseVoltage p seconds phase) (fun _ => True) Halt.IsPanic :=
    (around_panics _).bind fun _ _ => .pure trivial
  exact (hvoltage 0.0).bind fun _ _ => (hvoltage 1.0).bind fun _ _ => (hvoltage 2.0).bind fun _ _ =>
    (around_panics _).bind fun _ _ => .pure trivial

/-! ### The time on the grid in a tick -/

theorem Carries.hours_of_step {c c' : Carries} {elapsed power : Float} {feeding closed : Bool}
    {i : Increments} (h : c.step elapsed power feeding closed = .ok (i, c')) :
    if closed then takeHours 0 (c.closed + elapsed) = .ok (i.hours, c'.closed)
    else i.hours = 0 ∧ c'.closed = 0.0 := by
  unfold step at h
  cases closed with
  | false =>
    obtain ⟨rfl, rfl⟩ := Prod.mk.inj (Except.ok.inj h)
    exact ⟨rfl, rfl⟩
  | true =>
    simp only [if_true] at h ⊢
    cases htake : takeHours 0 (c.closed + elapsed) with
    | error halt =>
      rw [htake] at h
      cases h
    | ok r =>
      rw [htake] at h
      obtain ⟨rfl, rfl⟩ := Prod.mk.inj (Except.ok.inj h)
      rfl

/-- A tick with a closed contactor goes on for ever where taking hours does. -/
theorem Carries.step_of_endless {c : Carries} {elapsed : Float}
    (h : takeHours 0 (c.closed + elapsed) = .error .endless) (power : Float) (feeding : Bool) :
    c.step elapsed power feeding true = .error .endless := by
  unfold step
  simp only [if_true, h]
  rfl

namespace Engine

/-- The time on the grid from which a tick takes hours if the contactor is closed.  A time that is
    negative or not a number counts as none. -/
def gridTime (e : Engine) (elapsed : Float) : Float := e.carries.closed + atLeast 0.0 elapsed

/-- What a tick makes of the time on the grid: with a closed contactor the hours are taken out of
    it, with an open one it starts again. -/
def Timed (e : Engine) (elapsed : Float) (t : Beat) (e' : Engine) : Prop :=
  if t.summary.contactorClosed then
    takeHours 0 (e.gridTime elapsed) = .ok (t.increments.hours, e'.carries.closed)
  else t.increments.hours = 0 ∧ e'.carries.closed = 0.0

theorem beat_timed (e : Engine) (c : Commands) (now : DateTime) (elapsed : Float) :
    Ends (e.beat c now elapsed) (fun r => e.Timed elapsed r.1 r.2)
      fun h => h = .endless → takeHours 0 (e.gridTime elapsed) = .error .endless := by
  -- A draw does not go on for ever, so only the counting is left to do so.
  have hdraws {α : Type} {x : Chance α} (hx : Ends x (fun _ => True) Halt.IsPanic) :
      Ends x (fun _ => True)
        fun h => h = .endless → takeHours 0 (e.gridTime elapsed) = .error .endless :=
    hx.mono (fun _ h => h) fun h hpanic hendless => by rw [hendless] at hpanic; cases hpanic
  unfold beat
  have hstep : Ends (fun s => .ok (e.state.step c e.parameters.faultProbability e.ratio s) :
      Chance Transition) (fun _ => True) Halt.IsPanic :=
    fun s => .inl ⟨_, _, rfl, trivial⟩
  refine (hdraws hstep).bind fun transition _ => ?_
  refine Ends.bind (hdraws (Sky.advance_panics _ _ _)) fun sky _ => ?_
  dsimp only
  refine Ends.ite_bind (P := fun _ => True) (fun _ => hdraws (powerOutput_panics _ _ _))
    (fun _ => .pure trivial) fun raw _ => ?_
  refine Ends.bind (hdraws (splitPhases_panics _ _)) fun phases _ => ?_
  refine Ends.bind (hdraws (gridSide_panics _ _ _)) fun grid _ => ?_
  refine Ends.bind (.lift (fun carried hcarried => Carries.hours_of_step hcarried)
    fun h hh hendless => ?_) fun carried hcarried => .pure ?_
  · rw [hendless] at hh
    exact Carries.takeHours_of_step_eq_error hh
  · exact hcarried

/-- The time on the grid is not below zero if what is carried is not. -/
theorem nonneg_gridTime {e : Engine} (hcarry : 0.0 ≤ e.carries.closed) (elapsed : Float) :
    0.0 ≤ e.gridTime elapsed :=
  nonneg_add hcarry (nonneg_atLeast elapsed)

/-- What a tick that has a result makes of the time on the grid, and of the counter of its hours. -/
theorem hours_of_tick {e e' : Engine} {bank : Bank} {now : DateTime} {elapsed : Float}
    {summary : Summary} {board : Board} (h : e.tick bank now elapsed = .ok (summary, e', board)) :
    if summary.contactorClosed then
      ∃ n, Turns (e.gridTime elapsed) n e'.carries.closed ∧
        board.bank.logical? Point.gridConnections =
          (bank.logical? Point.gridConnections).map (·.raised n)
    else e'.carries.closed = 0.0 ∧
      board.bank.logical? Point.gridConnections = bank.logical? Point.gridConnections := by
  obtain ⟨t, next, source, hbeat, rfl, rfl, rfl⟩ := exists_beat_eq_ok h
  have htimed := (e.beat_timed (Board.commands ⟨bank, []⟩) now elapsed).of_eq_ok hbeat
  have hcounter : (Board.publishBeat ⟨bank, []⟩ t).bank.logical? Point.gridConnections =
      (bank.logical? Point.gridConnections).map (·.raised t.increments.hours) := by
    have hdaily : Point.gridConnections ≠ Point.dailyYield := by decide
    rw [Board.logical?_publishBeat _ t (by decide : Point.gridConnections ∈ Point.counters)]
    simp only [hdaily, and_false, if_false]
    rfl
  unfold Timed at htimed
  by_cases hclosed : t.summary.contactorClosed = true
  · rw [if_pos hclosed] at htimed ⊢
    exact ⟨_, takeHours_eq_ok_iff.1 htimed, hcounter⟩
  · rw [if_neg hclosed] at htimed ⊢
    obtain ⟨hnone, hcarry⟩ := htimed
    rw [hcounter, hnone]
    exact ⟨hcarry, by simp⟩

/-- A tick goes on for ever only if the loop does not come to an end. -/
theorem not_turns_of_tick_eq_endless {e : Engine} {bank : Bank} {now : DateTime} {elapsed : Float}
    (h : e.tick bank now elapsed = .error .endless) :
    ¬ ∃ n rest, Turns (e.gridTime elapsed) n rest := by
  rw [← takeHours_eq_endless_iff]
  unfold tick advance at h
  rcases e.beat_timed (Board.commands ⟨bank, []⟩) now elapsed e.source with
    ⟨r, source, hok, -⟩ | ⟨halt, herror, hendless⟩
  · simp only [StateT.run, hok] at h
    cases h
  · simp only [StateT.run, herror] at h
    exact hendless (Except.error.inj h)

/-- A tick leaves less than an hour to carry, and not less than nothing. -/
theorem carry_of_tick {e e' : Engine} {bank : Bank} {now : DateTime} {elapsed : Float}
    {summary : Summary} {board : Board} (hcarry : 0.0 ≤ e.carries.closed)
    (h : e.tick bank now elapsed = .ok (summary, e', board)) :
    0.0 ≤ e'.carries.closed ∧ e'.carries.closed < hour := by
  have hhours := hours_of_tick h
  split at hhours
  · obtain ⟨n, hturns, -⟩ := hhours
    have hcounted := hturns.counted (nonneg_gridTime hcarry elapsed)
    exact ⟨hcounted.nonneg, hcounted.less⟩
  · rw [hhours.1]
    decide +kernel

/-- So what is carried is not below zero behind any run. -/
theorem nonneg_carry_of_run {e e' : Engine} {ticks : List (Bank × DateTime × Float)}
    (hcarry : 0.0 ≤ e.carries.closed) (h : e.run ticks = .ok e') : 0.0 ≤ e'.carries.closed := by
  refine of_ending (P := fun e => 0.0 ≤ e.carries.closed) (fun hcarry hpass => ?_) hcarry h
  obtain ⟨-, -, htick⟩ := Twin.pass_eq_ok_iff.1 hpass
  exact (carry_of_tick hcarry htick).1

end Engine

/-- A tick of checked and tame parameters has a result if taking hours comes to an end. -/
theorem Twin.exists_pass {t : Twin} (hchecked : t.engine.parameters.fault? = none)
    (htame : t.engine.parameters.Tame) (hcarry : 0.0 ≤ t.engine.carries.closed) {elapsed : Float}
    (htime : t.engine.gridTime elapsed ≤ longest) (now : DateTime) :
    ∃ p, t.pass now elapsed = .ok p := by
  cases hpass : t.pass now elapsed with
  | ok p => exact ⟨p, rfl⟩
  | error halt =>
    exfalso
    rcases excuses_of_pass hpass with ⟨-, hwild⟩ | ⟨rfl, -⟩
    · exact hwild ⟨htame, Parameters.rated_of_fault?_eq_none hchecked⟩
    · have hends := exists_turns_iff (Engine.nonneg_gridTime hcarry elapsed)
      exact Engine.not_turns_of_tick_eq_endless (pass_eq_error_iff.1 hpass) (hends.2 htime)

/-- **Hours on the grid.**  A tick adds its elapsed time to what is carried, none if it is negative
    or not a number, and takes hours out of the sum one by one.  This comes to an end exactly up to
    `2 ^ 65` seconds; then less than an hour is left, and up to `2 ^ 57` seconds the hours taken
    are exactly the whole hours in the sum.  A tick goes on for ever only beyond `2 ^ 65` seconds.
    One that has a result counts on by the hours taken while the contactor is closed, as far as the
    kind of the counter and the signed integers of 64 bits go, and starts again with nothing to
    carry where it is open.  What is carried is not below zero behind any run. -/
theorem hours_on_grid {e : Engine} (hcarry : 0.0 ≤ e.carries.closed) (elapsed : Float) :
    e.gridTime elapsed = e.carries.closed + (if 0.0 ≤ elapsed then elapsed else 0.0) ∧
    ((∃ n rest, Turns (e.gridTime elapsed) n rest) ↔ e.gridTime elapsed ≤ longest) ∧
    (∀ n rest, Turns (e.gridTime elapsed) n rest → Counted (e.gridTime elapsed) n rest) ∧
    (∀ bank now,
      (e.tick bank now elapsed = .error .endless → ¬ e.gridTime elapsed ≤ longest) ∧
      ∀ summary e' board, e.tick bank now elapsed = .ok (summary, e', board) →
        if summary.contactorClosed then
          ∃ n, Turns (e.gridTime elapsed) n e'.carries.closed ∧
            ∀ v, bank.logical? Point.gridConnections = some v →
              ∃ v', board.bank.logical? Point.gridConnections = some v' ∧ v'.kind = v.kind ∧
                v'.number = if n = 0 then v.number
                  else min (max v.number 0 + n) (min maxSigned64 v.kind.hi)
        else e'.carries.closed = 0.0 ∧
          board.bank.logical? Point.gridConnections = bank.logical? Point.gridConnections) ∧
    ∀ ticks e', e.run ticks = .ok e' → 0.0 ≤ e'.carries.closed := by
  have hnonneg := Engine.nonneg_gridTime hcarry elapsed
  have hends := exists_turns_iff hnonneg
  refine ⟨by rw [Engine.gridTime, atLeast_zero], hends, fun n rest h => h.counted hnonneg,
    fun bank now => ⟨fun h => ?_, fun summary e' board h => ?_⟩,
    fun ticks e' h => Engine.nonneg_carry_of_run hcarry h⟩
  · rw [← hends]
    exact Engine.not_turns_of_tick_eq_endless h
  · have hhours := Engine.hours_of_tick h
    by_cases hclosed : summary.contactorClosed = true
    · rw [if_pos hclosed] at hhours ⊢
      obtain ⟨n, hturns, hcounter⟩ := hhours
      refine ⟨n, hturns, fun v hv => ⟨v.raised n, ?_, v.kind_raised n, ?_⟩⟩
      · rw [hcounter, hv, Option.map_some]
      · split
        · next hzero => rw [hzero, Value.raised_zero]
        · exact v.number_raised (by omega)
    · rw [if_neg hclosed] at hhours ⊢
      exact hhours

/-- An engine that has not ticked yet. -/
def freshEngine : Engine := .initial {} (.ofSeed 1)

/-- Two hours, and a tick in which the device does not work. -/
theorem hours_on_grid_freshEngine :
    (∃ rest, Turns (freshEngine.gridTime 7201.5) 2 rest ∧ value? rest = some (3 / 2)) ∧
    ∃ summary e' board,
      freshEngine.tick stoppedBank ⟨⟨2024, 6, 20⟩, 12, 0, 0⟩ 7201.5 = .ok (summary, e', board) ∧
      e'.carries.closed = 0.0 := by
  obtain ⟨-, hends, hcounted, htick, -⟩ :=
    hours_on_grid (e := freshEngine) (by decide +kernel) 7201.5
  constructor
  · obtain ⟨n, rest, hturns⟩ := hends.2 (by decide +kernel)
    obtain ⟨t, ht, hn, hrest⟩ := (hcounted n rest hturns).exact (by decide +kernel)
    have hvalue : value? (freshEngine.gridTime 7201.5) = some (14403 / 2) := by decide +kernel
    obtain rfl := Option.some.inj (ht.symm.trans hvalue)
    obtain rfl : n = 2 := by rw [hn]; norm_num
    refine ⟨rest, hturns, ?_⟩
    rw [hrest]
    norm_num
  · have hopen : (freshEngine.tick stoppedBank ⟨⟨2024, 6, 20⟩, 12, 0, 0⟩ 7201.5).toOption.map
        (·.1.contactorClosed) = some false := by decide +kernel
    cases hok : freshEngine.tick stoppedBank ⟨⟨2024, 6, 20⟩, 12, 0, 0⟩ 7201.5 with
    | error halt =>
      rw [hok] at hopen
      cases hopen
    | ok r =>
      obtain ⟨summary, e', board⟩ := r
      rw [hok] at hopen
      have hclosed : summary.contactorClosed = false := Option.some.inj hopen
      have hhours := (htick _ _).2 summary e' board hok
      rw [hclosed, if_neg Bool.false_ne_true] at hhours
      exact ⟨summary, e', board, rfl, hhours.1⟩

/-- A bank with the hours on the grid in an unsigned counter of 64 bits, beyond the signed ones. -/
def longHoursBank : Bank where
  registers := [⟨Point.gridConnections, .clamp .u64 18000000000000000000, .raw, .readOnly, "hours"⟩]
  wellLaid := ⟨by decide, by decide⟩

/-- An infinite time, and a finite one of more than `2 ^ 65` seconds, which is handed on as it is,
    goes on for ever; and one more hour makes an unsigned counter fall that is beyond the signed
    ones. -/
theorem endless_on_grid :
    (0.0 ≤ freshEngine.carries.closed ∧
      ∀ elapsed ∈ [1.0 / 0.0, 1e20], freshEngine.gridTime elapsed = elapsed ∧
        (¬ ∃ n rest, Turns (freshEngine.gridTime elapsed) n rest) ∧
        ∀ power feeding, freshEngine.carries.step elapsed power feeding true = .error .endless) ∧
    (longHoursBank.logical? Point.gridConnections).map (·.number) = some 18000000000000000000 ∧
      ((Board.accumulate ⟨longHoursBank, []⟩ ⟨0, 0, 0, 1⟩).bank.logical?
        Point.gridConnections).map (·.number) = some 9223372036854775807 := by
  have hcarry : 0.0 ≤ freshEngine.carries.closed := by decide +kernel
  have hendless {elapsed : Float} (hsame : freshEngine.gridTime elapsed = elapsed)
      (hsum : freshEngine.carries.closed + elapsed = elapsed) (hgreat : ¬ elapsed ≤ longest) :
      freshEngine.gridTime elapsed = elapsed ∧
        (¬ ∃ n rest, Turns (freshEngine.gridTime elapsed) n rest) ∧
        ∀ power feeding, freshEngine.carries.step elapsed power feeding true = .error .endless := by
    have hnone : ¬ ∃ n rest, Turns (freshEngine.gridTime elapsed) n rest := by
      rw [exists_turns_iff (Engine.nonneg_gridTime hcarry elapsed), hsame]
      exact hgreat
    refine ⟨hsame, hnone, Carries.step_of_endless ?_⟩
    rw [hsum, takeHours_eq_endless_iff, ← hsame]
    exact hnone
  refine ⟨⟨hcarry, List.forall_mem_cons.2 ⟨?_, List.forall_mem_singleton.2 ?_⟩⟩,
    by decide +kernel, by decide +kernel⟩
  · exact hendless rfl rfl (by decide +kernel)
  · exact hendless rfl rfl (by decide +kernel)

end SolarTwin.Plant

import SolarTwin.Plant.Engine
import SolarTwin.Proofs.Plant.Chance

namespace SolarTwin

/-!
# What a tick does to an engine

A tick draws in several places.  Each function that draws has one statement about how it ends, and
that of the tick is put together from them.

* `Parameters.Steady`, `Parameters.Tame` — what the draws and clamps of a tick need of the parameters;
* `Plant.powerOutput_ends`, `Plant.splitPhases_ends`, `Plant.gridSide_ends` — the physics;
* `Plant.Carries.step_eq_error` — counting hours halts only by going on for ever;
* `Plant.Engine.Ticked` and `Plant.Engine.beat_ends` — the tick;
* `Plant.Engine.Moved` and `Plant.Engine.beat_moves` — the state of the device in a tick.
-/

open Chance (Ends Drawable)

namespace Parameters

/-- What every tick needs: a double can be drawn between the bounds of three of the variations. -/
structure Steady (p : Parameters) : Prop where
  phases : Drawable (p.phaseImbalance / 100.0)
  voltages : Drawable (p.voltageVariation / 100.0)
  frequency : Drawable p.frequencyVariation

/-- What a tick needs in which the device works by daylight: a double can also be drawn between the
    bounds of the variation of the output. -/
structure Tame (p : Parameters) : Prop extends Steady p where
  power : Drawable (p.powerVariation / 100.0)

/-- A halt that is to be expected: tame parameters with a rated power that is not below zero never
    panic, and only steady ones come as far as to go on for ever. -/
def Excuses (p : Parameters) (h : Halt) : Prop :=
  h.IsPanic ∧ ¬ (p.Tame ∧ 0.0 ≤ p.ratedPower) ∨ h = .endless ∧ p.Steady

end Parameters

namespace Plant

variable {p : Parameters}

/-! ### The physics -/

/-- A draw that tame parameters allow. -/
private theorem around_excused {bound : Float} (hbound : p.Tame → Drawable bound) :
    Ends (Chance.around bound) (fun _ => Drawable bound) p.Excuses :=
  (Chance.around_ends bound).mono (fun _ h => h) fun _ hh =>
    .inl ⟨by rw [hh.1]; trivial, fun htame => hh.2 (hbound htame.1)⟩

/-- How much light there is at a local time. -/
def light (now : DateTime) : Float :=
  (Daylight.ofDay now.date.dayOfYear).factor now.hourOfDay

/-- With light, the output needs its variation and a rated power that is not below zero. -/
theorem powerOutput_ends (p : Parameters) (now : DateTime) (w : Weather) :
    Ends (powerOutput p now w)
      (fun _ => light now ≤ 0.0 ∨ Drawable (p.powerVariation / 100.0) ∧ 0.0 ≤ p.ratedPower)
      p.Excuses := by
  unfold powerOutput
  by_cases hlight : light now ≤ 0.0
  · unfold light at hlight
    simp only [hlight, if_true]
    exact .pure (.inl hlight)
  · unfold light at hlight
    simp only [hlight, if_false]
    refine (around_excused fun htame => htame.power).bind fun variation hdraw => ?_
    exact (Chance.clamp_ends _ _ _).mono (fun _ hrated => .inr ⟨hdraw, hrated⟩)
      fun _ hh => .inl ⟨by rw [hh.1]; trivial, fun htame => hh.2 htame.2⟩

/-- Both of the phases that vary do so within the same bound. -/
theorem splitPhases_ends (p : Parameters) (power : Float) :
    Ends (splitPhases power p.phaseImbalance) (fun _ => Drawable (p.phaseImbalance / 100.0))
      p.Excuses := by
  have hdraw := around_excused (p := p) fun htame => htame.phases
  unfold splitPhases
  refine hdraw.bind fun _ hdrawable => hdraw.bind fun _ _ => ?_
  exact .pure hdrawable

theorem phaseVoltage_ends (p : Parameters) (seconds phase : Float) :
    Ends (phaseVoltage p seconds phase) (fun _ => Drawable (p.voltageVariation / 100.0))
      p.Excuses := by
  unfold phaseVoltage
  refine (around_excused fun htame => htame.voltages).bind fun _ hdrawable => ?_
  exact .pure hdrawable

theorem gridSide_ends (p : Parameters) (powers : Phases) (seconds : Float) :
    Ends (gridSide p powers seconds)
      (fun _ => Drawable (p.voltageVariation / 100.0) ∧ Drawable p.frequencyVariation)
      p.Excuses := by
  have hvoltage := phaseVoltage_ends p seconds
  unfold gridSide
  refine (hvoltage 0.0).bind fun _ hvoltages => (hvoltage 1.0).bind fun _ _ =>
    (hvoltage 2.0).bind fun _ _ => ?_
  refine (around_excused fun htame => htame.frequency).bind fun _ hfrequency => ?_
  exact .pure ⟨hvoltages, hfrequency⟩

/-! ### Weather and counting -/

/-- Weather that is drawn is in the list. -/
theorem Sky.advance_ends (sky : Sky) (p : Parameters) (seconds : Float) :
    Ends (sky.advance p seconds)
      (fun next => next.index = sky.index ∨ next.index < p.weather.length) p.Excuses := by
  unfold Sky.advance
  split
  · next hdue =>
    have hweather : p.weather.length ≠ 0 := by
      simpa using hdue.1
    have hbelow : Ends (Chance.below p.weather.length) (· < p.weather.length) p.Excuses :=
      (Chance.below_ends _).mono (fun _ h => h) fun _ hh => absurd hh.2 hweather
    refine hbelow.bind fun _ hindex => ?_
    exact .pure (.inr hindex)
  · exact .pure (.inl rfl)

/-- Counting hours halts only by going on for ever. -/
theorem takeHours_eq_error {counted : Nat} {time : Float} {h : Halt}
    (hh : takeHours counted time = .error h) : h = .endless := by
  fun_induction takeHours counted time with
  | case1 counted time hhour rest hless ih => exact ih hh
  | case2 counted time hhour rest hless => cases hh; rfl
  | case3 counted time hhour => cases hh

/-- Only with a closed contactor are hours counted, and nothing else of the counting halts. -/
theorem Carries.takeHours_of_step_eq_error {c : Carries} {elapsed power : Float}
    {feeding closed : Bool} {h : Halt} (hh : c.step elapsed power feeding closed = .error h) :
    takeHours 0 (c.closed + elapsed) = .error h := by
  unfold step at hh
  cases closed with
  | false => cases hh
  | true =>
    simp only [if_true] at hh
    cases hhours : takeHours 0 (c.closed + elapsed) with
    | error h' =>
      rw [hhours] at hh
      obtain rfl := Except.error.inj hh
      rfl
    | ok r =>
      rw [hhours] at hh
      cases hh

theorem Carries.step_eq_error {c : Carries} {elapsed power : Float} {feeding closed : Bool}
    {h : Halt} (hh : c.step elapsed power feeding closed = .error h) : h = .endless :=
  takeHours_eq_error (takeHours_of_step_eq_error hh)

/-! ### The tick -/

namespace Engine

/-- What a tick that has a result says about the engine before and after it. -/
structure Ticked (e : Engine) (now : DateTime) (t : Beat) (e' : Engine) : Prop where
  parameters : e'.parameters = e.parameters
  sky : e'.sky.index = e.sky.index ∨ e'.sky.index < e.parameters.weather.length
  /-- The engine remembers the date for which the daily yield starts again. -/
  reset : t.reset.isSome → e'.reset ≠ e.reset
  state : t.summary.state = t.transition.after
  /-- A device that works by daylight has drawn its output. -/
  power : t.transition.after = .ok → light now ≤ 0.0 ∨
    Drawable (e.parameters.powerVariation / 100.0) ∧ 0.0 ≤ e.parameters.ratedPower
  steady : e.parameters.Steady

/-- A tick has such a result, or it halts as its parameters excuse. -/
theorem beat_ends (e : Engine) (c : Commands) (now : DateTime) (elapsed : Float) :
    Ends (e.beat c now elapsed) (fun r => e.Ticked now r.1 r.2) e.parameters.Excuses := by
  unfold beat
  have hstep : Ends (fun s => .ok (e.state.step c e.parameters.faultProbability e.ratio s) :
      Chance Transition) (fun _ => True) e.parameters.Excuses :=
    fun s => .inl ⟨_, _, rfl, trivial⟩
  refine hstep.bind fun transition _ => ?_
  refine Ends.bind (Sky.advance_ends _ _ _) fun sky hsky => ?_
  dsimp only
  -- Only a device that works has an output, so nothing is known of its draw otherwise.
  refine Ends.ite_bind (P := fun _ => transition.after = .ok → light now ≤ 0.0 ∨
      Drawable (e.parameters.powerVariation / 100.0) ∧ 0.0 ≤ e.parameters.ratedPower)
    (fun _ => (powerOutput_ends _ _ _).mono (fun _ h _ => h) fun _ h => h)
    (fun hstate => .pure fun h => absurd h hstate) fun raw hpower => ?_
  refine Ends.bind (splitPhases_ends _ _) fun phases hphases => ?_
  refine Ends.bind (gridSide_ends _ _ _) fun grid hgrid => ?_
  have hsteady : e.parameters.Steady := ⟨hphases, hgrid.1, hgrid.2⟩
  have hcarries (power : Float) (feeding closed : Bool) :
      Ends (liftM (e.carries.step (Binary64.atLeast 0.0 elapsed) power feeding closed))
        (fun _ => True) e.parameters.Excuses :=
    .lift (fun _ _ => trivial) fun h hh => .inr ⟨Carries.step_eq_error hh, hsteady⟩
  -- What has been drawn is only put together now.
  refine Ends.bind (hcarries _ _ _) fun carried _ => .pure ?_
  refine
    { parameters := rfl, sky := hsky, reset := ?_, state := rfl, power := hpower,
      steady := hsteady }
  simp only
  split
  · next hresets =>
    have hother : e.reset ≠ some now.date := by
      simp [resetsAt] at hresets
      exact hresets.1
    intro _
    exact hother.symm
  · intro hnone
    cases hnone

/-- The same of the tick on a bank, which then publishes what it has computed. -/
theorem tick_ends (e : Engine) (bank : Bank) (now : DateTime) (elapsed : Float) :
    (∃ t e', e.tick bank now elapsed = .ok (t.summary, e', Board.publishBeat ⟨bank, []⟩ t) ∧
      e.Ticked now t e') ∨
    ∃ h, e.tick bank now elapsed = .error h ∧ e.parameters.Excuses h := by
  have hbeat := e.beat_ends (Board.commands ⟨bank, []⟩) now elapsed e.source
  unfold tick advance
  rcases hbeat with ⟨⟨t, e'⟩, source, hok, hticked⟩ | ⟨h, herror, hexcuse⟩
  · left
    refine ⟨t, { e' with source }, ?_, { hticked with }⟩
    simp only [StateT.run, hok]
    rfl
  · right
    refine ⟨h, ?_, hexcuse⟩
    simp only [StateT.run, herror]
    rfl

/-- What a tick does to the state of the device: one step, which its summary and the engine behind it
    show.  The contactor is closed only where the device works. -/
structure Moved (e : Engine) (c : Commands) (t : Beat) (e' : Engine) : Prop where
  transition : ∃ source,
    t.transition = (e.state.step c e.parameters.faultProbability e.ratio source).1
  state : e'.state = t.transition.after
  summary : t.summary.state = t.transition.after
  closed : t.summary.contactorClosed = true → t.transition.after = .ok

theorem beat_moves (e : Engine) (c : Commands) (now : DateTime) (elapsed : Float) :
    Ends (e.beat c now elapsed) (fun r => e.Moved c r.1 r.2) fun _ => True := by
  unfold beat
  have hstep : Ends (fun s => .ok (e.state.step c e.parameters.faultProbability e.ratio s) :
      Chance Transition)
      (fun transition => ∃ source,
        transition = (e.state.step c e.parameters.faultProbability e.ratio source).1)
      fun _ => True :=
    fun s => .inl ⟨_, _, rfl, s, rfl⟩
  refine hstep.bind fun transition htransition => ?_
  -- Whatever is drawn after the step does not change the state again.
  refine Ends.bind (.any _) fun sky _ => ?_
  dsimp only
  refine Ends.ite_bind (P := fun _ => True) (fun _ => .any _) (fun _ => .any _) fun raw _ => ?_
  refine Ends.bind (.any _) fun phases _ => ?_
  refine Ends.bind (.any _) fun grid _ => ?_
  refine Ends.bind (.any _) fun carried _ => .pure ?_
  refine { transition := htransition, state := rfl, summary := rfl, closed := fun hclosed => ?_ }
  rw [Bool.and_eq_true, decide_eq_true_eq] at hclosed
  exact hclosed.1

/-- A tick that has a result has computed a beat, which it publishes. -/
theorem exists_beat_eq_ok {e e' : Engine} {bank : Bank} {now : DateTime} {elapsed : Float}
    {summary : Summary} {board : Board}
    (h : e.tick bank now elapsed = .ok (summary, e', board)) :
    ∃ t next source,
      e.beat (Board.commands ⟨bank, []⟩) now elapsed e.source = .ok ((t, next), source) ∧
      summary = t.summary ∧ board = Board.publishBeat ⟨bank, []⟩ t ∧
      e' = { next with source } := by
  unfold tick advance at h
  cases hbeat : e.beat (Board.commands ⟨bank, []⟩) now elapsed e.source with
  | ok r =>
    obtain ⟨⟨t, next⟩, source⟩ := r
    simp only [StateT.run, hbeat] at h
    obtain ⟨rfl, rfl, rfl⟩ : t.summary = summary ∧ { next with source } = e' ∧
        Board.publishBeat ⟨bank, []⟩ t = board := by
      simpa using Except.ok.inj h
    exact ⟨t, next, source, rfl, rfl, rfl, rfl⟩
  | error halt =>
    simp only [StateT.run, hbeat] at h
    cases h

/-- What a tick has computed is what it publishes. -/
theorem exists_beat_of_tick {e e' : Engine} {bank : Bank} {now : DateTime} {elapsed : Float}
    {summary : Summary} {board : Board}
    (h : e.tick bank now elapsed = .ok (summary, e', board)) :
    ∃ t, summary = t.summary ∧ board = Board.publishBeat ⟨bank, []⟩ t ∧
      e.Moved (Board.commands ⟨bank, []⟩) t e' := by
  obtain ⟨t, next, source, hbeat, hsummary, hboard, rfl⟩ := exists_beat_eq_ok h
  have hmoved := (e.beat_moves (Board.commands ⟨bank, []⟩) now elapsed).of_eq_ok hbeat
  exact ⟨t, hsummary, hboard, { hmoved with }⟩

end Engine

end Plant

end SolarTwin

import SolarTwin.Proofs.Plant.Feedback
import SolarTwin.Proofs.Plant.Runs

namespace SolarTwin.Plant

open Chance (Ends)

/-!
# The reset of the daily yield in a tick

A tick begins with the reset, if there is one: in the hour of the reset, and unless the engine
remembers the date of the tick, the daily yield starts again from zero and the date is remembered.
Whatever else the tick draws, computes and publishes is the same with the reset and without it.

* `Engine.restart` and `Twin.restart` — the reset on its own;
* `Twin.step_restart` — a tick is the reset and then a tick that does not reset;
* `Engine.Restarts` and `Twin.TicksTo.restarts` — what a tick says of the reset;
* `Twin.TicksTo.logical?_of_counter` — what a tick makes of a counter, with the reset in it.
-/

/-! ### The engine -/

namespace Engine

variable {e e' : Engine} {now : DateTime}

theorem resetsAt_iff : e.resetsAt now = true ↔
    e.reset ≠ some now.date ∧ now.hour = e.parameters.resetHour.toNat := by
  simp [resetsAt]

/-- The engine behind the reset with which a tick begins. -/
def restart (e : Engine) (now : DateTime) : Engine :=
  if e.resetsAt now then { e with reset := some now.date } else e

theorem reset_restart (e : Engine) (now : DateTime) :
    (e.restart now).reset = if e.resetsAt now then some now.date else e.reset := by
  unfold restart
  split <;> rfl

/-- A reset is not repeated. -/
theorem resetsAt_restart (e : Engine) (now : DateTime) : (e.restart now).resetsAt now = false := by
  unfold restart
  split
  · simp [resetsAt]
  · next hnot => exact Bool.eq_false_iff.2 hnot

/-- In the hour of the reset the date is remembered, even if the reset is not the first one. -/
theorem reset_restart_of_hour (h : now.hour = e.parameters.resetHour.toNat) :
    (e.restart now).reset = some now.date := by
  rw [reset_restart]
  split
  · rfl
  · next hnot =>
    by_contra hother
    exact hnot (resetsAt_iff.2 ⟨hother, h⟩)

/-- What a tick says of the reset: the beat has the date that starts again, and the engine remembers
    it. -/
structure Restarts (e : Engine) (now : DateTime) (beat : Beat) (e' : Engine) : Prop where
  beat : beat.reset = if e.resetsAt now then some now.date else none
  engine : e'.reset = (e.restart now).reset
  parameters : e'.parameters = e.parameters

theorem beat_restarts (e : Engine) (c : Commands) (now : DateTime) (elapsed : Float) :
    Ends (e.beat c now elapsed) (fun r => e.Restarts now r.1 r.2) fun _ => True := by
  unfold beat
  -- Nothing that is drawn has a part in the reset.
  refine Ends.bind (.any _) fun transition _ => ?_
  refine Ends.bind (.any _) fun sky _ => ?_
  dsimp only
  refine Ends.ite_bind (P := fun _ => True) (fun _ => .any _) (fun _ => .any _) fun raw _ => ?_
  refine Ends.bind (.any _) fun phases _ => ?_
  refine Ends.bind (.any _) fun grid _ => ?_
  refine Ends.bind (.any _) fun carried _ => .pure ?_
  exact { beat := rfl, engine := (e.reset_restart now).symm, parameters := rfl }

/-- Behind the reset a tick computes the same, but for the reset. -/
theorem beat_restart (h : e.resetsAt now = true) (c : Commands) (elapsed : Float) :
    (e.restart now).beat c now elapsed =
      (fun r => ({ r.1 with reset := none }, r.2)) <$> e.beat c now elapsed := by
  have hrestart : e.restart now = { e with reset := some now.date } := if_pos h
  have hagain : ({ e with reset := some now.date } : Engine).resetsAt now = false := by
    simp [resetsAt]
  rw [hrestart]
  unfold beat
  simp only [map_bind]
  -- Both sides draw the same to the end, where the tick is put together.
  refine bind_congr fun transition => bind_congr fun sky => ?_
  rw [apply_ite (_ <$> ·)]
  simp only [map_bind, map_pure]
  refine Chance.ite_bind_congr fun raw => bind_congr fun phases => bind_congr fun grid =>
    bind_congr fun carried => ?_
  simp only [h, hagain, if_true, Bool.false_eq_true, if_false]

theorem advance_restart (h : e.resetsAt now = true) (c : Commands) (elapsed : Float) :
    (e.restart now).advance c now elapsed =
      (e.advance c now elapsed).map fun r => ({ r.1 with reset := none }, r.2) := by
  have hsource : (e.restart now).source = e.source := by
    unfold restart
    split <;> rfl
  unfold advance
  rw [beat_restart h, StateT.run_map, hsource]
  cases (e.beat c now elapsed).run e.source <;> rfl

theorem advance_restarts {c : Commands} {elapsed : Float} {beat : Beat}
    (h : e.advance c now elapsed = .ok (beat, e')) : e.Restarts now beat e' :=
  of_advance (e.beat_restarts c now elapsed) (fun _ _ hrestarts => { hrestarts with }) h

end Engine

/-! ### The twin -/

/-- Letting the daily yield start again first does not change what a tick publishes that resets. -/
theorem Board.bank_publishBeat_restarted {b : Bank} {beat : Beat} (h : beat.reset.isSome) :
    (publishBeat ⟨(publishCount ⟨b, []⟩ Point.dailyYield 0).bank, []⟩
        { beat with reset := none }).bank =
      (publishBeat ⟨b, []⟩ beat).bank := by
  have hslots : (publishCount ⟨b, []⟩ Point.dailyYield 0).bank.slots = b.slots := by
    rw [publishCount_eq_put]
    exact (put_publishes _ _ _).slots
  apply Bank.eq_of_slots_of_logical?
  · rw [(publishBeat_publishes _ _).slots, (publishBeat_publishes _ _).slots, hslots]
  · intro x
    by_cases hx : x ∈ Point.quantities
    · -- A quantity is published anyway.
      obtain ⟨quantity, hquantity⟩ : ∃ quantity, (x, quantity) ∈ beat.points := by
        rw [← beat.map_fst_points] at hx
        simpa using hx
      rw [logical?_publishBeat_of_mem _ beat hquantity,
        logical?_publishBeat_of_mem _ { beat with reset := none } hquantity,
        Bank.slot?_congr hslots]
    · -- Any other value is zero twice, or neither time.
      have hzero := logical?_publishZero ⟨b, []⟩ True Point.dailyYield x
      simp only [if_true, true_and] at hzero
      rw [logical?_publishBeat_of_notMem _ _ hx, logical?_publishBeat_of_notMem _ _ hx, hzero,
        Option.map_map]
      refine congrArg (Option.map · _) (funext fun v => ?_)
      by_cases hdaily : x = Point.dailyYield <;> simp [h, hdaily]

namespace Twin

variable {t t' : Twin} {now : DateTime} {elapsed : Float} {beat : Beat}

/-- The reset with which a tick begins: in the hour of the reset, once per date, the daily yield
    starts again and the engine remembers the date. -/
def restart (t : Twin) (now : DateTime) : Twin where
  engine := t.engine.restart now
  bank := (if t.engine.resetsAt now then Board.publishCount ⟨t.bank, []⟩ Point.dailyYield 0
    else ⟨t.bank, []⟩).bank

/-- Where there is no reset nothing changes. -/
theorem restart_of_not (h : t.engine.resetsAt now = false) : t.restart now = t := by
  simp [restart, Engine.restart, h]

/-- A reset changes the daily yield to zero, and no other value. -/
theorem logical?_restart (t : Twin) (now : DateTime) (x : UInt16) :
    (t.restart now).bank.logical? x = (t.bank.logical? x).map fun v =>
      if t.engine.resetsAt now = true ∧ x = Point.dailyYield then Value.zero v.kind else v := by
  have hzero := Board.logical?_publishZero ⟨t.bank, []⟩ (t.engine.resetsAt now = true)
    Point.dailyYield x
  simpa only [restart] using hzero

/-- The commands are read from other points. -/
theorem commands_restart (t : Twin) (now : DateTime) : (t.restart now).commands = t.commands := by
  have hother {x : UInt16} (hx : x ≠ Point.dailyYield) :
      (t.restart now).bank.logical? x = t.bank.logical? x := by
    simp [logical?_restart, hx]
  have hoperating := hother (x := Point.operatingCommand) (by decide)
  have hacknowledge := hother (x := Point.acknowledgeCommand) (by decide)
  simp only [commands, Board.commands, Board.command?_congr hoperating,
    Board.command?_congr hacknowledge]

theorem TicksTo.restarts (h : t.TicksTo now elapsed beat t') :
    t.engine.Restarts now beat t'.engine :=
  Engine.advance_restarts h.advance

/-- What a tick makes of a counter: the daily yield may start again, and then each counts on. -/
theorem TicksTo.logical?_of_counter (h : t.TicksTo now elapsed beat t') {x : UInt16}
    (hx : x ∈ Point.counters) :
    t'.bank.logical? x = (t.bank.logical? x).map fun v =>
      (if t.engine.resetsAt now = true ∧ x = Point.dailyYield then Value.zero v.kind else v).raised
        (beat.increments.at x) := by
  have hreset : beat.reset.isSome ↔ t.engine.resetsAt now = true := by
    rw [h.restarts.beat]
    split <;> simp_all
  have hbeat := Board.logical?_publishBeat ⟨t.bank, []⟩ beat hx
  simp only [hreset] at hbeat
  rw [h.bank, hbeat]

/-- Behind the reset a tick adds the energy that it has computed to the daily yield. -/
theorem TicksTo.logical?_dailyYield (h : t.TicksTo now elapsed beat t') :
    t'.bank.logical? Point.dailyYield =
      ((t.restart now).bank.logical? Point.dailyYield).map (·.raised beat.increments.energy) := by
  rw [h.logical?_of_counter (by decide), logical?_restart, Option.map_map]
  rfl

/-- A tick is the reset and then a tick that does not reset. -/
theorem step_restart (t : Twin) (now : DateTime) (elapsed : Float) :
    (t.restart now).step (.tick now elapsed) = t.step (.tick now elapsed) := by
  cases hresets : t.engine.resetsAt now with
  | false => rw [restart_of_not hresets]
  | true =>
    have hengine : (t.restart now).engine = t.engine.restart now := rfl
    have hbank : (t.restart now).bank =
        (Board.publishCount ⟨t.bank, []⟩ Point.dailyYield 0).bank := by
      simp [restart, hresets]
    rw [step_tick, step_tick, commands_restart, hengine, Engine.advance_restart hresets, hbank]
    cases hadvance : t.engine.advance t.commands now elapsed with
    | error halt => simp only [Except.map]
    | ok r =>
      -- Behind the reset the beat does not reset, and the daily yield is zero already.
      obtain ⟨beat, engine⟩ := r
      have hreset : beat.reset.isSome := by
        rw [(Engine.advance_restarts hadvance).beat, hresets]
        simp
      simp only [Except.map, Board.bank_publishBeat_restarted hreset]

end Twin

end SolarTwin.Plant

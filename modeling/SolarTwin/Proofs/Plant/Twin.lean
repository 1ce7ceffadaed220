import SolarTwin.Modbus.Service
import SolarTwin.Proofs.Plant.Ticking
import SolarTwin.Proofs.Plant.Trail
import SolarTwin.Proofs.Plant.Transitions

namespace SolarTwin.Plant

/-!
# Runs of a twin

A twin is the plant together with the bank that it shares with its clients.  Its ticks are its only
steps with a result of their own; they follow each other alone, together with the requests of
clients, or with a bank that may be any other one each time.

* `Twin.Pass` and `Twin.pass` — a tick, with `Twin.Pass.Made` and `Twin.exists_made` for what it has
  computed and published;
* `Twin.step` and `Twin.Stepped` — one event, and what it does to a twin;
* `Twin.visited` and `Twin.after` — the twins that a run of events goes through, and the last one;
* `Twin.passes` and `Twin.halt?` — the ticks of a twin without clients, and why they end;
* `Engine.tickTrail` and `Engine.run` — the ticks of an engine on whatever banks;
* `Twin.isChain_visited`, `Twin.forall_mem_visited` and `Twin.forall_mem_passes` — what every step
  does, or preserves, holds all along.
-/

/-- The plant and the bank that it shares with its clients. -/
structure Twin where
  engine : Engine
  bank : Bank

namespace Twin

/-- The commands that a twin finds in its bank. -/
def commands (t : Twin) : Commands := Board.commands ⟨t.bank, []⟩

/-! ### Ticks -/

/-- A tick that has a result: where it started, how long after the tick before, how it is summed up,
    what it wrote into the journal, and what it left. -/
structure Pass where
  before : Twin
  elapsed : Float
  summary : Summary
  journal : Journal
  after : Twin

/-- A tick of a twin. -/
def pass (t : Twin) (now : DateTime) (elapsed : Float) : Except Halt Pass :=
  (t.engine.tick t.bank now elapsed).map fun (summary, engine, board) =>
    ⟨t, elapsed, summary, board.journal, ⟨engine, board.bank⟩⟩

section Pass

variable {t : Twin} {now : DateTime} {elapsed : Float} {p : Pass}

/-- A tick of a twin is that of its engine on its bank. -/
theorem pass_eq_ok_iff : t.pass now elapsed = .ok p ↔
    p.before = t ∧ p.elapsed = elapsed ∧ t.engine.tick t.bank now elapsed =
      .ok (p.summary, p.after.engine, ⟨p.after.bank, p.journal⟩) := by
  rw [pass]
  constructor
  · intro h
    cases htick : t.engine.tick t.bank now elapsed with
    | error halt =>
      rw [htick] at h
      cases h
    | ok r =>
      rw [htick] at h
      obtain rfl := Except.ok.inj h
      exact ⟨rfl, rfl, rfl⟩
  · rintro ⟨rfl, rfl, htick⟩
    rw [htick]
    rfl

theorem pass_eq_error_iff {halt : Halt} :
    t.pass now elapsed = .error halt ↔ t.engine.tick t.bank now elapsed = .error halt := by
  rw [pass]
  cases t.engine.tick t.bank now elapsed with
  | error halt' => simp [Except.map]
  | ok r => simp [Except.map]

/-- A tick does to the engine what its beat says. -/
theorem ticked_of_pass (h : t.pass now elapsed = .ok p) :
    ∃ beat, t.engine.Ticked now beat p.after.engine := by
  obtain ⟨-, -, htick⟩ := pass_eq_ok_iff.1 h
  rcases t.engine.tick_ends t.bank now elapsed with ⟨beat, e', hok, hticked⟩ | ⟨_, herror, -⟩
  · obtain ⟨-, hboth⟩ := Prod.mk.inj (Except.ok.inj (htick.symm.trans hok))
    obtain ⟨rfl, -⟩ := Prod.mk.inj hboth
    exact ⟨beat, hticked⟩
  · cases htick.symm.trans herror

/-- A tick without a result is excused by the parameters. -/
theorem excuses_of_pass {halt : Halt} (h : t.pass now elapsed = .error halt) :
    t.engine.parameters.Excuses halt := by
  rw [pass_eq_error_iff] at h
  rcases t.engine.tick_ends t.bank now elapsed with ⟨_, _, hok, -⟩ | ⟨_, herror, hexcuse⟩
  · cases h.symm.trans hok
  · obtain rfl := Except.error.inj (h.symm.trans herror)
    exact hexcuse

/-- A tick has computed a beat and published it. -/
structure Pass.Made (p : Pass) (beat : Beat) : Prop where
  summary : p.summary = beat.summary
  board : Board.publishBeat ⟨p.before.bank, []⟩ beat = ⟨p.after.bank, p.journal⟩
  moved : p.before.engine.Moved p.before.commands beat p.after.engine

theorem exists_made (h : t.pass now elapsed = .ok p) : p.before = t ∧ ∃ beat, p.Made beat := by
  obtain ⟨rfl, -, htick⟩ := pass_eq_ok_iff.1 h
  obtain ⟨beat, hsummary, hboard, hmoved⟩ := Engine.exists_beat_of_tick htick
  exact ⟨rfl, beat, hsummary, hboard.symm, hmoved⟩

end Pass

/-! ### Events -/

/-- What happens to a twin: it ticks, or the bytes of a client are served. -/
inductive Event where
  | tick (now : DateTime) (elapsed : Float)
  | request (unit : UInt8) (pdu : List UInt8)

/-- The twin after an event. -/
def step (t : Twin) : Event → Except Halt Twin
  | .tick now elapsed => (t.pass now elapsed).map (·.after)
  | .request unit pdu => .ok { t with bank := (t.bank.serve unit pdu).bank }

/-- All that an event can do to a twin. -/
inductive Stepped (t : Twin) : Twin → Prop
  | tick {now : DateTime} {beat : Beat} {engine : Engine}
      (hticked : t.engine.Ticked now beat engine) :
      Stepped t ⟨engine, (Board.publishBeat ⟨t.bank, []⟩ beat).bank⟩
  | request (unit : UInt8) (pdu : List UInt8) :
      Stepped t { t with bank := (t.bank.serve unit pdu).bank }

theorem stepped_of_step {t t' : Twin} {e : Event} (h : t.step e = .ok t') : t.Stepped t' := by
  cases e with
  | request unit pdu =>
    obtain rfl := Except.ok.inj h
    exact .request unit pdu
  | tick now elapsed =>
    rw [step, pass] at h
    rcases t.engine.tick_ends t.bank now elapsed with ⟨beat, engine, hok, hticked⟩ | ⟨_, herror, -⟩
    · rw [hok] at h
      obtain rfl := Except.ok.inj h
      exact .tick hticked
    · rw [herror] at h
      cases h

/-! ### Runs of events -/

/-- A run of events. -/
def eventTrail (t : Twin) (es : List Event) : Trail Twin Twin := trail step id t es

/-- The twins that a run goes through, from the first one on.  A tick without a result ends it. -/
def visited (t : Twin) (es : List Event) : List Twin := t :: (t.eventTrail es).records

/-- The twin after some events, if all of them have a result. -/
def after (t : Twin) (es : List Event) : Except Halt Twin := (t.eventTrail es).ending

/-- What every step does holds between each twin of a run and the next. -/
theorem isChain_visited {R : Twin → Twin → Prop} (hR : ∀ {t t'}, Stepped t t' → R t t')
    (t : Twin) (es : List Event) : (t.visited es).IsChain R := by
  have hchain : (t :: (trail step id t es).records.map id).IsChain R :=
    isChain_trail (fun hstep => hR (stepped_of_step hstep)) t es
  rwa [List.map_id] at hchain

/-- What every step preserves holds all along a run. -/
theorem forall_mem_visited {P : Twin → Prop} (hP : ∀ {t t'}, Stepped t t' → P t → P t') {t : Twin}
    (ht : P t) (es : List Event) : ∀ t' ∈ t.visited es, P t' := by
  refine List.forall_mem_cons.2 ⟨ht, forall_mem_records (P := P) (fun ht hstep => ?_) ht es⟩
  have hnext := hP (stepped_of_step hstep) ht
  exact ⟨hnext, hnext⟩

/-! ### Runs of ticks -/

/-- The ticks of a twin that no client disturbs. -/
def tickTrail (t : Twin) (ticks : List (DateTime × Float)) : Trail Twin Pass :=
  trail (fun t tick => t.pass tick.1 tick.2) Pass.after t ticks

/-- These ticks one by one, up to one without a result. -/
def passes (t : Twin) (ticks : List (DateTime × Float)) : List Pass := (t.tickTrail ticks).records

/-- Why the ticks end before all of them have had a result, if they do. -/
def halt? (t : Twin) (ticks : List (DateTime × Float)) : Option Halt := (t.tickTrail ticks).halt?

/-- Each tick of a twin has computed a beat, and what every tick preserves is true after it. -/
theorem forall_mem_passes {P : Twin → Prop}
    (hP : ∀ {p : Pass} {beat : Beat}, p.Made beat → P p.before → P p.after) {t : Twin} (ht : P t)
    (ticks : List (DateTime × Float)) :
    ∀ p ∈ t.passes ticks, (∃ beat, p.Made beat) ∧ P p.after := by
  refine forall_mem_records (P := P) (fun ht hpass => ?_) ht ticks
  obtain ⟨rfl, beat, hmade⟩ := exists_made hpass
  have hafter := hP hmade ht
  exact ⟨⟨⟨beat, hmade⟩, hafter⟩, hafter⟩

end Twin

namespace Engine

/-- The ticks of an engine, each on whatever bank there is by then, at any local time and after any
    time. -/
def tickTrail (e : Engine) (ticks : List (Bank × DateTime × Float)) : Trail Engine Twin.Pass :=
  trail (fun e (bank, now, elapsed) => Twin.pass ⟨e, bank⟩ now elapsed) (·.after.engine) e ticks

section TickTrail

variable {e : Engine} {bank : Bank} {now : DateTime} {elapsed : Float}
  {rest : List (Bank × DateTime × Float)}

theorem tickTrail_of_ok {p : Twin.Pass} (h : Twin.pass ⟨e, bank⟩ now elapsed = .ok p) :
    e.tickTrail ((bank, now, elapsed) :: rest) = (p.after.engine.tickTrail rest).cons p :=
  trail_of_ok h

theorem tickTrail_of_error {halt : Halt} (h : Twin.pass ⟨e, bank⟩ now elapsed = .error halt) :
    e.tickTrail ((bank, now, elapsed) :: rest) = ⟨[], .error halt⟩ :=
  trail_of_error h

end TickTrail

/-- The engine after such ticks, if all of them have a result. -/
def run (e : Engine) (ticks : List (Bank × DateTime × Float)) : Except Halt Engine :=
  (e.tickTrail ticks).ending

end Engine

/-! ### The state of the device in a tick -/

namespace Engine.Moved

variable {e e' : Engine} {c : Commands} {beat : Beat}

/-- A tick moves the state as a step does that is given what the engine goes by. -/
theorem exists_moves (h : e.Moved c beat e') : ∃ source n,
    State.Moves ⟨c, e.parameters.faultProbability, e.ratio, source⟩ e.state beat.transition.after
      beat.transition.acknowledged n := by
  obtain ⟨source, htransition⟩ := h.transition
  obtain ⟨after, acknowledged, n, hmoves, hstep⟩ :=
    e.state.exists_moves ⟨c, e.parameters.faultProbability, e.ratio, source⟩
  refine ⟨source, n, ?_⟩
  rw [htransition, hstep]
  exact hmoves

/-- An acknowledgement is used up exactly by an engine in an error that finds one. -/
theorem acknowledged (h : e.Moved c beat e') :
    beat.transition.acknowledged = e.state.isAcknowledged c := by
  obtain ⟨source, n, hmoves⟩ := h.exists_moves
  exact Bool.eq_iff_iff.2 (hmoves.acknowledged_iff.trans State.isAcknowledged_iff.symm)

/-- A command to stop leaves the engine off. -/
theorem state_eq_off (h : e.Moved c beat e') (hstop : c.operating = Commands.stop) :
    e'.state = .off := by
  obtain ⟨source, n, hmoves⟩ := h.exists_moves
  exact h.state.trans (hmoves.after_eq_off hstop)

/-- An engine that works goes on if it is not stopped and runs no risk. -/
theorem state_eq_ok (h : e.Moved c beat e') (hstate : e.state = .ok)
    (hstop : c.operating ≠ Commands.stop)
    (hrisk : ¬ 0.0 < State.risk e.parameters.faultProbability e.ratio) :
    e'.state = .ok := by
  obtain ⟨source, n, hmoves⟩ := h.exists_moves
  exact h.state.trans (hmoves.after_eq_ok hstate hstop hrisk)

end Engine.Moved

/-! ### Small plants -/

/-- An engine in an error, with three kinds of weather. -/
def faultyEngine : Engine := { Engine.initial {} (.ofSeed 1) with state := .error }

/-- A bank that holds the command to stop. -/
def stoppedBank : Bank where
  registers := [⟨40009, .clamp .u32 381, .enumeration, .readWrite, "operating command"⟩]
  wellLaid := ⟨by decide, by decide⟩

end SolarTwin.Plant

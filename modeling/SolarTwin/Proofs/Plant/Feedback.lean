import SolarTwin.Proofs.Plant.Frame

namespace SolarTwin.Plant

/-!
# Telemetry never feeds back

Of all that a bank holds, a tick only reads the two commands.  It leaves the one as it is, and the
other one too unless it uses the acknowledgement up.  So two twins with the same commands go the same
way, however different their banks are; and it does not matter how many ticks they have behind them,
since the first tick is special for the journal only.

* `Plant.Engine.later` — an engine that has made more ticks;
* `Plant.Engine.beat_later`, `Plant.Engine.advance_later` — it computes the same beat but for the
  weather that is announced;
* `Plant.Twin.Pass.Made.commands` — the commands after a tick;
* `Plant.Twin.Pass.Agrees` and `Plant.Twin.pass_agrees` — one tick of two twins;
* `Plant.telemetry_never_feeds_back` — runs of any length.
-/

/-! ### The number of ticks -/

/-- The engine with more ticks behind it. -/
def Engine.later (e : Engine) (lead : Nat) : Engine := { e with ticks := e.ticks + lead }

@[simp] theorem Engine.later_zero (e : Engine) : e.later 0 = e := rfl

/-- The beat with another announcement of the weather. -/
def Beat.announcing (t : Beat) (announced : Option String) : Beat := { t with announced }

namespace Engine

variable (e : Engine) (lead : Nat) (c : Commands) (now : DateTime) (elapsed : Float)

/-- What a tick of the engine has brought, as the engine with more ticks behind it has it. -/
def postpone (r : Beat × Engine) : Beat × Engine :=
  (r.1.announcing (e.sky.announced r.2.sky e.parameters r.2.seconds (e.ticks + lead = 0)),
    r.2.later lead)

/-- The number of ticks has no part in any draw. -/
theorem beat_later :
    (e.later lead).beat c now elapsed = e.postpone lead <$> e.beat c now elapsed := by
  have hticks : (e.later lead).ticks + 1 = e.ticks + 1 + lead := Nat.add_right_comm ..
  unfold beat
  simp only [map_bind]
  -- Both sides draw the same to the end, where the tick is put together.
  refine bind_congr fun transition => bind_congr fun sky => ?_
  rw [apply_ite (postpone e lead <$> ·)]
  simp only [map_bind, map_pure]
  refine Chance.ite_bind_congr fun raw => bind_congr fun phases => bind_congr fun grid =>
    bind_congr fun carried => ?_
  rw [hticks]
  rfl

theorem advance_later : (e.later lead).advance c now elapsed =
    (e.advance c now elapsed).map (e.postpone lead) := by
  have hsource : (e.later lead).source = e.source := rfl
  unfold advance
  rw [beat_later, StateT.run_map, hsource]
  cases (e.beat c now elapsed).run e.source <;> rfl

end Engine

/-! ### The commands -/

namespace Board

variable {b b' : Bank} {x : UInt16}

theorem command?_congr (h : b'.logical? x = b.logical? x) :
    command? ⟨b', []⟩ x = command? ⟨b, []⟩ x := by
  simp only [command?, h]

/-- Where a value has become zero the command is zero, or there is none. -/
theorem command?_of_zero (h : b'.logical? x = (b.logical? x).map fun v => Value.zero v.kind) :
    (command? ⟨b', []⟩ x).getD 0 = 0 := by
  simp only [command?, h]
  cases b.logical? x <;> rfl

end Board

namespace Twin

/-- A tick leaves the commands as they are, but for an acknowledgement that it uses up. -/
theorem Pass.Made.commands {p : Pass} {beat : Beat} (h : p.Made beat) :
    p.after.commands = ⟨p.before.commands.operating,
      if p.acknowledges then 0 else p.before.commands.acknowledge⟩ := by
  have hoperating : p.after.bank.logical? Point.operatingCommand =
      p.before.bank.logical? Point.operatingCommand := by
    have hother : Point.operatingCommand ≠ Point.acknowledgeCommand := by decide
    rw [h.logical?_of_notMem (by decide) (by decide)]
    simp [hother]
  have hacknowledge := h.logical?_of_notMem (x := Point.acknowledgeCommand) (by decide) (by decide)
  simp only [and_true] at hacknowledge
  simp only [Twin.commands, Board.commands, Board.command?_congr hoperating, Commands.mk.injEq,
    true_and]
  cases hused : p.acknowledges with
  | true =>
    simp only [hused, if_true] at hacknowledge ⊢
    exact Board.command?_of_zero hacknowledge
  | false =>
    simp only [hused, Bool.false_eq_true, if_false, Option.map_id'] at hacknowledge ⊢
    rw [Board.command?_congr hacknowledge]

/-! ### Two twins -/

/-- The number of words that a tick has drawn. -/
def Pass.drawn (p : Pass) : Nat := p.after.engine.source.taken - p.before.engine.source.taken

/-- Two ticks have come to the same, the second one after more ticks than the first. -/
structure Pass.Agrees (lead : Nat) (p p' : Pass) : Prop where
  summary : p'.summary = p.summary
  engine : p'.after.engine = p.after.engine.later lead
  drawn : p'.drawn = p.drawn
  commands : p'.after.commands = p.after.commands

/-- A twin publishes what its engine has computed. -/
def publishing (t : Twin) (elapsed : Float) (r : Beat × Engine) : Pass where
  before := t
  elapsed := elapsed
  summary := r.1.summary
  journal := (Board.publishBeat ⟨t.bank, []⟩ r.1).journal
  after := ⟨r.2, (Board.publishBeat ⟨t.bank, []⟩ r.1).bank⟩

private theorem pass_eq_map_advance (t : Twin) (now : DateTime) (elapsed : Float) :
    t.pass now elapsed =
      (t.engine.advance t.commands now elapsed).map (t.publishing elapsed) := by
  rw [pass, Engine.tick, commands]
  cases t.engine.advance (Board.commands ⟨t.bank, []⟩) now elapsed <;> rfl

variable {t t' : Twin} {lead : Nat}

/-- With the same commands both ticks come to the same, or halt for the same reason. -/
theorem pass_agrees (hengine : t'.engine = t.engine.later lead)
    (hcommands : t'.commands = t.commands) (now : DateTime) (elapsed : Float) :
    (∃ p p', t.pass now elapsed = .ok p ∧ t'.pass now elapsed = .ok p' ∧ p.Agrees lead p') ∨
    ∃ halt, t.pass now elapsed = .error halt ∧ t'.pass now elapsed = .error halt := by
  have hadvance : t'.engine.advance t'.commands now elapsed =
      (t.engine.advance t.commands now elapsed).map (t.engine.postpone lead) := by
    rw [hengine, hcommands, Engine.advance_later]
  have hpass := t.pass_eq_map_advance now elapsed
  have hpass' := t'.pass_eq_map_advance now elapsed
  rw [hadvance] at hpass'
  cases hresult : t.engine.advance t.commands now elapsed with
  | error halt =>
    rw [hresult] at hpass hpass'
    exact .inr ⟨halt, hpass, hpass'⟩
  | ok r =>
    rw [hresult] at hpass hpass'
    obtain ⟨-, beat, hmade⟩ := exists_made hpass
    obtain ⟨-, beat', hmade'⟩ := exists_made hpass'
    refine .inl ⟨_, _, hpass, hpass', ?_⟩
    refine { summary := rfl, engine := rfl, drawn := ?_, commands := ?_ }
    · simp only [Pass.drawn, publishing, hengine]
      rfl
    · -- The acknowledgement is used up in both banks or in neither.
      have hbefore : (t'.publishing elapsed (t.engine.postpone lead r)).before.commands =
          (t.publishing elapsed r).before.commands := hcommands
      have hack : (t'.publishing elapsed (t.engine.postpone lead r)).acknowledges =
          (t.publishing elapsed r).acknowledges := by
        rw [Pass.acknowledges, hbefore]
        simp only [publishing, hengine]
        rfl
      rw [hmade'.commands, hmade.commands, hack, hbefore]

end Twin

/-- **Telemetry never feeds back.**  Two twins with the same engine, or with engines that differ in the
    number of ticks behind them only, and with banks that differ in anything but the commands, go
    through ticks at the same times in the same way: tick by tick they have the same summary, again
    the same engine, as many draws, and again the same commands.  One of them halts exactly where
    the other one does, for the same reason. -/
theorem telemetry_never_feeds_back {t t' : Twin} {lead : Nat}
    (hengine : t'.engine = t.engine.later lead) (hcommands : t'.commands = t.commands)
    (ticks : List (DateTime × Float)) :
    List.Forall₂ (Twin.Pass.Agrees lead) (t.passes ticks) (t'.passes ticks) ∧
      t'.halt? ticks = t.halt? ticks := by
  refine trail_agree (R := fun t t' => t'.engine = t.engine.later lead ∧ t'.commands = t.commands)
    (fun tick hsame => ?_) ⟨hengine, hcommands⟩ ticks
  rcases Twin.pass_agrees hsame.1 hsame.2 tick.1 tick.2 with ⟨p, p', hp, hp', hagrees⟩ | hhalts
  · exact .inl ⟨p, p', hp, hp', hagrees, hagrees.engine, hagrees.commands⟩
  · exact .inr hhalts

/-- A twin without registers. -/
def bareTwin : Twin := ⟨faultyEngine, .empty⟩

/-- A twin with telemetry, with the operating command that is assumed without a register and with an
    acknowledgement that is none, and with two ticks behind it. -/
def busyTwin : Twin where
  engine := faultyEngine.later 2
  bank :=
    { registers :=
        [ ⟨30513, .clamp .s32 (-7), .fix0, .readOnly, "total yield"⟩,
          ⟨30775, .clamp .s16 12345, .fix2, .readOnly, "active power"⟩,
          ⟨40009, .clamp .u16 295, .enumeration, .readWrite, "operating command"⟩,
          ⟨40011, .clamp .s64 (-1), .enumeration, .readWrite, "acknowledgement"⟩ ]
      wellLaid := ⟨by decide, by decide⟩ }

/-- Two ticks at noon. -/
def noonTicks : List (DateTime × Float) :=
  [(⟨⟨2024, 6, 20⟩, 12, 0, 0⟩, 5.0), (⟨⟨2024, 6, 20⟩, 12, 0, 5⟩, 5.0)]

theorem telemetry_never_feeds_back_bareTwin :
    busyTwin.commands = bareTwin.commands ∧ (bareTwin.passes noonTicks).length = 2 ∧
    List.Forall₂ (Twin.Pass.Agrees 2) (bareTwin.passes noonTicks) (busyTwin.passes noonTicks) := by
  have hcommands : busyTwin.commands = bareTwin.commands := by decide +kernel
  have hlength : (bareTwin.passes noonTicks).length = 2 := by decide +kernel
  exact ⟨hcommands, hlength, (telemetry_never_feeds_back rfl hcommands noonTicks).1⟩

end SolarTwin.Plant

import SolarTwin.Proofs.Modbus.Writing
import SolarTwin.Proofs.Plant.Feedback
import SolarTwin.Proofs.Plant.Runs
import SolarTwin.Proofs.Plant.Status
import SolarTwin.Proofs.Plant.Transitions

namespace SolarTwin.Plant

/-!
# One acknowledgement for one error

A tick acknowledges an error if it finds the code for it where clients write the acknowledgement,
and then it leaves zero there.  No tick puts the code back, so before the next tick that
acknowledges a client has written the register.

* `Twin.acknowledges_iff` — when a tick acknowledges;
* `Twin.TicksTo.mem_acknowledge` — what a tick leaves there;
* `Twin.kept_or_written` — zero stays there until a client writes the register;
* `acknowledged_once` — from one tick that acknowledges to the next.
-/

/-- The register of a command that is read holds its number. -/
theorem Board.holds_of_command? {b : Board} {x : UInt16} {n : UInt32} (h : b.command? x = some n) :
    b.bank.Holds x n.toNat := by
  obtain ⟨m, hm, hn⟩ := Option.bind_eq_some_iff.1 h
  obtain ⟨v, hv, hnat⟩ := Option.bind_eq_some_iff.1 hm
  split at hn
  · next hlt =>
    obtain rfl := Option.some.inj hn
    have hsame : (UInt32.ofNat m).toNat = m := by
      rw [UInt32.toNat_ofNat']
      omega
    have hnumber : v.number = m := Int.mem_toNat?.1 hnat
    rw [Bank.Holds, hv, Option.map_some, hnumber, hsame]
  · cases hn

namespace Twin

variable {t t' : Twin} {now : DateTime} {elapsed : Float} {beat : Beat} {r : Register}

/-- A tick acknowledges in an error, if the register of the acknowledgement holds the code. -/
theorem acknowledges_iff : t.engine.state.isAcknowledged t.commands = true ↔
    t.engine.state = .error ∧ t.bank.Holds Point.acknowledgeCommand 26 := by
  have hcode : t.commands.acknowledge = 26 ↔ t.bank.Holds Point.acknowledgeCommand 26 := by
    simp only [commands, Board.commands]
    constructor
    · intro hread
      -- Without a register the command would be zero.
      cases hcommand : Board.command? ⟨t.bank, []⟩ Point.acknowledgeCommand with
      | none =>
        rw [hcommand] at hread
        cases hread
      | some n =>
        rw [hcommand, Option.getD_some] at hread
        have hholds := Board.holds_of_command? hcommand
        rwa [hread] at hholds
    · intro hholds
      have hread : Board.command? ⟨t.bank, []⟩ Point.acknowledgeCommand = some 26 :=
        Board.command?_of_holds _ hholds
      rw [hread, Option.getD_some]
  rw [← hcode]
  exact State.isAcknowledged_iff

/-- A tick that acknowledges leaves zero in the register, and any other leaves it as it was. -/
theorem TicksTo.mem_acknowledge (h : t.TicksTo now elapsed beat t') (hr : r ∈ t.bank.registers)
    (haddress : r.address = Point.acknowledgeCommand) :
    { r with value := if beat.transition.acknowledged then Value.zero r.kind else r.value } ∈
      t'.bank.registers := by
  have hslots : t'.bank.slots = t.bank.slots := by
    rw [h.bank]
    exact (Board.publishBeat_publishes _ _).slots
  have hvalue := Board.logical?_publishBeat_of_notMem ⟨t.bank, []⟩ beat
    (x := Point.acknowledgeCommand) (by decide)
  have hother : Point.acknowledgeCommand ≠ Point.dailyYield := by decide
  have hcount : beat.increments.at Point.acknowledgeCommand = 0 :=
    Increments.at_eq_zero (by decide) _
  have hold : t.bank.logical? Point.acknowledgeCommand = some r.value := by
    rw [← haddress]
    exact Bank.logical?_of_mem hr
  refine Bank.mem_of_slots_of_logical? hslots hr ?_
  rw [haddress, h.bank, hvalue, hcount, hold]
  simp only [hother, and_false, and_true, false_or, Option.map_some, Value.raised_zero]
  rfl

/-- One event keeps a zero in the register, unless it is a request that writes it. -/
private theorem step_keeps_or_writes {e : Event} (h : t.step e = .ok t') (hr : r ∈ t.bank.registers)
    (haddress : r.address = Point.acknowledgeCommand) (hzero : r.value = Value.zero r.kind) :
    r ∈ t'.bank.registers ∨ ∃ unit pdu, e = .request unit pdu ∧ t.bank.Writes unit pdu r := by
  cases e with
  | request unit pdu =>
    obtain rfl := Except.ok.inj h
    rcases Bank.mem_serve_or_writes hr unit pdu with hkept | hwrites
    · exact .inl hkept
    · exact .inr ⟨unit, pdu, rfl, hwrites⟩
  | tick now elapsed =>
    -- Whether the tick acknowledges or not, it leaves zero where it has found it.
    obtain ⟨beat, hticks⟩ := step_tick_iff.1 h
    have hmem := hticks.mem_acknowledge hr haddress
    rw [← hzero, ite_self] at hmem
    exact .inl hmem

/-- A zero stays in the register all along a run, or some request of the run writes it. -/
theorem kept_or_written {es : List Event} (h : t.after es = .ok t') (hr : r ∈ t.bank.registers)
    (haddress : r.address = Point.acknowledgeCommand) (hzero : r.value = Value.zero r.kind) :
    r ∈ t'.bank.registers ∨
      ∃ pre unit pdu post u, es = pre ++ .request unit pdu :: post ∧ t.after pre = .ok u ∧
        r ∈ u.bank.registers ∧ u.bank.Writes unit pdu r := by
  induction es generalizing t with
  | nil =>
    obtain rfl := after_nil_iff.1 h
    exact .inl hr
  | cons e es ih =>
    obtain ⟨u, hstep, hrest⟩ := after_cons_iff.1 h
    rcases step_keeps_or_writes hstep hr haddress hzero with hkept | ⟨unit, pdu, rfl, hwrites⟩
    · -- The event is the first one of the run before the request that is found later.
      rcases ih hrest hkept with hkept' | ⟨pre, unit, pdu, post, v, rfl, hpre, hmem, hwrites⟩
      · exact .inl hkept'
      · have hpre' : t.after (e :: pre) = .ok v := after_cons_iff.2 ⟨u, hstep, hpre⟩
        exact .inr ⟨e :: pre, unit, pdu, post, v, rfl, hpre', hmem, hwrites⟩
    · exact .inr ⟨[], unit, pdu, es, t, rfl, after_nil_iff.2 rfl, hr, hwrites⟩

end Twin

/-- **An acknowledgement is for one error.**  A tick acknowledges exactly if there is an error and
    the code for it in the register of the acknowledgement.  Then it leaves zero in that register,
    of whatever kind it is, and before a later tick acknowledges again a client has written a word
    of the register, by a request that was carried out.  A tick that does not acknowledge leaves the
    register as it was. -/
theorem acknowledged_once {t₁ t₂ : Twin} {now : DateTime} {elapsed : Float} {beat : Beat}
    (h : t₁.TicksTo now elapsed beat t₂) :
    (beat.transition.acknowledged = true ↔
      t₁.engine.state = .error ∧ t₁.bank.Holds Point.acknowledgeCommand 26) ∧
    (beat.transition.acknowledged = true →
      (∃ r ∈ t₁.bank.registers, r.address = Point.acknowledgeCommand ∧
        { r with value := Value.zero r.kind } ∈ t₂.bank.registers) ∧
      ∀ (between : List Twin.Event) (t₃ t₄ : Twin) (now' : DateTime) (elapsed' : Float)
        (beat' : Beat), t₂.after between = .ok t₃ → t₃.TicksTo now' elapsed' beat' t₄ →
        beat'.transition.acknowledged = true →
        ∃ pre unit pdu post u r, between = pre ++ .request unit pdu :: post ∧
          t₂.after pre = .ok u ∧ r ∈ u.bank.registers ∧
          r.address = Point.acknowledgeCommand ∧ u.bank.Writes unit pdu r) ∧
    (beat.transition.acknowledged = false →
      ∀ r ∈ t₁.bank.registers, r.address = Point.acknowledgeCommand → r ∈ t₂.bank.registers) := by
  refine ⟨?_, ?_, ?_⟩
  · rw [h.acknowledged]
    exact Twin.acknowledges_iff
  · intro hused
    rw [h.acknowledged, Twin.acknowledges_iff] at hused
    obtain ⟨v, hv, -⟩ := Option.map_eq_some_iff.1 hused.2
    obtain ⟨r, hr, haddress, -⟩ := Bank.exists_mem_of_logical? hv
    have hzero : { r with value := Value.zero r.kind } ∈ t₂.bank.registers := by
      have hmem := h.mem_acknowledge hr haddress
      rwa [h.acknowledged, Twin.acknowledges_iff.2 hused, if_pos rfl] at hmem
    refine ⟨⟨r, hr, haddress, hzero⟩, ?_⟩
    intro between t₃ t₄ now' elapsed' beat' hbetween hticks hused'
    rw [hticks.acknowledged, Twin.acknowledges_iff] at hused'
    rcases Twin.kept_or_written hbetween hzero haddress rfl with hkept | hwritten
    · -- What is still there is zero, and not the code.
      have hholds : t₃.bank.Holds Point.acknowledgeCommand 0 := by
        rw [Bank.Holds, ← haddress, Bank.logical?_of_mem hkept]
        rfl
      exact absurd (hholds.inj hused'.2) (by decide)
    · obtain ⟨pre, unit, pdu, post, u, hsplit, hpre, hmem, hwrites⟩ := hwritten
      exact ⟨pre, unit, pdu, post, u, _, hsplit, hpre, hmem, haddress, hwrites⟩
  · intro hunused r hr haddress
    have hmem := h.mem_acknowledge hr haddress
    rwa [hunused, if_neg Bool.false_ne_true] at hmem

/-- A twin in an error, with the code of the acknowledgement and the command to stop. -/
def faultyTwin : Twin where
  engine := faultyEngine
  bank :=
    { registers :=
        [ ⟨40009, .clamp .u32 381, .enumeration, .readWrite, "operating command"⟩,
          ⟨40011, .clamp .u16 26, .enumeration, .readWrite, "acknowledgement"⟩ ]
      wellLaid := ⟨by decide, by decide⟩ }

theorem acknowledged_once_faultyTwin :
    ∃ beat t', faultyTwin.TicksTo ⟨⟨2024, 6, 20⟩, 12, 0, 0⟩ 5.0 beat t' ∧
      beat.transition.acknowledged = true ∧ t'.bank.Holds Point.acknowledgeCommand 0 := by
  have hholds : faultyTwin.bank.Holds Point.acknowledgeCommand 26 := by decide +kernel
  obtain ⟨t', hstep⟩ := exists_ok
    (x := faultyTwin.step (.tick ⟨⟨2024, 6, 20⟩, 12, 0, 0⟩ 5.0)) (by decide +kernel)
  obtain ⟨beat, hticks⟩ := Twin.step_tick_iff.1 hstep
  obtain ⟨hiff, hclears, -⟩ := acknowledged_once hticks
  have hused : beat.transition.acknowledged = true := hiff.2 ⟨rfl, hholds⟩
  obtain ⟨⟨r, hr, haddress, hzero⟩, -⟩ := hclears hused
  refine ⟨beat, t', hticks, hused, ?_⟩
  rw [Bank.Holds, ← haddress, Bank.logical?_of_mem hzero]
  rfl

end SolarTwin.Plant

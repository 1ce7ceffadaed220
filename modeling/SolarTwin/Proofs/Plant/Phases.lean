import SolarTwin.Proofs.Modbus.ReadingBack
import SolarTwin.Proofs.Plant.Hours
import SolarTwin.Proofs.Plant.Runs
import SolarTwin.Proofs.Plant.Status
import SolarTwin.Proofs.Plant.Watts
import SolarTwin.Proofs.Profile.Starting

namespace SolarTwin

open Binary64 Modbus

/-!
# The phases add up for a client

A tick publishes the power and its phases, and clients read what their registers hold.  Whole watts
pass through all of this unchanged: scaling, rounding, the bounds of the registers, and words.

* `Bank.Reads` — what a client gets that reads from an address on;
* `Bank.readFrom_of_logical?` and `Bank.readFrom_append` — the words of a register, and of registers
  that lie side by side;
* `Plant.Shows` — a value shows a quantity as it is;
* `Plant.Balanced.addUp` — values that show balanced phases add up;
* `Plant.phases_add_up` — so do those that a client reads, after each tick of a run.
-/

/-! ### What clients read -/

namespace Bank

variable {b : Bank} {x : UInt16}

/-- A client of any unit that reads words from an address on, where input registers are, gets
    these. -/
def Reads (b : Bank) (x : UInt16) (ws : List UInt16) : Prop :=
  ∃ wire, Function.readInput.wire? x = some wire ∧ ∀ unit, ∃ a,
    (b.serve unit (Request.read unit .readInput wire (.ofNat ws.length)).encode).result = .ok a ∧
      a.reply = ⟨unit, 4, .registers ws⟩

/-- A client gets the words that are there. -/
theorem reads_of_readFrom {ws : List UInt16} (hx : 30001 ≤ x.toNat) (hpos : 0 < ws.length)
    (hmax : ws.length ≤ 125) (hread : b.readFrom x.toNat ws.length = .ok ws) : b.Reads x ws := by
  have hcount : (UInt16.ofNat ws.length).toNat = ws.length := by
    rw [UInt16.toNat_ofNat', Nat.mod_eq_of_lt (by omega)]
  have hwire : (UInt16.ofNat (x.toNat - 30001)).toNat = x.toNat - 30001 := by
    have := x.toNat_lt
    rw [UInt16.toNat_ofNat', Nat.mod_eq_of_lt (by omega)]
  have hlogical : Function.readInput.logical (UInt16.ofNat (x.toNat - 30001)) = x.toNat := by
    rw [Function.logical, hwire]
    exact Nat.sub_add_cancel hx
  refine ⟨UInt16.ofNat (x.toNat - 30001), if_pos hx, fun unit => ?_⟩
  refine exists_reply_of_readFrom rfl (by omega) (by omega) ?_ unit
  rw [hlogical, hcount]
  exact hread

/-- The words from the address of a register on are those of its value. -/
theorem readFrom_of_logical? {v : Value} (h : b.logical? x = some v) :
    b.readFrom x.toNat v.words.length = .ok v.words := by
  obtain ⟨r, hr, rfl, rfl⟩ := exists_mem_of_logical? h
  rw [readFrom_eq_ok_iff]
  refine List.ext_getElem (by simp) fun i hi hi' => ?_
  rw [List.length_map] at hi'
  have hwidth : i < r.width := by
    rw [Value.length_words] at hi'
    exact hi'
  rw [List.getElem_map, List.getElem_range, List.getElem_map, wordAt?_of_mem hr hwidth]
  exact List.getElem?_eq_getElem hi'

/-- Blocks side by side are one block. -/
theorem readFrom_append {start : Nat} {ws vs : List UInt16}
    (hws : b.readFrom start ws.length = .ok ws)
    (hvs : b.readFrom (start + ws.length) vs.length = .ok vs) :
    b.readFrom start (ws ++ vs).length = .ok (ws ++ vs) := by
  rw [readFrom_eq_ok_iff] at hws hvs ⊢
  rw [List.length_append, List.range_add, List.map_append, List.map_append, hws, List.map_map,
    ← hvs]
  congr 2
  funext i
  exact congrArg _ (Nat.add_assoc ..).symm

end Bank

namespace Plant

/-! ### Values that show quantities -/

/-- A value shows a quantity as it is: the same whole number, or zero for a NaN. -/
def Shows (v : Value) (quantity : Float) : Prop :=
  value? quantity = some (v.number : ℚ) ∨ parts quantity = .nan ∧ v.number = 0

/-- What a register of 32 bits without decimals gets of a quantity. -/
def watts (quantity : Float) : Value := Value.clamp .s32 (Format.fix0.toRaw quantity)

/-- Whole numbers in range are not changed. -/
private theorem number_watts {quantity : Float} {n : ℤ} (hvalue : value? quantity = some (n : ℚ))
    (hn : |n| ≤ 2147483647) : (watts quantity).number = n := by
  have hraw : Format.fix0.toRaw quantity = n := Format.toRaw_of_value? rfl hvalue (by omega)
  obtain ⟨hlo, hhi⟩ := abs_le.1 hn
  have hleast : Kind.s32.lo = -2147483648 := by decide
  have hgreatest : Kind.s32.hi = 2147483647 := by decide
  simp only [watts, Value.clamp, hraw, hleast, hgreatest]
  omega

/-- A NaN counts as nothing. -/
private theorem number_watts_of_nan {quantity : Float} (hnan : parts quantity = .nan) :
    (watts quantity).number = 0 := by
  have hraw : Format.fix0.toRaw quantity = 0 := Format.toRaw_of_nan hnan
  simp only [watts, hraw]
  rfl

/-- Four values that show a power and its phases: the phases add up to the power, and none of the
    values has been cut off. -/
structure AddUp (total l1 l2 l3 : Value) (power : Float) (x : Phases) : Prop where
  sum : l1.number + l2.number + l3.number = total.number
  total : Shows total power
  l1 : Shows l1 x.l1
  l2 : Shows l2 x.l2
  l3 : Shows l3 x.l3

/-- Balanced phases add up in their registers. -/
theorem Balanced.addUp {power : Float} {x : Phases} (h : Balanced 2147483647 power x) :
    AddUp (watts power) (watts x.l1) (watts x.l2) (watts x.l3) power x := by
  cases h with
  | numbers n n1 n2 hn hn1 hn2 hpower hl1 hl2 hl3 =>
    have hnumber := number_watts hpower (abs_le.2 (by omega))
    have hnumber1 := number_watts hl1 (abs_le.2 (by omega))
    have hnumber2 := number_watts hl2 (abs_le.2 (by omega))
    have hnumber3 := number_watts hl3 (abs_le.2 (by omega))
    exact
      { sum := by omega
        total := .inl (hnumber ▸ hpower)
        l1 := .inl (hnumber1 ▸ hl1)
        l2 := .inl (hnumber2 ▸ hl2)
        l3 := .inl (hnumber3 ▸ hl3) }
  | nans hpower hl1 hl2 hl3 =>
    have hnumber := number_watts_of_nan hpower
    have hnumber1 := number_watts_of_nan hl1
    have hnumber2 := number_watts_of_nan hl2
    have hnumber3 := number_watts_of_nan hl3
    exact
      { sum := by omega
        total := .inr ⟨hpower, hnumber⟩
        l1 := .inr ⟨hl1, hnumber1⟩
        l2 := .inr ⟨hl2, hnumber2⟩
        l3 := .inr ⟨hl3, hnumber3⟩ }

/-! ### After a tick -/

/-- The points of the power and of its phases. -/
def Point.acPowers : List UInt16 := [acPower, acPowerL1, acPowerL2, acPowerL3]

/-- They lie among the input registers, where clients cannot write. -/
theorem Point.input_of_acPowers {x : UInt16} (hx : x ∈ acPowers) :
    30001 ≤ x.toNat ∧ x.toNat + 4 ≤ Bank.holdingBase := by
  simp only [acPowers, List.mem_cons, List.not_mem_nil, or_false] at hx
  rcases hx with rfl | rfl | rfl | rfl <;> decide

/-- Four values of 32 bits at these points are read one by one or in one block. -/
private theorem reads_acPowers {b : Bank} {total l1 l2 l3 : Value} (hkind : total.kind = .s32)
    (hkind1 : l1.kind = .s32) (hkind2 : l2.kind = .s32) (hkind3 : l3.kind = .s32)
    (htotal : b.logical? Point.acPower = some total) (hl1 : b.logical? Point.acPowerL1 = some l1)
    (hl2 : b.logical? Point.acPowerL2 = some l2) (hl3 : b.logical? Point.acPowerL3 = some l3) :
    (b.Reads Point.acPower total.words ∧ b.Reads Point.acPowerL1 l1.words ∧
      b.Reads Point.acPowerL2 l2.words ∧ b.Reads Point.acPowerL3 l3.words) ∧
    b.Reads Point.acPower (total.words ++ (l1.words ++ (l2.words ++ l3.words))) := by
  have hwords {v : Value} (hv : v.kind = .s32) : v.words.length = 2 := by
    rw [Value.length_words, hv]
    rfl
  have hreads (x : UInt16) (hx : x ∈ Point.acPowers) (v : Value) (hv : v.kind = .s32)
      (hvalue : b.logical? x = some v) : b.Reads x v.words :=
    Bank.reads_of_readFrom (Point.input_of_acPowers hx).1 (by rw [hwords hv]; decide)
      (by rw [hwords hv]; decide) (Bank.readFrom_of_logical? hvalue)
  refine ⟨⟨hreads _ (by decide) _ hkind htotal, hreads _ (by decide) _ hkind1 hl1,
    hreads _ (by decide) _ hkind2 hl2, hreads _ (by decide) _ hkind3 hl3⟩, ?_⟩
  -- Each register begins where the one before it ends.
  have hnext2 : Point.acPowerL3.toNat = Point.acPowerL2.toNat + l2.words.length := by
    rw [hwords hkind2]
    decide
  have hnext1 : Point.acPowerL2.toNat = Point.acPowerL1.toNat + l1.words.length := by
    rw [hwords hkind1]
    decide
  have hnext : Point.acPowerL1.toNat = Point.acPower.toNat + total.words.length := by
    rw [hwords hkind]
    decide
  have hblock2 := Bank.readFrom_append (Bank.readFrom_of_logical? hl2)
    (hnext2 ▸ Bank.readFrom_of_logical? hl3)
  have hblock1 := Bank.readFrom_append (Bank.readFrom_of_logical? hl1) (hnext1 ▸ hblock2)
  have hblock := Bank.readFrom_append (Bank.readFrom_of_logical? htotal) (hnext ▸ hblock1)
  have hlength : (total.words ++ (l1.words ++ (l2.words ++ l3.words))).length = 8 := by
    simp only [List.length_append, hwords, hkind, hkind1, hkind2, hkind3]
  exact Bank.reads_of_readFrom (Point.input_of_acPowers (by decide)).1 (by omega) (by omega) hblock

namespace Twin

variable {t t' : Twin}

/-- No event changes the parameters. -/
theorem parameters_of_stepped (h : t.Stepped t') : t'.engine.parameters = t.engine.parameters := by
  cases h with
  | request unit pdu => rfl
  | tick hticked => exact hticked.parameters

/-- The phases of every tick are balanced. -/
theorem balanced_of_pass {p : Pass} {now : DateTime} {elapsed : Float}
    (hchecked : t.engine.parameters.fault? = none)
    (hrated : t.engine.parameters.ratedPower ≤ 2147483647.0)
    (himbalance : t.engine.parameters.phaseImbalance ≤ 100.0)
    (hpass : t.pass now elapsed = .ok p) :
    Balanced 2147483647 p.summary.power p.summary.phases := by
  have hzero : value? 0.0 = some 0 := by decide +kernel
  have hlimit : value? 2147483647.0 = some 2147483647 := by decide +kernel
  have hpercent : value? 100.0 = some 100 := by decide +kernel
  have hsound := Parameters.fault?_eq_none_iff_sound.1 hchecked
  obtain ⟨rated, hvalue, hpos, hle⟩ := within_of_le hzero hlimit (le_of_lt hsound.ratedPower) hrated
  have himbalance := within_of_le hzero hpercent hsound.phaseImbalance himbalance
  unfold pass at hpass
  cases htick : t.engine.tick t.bank now elapsed with
  | error halt =>
    rw [htick] at hpass
    cases hpass
  | ok r =>
    obtain ⟨summary, engine, board⟩ := r
    obtain ⟨beat, next, source, hbeat, hsummary, -⟩ := Engine.exists_beat_eq_ok htick
    rw [htick] at hpass
    obtain rfl := Except.ok.inj hpass
    rw [hsummary]
    exact (t.engine.beat_balanced hvalue hpos (by exact_mod_cast hle) (by decide) himbalance _ now
      elapsed).of_eq_ok hbeat

/-- What a tick publishes in a register of 32 bits without decimals is there until the next one. -/
theorem Pass.Made.logical?_served {p : Pass} {beat : Beat} (h : p.Made beat) {x : UInt16}
    {quantity : Float} (hpoint : (x, quantity) ∈ beat.points) (hx : x.toNat + 4 ≤ Bank.holdingBase)
    (hregister : ∃ r ∈ p.before.bank.registers, r.address = x ∧ r.kind = .s32 ∧ r.format = .fix0)
    (requests : List (UInt8 × List UInt8)) :
    (p.after.served requests).bank.logical? x = some (watts quantity) := by
  obtain ⟨r, hr, rfl, hkind, hformat⟩ := hregister
  have hbank : (Board.publishBeat ⟨p.before.bank, []⟩ beat).bank = p.after.bank :=
    congrArg Board.bank h.board
  have hslot : r.slot.nearest (Slot.scaled quantity) = watts quantity := by
    have hkind' : r.slot.kind = .s32 := hkind
    have hformat' : r.slot.format = .fix0 := hformat
    rw [Slot.nearest, Slot.scaled, hkind', hformat', watts]
  rw [Twin.served, Bank.logical?_served _ hx, ← hbank, Board.logical?_publishBeat_of_mem _ _ hpoint,
    Bank.slot?_of_mem hr, Option.map_some, hslot]

end Twin

/-- **The phases add up for a client.**  In every run of a twin with checked parameters, a rated
    power that fits 32 bits with sign and an imbalance of 100 percent at most, whose registers for
    the power and its phases have this size and no decimals: after each tick and until the next one,
    whatever clients request, they read a power and three phases, one by one or all in one block,
    and the phases add up to the power to the watt.  Each of the four numbers is the quantity that
    the tick has computed, so none of them has been cut off; a NaN reads as zero. -/
theorem phases_add_up {t : Twin} (hchecked : t.engine.parameters.fault? = none)
    (hrated : t.engine.parameters.ratedPower ≤ 2147483647.0)
    (himbalance : t.engine.parameters.phaseImbalance ≤ 100.0)
    (hregisters : ∀ x ∈ Point.acPowers, ∃ r ∈ t.bank.registers,
      r.address = x ∧ r.kind = .s32 ∧ r.format = .fix0) (es : List Twin.Event) :
    ∀ t' ∈ t.visited es, ∀ now elapsed pass, t'.pass now elapsed = .ok pass → ∀ requests,
      let seen := (pass.after.served requests).bank
      ∃ total l1 l2 l3, (∀ v ∈ [total, l1, l2, l3], v.kind = .s32) ∧
        AddUp total l1 l2 l3 pass.summary.power pass.summary.phases ∧
        (seen.Reads Point.acPower total.words ∧ seen.Reads Point.acPowerL1 l1.words ∧
          seen.Reads Point.acPowerL2 l2.words ∧ seen.Reads Point.acPowerL3 l3.words) ∧
        seen.Reads Point.acPower (total.words ++ (l1.words ++ (l2.words ++ l3.words))) := by
  intro t' ht' now elapsed pass hpass requests seen
  -- The run changes neither the parameters nor where the registers are.
  have hkept : t'.engine.parameters = t.engine.parameters ∧ t'.bank.slots = t.bank.slots :=
    Twin.forall_mem_visited
      (P := fun t' => t'.engine.parameters = t.engine.parameters ∧ t'.bank.slots = t.bank.slots)
      (fun hstepped hkept => ⟨(Twin.parameters_of_stepped hstepped).trans hkept.1,
        (Twin.slots_of_stepped hstepped).trans hkept.2⟩) ⟨rfl, rfl⟩ es t' ht'
  have hbalanced : Balanced 2147483647 pass.summary.power pass.summary.phases := by
    refine Twin.balanced_of_pass ?_ ?_ ?_ hpass <;> rw [hkept.1] <;> assumption
  obtain ⟨rfl, beat, hmade⟩ := Twin.exists_made hpass
  have hregister : ∀ x ∈ Point.acPowers, ∃ r ∈ pass.before.bank.registers,
      r.address = x ∧ r.kind = .s32 ∧ r.format = .fix0 := by
    intro x hx
    obtain ⟨r, hr, rfl, hkind, hformat⟩ := hregisters x hx
    obtain ⟨s, hs, hslot⟩ := Bank.exists_mem_of_slots hkept.2 hr
    exact ⟨s, hs, congrArg Slot.address hslot, (congrArg Slot.kind hslot).trans hkind,
      (congrArg Slot.format hslot).trans hformat⟩
  have hshown (x : UInt16) (quantity : Float) (hpoint : (x, quantity) ∈ beat.points)
      (hx : x ∈ Point.acPowers) : seen.logical? x = some (watts quantity) :=
    hmade.logical?_served hpoint (Point.input_of_acPowers hx).2 (hregister x hx) requests
  rw [hmade.summary] at hbalanced ⊢
  refine ⟨_, _, _, _, ?_, hbalanced.addUp, ?_⟩
  · simp only [List.forall_mem_cons]
    exact ⟨rfl, rfl, rfl, rfl, fun v hv => nomatch hv⟩
  · exact reads_acPowers rfl rfl rfl rfl
      (hshown _ _ (by simp [Beat.points]) (by decide))
      (hshown _ _ (by simp [Beat.points]) (by decide))
      (hshown _ _ (by simp [Beat.points]) (by decide))
      (hshown _ _ (by simp [Beat.points]) (by decide))

/-- A bank with the power and its phases, and with the operating command. -/
def powerBank : Bank where
  registers :=
    [ .zero 30775 .s32 .fix0 .readOnly, .zero 30777 .s32 .fix0 .readOnly,
      .zero 30779 .s32 .fix0 .readOnly, .zero 30781 .s32 .fix0 .readWrite,
      .zero 40009 .u32 .enumeration .readWrite ]
  wellLaid := ⟨by decide, by decide⟩

/-- A plant that works, with this bank and the greatest rated power and imbalance. -/
def powerTwin : Twin :=
  ⟨.initial { ratedPower := 2147483647.0, phaseImbalance := 100.0 } (.ofSeed 7), powerBank⟩

/-- The command to start, for the register of the operating command. -/
def startRequest : List UInt8 := [16, 0, 8, 0, 2, 4, 0, 0, 1, 39]

/-- The plant when it has the command to start. -/
def startedTwin : Twin := powerTwin.served [(3, startRequest)]

/-- The plant is started and works through a tick at noon.  Before the phases are read, one client
    gives the command to stop, and another one tries to write a phase. -/
theorem phases_add_up_powerTwin :
    powerTwin.engine.parameters.fault? = none ∧
    powerTwin.engine.parameters.ratedPower ≤ 2147483647.0 ∧
    powerTwin.engine.parameters.phaseImbalance ≤ 100.0 ∧
    (∀ x ∈ Point.acPowers, ∃ r ∈ powerTwin.bank.registers,
      r.address = x ∧ r.kind = .s32 ∧ r.format = .fix0) ∧
    startedTwin ∈ powerTwin.visited [.request 3 startRequest] ∧
    ∃ pass, startedTwin.pass ⟨⟨2024, 6, 20⟩, 12, 0, 0⟩ 5.0 = .ok pass ∧
      pass.summary.state = .ok ∧
      ∃ total l1 l2 l3 : Value,
        AddUp total l1 l2 l3 pass.summary.power pass.summary.phases ∧
        (pass.after.served [(1, [6, 0, 9, 1, 125]), (2, [6, 120, 61, 0, 9])]).bank.Reads
          Point.acPower (total.words ++ (l1.words ++ (l2.words ++ l3.words))) := by
  have hchecked : powerTwin.engine.parameters.fault? = none :=
    (Parameters.fault?_eq_none_iff _).2 (by decide +kernel)
  have hrated : powerTwin.engine.parameters.ratedPower ≤ 2147483647.0 := by decide +kernel
  have himbalance : powerTwin.engine.parameters.phaseImbalance ≤ 100.0 := by decide +kernel
  have hregisters : ∀ x ∈ Point.acPowers, ∃ r ∈ powerTwin.bank.registers,
      r.address = x ∧ r.kind = .s32 ∧ r.format = .fix0 := by
    intro x hx
    simp only [Point.acPowers, List.mem_cons, List.not_mem_nil, or_false] at hx
    rcases hx with rfl | rfl | rfl | rfl <;> simp [powerTwin, powerBank] <;> decide
  have hvisited : startedTwin ∈ powerTwin.visited [.request 3 startRequest] :=
    List.mem_cons_of_mem _ List.mem_cons_self
  have htame : startedTwin.engine.parameters.Tame :=
    ⟨⟨by decide +kernel, by decide +kernel, by decide +kernel⟩, by decide +kernel⟩
  have hcarry : 0.0 ≤ startedTwin.engine.carries.closed := by decide +kernel
  have htime : startedTwin.engine.gridTime 5.0 ≤ longest := by decide +kernel
  obtain ⟨pass, hpass⟩ := Twin.exists_pass (t := startedTwin) hchecked htame hcarry htime
    ⟨⟨2024, 6, 20⟩, 12, 0, 0⟩
  -- The device runs no risk, so with the command to start it goes on working.
  have hworks : pass.summary.state = .ok := by
    obtain ⟨hbefore, beat, hmade⟩ := Twin.exists_made hpass
    have hmoved := hmade.moved
    rw [hbefore] at hmoved
    have hstate := hmoved.state_eq_ok rfl (by decide +kernel) (by decide +kernel)
    rw [hmade.summary, hmoved.summary, ← hmoved.state, hstate]
  obtain ⟨total, l1, l2, l3, -, haddUp, -, hreads⟩ :=
    phases_add_up hchecked hrated himbalance hregisters [.request 3 startRequest] startedTwin
      hvisited _ _ pass hpass _
  exact ⟨hchecked, hrated, himbalance, hregisters, hvisited, pass, hpass, hworks, total, l1, l2, l3,
    haddUp, hreads⟩

end Plant

end SolarTwin

import SolarTwin.Proofs.Modbus.Isolation
import SolarTwin.Proofs.Plant.Frame

namespace SolarTwin

/-!
# The published status tells the state

A tick publishes codes for the state of the device and for its contactor.  Every kind of register
can hold them, a format without decimals does not scale them, and clients cannot write where they
are.  So between two ticks both registers tell the truth, whatever is requested.

* `Bank.Holds`, `Bank.Whole` — the number in a register; a register without decimals;
* `Plant.IsCode` — the numbers that every such register holds as they are;
* `Plant.Board.holds_publishBeat` — a code that is published is there;
* `Plant.Twin.Shows` — what the two registers show, after a tick and after what clients request;
* `Plant.status_tells_state` — so it is along every run.
-/

/-! ### Numbers in registers -/

namespace Bank

variable {b b' : Bank} {x : UInt16}

/-- The register that starts at an address holds a number. -/
def Holds (b : Bank) (x : UInt16) (n : Nat) : Prop := (b.logical? x).map (·.number) = some (n : Int)

instance (b : Bank) (x : UInt16) (n : Nat) : Decidable (b.Holds x n) :=
  inferInstanceAs (Decidable (_ = _))

/-- A register holds one number only. -/
theorem Holds.inj {n n' : Nat} (h : b.Holds x n) (h' : b.Holds x n') : n = n' :=
  Int.ofNat.inj (Option.some.inj (h.symm.trans h'))

/-- A register starts at an address, and its format has no decimals. -/
def Whole (b : Bank) (x : UInt16) : Prop :=
  ∃ r ∈ b.registers, r.address = x ∧ r.format.decimals = 0

theorem Whole.of_slots (h : b.Whole x) (hslots : b'.slots = b.slots) : b'.Whole x := by
  obtain ⟨r, hr, rfl, hdecimals⟩ := h
  obtain ⟨s, hs, hslot⟩ := exists_mem_of_slots hslots hr
  have hformat : s.format = r.format := congrArg Slot.format hslot
  refine ⟨s, hs, congrArg Slot.address hslot, ?_⟩
  rw [hformat, hdecimals]

end Bank

namespace Plant

/-! ### Codes -/

/-- A number that is the same after a double has stood for it, and that every kind has. -/
structure IsCode (n : Nat) : Prop where
  exact : Format.raw.toRaw (Binary64.ofInt n) = n
  small : n ≤ 32767

private theorem State.isCode_status (s : State) : IsCode s.status := by
  cases s <;> exact ⟨by decide +kernel, by decide⟩

private theorem isCode_contactorStatus (closed : Bool) : IsCode (contactorStatus closed) := by
  cases closed <;> exact ⟨by decide +kernel, by decide⟩

/-- Every register without decimals takes a code as it is. -/
theorem IsCode.number_nearest {n : Nat} (hn : IsCode n) {s : Slot} (hs : s.format.decimals = 0) :
    (s.nearest (Slot.scaled (Binary64.ofInt n))).number = n := by
  have hscale : s.format.scale = Format.raw.scale := by
    rw [Format.scale, hs]
    rfl
  have hraw : s.format.toRaw (Binary64.ofInt n) = n := by
    rw [Format.toRaw, hscale]
    exact hn.exact
  have hlo := s.kind.lo_le_zero
  have hhi : 32767 ≤ s.kind.hi := by
    cases s.kind <;> decide
  have hsmall := hn.small
  simp only [Slot.nearest, Slot.scaled, Value.clamp, hraw]
  omega

namespace Board

variable (b : Board) {x : UInt16}

/-- A code that a tick publishes is there afterwards. -/
theorem holds_publishBeat (t : Beat) {n : Nat} (hn : IsCode n)
    (hpoint : (x, Binary64.ofInt n) ∈ t.points) (hx : b.bank.Whole x) :
    (b.publishBeat t).bank.Holds x n := by
  obtain ⟨r, hr, rfl, hdecimals⟩ := hx
  rw [Bank.Holds, b.logical?_publishBeat_of_mem t hpoint, Bank.slot?_of_mem hr, Option.map_some,
    Option.map_some, hn.number_nearest hdecimals]

/-- A command is read as the number that its register holds. -/
theorem command?_of_holds {n : UInt32} (h : b.bank.Holds x n.toNat) : b.command? x = some n := by
  obtain ⟨v, hv, hnumber⟩ := Option.map_eq_some_iff.1 h
  have hnat : v.toNat? = some n.toNat := by
    rw [Value.toNat?, hnumber]
    rfl
  simp only [command?, hv, Option.bind_some, hnat, n.toNat_lt, if_true, UInt32.ofNat_toNat]

end Board

/-! ### After a tick and between ticks -/

namespace Twin

variable {t t' : Twin}

/-- A twin after the bytes of some clients have been served. -/
def served (t : Twin) (requests : List (UInt8 × List UInt8)) : Twin :=
  { t with bank := t.bank.served requests }

/-- The registers for the status and for the contactor show the state of the device and whether the
    contactor is closed, which it is only where the device works. -/
structure Shows (t : Twin) (closed : Bool) : Prop where
  status : t.bank.Holds Point.deviceStatus t.engine.state.status
  contactor : t.bank.Holds Point.gridContactor (contactorStatus closed)
  works : closed = true → t.engine.state = .ok

/-- A tick makes the registers show what it has come to. -/
theorem Pass.Made.shows {p : Pass} {beat : Beat} (h : p.Made beat)
    (hstatus : p.before.bank.Whole Point.deviceStatus)
    (hcontactor : p.before.bank.Whole Point.gridContactor) :
    p.after.Shows p.summary.contactorClosed := by
  have hstate : p.after.engine.state = beat.summary.state :=
    h.moved.state.trans h.moved.summary.symm
  have hbank : (Board.publishBeat ⟨p.before.bank, []⟩ beat).bank = p.after.bank :=
    congrArg Board.bank h.board
  rw [h.summary]
  refine ⟨?_, ?_, fun hclosed => h.moved.state.trans (h.moved.closed hclosed)⟩
  · rw [← hbank, hstate]
    exact Board.holds_publishBeat _ beat beat.summary.state.isCode_status (by simp [Beat.points])
      hstatus
  · rw [← hbank]
    exact Board.holds_publishBeat _ beat (isCode_contactorStatus _) (by simp [Beat.points])
      hcontactor

/-- Clients cannot make the registers show anything else. -/
theorem Shows.served {closed : Bool} (h : t.Shows closed) (requests : List (UInt8 × List UInt8)) :
    (t.served requests).Shows closed where
  status := by
    rw [Bank.Holds, Twin.served, Bank.logical?_served _ (by decide)]
    exact h.status
  contactor := by
    rw [Bank.Holds, Twin.served, Bank.logical?_served _ (by decide)]
    exact h.contactor
  works := h.works

/-- Whatever happens, the slots of the bank stay. -/
theorem slots_of_stepped (h : t.Stepped t') : t'.bank.slots = t.bank.slots := by
  cases h with
  | request unit pdu => exact Bank.slots_serve t.bank unit pdu
  | @tick _ beat _ _ =>
    have hpublishes := Board.publishBeat_publishes ⟨t.bank, []⟩ beat
    dsimp only
    exact hpublishes.slots

end Twin

/-- **The published status tells the state.**  In every run of a twin whose registers for the status
    and for the contactor have no decimals, after each tick and until the next one, whatever clients
    request, the one holds the code of the state of the engine and the other one 51 or 311, and 51
    only where the first one holds 307.  A tick that finds the command to stop leaves the engine off
    and its contactor open, and both registers say so. -/
theorem status_tells_state {t : Twin} (hstatus : t.bank.Whole Point.deviceStatus)
    (hcontactor : t.bank.Whole Point.gridContactor) (es : List Twin.Event) :
    ∀ t' ∈ t.visited es, ∀ now elapsed pass, t'.pass now elapsed = .ok pass → ∀ requests,
      let seen := pass.after.served requests
      seen.bank.Holds Point.deviceStatus seen.engine.state.status ∧
      (seen.bank.Holds Point.gridContactor 51 ∨ seen.bank.Holds Point.gridContactor 311) ∧
      (seen.bank.Holds Point.gridContactor 51 → seen.bank.Holds Point.deviceStatus 307) ∧
      (t'.bank.Holds Point.operatingCommand 381 →
        seen.engine.state = .off ∧ seen.bank.Holds Point.deviceStatus 303 ∧
        seen.bank.Holds Point.gridContactor 311 ∧ pass.summary.contactorClosed = false) := by
  intro t' ht' now elapsed pass hpass requests seen
  -- The run leaves both registers where they are, and without decimals.
  have hslots : t'.bank.slots = t.bank.slots :=
    Twin.forall_mem_visited (P := fun t' => t'.bank.slots = t.bank.slots)
      (fun hstepped hslots => (Twin.slots_of_stepped hstepped).trans hslots) rfl es t' ht'
  obtain ⟨rfl, beat, hmade⟩ := Twin.exists_made hpass
  have hshows : seen.Shows pass.summary.contactorClosed :=
    (hmade.shows (hstatus.of_slots hslots) (hcontactor.of_slots hslots)).served requests
  refine ⟨hshows.status, ?_, fun hclosed => ?_, fun hstop => ?_⟩
  · have hcontactor := hshows.contactor
    cases hclosed : pass.summary.contactorClosed <;> rw [hclosed] at hcontactor
    · exact .inr hcontactor
    · exact .inl hcontactor
  · -- An open contactor would show another code.
    have hworks : seen.engine.state = .ok := by
      refine hshows.works ?_
      have hcode := hshows.contactor.inj hclosed
      cases hopen : pass.summary.contactorClosed with
      | true => rfl
      | false =>
        rw [hopen] at hcode
        cases hcode
    have hshown := hshows.status
    rwa [hworks] at hshown
  · have hcommand : pass.before.commands.operating = Commands.stop := by
      have hread : Board.command? ⟨pass.before.bank, []⟩ Point.operatingCommand = some 381 :=
        Board.command?_of_holds _ hstop
      simp [Twin.commands, Board.commands, hread, Commands.stop]
    -- The state is off whatever it was and whatever is drawn, so the contactor cannot be closed.
    have hoff : seen.engine.state = .off := hmade.moved.state_eq_off hcommand
    have hopen : pass.summary.contactorClosed = false := by
      rw [← Bool.not_eq_true]
      intro hclosed
      have hworks := hshows.works hclosed
      rw [hoff] at hworks
      cases hworks
    have hshown := hshows.status
    have hcontactor := hshows.contactor
    rw [hoff] at hshown
    rw [hopen] at hcontactor
    exact ⟨hoff, hshown, hcontactor, hopen⟩

/-- A bank with the status, the contactor and the operating command, in registers of three kinds. -/
def panelBank : Bank where
  registers :=
    [ .zero 30201 .s64 .enumeration .readWrite, .zero 30217 .s16 .raw .readOnly,
      .zero 40009 .u32 .enumeration .readWrite ]
  wellLaid := ⟨by decide, by decide⟩

/-- A plant with this bank. -/
def panelTwin : Twin := ⟨.initial {} (.ofSeed 1), panelBank⟩

/-- The same after a client has given the command to stop. -/
def haltedTwin : Twin := panelTwin.served [(1, [6, 0, 9, 1, 125])]

/-- After the next tick somebody gives the command to start and tries to write the status. -/
theorem status_tells_state_panelBank :
    panelTwin.bank.Whole Point.deviceStatus ∧ panelTwin.bank.Whole Point.gridContactor ∧
    haltedTwin ∈ panelTwin.visited [.request 1 [6, 0, 9, 1, 125]] ∧
    haltedTwin.bank.Holds Point.operatingCommand 381 ∧
    ∃ pass, haltedTwin.pass ⟨⟨2024, 6, 20⟩, 12, 0, 0⟩ 5.0 = .ok pass ∧
      (pass.after.served [(2, [6, 0, 9, 1, 39]), (2, [6, 117, 249, 1, 51])]).bank.Holds
        Point.deviceStatus 303 := by
  have hstatus : panelTwin.bank.Whole Point.deviceStatus :=
    ⟨_, List.mem_cons_self, rfl, rfl⟩
  have hcontactor : panelTwin.bank.Whole Point.gridContactor :=
    ⟨_, List.mem_cons_of_mem _ List.mem_cons_self, rfl, rfl⟩
  have hvisited : haltedTwin ∈ panelTwin.visited [.request 1 [6, 0, 9, 1, 125]] :=
    List.mem_cons_of_mem _ List.mem_cons_self
  have hstop : haltedTwin.bank.Holds Point.operatingCommand 381 := by decide +kernel
  have hok : (haltedTwin.pass ⟨⟨2024, 6, 20⟩, 12, 0, 0⟩ 5.0).isOk = true := by decide +kernel
  refine ⟨hstatus, hcontactor, hvisited, hstop, ?_⟩
  cases hpass : haltedTwin.pass ⟨⟨2024, 6, 20⟩, 12, 0, 0⟩ 5.0 with
  | error halt =>
    rw [hpass] at hok
    cases hok
  | ok pass =>
    obtain ⟨-, -, -, hstopped⟩ :=
      status_tells_state hstatus hcontactor _ haltedTwin hvisited _ _ pass hpass _
    exact ⟨pass, rfl, (hstopped hstop).2.1⟩

end Plant

end SolarTwin

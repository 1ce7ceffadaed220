import Mathlib.Data.List.FinRange
import SolarTwin.Proofs.Bank.Loading

namespace SolarTwin

/-!
# The predecessor of an address owns it, or nothing does

To find the owner of an address, a bank looks at one register only: the last one that starts at or
below it.  That is enough because its registers lie apart.  The same lookup is made by place where
the register is to be changed, and then the change is made in that place.

* `Layout.exists_bank_iff` — the maps of registers that are banks;
* `Bank.Precedes` and `Bank.predecessor?_eq_some_iff` — the register that a bank looks at;
* `Bank.ownerPlace?` — the place of the owner;
* `Bank.predecessor_owns` — what the lookup finds, by register and by place, and the word in it.
-/

/-! ### Banks and maps -/

namespace Layout

/-- The maps of registers by their addresses that pass the check are the banks. -/
theorem exists_bank_iff {map : List Register} :
    (∃ b : Bank, b.registers = map) ↔
      (map.Pairwise fun r s => r.address.toNat < s.address.toNat) ∧ check map = .ok () := by
  rw [check_eq_ok_iff, fault?_eq_none_iff]
  constructor
  · rintro ⟨b, rfl⟩
    exact ⟨b.wellLaid.pairwise_lt, b.wellLaid.sound⟩
  · rintro ⟨hkeys, hsound⟩
    exact ⟨⟨map, hsound.wellLaid (hkeys.imp Nat.le_of_lt)⟩, rfl⟩

end Layout

namespace Bank

variable {b : Bank} {a : UInt16} {r s : Register}

/-! ### The predecessor -/

/-- Among registers in the order of their addresses those up to an address come first. -/
private theorem takeWhile_eq_filter {map : List Register}
    (hkeys : map.Pairwise fun r s => r.address.toNat < s.address.toNat) (a : UInt16) :
    (map.takeWhile fun r => r.address.toNat ≤ a.toNat) =
      map.filter fun r => r.address.toNat ≤ a.toNat := by
  induction map with
  | nil => rfl
  | cons r rest ih =>
    obtain ⟨hr, hrest⟩ := List.pairwise_cons.1 hkeys
    by_cases hle : r.address.toNat ≤ a.toNat
    · simp only [List.takeWhile_cons, List.filter_cons, hle, decide_true, if_true, ih hrest]
    · -- What comes after `r` starts above it.
      have hnone : rest.filter (fun s => decide (s.address.toNat ≤ a.toNat)) = [] := by
        rw [List.filter_eq_nil_iff]
        intro s hs
        have := hr s hs
        simp only [decide_eq_true_eq]
        omega
      simp [hle, hnone]

theorem predecessor?_eq_filter (b : Bank) (a : UInt16) :
    b.predecessor? a = (b.registers.filter fun r => r.address.toNat ≤ a.toNat).getLast? := by
  rw [predecessor?, takeWhile_eq_filter b.wellLaid.pairwise_lt]

/-- Whether a register has the greatest start not above an address. -/
structure Precedes (b : Bank) (r : Register) (a : UInt16) : Prop where
  mem : r ∈ b.registers
  le : r.address ≤ a
  greatest : ∀ s ∈ b.registers, s.address ≤ a → s.address ≤ r.address

theorem precedes_of_predecessor? (h : b.predecessor? a = some r) : b.Precedes r a := by
  rw [predecessor?_eq_filter, List.getLast?_eq_some_iff] at h
  obtain ⟨before, hsplit⟩ := h
  have hmem {s : Register} : s ∈ b.registers ∧ s.address ≤ a ↔ s ∈ before ++ [r] := by
    rw [← hsplit, List.mem_filter, decide_eq_true_eq, UInt16.le_iff_toNat_le]
  have hbefore : ∀ s ∈ before, s.address.toNat < r.address.toNat := by
    have hkeys := b.wellLaid.pairwise_lt.filter fun r => decide (r.address.toNat ≤ a.toNat)
    rw [hsplit, List.pairwise_append] at hkeys
    intro s hs
    exact hkeys.2.2 s hs r (List.mem_singleton.2 rfl)
  obtain ⟨hr, ha⟩ := hmem.2 (List.mem_append_right before (List.mem_singleton.2 rfl))
  refine ⟨hr, ha, ?_⟩
  intro s hs hsa
  rw [UInt16.le_iff_toNat_le]
  rcases List.mem_append.1 (hmem.1 ⟨hs, hsa⟩) with hs | hs
  · exact Nat.le_of_lt (hbefore s hs)
  · obtain rfl := List.mem_singleton.1 hs
    exact Nat.le_refl _

/-- There is a predecessor as soon as one register starts at or below an address. -/
theorem exists_predecessor? (hr : r ∈ b.registers) (ha : r.address ≤ a) :
    ∃ s, b.predecessor? a = some s := by
  rw [← Option.ne_none_iff_exists', predecessor?_eq_filter, ne_eq, List.getLast?_eq_none_iff,
    List.filter_eq_nil_iff]
  intro h
  have hnot := h r hr
  rw [decide_eq_true_eq, ← UInt16.le_iff_toNat_le] at hnot
  exact hnot ha

/-- The predecessor is the register with the greatest start not above an address. -/
theorem predecessor?_eq_some_iff : b.predecessor? a = some r ↔ b.Precedes r a := by
  constructor
  · exact precedes_of_predecessor?
  · intro hr
    obtain ⟨s, hs⟩ := exists_predecessor? hr.mem hr.le
    have hprecedes := precedes_of_predecessor? hs
    -- Each of the two starts at or below the other.
    have haddress : s.address = r.address :=
      UInt16.le_antisymm (hr.greatest s hprecedes.mem hprecedes.le)
        (hprecedes.greatest r hr.mem hr.le)
    rw [hs, eq_of_address hprecedes.mem hr.mem haddress]

/-! ### The place of the owner -/

/-- The places of the registers that start at or below an address, in order. -/
def placesUpTo (b : Bank) (a : UInt16) : List (Fin b.registers.length) :=
  (List.finRange b.registers.length).filter fun i => (b.registers.get i).address.toNat ≤ a.toNat

/-- The last place of a register that starts at or below an address, kept if this register owns the
    address. -/
def ownerPlace? (b : Bank) (a : UInt16) : Option (Fin b.registers.length) :=
  (b.placesUpTo a).getLast?.filter fun i => (b.registers.get i).owns a

/-- In the place of the owner stands the owner. -/
theorem map_get_ownerPlace? (b : Bank) (a : UInt16) :
    (b.ownerPlace? a).map b.registers.get = b.owner? a := by
  have hplaces := List.map_get_finRange b.registers
  rw [owner?, predecessor?_eq_filter]
  conv_rhs => rw [← hplaces]
  rw [List.filter_map, List.getLast?_map, Option.filter_map]
  rfl

theorem nodup_registers (b : Bank) : b.registers.Nodup := by
  apply b.wellLaid.pairwise_lt.imp
  rintro r s hlt rfl
  exact Nat.lt_irrefl _ hlt

/-- Exchanging the register in a place changes the bank in this place alone. -/
private theorem registers_exchange_get (b : Bank) (i : Fin b.registers.length) {s : Register}
    (h : s.slot = (b.registers.get i).slot) :
    (b.exchange (b.registers.get i) s h).registers = b.registers.set i s := by
  apply List.ext_getElem
  · simp [exchange]
  · intro j hj hj'
    have hlt : j < b.registers.length := by simpa [exchange] using hj
    have hsame : b.registers[j] = b.registers[i.val] ↔ i.val = j := by
      rw [b.nodup_registers.getElem_inj_iff, eq_comm]
    simp [exchange, exchanged, List.getElem_set, hsame]

/-- A word is replaced in the register that stands in the place of the owner, and in no other. -/
private theorem replaceWord_of_ownerPlace? {i : Fin b.registers.length}
    (hi : b.ownerPlace? a = some i) (w : UInt16) :
    ∃ s b', (b.registers.get i).replaceWord a w = .ok s ∧ b.replaceWord a w = .ok b' ∧
      b'.registers = b.registers.set i s := by
  have howner : b.owner? a = some (b.registers.get i) := by
    rw [← b.map_get_ownerPlace?, hi, Option.map_some]
  have howns := (owner?_eq_some_iff.1 howner).2
  refine ⟨_, _, Register.replaceWord_of_owns w howns, b.replaceWord_eq a w, ?_⟩
  rw [assign_of_owner howner, registers_exchange_get]

/-! ### The word of the owner -/

/-- The offset of an owned address does not wrap, and is an index of the owner's words. -/
theorem word?_of_owner? (h : b.owner? a = some r) :
    r.address ≤ a ∧ ∃ hlt : (a - r.address).toNat < r.words.length,
      b.word? a = some (r.words.get ⟨(a - r.address).toNat, hlt⟩) := by
  obtain ⟨hr, howns⟩ := owner?_eq_some_iff.1 h
  have hle : r.address ≤ a := UInt16.le_iff_toNat_le.2 ((Register.owns_iff r a).1 howns).1
  have hoffset : (a - r.address).toNat = a.toNat - r.address.toNat :=
    UInt16.toNat_sub_of_le a r.address hle
  have hlt : (a - r.address).toNat < r.words.length := by
    rw [hoffset]
    exact Register.offset_lt howns
  refine ⟨hle, hlt, ?_⟩
  rw [word?_of_owns hr howns, ← hoffset]
  exact List.getElem?_eq_getElem hlt

theorem exists_owner?_iff : (∃ r, b.owner? a = some r) ↔ ∃ r ∈ b.registers, r.owns a = true := by
  simp only [owner?_eq_some_iff]

/-- **The predecessor owns an address, or nothing does.**  The maps of registers by their addresses
    that pass the check are the banks.  In a bank the register with the greatest start not above an
    address is the owner, if it owns the address, and then it is the only register that does; if it
    does not, none does.  Looked up by place the owner is the same, so that it is changed in its
    place and no other register is.  The offset of the address is an index of its words. -/
theorem predecessor_owns :
    (∀ map : List Register, (∃ b : Bank, b.registers = map) ↔
      (map.Pairwise fun r s => r.address.toNat < s.address.toNat) ∧
        Layout.check map = .ok ()) ∧
    ∀ (b : Bank) (a : UInt16),
      ((∃ r, b.owner? a = some r) ↔ ∃ r ∈ b.registers, r.owns a = true) ∧
      (∀ r, b.owner? a = some r ↔ b.Precedes r a ∧ r.owns a = true) ∧
      (∀ r, b.owner? a = some r →
        (∀ s ∈ b.registers, s.owns a = true → s = r) ∧
        r.address ≤ a ∧ ∃ hlt : (a - r.address).toNat < r.words.length,
          b.word? a = some (r.words.get ⟨(a - r.address).toNat, hlt⟩)) ∧
      (b.ownerPlace? a).map b.registers.get = b.owner? a ∧
      ∀ i, b.ownerPlace? a = some i → ∀ w, ∃ s b',
        (b.registers.get i).replaceWord a w = .ok s ∧ b.replaceWord a w = .ok b' ∧
          b'.registers = b.registers.set i s := by
  refine ⟨fun map => Layout.exists_bank_iff, ?_⟩
  intro b a
  refine ⟨exists_owner?_iff, ?_, ?_, b.map_get_ownerPlace? a, ?_⟩
  · intro r
    rw [owner?, Option.filter_eq_some_iff, predecessor?_eq_some_iff]
  · intro r hr
    obtain ⟨hmem, howns⟩ := owner?_eq_some_iff.1 hr
    exact ⟨fun s hs hsa => eq_of_owns hs hmem hsa howns, word?_of_owner? hr⟩
  · intro i hi w
    exact replaceWord_of_ownerPlace? hi w

/-- The bank of a register at either end of the address space. -/
def edgeBank : Bank := ⟨edgeList.reverse, by decide, by decide⟩

/-- At the last address of all, which is the last word of a register of four. -/
theorem predecessor_owns_lastAddress :
    ∃ r i, edgeBank.owner? 65535 = some r ∧ edgeBank.ownerPlace? 65535 = some i ∧
      edgeBank.registers.get i = r ∧ r.address = 65532 ∧
      (∀ s ∈ edgeBank.registers, s.owns 65535 = true → s = r) ∧
      (∃ hlt : ((65535 : UInt16) - r.address).toNat < r.words.length,
        edgeBank.word? 65535 = some (r.words.get ⟨((65535 : UInt16) - r.address).toNat, hlt⟩)) ∧
      ∃ b', edgeBank.replaceWord 65535 7 = .ok b' := by
  obtain ⟨hfound, -, hfacts, hplace, hreplaced⟩ := predecessor_owns.2 edgeBank 65535
  obtain ⟨r, hr⟩ := hfound.2 ⟨edgeBank.registers[1], by decide, by decide⟩
  obtain ⟨i, hi, hget⟩ := Option.map_eq_some_iff.1 (hplace.trans hr)
  obtain ⟨honly, -, hword⟩ := hfacts r hr
  obtain ⟨-, b', -, hb', -⟩ := hreplaced i hi 7
  have haddress := honly edgeBank.registers[1] (by decide) (by decide)
  exact ⟨r, i, hr, hi, hget, haddress ▸ rfl, honly, hword, b', hb'⟩

end Bank

end SolarTwin

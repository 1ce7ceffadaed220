import SolarTwin.Bank.Access
import SolarTwin.Proofs.Register.Words

namespace SolarTwin

/-!
# The two views of a bank

A bank is read by register and by word.  Because its registers lie apart in address order, the last
one that starts at or below an address is the only one that can own it.

* `Bank.owner?_eq_some_iff` and `Bank.find?_eq_some_iff` — the owner of an address and the register
  that starts there, said by membership alone;
* `Bank.word?_of_owns` and `Bank.word?_eq_none_iff` — the word at an address;
* `Bank.refusal?_congr` — whether a word may be written depends only on the slots of the bank, that
  is on its registers without their values.
-/

/-! ### Slots -/

/-- Whether an address is one of those a slot takes. -/
def Slot.owns (s : Slot) (a : UInt16) : Bool :=
  s.address.toNat ≤ a.toNat && a.toNat < s.address.toNat + s.kind.width

/-- The slot among some in address order that takes an address. -/
def Slot.owner? (slots : List Slot) (a : UInt16) : Option Slot :=
  (slots.takeWhile fun s => s.address.toNat ≤ a.toNat).getLast?.filter (·.owns a)

namespace Bank

/-- The slots of a bank, in address order. -/
def slots (b : Bank) : List Slot := b.registers.map Register.slot

/-! ### The owner of an address -/

theorem mem_of_predecessor? {b : Bank} {a : UInt16} {r : Register}
    (h : b.predecessor? a = some r) : r ∈ b.registers :=
  List.takeWhile_subset _ (List.mem_of_getLast? h)

/-- The register that owns an address is its predecessor: the ones before it end below the address,
    the ones after it start above. -/
theorem predecessor?_of_owns {b : Bank} {a : UInt16} {r : Register} (hr : r ∈ b.registers)
    (ha : r.owns a = true) : b.predecessor? a = some r := by
  obtain ⟨before, after, hsplit⟩ := List.append_of_mem hr
  rw [Register.owns_iff] at ha
  have happart := b.wellLaid.apart
  rw [hsplit, List.pairwise_append, List.pairwise_cons] at happart
  obtain ⟨-, ⟨hafter, -⟩, hbefore⟩ := happart
  -- Everything up to `r` starts at or below `a`, and nothing after it does.
  have hle : ∀ s ∈ before ++ [r], decide (s.address.toNat ≤ a.toNat) = true := by
    intro s hs
    rcases List.mem_append.1 hs with hs | hs
    · have hend := hbefore s hs r List.mem_cons_self
      have hstart := Layout.address_le_endAddress s
      exact decide_eq_true (by omega)
    · obtain rfl := List.mem_singleton.1 hs
      exact decide_eq_true ha.1
  have hstop : after.takeWhile (fun s => decide (s.address.toNat ≤ a.toNat)) = [] := by
    cases after with
    | nil => rfl
    | cons s rest =>
      have hend := hafter s List.mem_cons_self
      exact List.takeWhile_cons_of_neg (by rw [decide_eq_true_eq]; omega)
  have hwhole : b.registers = (before ++ [r]) ++ after := by simp [hsplit]
  unfold predecessor?
  rw [hwhole, List.takeWhile_append_of_pos hle, hstop]
  simp

/-- A register owns an address in the bank's sense exactly if it is one of the bank's and the address
    is one of its own. -/
theorem owner?_eq_some_iff {b : Bank} {a : UInt16} {r : Register} :
    b.owner? a = some r ↔ r ∈ b.registers ∧ r.owns a = true := by
  rw [owner?, Option.filter_eq_some_iff]
  constructor
  · rintro ⟨hr, ha⟩
    exact ⟨mem_of_predecessor? hr, ha⟩
  · rintro ⟨hr, ha⟩
    exact ⟨predecessor?_of_owns hr ha, ha⟩

theorem owner?_eq_none_iff {b : Bank} {a : UInt16} :
    b.owner? a = none ↔ ∀ r ∈ b.registers, r.owns a = false := by
  rw [Option.eq_none_iff_forall_ne_some]
  constructor
  · intro h r hr
    by_contra ha
    exact h r (owner?_eq_some_iff.2 ⟨hr, by simpa using ha⟩)
  · intro h r hr
    obtain ⟨hmem, ha⟩ := owner?_eq_some_iff.1 hr
    rw [h r hmem] at ha
    exact Bool.false_ne_true ha

/-- No two registers of a bank share an address. -/
theorem eq_of_owns {b : Bank} {a : UInt16} {r s : Register} (hr : r ∈ b.registers)
    (hs : s ∈ b.registers) (hra : r.owns a = true) (hsa : s.owns a = true) : r = s := by
  have h := owner?_eq_some_iff.2 ⟨hr, hra⟩
  rw [owner?_eq_some_iff.2 ⟨hs, hsa⟩, Option.some.injEq] at h
  exact h.symm

/-! ### The register that starts at an address -/

theorem eq_of_address {b : Bank} {r s : Register} (hr : r ∈ b.registers) (hs : s ∈ b.registers)
    (h : r.address = s.address) : r = s :=
  eq_of_owns hr hs r.owns_address (h ▸ s.owns_address)

theorem find?_eq_some_iff {b : Bank} {a : UInt16} {r : Register} :
    b.find? a = some r ↔ r ∈ b.registers ∧ r.address = a := by
  constructor
  · intro h
    exact ⟨List.mem_of_find?_eq_some h, by simpa using List.find?_some h⟩
  · rintro ⟨hr, ha⟩
    cases hfind : b.find? a with
    | none =>
      rw [find?, List.find?_eq_none] at hfind
      exact absurd (by simpa using ha) (hfind r hr)
    | some s =>
      have hs := List.mem_of_find?_eq_some hfind
      have hsa : s.address = a := by simpa using List.find?_some hfind
      rw [eq_of_address hs hr (hsa.trans ha.symm)]

theorem find?_eq_none_iff {b : Bank} {a : UInt16} :
    b.find? a = none ↔ ∀ r ∈ b.registers, r.address ≠ a := by
  simp [find?, List.find?_eq_none]

/-! ### Words -/

/-- The word at an owned address is the owner's word at its offset. -/
theorem word?_of_owns {b : Bank} {a : UInt16} {r : Register} (hr : r ∈ b.registers)
    (ha : r.owns a = true) : b.word? a = r.words[a.toNat - r.address.toNat]? := by
  rw [word?_eq, owner?_eq_some_iff.2 ⟨hr, ha⟩, Option.bind_some, Register.word?_eq, if_pos ha]

theorem word?_of_unowned {b : Bank} {a : UInt16} (h : b.owner? a = none) : b.word? a = none := by
  rw [word?_eq, h, Option.bind_none]

/-- An address has no word exactly if no register owns it. -/
theorem word?_eq_none_iff {b : Bank} {a : UInt16} :
    b.word? a = none ↔ ∀ r ∈ b.registers, r.owns a = false := by
  rw [← owner?_eq_none_iff]
  refine ⟨fun h => ?_, word?_of_unowned⟩
  cases howner : b.owner? a with
  | none => rfl
  | some r =>
    obtain ⟨hr, ha⟩ := owner?_eq_some_iff.1 howner
    rw [word?_of_owns hr ha, List.getElem?_eq_none_iff] at h
    have := Register.offset_lt ha
    omega

/-! ### Addresses of any size -/

@[simp] theorem wordAddress?_toNat (a : UInt16) : wordAddress? a.toNat = some a := by
  have := a.toNat_lt
  simp only [wordAddress?, Layout.addressSpace, UInt16.ofNat_toNat]
  rw [if_pos (by omega)]

theorem wordAddress?_eq_some_iff {n : Nat} {a : UInt16} :
    wordAddress? n = some a ↔ a.toNat = n := by
  constructor
  · intro h
    unfold wordAddress? Layout.addressSpace at h
    split at h
    · obtain rfl := Option.some.inj h
      rw [UInt16.toNat_ofNat']
      omega
    · cases h
  · rintro rfl
    exact wordAddress?_toNat a

theorem wordAddress?_eq_none_iff {n : Nat} : wordAddress? n = none ↔ 65535 < n := by
  unfold wordAddress? Layout.addressSpace
  split
  · simp only [reduceCtorEq, false_iff]
    omega
  · simp only [true_iff]
    omega

@[simp] theorem wordAt?_toNat (b : Bank) (a : UInt16) : b.wordAt? a.toNat = b.word? a := by
  simp [wordAt?_eq]

/-- An address inside the address space is a word address. -/
theorem exists_toNat_eq {n : Nat} (hn : ¬ 65535 < n) : ∃ a : UInt16, a.toNat = n :=
  ⟨UInt16.ofNat n, by rw [UInt16.toNat_ofNat']; omega⟩

/-- At an address of any size two banks have the same word if they have the same one at the word
    address that it is. -/
theorem wordAt?_congr {b b' : Bank} {n : Nat}
    (h : ∀ x : UInt16, x.toNat = n → b'.word? x = b.word? x) : b'.wordAt? n = b.wordAt? n := by
  by_cases hout : 65535 < n
  · rw [wordAt?_eq, wordAt?_eq, wordAddress?_eq_none_iff.2 hout]
    rfl
  · obtain ⟨x, rfl⟩ := exists_toNat_eq hout
    rw [wordAt?_toNat, wordAt?_toNat]
    exact h x rfl

/-- An address of any size has no word exactly if it lies past the address space or in no
    register. -/
theorem wordAt?_eq_none_iff {b : Bank} {n : Nat} :
    b.wordAt? n = none ↔ 65535 < n ∨ ∀ r ∈ b.registers, ¬ r.Covers n := by
  by_cases hn : 65535 < n
  · rw [wordAt?_eq, wordAddress?_eq_none_iff.2 hn]
    simp [hn]
  · obtain ⟨a, rfl⟩ := exists_toNat_eq hn
    rw [wordAt?_toNat, word?_eq_none_iff, or_iff_right hn]
    simp only [Register.covers_toNat_iff, Bool.not_eq_true]

/-! ### What the slots decide -/

/-- The slots alone decide which slot takes an address. -/
theorem slot_owner? (b : Bank) (a : UInt16) :
    (b.owner? a).map Register.slot = Slot.owner? b.slots a := by
  unfold owner? predecessor? Slot.owner? slots
  rw [List.takeWhile_map, List.getLast?_map, Option.filter_map]
  rfl

/-- Whether a client may write a word is decided by the slots. -/
theorem refusal?_congr {b b' : Bank} (h : b.slots = b'.slots) (n : Nat) :
    b.refusal? n = b'.refusal? n := by
  unfold refusal?
  cases wordAddress? n with
  | none => rfl
  | some a =>
    have howner : (b.owner? a).map Register.slot = (b'.owner? a).map Register.slot := by
      rw [slot_owner?, slot_owner?, h]
    simp only [Option.bind_some]
    cases hb : b.owner? a with
    | none =>
      rw [hb, Option.map_none, eq_comm, Option.map_eq_none_iff] at howner
      rw [howner]
    | some r =>
      -- The two owners may hold different values, but they have one slot.
      rw [hb, Option.map_some, eq_comm, Option.map_eq_some_iff] at howner
      obtain ⟨s, hs, hslot⟩ := howner
      have haddress : s.address = r.address := congrArg Slot.address hslot
      have haccess : s.access = r.access := congrArg Slot.access hslot
      rw [hs]
      simp only [haddress, haccess]

end Bank

end SolarTwin

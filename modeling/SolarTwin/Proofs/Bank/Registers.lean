import SolarTwin.Proofs.Bank.History

namespace SolarTwin

/-!
# What a change does to the registers

Seen by register, a change stores one value or recomposes the owners of some words.  All other
registers stay as they are, which is said by membership: a register that is still one of the bank's
has kept its slot and its value.

* `Bank.mem_assignFrom` — a block leaves every register alone that it does not cover;
* `Bank.logical?_setLogical` — storing a value changes that value and no other;
* `Bank.setLogical_isOk_iff` — a value can be stored exactly where one of its kind is.
-/

namespace Bank

/-! ### The value of a register -/

theorem logical?_of_find? {b : Bank} {a : UInt16} {r : Register} (hr : b.find? a = some r) :
    b.logical? a = some r.value := by
  rw [logical?, hr, Option.map_some]

/-- A register of a bank is seen under its address. -/
theorem logical?_of_mem {b : Bank} {r : Register} (hr : r ∈ b.registers) :
    b.logical? r.address = some r.value :=
  logical?_of_find? (find?_eq_some_iff.2 ⟨hr, rfl⟩)

theorem exists_mem_of_logical? {b : Bank} {a : UInt16} {v : Value} (h : b.logical? a = some v) :
    ∃ r ∈ b.registers, r.address = a ∧ r.value = v := by
  obtain ⟨r, hr, hv⟩ := Option.map_eq_some_iff.1 h
  obtain ⟨hmem, ha⟩ := find?_eq_some_iff.1 hr
  exact ⟨r, hmem, ha, hv⟩

/-- A register of a bank has a counterpart of the same slot in every bank of the same slots. -/
theorem exists_mem_of_slots {b b' : Bank} (h : b'.slots = b.slots) {r : Register}
    (hr : r ∈ b.registers) : ∃ s ∈ b'.registers, s.slot = r.slot := by
  have hslot : r.slot ∈ b'.slots := by
    rw [h]
    exact List.mem_map_of_mem hr
  exact List.mem_map.1 hslot

/-! ### Exchanging a register -/

section Exchange

variable {b : Bank} {r s : Register} (h : s.slot = r.slot)

include h

/-- An exchange leaves every other register alone. -/
theorem mem_exchange {t : Register} (ht : t ∈ b.registers) (htr : t ≠ r) :
    t ∈ (b.exchange r s h).registers := by
  have hsame : exchanged r s t = t := if_neg htr
  exact List.mem_map.2 ⟨t, ht, hsame⟩

theorem find?_exchange (x : UInt16) :
    (b.exchange r s h).find? x = (b.find? x).map (exchanged r s) := by
  -- An exchanged register starts where the old one did.
  have haddress : ((·.address == x) ∘ exchanged r s) = fun t : Register => t.address == x := by
    funext t
    exact congrArg (fun slot : Slot => slot.address == x) (slot_exchanged h t)
  simp only [find?, exchange, List.find?_map, haddress]

/-- An exchange changes the value of the register and no other. -/
theorem logical?_exchange (hr : r ∈ b.registers) (x : UInt16) :
    (b.exchange r s h).logical? x = if x = r.address then some s.value else b.logical? x := by
  unfold logical?
  rw [find?_exchange h]
  by_cases hx : x = r.address
  · rw [if_pos hx, find?_eq_some_iff.2 ⟨hr, hx.symm⟩, Option.map_some, Option.map_some, exchanged,
      if_pos rfl]
  · rw [if_neg hx]
    cases hfind : b.find? x with
    | none => rfl
    | some t =>
      have htr : t ≠ r := fun htr => hx (by rw [← htr, (find?_eq_some_iff.1 hfind).2])
      rw [Option.map_some, exchanged, if_neg htr]

end Exchange

/-! ### Replacing words -/

/-- A word leaves every register alone that does not own it. -/
theorem mem_assign {b : Bank} {r : Register} (hr : r ∈ b.registers) {a : UInt16}
    (ha : r.owns a = false) (w : UInt16) : r ∈ (b.assign a w).registers := by
  cases howner : b.owner? a with
  | none =>
    rw [assign_of_unowned howner]
    exact hr
  | some s =>
    have hs := (owner?_eq_some_iff.1 howner).2
    have hrs : r ≠ s := by
      rintro rfl
      rw [ha] at hs
      cases hs
    rw [assign_of_owner howner]
    exact mem_exchange _ hr hrs

/-- A block leaves every register alone that it does not cover. -/
theorem mem_assignFrom {b : Bank} {r : Register} (hr : r ∈ b.registers) {start : Nat}
    {ws : List UInt16} (hend : start + ws.length ≤ 65536)
    (hclear : ∀ i < ws.length, ¬ r.Covers (start + i)) : r ∈ (b.assignFrom start ws).registers := by
  induction ws generalizing b start with
  | nil => exact hr
  | cons w ws ih =>
    rw [List.length_cons] at hend hclear
    have hstart : (UInt16.ofNat start).toNat = start := by
      rw [UInt16.toNat_ofNat']
      omega
    have hfirst : r.owns (UInt16.ofNat start) = false := by
      rw [← Bool.not_eq_true, ← Register.covers_toNat_iff, hstart]
      exact hclear 0 (by omega)
    rw [assignFrom]
    refine ih (mem_assign hr hfirst w) (by omega) fun i hi => ?_
    have hnext : start + 1 + i = start + (i + 1) := by omega
    rw [hnext]
    exact hclear (i + 1) (by omega)

/-! ### Storing a value -/

/-- A value can be stored exactly where there is one of its kind. -/
theorem setLogical_isOk_iff {b : Bank} {a : UInt16} {v : Value} :
    (b.setLogical a v).isOk = true ↔ ∃ old, b.logical? a = some old ∧ v.kind = old.kind := by
  constructor
  · intro hok
    cases hset : b.setLogical a v with
    | error e =>
      rw [hset] at hok
      cases hok
    | ok b' =>
      obtain ⟨r, hv, hr, -⟩ := setLogical_eq_ok_iff.1 hset
      exact ⟨r.value, logical?_of_find? hr, hv⟩
  · rintro ⟨old, hold, hv⟩
    obtain ⟨r, hr, rfl⟩ := Option.map_eq_some_iff.1 hold
    rw [setLogical_eq_ok_iff.2 ⟨r, hv, hr, rfl⟩]
    rfl

/-- Storing a value changes that value and no other. -/
theorem logical?_setLogical {b b' : Bank} {a : UInt16} {v : Value}
    (h : b.setLogical a v = .ok b') (x : UInt16) :
    b'.logical? x = if x = a then some v else b.logical? x := by
  obtain ⟨r, hv, hr, rfl⟩ := setLogical_eq_ok_iff.1 h
  obtain ⟨hmem, rfl⟩ := find?_eq_some_iff.1 hr
  exact logical?_exchange (Register.slot_withValue hv) hmem x

end Bank

end SolarTwin

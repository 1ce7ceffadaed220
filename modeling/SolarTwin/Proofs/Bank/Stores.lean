import Mathlib.Logic.Relation
import SolarTwin.Proofs.Bank.Registers

namespace SolarTwin

/-!
# Stores at given points

The plant changes a bank only by storing values in registers that start at its points.  A store that
goes through finds such a register and a value of its kind, so everything else stays as it is: every
slot, and every register that starts somewhere else, even one that owns the point.

* `Bank.slot?` — the slot that starts at an address, which the slots of the bank decide;
* `Bank.eq_of_slots_of_logical?` — a bank is known by its slots and the values in them;
* `Bank.Stored` — one store that goes through, at one of some points;
* `Bank.slots_of_stores`, `Bank.mem_of_stores`, `Bank.logical?_of_stores` — what many of them leave
  alone;
* `Bank.Framed` — the summary of that.
-/

open Relation (ReflTransGen)

/-- A register is known by its slot and its value. -/
theorem Register.eq_of_slot_of_value {r s : Register} (hslot : s.slot = r.slot)
    (hvalue : s.value = r.value) : s = r := by
  cases r
  cases s
  simp_all [slot]

namespace Bank

variable {b b' : Bank} {points : List UInt16}

/-! ### The slot at an address -/

/-- The slot that starts at an address. -/
def slot? (b : Bank) (a : UInt16) : Option Slot := b.slots.find? (·.address == a)

theorem slot?_congr (h : b'.slots = b.slots) (a : UInt16) : b'.slot? a = b.slot? a := by
  rw [slot?, slot?, h]

theorem map_slot_find? (b : Bank) (a : UInt16) : (b.find? a).map Register.slot = b.slot? a := by
  rw [slot?, slots, List.find?_map]
  rfl

theorem slot?_of_find? {a : UInt16} {r : Register} (hr : b.find? a = some r) :
    b.slot? a = some r.slot := by
  rw [← map_slot_find?, hr, Option.map_some]

theorem slot?_of_find?_eq_none {a : UInt16} (hnone : b.find? a = none) : b.slot? a = none := by
  rw [← map_slot_find?, hnone, Option.map_none]

theorem slot?_of_mem {r : Register} (hr : r ∈ b.registers) : b.slot? r.address = some r.slot :=
  slot?_of_find? (find?_eq_some_iff.2 ⟨hr, rfl⟩)

theorem logical?_eq_none_of_slot? {a : UInt16} (hnone : b.slot? a = none) :
    b.logical? a = none := by
  rw [← map_slot_find?, Option.map_eq_none_iff] at hnone
  rw [logical?, hnone, Option.map_none]

/-- The register that takes the slot of another one has the value that is seen under its address. -/
theorem mem_of_slots_of_logical? (h : b'.slots = b.slots) {r : Register} (hr : r ∈ b.registers)
    {v : Value} (hv : b'.logical? r.address = some v) : { r with value := v } ∈ b'.registers := by
  obtain ⟨s, hs, hslot⟩ := exists_mem_of_slots h hr
  have haddress : s.address = r.address := congrArg Slot.address hslot
  have hvalue := logical?_of_mem hs
  rw [haddress, hv, Option.some.injEq] at hvalue
  have hkind : v.kind = r.kind := by
    rw [hvalue]
    exact congrArg Slot.kind hslot
  have hsame : s = { r with value := v } :=
    Register.eq_of_slot_of_value (hslot.trans (Register.slot_withValue hkind).symm) hvalue.symm
  rwa [← hsame]

/-- A bank is known by its slots and the values in them. -/
theorem eq_of_slots_of_logical? (h : b'.slots = b.slots)
    (hvalues : ∀ x, b'.logical? x = b.logical? x) : b' = b := by
  have hregisters : b'.registers = b.registers := by
    refine List.ext_getElem (by simpa [slots] using congrArg List.length h) fun i hi hi' => ?_
    have hslot : b'.registers[i].slot = b.registers[i].slot := by
      simpa [slots] using List.getElem_of_eq h (by simpa [slots] using hi)
    -- Each bank shows the value of its register under the address that both have.
    have haddress : b'.registers[i].address = b.registers[i].address :=
      congrArg Slot.address hslot
    have hvalue := hvalues b.registers[i].address
    rw [logical?_of_mem (List.getElem_mem hi'), ← haddress,
      logical?_of_mem (List.getElem_mem hi), Option.some.injEq] at hvalue
    exact Register.eq_of_slot_of_value hslot hvalue
  cases b
  cases b'
  simpa using hregisters

/-! ### Stores -/

/-- A value has been stored at one of some points. -/
def Stored (points : List UInt16) (b b' : Bank) : Prop :=
  ∃ a ∈ points, ∃ v, b.setLogical a v = .ok b'

theorem Stored.mono {points' : List UInt16} (hpoints : points ⊆ points')
    (h : Stored points b b') : Stored points' b b' := by
  obtain ⟨a, ha, v, hset⟩ := h
  exact ⟨a, hpoints ha, v, hset⟩

theorem Stored.slots (h : Stored points b b') : b'.slots = b.slots := by
  obtain ⟨a, -, v, hset⟩ := h
  obtain ⟨r, hv, -, rfl⟩ := setLogical_eq_ok_iff.1 hset
  exact slots_exchange _

theorem Stored.mem (h : Stored points b b') {r : Register} (hr : r ∈ b.registers)
    (hpoint : r.address ∉ points) : r ∈ b'.registers := by
  obtain ⟨a, ha, v, hset⟩ := h
  obtain ⟨s, hv, hs, rfl⟩ := setLogical_eq_ok_iff.1 hset
  obtain ⟨-, rfl⟩ := find?_eq_some_iff.1 hs
  -- The register that changes starts at the point.
  refine mem_exchange _ hr ?_
  rintro rfl
  exact hpoint ha

theorem Stored.logical? (h : Stored points b b') {x : UInt16} (hx : x ∉ points) :
    b'.logical? x = b.logical? x := by
  obtain ⟨a, ha, v, hset⟩ := h
  rw [logical?_setLogical hset, if_neg]
  rintro rfl
  exact hx ha

theorem stores_mono {points' : List UInt16} (hpoints : points ⊆ points')
    (h : ReflTransGen (Stored points) b b') : ReflTransGen (Stored points') b b' :=
  ReflTransGen.mono (fun _ _ => Stored.mono hpoints) b b' h

theorem slots_of_stores (h : ReflTransGen (Stored points) b b') : b'.slots = b.slots := by
  induction h with
  | refl => rfl
  | tail _ hlast ih => exact hlast.slots.trans ih

theorem mem_of_stores (h : ReflTransGen (Stored points) b b') {r : Register}
    (hr : r ∈ b.registers) (hpoint : r.address ∉ points) : r ∈ b'.registers := by
  induction h with
  | refl => exact hr
  | tail _ hlast ih => exact hlast.mem ih hpoint

theorem logical?_of_stores (h : ReflTransGen (Stored points) b b') {x : UInt16}
    (hx : x ∉ points) : b'.logical? x = b.logical? x := by
  induction h with
  | refl => rfl
  | tail _ hlast ih => exact (hlast.logical? hx).trans ih

/-- From one bank to another only values at some points have been stored, each with success.  Every
    slot is the same, and every register is that starts at none of the points. -/
structure Framed (points : List UInt16) (b b' : Bank) : Prop where
  stores : ReflTransGen (Stored points) b b'
  slots : b'.slots = b.slots
  kept : ∀ r ∈ b.registers, r.address ∉ points → r ∈ b'.registers

theorem framed_of_stores (h : ReflTransGen (Stored points) b b') : Framed points b b' :=
  ⟨h, slots_of_stores h, fun _ => mem_of_stores h⟩

theorem Framed.trans {points' : List UInt16} {b'' : Bank} (h : Framed points b b')
    (h' : Framed points' b' b'') : Framed (points ++ points') b b'' :=
  framed_of_stores ((stores_mono (List.subset_append_left ..) h.stores).trans
    (stores_mono (List.subset_append_right ..) h'.stores))

end Bank

end SolarTwin

import SolarTwin.Proofs.Modbus.Isolation
import SolarTwin.Proofs.Modbus.Replies

namespace SolarTwin

open Modbus

/-!
# What the layout decides

Which words a request may use is said by the registers without their values: by their addresses,
their kinds and their access rights.  These never change, so neither does what becomes of a request.

* `Bank.layout` — the registers of a bank in this light;
* `Layout.Admits` and `Bank.accessible_iff` — the addresses that a function may use;
* `Verdict.under?` — how some bytes are answered under a layout, as a function that can be run;
* `Bank.verdict_serve` — every bank answers as its layout says;
* `Bank.exists_block` — what some bytes write is decided by the layout too.
-/

/-! ### Layouts without values -/

namespace Layout

/-- What a layout says of one register. -/
structure Entry where
  address : UInt16
  kind : Kind
  access : Access
  deriving DecidableEq

/-- Whether an address of any size is one of those that an entry takes. -/
def Entry.Covers (e : Entry) (n : Nat) : Prop :=
  e.address.toNat ≤ n ∧ n < e.address.toNat + e.kind.width

instance (e : Entry) (n : Nat) : Decidable (e.Covers n) :=
  inferInstanceAs (Decidable (_ ∧ _))

/-- Whether a function may use an address: an entry takes it, which is writable if the function
    writes. -/
def Admits (layout : List Entry) (f : Function) (n : Nat) : Prop :=
  ∃ e ∈ layout, e.Covers n ∧ (f.isRead = true ∨ e.access.isWritable = true)

instance (layout : List Entry) (f : Function) (n : Nat) : Decidable (Admits layout f n) :=
  inferInstanceAs (Decidable (∃ e ∈ layout, _))

/-- Whether a function may use all of a block. -/
def AdmitsBlock (layout : List Entry) (f : Function) (start count : Nat) : Prop :=
  ∀ i < count, Admits layout f (start + i)

instance (layout : List Entry) (f : Function) (start count : Nat) :
    Decidable (AdmitsBlock layout f start count) :=
  inferInstanceAs (Decidable (∀ i < count, _))

end Layout

/-- What the layout says of a slot. -/
def Slot.entry (s : Slot) : Layout.Entry := ⟨s.address, s.kind, s.access⟩

namespace Bank

/-- The registers of a bank without their values, formats and names. -/
def layout (b : Bank) : List Layout.Entry := b.slots.map Slot.entry

theorem layout_congr {b b' : Bank} (h : b'.slots = b.slots) : b'.layout = b.layout := by
  rw [layout, layout, h]

variable {b b' : Bank} {f : Function}

theorem mem_layout_iff {e : Layout.Entry} :
    e ∈ b.layout ↔ ∃ r ∈ b.registers, r.slot.entry = e := by
  simp only [layout, slots, List.mem_map, exists_exists_and_eq_and]

/-- An address is kept from a function exactly if the layout does not admit it. -/
theorem barred_iff {n : Nat} : b.Barred f n ↔ ¬ Layout.Admits b.layout f n := by
  have hcovers (r : Register) : r.slot.entry.Covers n ↔ r.Covers n := Iff.rfl
  constructor
  · rintro hbarred ⟨e, he, hn, hmay⟩
    obtain ⟨r, hr, rfl⟩ := mem_layout_iff.1 he
    have hend := b.wellLaid.inside r hr
    rw [Layout.addressSpace] at hend
    rw [hcovers] at hn
    rcases hbarred with hout | hnone | ⟨hf, s, hs, hsn, haccess⟩
    · have := hn.2
      omega
    · exact hnone r hr hn
    · -- Only one register covers the address, and it is read-only.
      obtain ⟨a, rfl⟩ := exists_toNat_eq (n := n) (by have := hn.2; omega)
      obtain rfl := eq_of_owns hr hs (Register.covers_toNat_iff.1 hn)
        (Register.covers_toNat_iff.1 hsn)
      rcases hmay with hread | hwritable
      · exact Function.isWrite_iff.1 hf hread
      · have hreadOnly : r.slot.entry.access = .readOnly := haccess
        rw [hreadOnly] at hwritable
        cases hwritable
  · intro hnot
    by_contra hfree
    rw [Barred, not_or, not_or] at hfree
    obtain ⟨-, howned, hwritable⟩ := hfree
    simp only [not_forall, not_not] at howned
    obtain ⟨r, hr, hn⟩ := howned
    refine hnot ⟨r.slot.entry, mem_layout_iff.2 ⟨r, hr, rfl⟩, hn, ?_⟩
    by_cases hf : f.isRead = true
    · exact .inl hf
    · refine .inr (by_contra fun haccess => hwritable ⟨Function.isWrite_iff.2 hf, r, hr, hn, ?_⟩)
      exact isWritable_eq_false_iff.1 (Bool.eq_false_iff.2 haccess)

/-- A block is accessible exactly if the layout admits all of it. -/
theorem accessible_iff {start count : Nat} :
    ¬ b.Inaccessible f start count ↔ Layout.AdmitsBlock b.layout f start count := by
  simp only [Inaccessible, Layout.AdmitsBlock, barred_iff, not_exists, not_and, not_not]

theorem inaccessible_congr (h : b'.layout = b.layout) {start count : Nat} :
    b'.Inaccessible f start count ↔ b.Inaccessible f start count :=
  not_iff_not.1 (by rw [accessible_iff, accessible_iff, h])

end Bank

/-! ### Verdicts -/

namespace Modbus.Request

instance decidableMalformed : (f : Function) → (data : List UInt8) → Decidable (Malformed f data)
  | .readHolding, data => inferInstanceAs
      (Decidable (data.length < 4 ∨ wanted .readHolding data = 0 ∨ 125 < wanted .readHolding data))
  | .readInput, data => inferInstanceAs
      (Decidable (data.length < 4 ∨ wanted .readInput data = 0 ∨ 125 < wanted .readInput data))
  | .writeSingle, data => inferInstanceAs (Decidable (data.length < 4))
  | .writeMultiple, data => inferInstanceAs
      (Decidable (data.length < 5 ∨ wanted .writeMultiple data = 0 ∨
        123 < wanted .writeMultiple data ∨
        (data.getD 4 0).toNat ≠ 2 * wanted .writeMultiple data ∨
        data.length < 5 + 2 * wanted .writeMultiple data))

end Modbus.Request

/-- How some bytes are answered: with which exception, if with any, and at what length. -/
structure Verdict where
  exception? : Option Exception
  length : Nat
  deriving DecidableEq

namespace Verdict

/-- An exception, which has two bytes. -/
def refused (e : Exception) : Verdict := ⟨some e, 2⟩

/-- The words that are asked for, or the echo of a write, which has five bytes. -/
def granted (f : Function) (data : List UInt8) : Verdict :=
  ⟨none, if f.isRead then 2 + 2 * Request.wanted f data else 5⟩

/-- The verdict on the bytes behind a function byte. -/
def onData (layout : List Layout.Entry) (f : Function) (data : List UInt8) : Verdict :=
  if Request.Malformed f data then refused .illegalDataValue
  else if Layout.AdmitsBlock layout f (Request.first f data) (Request.wanted f data) then
    granted f data
  else refused .illegalDataAddress

/-- The verdict on some bytes under a layout; on no bytes there is none. -/
def under? (layout : List Layout.Entry) : List UInt8 → Option Verdict
  | [] => none
  | code :: data => some <|
    match Function.ofCode? code with
    | none => refused .illegalFunction
    | some f => onData layout f data

@[simp] theorem under?_code (layout : List Layout.Entry) (f : Function) (data : List UInt8) :
    under? layout (f.code :: data) = some (onData layout f data) := by
  rw [under?, Function.ofCode?_code]

end Verdict

namespace Bank

/-- The verdict that an answer expresses. -/
def Answer.verdict (a : Answer) : Verdict := ⟨a.reply.body.exception?, a.reply.encode.length⟩

/-- An answer that is no exception has the length that its request asks for. -/
theorem Answers.size_eq {f : Function} {data : List UInt8} {body : Body}
    (h : Answers f.code data body) (hnone : body.exception? = none) :
    body.size = (Verdict.granted f data).length := by
  cases h with
  | exception e => cases hnone
  | @registers g ws hcode hread hlength =>
    obtain rfl : f = g := (Function.code_inj hcode).symm
    rw [Body.size, hlength, Verdict.granted, if_pos hread]
    cases f with
    | readHolding | readInput => rfl
    | writeSingle | writeMultiple => cases hread
  | wroteSingle hcode | wroteMultiple hcode =>
    obtain rfl := Function.code_inj hcode
    rfl

/-- Every bank answers as its layout says, whatever its values. -/
theorem verdict_serve (b : Bank) (unit : UInt8) (pdu : List UInt8) :
    (b.serve unit pdu).result.toOption.map Answer.verdict = Verdict.under? b.layout pdu := by
  cases b.serving unit pdu with
  | empty => rfl
  | unsupported hcode _ hresult =>
    rw [hresult, Verdict.under?, Function.ofCode?_eq_none hcode]
    rfl
  | malformed hmalformed _ hresult =>
    rw [hresult, Verdict.under?_code, Verdict.onData, if_pos hmalformed]
    rfl
  | inaccessible hwell hbarred _ hresult =>
    rw [hresult, Verdict.under?_code, Verdict.onData, if_neg hwell,
      if_neg fun hadmits => accessible_iff.2 hadmits hbarred]
    rfl
  | accessible hwell hopen hresult hfulfilled =>
    have hnone := hfulfilled.exception?_eq_none
    have hsize := (hfulfilled.answers hwell).size_eq hnone
    rw [hresult, Verdict.under?_code, Verdict.onData, if_neg hwell,
      if_pos (accessible_iff.1 hopen)]
    show some (Verdict.mk _ _) = some (Verdict.granted _ _)
    rw [hnone, Reply.length_encode, hsize]
    rfl

end Bank

/-! ### The words of a request -/

/-- Whether some bytes are a request that is about an address of any size. -/
def Modbus.Request.Targets (pdu : List UInt8) (n : Nat) : Prop :=
  ∃ f data, pdu = Function.code f :: data ∧ ¬ Malformed f data ∧
    first f data ≤ n ∧ n < first f data + wanted f data

namespace Bank

/-- What some bytes write is one block of the words that they are about, which the layout decides;
    it is empty if they are refused or read. -/
theorem exists_block (layout : List Layout.Entry) (pdu : List UInt8) :
    ∃ start ws, (∀ i < ws.length, Request.Targets pdu (start + i)) ∧
      ∀ b : Bank, b.layout = layout → start + ws.length ≤ 65536 ∧
        ∀ unit, (b.serve unit pdu).bank = b.assignFrom start ws := by
  by_cases hwrite : ∃ f data, pdu = Function.code f :: data ∧ ¬ Request.Malformed f data ∧
      Layout.AdmitsBlock layout f (Request.first f data) (Request.wanted f data) ∧
      f.isWrite = true
  · obtain ⟨f, data, rfl, hwell, hadmits, hf⟩ := hwrite
    have hlength := Request.length_payload hf data
    refine ⟨Request.first f data, Request.payload f data, fun i hi => ?_, fun b hb => ?_⟩
    · exact ⟨f, data, rfl, hwell, by omega, by omega⟩
    · rw [← hb] at hadmits
      have hopen := accessible_iff.2 hadmits
      obtain ⟨-, hpos, -⟩ := Request.not_malformed_iff.1 hwell
      -- The last address is admitted, so it lies inside the address space.
      have hlast : ¬ 65535 < Request.first f data + (Request.wanted f data - 1) :=
        fun hout => hopen ⟨_, by omega, .inl hout⟩
      refine ⟨by omega, fun unit => ?_⟩
      obtain ⟨body, -, hfulfilled⟩ := serve_of_accessible unit hwell hopen
      exact hfulfilled.bank_eq
  · -- Nothing is written, which is what an empty block does.
    refine ⟨0, [], fun i hi => absurd hi (Nat.not_lt_zero i), fun b hb => ⟨by simp, fun unit => ?_⟩⟩
    cases b.serving unit pdu with
    | empty hbank | unsupported _ hbank | malformed _ hbank | inaccessible _ _ hbank => exact hbank
    | accessible hwell hopen _ hfulfilled =>
      rw [accessible_iff, hb] at hopen
      have hread : ¬ Function.isWrite _ = true := fun hf => hwrite ⟨_, _, rfl, hwell, hopen, hf⟩
      rw [Function.isWrite_iff, not_not] at hread
      exact hfulfilled.unchanged hread

end Bank

end SolarTwin

import SolarTwin.Proofs.Modbus.Isolation

namespace SolarTwin

open Modbus

/-!
# What a client must have sent to change a register

A register changes only if a word of it is written, by a request that is carried out.  So whoever
finds another register than before knows of such a request.

* `Bank.Writes` — some bytes are a write that is carried out, and it covers a word of a register;
* `Bank.serve_unchanged_or_fulfilled` — some bytes change nothing, or are carried out;
* `Bank.mem_serve_or_writes` — a register is kept by some bytes, or they write it.
-/

namespace Bank

variable {b b' : Bank} {r : Register}

/-- Some bytes are a request to write that is answered with no exception, and one of the words that
    it asks for belongs to a register. -/
def Writes (b : Bank) (unit : UInt8) (pdu : List UInt8) (r : Register) : Prop :=
  ∃ f data answer, pdu = Function.code f :: data ∧ f.isWrite = true ∧
    (b.serve unit pdu).result = .ok answer ∧ answer.reply.isException = false ∧
    ∃ i < Request.wanted f data, r.Covers (Request.first f data + i)

theorem mem_of_writeInPlace {start : UInt16} {ws : List UInt16}
    (h : b.writeInPlace start ws = ⟨b', none⟩) (hr : r ∈ b.registers)
    (hclear : ∀ i < ws.length, ¬ r.Covers (start.toNat + i)) : r ∈ b'.registers := by
  obtain ⟨hfree, rfl⟩ := bank_of_writeInPlace h
  exact mem_assignFrom hr (end_le_of_firstRefusal? hfree) hclear

/-- A request that is carried out keeps every register of which it writes no word. -/
theorem Fulfilled.mem {q : Request} {body : Body} (h : b.Fulfilled q b' body)
    (hq : q.fault? = none) (hr : r ∈ b.registers)
    (hclear : q.function.isWrite = true →
      ∀ i < q.quantity.toNat, ¬ r.Covers (q.function.logical q.address + i)) :
    r ∈ b'.registers := by
  obtain ⟨-, -, hvalues⟩ := Request.fault?_eq_none_iff.1 hq
  by_cases hread : q.function.isRead = true
  · rwa [h.unchanged hread]
  · have hwrite := Function.isWrite_iff.2 hread
    -- Both ways to write a block leave the registers outside it.
    have hkept {start : UInt16} (hstart : start.toNat = q.function.logical q.address)
        (hwritten : b.writeInPlace start q.values = ⟨b', none⟩) : r ∈ b'.registers := by
      refine mem_of_writeInPlace hwritten hr fun i hi => ?_
      rw [hstart]
      rw [hvalues hwrite] at hi
      exact hclear hwrite i hi
    unfold Fulfilled at h
    split at h
    · next hfunction => rw [hfunction] at hwrite; cases hwrite
    · next hfunction => rw [hfunction] at hwrite; cases hwrite
    · obtain ⟨start, value, hstart, hvalue, hwritten, -⟩ := h
      exact hkept hstart (hvalue ▸ hwritten)
    · obtain ⟨start, hstart, hwritten, -⟩ := h
      exact hkept hstart hwritten

/-- Serving some bytes changes nothing, or they are a request that is carried out. -/
theorem serve_unchanged_or_fulfilled (b : Bank) (unit : UInt8) (pdu : List UInt8) :
    (b.serve unit pdu).bank = b ∨
      ∃ f data body, pdu = Function.code f :: data ∧ ¬ Request.Malformed f data ∧
        (b.serve unit pdu).result = .ok ⟨some (.ofFields unit f data), ⟨unit, f.code, body⟩⟩ ∧
        b.Fulfilled (.ofFields unit f data) (b.serve unit pdu).bank body := by
  cases b.serving unit pdu with
  | empty hbank | unsupported _ hbank | malformed _ hbank | inaccessible _ _ hbank =>
    exact .inl hbank
  | accessible hwell _ hresult hfulfilled =>
    exact .inr ⟨_, _, _, rfl, hwell, hresult, hfulfilled⟩

/-- A register is as it was behind the bytes of a client, or they write a word of it. -/
theorem mem_serve_or_writes (hr : r ∈ b.registers) (unit : UInt8) (pdu : List UInt8) :
    r ∈ (b.serve unit pdu).bank.registers ∨ b.Writes unit pdu r := by
  obtain hsame | ⟨f, data, body, hpdu, hmalformed, hresult, hfulfilled⟩ :=
    b.serve_unchanged_or_fulfilled unit pdu
  · rw [hsame]
    exact .inl hr
  · by_cases hwrites : b.Writes unit pdu r
    · exact .inr hwrites
    · refine .inl (hfulfilled.mem (Request.fault?_ofFields hmalformed unit) hr ?_)
      intro hwrite i hi hcovers
      have hfunction : (Request.ofFields unit f data).function = f := rfl
      rw [Request.quantity_ofFields] at hi
      rw [hfunction, Request.logical_ofFields] at hcovers
      have hanswered : body.exception?.isSome = false := by
        rw [hfulfilled.exception?_eq_none, Option.isSome_none]
      exact hwrites ⟨f, data, _, hpdu, hwrite, hresult, hanswered, i, hi, hcovers⟩

end Bank

end SolarTwin

import SolarTwin.Proofs.Bank.Stores
import SolarTwin.Proofs.Modbus.Verdict
import SolarTwin.Proofs.Modbus.Writing

namespace SolarTwin

open Modbus

/-!
# Requests that may trade places

A request sees the layout and the words that it is about, and writes at most these words.  So two
requests that are about different words do not notice each other, even where their words belong to
one register, and neither do two requests to read.

* `Bank.eq_of_slots_of_word?` — a bank is known by its slots and its words;
* `Bank.result_serve_congr` — what the answer to some bytes depends on;
* `Bank.word?_serve_of_not_targets` — the words that some bytes are not about stay as they are;
* `Modbus.Request.Apart` and `Bank.commutes_of_apart` — requests whose order does not matter.
-/

namespace Bank

variable {b b' : Bank} {pdu : List UInt8}

/-! ### What a bank is known by -/

/-- A bank is known by its slots and its words. -/
theorem eq_of_slots_of_word? (h : b'.slots = b.slots) (hwords : ∀ x, b'.word? x = b.word? x) :
    b' = b := by
  have hwordAt (n : Nat) : b'.wordAt? n = b.wordAt? n := wordAt?_congr fun x _ => hwords x
  refine eq_of_slots_of_logical? h fun x => ?_
  cases hr : b.find? x with
  | none =>
    have hslot := slot?_of_find?_eq_none hr
    rw [logical?_eq_none_of_slot? hslot]
    rw [← slot?_congr h] at hslot
    exact logical?_eq_none_of_slot? hslot
  | some r =>
    obtain ⟨hmem, rfl⟩ := find?_eq_some_iff.1 hr
    obtain ⟨s, hs, hslot⟩ := exists_mem_of_slots h hmem
    have haddress : s.address = r.address := congrArg Slot.address hslot
    have hkind : s.value.kind = r.value.kind := congrArg Slot.kind hslot
    have hwidth : s.width = r.width := congrArg Kind.width hkind
    -- The two registers have the same words, and a value is composed of its words.
    have hsame : s.words = r.words := by
      refine List.ext_getElem? fun i => ?_
      by_cases hi : i < r.width
      · rw [← wordAt?_of_mem hmem hi, ← wordAt?_of_mem hs (hwidth ▸ hi), haddress, hwordAt]
      · have hout (t : Register) (ht : t.width = r.width) : t.words[i]? = none := by
          rw [List.getElem?_eq_none_iff, Register.length_words]
          omega
        rw [hout s hwidth, hout r rfl]
    have hvalue : s.value = r.value := by
      rw [← Value.ofWords_words s.value, hkind, show s.value.words = r.value.words from hsame,
        Value.ofWords_words]
    rw [logical?_of_mem hmem, ← haddress, logical?_of_mem hs, hvalue]

/-! ### What an answer depends on -/

theorem readFrom_congr {start count : Nat}
    (h : ∀ i < count, b'.wordAt? (start + i) = b.wordAt? (start + i)) :
    b'.readFrom start count = b.readFrom start count := by
  induction count generalizing start with
  | zero => rfl
  | succ count ih =>
    obtain ⟨hfirst, hrest⟩ :=
      (forall_succ_iff (P := fun n => b'.wordAt? n = b.wordAt? n)).1 h
    rw [readFrom_succ, readFrom_succ, hfirst, ih hrest]

/-- The answer to some bytes depends on the layout and the words that they are about. -/
theorem result_serve_congr (h : b'.layout = b.layout)
    (hwords : ∀ x : UInt16, Request.Targets pdu x.toNat → b'.word? x = b.word? x) (unit : UInt8) :
    (b'.serve unit pdu).result = (b.serve unit pdu).result := by
  cases b.serving unit pdu with
  | empty => rfl
  | @unsupported code data hcode _ hresult =>
    rw [hresult]
    exact (serve_of_invalid (Request.decode_of_unsupported hcode unit data) rfl).2
  | malformed hmalformed _ hresult =>
    obtain ⟨fault, hdecode⟩ := Request.decode_of_malformed hmalformed unit
    rw [hresult]
    exact (serve_of_invalid hdecode rfl).2
  | inaccessible hwell hbarred _ hresult =>
    rw [hresult]
    exact (serve_of_inaccessible unit hwell ((inaccessible_congr h).2 hbarred)).2
  | @accessible f data body hwell hopen hresult hfulfilled =>
    obtain ⟨body', hresult', hfulfilled'⟩ :=
      serve_of_accessible unit hwell (mt (inaccessible_congr h).1 hopen)
    rw [hresult, hresult']
    suffices body' = body by rw [this]
    by_cases hf : f.isRead = true
    · -- Both banks have the same words where the request reads.
      obtain ⟨ws, rfl, hread⟩ := hfulfilled.exists_words hf
      obtain ⟨ws', rfl, hread'⟩ := hfulfilled'.exists_words hf
      rw [readFrom_congr (b := b) fun i hi => ?_, hread, Except.ok.injEq] at hread'
      · rw [hread']
      · exact wordAt?_congr fun x hx => hwords x ⟨f, data, rfl, hwell, by omega, by omega⟩
    · have hw := Function.isWrite_iff.2 hf
      rw [hfulfilled.eq_echo hw, hfulfilled'.eq_echo hw]

/-! ### What some bytes leave alone -/

/-- A block of words that some bytes are about has no word for any other address. -/
private theorem blockWord?_eq_none {start : Nat} {ws : List UInt16}
    (htargets : ∀ i < ws.length, Request.Targets pdu (start + i)) {x : UInt16}
    (hx : ¬ Request.Targets pdu x.toNat) : blockWord? start ws x = none :=
  blockWord?_of_forall_ne fun i hi hsame => hx (hsame ▸ htargets i hi)

/-- The words that some bytes are not about stay as they are. -/
theorem word?_serve_of_not_targets {x : UInt16} (hx : ¬ Request.Targets pdu x.toNat)
    (unit : UInt8) : (b.serve unit pdu).bank.word? x = b.word? x := by
  obtain ⟨start, ws, htargets, hblock⟩ := exists_block b.layout pdu
  obtain ⟨hend, hbank⟩ := hblock b rfl
  rw [hbank unit, word?_assignFrom hend, blockWord?_eq_none htargets hx]
  exact Option.map_id'

/-- What some bytes make of a word depends on the layout and that word. -/
theorem word?_serve_congr (h : b'.layout = b.layout) {x : UInt16} (hx : b'.word? x = b.word? x)
    (unit : UInt8) : (b'.serve unit pdu).bank.word? x = (b.serve unit pdu).bank.word? x := by
  obtain ⟨start, ws, -, hblock⟩ := exists_block b.layout pdu
  obtain ⟨hend, hbank⟩ := hblock b rfl
  obtain ⟨-, hbank'⟩ := hblock b' h
  rw [hbank unit, hbank' unit, word?_assignFrom hend, word?_assignFrom hend, hx]

/-- No bytes change the layout. -/
theorem layout_serve (b : Bank) (unit : UInt8) (pdu : List UInt8) :
    (b.serve unit pdu).bank.layout = b.layout :=
  layout_congr (slots_serve b unit pdu)

end Bank

/-! ### Requests that commute -/

namespace Modbus.Request

/-- Whether some bytes begin with the byte of a function that reads. -/
def Reads (pdu : List UInt8) : Prop :=
  ∃ f data, pdu = Function.code f :: data ∧ f.isRead = true

/-- Two byte strings that both read, or are about different words. -/
def Apart (p q : List UInt8) : Prop :=
  (Reads p ∧ Reads q) ∨ ∀ n, ¬ (Targets p n ∧ Targets q n)

/-- The words that the bytes behind a function byte are about. -/
theorem targets_code_iff {f : Function} {data : List UInt8} {n : Nat} :
    Targets (f.code :: data) n ↔
      ¬ Malformed f data ∧ first f data ≤ n ∧ n < first f data + wanted f data := by
  constructor
  · rintro ⟨g, data', hpdu, h⟩
    obtain ⟨hcode, rfl⟩ := List.cons.inj hpdu
    obtain rfl := Function.code_inj hcode
    exact h
  · exact fun h => ⟨f, data, rfl, h⟩

theorem Apart.symm {p q : List UInt8} (h : Apart p q) : Apart q p :=
  h.imp And.symm fun hdisjoint n hn => hdisjoint n hn.symm

end Modbus.Request

namespace Bank

variable {b : Bank} {p q : List UInt8}

/-- Two requests have the same answers and leave the same bank in either order. -/
structure Commutes (b : Bank) (u : UInt8) (p : List UInt8) (v : UInt8) (q : List UInt8) :
    Prop where
  first : ((b.serve v q).bank.serve u p).result = (b.serve u p).result
  second : ((b.serve u p).bank.serve v q).result = (b.serve v q).result
  bank : ((b.serve u p).bank.serve v q).bank = ((b.serve v q).bank.serve u p).bank

theorem bank_serve_of_reads (h : Request.Reads p) (unit : UInt8) : (b.serve unit p).bank = b := by
  obtain ⟨f, data, rfl, hf⟩ := h
  rcases b.serve_unchanged_or_fulfilled unit (f.code :: data) with hsame | hfulfilled
  · exact hsame
  · obtain ⟨g, data', body, hpdu, -, -, hdone⟩ := hfulfilled
    obtain rfl := Function.code_inj (List.cons.inj hpdu).1
    exact hdone.unchanged hf

/-- A request that is about other words is answered as if nothing had come before it. -/
theorem result_after_serve (h : Request.Apart p q) (u v : UInt8) :
    ((b.serve v q).bank.serve u p).result = (b.serve u p).result := by
  rcases h with ⟨-, hreads⟩ | hdisjoint
  · rw [bank_serve_of_reads hreads]
  · refine result_serve_congr (layout_serve b v q) (fun x hx => ?_) u
    exact word?_serve_of_not_targets (fun hq => hdisjoint x.toNat ⟨hx, hq⟩) v

/-- Two blocks without a common address may be written in either order. -/
theorem bank_serve_serve (hdisjoint : ∀ n, ¬ (Request.Targets p n ∧ Request.Targets q n))
    (u v : UInt8) :
    ((b.serve u p).bank.serve v q).bank = ((b.serve v q).bank.serve u p).bank := by
  refine eq_of_slots_of_word? (by simp only [slots_serve]) fun x => ?_
  -- At most one of the two is about the word, and the other one leaves it to that one.
  by_cases hp : Request.Targets p x.toNat
  · have hq : ¬ Request.Targets q x.toNat := fun hq => hdisjoint x.toNat ⟨hp, hq⟩
    rw [word?_serve_of_not_targets hq]
    exact (word?_serve_congr (layout_serve b v q) (word?_serve_of_not_targets hq v) u).symm
  · rw [word?_serve_of_not_targets hp]
    exact word?_serve_congr (layout_serve b u p) (word?_serve_of_not_targets hp u) v

/-- Requests that both read or are about different words commute. -/
theorem commutes_of_apart (h : Request.Apart p q) (u v : UInt8) : b.Commutes u p v q := by
  refine ⟨result_after_serve h u v, result_after_serve h.symm v u, ?_⟩
  rcases h with ⟨hp, hq⟩ | hdisjoint
  · simp only [bank_serve_of_reads hp, bank_serve_of_reads hq]
  · exact bank_serve_serve hdisjoint u v

end Bank

end SolarTwin

import SolarTwin.Proofs.Modbus.Service

namespace SolarTwin

open Modbus

/-!
# Warnings of refused writes

A block that may not be written leaves warnings, each of which ends in the address at fault.  They
come from the bank and from the write on its behalf, so a request that starts past the address space
leaves none: it is answered before the bank is asked.

* `Journal.warnings` and `Line.Names` — the warnings of a journal and the address a line ends in;
* `Bank.AtFault` — the address at fault in a block, said of the registers alone;
* `Bank.RefusedWrite` — some bytes are a request to write that is answered with an illegal address;
* `Bank.warnings_of_process` — what carrying out a request warns of;
* `Bank.refused_writes_warn` — which of all byte strings leave warnings, and what these name.
-/

/-! ### Lines that name an address -/

/-- The warnings of a journal. -/
def Journal.warnings (j : Journal) : Journal := j.filter (·.level = .warn)

@[simp] theorem Journal.warnings_nil : Journal.warnings [] = [] := rfl

@[simp] theorem Journal.warnings_append (j k : Journal) :
    Journal.warnings (j ++ k) = j.warnings ++ k.warnings := List.filter_append ..

@[simp] theorem Journal.warnings_debug (text : String) : Journal.warnings [.debug text] = [] := rfl

@[simp] theorem Journal.warnings_warn (text : String) :
    Journal.warnings [.warn text] = [.warn text] := rfl

/-- Whether a text ends in a number, with a blank before it. -/
def EndsIn (text : String) (n : Nat) : Prop :=
  ∃ front : String, text = front ++ " " ++ toString n

/-- Whether a line names an address, which then stands at its end. -/
def Line.Names (l : Line) (n : Nat) : Prop := EndsIn l.text n

private theorem endsIn_append_number (front : String) {text : String} (h : text = front ++ " ")
    (n : Nat) : EndsIn (text ++ toString n) n :=
  ⟨front, by rw [h]⟩

theorem EndsIn.append {text : String} {n : Nat} (h : EndsIn text n) (before : String) :
    EndsIn (before ++ text) n := by
  obtain ⟨front, rfl⟩ := h
  exact ⟨before ++ front, by simp only [String.append_assoc]⟩

/-- The address an error is about, if it concerns access to a word. -/
def Error.address? : Error → Option Nat
  | .unmapped a | .accessDenied a => some a
  | _ => none

/-- The wording of an error about a word ends in its address. -/
theorem Error.endsIn_message {e : Error} {n : Nat} (he : e.address? = some n) :
    EndsIn e.message n := by
  cases e with
  | unmapped a =>
    obtain rfl := Option.some.inj he
    exact endsIn_append_number "Unmapped register address" (by decide) _
  | accessDenied a =>
    obtain rfl := Option.some.inj he
    exact endsIn_append_number "Write denied to read-only register at" (by decide) _
  | _ => cases he

namespace Bank

variable {b : Bank}

/-- What the bank writes about a refusal are warnings. -/
@[simp] theorem warnings_refusalLines (e : Error) :
    (refusalLines e).warnings = refusalLines e := by
  cases e with
  | unmapped a =>
    simp only [refusalLines]
    split <;> rfl
  | _ => rfl

/-- What the bank writes about a refusal names its address. -/
private theorem names_of_mem_refusalLines {e : Error} {n : Nat} (he : e.address? = some n)
    {l : Line} (hl : l ∈ refusalLines e) : l.Names n := by
  cases e with
  | unmapped a =>
    obtain rfl := Option.some.inj he
    simp only [refusalLines] at hl
    split at hl
    · obtain rfl := List.mem_singleton.1 hl
      exact endsIn_append_number "Write to unmapped address" (by decide) _
    · cases hl
  | accessDenied a =>
    obtain rfl := Option.some.inj he
    obtain rfl := List.mem_singleton.1 hl
    exact endsIn_append_number "Denied write to read-only register" (by decide) _
  | _ => cases he

/-! ### The address at fault -/

/-- The address at fault in a block: that of the first word that may not be written if nothing owns
    it or it lies past the address space, else the start of the read-only register that owns it. -/
def AtFault (b : Bank) (start count n : Nat) : Prop :=
  ∃ i < count, ∃ e : Error, (∀ j < i, ∀ e', ¬ b.Refused (start + j) e') ∧
    b.Refused (start + i) e ∧ e.address? = some n

theorem Refused.exists_address? {n : Nat} {e : Error} (h : b.Refused n e) :
    ∃ a, e.address? = some a := by
  cases h <;> exact ⟨_, rfl⟩

/-- The first refusal in a block names the address at fault. -/
theorem exists_atFault_of_firstRefusal? {start count : Nat} {e : Error}
    (h : b.firstRefusal? start count = some e) :
    ∃ n, b.AtFault start count n ∧ e.address? = some n := by
  obtain ⟨i, hi, hbefore, hrefusal⟩ := firstRefusal?_eq_some_iff.1 h
  have hrefused := refusal?_eq_some_iff.1 hrefusal
  obtain ⟨n, hn⟩ := hrefused.exists_address?
  exact ⟨n, ⟨i, hi, e, fun j hj => refusal?_eq_none_iff_not_refused.1 (hbefore j hj),
    hrefused, hn⟩, hn⟩

/-! ### What a write warns of -/

/-- A block that is written leaves no warning; else there are those of the bank, and one of the
    write itself. -/
theorem warnings_writeBlock (b : Bank) (start : UInt16) (ws : List UInt16) :
    (b.writeBlock start ws).journal.warnings =
      match b.firstRefusal? start.toNat ws.length with
      | none => []
      | some e => refusalLines e ++
        [.warn s!"Rejected write of {ws.length} word(s) at logical {start.toNat}: {e.message}"] := by
  rw [writeBlock_eq, writeInPlace_eq]
  cases b.firstRefusal? start.toNat ws.length with
  | none => rfl
  | some e =>
    show Journal.warnings (refusalLines e ++ [Line.warn _]) = _
    rw [Journal.warnings_append, warnings_refusalLines, Journal.warnings_warn]

/-- Every warning of a block that is refused names the address at fault. -/
theorem warnings_of_refusal {start : UInt16} {ws : List UInt16} {e : Error}
    (h : b.firstRefusal? start.toNat ws.length = some e) :
    (b.writeBlock start ws).journal.warnings ≠ [] ∧
      ∃ n, b.AtFault start.toNat ws.length n ∧
        ∀ l ∈ (b.writeBlock start ws).journal.warnings, l.Names n := by
  obtain ⟨n, hfault, hn⟩ := exists_atFault_of_firstRefusal? h
  rw [warnings_writeBlock, h]
  refine ⟨by simp, n, hfault, fun l hl => ?_⟩
  rcases List.mem_append.1 hl with hl | hl
  · exact names_of_mem_refusalLines hn hl
  · obtain rfl := List.mem_singleton.1 hl
    exact (Error.endsIn_message hn).append _

/-! ### What a request warns of -/

/-- Carrying out a request without fault leaves warnings exactly if it writes, starts inside the
    address space and one of its words is inaccessible; they name the address at fault. -/
theorem warnings_of_process {q : Request} (hq : q.fault? = none) :
    ((b.process q).journal.warnings ≠ [] ↔
      q.function.isWrite = true ∧ q.function.logical q.address ≤ 65535 ∧
        b.Inaccessible q.function (q.function.logical q.address) q.quantity.toNat) ∧
    ((b.process q).journal.warnings ≠ [] →
      ∃ n, b.AtFault (q.function.logical q.address) q.quantity.toNat n ∧
        ∀ l ∈ (b.process q).journal.warnings, l.Names n) := by
  obtain ⟨-, -, hvalues⟩ := Request.fault?_eq_none_iff.1 hq
  cases hlogical : q.function.logical? q.address with
  | none =>
    -- The request is turned down before anything is written about it.
    have houtside : 65535 < q.function.logical q.address := by
      by_contra hinside
      obtain ⟨start, hstart⟩ := exists_toNat_eq hinside
      rw [logical?_eq_some_iff.2 hstart] at hlogical
      cases hlogical
    have hnone : (b.process q).journal = [] := by
      rw [process_of_outside hq hlogical]
    rw [hnone]
    simp [Nat.not_le.2 houtside]
  | some start =>
    have hstart := logical?_eq_some_iff.1 hlogical
    have hinside : q.function.logical q.address ≤ 65535 := by
      have := start.toNat_lt
      omega
    rw [process_eq hq hstart]
    by_cases hf : q.function.isRead = true
    · have hread : ¬ q.function.isWrite = true := by simp [Function.isWrite, hf]
      rw [processAt_of_isRead hf]
      simp [hread]
    · have hw := Function.isWrite_iff.2 hf
      have hjournal : (b.processAt q start).journal = (b.writeBlock start q.values).journal := by
        rw [processAt_eq_of_isWrite hw]
      rw [hjournal, ← hstart, ← hvalues hw]
      cases hrefusal : b.firstRefusal? start.toNat q.values.length with
      | none =>
        have haccessible := (accessible_iff_of_isWrite hw).2 hrefusal
        rw [warnings_writeBlock, hrefusal]
        simp [haccessible]
      | some e =>
        have hbarred : b.Inaccessible q.function start.toNat q.values.length := by
          by_contra haccessible
          rw [(accessible_iff_of_isWrite hw).1 haccessible] at hrefusal
          cases hrefusal
        obtain ⟨hsome, hnamed⟩ := warnings_of_refusal hrefusal
        exact ⟨iff_of_true hsome ⟨hw, hstart ▸ hinside, hbarred⟩, fun _ => hnamed⟩

/-! ### What serving some bytes warns of -/

/-- Replying adds nothing to the warnings of a request. -/
theorem warnings_handle (b : Bank) (q : Request) :
    (b.handle q).journal.warnings = (b.process q).journal.warnings := by
  cases hresult : (b.process q).result with
  | ok body => simp only [handle, hresult]
  | error e =>
    simp only [handle, hresult, Journal.warnings_append, Journal.warnings_debug, List.append_nil]

/-- Bytes that are no request leave no warning. -/
theorem warnings_of_undecoded {unit : UInt8} {pdu : List UInt8} {e : Error}
    (h : Request.decode unit pdu = .error e) : (b.serve unit pdu).journal.warnings = [] := by
  rw [serve, h]
  cases e <;> rfl

theorem serve_of_decoded {unit : UInt8} {pdu : List UInt8} {q : Request}
    (h : Request.decode unit pdu = .ok q) :
    b.serve unit pdu =
      ⟨(b.handle q).bank, (b.handle q).journal, .ok ⟨some q, (b.handle q).result⟩⟩ := by
  rw [serve, h]

/-- Whether some bytes are a request to write that is answered with an illegal address. -/
def RefusedWrite (b : Bank) (unit : UInt8) (pdu : List UInt8) (q : Request) : Prop :=
  Request.decode unit pdu = .ok q ∧ q.function.isWrite = true ∧
    ∃ a, (b.serve unit pdu).result = .ok a ∧ a.reply.body = .exception .illegalDataAddress

/-- A request is answered with an illegal address exactly if one of its words is inaccessible. -/
theorem body_handle_iff {q : Request} (hq : q.fault? = none) :
    (b.handle q).result.body = .exception .illegalDataAddress ↔
      b.Inaccessible q.function (q.function.logical q.address) q.quantity.toNat := by
  by_cases hbarred : b.Inaccessible q.function (q.function.logical q.address) q.quantity.toNat
  · obtain ⟨-, e, hresult, he⟩ := process_of_inaccessible hq hbarred
    rw [(handle_of_error hresult).2, he]
    exact iff_of_true rfl hbarred
  · obtain ⟨body, hresult, hfulfilled⟩ := process_of_accessible hq hbarred
    rw [(handle_of_ok hresult).2]
    exact iff_of_false (hfulfilled.ne_exception _) hbarred

theorem refusedWrite_iff {unit : UInt8} {pdu : List UInt8} {q : Request}
    (hdecode : Request.decode unit pdu = .ok q) :
    b.RefusedWrite unit pdu q ↔ q.function.isWrite = true ∧
      b.Inaccessible q.function (q.function.logical q.address) q.quantity.toNat := by
  rw [RefusedWrite, serve_of_decoded hdecode, ← body_handle_iff (Request.fault?_of_decode hdecode)]
  simp [hdecode]

/-- **Which bytes leave warnings.**  They are the requests to write that are answered with an
    illegal address and start inside the address space.  Whatever is answered normally, whatever
    reads and whatever is no request leaves none, and neither does a write that starts past the
    address space.  Every warning ends in the address at fault: the first address of the block that
    is unmapped or past the address space, or the start of the read-only register that owns it. -/
theorem refused_writes_warn (b : Bank) (unit : UInt8) (pdu : List UInt8) :
    ((b.serve unit pdu).journal.warnings ≠ [] ↔
      ∃ q, b.RefusedWrite unit pdu q ∧ q.function.logical q.address ≤ 65535) ∧
    ∀ q, b.RefusedWrite unit pdu q → q.function.logical q.address ≤ 65535 →
      ∃ n, b.AtFault (q.function.logical q.address) q.quantity.toNat n ∧
        ∀ l ∈ (b.serve unit pdu).journal.warnings, l.Names n := by
  cases hdecode : Request.decode unit pdu with
  | error e =>
    have hnone (q : Request) : ¬ b.RefusedWrite unit pdu q := fun h => by
      rw [RefusedWrite, hdecode] at h
      cases h.1
    rw [warnings_of_undecoded hdecode]
    simp [hnone]
  | ok q =>
    obtain ⟨hwarned, hnamed⟩ := warnings_of_process (b := b) (Request.fault?_of_decode hdecode)
    have hrefused := refusedWrite_iff (b := b) hdecode
    have honly {q' : Request} (h : b.RefusedWrite unit pdu q') : q' = q :=
      Except.ok.inj (h.1.symm.trans hdecode)
    have hwarnings : (b.serve unit pdu).journal.warnings = (b.process q).journal.warnings := by
      rw [serve_of_decoded hdecode]
      exact warnings_handle b q
    rw [hwarnings]
    constructor
    · rw [hwarned]
      constructor
      · rintro ⟨hw, hinside, hbarred⟩
        exact ⟨q, hrefused.2 ⟨hw, hbarred⟩, hinside⟩
      · rintro ⟨q', hq', hinside⟩
        obtain rfl := honly hq'
        obtain ⟨hw, hbarred⟩ := hrefused.1 hq'
        exact ⟨hw, hinside, hbarred⟩
    · intro q' hq' hinside
      obtain rfl := honly hq'
      obtain ⟨hw, hbarred⟩ := hrefused.1 hq'
      exact hnamed (hwarned.2 ⟨hw, hinside, hbarred⟩)

/-- A bank in which a register that can only be read follows one that can be written. -/
def guardedBank : Bank where
  registers := [.zero 40001 .u16 .raw .readWrite, .zero 40002 .u32 .raw .readOnly]
  wellLaid := ⟨by decide, by decide⟩

/-- Two words, of which the second lies in a register that can only be read. -/
theorem refused_writes_warn_guardedBank :
    guardedBank.RefusedWrite 1 [16, 0, 0, 0, 2, 4, 0, 7, 0, 8] (.writeMultiple 1 0 [7, 8]) ∧
      (guardedBank.serve 1 [16, 0, 0, 0, 2, 4, 0, 7, 0, 8]).journal.warnings ≠ [] ∧
      ∃ n, guardedBank.AtFault 40001 2 n ∧
        ∀ l ∈ (guardedBank.serve 1 [16, 0, 0, 0, 2, 4, 0, 7, 0, 8]).journal.warnings,
          l.Names n := by
  have hrefused : guardedBank.RefusedWrite 1 [16, 0, 0, 0, 2, 4, 0, 7, 0, 8]
      (.writeMultiple 1 0 [7, 8]) := ⟨rfl, rfl, _, rfl, rfl⟩
  obtain ⟨hwarned, hnamed⟩ :=
    refused_writes_warn guardedBank 1 [16, 0, 0, 0, 2, 4, 0, 7, 0, 8]
  exact ⟨hrefused, hwarned.2 ⟨_, hrefused, by decide⟩, hnamed _ hrefused (by decide)⟩

/-- A write that starts past the address space is answered with an illegal address and leaves no
    warning. -/
theorem refused_write_without_warning :
    (∃ q, empty.RefusedWrite 1 [6, 255, 255, 0, 1] q ∧ q.function.logical q.address = 105536) ∧
      (empty.serve 1 [6, 255, 255, 0, 1]).journal.warnings = [] :=
  ⟨⟨.writeSingle 1 65535 1, ⟨rfl, rfl, _, rfl, rfl⟩, by decide⟩, rfl⟩

end Bank

end SolarTwin

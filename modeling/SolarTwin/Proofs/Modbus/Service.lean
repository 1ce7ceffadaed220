import SolarTwin.Modbus.Service
import SolarTwin.Proofs.Bank.Block
import SolarTwin.Proofs.Modbus.Decoding

namespace SolarTwin

open Modbus

/-!
# How requests are answered

A request is answered by the first of four things that applies: its function is unknown, its bytes
are malformed, one of its words is inaccessible, or it is carried out.

* `Bank.Inaccessible` — what keeps a block of words from a request, said of the registers alone;
* `Bank.Fulfilled` — what a request leaves that is carried out;
* `Bank.process_of_accessible` and `Bank.process_of_inaccessible` — a request without fault is
  carried out exactly if its words are accessible;
* `Bank.Serving` and `Bank.serving` — the ways in which some bytes are served;
* `Bank.fulfilled_of_normal` — only a request that is carried out is answered normally;
* `Bank.serve_outcome` — the answer to every byte string.
-/

namespace Bank

/-! ### Access to a block -/

/-- Whether an address of any size is kept from a function: it lies past the address space or in no
    register, or is to be written and lies in a read-only one. -/
def Barred (b : Bank) (f : Function) (n : Nat) : Prop :=
  65535 < n ∨ (∀ r ∈ b.registers, ¬ r.Covers n) ∨
    (f.isWrite = true ∧ ∃ r ∈ b.registers, r.Covers n ∧ r.access = .readOnly)

/-- Whether one of `count` words from `start` on is kept from a function. -/
def Inaccessible (b : Bank) (f : Function) (start count : Nat) : Prop :=
  ∃ i < count, b.Barred f (start + i)

private theorem barred_of_isRead {b : Bank} {f : Function} (hf : f.isRead = true) {n : Nat} :
    b.Barred f n ↔ b.wordAt? n = none := by
  rw [wordAt?_eq_none_iff, Barred]
  simp [Function.isWrite, hf]

private theorem barred_of_isWrite {b : Bank} {f : Function} (hf : f.isWrite = true) {n : Nat} :
    b.Barred f n ↔ b.refusal? n ≠ none := by
  rw [Option.ne_none_iff_exists']
  simp only [refusal?_eq_some_iff]
  constructor
  · -- Inside the address space a barred address is a word address.
    rintro (hn | hnone | ⟨-, r, hr, hcovers, haccess⟩)
    · exact ⟨_, .outside hn⟩
    · by_cases hn : 65535 < n
      · exact ⟨_, .outside hn⟩
      · obtain ⟨a, rfl⟩ := exists_toNat_eq hn
        exact ⟨_, .unowned rfl fun r hr =>
          Bool.eq_false_iff.2 fun howns => hnone r hr (Register.covers_toNat_iff.2 howns)⟩
    · have hend := b.wellLaid.inside r hr
      obtain ⟨a, rfl⟩ := exists_toNat_eq (n := n) (by
        have := hcovers.2
        rw [Layout.addressSpace] at hend
        omega)
      exact ⟨_, .readOnly rfl hr (Register.covers_toNat_iff.1 hcovers) haccess⟩
  · rintro ⟨e, hn | ⟨rfl, h⟩ | ⟨rfl, hr, howns, haccess⟩⟩
    · exact .inl hn
    · refine .inr (.inl fun r hr hcovers => ?_)
      rw [Register.covers_toNat_iff, h r hr] at hcovers
      cases hcovers
    · exact .inr (.inr ⟨hf, _, hr, Register.covers_toNat_iff.2 howns, haccess⟩)

/-- A block is accessible to a function that reads exactly if it is read. -/
theorem accessible_iff_of_isRead {b : Bank} {f : Function} (hf : f.isRead = true)
    {start count : Nat} :
    ¬ b.Inaccessible f start count ↔ ∃ ws, b.readFrom start count = .ok ws := by
  simp only [exists_readFrom_eq_ok_iff, Inaccessible, barred_of_isRead hf, not_exists, not_and,
    ne_eq]

/-- A block is accessible to a function that writes exactly if no word of it is refused. -/
theorem accessible_iff_of_isWrite {b : Bank} {f : Function} (hf : f.isWrite = true)
    {start count : Nat} :
    ¬ b.Inaccessible f start count ↔ b.firstRefusal? start count = none := by
  simp only [firstRefusal?_eq_none_iff, Inaccessible, barred_of_isWrite hf, not_exists, not_and,
    ne_eq, not_not]

/-- Where some words are accessible, the first of them lies inside the address space. -/
theorem exists_toNat_of_accessible {b : Bank} {f : Function} {start count : Nat}
    (hpos : 0 < count) (h : ¬ b.Inaccessible f start count) : ∃ a : UInt16, a.toNat = start :=
  exists_toNat_eq fun hout => h ⟨0, hpos, .inl (by simpa using hout)⟩

/-! ### Carrying out a request -/

/-- What a request leaves that is carried out: a read the bank as it was, and the words in order; a
    write the bank with the block written, and its own address with its value or quantity. -/
def Fulfilled (b : Bank) (q : Request) (b' : Bank) (body : Body) : Prop :=
  match q.function with
  | .readHolding | .readInput =>
    b' = b ∧ ∃ ws, body = .registers ws ∧
      (List.range q.quantity.toNat).map
        (fun i => b.wordAt? (q.function.logical q.address + i)) = ws.map some
  | .writeSingle =>
    ∃ start value, start.toNat = q.function.logical q.address ∧ q.values = [value] ∧
      b.writeInPlace start [value] = ⟨b', none⟩ ∧ body = .wroteSingle q.address value
  | .writeMultiple =>
    ∃ start, start.toNat = q.function.logical q.address ∧
      b.writeInPlace start q.values = ⟨b', none⟩ ∧ body = .wroteMultiple q.address q.quantity

theorem logical?_eq_some_iff {f : Function} {wire start : UInt16} :
    f.logical? wire = some start ↔ start.toNat = f.logical wire := by
  unfold Function.logical?
  by_cases h : f.logical wire < 65536
  · rw [if_pos h, Option.some.injEq, ← UInt16.toNat_inj, UInt16.toNat_ofNat']
    omega
  · have := start.toNat_lt
    rw [if_neg h]
    simp only [reduceCtorEq, false_iff]
    omega

/-- What keeps a word from being written is answered with an illegal address. -/
theorem Refused.exception_eq {b : Bank} {n : Nat} {e : Error} (h : b.Refused n e) :
    e.exception = .illegalDataAddress := by
  cases h <;> rfl

/-- A request with a fault is turned down before the bank is asked. -/
theorem process_of_fault {b : Bank} {q : Request} {fault : DataFault} (h : q.fault? = some fault) :
    b.process q = ⟨b, [], .error (.invalidData fault)⟩ := by
  rw [process, processBy, h]
  rfl

/-- So is a request that starts past the address space. -/
theorem process_of_outside {b : Bank} {q : Request} (hq : q.fault? = none)
    (h : q.function.logical? q.address = none) :
    b.process q = ⟨b, [], .error (.unmapped (q.function.logical q.address))⟩ := by
  rw [process, processBy, hq, h]
  rfl

theorem process_eq {b : Bank} {q : Request} {start : UInt16} (hq : q.fault? = none)
    (hstart : start.toNat = q.function.logical q.address) :
    b.process q = b.processAt q start := by
  rw [process, processBy, hq, logical?_eq_some_iff.2 hstart]
  rfl

theorem processAt_of_isRead {b : Bank} {q : Request} (hf : q.function.isRead = true)
    (start : UInt16) :
    b.processAt q start =
      ⟨b, [], (b.readFrom start.toNat q.quantity.toNat).map .registers⟩ := by
  rw [processAt, processAtBy, if_pos hf]
  rfl

theorem writeBlock_eq (b : Bank) (start : UInt16) (ws : List UInt16) :
    b.writeBlock start ws =
      match (b.writeInPlace start ws).error? with
      | none =>
        ⟨(b.writeInPlace start ws).bank,
          [.debug s!"Wrote [{Hex.words ws}] at logical address {start.toNat}"], .ok ()⟩
      | some e =>
        ⟨(b.writeInPlace start ws).bank, refusalLines e ++
          [.warn s!"Rejected write of {ws.length} word(s) at logical {start.toNat}: {e.message}"],
          .error e⟩ := rfl

/-- A write does what the block written does, and then echoes the request. -/
theorem processAt_eq_of_isWrite {b : Bank} {q : Request} (hf : q.function.isWrite = true)
    (start : UInt16) :
    b.processAt q start =
      ⟨(b.writeBlock start q.values).bank, (b.writeBlock start q.values).journal,
        (b.writeBlock start q.values).result.map fun _ => echo q⟩ := by
  have hwritten : b.writeBlockBy .lenient start q.values =
      (pure (b.writeBlock start q.values) : Id _) := rfl
  rw [processAt, processAtBy, if_neg (Function.isWrite_iff.1 hf), hwritten, pure_bind]
  cases (b.writeBlock start q.values).result <;> rfl

/-- A write leaves the bank of the block written and fails with it. -/
theorem processAt_of_isWrite {b : Bank} {q : Request} (hf : q.function.isWrite = true)
    (start : UInt16) :
    (b.processAt q start).bank = (b.writeInPlace start q.values).bank ∧
      (b.processAt q start).result =
        match (b.writeInPlace start q.values).error? with
        | some e => .error e
        | none => .ok (echo q) := by
  rw [processAt_eq_of_isWrite hf, writeBlock_eq]
  cases (b.writeInPlace start q.values).error? <;> exact ⟨rfl, rfl⟩

/-- A request for inaccessible words is answered with an illegal address and changes nothing. -/
theorem process_of_inaccessible {b : Bank} {q : Request} (hq : q.fault? = none)
    (h : b.Inaccessible q.function (q.function.logical q.address) q.quantity.toNat) :
    (b.process q).bank = b ∧
      ∃ e, (b.process q).result = .error e ∧ e.exception = .illegalDataAddress := by
  obtain ⟨-, -, hvalues⟩ := Request.fault?_eq_none_iff.1 hq
  -- A request that starts past the address space is rejected before the bank is asked.
  cases hlogical : q.function.logical? q.address with
  | none =>
    rw [process_of_outside hq hlogical]
    exact ⟨rfl, _, rfl, rfl⟩
  | some start =>
    have hstart := logical?_eq_some_iff.1 hlogical
    rw [process_eq hq hstart]
    rw [← hstart] at h
    by_cases hf : q.function.isRead = true
    · cases hread : b.readFrom start.toNat q.quantity.toNat with
      | ok ws => exact absurd h ((accessible_iff_of_isRead hf).2 ⟨ws, hread⟩)
      | error e =>
        obtain ⟨_, -, -, -, rfl⟩ := readFrom_eq_error_iff.1 hread
        rw [processAt_of_isRead hf, hread]
        exact ⟨rfl, _, rfl, rfl⟩
    · have hw := Function.isWrite_iff.2 hf
      obtain ⟨hbank, hresult⟩ := processAt_of_isWrite (b := b) hw start
      rw [hbank, hresult, writeInPlace_eq, hvalues hw]
      cases hrefusal : b.firstRefusal? start.toNat q.quantity.toNat with
      | none => exact absurd h ((accessible_iff_of_isWrite hw).2 hrefusal)
      | some e =>
        obtain ⟨_, -, -, hrefused⟩ := firstRefusal?_eq_some_iff.1 hrefusal
        exact ⟨rfl, e, rfl, (refusal?_eq_some_iff.1 hrefused).exception_eq⟩

/-- A request for accessible words is carried out. -/
theorem process_of_accessible {b : Bank} {q : Request} (hq : q.fault? = none)
    (h : ¬ b.Inaccessible q.function (q.function.logical q.address) q.quantity.toNat) :
    ∃ body, (b.process q).result = .ok body ∧ b.Fulfilled q (b.process q).bank body := by
  obtain ⟨hpos, hmax, hvalues⟩ := Request.fault?_eq_none_iff.1 hq
  obtain ⟨start, hstart⟩ := exists_toNat_of_accessible hpos h
  rw [process_eq hq hstart]
  rw [← hstart] at h
  by_cases hf : q.function.isRead = true
  · obtain ⟨ws, hread⟩ := (accessible_iff_of_isRead hf).1 h
    have hwords := readFrom_eq_ok_iff.1 hread
    rw [hstart] at hwords
    rw [processAt_of_isRead hf, hread]
    refine ⟨.registers ws, rfl, ?_⟩
    unfold Fulfilled
    cases hfunction : q.function <;> rw [hfunction] at hf hwords
    case readHolding => exact ⟨rfl, ws, rfl, hwords⟩
    case readInput => exact ⟨rfl, ws, rfl, hwords⟩
    all_goals cases hf
  · have hw := Function.isWrite_iff.2 hf
    obtain ⟨hbank, hresult⟩ := processAt_of_isWrite (b := b) hw start
    have hfree := (accessible_iff_of_isWrite hw).1 h
    have hwritten : b.writeInPlace start q.values = ⟨b.assignFrom start.toNat q.values, none⟩ := by
      rw [writeInPlace_eq, hvalues hw, hfree]
    rw [hbank, hresult, hwritten]
    refine ⟨echo q, rfl, ?_⟩
    unfold Fulfilled echo echoBy
    cases hfunction : q.function <;> rw [hfunction] at hw hstart hmax
    case writeSingle =>
      have hone : q.values.length = 1 := by
        have := hvalues (by rw [hfunction]; rfl)
        simp only [Function.maxQuantity] at hmax
        omega
      obtain ⟨value, hvalue⟩ := List.length_eq_one_iff.1 hone
      rw [hvalue] at hwritten ⊢
      exact ⟨start, value, hstart, rfl, hwritten, rfl⟩
    case writeMultiple => exact ⟨start, hstart, hwritten, rfl⟩
    all_goals cases hw

/-- What is carried out is not answered with an exception. -/
theorem Fulfilled.ne_exception {b b' : Bank} {q : Request} {body : Body}
    (h : b.Fulfilled q b' body) (e : Exception) : body ≠ .exception e := by
  unfold Fulfilled at h
  split at h
  · obtain ⟨-, ws, rfl, -⟩ := h
    exact Body.noConfusion
  · obtain ⟨-, ws, rfl, -⟩ := h
    exact Body.noConfusion
  · obtain ⟨start, value, -, -, -, rfl⟩ := h
    exact Body.noConfusion
  · obtain ⟨start, -, -, rfl⟩ := h
    exact Body.noConfusion

theorem Fulfilled.exception?_eq_none {b b' : Bank} {q : Request} {body : Body}
    (h : b.Fulfilled q b' body) : body.exception? = none := by
  cases body with
  | exception e => exact absurd rfl (h.ne_exception e)
  | registers | wroteSingle | wroteMultiple => rfl

/-- A request to write that is carried out is answered with its echo. -/
theorem Fulfilled.eq_echo {b b' : Bank} {unit : UInt8} {f : Function} {data : List UInt8}
    {body : Body} (h : b.Fulfilled (.ofFields unit f data) b' body) (hf : f.isWrite = true) :
    body = echo (.ofFields unit f data) := by
  unfold Fulfilled at h
  cases f with
  | readHolding | readInput => cases hf
  | writeSingle =>
    obtain ⟨_, value, -, hvalue, -, rfl⟩ := h
    obtain rfl : Request.field data 2 = value := (List.cons.inj hvalue).1
    rfl
  | writeMultiple =>
    obtain ⟨_, -, -, rfl⟩ := h
    rfl

theorem Fulfilled.unchanged {b b' : Bank} {q : Request} {body : Body}
    (h : b.Fulfilled q b' body) (hf : q.function.isRead = true) : b' = b := by
  unfold Fulfilled at h
  split at h
  · exact h.1
  · exact h.1
  · next hfunction => rw [hfunction] at hf; cases hf
  · next hfunction => rw [hfunction] at hf; cases hf

theorem bank_of_writeInPlace {b b' : Bank} {start : UInt16} {ws : List UInt16}
    (h : b.writeInPlace start ws = ⟨b', none⟩) :
    b.firstRefusal? start.toNat ws.length = none ∧ b' = b.assignFrom start.toNat ws := by
  rw [writeInPlace_eq] at h
  cases hfree : b.firstRefusal? start.toNat ws.length with
  | some e =>
    rw [hfree] at h
    cases h
  | none =>
    rw [hfree] at h
    exact ⟨rfl, (Attempt.mk.inj h).1.symm⟩

/-- A request to read that is carried out is answered with the words of its block. -/
theorem Fulfilled.exists_words {b b' : Bank} {unit : UInt8} {f : Function} {data : List UInt8}
    {body : Body} (h : b.Fulfilled (.ofFields unit f data) b' body) (hf : f.isRead = true) :
    ∃ ws, body = .registers ws ∧
      b.readFrom (Request.first f data) (Request.wanted f data) = .ok ws := by
  have hquantity := Request.quantity_ofFields unit f data
  unfold Fulfilled at h
  rw [hquantity] at h
  cases f with
  | readHolding | readInput =>
    obtain ⟨-, ws, hbody, hwords⟩ := h
    exact ⟨ws, hbody, readFrom_eq_ok_iff.2 hwords⟩
  | writeSingle | writeMultiple => cases hf

/-- A request that is carried out leaves its block in the bank; the block of a read is empty. -/
theorem Fulfilled.bank_eq {b b' : Bank} {unit : UInt8} {f : Function} {data : List UInt8}
    {body : Body} (h : b.Fulfilled (.ofFields unit f data) b' body) :
    b' = b.assignFrom (Request.first f data) (Request.payload f data) := by
  unfold Fulfilled at h
  cases f with
  | readHolding | readInput => exact h.1
  | writeSingle =>
    obtain ⟨start, value, hstart, hvalue, hwritten, -⟩ := h
    have hfirst : start.toNat = Request.first .writeSingle data := hstart
    rw [← hfirst, show Request.payload .writeSingle data = [value] from hvalue]
    exact (bank_of_writeInPlace hwritten).2
  | writeMultiple =>
    obtain ⟨start, hstart, hwritten, -⟩ := h
    have hfirst : start.toNat = Request.first .writeMultiple data := hstart
    rw [← hfirst]
    exact (bank_of_writeInPlace hwritten).2

/-! ### Replying -/

theorem handle_of_ok {b : Bank} {q : Request} {body : Body}
    (h : (b.process q).result = .ok body) :
    (b.handle q).bank = (b.process q).bank ∧
      (b.handle q).result = ⟨q.unit, q.function.code, body⟩ := by
  rw [handle, h]
  exact ⟨rfl, rfl⟩

theorem handle_of_error {b : Bank} {q : Request} {e : Error}
    (h : (b.process q).result = .error e) :
    (b.handle q).bank = (b.process q).bank ∧
      (b.handle q).result = ⟨q.unit, q.function.code, .exception e.exception⟩ := by
  rw [handle, h]
  exact ⟨rfl, rfl⟩

/-! ### Serving bytes -/

section Serving

variable {b : Bank} (unit : UInt8) {data : List UInt8}

variable {unit} in
/-- Bytes that are no request change nothing. -/
theorem serve_of_invalid {code : UInt8} {e : Error} {x : Exception}
    (h : Request.decode unit (code :: data) = .error e) (hx : e.exception? = some x) :
    (b.serve unit (code :: data)).bank = b ∧
      (b.serve unit (code :: data)).result = .ok ⟨none, ⟨unit, code, .exception x⟩⟩ := by
  have hexception : e.exception = x := by rw [Error.exception, hx, Option.getD_some]
  rw [serve, h]
  cases e with
  | frame fault => cases hx
  | _ => exact ⟨rfl, by rw [← hexception]; rfl⟩

theorem serve_of_wellFormed {f : Function} (h : ¬ Request.Malformed f data) :
    (b.serve unit (f.code :: data)).bank = (b.handle (.ofFields unit f data)).bank ∧
      (b.serve unit (f.code :: data)).result =
        .ok ⟨some (.ofFields unit f data), (b.handle (.ofFields unit f data)).result⟩ := by
  rw [serve, Request.decode_of_wellFormed h]
  exact ⟨rfl, rfl⟩

theorem serve_of_inaccessible {f : Function} (h : ¬ Request.Malformed f data)
    (hb : b.Inaccessible f (Request.first f data) (Request.wanted f data)) :
    (b.serve unit (f.code :: data)).bank = b ∧
      (b.serve unit (f.code :: data)).result =
        .ok ⟨some (.ofFields unit f data), ⟨unit, f.code, .exception .illegalDataAddress⟩⟩ := by
  rw [← Request.logical_ofFields unit, ← Request.quantity_ofFields unit] at hb
  obtain ⟨hbank, e, hprocess, he⟩ := process_of_inaccessible (Request.fault?_ofFields h unit) hb
  obtain ⟨hbank', hreply⟩ := handle_of_error hprocess
  obtain ⟨hbank'', hresult⟩ := serve_of_wellFormed (b := b) unit h
  rw [hresult, hreply, he]
  exact ⟨hbank''.trans (hbank'.trans hbank), rfl⟩

theorem serve_of_accessible {f : Function} (h : ¬ Request.Malformed f data)
    (hb : ¬ b.Inaccessible f (Request.first f data) (Request.wanted f data)) :
    ∃ body,
      (b.serve unit (f.code :: data)).result =
        .ok ⟨some (.ofFields unit f data), ⟨unit, f.code, body⟩⟩ ∧
      b.Fulfilled (.ofFields unit f data) (b.serve unit (f.code :: data)).bank body := by
  rw [← Request.logical_ofFields unit, ← Request.quantity_ofFields unit] at hb
  obtain ⟨body, hprocess, hfulfilled⟩ := process_of_accessible (Request.fault?_ofFields h unit) hb
  obtain ⟨hbank, hreply⟩ := handle_of_ok hprocess
  obtain ⟨hbank', hresult⟩ := serve_of_wellFormed (b := b) unit h
  rw [hresult, hreply, hbank', hbank]
  exact ⟨body, rfl, hfulfilled⟩

end Serving

/-- The ways in which some bytes are served, with what each of them leaves and answers. -/
inductive Serving (b : Bank) (unit : UInt8) : List UInt8 → Prop
  /-- There are no bytes, so there is no answer. -/
  | empty (hbank : (b.serve unit []).bank = b)
      (hresult : (b.serve unit []).result = .error (.frame .emptyPdu)) : Serving b unit []
  /-- The function is unknown. -/
  | unsupported {code : UInt8} {data : List UInt8} (hcode : code ∉ [3, 4, 6, 16])
      (hbank : (b.serve unit (code :: data)).bank = b)
      (hresult : (b.serve unit (code :: data)).result =
        .ok ⟨none, ⟨unit, code, .exception .illegalFunction⟩⟩) : Serving b unit (code :: data)
  /-- The data are malformed. -/
  | malformed {f : Function} {data : List UInt8} (hmalformed : Request.Malformed f data)
      (hbank : (b.serve unit (f.code :: data)).bank = b)
      (hresult : (b.serve unit (f.code :: data)).result =
        .ok ⟨none, ⟨unit, f.code, .exception .illegalDataValue⟩⟩) : Serving b unit (f.code :: data)
  /-- A word is inaccessible. -/
  | inaccessible {f : Function} {data : List UInt8} (hwell : ¬ Request.Malformed f data)
      (hbarred : b.Inaccessible f (Request.first f data) (Request.wanted f data))
      (hbank : (b.serve unit (f.code :: data)).bank = b)
      (hresult : (b.serve unit (f.code :: data)).result =
        .ok ⟨some (.ofFields unit f data), ⟨unit, f.code, .exception .illegalDataAddress⟩⟩) :
      Serving b unit (f.code :: data)
  /-- The request is carried out. -/
  | accessible {f : Function} {data : List UInt8} {body : Body}
      (hwell : ¬ Request.Malformed f data)
      (hopen : ¬ b.Inaccessible f (Request.first f data) (Request.wanted f data))
      (hresult : (b.serve unit (f.code :: data)).result =
        .ok ⟨some (.ofFields unit f data), ⟨unit, f.code, body⟩⟩)
      (hfulfilled : b.Fulfilled (.ofFields unit f data) (b.serve unit (f.code :: data)).bank body) :
      Serving b unit (f.code :: data)

/-- All bytes are served in one of these ways. -/
theorem serving (b : Bank) (unit : UInt8) (pdu : List UInt8) : b.Serving unit pdu := by
  cases pdu with
  | nil => exact .empty rfl rfl
  | cons code data =>
    by_cases hcode : code ∈ [3, 4, 6, 16]
    · obtain ⟨f, rfl⟩ := Function.exists_code_iff.2 hcode
      by_cases hmalformed : Request.Malformed f data
      · obtain ⟨fault, hdecode⟩ := Request.decode_of_malformed hmalformed unit
        obtain ⟨hbank, hresult⟩ := serve_of_invalid (b := b) hdecode rfl
        exact .malformed hmalformed hbank hresult
      · by_cases hbarred : b.Inaccessible f (Request.first f data) (Request.wanted f data)
        · obtain ⟨hbank, hresult⟩ := serve_of_inaccessible unit hmalformed hbarred
          exact .inaccessible hmalformed hbarred hbank hresult
        · obtain ⟨body, hresult, hfulfilled⟩ := serve_of_accessible unit hmalformed hbarred
          exact .accessible hmalformed hbarred hresult hfulfilled
    · obtain ⟨hbank, hresult⟩ :=
        serve_of_invalid (b := b) (Request.decode_of_unsupported hcode unit data) rfl
      exact .unsupported hcode hbank hresult

/-- Bytes that are answered normally are a request that is carried out. -/
theorem fulfilled_of_normal {b : Bank} {unit : UInt8} {pdu : List UInt8} {a : Answer}
    (h : (b.serve unit pdu).result = .ok a) (hnormal : a.reply.isException = false) :
    ∃ f data, pdu = Function.code f :: data ∧ ¬ Request.Malformed f data ∧
      ¬ b.Inaccessible f (Request.first f data) (Request.wanted f data) ∧
      b.Fulfilled (.ofFields unit f data) (b.serve unit pdu).bank a.reply.body := by
  cases b.serving unit pdu with
  | empty _ hresult => cases h.symm.trans hresult
  | unsupported _ _ hresult | malformed _ _ hresult | inaccessible _ _ _ hresult =>
    -- An exception is not a normal answer.
    obtain rfl := Except.ok.inj (h.symm.trans hresult)
    cases hnormal
  | accessible hwell hopen hresult hfulfilled =>
    obtain rfl := Except.ok.inj (h.symm.trans hresult)
    exact ⟨_, _, rfl, hwell, hopen, hfulfilled⟩

/-- What becomes of the bytes behind a function byte: the bank they leave and what is answered. -/
structure Outcome (b : Bank) (unit code : UInt8) (data : List UInt8) (b' : Bank)
    (body : Body) : Prop where
  /-- A byte of no function is illegal. -/
  unsupported : code ∉ [3, 4, 6, 16] → body = .exception .illegalFunction
  /-- Malformed data are illegal, whatever they address. -/
  malformed : ∀ f : Function, f.code = code → Request.Malformed f data →
    body = .exception .illegalDataValue
  /-- Otherwise an address is illegal exactly if it is inaccessible. -/
  inaccessible : ∀ f : Function, f.code = code → ¬ Request.Malformed f data →
    (body = .exception .illegalDataAddress ↔
      b.Inaccessible f (Request.first f data) (Request.wanted f data))
  /-- Otherwise the request is carried out. -/
  fulfilled : ∀ f : Function, f.code = code → ¬ Request.Malformed f data →
    ¬ b.Inaccessible f (Request.first f data) (Request.wanted f data) →
    b.Fulfilled (.ofFields unit f data) b' body
  /-- The device itself never fails. -/
  sound : body ≠ .exception .serverDeviceFailure
  /-- A failure and a read change nothing. -/
  unchanged : (∃ e, body = .exception e) ∨ code ∈ [3, 4] → b' = b

/-- The outcome for a byte of a function, with the function in its place. -/
theorem Outcome.of_function {b b' : Bank} {unit : UInt8} {f : Function} {data : List UInt8}
    {body : Body}
    (hmalformed : Request.Malformed f data → body = .exception .illegalDataValue)
    (hinaccessible : ¬ Request.Malformed f data → (body = .exception .illegalDataAddress ↔
      b.Inaccessible f (Request.first f data) (Request.wanted f data)))
    (hfulfilled : ¬ Request.Malformed f data →
      ¬ b.Inaccessible f (Request.first f data) (Request.wanted f data) →
      b.Fulfilled (.ofFields unit f data) b' body)
    (hsound : body ≠ .exception .serverDeviceFailure)
    (hunchanged : (∃ e, body = .exception e) ∨ f.isRead = true → b' = b) :
    b.Outcome unit f.code data b' body where
  unsupported h := absurd (Function.exists_code_iff.1 ⟨f, rfl⟩) h
  malformed g hg := by
    obtain rfl := Function.code_inj hg
    exact hmalformed
  inaccessible g hg := by
    obtain rfl := Function.code_inj hg
    exact hinaccessible
  fulfilled g hg := by
    obtain rfl := Function.code_inj hg
    exact hfulfilled
  sound := hsound
  unchanged h := hunchanged (h.imp_right Function.code_mem_reads_iff.1)

/-- **Every byte string has its answer.**  The empty one is an error; any other is answered under
    its unit and its function byte, by the first of four that applies: its function is unknown, its
    data are malformed, one of its words is inaccessible, or it is carried out. -/
theorem serve_outcome (b : Bank) (unit : UInt8) :
    (b.serve unit []).result = .error (.frame .emptyPdu) ∧
      ∀ code data, ∃ answer,
        (b.serve unit (code :: data)).result = .ok answer ∧
        answer.reply.unit = unit ∧ answer.reply.functionCode = code ∧
        b.Outcome unit code data (b.serve unit (code :: data)).bank answer.reply.body := by
  refine ⟨rfl, fun code data => ?_⟩
  by_cases hcode : code ∈ [3, 4, 6, 16]
  · obtain ⟨f, rfl⟩ := Function.exists_code_iff.2 hcode
    by_cases hmalformed : Request.Malformed f data
    · -- The data are not a request, so no address is looked at.
      obtain ⟨fault, hdecode⟩ := Request.decode_of_malformed hmalformed unit
      obtain ⟨hbank, hresult⟩ := serve_of_invalid (b := b) hdecode rfl
      exact ⟨_, hresult, rfl, rfl, .of_function (fun _ => rfl) (absurd hmalformed)
        (absurd hmalformed) (by simp) fun _ => hbank⟩
    · by_cases hbarred : b.Inaccessible f (Request.first f data) (Request.wanted f data)
      · -- The request is refused on behalf of one of its words.
        obtain ⟨hbank, hresult⟩ := serve_of_inaccessible unit hmalformed hbarred
        exact ⟨_, hresult, rfl, rfl, .of_function (fun h => absurd h hmalformed)
          (fun _ => iff_of_true rfl hbarred) (fun _ h => absurd hbarred h) (by simp)
          fun _ => hbank⟩
      · -- What is carried out is not an exception, so nothing else can have been answered.
        obtain ⟨body, hresult, hfulfilled⟩ :=
          serve_of_accessible unit hmalformed hbarred
        refine ⟨_, hresult, rfl, rfl, .of_function (fun h => absurd h hmalformed)
          (fun _ => iff_of_false (hfulfilled.ne_exception _) hbarred) (fun _ _ => hfulfilled)
          (hfulfilled.ne_exception _) ?_⟩
        rintro (⟨e, he⟩ | hf)
        · exact absurd he (hfulfilled.ne_exception e)
        · exact hfulfilled.unchanged hf
  · -- No function has this byte, which leaves the other cases empty.
    obtain ⟨hbank, hresult⟩ :=
      serve_of_invalid (b := b) (Request.decode_of_unsupported hcode unit data) rfl
    have hnone (f : Function) (hf : f.code = code) : False :=
      hcode (Function.exists_code_iff.1 ⟨f, hf⟩)
    exact ⟨_, hresult, rfl, rfl, {
      unsupported := fun _ => rfl
      malformed := fun f hf => (hnone f hf).elim
      inaccessible := fun f hf => (hnone f hf).elim
      fulfilled := fun f hf => (hnone f hf).elim
      sound := by simp
      unchanged := fun _ => hbank }⟩

end Bank

end SolarTwin

import SolarTwin.Proofs.Bank.Stores
import SolarTwin.Proofs.Modbus.Service

namespace SolarTwin

open Modbus

/-!
# What clients cannot touch

Clients and the plant share a bank: requests are served and values are stored in any order.  A
request writes at most one block, which starts in the table of holding registers and meets no
read-only word, so what the plant publishes elsewhere is out of the reach of every client.

* `Bank.bank_serve` — all that serving some bytes can do to a bank;
* `Bank.mem_serve` — no bytes change a read-only register, or one that ends below the table;
* `Bank.logical?_through` — a read-only register holds the value last stored in it;
* `Bank.clients_isolated` — so a reply that covers one carries the words of that one value.
-/

namespace Bank

/-! ### What serving does to a bank -/

theorem handle_bank (b : Bank) (q : Request) : (b.handle q).bank = (b.process q).bank := by
  cases hresult : (b.process q).result with
  | ok body => exact (handle_of_ok hresult).1
  | error e => exact (handle_of_error hresult).1

/-- The logical address of the first holding register. -/
def holdingBase : Nat := 40001

theorem holdingBase_le_logical {f : Function} (hf : f.isWrite = true) (wire : UInt16) :
    holdingBase ≤ f.logical wire := by
  cases f <;> simp only [Function.isWrite, Function.isRead, Bool.not_true, Bool.false_eq_true,
    Function.logical, Function.base, holdingBase] at *
  all_goals omega

/-- A request changes nothing or writes one block of holding registers, no word of which is
    refused. -/
theorem bank_process (b : Bank) (q : Request) :
    (b.process q).bank = b ∨
      ∃ (start : UInt16) (ws : List UInt16), holdingBase ≤ start.toNat ∧
        b.firstRefusal? start.toNat ws.length = none ∧
        (b.process q).bank = b.assignFrom start.toNat ws := by
  cases hfault : q.fault? with
  | some fault => exact .inl (congrArg Served.bank (process_of_fault hfault))
  | none =>
    cases hlogical : q.function.logical? q.address with
    | none => exact .inl (congrArg Served.bank (process_of_outside hfault hlogical))
    | some start =>
      rw [process_eq hfault (logical?_eq_some_iff.1 hlogical)]
      by_cases hf : q.function.isRead = true
      · rw [processAt_of_isRead hf]
        exact .inl rfl
      · have hw := Function.isWrite_iff.2 hf
        have hstart : holdingBase ≤ start.toNat := by
          rw [logical?_eq_some_iff.1 hlogical]
          exact holdingBase_le_logical hw q.address
        rw [(processAt_of_isWrite (b := b) hw start).1, writeInPlace_eq]
        cases hfree : b.firstRefusal? start.toNat q.values.length with
        | some e => exact .inl rfl
        | none => exact .inr ⟨start, q.values, hstart, hfree, rfl⟩

/-- The same holds of the bytes of any client. -/
theorem bank_serve (b : Bank) (unit : UInt8) (pdu : List UInt8) :
    (b.serve unit pdu).bank = b ∨
      ∃ (start : UInt16) (ws : List UInt16), holdingBase ≤ start.toNat ∧
        b.firstRefusal? start.toNat ws.length = none ∧
        (b.serve unit pdu).bank = b.assignFrom start.toNat ws := by
  unfold serve
  cases Request.decode unit pdu with
  | ok q =>
    have hprocess := bank_process b q
    rwa [← handle_bank] at hprocess
  | error e => cases e <;> exact .inl rfl

theorem slots_serve (b : Bank) (unit : UInt8) (pdu : List UInt8) :
    (b.serve unit pdu).bank.slots = b.slots := by
  obtain h | ⟨start, ws, -, -, h⟩ := bank_serve b unit pdu
  · rw [h]
  · rw [h, slots_assignFrom]

/-- Nothing refused means nothing read-only. -/
theorem not_covers_of_readOnly {b : Bank} {start count : Nat}
    (hfree : b.firstRefusal? start count = none) {r : Register} (hr : r ∈ b.registers)
    (haccess : r.access = .readOnly) {i : Nat} (hi : i < count) : ¬ r.Covers (start + i) := by
  intro hcovers
  obtain ⟨a, s, ha, howner, hwritable⟩ :=
    refusal?_eq_none_iff.1 (firstRefusal?_eq_none_iff.1 hfree i hi)
  obtain ⟨hs, hsowns⟩ := owner?_eq_some_iff.1 howner
  rw [← ha, Register.covers_toNat_iff] at hcovers
  obtain rfl := eq_of_owns hr hs hcovers hsowns
  rw [haccess] at hwritable
  cases hwritable

/-- No bytes change a read-only register, or one that ends below the holding registers. -/
theorem mem_serve {b : Bank} {r : Register} (hr : r ∈ b.registers)
    (h : r.access = .readOnly ∨ r.endAddress ≤ holdingBase) (unit : UInt8) (pdu : List UInt8) :
    r ∈ (b.serve unit pdu).bank.registers := by
  obtain hsame | ⟨start, ws, hstart, hfree, hbank⟩ := bank_serve b unit pdu
  · rwa [hsame]
  · rw [hbank]
    refine mem_assignFrom hr (end_le_of_firstRefusal? hfree) fun i hi => ?_
    rcases h with haccess | hend
    · exact not_covers_of_readOnly hfree hr haccess hi
    · rintro ⟨-, hlt⟩
      omega

/-- No bytes change a word of a read-only register, or one below the holding registers. -/
theorem word?_serve {b : Bank} {x : UInt16}
    (h : (∃ r ∈ b.registers, r.owns x = true ∧ r.access = .readOnly) ∨ x.toNat < holdingBase)
    (unit : UInt8) (pdu : List UInt8) : (b.serve unit pdu).bank.word? x = b.word? x := by
  rcases h with ⟨r, hr, howns, haccess⟩ | hx
  · rw [word?_of_owns (mem_serve hr (.inl haccess) unit pdu) howns, word?_of_owns hr howns]
  · obtain hsame | ⟨start, ws, hstart, hfree, hbank⟩ := bank_serve b unit pdu
    · rw [hsame]
    · -- The block starts above `x`, in whichever register that lies.
      have hnone : blockWord? start.toNat ws x = none := by
        rw [blockWord?, if_neg (by omega)]
      rw [hbank, word?_assignFrom (end_le_of_firstRefusal? hfree), hnone]
      simp

/-- A register that starts far enough below the holding registers ends below them. -/
theorem endAddress_le_of_address {r : Register} (hr : r.address.toNat + 4 ≤ holdingBase) :
    r.endAddress ≤ holdingBase := by
  have hwidth := r.kind.width_le_four
  rw [Register.endAddress, Register.width]
  omega

/-- No bytes change the value of a register that starts that far below. -/
theorem logical?_serve (b : Bank) {x : UInt16} (hx : x.toNat + 4 ≤ holdingBase) (unit : UInt8)
    (pdu : List UInt8) : (b.serve unit pdu).bank.logical? x = b.logical? x := by
  cases hv : b.logical? x with
  | none =>
    have hslot : b.slot? x = none := by
      rw [logical?, Option.map_eq_none_iff] at hv
      exact slot?_of_find?_eq_none hv
    rw [← slot?_congr (slots_serve b unit pdu)] at hslot
    exact logical?_eq_none_of_slot? hslot
  | some v =>
    obtain ⟨r, hr, rfl, rfl⟩ := exists_mem_of_logical? hv
    exact logical?_of_mem (mem_serve hr (.inr (endAddress_le_of_address hx)) unit pdu)

/-- The bank after the bytes of some clients have been served, one after another. -/
def served (b : Bank) (requests : List (UInt8 × List UInt8)) : Bank :=
  requests.foldl (fun b q => (b.serve q.1 q.2).bank) b

theorem logical?_served (b : Bank) {x : UInt16} (hx : x.toNat + 4 ≤ holdingBase)
    (requests : List (UInt8 × List UInt8)) : (b.served requests).logical? x = b.logical? x := by
  induction requests generalizing b with
  | nil => rfl
  | cons q requests ih => exact (ih (b.serve q.1 q.2).bank).trans (b.logical?_serve hx q.1 q.2)

/-! ### What reading gives -/

/-- A reply that carries words carries those of the block that its request names. -/
theorem wordAt?_of_served {b : Bank} {unit : UInt8} {pdu : List UInt8} {answer : Answer}
    {ws : List UInt16} (hresult : (b.serve unit pdu).result = .ok answer)
    (hbody : answer.reply.body = .registers ws) :
    ∃ f data, pdu = Function.code f :: data ∧ f.isRead = true ∧
      (List.range (Request.wanted f data)).map (fun i => b.wordAt? (Request.first f data + i)) =
        ws.map some := by
  cases b.serving unit pdu with
  | empty _ hreply => cases hresult.symm.trans hreply
  | unsupported _ _ hreply | malformed _ _ hreply | inaccessible _ _ _ hreply =>
    obtain rfl := Except.ok.inj (hresult.symm.trans hreply)
    cases hbody
  | @accessible f data body hwell hopen hreply hfulfilled =>
    obtain rfl := Except.ok.inj (hresult.symm.trans hreply)
    refine ⟨f, data, rfl, ?_⟩
    cases f with
    | readHolding | readInput =>
      obtain ⟨vs, hvs, hread⟩ := hfulfilled.exists_words rfl
      obtain rfl := Body.registers.inj (hbody.symm.trans hvs)
      exact ⟨rfl, readFrom_eq_ok_iff.1 hread⟩
    | writeSingle | writeMultiple =>
      -- The echo of a write carries no words.
      cases hbody.symm.trans (hfulfilled.eq_echo rfl)

/-- A block that covers a register holds its words in one piece. -/
theorem words_of_block {b : Bank} {r : Register} (hr : r ∈ b.registers) {start count : Nat}
    {ws : List UInt16}
    (hwords : (List.range count).map (fun i => b.wordAt? (start + i)) = ws.map some)
    (hstart : start ≤ r.address.toNat) (hend : r.endAddress ≤ start + count) :
    (ws.drop (r.address.toNat - start)).take r.width = r.words := by
  have hlen : ws.length = count := by simpa using (congrArg List.length hwords).symm
  rw [Register.endAddress] at hend
  refine List.ext_getElem ?_ fun i hi hi' => ?_
  · rw [List.length_take, List.length_drop, Register.length_words]
    omega
  · have hw : i < r.width := by rwa [Register.length_words] at hi'
    have hoff : r.address.toNat - start + i < count := by omega
    have haddress : start + (r.address.toNat - start + i) = r.address.toNat + i := by omega
    -- Both sides are the word at the register's address plus `i`.
    have hword := congrArg (·[r.address.toNat - start + i]?) hwords
    simp only [List.getElem?_map, List.getElem?_range hoff, Option.map_some, haddress,
      wordAt?_of_mem hr hw, List.getElem?_eq_getElem hi',
      List.getElem?_eq_getElem (hlen ▸ hoff : r.address.toNat - start + i < ws.length),
      Option.some.injEq] at hword
    rw [List.getElem_take, List.getElem_drop, hword]

/-! ### Clients and plant together -/

/-- What happens to a bank that is in use: the bytes of some client are served, or the plant stores
    a value. -/
inductive Event where
  | request (unit : UInt8) (pdu : List UInt8)
  | store (a : UInt16) (v : Value)

/-- The bank after an event.  A value that cannot be stored changes nothing. -/
def happen (b : Bank) : Event → Bank
  | .request unit pdu => (b.serve unit pdu).bank
  | .store a v => (b.attemptWrite (.logical a v)).bank

/-- The bank after some events, in whatever order clients and plant cause them. -/
def through (b : Bank) (es : List Event) : Bank := es.foldl happen b

/-- The values stored at an address, in order. -/
def storedAt (b : Bank) (a : UInt16) : List Event → List Value
  | [] => []
  | .request unit pdu :: es => (b.happen (.request unit pdu)).storedAt a es
  | .store a' v :: es =>
    let later := (b.happen (.store a' v)).storedAt a es
    if a' = a ∧ (b.setLogical a' v).isOk then v :: later else later

@[simp] theorem through_nil (b : Bank) : b.through [] = b := rfl

@[simp] theorem through_cons (b : Bank) (e : Event) (es : List Event) :
    b.through (e :: es) = (b.happen e).through es := rfl

theorem slots_happen (b : Bank) (e : Event) : (b.happen e).slots = b.slots := by
  cases e with
  | request unit pdu => exact slots_serve b unit pdu
  | store a v => exact slots_attemptWrite b (.logical a v)

theorem slots_through (b : Bank) (es : List Event) : (b.through es).slots = b.slots := by
  induction es generalizing b with
  | nil => rfl
  | cons e es ih => rw [through_cons, ih, slots_happen]

/-- A value that is stored is there, one that is not leaves what was there. -/
theorem logical?_happen_store (b : Bank) (a : UInt16) (v : Value) (x : UInt16) :
    (b.happen (.store a v)).logical? x =
      if a = x ∧ (b.setLogical a v).isOk then some v else b.logical? x := by
  rw [happen, attemptWrite]
  cases hset : b.setLogical a v with
  | error e => simp [attemptOf, Except.isOk, Except.toBool]
  | ok b' => simp [attemptOf, Except.isOk, Except.toBool, logical?_setLogical hset, eq_comm]

/-- A read-only register holds the value last stored in it, or else its first one. -/
theorem logical?_through {b : Bank} {r : Register} (hr : r ∈ b.registers)
    (haccess : r.access = .readOnly) (es : List Event) :
    (b.through es).logical? r.address =
      some ((b.storedAt r.address es).getLast?.getD r.value) := by
  induction es generalizing b r with
  | nil => exact logical?_of_mem hr
  | cons e es ih =>
    rw [through_cons]
    -- After `e` there is a read-only register of the same slot, with the value `e` leaves.
    obtain ⟨s, hs, hslot⟩ := exists_mem_of_slots (slots_happen b e) hr
    have haddress : s.address = r.address := congrArg Slot.address hslot
    have hreadOnly : s.access = .readOnly := (congrArg Slot.access hslot).trans haccess
    have hvalue := logical?_of_mem hs
    rw [haddress] at hvalue
    have hlater := ih hs hreadOnly
    rw [haddress] at hlater
    rw [hlater]
    cases e with
    | request unit pdu =>
      have hkept := logical?_of_mem (mem_serve hr (.inl haccess) unit pdu)
      have hsame : s.value = r.value := Option.some.inj (hvalue.symm.trans hkept)
      rw [hsame, storedAt]
    | store a v =>
      rw [logical?_happen_store, logical?_of_mem hr] at hvalue
      rw [storedAt]
      by_cases hstored : a = r.address ∧ (b.setLogical a v).isOk = true
      · rw [if_pos hstored, Option.some.injEq] at hvalue
        rw [if_pos hstored, List.getLast?_cons, hvalue, Option.getD_some]
      · rw [if_neg hstored, Option.some.injEq] at hvalue
        rw [if_neg hstored, hvalue]

/-- **Clients are kept from what is not theirs.**  However requests and stored values follow each
    other, the next bytes of a client change no word of a read-only register, no word below the
    holding registers and no slot; and if their reply carries words and covers a read-only register,
    it carries the words of the value last stored in it. -/
theorem clients_isolated (b : Bank) (es : List Event) (unit : UInt8) (pdu : List UInt8) :
    (∀ x, (∃ r ∈ (b.through es).registers, r.owns x = true ∧ r.access = .readOnly) ∨
        x.toNat < 40001 →
      ((b.through es).serve unit pdu).bank.word? x = (b.through es).word? x) ∧
    ((b.through es).serve unit pdu).bank.slots = b.slots ∧
    (∀ answer ws, ((b.through es).serve unit pdu).result = .ok answer →
      answer.reply.body = .registers ws →
      ∃ f data, pdu = Function.code f :: data ∧ f.isRead = true ∧
        ws.length = Request.wanted f data ∧
        ∀ r ∈ b.registers, r.access = .readOnly → Request.first f data ≤ r.address.toNat →
          r.endAddress ≤ Request.first f data + Request.wanted f data →
          (ws.drop (r.address.toNat - Request.first f data)).take r.width =
            ((b.storedAt r.address es).getLast?.getD r.value).words) := by
  refine ⟨fun x hx => word?_serve hx unit pdu, ?_, fun answer ws hresult hbody => ?_⟩
  · rw [slots_serve, slots_through]
  · obtain ⟨f, data, hpdu, hread, hwords⟩ := wordAt?_of_served hresult hbody
    have hlen : ws.length = Request.wanted f data := by
      simpa using (congrArg List.length hwords).symm
    refine ⟨f, data, hpdu, hread, hlen, fun r hr haccess hstart hend => ?_⟩
    -- The register that is read has the slot of `r` and the value last stored.
    obtain ⟨s, hs, hslot⟩ := exists_mem_of_slots (slots_through b es) hr
    have haddress : s.address = r.address := congrArg Slot.address hslot
    have hkind : s.kind = r.kind := congrArg Slot.kind hslot
    have hwidth : s.width = r.width := congrArg Kind.width hkind
    have hvalue := logical?_through hr haccess es
    rw [← haddress, logical?_of_mem hs, Option.some.injEq] at hvalue
    rw [Register.endAddress] at hend
    have hpiece := words_of_block hs hwords (by rw [haddress]; exact hstart)
      (by rw [Register.endAddress, haddress, hwidth]; exact hend)
    rw [haddress, hwidth, Register.words, hvalue, haddress] at hpiece
    exact hpiece

/-- A register for commands, and a read-only one right behind it. -/
def sharedBank : Bank where
  registers := [.zero 40009 .u32 .enumeration .readWrite, .zero 40011 .u32 .raw .readOnly]
  wellLaid := ⟨by decide, by decide⟩

/-- A block that runs from the first register into the second. -/
def overrun : List UInt8 := [16, 0, 8, 0, 4, 8, 1, 1, 2, 2, 3, 3, 4, 4]

/-- A refused block, a stored value, a command. -/
def sharedEvents : List Event :=
  [.request 1 overrun, .store 40011 (.clamp .u32 70000), .request 2 [6, 0, 9, 1, 125]]

theorem clients_isolated_sharedBank :
    ((sharedBank.through sharedEvents).serve 7 overrun).bank.word? 40011 = some 1 ∧
    ∃ answer, ((sharedBank.through sharedEvents).serve 7 [3, 0, 8, 0, 4]).result = .ok answer ∧
      answer.reply.body = .registers [0, 381, 1, 4464] ∧
      (Value.clamp .u32 70000).words = [1, 4464] := by
  obtain ⟨hkept, -, -⟩ := clients_isolated sharedBank sharedEvents 7 overrun
  obtain ⟨-, -, hread⟩ := clients_isolated sharedBank sharedEvents 7 [3, 0, 8, 0, 4]
  have hwords : ((sharedBank.through sharedEvents).serve 7 [3, 0, 8, 0, 4]).result.toOption.map
      (·.reply.body) = some (.registers [0, 381, 1, 4464]) := by decide +kernel
  have hstored : (sharedBank.storedAt 40011 sharedEvents).getLast? = some (.clamp .u32 70000) := by
    decide +kernel
  refine ⟨?_, _, rfl, Option.some.inj hwords, ?_⟩
  · rw [hkept 40011 (.inl ⟨_, List.mem_cons_of_mem _ List.mem_cons_self, by decide +kernel, rfl⟩)]
    decide +kernel
  · obtain ⟨f, data, hpdu, -, -, hslice⟩ := hread _ _ rfl (Option.some.inj hwords)
    obtain ⟨hcode, rfl⟩ := List.cons.inj hpdu
    obtain rfl : f = .readHolding := Function.code_inj hcode.symm
    have hpiece := hslice (.zero 40011 .u32 .raw .readOnly)
      (List.mem_cons_of_mem _ List.mem_cons_self) rfl (by decide) (by decide)
    rw [show (Register.zero 40011 .u32 .raw .readOnly).address = 40011 from rfl, hstored] at hpiece
    exact hpiece.symm

end Bank

end SolarTwin

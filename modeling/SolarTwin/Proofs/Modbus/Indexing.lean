import SolarTwin.Proofs.Modbus.Service

namespace SolarTwin

open Modbus

/-!
# Requests of any make

A request need not have been decoded: its quantity and its values may be anything and need not agree.
Such a request is turned down before the bank is asked, and what is let through has everything that
is looked up in it or in the bank later on.

* `Modbus.Request.Consistent` — the requests that are let through;
* `Modbus.Request.validate_writeMultiple` — a block to write is let through by its true length, and
  not by its quantity, which wraps;
* `Bank.processBy_eq` — carrying out a request is the same for all faithful ways to use indices;
* `Bank.processIndexed?` — a request carried out with every index checked against its list;
* `Bank.requests_checked_first` — no index lies outside its list, and a request that is turned down
  is so on every bank alike.
-/

/-! ### Consistent requests -/

namespace Modbus.Request

/-- Whether the quantity of a request lies within the limits of its function and, if it writes, is
    the number of its values. -/
def Consistent (q : Request) : Prop :=
  match q.function with
  | .readHolding | .readInput => 1 ≤ q.quantity.toNat ∧ q.quantity.toNat ≤ 125
  | .writeSingle => q.quantity.toNat = 1 ∧ q.values.length = q.quantity.toNat
  | .writeMultiple =>
    (1 ≤ q.quantity.toNat ∧ q.quantity.toNat ≤ 123) ∧ q.values.length = q.quantity.toNat

/-- The requests without fault are the consistent ones. -/
theorem fault?_eq_none_iff_consistent {q : Request} : q.fault? = none ↔ q.Consistent := by
  rw [fault?_eq_none_iff, Consistent]
  cases q.function with
  | readHolding | readInput =>
    simp [Function.maxQuantity, maxReadQuantity, Function.isWrite, Function.isRead]
    omega
  | writeSingle =>
    simp only [Function.maxQuantity, Function.isWrite, Function.isRead, Bool.not_false, forall_const]
    omega
  | writeMultiple =>
    simp only [Function.maxQuantity, maxWriteQuantity, Function.isWrite, Function.isRead,
      Bool.not_false, forall_const]
    omega

theorem validate_eq_ok_iff {q : Request} : q.validate = .ok q ↔ q.Consistent := by
  rw [← fault?_eq_none_iff_consistent, validate]
  cases q.fault? <;> simp

/-- The quantity of a block to write is the number of its values modulo `2 ^ 16`. -/
private theorem quantity_writeMultiple (unit : UInt8) (address : UInt16) (ws : List UInt16) :
    (writeMultiple unit address ws).quantity.toNat = ws.length % 65536 := UInt16.toNat_ofNat'

/-- A block to write is let through exactly if it has 1 to 123 values.  A longer one may have a
    quantity within these limits, but that is then not the number of its values. -/
theorem validate_writeMultiple (unit : UInt8) (address : UInt16) (ws : List UInt16) :
    (writeMultiple unit address ws).validate = .ok (writeMultiple unit address ws) ↔
      1 ≤ ws.length ∧ ws.length ≤ 123 := by
  have hquantity := quantity_writeMultiple unit address ws
  rw [validate_eq_ok_iff]
  show (1 ≤ (writeMultiple unit address ws).quantity.toNat ∧ _) ∧ ws.length = _ ↔ _
  rw [hquantity]
  omega

end Modbus.Request

/-! ### No index lies outside its list -/

namespace Bank

section Faithful

variable {m : Type → Type} [Monad m] {ix : Indexing m} {b : Bank}

theorem wordBy_eq (hix : ix.Faithful) (a : UInt16) : b.wordBy ix a = pure (b.word? a) := by
  rw [wordBy, word?, wordBy]
  cases b.owner? a with
  | none => rfl
  | some r => exact r.wordBy_eq hix a

theorem wordAtBy_eq (hix : ix.Faithful) (n : Nat) : b.wordAtBy ix n = pure (b.wordAt? n) := by
  rw [wordAtBy, wordAt?, wordAtBy]
  cases wordAddress? n with
  | none => rfl
  | some a => exact wordBy_eq hix a

variable [LawfulMonad m]

/-- The words of a block are looked up at offsets of owned addresses. -/
theorem readFromBy_eq (hix : ix.Faithful) (start count : Nat) :
    b.readFromBy ix start count = pure (b.readFrom start count) := by
  induction count generalizing start with
  | zero => rfl
  | succ count ih =>
    rw [readFromBy, readFrom_succ, wordAtBy_eq hix, pure_bind]
    cases b.wordAt? start with
    | none => rfl
    | some w => simp only [ih, pure_bind]

theorem writeBlockBy_eq (hix : ix.Faithful) (start : UInt16) (ws : List UInt16) :
    b.writeBlockBy ix start ws = pure (b.writeBlock start ws) := by
  have hwritten : b.writeInPlaceBy ix start ws = pure (b.writeInPlace start ws) := by
    rw [writeInPlaceBy, writeInPlace_eq]
    cases b.firstRefusal? start.toNat ws.length with
    | some e => rfl
    | none => exact replaceFromBy_eq hix b start.toNat ws
  rw [writeBlockBy, hwritten, pure_bind, writeBlock_eq]
  cases (b.writeInPlace start ws).error? <;> rfl

/-- A single write without fault has a value to echo. -/
theorem echoBy_eq (hix : ix.Faithful) {q : Request} (hq : q.Consistent) :
    echoBy ix q = pure (echo q) := by
  obtain ⟨unit, f, address, quantity, values⟩ := q
  cases f with
  | readHolding | readInput | writeMultiple => rfl
  | writeSingle =>
    obtain ⟨hquantity, hvalues⟩ : quantity.toNat = 1 ∧ values.length = quantity.toNat := hq
    obtain ⟨value, rfl⟩ := List.length_eq_one_iff.1 (hvalues.trans hquantity)
    simp only [echoBy, hix.get (List.length_pos_of_mem List.mem_cons_self), pure_bind]
    rfl

/-- Carrying out a request never takes an index outside its list, whatever the request: so it does
    not matter what becomes of such an index. -/
theorem processBy_eq (hix : ix.Faithful) (q : Request) :
    b.processBy ix q = pure (b.process q) := by
  rw [processBy]
  cases hfault : q.fault? with
  | some fault => rw [process_of_fault hfault]
  | none =>
    -- All offsets are of owned addresses; only the echo takes an index that the check makes sure of.
    have hecho := echoBy_eq hix (Request.fault?_eq_none_iff_consistent.1 hfault)
    cases hlogical : q.function.logical? q.address with
    | none => rw [process_of_outside hfault hlogical]
    | some start =>
      rw [process_eq hfault (logical?_eq_some_iff.1 hlogical)]
      simp only [processAtBy]
      by_cases hf : q.function.isRead = true
      · rw [if_pos hf, processAt_of_isRead hf, readFromBy_eq hix, pure_bind]
      · rw [if_neg hf, processAt_eq_of_isWrite (Function.isWrite_iff.2 hf), writeBlockBy_eq hix,
          pure_bind, hecho]
        cases (b.writeBlock start q.values).result with
        | error e => rfl
        | ok => exact pure_bind ..

end Faithful

/-- Carries out a request with every index checked against its list; there is no outcome if one of
    them lies outside. -/
def processIndexed? (b : Bank) (q : Request) : Option (Served (Except Error Body)) :=
  b.processBy .strict q

theorem processIndexed?_eq (b : Bank) (q : Request) : b.processIndexed? q = some (b.process q) :=
  processBy_eq Indexing.strict_faithful q

variable {b : Bank}

/-! ### Requests that are turned down -/

/-- A request without fault is not turned down for its data, whatever the bank. -/
private theorem result_ne_invalidData {q : Request} (h : q.fault? = none) (fault : DataFault) :
    (b.process q).result ≠ .error (.invalidData fault) := by
  intro hresult
  by_cases hbarred : b.Inaccessible q.function (q.function.logical q.address) q.quantity.toNat
  · obtain ⟨-, e, hprocess, he⟩ := process_of_inaccessible h hbarred
    obtain rfl := Except.error.inj (hprocess.symm.trans hresult)
    cases he
  · obtain ⟨body, hprocess, -⟩ := process_of_accessible h hbarred
    cases hprocess.symm.trans hresult

theorem exists_invalidData_iff {q : Request} :
    (∃ fault, (b.process q).result = .error (.invalidData fault)) ↔ ¬ q.Consistent := by
  rw [← Request.fault?_eq_none_iff_consistent]
  cases hfault : q.fault? with
  | none => simpa using result_ne_invalidData hfault
  | some fault => simp [process_of_fault hfault]

/-- **Every request is checked first, however it was made.**  No index that carrying it out takes
    lies outside its list.  A request is turned down for its data exactly if it is not consistent,
    and then every bank turns it down with the same fault, is left as it was and writes nothing; so
    nothing of the bank is looked at.  A block to write is let through exactly if it has 1 to 123
    values, also where its quantity has wrapped. -/
theorem requests_checked_first (q : Request) :
    (∀ b : Bank, b.processIndexed? q = some (b.process q)) ∧
    (∀ b : Bank, (∃ fault, (b.process q).result = .error (.invalidData fault)) ↔
      ¬ q.Consistent) ∧
    ((∃ fault, ∀ b : Bank, b.process q = ⟨b, [], .error (.invalidData fault)⟩) ↔
      ¬ q.Consistent) ∧
    ∀ unit address ws,
      (Request.writeMultiple unit address ws).validate = .ok (.writeMultiple unit address ws) ↔
        1 ≤ ws.length ∧ ws.length ≤ 123 := by
  refine ⟨fun b => b.processIndexed?_eq q, fun _ => exists_invalidData_iff, ?_,
    Request.validate_writeMultiple⟩
  constructor
  · rintro ⟨fault, hprocess⟩
    exact exists_invalidData_iff.1 ⟨fault, by rw [hprocess empty]⟩
  · intro h
    rw [← Request.fault?_eq_none_iff_consistent] at h
    obtain ⟨fault, hfault⟩ := Option.ne_none_iff_exists'.1 h
    exact ⟨fault, fun _ => process_of_fault hfault⟩

/-- A single write that brings no value is turned down before its value is looked at. -/
example : (empty.process ⟨1, .writeSingle, 0, 1, []⟩).result = .error (.invalidData .valueCount) :=
  rfl

end Bank

end SolarTwin

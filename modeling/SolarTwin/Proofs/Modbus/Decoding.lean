import SolarTwin.Modbus.Address
import SolarTwin.Modbus.Request
import Mathlib.Tactic.ByContra

namespace SolarTwin.Modbus

/-!
# What bytes a request is decoded from

A request is read off fixed places behind its function byte.

* `Request.Malformed` — what keeps the bytes behind a function byte from being a request;
* `Request.decode_of_malformed` and `Request.decode_of_wellFormed` — malformed bytes give a data
  fault, all others the request in their fixed places;
* `Request.decode_of_unsupported` — a byte of no function is reported before its data are read.
-/

/-! ### Functions and their bytes -/

/-- A byte is that of a function exactly if it is one of the four. -/
theorem Function.exists_code_iff {byte : UInt8} :
    (∃ f : Function, f.code = byte) ↔ byte ∈ [3, 4, 6, 16] := by
  simp only [List.mem_cons, List.not_mem_nil, or_false]
  constructor
  · rintro ⟨f, rfl⟩
    cases f <;> decide
  · rintro (rfl | rfl | rfl | rfl)
    · exact ⟨.readHolding, rfl⟩
    · exact ⟨.readInput, rfl⟩
    · exact ⟨.writeSingle, rfl⟩
    · exact ⟨.writeMultiple, rfl⟩

theorem Function.code_inj {f g : Function} (h : f.code = g.code) : f = g :=
  Option.some.inj (by rw [← ofCode?_code f, h, ofCode?_code])

theorem Function.code_mem_reads_iff {f : Function} : f.code ∈ [3, 4] ↔ f.isRead = true := by
  cases f <;> decide

theorem Function.isWrite_iff {f : Function} : f.isWrite = true ↔ ¬ f.isRead = true := by
  cases f <;> decide

theorem Function.ofCode?_eq_none {byte : UInt8} (h : byte ∉ [3, 4, 6, 16]) :
    Function.ofCode? byte = none := by
  rw [ofCode?, List.find?_eq_none]
  intro f _ hf
  exact h (exists_code_iff.1 ⟨f, by simpa using hf⟩)

namespace Request

/-! ### Places of a request -/

/-- The word in the two bytes at a place, with zeros where there are none. -/
def field (data : List UInt8) (i : Nat) : UInt16 :=
  ofOctets (data.getD i 0) (data.getD (i + 1) 0)

/-- The number of words that the bytes behind a function byte are about. -/
def wanted (f : Function) (data : List UInt8) : Nat :=
  match f with
  | .writeSingle => 1
  | .readHolding | .readInput | .writeMultiple => (field data 2).toNat

/-- The logical address of the first of these words; it may lie past the address space. -/
def first (f : Function) (data : List UInt8) : Nat :=
  (field data 0).toNat + if f = .readInput then 30001 else 40001

/-- The words that they bring to be written. -/
def payload (f : Function) (data : List UInt8) : List UInt16 :=
  match f with
  | .readHolding | .readInput => []
  | .writeSingle => [field data 2]
  | .writeMultiple => (List.range (wanted f data)).map fun i => field data (5 + 2 * i)

/-- The request in the places behind a function byte. -/
def ofFields (unit : UInt8) (f : Function) (data : List UInt8) : Request :=
  ⟨unit, f, field data 0, UInt16.ofNat (wanted f data), payload f data⟩

theorem logical_ofFields (unit : UInt8) (f : Function) (data : List UInt8) :
    f.logical (ofFields unit f data).address = first f data := by
  cases f <;> rfl

/-- What keeps the bytes behind a function byte from being a request: they are too few, or ask for
    no words or too many, or their byte count is not that of the words they announce. -/
def Malformed (f : Function) (data : List UInt8) : Prop :=
  match f with
  | .readHolding | .readInput => data.length < 4 ∨ wanted f data = 0 ∨ 125 < wanted f data
  | .writeSingle => data.length < 4
  | .writeMultiple =>
    data.length < 5 ∨ wanted f data = 0 ∨ 123 < wanted f data ∨
      (data.getD 4 0).toNat ≠ 2 * wanted f data ∨ data.length < 5 + 2 * wanted f data

@[simp] theorem field_cons (byte : UInt8) (data : List UInt8) (i : Nat) :
    field (byte :: data) (i + 1) = field data i := by
  simp [field]

/-- The first words of a byte string are in its even places. -/
theorem wordsOf_take {bytes : List UInt8} {n : Nat} (h : 2 * n ≤ bytes.length) :
    wordsOf (bytes.take (2 * n)) = (List.range n).map fun i => field bytes (2 * i) := by
  induction n generalizing bytes with
  | zero => rfl
  | succ n ih =>
    match bytes, h with
    | [], h => simp at h
    | [_], h =>
      simp only [List.length_singleton] at h
      omega
    | high :: low :: rest, h =>
      have hrest : 2 * n ≤ rest.length := by
        simp only [List.length_cons] at h
        omega
      rw [Nat.mul_succ, List.take_succ_cons, List.take_succ_cons, wordsOf, ih hrest,
        List.range_succ_eq_map, List.map_cons, List.map_map]
      rfl

/-- Whether all bytes of a request are there, with the byte count that its words need. -/
def Complete (f : Function) (data : List UInt8) : Prop :=
  match f with
  | .readHolding | .readInput | .writeSingle => 4 ≤ data.length
  | .writeMultiple =>
    (data.getD 4 0).toNat = 2 * wanted f data ∧ 5 + 2 * wanted f data ≤ data.length

/-- Bytes are malformed if they are incomplete or their quantity is out of bounds. -/
theorem malformed_iff {f : Function} {data : List UInt8} :
    Malformed f data ↔
      ¬ Complete f data ∨ ¬ (0 < wanted f data ∧ wanted f data ≤ f.maxQuantity) := by
  cases f <;> simp only [Malformed, Complete, Function.maxQuantity, maxReadQuantity,
    maxWriteQuantity]
  case readHolding => omega
  case readInput => omega
  case writeSingle => simp [wanted]
  case writeMultiple => omega

/-- All other bytes are complete and have a quantity within bounds. -/
theorem not_malformed_iff {f : Function} {data : List UInt8} :
    ¬ Malformed f data ↔
      Complete f data ∧ 0 < wanted f data ∧ wanted f data ≤ f.maxQuantity := by
  rw [malformed_iff, not_or, not_not, not_not]

/-! ### Decoding -/

theorem decode_code (unit : UInt8) (f : Function) (data : List UInt8) :
    decode unit (f.code :: data) = (decodeData unit f data).bind validate := by
  rw [decode, Function.ofCode?_code]

/-- A byte of no function is reported whatever follows it. -/
theorem decode_of_unsupported {code : UInt8} (h : code ∉ [3, 4, 6, 16]) (unit : UInt8)
    (data : List UInt8) : decode unit (code :: data) = .error (.invalidFunction code) := by
  rw [decode, Function.ofCode?_eq_none h]

theorem decodeData_of_short {data : List UInt8} (h : data.length < 4) (unit : UInt8)
    (f : Function) : decodeData unit f data = .error (.invalidData (.shortPdu f)) := by
  match data, h with
  | [], _ | [_], _ | [_, _], _ | [_, _, _], _ => rfl

/-- The bytes of a block to write are its byte count and its words. -/
private theorem decodeBlock_eq {unit : UInt8} {address quantity : UInt16} {count : UInt8}
    {words : List UInt8} (hcount : count.toNat = 2 * quantity.toNat)
    (hwords : 2 * quantity.toNat ≤ words.length) :
    decodeBlock unit address quantity (count :: words) =
      .ok (writeMultiple unit address
        ((List.range quantity.toNat).map fun i => field words (2 * i))) := by
  rw [decodeBlock, if_neg (by omega), hcount, wordsOf_take hwords]

/-- Complete bytes are taken as the request in their places. -/
theorem decodeData_of_complete {f : Function} {data : List UInt8} (h : Complete f data)
    (unit : UInt8) : decodeData unit f data = .ok (ofFields unit f data) := by
  have hlen : 4 ≤ data.length := by
    cases f <;> simp only [Complete] at h <;> omega
  -- Only a block to write reads on behind the first four bytes.
  match data, hlen with
  | a₁ :: a₀ :: b₁ :: b₀ :: rest, _ =>
    have hquantity : UInt16.ofNat (ofOctets b₁ b₀).toNat = ofOctets b₁ b₀ := UInt16.ofNat_toNat
    cases f with
    | readHolding => exact congrArg (fun n => Except.ok (read unit .readHolding _ n)) hquantity.symm
    | readInput => exact congrArg (fun n => Except.ok (read unit .readInput _ n)) hquantity.symm
    | writeSingle => rfl
    | writeMultiple =>
      have hwanted : wanted .writeMultiple (a₁ :: a₀ :: b₁ :: b₀ :: rest) =
        (ofOctets b₁ b₀).toNat := rfl
      obtain ⟨hcount, hend⟩ := h
      rw [hwanted] at hcount hend
      match rest with
      | [] =>
        simp only [List.length_cons, List.length_nil] at hend
        omega
      | count :: words =>
        simp only [List.length_cons] at hend
        have hbytes : count.toNat = 2 * (ofOctets b₁ b₀).toNat := hcount
        have hvalues : (List.range (ofOctets b₁ b₀).toNat).map (fun i => field words (2 * i)) =
            payload .writeMultiple (a₁ :: a₀ :: b₁ :: b₀ :: count :: words) := by
          refine List.map_congr_left fun i _ => ?_
          rw [Nat.add_comm 5, field_cons, field_cons, field_cons, field_cons, field_cons]
        show decodeBlock unit (ofOctets a₁ a₀) (ofOctets b₁ b₀) (count :: words) = _
        rw [decodeBlock_eq hbytes (by omega), hvalues, writeMultiple, ofFields, payload,
          List.length_map, List.length_range]
        rfl

/-- Incomplete bytes give a data fault. -/
theorem decodeData_of_incomplete {f : Function} {data : List UInt8} (h : ¬ Complete f data)
    (unit : UInt8) : ∃ fault, decodeData unit f data = .error (.invalidData fault) := by
  by_cases hlen : 4 ≤ data.length
  · match data, hlen with
    | a₁ :: a₀ :: b₁ :: b₀ :: rest, hlen =>
      cases f with
      | readHolding => exact absurd hlen h
      | readInput => exact absurd hlen h
      | writeSingle => exact absurd hlen h
      | writeMultiple =>
        match rest with
        | [] => exact ⟨_, rfl⟩
        | count :: words =>
          have hfault : count.toNat ≠ 2 * (ofOctets b₁ b₀).toNat ∨ words.length < count.toNat := by
            by_contra hfine
            rw [not_or, not_not] at hfine
            refine h ⟨hfine.1, ?_⟩
            show 5 + 2 * (ofOctets b₁ b₀).toNat ≤ words.length + 1 + 4
            omega
          refine ⟨.byteCount count.toNat (ofOctets b₁ b₀).toNat, ?_⟩
          show decodeBlock unit (ofOctets a₁ a₀) (ofOctets b₁ b₀) (count :: words) = _
          rw [decodeBlock, if_pos hfault]
  · exact ⟨_, decodeData_of_short (by omega) unit f⟩

private theorem wanted_lt (f : Function) (data : List UInt8) : wanted f data < 65536 := by
  have := (field data 2).toNat_lt
  cases f <;> simp only [wanted] <;> omega

/-- A request is without fault exactly if its quantity is within the bounds of its function and a
    write brings as many values. -/
theorem fault?_eq_none_iff {q : Request} :
    q.fault? = none ↔
      0 < q.quantity.toNat ∧ q.quantity.toNat ≤ q.function.maxQuantity ∧
        (q.function.isWrite = true → q.values.length = q.quantity.toNat) := by
  have hzero : q.quantity = 0 ↔ q.quantity.toNat = 0 := by
    rw [← UInt16.toNat_inj]
    rfl
  unfold fault?
  simp only [hzero]
  by_cases hbounds : q.quantity.toNat = 0 ∨ q.function.maxQuantity < q.quantity.toNat
  · rw [if_pos hbounds]
    simp only [reduceCtorEq, false_iff]
    omega
  · rw [if_neg hbounds]
    by_cases hvalues : q.function.isWrite = true ∧ q.values.length ≠ q.quantity.toNat
    · rw [if_pos hvalues]
      simp only [reduceCtorEq, false_iff]
      exact fun h => hvalues.2 (h.2.2 hvalues.1)
    · rw [if_neg hvalues]
      simp only [true_iff]
      exact ⟨by omega, by omega, fun hw => by_contra fun hne => hvalues ⟨hw, hne⟩⟩

theorem quantity_ofFields (unit : UInt8) (f : Function) (data : List UInt8) :
    (ofFields unit f data).quantity.toNat = wanted f data := by
  have := wanted_lt f data
  show (UInt16.ofNat (wanted f data)).toNat = wanted f data
  rw [UInt16.toNat_ofNat']
  omega

/-- A write brings as many words as it is about. -/
theorem length_payload {f : Function} (hf : f.isWrite = true) (data : List UInt8) :
    (payload f data).length = wanted f data := by
  cases f with
  | readHolding | readInput => cases hf
  | writeSingle => rfl
  | writeMultiple => simp [payload]

/-- A request in its places has a fault exactly if its quantity is out of bounds. -/
theorem fault?_ofFields_eq_none_iff {unit : UInt8} {f : Function} {data : List UInt8} :
    (ofFields unit f data).fault? = none ↔
      0 < wanted f data ∧ wanted f data ≤ f.maxQuantity := by
  rw [fault?_eq_none_iff, quantity_ofFields]
  exact ⟨fun h => ⟨h.1, h.2.1⟩, fun h => ⟨h.1, h.2, fun hf => length_payload hf data⟩⟩

theorem fault?_ofFields {f : Function} {data : List UInt8} (h : ¬ Malformed f data)
    (unit : UInt8) : (ofFields unit f data).fault? = none := by
  exact fault?_ofFields_eq_none_iff.2 (not_malformed_iff.1 h).2

/-- Malformed bytes give a data fault. -/
theorem decode_of_malformed {f : Function} {data : List UInt8} (h : Malformed f data)
    (unit : UInt8) : ∃ fault, decode unit (f.code :: data) = .error (.invalidData fault) := by
  rw [decode_code]
  by_cases hcomplete : Complete f data
  · have hbounds := (malformed_iff.1 h).resolve_left (not_not_intro hcomplete)
    have hfault : (ofFields unit f data).fault? ≠ none :=
      fun hnone => hbounds (fault?_ofFields_eq_none_iff.1 hnone)
    obtain ⟨fault, hfault⟩ := Option.ne_none_iff_exists'.1 hfault
    refine ⟨fault, ?_⟩
    rw [decodeData_of_complete hcomplete, Except.bind, validate, hfault]
  · obtain ⟨fault, hfault⟩ := decodeData_of_incomplete hcomplete unit
    exact ⟨fault, by rw [hfault, Except.bind]⟩

/-- All others give the request in their places. -/
theorem decode_of_wellFormed {f : Function} {data : List UInt8} (h : ¬ Malformed f data)
    (unit : UInt8) : decode unit (f.code :: data) = .ok (ofFields unit f data) := by
  rw [decode_code, decodeData_of_complete (not_malformed_iff.1 h).1, Except.bind, validate,
    fault?_ofFields h]

/-- What is decoded has no fault. -/
theorem fault?_of_decode {unit : UInt8} {pdu : List UInt8} {q : Request}
    (hq : decode unit pdu = .ok q) : q.fault? = none := by
  cases pdu with
  | nil => cases hq
  | cons code data =>
    by_cases hcode : code ∈ [3, 4, 6, 16]
    · obtain ⟨f, rfl⟩ := Function.exists_code_iff.2 hcode
      by_cases hmalformed : Malformed f data
      · obtain ⟨fault, herror⟩ := decode_of_malformed hmalformed unit
        cases herror.symm.trans hq
      · rw [decode_of_wellFormed hmalformed] at hq
        obtain rfl := Except.ok.inj hq
        exact fault?_ofFields hmalformed unit
    · rw [decode_of_unsupported hcode] at hq
      cases hq

end Request

end SolarTwin.Modbus

import SolarTwin.Proofs.Modbus.ReadingBack

namespace SolarTwin.Modbus

/-!
# The grammar of requests

A protocol data unit is a request of one of three shapes, with any bytes behind it.  Decoding
accepts exactly these, and tells the others apart by their first byte.

* `Request.Grammar` — the three shapes, said in words and bytes alone;
* `Request.grammar_iff` — behind a function byte these are the bytes that are not malformed;
* `Request.exists_encode_append` — what is decoded stands in front of the bytes it is decoded from;
* `Request.decode_grammar` — what is accepted, as which request, and with what error the rest is
  rejected.
-/

namespace Request

/-- The protocol data units that are requests. -/
inductive Grammar : List UInt8 → Prop
  /-- A block of up to 125 words is read. -/
  | read {code : UInt8} (hcode : code ∈ [3, 4]) (address quantity : UInt16)
      (hpos : 1 ≤ quantity.toNat) (hmax : quantity.toNat ≤ 125) (rest : List UInt8) :
      Grammar (code :: octets address ++ octets quantity ++ rest)
  /-- A word is written. -/
  | writeSingle (address value : UInt16) (rest : List UInt8) :
      Grammar (6 :: octets address ++ octets value ++ rest)
  /-- A block of up to 123 words is written. -/
  | writeMultiple (address quantity : UInt16) (hpos : 1 ≤ quantity.toNat)
      (hmax : quantity.toNat ≤ 123) (count : UInt8) (hcount : count.toNat = 2 * quantity.toNat)
      (words : List UInt8) (hwords : words.length = 2 * quantity.toNat) (rest : List UInt8) :
      Grammar (16 :: octets address ++ octets quantity ++ count :: words ++ rest)

variable {f : Function} {data bytes : List UInt8}

/-! ### The shapes and the places -/

/-- The first four bytes are those of the words in the first two places. -/
private theorem eq_octets_append (h : 4 ≤ data.length) :
    data = octets (field data 0) ++ octets (field data 2) ++ data.drop 4 :=
  calc data = octets (field data 0) ++ data.drop 2 := drop_eq_octets_append (i := 0) (by omega)
    _ = _ := by rw [drop_eq_octets_append (i := 2) (by omega), List.append_assoc]

/-- Bytes that are not malformed have the shape of their function. -/
theorem grammar_of_wellFormed (h : ¬ Malformed f data) : Grammar (f.code :: data) := by
  obtain ⟨hcomplete, hpos, hmax⟩ := not_malformed_iff.1 h
  cases f with
  | readHolding | readInput =>
    rw [eq_octets_append hcomplete]
    exact .read (by decide) _ _ hpos hmax _
  | writeSingle =>
    rw [eq_octets_append hcomplete]
    exact .writeSingle _ _ _
  | writeMultiple =>
    have hend := hcomplete.2
    have hwords : ((data.drop 5).take (2 * wanted .writeMultiple data)).length =
        2 * wanted .writeMultiple data := by
      rw [List.length_take, List.length_drop]
      omega
    rw [eq_append_of_complete hcomplete]
    exact .writeMultiple _ _ hpos hmax _ hcomplete.1 _ hwords _

/-- Bytes of one of the shapes begin with the byte of a function, and what follows is not
    malformed. -/
theorem Grammar.wellFormed (h : Grammar bytes) :
    ∃ f data, bytes = Function.code f :: data ∧ ¬ Malformed f data := by
  cases h with
  | read hcode address quantity hpos hmax rest =>
    obtain ⟨f, rfl⟩ := Function.exists_code_iff.2 (List.mem_append_left [6, 16] hcode)
    have hf := Function.code_mem_reads_iff.1 hcode
    refine ⟨f, octets address ++ (octets quantity ++ rest), by simp, ?_⟩
    have hquantity := field_octets_octets address quantity rest
    rw [not_malformed_iff]
    cases f with
    | readHolding | readInput =>
      refine ⟨?_, ?_, ?_⟩
      · simp [Complete]
        omega
      all_goals
        rw [wanted, hquantity]
        assumption
    | writeSingle | writeMultiple => cases hf
  | writeSingle address value rest =>
    refine ⟨.writeSingle, octets address ++ (octets value ++ rest), by simp [Function.code], ?_⟩
    simp [Malformed]
    omega
  | writeMultiple address quantity hpos hmax count hcount words hwords rest =>
    refine ⟨.writeMultiple, octets address ++ (octets quantity ++ (count :: words ++ rest)),
      by simp [Function.code], ?_⟩
    have hquantity := field_octets_octets address quantity (count :: words ++ rest)
    have hbyte : (octets address ++ (octets quantity ++ (count :: words ++ rest))).getD 4 0 =
        count := rfl
    rw [not_malformed_iff, Complete, wanted, hquantity, hbyte]
    refine ⟨⟨hcount, ?_⟩, hpos, hmax⟩
    simp [hwords]
    omega

/-- Behind the byte of a function, bytes have its shape exactly if they are not malformed. -/
theorem grammar_iff : Grammar (f.code :: data) ↔ ¬ Malformed f data := by
  refine ⟨fun h => ?_, grammar_of_wellFormed⟩
  obtain ⟨g, data', hbytes, hwell⟩ := h.wellFormed
  obtain ⟨hcode, rfl⟩ := List.cons.inj hbytes
  rwa [Function.code_inj hcode]

/-- Bytes of one of the shapes begin with the byte of a function. -/
theorem Grammar.head (h : Grammar bytes) : ∃ code ∈ [3, 4, 6, 16], bytes.head? = some code := by
  obtain ⟨f, data, rfl, -⟩ := h.wellFormed
  exact ⟨f.code, Function.exists_code_iff.1 ⟨f, rfl⟩, rfl⟩

/-! ### What is decoded -/

/-- The request in the places of complete bytes, encoded again, stands in front of them. -/
theorem exists_encode_append (h : Complete f data) (unit : UInt8) :
    ∃ rest, f.code :: data = (ofFields unit f data).encode ++ rest := by
  cases f with
  | readHolding | readInput =>
    have hquantity : UInt16.ofNat (field data 2).toNat = field data 2 := UInt16.ofNat_toNat
    refine ⟨data.drop 4, ?_⟩
    simp only [encode, ofFields, wanted, hquantity, List.cons_append, ← eq_octets_append h]
  | writeSingle =>
    refine ⟨data.drop 4, ?_⟩
    simp only [encode, ofFields, payload, octetsOf_cons, octetsOf_nil, List.append_nil,
      List.cons_append, ← eq_octets_append h]
  | writeMultiple =>
    have hquantity : UInt16.ofNat (wanted .writeMultiple data) = field data 2 :=
      UInt16.ofNat_toNat
    have hvalues : (payload .writeMultiple data).length = wanted .writeMultiple data :=
      length_payload rfl data
    have hcount : UInt8.ofNat (2 * wanted .writeMultiple data) = data.getD 4 0 := by
      rw [← h.1, UInt8.ofNat_toNat]
    refine ⟨(data.drop 5).drop (2 * wanted .writeMultiple data), ?_⟩
    have hdata := congrArg (Function.writeMultiple.code :: ·) (eq_append_of_complete h)
    simp only [encode, ofFields, hquantity, hvalues, hcount, octetsOf_payload rfl h]
    exact hdata

/-- What is decoded bears its unit, stands in front of the bytes and has the values it writes. -/
theorem decoded_of_wellFormed (hwell : ¬ Malformed f data) {unit : UInt8} {q : Request}
    (hq : decode unit (f.code :: data) = .ok q) :
    q.unit = unit ∧ (∃ rest, f.code :: data = q.encode ++ rest) ∧
    (q.function.isWrite = true → q.values.length = q.quantity.toNat) ∧
    (q.function.isRead = true → q.values = []) := by
  rw [decode_of_wellFormed hwell unit] at hq
  obtain rfl := Except.ok.inj hq
  refine ⟨rfl, exists_encode_append (not_malformed_iff.1 hwell).1 unit, fun hwrite => ?_,
    fun hread => ?_⟩
  · show (payload f data).length = _
    rw [quantity_ofFields]
    exact length_payload hwrite data
  · show payload f data = []
    cases f with
    | readHolding | readInput => rfl
    | writeSingle | writeMultiple => cases hread

/-- **Decoding accepts exactly the grammar of requests.**  A request that is decoded bears the unit
    it was sent to, has as many values as its quantity says if it writes and none if it reads, and,
    encoded again, stands in front of the bytes it was decoded from.  Of all other bytes, none at
    all are a fault of the frame, those that begin with no function byte are reported with that
    byte, whatever follows it, and the rest are a fault of the data. -/
theorem decode_grammar (unit : UInt8) (bytes : List UInt8) :
    ((∃ q, decode unit bytes = .ok q) ↔ Grammar bytes) ∧
    (∀ q, decode unit bytes = .ok q →
      q.unit = unit ∧ (∃ rest, bytes = q.encode ++ rest) ∧
      (q.function.isWrite = true → q.values.length = q.quantity.toNat) ∧
      (q.function.isRead = true → q.values = [])) ∧
    ((∃ fault, decode unit bytes = .error (.frame fault)) ↔ bytes = []) ∧
    (∀ code, decode unit bytes = .error (.invalidFunction code) ↔
      bytes.head? = some code ∧ code ∉ [3, 4, 6, 16]) ∧
    ((∃ fault, decode unit bytes = .error (.invalidData fault)) ↔
      ¬ Grammar bytes ∧ ∃ code ∈ [3, 4, 6, 16], bytes.head? = some code) := by
  rcases bytes with _ | ⟨code, data⟩
  case nil =>
    have hnone : ¬ Grammar [] := fun h => by simpa using h.head
    simp [decode, hnone]
  case cons =>
    by_cases hcode : code ∈ [3, 4, 6, 16]
    · obtain ⟨f, rfl⟩ := Function.exists_code_iff.2 hcode
      have hsupported (code' : UInt8) :
          ¬ ((f.code :: data).head? = some code' ∧ code' ∉ [3, 4, 6, 16]) := by
        rintro ⟨hhead, hunsupported⟩
        obtain rfl := Option.some.inj hhead
        exact hunsupported hcode
      rw [grammar_iff]
      by_cases hwell : Malformed f data
      · obtain ⟨fault, herror⟩ := decode_of_malformed hwell unit
        rw [herror]
        refine ⟨by simp [hwell], by simp, by simp, fun code' => ?_, ?_⟩
        · exact iff_of_false (by simp) (hsupported code')
        · exact iff_of_true ⟨fault, rfl⟩ ⟨not_not_intro hwell, f.code, hcode, rfl⟩
      · have hdecoded := decode_of_wellFormed hwell unit
        refine ⟨by simp [hdecoded, hwell], fun q hq => decoded_of_wellFormed hwell hq,
          by simp [hdecoded], fun code' => ?_, by simp [hdecoded, hwell]⟩
        rw [hdecoded]
        exact iff_of_false (by simp) (hsupported code')
    · -- No request begins with this byte, so it is reported before anything else is looked at.
      have hhead (code' : UInt8) (h : (code :: data).head? = some code') :
          code' ∉ [3, 4, 6, 16] := by
        obtain rfl := Option.some.inj h
        exact hcode
      have hnone : ¬ Grammar (code :: data) := by
        intro h
        obtain ⟨code', hcode', h⟩ := h.head
        exact hhead code' h hcode'
      rw [decode_of_unsupported hcode]
      refine ⟨by simp [hnone], by simp, by simp, fun code' => ?_, ?_⟩
      · constructor
        · intro h
          obtain rfl := Error.invalidFunction.inj (Except.error.inj h)
          exact ⟨rfl, hcode⟩
        · rintro ⟨h, -⟩
          obtain rfl := Option.some.inj h
          rfl
      · refine iff_of_false (by simp) ?_
        rintro ⟨-, code', hcode', h⟩
        exact hhead code' h hcode'

/-- A block of two words with a byte too many is accepted and keeps its bytes; with a byte count
    that is not that of the words, or cut off in the middle of them, it is a fault of the data; and
    so is a function byte alone, unless it is that of no function. -/
theorem decode_grammar_block :
    (∃ q rest, decode 1 [16, 0, 8, 0, 2, 4, 255, 254, 1, 125, 99] = .ok q ∧
      [16, 0, 8, 0, 2, 4, 255, 254, 1, 125, 99] = q.encode ++ rest ∧ q.values.length = 2) ∧
    (∃ fault, decode 1 [16, 0, 8, 0, 2, 3, 255, 254, 1, 125, 99] = .error (.invalidData fault)) ∧
    (∃ fault, decode 1 [16, 0, 8, 0, 2, 4, 255, 254, 1] = .error (.invalidData fault)) ∧
    (∃ fault, decode 1 [3] = .error (.invalidData fault)) ∧
    decode 1 [5] = .error (.invalidFunction 5) := by
  have hblock : Grammar [16, 0, 8, 0, 2, 4, 255, 254, 1, 125, 99] :=
    .writeMultiple 8 2 (by decide) (by decide) 4 rfl [255, 254, 1, 125] rfl [99]
  have hmalformed {f : Function} {data : List UInt8} (h : Malformed f data) :
      ∃ fault, decode 1 (f.code :: data) = .error (.invalidData fault) :=
    (decode_grammar 1 (f.code :: data)).2.2.2.2.2
      ⟨grammar_iff.not_left.2 h, f.code, Function.exists_code_iff.1 ⟨f, rfl⟩, rfl⟩
  obtain ⟨haccepted, hdecoded, -⟩ := decode_grammar 1 [16, 0, 8, 0, 2, 4, 255, 254, 1, 125, 99]
  obtain ⟨q, hq⟩ := haccepted.2 hblock
  obtain ⟨-, ⟨rest, hrest⟩, hvalues, -⟩ := hdecoded q hq
  have hwrites : q = writeMultiple 1 8 [65534, 381] := Except.ok.inj (hq.symm.trans rfl)
  refine ⟨⟨q, rest, hq, hrest, ?_⟩, hmalformed (f := .writeMultiple) ?_,
    hmalformed (f := .writeMultiple) ?_, hmalformed (f := .readHolding) ?_,
    ((decode_grammar 1 [5]).2.2.2.1 5).2 ⟨rfl, by decide⟩⟩
  · rw [hvalues (by rw [hwrites]; rfl), hwrites]
    rfl
  · exact .inr (.inr (.inr (.inl (by decide))))
  · exact .inr (.inr (.inr (.inr (by decide))))
  · exact .inl (by decide)

end Request

end SolarTwin.Modbus

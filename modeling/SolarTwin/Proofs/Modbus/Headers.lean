import SolarTwin.Proofs.Modbus.Framing

namespace SolarTwin.Modbus

/-!
# Headers and the bytes behind them

A frame is written behind a header that announces its bytes, and that header is read back from it.
The other way round, an accepted header leaves nothing open but its transaction, its unit and the
number of bytes behind it, so writing a frame around so many bytes gives that header again.

* `Header.check_ok_or_fault` and `Header.exists_check_eq_fault_iff` — headers are accepted or
  rejected for a fault of the frame, and which of the two;
* `Frame.exists_header_of_encode` — the header that is read from a frame;
* `Frame.Returns` and `Frame.returns_encode` — the bytes that take something back to where a frame has
  come from;
* `Frame.encode_of_accepted` — the frame that begins with an accepted header;
* `Frame.parsing_inverts_encoding` — reading headers and writing frames undo each other.
-/

namespace Header

variable {h : Header}

/-- What a check rejects, it rejects for a fault of the frame. -/
theorem check_eq_error_iff {e : Error} :
    h.check = .error e ↔ ∃ fault, h.fault? = some fault ∧ e = .frame fault := by
  unfold check
  cases h.fault? <;> simp [eq_comm]

/-- Something is wrong with a header exactly if its protocol number is not zero or its length is out
    of bounds. -/
private theorem exists_fault_iff :
    (∃ fault, h.fault? = some fault) ↔
      h.protocol ≠ 0 ∨ h.length.toNat < 2 ∨ 254 < h.length.toNat := by
  rw [← Option.ne_none_iff_exists', ne_eq, fault?_eq_none_iff]
  constructor
  · intro hwrong
    by_cases hprotocol : h.protocol = 0
    · right
      by_contra hwithin
      exact hwrong ⟨hprotocol, by omega, by omega⟩
    · exact .inl hprotocol
  · rintro hwrong ⟨hprotocol, hlo, hhi⟩
    rcases hwrong with hother | hlength
    · exact hother hprotocol
    · omega

/-- A header is accepted as it is or rejected for a fault of the frame. -/
theorem check_ok_or_fault : h.check = .ok h ∨ ∃ fault, h.check = .error (.frame fault) := by
  unfold check
  cases h.fault? with
  | none => exact .inl rfl
  | some fault => exact .inr ⟨fault, rfl⟩

/-- It is rejected exactly if its protocol number is not zero or its length is out of bounds. -/
theorem exists_check_eq_fault_iff :
    (∃ fault, h.check = .error (.frame fault)) ↔
      h.protocol ≠ 0 ∨ h.length.toNat < 2 ∨ 254 < h.length.toNat := by
  rw [← exists_fault_iff]
  simp [check_eq_error_iff]

/-- The length of an accepted header counts the unit and the bytes it announces. -/
private theorem length_eq_of_accepted (haccepted : h.check = .ok h) :
    h.protocol = 0 ∧ h.length.toNat = h.pduLength + 1 := by
  obtain ⟨hprotocol, hlo, -⟩ := fault?_eq_none_iff.1 (check_eq_ok_iff.1 haccepted).1
  refine ⟨hprotocol, ?_⟩
  unfold pduLength
  omega

end Header

namespace Frame

/-- The frame around some bytes is the header that announces them, followed by these bytes. -/
theorem encode_eq_of_announced {h : Header} {pdu : List UInt8} (hprotocol : h.protocol = 0)
    (hlength : h.length.toNat = pdu.length + 1) :
    encode h.transaction h.unit pdu = h.encode ++ pdu := by
  have hheader : ⟨h.transaction, 0, UInt16.ofNat (pdu.length + 1), h.unit⟩ = h := by
    rw [← hlength, UInt16.ofNat_toNat, ← hprotocol]
  rw [encode, hheader]

/-- The header in front of the frame around 1 to 253 bytes is accepted, and announces these bytes.
    -/
theorem exists_header_of_encode (transaction : UInt16) (unit : UInt8) {pdu : List UInt8}
    (hmin : 1 ≤ pdu.length) (hmax : pdu.length ≤ 253) :
    ∃ h : Header,
      (Header.ofBytes? ((encode transaction unit pdu).take headerSize)).map Header.check =
        some (.ok h) ∧
      h.transaction = transaction ∧ h.protocol = 0 ∧ h.length.toNat = pdu.length + 1 ∧
      h.unit = unit ∧ h.pduLength = pdu.length ∧
      (encode transaction unit pdu).drop headerSize = pdu ∧
      (encode transaction unit pdu).length ≤ maxFrame := by
  obtain ⟨h, hh⟩ : ∃ h : Header, h = ⟨transaction, 0, UInt16.ofNat (pdu.length + 1), unit⟩ :=
    ⟨_, rfl⟩
  -- The length does not overflow, so the header announces what follows it.
  have hannounced : h.length.toNat = pdu.length + 1 := by
    rw [hh, UInt16.toNat_ofNat']
    omega
  have hprotocol : h.protocol = 0 := by rw [hh]
  have hframe : encode transaction unit pdu = h.encode ++ pdu := by rw [encode, hh]
  have hfault : h.fault? = none := Header.fault?_eq_none_iff.2 ⟨hprotocol, by omega, by omega⟩
  have htake : (h.encode ++ pdu).take headerSize = h.encode ++ [] := by
    rw [List.append_nil, List.take_left' h.length_encode]
  refine ⟨h, ?_, by rw [hh], hprotocol, hannounced, by rw [hh], ?_, ?_, ?_⟩
  · rw [hframe, htake, Header.ofBytes?_encode, Option.map_some,
      Header.check_eq_ok_iff.2 ⟨hfault, rfl⟩]
  · rw [Header.pduLength, hannounced, Nat.add_sub_cancel]
  · rw [hframe, List.drop_left' h.length_encode]
  · rw [hframe, List.length_append, Header.length_encode, headerSize, maxFrame]
    omega

/-- The bytes `sent` take `pdu` back to where a frame has come from: they begin with the very bytes of
    its transaction, seven of them are read as an accepted header about its transaction and its unit,
    with protocol number zero and the length of `pdu`, and `pdu` is all that follows. -/
structure Returns (f : Frame) (pdu sent : List UInt8) : Prop where
  transaction : sent.take 2 = f.bytes.take 2
  header : ∃ h : Header,
    (Header.ofBytes? (sent.take headerSize)).map Header.check = some (.ok h) ∧
    h.transaction = f.header.transaction ∧ h.protocol = 0 ∧ h.length.toNat = pdu.length + 1 ∧
    h.unit = f.header.unit
  rest : sent.drop headerSize = pdu

/-- The frame around 1 to 253 bytes, for the transaction and the unit of another one, takes them back
    to where that one has come from. -/
theorem returns_encode (f : Frame) {pdu : List UInt8} (hmin : 1 ≤ pdu.length)
    (hmax : pdu.length ≤ 253) : f.Returns pdu (encode f.header.transaction f.header.unit pdu) := by
  obtain ⟨h, hread, htransaction, hprotocol, hlength, hunit, -, hrest, -⟩ :=
    exists_header_of_encode f.header.transaction f.header.unit hmin hmax
  exact
    { transaction := rfl
      header := ⟨h, hread, htransaction, hprotocol, hlength, hunit⟩
      rest := hrest }

/-- Around as many bytes as an accepted header announces, the frame begins with that header. -/
theorem encode_of_accepted {bytes pdu : List UInt8} {h : Header} (hsize : bytes.length = headerSize)
    (hparsed : (Header.ofBytes? bytes).map Header.check = some (.ok h))
    (hpdu : pdu.length = h.pduLength) : encode h.transaction h.unit pdu = bytes ++ pdu := by
  obtain ⟨h', hread, haccepted⟩ := Option.map_eq_some_iff.1 hparsed
  obtain ⟨-, rfl⟩ := Header.check_eq_ok_iff.1 haccepted
  obtain ⟨hprotocol, hlength⟩ := Header.length_eq_of_accepted haccepted
  have hbytes := Header.ofBytes?_eq_some_iff.1 hread
  rw [List.drop_eq_nil_of_le (Nat.le_of_eq hsize), List.append_nil] at hbytes
  rw [encode_eq_of_announced hprotocol (by rw [hlength, hpdu]), ← hbytes]

/-- **Reading headers and writing frames undo each other.**  From the first seven bytes of the frame
    around 1 to 253 bytes a header is accepted that has the transaction and the unit of the frame,
    protocol number zero, and the length of its bytes, which are all that follows.  Around as many
    bytes as an accepted header announces, the frame for its transaction and unit begins with the
    very bytes that the header was read from.  And seven bytes, which are four numbers with the high
    bytes first, are rejected exactly if the protocol number is not zero or the length is out of
    2 to 254, always for a fault of the frame. -/
theorem parsing_inverts_encoding :
    (∀ (transaction : UInt16) (unit : UInt8) (pdu : List UInt8),
      1 ≤ pdu.length → pdu.length ≤ 253 →
      ∃ h : Header,
        (Header.ofBytes? ((encode transaction unit pdu).take headerSize)).map Header.check =
          some (.ok h) ∧
        h.transaction = transaction ∧ h.protocol = 0 ∧ h.length.toNat = pdu.length + 1 ∧
        h.unit = unit ∧ h.pduLength = pdu.length ∧
        (encode transaction unit pdu).drop headerSize = pdu ∧
        (encode transaction unit pdu).length ≤ maxFrame) ∧
    (∀ (bytes pdu : List UInt8) (h : Header), bytes.length = headerSize →
      (Header.ofBytes? bytes).map Header.check = some (.ok h) → pdu.length = h.pduLength →
      encode h.transaction h.unit pdu = bytes ++ pdu) ∧
    ∀ t₁ t₀ p₁ p₀ l₁ l₀ unit : UInt8, ∃ h : Header,
      Header.ofBytes? [t₁, t₀, p₁, p₀, l₁, l₀, unit] = some h ∧
      h.transaction.toNat = t₁.toNat * 256 + t₀.toNat ∧
      h.protocol.toNat = p₁.toNat * 256 + p₀.toNat ∧
      h.length.toNat = l₁.toNat * 256 + l₀.toNat ∧ h.unit = unit ∧
      (h.check = .ok h ∨ ∃ fault, h.check = .error (.frame fault)) ∧
      ((∃ fault, h.check = .error (.frame fault)) ↔
        h.protocol ≠ 0 ∨ h.length.toNat < 2 ∨ 254 < h.length.toNat) := by
  refine ⟨exists_header_of_encode, fun bytes pdu h => encode_of_accepted,
    fun t₁ t₀ p₁ p₀ l₁ l₀ unit => ?_⟩
  exact ⟨_, rfl, toNat_ofOctets t₁ t₀, toNat_ofOctets p₁ p₀, toNat_ofOctets l₁ l₀, rfl,
    Header.check_ok_or_fault, Header.exists_check_eq_fault_iff⟩

/-- The frame around 253 bytes, whose header announces all of them, and a header that is read and
    written again. -/
theorem parsing_inverts_encoding_longest :
    (∃ h : Header,
      (Header.ofBytes? ((encode 513 9 (List.replicate 253 7)).take headerSize)).map Header.check =
        some (.ok h) ∧
      h.transaction = 513 ∧ h.pduLength = 253 ∧
      (encode 513 9 (List.replicate 253 7)).drop headerSize = List.replicate 253 7) ∧
    encode 513 9 [3, 4] = [2, 1, 0, 0, 0, 3, 9] ++ [3, 4] ∧
    ∃ h : Header, Header.ofBytes? [2, 1, 0, 0, 0, 255, 9] = some h ∧
      ∃ fault, h.check = .error (.frame fault) := by
  have hsize : (List.replicate 253 (7 : UInt8)).length = 253 := List.length_replicate
  obtain ⟨hencoded, hparsed, hrejected⟩ := parsing_inverts_encoding
  obtain ⟨h, hread, htransaction, -, -, -, hlength, hrest, -⟩ :=
    hencoded 513 9 (List.replicate 253 7) (by omega) (by omega)
  obtain ⟨h', hread', -, -, hlength', -, -, hwrong⟩ := hrejected 2 1 0 0 0 255 9
  refine ⟨⟨h, hread, htransaction, hlength.trans hsize, hrest⟩, ?_,
    h', hread', hwrong.2 (.inr (.inr ?_))⟩
  · exact hparsed [2, 1, 0, 0, 0, 3, 9] [3, 4] ⟨513, 0, 3, 9⟩ rfl rfl rfl
  · rw [hlength']
    decide

end Frame

end SolarTwin.Modbus

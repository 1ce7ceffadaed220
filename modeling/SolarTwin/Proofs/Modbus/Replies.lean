import SolarTwin.Proofs.Modbus.Framing
import SolarTwin.Proofs.Modbus.Service

namespace SolarTwin

open Modbus

/-!
# What replies look like

A reply narrows three numbers: the bytes of the words read to one byte, its own length to two, and a
function with the mark of an exception to one.  None of them loses anything, because a request names
at most 125 words and a function byte below 128.

* `Modbus.wordsOf_octetsOf` and `Modbus.octetsOf_wordsOf` — words and their bytes;
* `Modbus.Reply.length_encode` — the length of a reply;
* `Modbus.Frame.complete_around` — a frame around bytes that are not too many is complete;
* `Bank.Answers` and `Bank.exists_answers` — what some bytes can be answered with, on whatever bank;
* `Bank.Answers.body_inj` — the bytes of a reply tell which of these it was;
* `Bank.WellFramed` and `Bank.replies_well_framed` — the frame that a reply is sent in.
-/

namespace Modbus

/-! ### Words and their bytes -/

/-- The words of the bytes of some words are these words. -/
theorem wordsOf_octetsOf (ws : List UInt16) : wordsOf (octetsOf ws) = ws := by
  induction ws with
  | nil => rfl
  | cons w ws ih =>
    rw [octetsOf_cons]
    show ofOctets _ _ :: wordsOf (octetsOf ws) = w :: ws
    rw [ofOctets_octets, ih]

private theorem octetsOf_inj {ws vs : List UInt16} (h : octetsOf ws = octetsOf vs) : ws = vs := by
  rw [← wordsOf_octetsOf ws, h, wordsOf_octetsOf]

/-- An even number of bytes are the bytes of their words. -/
theorem octetsOf_wordsOf {bytes : List UInt8} {n : Nat} (h : bytes.length = 2 * n) :
    octetsOf (wordsOf bytes) = bytes := by
  induction n generalizing bytes with
  | zero =>
    have hnil : bytes = [] := List.length_eq_zero_iff.1 h
    rw [hnil]
    rfl
  | succ n ih =>
    -- One step takes two bytes, so it does not follow the constructors of the list.
    match bytes, h with
    | [], h => simp at h
    | [_], h =>
      simp only [List.length_singleton] at h
      omega
    | high :: low :: rest, h =>
      have hrest : rest.length = 2 * n := by
        simp only [List.length_cons] at h
        omega
      rw [wordsOf, octetsOf_cons, octets_ofOctets, ih hrest]
      rfl

/-! ### The length of a reply -/

/-- The number of bytes of a reply with some body. -/
def Body.size : Body → Nat
  | .registers ws => 2 + 2 * ws.length
  | .wroteSingle .. | .wroteMultiple .. => 5
  | .exception _ => 2

theorem Reply.length_encode (r : Reply) : r.encode.length = r.body.size := by
  cases hbody : r.body with
  | registers ws => simp [encode, hbody, Body.size]; omega
  | wroteSingle address value => simp [encode, hbody, Body.size]
  | wroteMultiple address quantity => simp [encode, hbody, Body.size]
  | exception e => simp [encode, hbody, Body.size]

theorem Body.eq_exception_of_exception? {body : Body} {e : Exception}
    (h : body.exception? = some e) : body = .exception e := by
  cases body with
  | exception e' =>
    obtain rfl := Option.some.inj h
    rfl
  | registers | wroteSingle | wroteMultiple => cases h

theorem Exception.code_inj {e e' : Exception} (h : e.code = e'.code) : e = e' :=
  Option.some.inj (by rw [← ofCode?_code e, h, ofCode?_code])

theorem Reply.encode_exception {r : Reply} {e : Exception} (he : r.body = .exception e) :
    r.encode = [r.functionCode ||| 0x80, e.code] := by
  rw [encode, he]

theorem Reply.encode_registers {r : Reply} {ws : List UInt16} (hws : r.body = .registers ws) :
    r.encode = r.functionCode :: UInt8.ofNat (2 * ws.length) :: octetsOf ws := by
  rw [encode, hws]

/-- A reply that is no exception begins with its function byte. -/
theorem Reply.head?_encode {r : Reply} (hnone : r.body.exception? = none) :
    r.encode.head? = some r.functionCode := by
  cases hbody : r.body with
  | exception e =>
    rw [hbody] at hnone
    cases hnone
  | registers | wroteSingle | wroteMultiple => simp [encode, hbody]

/-! ### Frames around given bytes -/

namespace Frame

/-- The frame around a protocol data unit. -/
def around (transaction : UInt16) (unit : UInt8) (pdu : List UInt8) : Frame :=
  ⟨⟨transaction, 0, UInt16.ofNat (pdu.length + 1), unit⟩, pdu⟩

private theorem bytes_around (transaction : UInt16) (unit : UInt8) (pdu : List UInt8) :
    (around transaction unit pdu).bytes = encode transaction unit pdu := rfl

theorem length_encode (transaction : UInt16) (unit : UInt8) (pdu : List UInt8) :
    (encode transaction unit pdu).length = headerSize + pdu.length := by
  rw [← bytes_around, ← size_eq_length_bytes]
  rfl

/-- The frame around some bytes, but not too many, is complete. -/
theorem complete_around (transaction : UInt16) (unit : UInt8) (pdu : List UInt8)
    (hpos : 0 < pdu.length) (hmax : pdu.length ≤ 253) : (around transaction unit pdu).Complete := by
  have hlength : (UInt16.ofNat (pdu.length + 1)).toNat = pdu.length + 1 := by
    rw [UInt16.toNat_ofNat']
    omega
  constructor
  case accepted =>
    -- The protocol number is zero, and the length counts the unit too.
    have hfine : (around transaction unit pdu).header.fault? = none := by
      rw [Header.fault?_eq_none_iff]
      show (0 : UInt16) = 0 ∧ 2 ≤ (UInt16.ofNat (pdu.length + 1)).toNat ∧
        (UInt16.ofNat (pdu.length + 1)).toNat ≤ 254
      exact ⟨rfl, by omega, by omega⟩
    exact Header.check_eq_ok_iff.2 ⟨hfine, rfl⟩
  case length =>
    show pdu.length = (UInt16.ofNat (pdu.length + 1)).toNat - 1
    omega

end Frame

end Modbus

namespace Bank

/-! ### What some bytes can be answered with -/

/-- What the bytes behind a function byte can be answered with, on whatever bank. -/
inductive Answers (code : UInt8) (data : List UInt8) : Body → Prop
  | exception (e : Exception) : Answers code data (.exception e)
  | registers {f : Function} {ws : List UInt16} (hcode : f.code = code) (hread : f.isRead = true)
      (hlength : ws.length = (Request.field data 2).toNat) (hmax : ws.length ≤ maxReadQuantity) :
      Answers code data (.registers ws)
  | wroteSingle (hcode : Function.writeSingle.code = code) :
      Answers code data (.wroteSingle (Request.field data 0) (Request.field data 2))
  | wroteMultiple (hcode : Function.writeMultiple.code = code) :
      Answers code data (.wroteMultiple (Request.field data 0) (Request.field data 2))

/-- A request that is carried out is answered with as many words as it asks for, or with its own
    places. -/
theorem Fulfilled.answers {b b' : Bank} {unit : UInt8} {f : Function} {data : List UInt8}
    {body : Body} (h : b.Fulfilled (.ofFields unit f data) b' body)
    (hwell : ¬ Request.Malformed f data) : Answers f.code data body := by
  -- The quantity of a request is within the bounds of its function.
  obtain ⟨-, -, hmax⟩ := Request.not_malformed_iff.1 hwell
  cases f with
  | readHolding | readInput =>
    obtain ⟨ws, rfl, hread⟩ := h.exists_words rfl
    have hlength : ws.length = (Request.field data 2).toNat := length_of_readFrom hread
    exact .registers rfl rfl hlength (hlength ▸ hmax)
  | writeSingle =>
    rw [h.eq_echo rfl]
    exact .wroteSingle rfl
  | writeMultiple =>
    have hquantity : UInt16.ofNat (Request.wanted .writeMultiple data) = Request.field data 2 :=
      UInt16.ofNat_toNat
    rw [h.eq_echo rfl]
    show Answers _ data (.wroteMultiple (Request.field data 0) (UInt16.ofNat _))
    rw [hquantity]
    exact .wroteMultiple rfl

variable {b : Bank} {unit code : UInt8} {data : List UInt8} {a : Answer}

/-- Bytes behind a function byte are answered under their unit and that byte. -/
theorem exists_answers (b : Bank) (unit code : UInt8) (data : List UInt8) :
    ∃ a, (b.serve unit (code :: data)).result = .ok a ∧
      a.reply.unit = unit ∧ a.reply.functionCode = code ∧ Answers code data a.reply.body := by
  cases b.serving unit (code :: data) with
  | unsupported _ _ hresult | malformed _ _ hresult | inaccessible _ _ _ hresult =>
    exact ⟨_, hresult, rfl, rfl, .exception _⟩
  | accessible hwell _ hresult hfulfilled =>
    exact ⟨_, hresult, rfl, rfl, hfulfilled.answers hwell⟩

theorem answers_of_serve (h : (b.serve unit (code :: data)).result = .ok a) :
    a.reply.unit = unit ∧ a.reply.functionCode = code ∧ Answers code data a.reply.body := by
  obtain ⟨a', hresult, hanswers⟩ := b.exists_answers unit code data
  obtain rfl := Except.ok.inj (h.symm.trans hresult)
  exact hanswers

namespace Answers

variable {body : Body}

/-- A reply has at least two bytes. -/
theorem two_le_size (body : Body) : 2 ≤ body.size := by
  cases body <;> simp only [Body.size] <;> omega

/-- A reply has at most 252 bytes. -/
theorem size_le (h : Answers code data body) : body.size ≤ 252 := by
  cases h with
  | registers _ _ _ hmax =>
    unfold maxReadQuantity at hmax
    simp only [Body.size]
    omega
  | exception | wroteSingle | wroteMultiple => simp [Body.size]

/-- An answer that is no exception is one to a function. -/
private theorem exists_code (h : Answers code data body) (hnone : body.exception? = none) :
    ∃ f : Function, f.code = code := by
  cases h with
  | exception e => cases hnone
  | registers hcode => exact ⟨_, hcode⟩
  | wroteSingle hcode => exact ⟨_, hcode⟩
  | wroteMultiple hcode => exact ⟨_, hcode⟩

/-- Two answers to the same bytes that are no exceptions are equal or both carry words. -/
private theorem eq_or_registers {body' : Body} (h : Answers code data body)
    (h' : Answers code data body') (hnone : body.exception? = none)
    (hnone' : body'.exception? = none) :
    body = body' ∨ ∃ ws ws', body = .registers ws ∧ body' = .registers ws' := by
  -- The function byte alone tells whether words are carried or an echo.
  cases h with
  | exception e => cases hnone
  | registers hcode hread =>
    cases h' with
    | exception e => cases hnone'
    | registers => exact .inr ⟨_, _, rfl, rfl⟩
    | wroteSingle hcode' | wroteMultiple hcode' =>
      obtain rfl := Function.code_inj (hcode.trans hcode'.symm)
      cases hread
  | wroteSingle hcode =>
    cases h' with
    | exception e => cases hnone'
    | registers hcode' hread =>
      obtain rfl := Function.code_inj (hcode'.trans hcode.symm)
      cases hread
    | wroteSingle => exact .inl rfl
    | wroteMultiple hcode' => cases Function.code_inj (hcode.trans hcode'.symm)
  | wroteMultiple hcode =>
    cases h' with
    | exception e => cases hnone'
    | registers hcode' hread =>
      obtain rfl := Function.code_inj (hcode'.trans hcode.symm)
      cases hread
    | wroteSingle hcode' => cases Function.code_inj (hcode.trans hcode'.symm)
    | wroteMultiple => exact .inl rfl

variable {r r' : Reply}

/-- The mark of an exception tells it from every other answer to the same bytes. -/
theorem encode_ne_of_exception {e : Exception} (h : Answers code data r.body)
    (hnone : r.body.exception? = none) (hcode : r.functionCode = code)
    (he : r'.body = .exception e) (hcode' : r'.functionCode = code) : r.encode ≠ r'.encode := by
  intro hbytes
  obtain ⟨f, hf⟩ := h.exists_code hnone
  have hplain := Reply.head?_encode hnone
  rw [hbytes, Reply.encode_exception he, hcode, hcode', ← hf] at hplain
  -- No function byte has its top bit set.
  have hmark : f.code ||| 0x80 ≠ f.code := by
    cases f <;> decide
  exact hmark (Option.some.inj hplain)

/-- The bytes of a reply tell what it says, among all that the request can be answered with. -/
theorem body_inj (h : Answers code data r.body) (h' : Answers code data r'.body)
    (hcode : r.functionCode = code) (hcode' : r'.functionCode = code)
    (hbytes : r.encode = r'.encode) : r.body = r'.body := by
  cases he : r.body.exception? with
  | none =>
    cases he' : r'.body.exception? with
    | none =>
      rcases h.eq_or_registers h' he he' with heq | ⟨ws, ws', hws, hws'⟩
      · exact heq
      · -- Both carry words, which are what follows the first two bytes.
        rw [Reply.encode_registers hws, Reply.encode_registers hws'] at hbytes
        obtain ⟨-, hrest⟩ := List.cons.inj hbytes
        obtain ⟨-, hwords⟩ := List.cons.inj hrest
        rw [hws, hws', octetsOf_inj hwords]
    | some e =>
      have hexception := Body.eq_exception_of_exception? he'
      exact absurd hbytes (h.encode_ne_of_exception he hcode hexception hcode')
  | some e =>
    have hexception := Body.eq_exception_of_exception? he
    cases he' : r'.body.exception? with
    | none => exact absurd hbytes.symm (h'.encode_ne_of_exception he' hcode' hexception hcode)
    | some e' =>
      have hexception' := Body.eq_exception_of_exception? he'
      rw [Reply.encode_exception hexception, Reply.encode_exception hexception'] at hbytes
      have hbyte : e.code = e'.code := by
        obtain ⟨-, hrest⟩ := List.cons.inj hbytes
        exact (List.cons.inj hrest).1
      rw [hexception, hexception', Exception.code_inj hbyte]

end Answers

/-- An answer fits in a frame. -/
theorem length_encode_of_serve {pdu : List UInt8} (h : (b.serve unit pdu).result = .ok a) :
    2 ≤ a.reply.encode.length ∧ a.reply.encode.length ≤ 252 := by
  cases pdu with
  | nil => cases h
  | cons code data =>
    obtain ⟨-, -, hanswers⟩ := answers_of_serve h
    rw [Reply.length_encode]
    exact ⟨Answers.two_le_size _, hanswers.size_le⟩

/-! ### The reply to a frame -/

/-- The frame that a reply to some bytes is sent in, to the transaction and unit of a header. -/
structure WellFramed (h : Header) (code : UInt8) (data : List UInt8) (r : Reply)
    (sent : List UInt8) : Prop where
  encoded : sent = Frame.encode h.transaction h.unit r.encode
  short : sent.length ≤ 260
  /-- Its header is accepted, goes back to where the frame came from and announces what follows. -/
  header : ∃ h', Header.ofBytes? sent = some h' ∧ h'.check = .ok h' ∧
    h'.transaction = h.transaction ∧ h'.unit = h.unit ∧
    h'.pduLength = (sent.drop headerSize).length
  pdu : sent.drop headerSize = r.encode
  normal : r.isException = false → r.encode.head? = some code
  exception : ∀ e, r.body = .exception e → r.encode = [code ||| 0x80, e.code]
  /-- The count in front of the words read is that of their bytes, twice the quantity asked for. -/
  registers : ∀ ws, r.body = .registers ws → ∃ count : UInt8,
    r.encode = code :: count :: octetsOf ws ∧ count.toNat = (octetsOf ws).length ∧
    count.toNat = 2 * (Request.field data 2).toNat

/-- An answer to some bytes is well framed. -/
theorem wellFramed_of_answers {r : Reply} (hcode : r.functionCode = code)
    (hanswers : Answers code data r.body) (h : Header) :
    WellFramed h code data r (Frame.encode h.transaction h.unit r.encode) := by
  have hmin := Answers.two_le_size r.body
  have hmax := hanswers.size_le
  have hsize := r.length_encode
  have hframe := Frame.complete_around h.transaction h.unit r.encode (by omega) (by omega)
  have hdrop : (Frame.encode h.transaction h.unit r.encode).drop headerSize = r.encode :=
    List.drop_left' rfl
  constructor
  case encoded => rfl
  case short =>
    rw [Frame.length_encode, headerSize]
    omega
  case header =>
    rw [hdrop]
    exact ⟨_, Header.ofBytes?_encode _ _, hframe.accepted, rfl, rfl, hframe.length.symm⟩
  case pdu => exact hdrop
  case normal =>
    intro hnormal
    rw [← hcode]
    refine Reply.head?_encode (Option.not_isSome_iff_eq_none.1 ?_)
    rw [← Reply.isException, hnormal]
    exact Bool.false_ne_true
  case exception =>
    intro e he
    rw [← hcode]
    exact Reply.encode_exception he
  case registers =>
    intro ws hws
    rw [hws] at hanswers
    cases hanswers with
    | registers _ _ hquantity hlimit =>
      -- Twice the greatest quantity is still below 256.
      have hcount : (UInt8.ofNat (2 * ws.length)).toNat = 2 * ws.length := by
        unfold maxReadQuantity at hlimit
        rw [UInt8.toNat_ofNat']
        omega
      refine ⟨_, ?_, hcount.trans (length_octetsOf ws).symm, ?_⟩
      · rw [Reply.encode_registers hws, hcode]
      · rw [hcount, hquantity]

/-- **Every reply is a whole frame from which the answer can be read.**  Whatever the bank, a frame
    is answered with a frame of at most 260 bytes, whose header is accepted, is about the same
    transaction and unit, and announces the bytes that follow.  These begin with the function byte,
    or are that byte with its top bit set and the byte of an exception; the count in front of words
    is exact.  And two answers to the same bytes, on whatever banks, have different bytes if they
    differ. -/
theorem replies_well_framed (b : Bank) :
    (∀ f : Frame, f.Complete → ∃ a code data,
      (b.serve f.header.unit f.pdu).result = .ok a ∧ f.pdu = code :: data ∧
      WellFramed f.header code data a.reply
        (Frame.encode f.header.transaction f.header.unit a.reply.encode)) ∧
    ∀ (b' : Bank) (pdu : List UInt8) (unit unit' : UInt8) (a a' : Answer),
      (b.serve unit pdu).result = .ok a → (b'.serve unit' pdu).result = .ok a' →
      a.reply.encode = a'.reply.encode → a.reply.body = a'.reply.body := by
  refine ⟨fun f hf => ?_, fun b' pdu unit unit' a a' h h' hbytes => ?_⟩
  · obtain ⟨code, data, hpdu⟩ := List.exists_cons_of_ne_nil hf.pdu_ne_nil
    obtain ⟨a, ha, -, hcode, hanswers⟩ := b.exists_answers f.header.unit code data
    rw [hpdu]
    exact ⟨a, code, data, ha, rfl, wellFramed_of_answers hcode hanswers f.header⟩
  · cases pdu with
    | nil => cases h
    | cons code data =>
      obtain ⟨-, hcode, hanswers⟩ := answers_of_serve h
      obtain ⟨-, hcode', hanswers'⟩ := answers_of_serve h'
      exact hanswers.body_inj hanswers' hcode hcode' hbytes

/-- A bank of one register of two words. -/
def readoutBank : Bank where
  registers := [.zero 40009 .u32 .enumeration .readWrite]
  wellLaid := ⟨by decide, by decide⟩

/-- A bank of two registers in its place, which are zero too. -/
def halvesBank : Bank where
  registers := [.zero 40009 .s16 .raw .readOnly, .zero 40010 .s16 .raw .writeOnly]
  wellLaid := ⟨by decide, by decide⟩

/-- A request to read both words. -/
def readBoth : Frame := ⟨⟨7, 0, 6, 1⟩, [3, 0, 8, 0, 2]⟩

theorem replies_well_framed_readoutBank :
    readBoth.Complete ∧
    (∃ a code data, (readoutBank.serve 1 readBoth.pdu).result = .ok a ∧
      readBoth.pdu = code :: data ∧
      WellFramed readBoth.header code data a.reply (Frame.encode 7 1 a.reply.encode)) ∧
    ∃ a a', (readoutBank.serve 1 readBoth.pdu).result = .ok a ∧
      (halvesBank.serve 2 readBoth.pdu).result = .ok a' ∧
      a.reply.encode = [3, 4, 0, 0, 0, 0] ∧ a'.reply.encode = [3, 4, 0, 0, 0, 0] ∧
      a.reply.body = a'.reply.body := by
  have hcomplete : readBoth.Complete := ⟨rfl, rfl⟩
  obtain ⟨hframed, hbodies⟩ := replies_well_framed readoutBank
  have hbytes : (readoutBank.serve 1 readBoth.pdu).result.toOption.map (·.reply.encode) =
      some [3, 4, 0, 0, 0, 0] := by decide +kernel
  have hbytes' : (halvesBank.serve 2 readBoth.pdu).result.toOption.map (·.reply.encode) =
      some [3, 4, 0, 0, 0, 0] := by decide +kernel
  have h := Option.some.inj hbytes
  have h' := Option.some.inj hbytes'
  exact ⟨hcomplete, hframed readBoth hcomplete, _, _, rfl, rfl, h, h',
    hbodies halvesBank readBoth.pdu 1 2 _ _ rfl rfl (h.trans h'.symm)⟩

end Bank

end SolarTwin

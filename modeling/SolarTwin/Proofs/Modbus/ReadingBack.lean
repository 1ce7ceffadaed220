import Mathlib.Data.List.GetD
import SolarTwin.Proofs.Modbus.Replies

namespace SolarTwin

open Modbus

/-!
# What is written is read back

A write puts its bytes into words and these into registers, which keep an integer each; a read takes
the integers apart again.  None of this loses a byte, wherever the block begins or ends in its
registers, and whatever their kinds and access rights.

* `Modbus.Request.octetsOf_payload` — the bytes of the words that a write brings;
* `Bank.readFrom_assignFrom` — a block that is written is read back, word for word;
* `Bank.exists_reply_of_readFrom` — the reply to a request to read;
* `Bank.ReadsBack` and `Bank.written_bytes_read_back` — what follows a write that is carried out.
-/

namespace Modbus

namespace Request

/-! ### Places and slices -/

/-- The two bytes in a place. -/
private theorem octets_field {data : List UInt8} {i : Nat} (h : i + 2 ≤ data.length) :
    octets (field data i) = (data.drop i).take 2 := by
  have hdrop : data.drop i = data[i] :: data[i + 1] :: data.drop (i + 2) := by
    rw [List.drop_eq_getElem_cons (by omega), List.drop_eq_getElem_cons (by omega)]
  have hhigh : data.getD i 0 = data[i] := List.getD_eq_getElem data 0 (by omega)
  have hlow : data.getD (i + 1) 0 = data[i + 1] := List.getD_eq_getElem data 0 (by omega)
  rw [field, octets_ofOctets, hdrop, hhigh, hlow]
  rfl

/-- The bytes from a place on are those of its word and the bytes behind it. -/
theorem drop_eq_octets_append {data : List UInt8} {i : Nat} (h : i + 2 ≤ data.length) :
    data.drop i = octets (field data i) ++ data.drop (i + 2) := by
  rw [octets_field h, ← List.drop_drop, List.take_append_drop]

private theorem field_drop (data : List UInt8) (k i : Nat) :
    field (data.drop k) i = field data (k + i) := by
  simp only [field, List.getD_eq_getElem?_getD, List.getElem?_drop]
  rfl

/-- The word in the first place is that of the first two bytes. -/
private theorem field_octets (w : UInt16) (rest : List UInt8) : field (octets w ++ rest) 0 = w :=
  ofOctets_octets w

theorem field_octets_octets (w v : UInt16) (rest : List UInt8) :
    field (octets w ++ (octets v ++ rest)) 2 = v :=
  ofOctets_octets v

/-- The first place behind the quantity that a value has. -/
def valuesAt (f : Function) : Nat := if f = .writeMultiple then 5 else 2

/-- The words that a write brings are made of the bytes it brings. -/
theorem octetsOf_payload {f : Function} {data : List UInt8} (hf : f.isWrite = true)
    (h : Complete f data) :
    octetsOf (payload f data) = (data.drop (valuesAt f)).take (2 * wanted f data) := by
  cases f with
  | readHolding | readInput => cases hf
  | writeSingle =>
    have hlen : 2 + 2 ≤ data.length := h
    exact octets_field hlen
  | writeMultiple =>
    have hlen : 2 * wanted .writeMultiple data ≤ (data.drop 5).length := by
      rw [List.length_drop]
      have := h.2
      omega
    have hpayload : payload .writeMultiple data =
        wordsOf ((data.drop 5).take (2 * wanted .writeMultiple data)) := by
      rw [wordsOf_take hlen]
      simp only [field_drop]
      rfl
    rw [hpayload, octetsOf_wordsOf (List.length_take_of_le hlen)]
    rfl

/-- The bytes of a complete block to write: its places, its byte count, its values, and whatever
    follows them. -/
theorem eq_append_of_complete {data : List UInt8} (h : Complete .writeMultiple data) :
    data = octets (field data 0) ++ octets (field data 2) ++
      data.getD 4 0 :: (data.drop 5).take (2 * wanted .writeMultiple data) ++
        (data.drop 5).drop (2 * wanted .writeMultiple data) := by
  have hlen := h.2
  have hcount : data.drop 4 = data.getD 4 0 :: data.drop 5 := by
    rw [List.drop_eq_getElem_cons (by omega), List.getD_eq_getElem data 0 (by omega)]
  calc data = octets (field data 0) ++ data.drop 2 := drop_eq_octets_append (i := 0) (by omega)
    _ = octets (field data 0) ++ (octets (field data 2) ++ data.drop 4) := by
      rw [drop_eq_octets_append (i := 2) (by omega)]
    _ = _ := by
      rw [hcount]
      simp only [List.append_assoc, List.cons_append, List.take_append_drop]

/-! ### Requests to read -/

variable {g : Function}

/-- The bytes of a request to read are its function byte and its two words. -/
theorem encode_read (hg : g.isRead = true) (unit : UInt8) (w n : UInt16) :
    (read unit g w n).encode = g.code :: (octets w ++ octets n) := by
  cases g with
  | readHolding | readInput => rfl
  | writeSingle | writeMultiple => cases hg

end Request

end Modbus

namespace Bank

variable {b : Bank}

/-! ### Blocks that are written and read -/

/-- A block of which no word is refused is read back, word for word. -/
theorem readFrom_assignFrom {start : UInt16} {ws : List UInt16}
    (hfree : b.firstRefusal? start.toNat ws.length = none) :
    (b.assignFrom start.toNat ws).readFrom start.toNat ws.length = .ok ws := by
  rw [readFrom_eq_ok_iff]
  refine List.ext_getElem (by simp) fun i hi hi' => ?_
  rw [List.length_map] at hi'
  obtain ⟨a, -, ha, -⟩ := refusal?_eq_none_iff.1 (firstRefusal?_eq_none_iff.1 hfree i hi')
  rw [List.getElem_map, List.getElem_range, List.getElem_map, ← ha, wordAt?_toNat,
    word?_assignFrom_of_free hfree hi' ha]

/-- A request to read a block whose words are there is answered with them. -/
theorem exists_reply_of_readFrom {g : Function} (hg : g.isRead = true) {w n : UInt16}
    {ws : List UInt16} (hpos : 0 < n.toNat) (hmax : n.toNat ≤ 125)
    (hread : b.readFrom (g.logical w) n.toNat = .ok ws) (unit : UInt8) :
    ∃ a, (b.serve unit (Request.read unit g w n).encode).result = .ok a ∧
      a.reply = ⟨unit, g.code, .registers ws⟩ := by
  have haddress : Request.field (octets w ++ octets n) 0 = w := Request.field_octets w (octets n)
  have hquantity : Request.field (octets w ++ octets n) 2 = n := by
    rw [← List.append_nil (octets n)]
    exact Request.field_octets_octets w n []
  have hfirst : Request.first g (octets w ++ octets n) = g.logical w := by
    rw [← Request.logical_ofFields unit, Request.ofFields, haddress]
  have hwanted : Request.wanted g (octets w ++ octets n) = n.toNat := by
    cases g with
    | readHolding | readInput => exact congrArg UInt16.toNat hquantity
    | writeSingle | writeMultiple => cases hg
  have hwell : ¬ Request.Malformed g (octets w ++ octets n) := by
    rw [Request.not_malformed_iff, hwanted]
    cases g with
    | readHolding | readInput => exact ⟨Nat.le_refl 4, hpos, hmax⟩
    | writeSingle | writeMultiple => cases hg
  have hopen : ¬ b.Inaccessible g (Request.first g (octets w ++ octets n))
      (Request.wanted g (octets w ++ octets n)) := by
    rw [hfirst, hwanted]
    exact (accessible_iff_of_isRead hg).2 ⟨ws, hread⟩
  obtain ⟨body, hresult, hfulfilled⟩ := serve_of_accessible unit hwell hopen
  obtain ⟨vs, rfl, hwords⟩ := hfulfilled.exists_words hg
  rw [hfirst, hwanted, hread] at hwords
  obtain rfl := Except.ok.inj hwords
  rw [Request.encode_read hg]
  exact ⟨_, hresult, rfl⟩

/-! ### What follows a write -/

/-- Reading a block of holding registers, or the input registers at the same logical addresses,
    gives some bytes behind the function byte and a count. -/
structure ReadsBack (b : Bank) (w n : UInt16) (count : UInt8) (bytes : List UInt8) : Prop where
  holding : ∀ unit, ∃ a,
    (b.serve unit (Request.read unit .readHolding w n).encode).result = .ok a ∧
      a.reply.encode = [3, count] ++ bytes
  inside : w.toNat + 10000 < 65536
  input : ∀ unit, ∃ a,
    (b.serve unit (Request.read unit .readInput (w + 10000) n).encode).result = .ok a ∧
      a.reply.encode = [4, count] ++ bytes

variable {unit : UInt8} {f : Function} {data : List UInt8}

/-- The input register 10000 further on has the logical address of a holding register. -/
theorem logical_readInput_add {w : UInt16} (hw : w.toNat + 10000 < 65536) :
    Function.readInput.logical (w + 10000) = Function.readHolding.logical w := by
  have hsum : (w + 10000).toNat = w.toNat + 10000 := by
    rw [UInt16.toNat_add]
    exact Nat.mod_eq_of_lt hw
  show (w + 10000).toNat + 30001 = w.toNat + 40001
  omega

/-- Where words are there for a block of holding registers, reading gives their bytes. -/
theorem readsBack_of_readFrom {w n : UInt16} {ws : List UInt16} (hpos : 0 < n.toNat)
    (hmax : n.toNat ≤ 125) (hread : b.readFrom (Function.readHolding.logical w) n.toNat = .ok ws) :
    ReadsBack b w n (UInt8.ofNat (2 * n.toNat)) (octetsOf ws) := by
  have hlength := length_of_readFrom hread
  -- The first word is there, and its logical address lies inside the address space.
  have hinside : w.toNat + 10000 < 65536 := by
    have hopen : ¬ b.Inaccessible .readHolding (Function.readHolding.logical w) n.toNat :=
      (accessible_iff_of_isRead rfl).2 ⟨ws, hread⟩
    obtain ⟨start, hstart⟩ := exists_toNat_of_accessible hpos hopen
    have hlt := start.toNat_lt
    rw [hstart, Function.logical, Function.base] at hlt
    omega
  have hbytes {g : Function} (hg : g.isRead = true) {v : UInt16}
      (hv : b.readFrom (g.logical v) n.toNat = .ok ws) (unit : UInt8) : ∃ a,
      (b.serve unit (Request.read unit g v n).encode).result = .ok a ∧
        a.reply.encode = [g.code, UInt8.ofNat (2 * n.toNat)] ++ octetsOf ws := by
    obtain ⟨a, ha, hreply⟩ := exists_reply_of_readFrom hg hpos hmax hv unit
    refine ⟨a, ha, ?_⟩
    rw [hreply, Reply.encode_registers rfl, hlength]
    rfl
  constructor
  case holding => exact hbytes rfl hread
  case inside => exact hinside
  case input =>
    rw [← logical_readInput_add hinside] at hread
    exact hbytes rfl hread

/-- A write that is carried out is read back. -/
theorem Fulfilled.readsBack {b' : Bank} {body : Body}
    (h : b.Fulfilled (.ofFields unit f data) b' body) (hf : f.isWrite = true)
    (hwell : ¬ Request.Malformed f data)
    (hopen : ¬ b.Inaccessible f (Request.first f data) (Request.wanted f data)) :
    ReadsBack b' (Request.field data 0) (UInt16.ofNat (Request.wanted f data))
      (UInt8.ofNat (2 * Request.wanted f data))
      ((data.drop (Request.valuesAt f)).take (2 * Request.wanted f data)) := by
  obtain ⟨hcomplete, hpos, hmax⟩ := Request.not_malformed_iff.1 hwell
  have hlength := Request.length_payload hf data
  have hquantity : (UInt16.ofNat (Request.wanted f data)).toNat = Request.wanted f data :=
    Request.quantity_ofFields unit f data
  -- All of the block is there after the write, since all of it could be written.
  obtain ⟨start, hstart⟩ := exists_toNat_of_accessible hpos hopen
  have hfree := (accessible_iff_of_isWrite hf).1 hopen
  rw [← hstart, ← hlength] at hfree
  have hread := readFrom_assignFrom hfree
  rw [hstart, ← h.bank_eq, hlength] at hread
  -- The functions that write share their table with the one that reads holding registers.
  have hfirst : Request.first f data = Function.readHolding.logical (Request.field data 0) := by
    cases f with
    | readHolding | readInput => cases hf
    | writeSingle | writeMultiple => rfl
  have hlimit : f.maxQuantity ≤ 125 := by
    cases f with
    | readHolding | readInput => cases hf
    | writeSingle | writeMultiple => decide
  rw [hfirst, ← hquantity] at hread
  have hback := readsBack_of_readFrom (by omega) (by omega) hread
  rwa [Request.octetsOf_payload hf hcomplete, hquantity] at hback

/-- A write that is answered normally is well-formed and is read back. -/
theorem readsBack_of_normal {a : Answer} (hf : f.isWrite = true)
    (h : (b.serve unit (f.code :: data)).result = .ok a) (hnormal : a.reply.isException = false) :
    ¬ Request.Malformed f data ∧
      ReadsBack (b.serve unit (f.code :: data)).bank (Request.field data 0)
        (UInt16.ofNat (Request.wanted f data)) (UInt8.ofNat (2 * Request.wanted f data))
        ((data.drop (Request.valuesAt f)).take (2 * Request.wanted f data)) := by
  obtain ⟨f', data', hpdu, hwell, hopen, hfulfilled⟩ := fulfilled_of_normal h hnormal
  obtain ⟨hcode, rfl⟩ := List.cons.inj hpdu
  obtain rfl := Function.code_inj hcode
  exact ⟨hwell, hfulfilled.readsBack hf hwell hopen⟩

/-- **What is written is read back.**  After a write that is answered normally, a request to read
    its block gives the bytes that it wrote, behind the function byte and their number; and so does
    one to read the input registers at the same logical addresses. -/
theorem written_bytes_read_back (b : Bank) (unit : UInt8) (data : List UInt8) (a : Answer) :
    ((b.serve unit (16 :: data)).result = .ok a → a.reply.isException = false →
      ∃ (w n : UInt16) (count : UInt8) (bytes rest : List UInt8),
        data = octets w ++ octets n ++ count :: bytes ++ rest ∧
        1 ≤ n.toNat ∧ n.toNat ≤ 123 ∧ count.toNat = 2 * n.toNat ∧ bytes.length = 2 * n.toNat ∧
        ReadsBack (b.serve unit (16 :: data)).bank w n count bytes) ∧
    ((b.serve unit (6 :: data)).result = .ok a → a.reply.isException = false →
      ∃ (w : UInt16) (bytes rest : List UInt8),
        data = octets w ++ bytes ++ rest ∧ bytes.length = 2 ∧
        ReadsBack (b.serve unit (6 :: data)).bank w 1 2 bytes) := by
  refine ⟨fun h hnormal => ?_, fun h hnormal => ?_⟩
  · obtain ⟨hwell, hback⟩ := readsBack_of_normal (f := .writeMultiple) rfl h hnormal
    obtain ⟨hcomplete, hpos, hmax⟩ := Request.not_malformed_iff.1 hwell
    have hcount : (data.getD 4 0).toNat = 2 * Request.wanted .writeMultiple data := hcomplete.1
    have hvalues : ((data.drop 5).take (2 * Request.wanted .writeMultiple data)).length =
        2 * Request.wanted .writeMultiple data := by
      have hlen := hcomplete.2
      rw [List.length_take, List.length_drop]
      omega
    have hquantity : UInt16.ofNat (Request.wanted .writeMultiple data) = Request.field data 2 :=
      UInt16.ofNat_toNat
    have hbyte : UInt8.ofNat (2 * Request.wanted .writeMultiple data) = data.getD 4 0 := by
      rw [← hcount, UInt8.ofNat_toNat]
    rw [hquantity, hbyte] at hback
    exact ⟨_, _, _, _, _, Request.eq_append_of_complete hcomplete, hpos, hmax, hcount, hvalues,
      hback⟩
  · obtain ⟨hwell, hback⟩ := readsBack_of_normal (f := .writeSingle) rfl h hnormal
    have hlen : 4 ≤ data.length := Nat.le_of_not_lt hwell
    have hvalue : ((data.drop 2).take 2).length = 2 := by
      rw [List.length_take, List.length_drop]
      omega
    have hdata : data = octets (Request.field data 0) ++ (data.drop 2).take 2 ++
        (data.drop 2).drop 2 := by
      rw [List.append_assoc, List.take_append_drop]
      exact Request.drop_eq_octets_append (i := 0) (by omega)
    exact ⟨_, _, _, hdata, hvalue, hback⟩

/-- A bank of all kinds, some registers of which can only be written. -/
def mixedBank : Bank where
  registers := [.zero 40001 .u16 .raw .readWrite, .zero 40002 .s16 .raw .writeOnly,
    .zero 40003 .u32 .raw .writeOnly, .zero 40005 .s32 .raw .readWrite,
    .zero 40007 .u64 .raw .readWrite, .zero 40011 .s64 .raw .writeOnly]
  wellLaid := ⟨by decide, by decide⟩

/-- Eight words from the second word of one register to the first word of another, and a byte more
    than announced. -/
def acrossRegisters : List UInt8 :=
  [0, 3, 0, 8, 16, 255, 255, 128, 0, 0, 1, 255, 254, 1, 2, 3, 4, 5, 6, 128, 7, 99]

theorem written_bytes_read_back_mixedBank :
    (∃ (w n : UInt16) (count : UInt8) (bytes rest : List UInt8),
      acrossRegisters = octets w ++ octets n ++ count :: bytes ++ rest ∧
      1 ≤ n.toNat ∧ n.toNat ≤ 123 ∧ count.toNat = 2 * n.toNat ∧ bytes.length = 2 * n.toNat ∧
      ReadsBack (mixedBank.serve 1 (16 :: acrossRegisters)).bank w n count bytes) ∧
    ∃ (w : UInt16) (bytes rest : List UInt8),
      [0, 1, 255, 254] = octets w ++ bytes ++ rest ∧ bytes.length = 2 ∧
      ReadsBack (mixedBank.serve 1 [6, 0, 1, 255, 254]).bank w 1 2 bytes := by
  have hblock : (mixedBank.serve 1 (16 :: acrossRegisters)).result.toOption.map
      (·.reply.isException) = some false := by decide +kernel
  have hword : (mixedBank.serve 1 [6, 0, 1, 255, 254]).result.toOption.map
      (·.reply.isException) = some false := by decide +kernel
  exact ⟨(written_bytes_read_back mixedBank 1 acrossRegisters _).1 rfl (Option.some.inj hblock),
    (written_bytes_read_back mixedBank 1 [0, 1, 255, 254] _).2 rfl (Option.some.inj hword)⟩

end Bank

end SolarTwin

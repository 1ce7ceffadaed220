import SolarTwin.Proofs.Modbus.Replies

namespace SolarTwin.Hex

open Modbus

/-!
# What dumps show

Traces show the bytes of a frame as pairs of digits, and the journal shows the words of a write as
groups of four.  From both can be read back what they show, and words have the same digits as their
bytes.

* `Hex.bytes?` — the bytes of digits read two by two;
* `Hex.unspaced_dump` and `Hex.unspaced_words` — a dump without its spaces;
* `Hex.sliced` — a dump cut out of a run of digits;
* `Hex.padded` — the digits of a word as those of a number, filled up with zeros;
* `Hex.dumps_faithful` — the form of dumps, and what they tell.
-/

/-! ### Digits -/

/-- The digits in upper case, in the order of their values. -/
def upper : List Char :=
  ['0', '1', '2', '3', '4', '5', '6', '7', '8', '9', 'A', 'B', 'C', 'D', 'E', 'F']

section Digits

variable {n : Nat} (hn : n < 16)

include hn

private theorem getElem?_upper : upper[n]? = some (digit n) := by
  revert n
  decide

theorem value?_digit : value? (digit n) = some n := by
  revert n
  decide

theorem digit_ne_space : digit n ≠ ' ' := by
  revert n
  decide

private theorem toUpper_digitChar : (Nat.digitChar n).toUpper = digit n := by
  revert n
  decide

end Digits

/-- Both digits of a byte are below sixteen. -/
private theorem digits_lt (b : UInt8) : b.toNat / 16 < 16 ∧ b.toNat % 16 < 16 := by
  have := b.toNat_lt
  omega

/-- The digits of a word are those of its bytes. -/
theorem word_eq_flatMap_byte (w : UInt16) : word w = (octets w).flatMap byte := by
  have hw := w.toNat_lt
  have hhigh : (UInt8.ofNat (w.toNat / 256)).toNat = w.toNat / 256 := by
    rw [UInt8.toNat_ofNat']
    omega
  have hlow : (UInt8.ofNat (w.toNat % 256)).toNat = w.toNat % 256 := by
    rw [UInt8.toNat_ofNat']
    omega
  have hfirst : w.toNat / 4096 = w.toNat / 256 / 16 := by omega
  have hthird : w.toNat / 16 % 16 = w.toNat % 256 / 16 := by omega
  have hfourth : w.toNat % 16 = w.toNat % 256 % 16 := by omega
  show [_, _, _, _] = [digit (_ / 16), digit (_ % 16), digit (_ / 16), digit (_ % 16)]
  rw [hhigh, hlow, hfirst, hthird, hfourth]

private theorem flatMap_word (ws : List UInt16) : ws.flatMap word = (octetsOf ws).flatMap byte := by
  induction ws with
  | nil => rfl
  | cons w ws ih =>
    rw [List.flatMap_cons, octetsOf_cons, List.flatMap_append, ih, word_eq_flatMap_byte]

/-! ### Spaces -/

/-- The characters of a text but for its spaces. -/
def unspaced (text : String) : List Char := text.toList.filter (· ≠ ' ')

theorem spaced_eq_intercalate (groups : List (List Char)) :
    spaced groups = [' '].intercalate groups := by
  induction groups with
  | nil => rfl
  | cons g rest ih =>
    cases rest with
    | nil => simp
    | cons h rest =>
      rw [spaced_cons_cons, ih, List.intercalate_cons_cons, List.append_assoc]
      rfl

/-- Without the spaces between them groups stand one right after another. -/
theorem filter_spaced {groups : List (List Char)} (h : ∀ g ∈ groups, ∀ c ∈ g, c ≠ ' ') :
    (spaced groups).filter (· ≠ ' ') = groups.flatten := by
  induction groups with
  | nil => rfl
  | cons g rest ih =>
    obtain ⟨hg, hrest⟩ := List.forall_mem_cons.1 h
    have hkept : g.filter (· ≠ ' ') = g := by
      rw [List.filter_eq_self]
      intro c hc
      exact decide_eq_true (hg c hc)
    cases rest with
    | nil => simpa using hkept
    | cons g' rest =>
      rw [spaced_cons_cons, List.filter_append, hkept, List.filter_cons_of_neg (by decide),
        ih hrest]
      rfl

theorem ne_space_of_mem_byte {b : UInt8} {c : Char} (hc : c ∈ byte b) : c ≠ ' ' := by
  obtain ⟨hhigh, hlow⟩ := digits_lt b
  simp only [byte, List.mem_cons, List.not_mem_nil, or_false] at hc
  rcases hc with rfl | rfl
  · exact digit_ne_space hhigh
  · exact digit_ne_space hlow

private theorem ne_space_of_mem_word {w : UInt16} {c : Char} (hc : c ∈ word w) : c ≠ ' ' := by
  rw [word_eq_flatMap_byte, List.mem_flatMap] at hc
  obtain ⟨b, -, hb⟩ := hc
  exact ne_space_of_mem_byte hb

theorem unspaced_dump (bytes : List UInt8) : unspaced (dump bytes) = bytes.flatMap byte := by
  rw [unspaced, dump, String.toList_ofList, filter_spaced, List.flatMap_def]
  intro g hg c hc
  obtain ⟨b, -, rfl⟩ := List.mem_map.1 hg
  exact ne_space_of_mem_byte hc

theorem unspaced_words (ws : List UInt16) : unspaced (words ws) = (octetsOf ws).flatMap byte := by
  rw [unspaced, words, String.toList_ofList, filter_spaced, ← List.flatMap_def, flatMap_word]
  intro g hg c hc
  obtain ⟨w, -, rfl⟩ := List.mem_map.1 hg
  exact ne_space_of_mem_word hc

/-! ### Reading back -/

/-- The bytes of digits read two by two. -/
def bytes? : List Char → Option (List UInt8)
  | [] => some []
  | [_] => none
  | high :: low :: rest =>
    (value? high).bind fun h =>
      (value? low).bind fun l => (bytes? rest).map (UInt8.ofNat (16 * h + l) :: ·)

theorem bytes?_flatMap_byte (bytes : List UInt8) : bytes? (bytes.flatMap byte) = some bytes := by
  induction bytes with
  | nil => rfl
  | cons b bytes ih =>
    obtain ⟨hhigh, hlow⟩ := digits_lt b
    have hb : UInt8.ofNat (16 * (b.toNat / 16) + b.toNat % 16) = b := by
      rw [Nat.div_add_mod, UInt8.ofNat_toNat]
    rw [List.flatMap_cons]
    show bytes? (digit (b.toNat / 16) :: digit (b.toNat % 16) :: bytes.flatMap byte) = _
    rw [bytes?, value?_digit hhigh, value?_digit hlow, ih]
    simp only [Option.bind_some, Option.map_some, hb]

/-- Read back, the words that are shown are the words. -/
theorem map_wordsOf_bytes? (ws : List UInt16) :
    (bytes? ((octetsOf ws).flatMap byte)).map wordsOf = some ws := by
  rw [bytes?_flatMap_byte, Option.map_some, wordsOf_octetsOf]

/-! ### The form of a dump -/

theorem toList_dump (bytes : List UInt8) : (dump bytes).toList = spaced (bytes.map byte) :=
  String.toList_ofList

theorem toList_dump_singleton (b : UInt8) : (dump [b]).toList = byte b := toList_dump [b]

/-- A byte in front of others takes two digits and a space. -/
theorem toList_dump_cons_cons (b b' : UInt8) (bytes : List UInt8) :
    (dump (b :: b' :: bytes)).toList =
      digit (b.toNat / 16) :: digit (b.toNat % 16) :: ' ' :: (dump (b' :: bytes)).toList := by
  rw [toList_dump, toList_dump]
  rfl

/-- A dump has two characters for each byte, and one between each two of them. -/
theorem length_dump (bytes : List UInt8) : (dump bytes).length = 3 * bytes.length - 1 := by
  rw [← String.length_toList]
  induction bytes with
  | nil => rfl
  | cons b bytes ih =>
    cases bytes with
    | nil =>
      rw [toList_dump_singleton]
      rfl
    | cons b' bytes =>
      rw [toList_dump_cons_cons]
      simp only [List.length_cons] at ih ⊢
      omega

/-- The digits of the byte at a place stand at three times this place. -/
theorem getElem?_dump {bytes : List UInt8} {i : Nat} (hi : i < bytes.length) :
    (dump bytes).toList[3 * i]? = some (digit (bytes[i].toNat / 16)) ∧
      (dump bytes).toList[3 * i + 1]? = some (digit (bytes[i].toNat % 16)) := by
  induction bytes generalizing i with
  | nil => cases hi
  | cons b bytes ih =>
    cases bytes with
    | nil =>
      obtain rfl : i = 0 := by simpa using hi
      rw [toList_dump_singleton]
      exact ⟨rfl, rfl⟩
    | cons b' bytes =>
      rw [toList_dump_cons_cons]
      cases i with
      | zero => exact ⟨rfl, rfl⟩
      | succ i =>
        -- Three characters further on the rest of the dump goes on.
        exact ih (by simpa using hi)

/-- Behind the digits of each byte but the last one is a space. -/
private theorem getElem?_dump_space {bytes : List UInt8} {i : Nat} (hi : i + 1 < bytes.length) :
    (dump bytes).toList[3 * i + 2]? = some ' ' := by
  induction bytes generalizing i with
  | nil => cases hi
  | cons b bytes ih =>
    cases bytes with
    | nil => simp at hi
    | cons b' bytes =>
      rw [toList_dump_cons_cons]
      cases i with
      | zero => rfl
      | succ i => exact ih (by simpa using hi)

/-! ### Other ways to write dumps -/

/-- A run of characters cut into pieces of two, the last of which may be shorter. -/
def pieces : List Char → List (List Char)
  | [] => []
  | [c] => [[c]]
  | c :: d :: rest => [c, d] :: pieces rest

/-- A dump cut out of the run of digits that a function writes. -/
def sliced (encode : List UInt8 → List Char) (bytes : List UInt8) : String :=
  String.ofList ([' '].intercalate (pieces (encode bytes)))

theorem pieces_flatMap_byte (bytes : List UInt8) :
    pieces (bytes.flatMap byte) = bytes.map byte := by
  induction bytes with
  | nil => rfl
  | cons b bytes ih =>
    rw [List.flatMap_cons, List.map_cons, ← ih]
    rfl

/-- Cut out of the run of its digits a dump is the same. -/
theorem sliced_eq_dump {encode : List UInt8 → List Char}
    (hencode : ∀ bytes, encode bytes = bytes.flatMap byte) (bytes : List UInt8) :
    sliced encode bytes = dump bytes := by
  rw [sliced, hencode, pieces_flatMap_byte, ← spaced_eq_intercalate, dump]

/-- The digits of a number, without zeros in front. -/
def numeral (n : Nat) : List Char := (Nat.toDigits 16 n).map Char.toUpper

/-- The digits of a word as those of a number, filled up to four with zeros. -/
def padded (w : UInt16) : List Char := (numeral w.toNat).leftpad 4 '0'

theorem numeral_of_lt {n : Nat} (hn : n < 16) : numeral n = [digit n] := by
  rw [numeral, Nat.toDigits_of_lt_base hn, List.map_singleton, toUpper_digitChar hn]

private theorem numeral_of_le {n : Nat} (hn : 16 ≤ n) :
    numeral n = numeral (n / 16) ++ [digit (n % 16)] := by
  have hlast : n % 16 < 16 := Nat.mod_lt n (by decide)
  rw [numeral, Nat.toDigits_of_base_le (by decide) hn, List.map_append, List.map_singleton,
    toUpper_digitChar hlast, numeral]

/-- Filled up with zeros a number has its last digit behind the others, also where it has no
    others. -/
theorem leftpad_numeral (n places : Nat) :
    (numeral n).leftpad (places + 2) '0' =
      (numeral (n / 16)).leftpad (places + 1) '0' ++ [digit (n % 16)] := by
  by_cases hn : n < 16
  · have hzero : n / 16 = 0 := Nat.div_eq_of_lt hn
    rw [numeral_of_lt hn, hzero, numeral_of_lt (by decide), Nat.mod_eq_of_lt hn]
    show List.replicate (places + 1) '0' ++ [digit n] =
      List.replicate places '0' ++ ['0'] ++ [digit n]
    rw [List.replicate_succ']
  · rw [numeral_of_le (Nat.le_of_not_lt hn)]
    simp [List.leftpad]

/-- Filled up with zeros a word has its four digits. -/
theorem padded_eq_word (w : UInt16) : padded w = word w := by
  have hw := w.toNat_lt
  have hfirst : w.toNat / 16 / 16 / 16 < 16 := by omega
  rw [padded, leftpad_numeral, leftpad_numeral, leftpad_numeral, numeral_of_lt hfirst, word]
  simp [List.leftpad, Nat.div_div_eq_div_mul]

/-! ### What dumps tell -/

/-- Different lists of words are shown differently. -/
theorem words_injective : Function.Injective words := by
  intro ws vs h
  have hread := map_wordsOf_bytes? ws
  rw [← unspaced_words, h, unspaced_words, map_wordsOf_bytes?] at hread
  exact (Option.some.inj hread).symm

/-- Different lists of words have bytes that are shown differently. -/
theorem dump_octetsOf_injective : Function.Injective fun ws => dump (octetsOf ws) := by
  intro ws vs h
  have hdump : dump (octetsOf ws) = dump (octetsOf vs) := h
  have hread := map_wordsOf_bytes? ws
  rw [← unspaced_dump, hdump, unspaced_dump, map_wordsOf_bytes?] at hread
  exact (Option.some.inj hread).symm

/-- **Dumps are faithful, and both kinds agree.**  A dump of bytes has two digits in upper case for
    each byte and a single space between each two bytes, and read two by two its digits are the
    bytes.  A list of words is shown with the same digits as its bytes, so that the words can be
    read back and different lists look different both ways.  A dump that is cut out of the run of
    its digits is the same, and the digits of a word are those of a number, filled up with zeros. -/
theorem dumps_faithful :
    (∀ n < 16, upper[n]? = some (digit n)) ∧
    (∀ bytes : List UInt8,
      (dump bytes).length = 3 * bytes.length - 1 ∧
      (∀ (i : Nat) (hi : i < bytes.length),
        (dump bytes).toList[3 * i]? = some (digit (bytes[i].toNat / 16)) ∧
        (dump bytes).toList[3 * i + 1]? = some (digit (bytes[i].toNat % 16))) ∧
      (∀ i : Nat, i + 1 < bytes.length → (dump bytes).toList[3 * i + 2]? = some ' ') ∧
      bytes? (unspaced (dump bytes)) = some bytes) ∧
    (∀ ws : List UInt16,
      unspaced (words ws) = unspaced (dump (octetsOf ws)) ∧
      (bytes? (unspaced (words ws))).map wordsOf = some ws) ∧
    Function.Injective words ∧ (Function.Injective fun ws => dump (octetsOf ws)) ∧
    (∀ encode : List UInt8 → List Char, (∀ bytes, encode bytes = bytes.flatMap byte) →
      ∀ bytes, sliced encode bytes = dump bytes) ∧
    ∀ ws, words ws = String.ofList ([' '].intercalate (ws.map padded)) := by
  refine ⟨fun n hn => getElem?_upper hn, ?_, ?_, words_injective, dump_octetsOf_injective,
    fun encode hencode => sliced_eq_dump hencode, ?_⟩
  · intro bytes
    refine ⟨length_dump bytes, fun i hi => getElem?_dump hi, fun i hi => getElem?_dump_space hi, ?_⟩
    rw [unspaced_dump, bytes?_flatMap_byte]
  · intro ws
    rw [unspaced_words, unspaced_dump]
    exact ⟨rfl, map_wordsOf_bytes? ws⟩
  · intro ws
    rw [funext padded_eq_word, ← spaced_eq_intercalate, words]

/-- Two words with zeros in front. -/
theorem dumps_faithful_zerosInFront :
    dump (octetsOf [0x000A, 0x0B00]) = "00 0A 0B 00" ∧
    (dump [0x00, 0x0A, 0x0B, 0x00]).toList[3]? = some (digit (0x0A / 16)) ∧
    (dump [0x00, 0x0A, 0x0B, 0x00]).toList[8]? = some ' ' ∧
    upper[11]? = some (digit 11) ∧
    sliced (·.flatMap byte) [0x00, 0x0A, 0x0B, 0x00] = dump [0x00, 0x0A, 0x0B, 0x00] := by
  obtain ⟨hupper, hform, -, -, -, hsliced, -⟩ := dumps_faithful
  obtain ⟨-, hdigits, hspace, -⟩ := hform [0x00, 0x0A, 0x0B, 0x00]
  exact ⟨by decide, (hdigits 1 (by decide)).1, hspace 2 (by decide), hupper 11 (by decide),
    hsliced _ (fun _ => rfl) _⟩

end SolarTwin.Hex

import SolarTwin.Proofs.Register.Words

namespace SolarTwin

/-!
# Values in cells

A value fills a cell of as many bits as its kind has.  Integers move between cells of different
sizes: words are put together in a cell of 64 bits, and a number that is to become a value comes in
one of 64 or 128 bits.  A move drops the upper bits or brings in new ones, and what the cell holds
then is the value that is meant.

* `Kind.Holds` — the integers of each kind;
* `Value.cell` and `Cell.value` — a value and the bits of its cell determine each other;
* `Value.setWidth_eq_cell` — narrowing a cell keeps an integer that the kind holds;
* `Cell.words_cell` and `Cell.value_ofWords?` — taking words out of a cell of 64 bits and shifting
  them in is the same as with numbers;
* `Value.words_exact` — words and values of a kind correspond one to one, word for word.
-/

/-! ### The integers of a kind -/

/-- Whether an integer is one of a kind. -/
def Kind.Holds : Kind → Int → Prop
  | .u16, n => 0 ≤ n ∧ n ≤ 65535
  | .s16, n => -32768 ≤ n ∧ n ≤ 32767
  | .u32, n => 0 ≤ n ∧ n ≤ 4294967295
  | .s32, n => -2147483648 ≤ n ∧ n ≤ 2147483647
  | .u64, n => 0 ≤ n ∧ n ≤ 18446744073709551615
  | .s64, n => -9223372036854775808 ≤ n ∧ n ≤ 9223372036854775807

theorem Kind.holds_iff {k : Kind} {n : Int} : k.Holds n ↔ k.lo ≤ n ∧ n ≤ k.hi := by
  cases k <;> rfl

instance (k : Kind) (n : Int) : Decidable (k.Holds n) := decidable_of_iff _ Kind.holds_iff.symm

theorem Kind.patterns_eq_two_pow (k : Kind) : k.patterns = 2 ^ k.bits := by
  rw [patterns, Nat.one_shiftLeft]

theorem Kind.bits_le (k : Kind) : k.bits ≤ 64 := by cases k <;> decide

private theorem Kind.hi_of_isSigned {k : Kind} (h : k.isSigned = true) :
    2 * (k.hi + 1) = k.patterns := by
  revert h
  cases k <;> decide

private theorem Kind.hi_of_not_isSigned {k : Kind} (h : k.isSigned = false) :
    k.hi + 1 = k.patterns := by
  revert h
  cases k <;> decide

/-! ### Cells -/

/-- The bits of a kind. -/
abbrev Cell (k : Kind) : Type := BitVec k.bits

/-- The two's complement bits of a value. -/
def Value.cell (v : Value) : Cell v.kind := BitVec.ofInt v.kind.bits v.number

namespace Cell

variable {k : Kind}

/-- The integer in a cell. -/
def number (x : Cell k) : Int := if k.isSigned then x.toInt else x.toNat

theorem number_eq (x : Cell k) : x.number = Value.signedOfResidue k x.toNat := by
  have hlt : x.toNat < k.patterns := by
    rw [k.patterns_eq_two_pow]
    exact x.isLt
  have hmod : (x.toNat : Int) % k.patterns = x.toNat := Int.emod_eq_of_lt (by omega) (by omega)
  simp only [Value.signedOfResidue, hmod]
  cases hk : k.isSigned with
  | true =>
    have hhi := Kind.hi_of_isSigned hk
    rw [number, if_pos hk, BitVec.toInt_eq_toNat_cond, ← k.patterns_eq_two_pow]
    split <;> split <;> omega
  | false =>
    have hhi := Kind.hi_of_not_isSigned hk
    rw [number, if_neg (by simp [hk]), if_pos (by omega)]

theorem holds_number (x : Cell k) : k.Holds x.number := by
  rw [Kind.holds_iff, number_eq]
  exact Value.signedOfResidue_bounds k x.toNat

/-- The value in a cell. -/
def value (x : Cell k) : Value where
  kind := k
  number := x.number
  lo_le := (Kind.holds_iff.1 x.holds_number).1
  le_hi := (Kind.holds_iff.1 x.holds_number).2

theorem value_eq_ofResidue (x : Cell k) : x.value = Value.ofResidue k x.toNat :=
  Value.ext_number rfl x.number_eq

end Cell

theorem Value.toNat_cell (v : Value) : v.cell.toNat = v.residue := by
  rw [cell, BitVec.toNat_ofInt, ← v.kind.patterns_eq_two_pow, residue]

/-- The cell of a value holds this value. -/
theorem Value.value_cell (v : Value) : v.cell.value = v := by
  rw [Cell.value_eq_ofResidue, toNat_cell, ofResidue_residue]

/-- An integer that the kind holds is kept when its cell is narrowed. -/
theorem Value.setWidth_eq_cell {w : Nat} {x : BitVec w} {v : Value} (hw : v.kind.bits ≤ w)
    (hx : x.toInt = v.number) : x.setWidth v.kind.bits = v.cell := by
  rw [← BitVec.signExtend_eq_setWidth_of_le x hw, BitVec.signExtend, hx, cell]

/-- Only the lowest bits of a number are used. -/
theorem Value.ofResidue_mod (k : Kind) (n : Nat) :
    ofResidue k (n % k.patterns) = ofResidue k n := by
  refine ext_number rfl ?_
  show signedOfResidue k (n % k.patterns) = signedOfResidue k n
  simp only [signedOfResidue, Int.natCast_emod, Int.emod_emod]

/-! ### Words and cells -/

namespace Cell

variable {k : Kind}

/-- The words of a cell, most significant first, each shifted to the end of 64 bits. -/
def words (x : Cell k) : List UInt16 :=
  (List.range k.width).map fun i => ⟨(x.setWidth 64 >>> (16 * (k.width - 1 - i))).setWidth 16⟩

/-- A cell of 64 bits with words shifted in one after another. -/
def gather (ws : List UInt16) : BitVec 64 :=
  ws.foldl (fun x w => x <<< 16 ||| w.toBitVec.setWidth 64) 0

/-- The cell of a kind with exactly the given words. -/
def ofWords? (k : Kind) (ws : List UInt16) : Except Error (Cell k) :=
  if ws.length = k.width then .ok ((gather ws).setWidth k.bits)
  else .error (.invalidData (.wordCount k ws.length))

/-- Shifted out of 64 bits the words are those of the value. -/
theorem words_cell (v : Value) : v.cell.words = v.words := by
  have hlt : v.residue < 2 ^ 64 := by
    have := v.residue_lt
    rw [v.kind.patterns_eq_two_pow] at this
    exact Nat.lt_of_lt_of_le this (Nat.pow_le_pow_right (by decide) v.kind.bits_le)
  unfold words Value.words
  refine List.map_congr_left fun i _ => UInt16.toNat_inj.1 ?_
  show ((v.cell.setWidth 64 >>> (16 * (v.kind.width - 1 - i))).setWidth 16).toNat = _
  rw [BitVec.toNat_setWidth, BitVec.toNat_ushiftRight, BitVec.toNat_setWidth, v.toNat_cell,
    Nat.mod_eq_of_lt hlt, UInt16.toNat_ofNat']

/-- The bits below a word that is shifted in are free. -/
private theorem toNat_shiftIn (x : BitVec 64) (w : UInt16) :
    (x <<< 16 ||| w.toBitVec.setWidth 64).toNat = (x.toNat * 65536 + w.toNat) % 2 ^ 64 := by
  have hfree : x <<< 16 &&& w.toBitVec.setWidth 64 = 0#64 := by
    refine BitVec.eq_of_getElem_eq fun i hi => ?_
    rw [BitVec.getElem_and, BitVec.getElem_shiftLeft, BitVec.getElem_setWidth, BitVec.getElem_zero]
    by_cases hlow : i < 16
    · simp [hlow]
    · simp [BitVec.getLsbD_of_ge w.toBitVec i (by omega)]
  have hw : w.toBitVec.toNat < 2 ^ 16 := w.toBitVec.isLt
  rw [← BitVec.add_eq_or_of_and_eq_zero _ _ hfree, BitVec.toNat_add, BitVec.toNat_shiftLeft,
    BitVec.toNat_setWidth, Nat.shiftLeft_eq]
  show (x.toNat * 2 ^ 16 % 2 ^ 64 + w.toNat % 2 ^ 64) % 2 ^ 64 = _
  omega

theorem toNat_gather (ws : List UInt16) : (gather ws).toNat = Value.ofDigits ws % 2 ^ 64 := by
  induction ws using List.reverseRecOn with
  | nil => rfl
  | append_singleton ws w ih =>
    have hgather : gather (ws ++ [w]) = gather ws <<< 16 ||| w.toBitVec.setWidth 64 := by
      simp [gather, List.foldl_append]
    rw [hgather, toNat_shiftIn, ih, Value.ofDigits_concat]
    omega

/-- Words shifted in make the value that has them as its digits. -/
theorem value_ofWords? (k : Kind) (ws : List UInt16) :
    (ofWords? k ws).map value = Value.ofWords? k ws := by
  unfold ofWords? Value.ofWords?
  split
  · next hlength =>
    have hdvd : 2 ^ k.bits ∣ 2 ^ 64 := Nat.pow_dvd_pow 2 k.bits_le
    rw [Except.map, value_eq_ofResidue, BitVec.toNat_setWidth, toNat_gather,
      Nat.mod_mod_of_dvd _ hdvd, ← k.patterns_eq_two_pow, Value.ofResidue_mod, Value.ofWords]
  · rfl

end Cell

namespace Value

/-- A word is a block of 16 bits of the cell. -/
theorem toBitVec_getElem_words (v : Value) (i : Nat) (hi : i < v.words.length) :
    v.words[i].toBitVec = v.cell.extractLsb' (16 * (v.kind.width - 1 - i)) 16 := by
  apply BitVec.eq_of_toNat_eq
  rw [BitVec.extractLsb'_toNat, toNat_cell]
  show v.words[i].toNat = _
  simp only [words, List.getElem_map, List.getElem_range, UInt16.toNat_ofNat']

/-- Words make a value of a kind exactly if they are its words. -/
theorem ofWords?_eq_ok_iff {k : Kind} {ws : List UInt16} {v : Value} :
    ofWords? k ws = .ok v ↔ v.kind = k ∧ v.words = ws := by
  constructor
  · intro h
    by_cases hlength : ws.length = k.width
    · rw [ofWords?_eq_ok hlength, Except.ok.injEq] at h
      subst h
      exact ⟨kind_ofWords k ws, words_ofWords hlength⟩
    · rw [ofWords?, if_neg hlength] at h
      cases h
  · rintro ⟨rfl, rfl⟩
    rw [ofWords?_eq_ok v.length_words, ofWords_words]

/-- Words make a value of a kind exactly if there are as many as the kind is wide. -/
theorem exists_ofWords?_iff {k : Kind} {ws : List UInt16} :
    (∃ v, ofWords? k ws = .ok v) ↔ ws.length = k.width := by
  constructor
  · rintro ⟨v, hv⟩
    obtain ⟨rfl, rfl⟩ := ofWords?_eq_ok_iff.1 hv
    exact v.length_words
  · intro hlength
    exact ⟨ofWords k ws, ofWords?_eq_ok hlength⟩

/-- **Words and values correspond exactly.**  The words of a value make this value again; they are
    as many as its kind is wide, and each is its block of 16 of the two's complement bits, the most
    significant first.  A list of words makes a value of a kind exactly if it has the width of the
    kind, and then the words of the value are the list.  All this holds as well where words are
    shifted out of and into a cell of 64 bits. -/
theorem words_exact :
    (∀ v : Value,
      ofWords? v.kind v.words = .ok v ∧ v.words.length = v.kind.width ∧
      ∀ (i : Nat) (hi : i < v.words.length),
        v.words[i].toBitVec = v.cell.extractLsb' (16 * (v.kind.width - 1 - i)) 16) ∧
    (∀ (k : Kind) (ws : List UInt16),
      ((∃ v, ofWords? k ws = .ok v) ↔ ws.length = k.width) ∧
      ∀ v, ofWords? k ws = .ok v ↔ v.kind = k ∧ v.words = ws) ∧
    (∀ v : Value, v.cell.value = v ∧ v.cell.words = v.words) ∧
    ∀ (k : Kind) (ws : List UInt16), (Cell.ofWords? k ws).map Cell.value = ofWords? k ws := by
  refine ⟨?_, ?_, ?_, Cell.value_ofWords?⟩
  · intro v
    exact ⟨ofWords?_eq_ok_iff.2 ⟨rfl, rfl⟩, v.length_words, v.toBitVec_getElem_words⟩
  · intro k ws
    exact ⟨exists_ofWords?_iff, fun v => ofWords?_eq_ok_iff⟩
  · intro v
    exact ⟨v.value_cell, Cell.words_cell v⟩

/-- Three above the least integer of 64 bits: the sign is the first bit of the first word, and the
    last word has the lowest bits. -/
theorem words_exact_nearLeast :
    let v := clamp .s64 (-9223372036854775805)
    v.words = [0x8000, 0, 0, 3] ∧
    v.words[0].toBitVec = v.cell.extractLsb' 48 16 ∧
    v.words[3].toBitVec = v.cell.extractLsb' 0 16 ∧
    ofWords? .s64 [0x8000, 0, 0, 3] = .ok v ∧
    ¬ ∃ v, ofWords? .s64 [0x8000, 0, 0] = .ok v := by
  intro v
  obtain ⟨hvalue, hwords, -⟩ := words_exact
  obtain ⟨hback, -, hblock⟩ := hvalue v
  have hlist : v.words = [0x8000, 0, 0, 3] := by decide
  refine ⟨hlist, hblock 0 (by decide), hblock 3 (by decide), hlist ▸ hback, fun h => ?_⟩
  have hlength := (hwords .s64 [0x8000, 0, 0]).1.1 h
  exact absurd hlength (by decide)

end Value

end SolarTwin

import SolarTwin.Register.Basic
import Mathlib.Algebra.Group.Nat.Defs
import Mathlib.Data.List.Induction

namespace SolarTwin

/-!
# Values and words determine each other

The words of a value are the base-65536 digits of its two's complement bits.

* `Value.words_ofWords` and `Value.ofWords_words` — composing and taking apart undo each other;
* `Register.replaceWord_of_owns` — replacing an owned word never fails, and the words of the new
  value are the old ones with that word set.
-/

namespace Value

/-! ### Digits -/

/-- The lowest `width` base-65536 digits of a number, most significant first. -/
def digits (width n : Nat) : List UInt16 :=
  (List.range width).map fun i => UInt16.ofNat (n >>> (16 * (width - 1 - i)))

theorem words_eq_digits (v : Value) : v.words = digits v.kind.width v.residue := rfl

@[simp] theorem length_digits (width n : Nat) : (digits width n).length = width := by
  simp [digits]

/-- The last digit is the remainder, the digits before it are those of the quotient. -/
private theorem digits_succ (width n : Nat) :
    digits (width + 1) n = digits width (n / 65536) ++ [UInt16.ofNat n] := by
  unfold digits
  rw [List.range_succ, List.map_append]
  congr 1
  · -- Among one digit more, the digit at `i` stands one place further from the end.
    refine List.map_congr_left fun i hi => ?_
    rw [List.mem_range] at hi
    have hshift : 16 * (width + 1 - 1 - i) = 16 + 16 * (width - 1 - i) := by omega
    rw [hshift, Nat.shiftRight_add, Nat.shiftRight_eq_div_pow n 16]
  · simp

theorem ofDigits_concat (ws : List UInt16) (w : UInt16) :
    ofDigits (ws ++ [w]) = ofDigits ws * 65536 + w.toNat := by
  simp [ofDigits, List.foldl_append]

/-- The number of the lowest digits is the number reduced to them. -/
theorem ofDigits_digits (width n : Nat) : ofDigits (digits width n) = n % 65536 ^ width := by
  induction width generalizing n with
  | zero => simp [digits, ofDigits, Nat.mod_one]
  | succ width ih =>
    have hlast : (UInt16.ofNat n).toNat = n % 65536 := by simp
    rw [digits_succ, ofDigits_concat, ih, hlast, Nat.pow_succ, Nat.mul_comm (65536 ^ width),
      Nat.mod_mul]
    omega

/-- The digits of the number of some words are these words. -/
theorem digits_ofDigits (ws : List UInt16) : digits ws.length (ofDigits ws) = ws := by
  induction ws using List.reverseRecOn with
  | nil => rfl
  | append_singleton ws w ih =>
    -- The last word is what a division by 65536 leaves over, the others are the quotient.
    have hw : w.toNat < 65536 := w.toNat_lt
    have hdiv : (ofDigits ws * 65536 + w.toNat) / 65536 = ofDigits ws := by omega
    have hmod : UInt16.ofNat (ofDigits ws * 65536 + w.toNat) = w := by
      apply UInt16.toNat_inj.1
      rw [UInt16.toNat_ofNat']
      omega
    rw [List.length_append, List.length_singleton, digits_succ, ofDigits_concat, hdiv, hmod, ih]

/-- Digits see only the number reduced to them. -/
private theorem digits_mod (width n : Nat) : digits width (n % 65536 ^ width) = digits width n := by
  have h := digits_ofDigits (digits width n)
  rwa [length_digits, ofDigits_digits] at h

/-! ### Two's complement -/

theorem patterns_eq_pow (k : Kind) : k.patterns = 65536 ^ k.width := by cases k <;> rfl

theorem residue_lt (v : Value) : v.residue < v.kind.patterns := by
  have hpos := v.kind.patterns_pos
  have hlt := Int.emod_lt_of_pos v.number (show (0 : Int) < v.kind.patterns by omega)
  have hnonneg := Int.emod_nonneg v.number (show (v.kind.patterns : Int) ≠ 0 by omega)
  unfold residue
  omega

theorem residue_ofResidue (k : Kind) (n : Nat) : (ofResidue k n).residue = n % k.patterns := by
  have hpos : (0 : Int) < k.patterns := by have := k.patterns_pos; omega
  have hmod : ((ofResidue k n).number % k.patterns : Int) = (n : Int) % k.patterns := by
    show (signedOfResidue k n : Int) % k.patterns = (n : Int) % k.patterns
    simp only [signedOfResidue]
    -- Above the greatest integer of the kind, one period is taken off.
    split
    · rw [Int.emod_emod]
    · rw [Int.sub_emod_right, Int.emod_emod]
  show ((ofResidue k n).number % (k.patterns : Int)).toNat = n % k.patterns
  rw [hmod]
  omega

/-- A value is determined by its kind and its integer. -/
theorem ext_number {v v' : Value} (hkind : v.kind = v'.kind) (hnumber : v.number = v'.number) :
    v = v' := by
  cases v
  cases v'
  simp only at hkind hnumber
  subst hkind hnumber
  rfl

theorem ofResidue_residue (v : Value) : ofResidue v.kind v.residue = v := by
  refine ext_number rfl ?_
  show signedOfResidue v.kind v.residue = v.number
  have hpos : (0 : Int) < v.kind.patterns := by have := v.kind.patterns_pos; omega
  have hspan := v.kind.hi_sub_lo
  have hlo := v.lo_le
  have hhi := v.le_hi
  have hlo0 := v.kind.lo_le_zero
  have hhi0 := v.kind.zero_le_hi
  have hnonneg := Int.emod_nonneg v.number (show (v.kind.patterns : Int) ≠ 0 by omega)
  have hres : ((v.residue : Nat) : Int) = v.number % v.kind.patterns := by
    unfold residue
    omega
  simp only [signedOfResidue]
  rw [hres, Int.emod_emod]
  -- A negative integer of a kind has the residue one period above it.
  by_cases hneg : v.number < 0
  · have hshift : v.number % v.kind.patterns = v.number + v.kind.patterns := by
      rw [← Int.add_emod_right, Int.emod_eq_of_lt (by omega) (by omega)]
    rw [hshift, if_neg (by omega)]
    omega
  · rw [Int.emod_eq_of_lt (by omega) (by omega), if_pos hhi]

/-! ### Words -/

/-- Composing words and taking the value apart again gives the words. -/
theorem words_ofWords {k : Kind} {ws : List UInt16} (h : ws.length = k.width) :
    (ofWords k ws).words = ws := by
  have hres : (ofWords k ws).residue = ofDigits ws % 65536 ^ k.width := by
    rw [← patterns_eq_pow]
    exact residue_ofResidue k (ofDigits ws)
  rw [words_eq_digits, kind_ofWords, hres, digits_mod, ← h, digits_ofDigits]

/-- Taking a value apart and composing its words gives the value. -/
theorem ofWords_words (v : Value) : ofWords v.kind v.words = v := by
  have hlt : v.residue < 65536 ^ v.kind.width := by
    rw [← patterns_eq_pow]
    exact v.residue_lt
  unfold ofWords
  rw [words_eq_digits, ofDigits_digits, Nat.mod_eq_of_lt hlt, ofResidue_residue]

theorem ofWords?_eq_ok {k : Kind} {ws : List UInt16} (h : ws.length = k.width) :
    ofWords? k ws = .ok (ofWords k ws) := by
  rw [ofWords?, if_pos h]

end Value

namespace Register

/-! ### Owned addresses -/

@[simp] theorem owns_iff (r : Register) (a : UInt16) :
    r.owns a = true ↔ r.address.toNat ≤ a.toNat ∧ a.toNat < r.endAddress := by
  simp [owns]

@[simp] theorem length_words (r : Register) : r.words.length = r.width := Value.length_words ..

theorem width_pos (r : Register) : 0 < r.width := r.kind.width_pos

/-- A register owns its own address. -/
theorem owns_address (r : Register) : r.owns r.address = true := by
  have := r.width_pos
  rw [owns_iff, endAddress]
  omega

/-- Whether an address of any size is one of those a register takes. -/
def Covers (r : Register) (n : Nat) : Prop := r.address.toNat ≤ n ∧ n < r.endAddress

theorem covers_toNat_iff {r : Register} {a : UInt16} : r.Covers a.toNat ↔ r.owns a = true :=
  (owns_iff r a).symm

/-! ### Changing the value -/

theorem setValue_eq_ok_iff {r s : Register} {v : Value} :
    r.setValue v = .ok s ↔ v.kind = r.kind ∧ s = { r with value := v } := by
  unfold setValue
  by_cases hv : v.kind = r.kind
  · rw [if_pos hv, Except.ok.injEq, eq_comm]
    exact (and_iff_right hv).symm
  · rw [if_neg hv]
    simp [hv]

/-- The register with the word at an owned address replaced. -/
def withWord (r : Register) (a w : UInt16) : Register :=
  { r with value := Value.ofWords r.kind (r.words.set (a.toNat - r.address.toNat) w) }

@[simp] theorem words_withWord (r : Register) (a w : UInt16) :
    (r.withWord a w).words = r.words.set (a.toNat - r.address.toNat) w :=
  Value.words_ofWords (by simp [width])

theorem slot_withWord (r : Register) (a w : UInt16) : (r.withWord a w).slot = r.slot :=
  slot_withValue (Value.kind_ofWords ..)

/-- An owned address has a word. -/
theorem offset_lt {r : Register} {a : UInt16} (h : r.owns a = true) :
    a.toNat - r.address.toNat < r.words.length := by
  rw [owns_iff, endAddress] at h
  rw [length_words]
  omega

theorem withWords?_eq_ok {r : Register} {ws : List UInt16} (h : ws.length = r.kind.width) :
    r.withWords? ws =
      .ok ⟨{ r with value := .ofWords r.kind ws }, slot_withValue (Value.kind_ofWords ..)⟩ := by
  have hvalue := Value.ofWords?_eq_ok h
  unfold withWords?
  split
  · next v hv =>
    obtain rfl := Except.ok.inj (hv.symm.trans hvalue)
    rfl
  · next e he => cases he.symm.trans hvalue

section Words

variable {m : Type → Type} [Monad m] {ix : Indexing m}

theorem wordBy_eq (hix : ix.Faithful) (r : Register) (a : UInt16) :
    r.wordBy ix a = pure (r.word? a) := by
  rw [wordBy, word?_eq]
  split
  · next h => exact hix.get (offset_lt h)
  · rfl

/-- Replacing an owned word always goes through. -/
theorem replaceWordBy_of_owns [LawfulMonad m] (hix : ix.Faithful) {r : Register} {a : UInt16}
    (w : UInt16) (h : r.owns a = true) :
    r.replaceWordBy ix a w = pure (.ok ⟨r.withWord a w, r.slot_withWord a w⟩) := by
  have hlen : (r.words.set (a.toNat - r.address.toNat) w).length = r.kind.width := by simp [width]
  rw [replaceWordBy, if_pos h, hix.set w (offset_lt h), pure_bind, withWords?_eq_ok hlen]
  rfl

end Words

theorem replaceWord_of_owns {r : Register} {a : UInt16} (w : UInt16) (h : r.owns a = true) :
    r.replaceWord a w = .ok (r.withWord a w) := by
  rw [replaceWord, replaceWordBy_of_owns Indexing.lenient_faithful w h]
  rfl

end Register

end SolarTwin

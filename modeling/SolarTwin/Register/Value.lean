import SolarTwin.Error

namespace SolarTwin

/-!
# Values and their words

A value is an integer within the range of its kind.  Its words are the 16-bit digits of its two's
complement bits, most significant first.

* `Value.ofInt?` accepts exactly the integers of the kind, `Value.clamp` takes the nearest one;
* `Value.words` and `Value.ofWords` translate between a value and its words.
-/

/-- An integer of a kind. -/
structure Value where
  kind : Kind
  number : Int
  lo_le : kind.lo ≤ number
  le_hi : number ≤ kind.hi
  deriving DecidableEq

namespace Value

/-- Zero of a kind. -/
def zero (k : Kind) : Value := ⟨k, 0, k.lo_le_zero, k.zero_le_hi⟩

/-- The value of an integer that fits the kind. -/
def ofInt? (k : Kind) (n : Int) : Option Value :=
  if h : k.lo ≤ n ∧ n ≤ k.hi then some ⟨k, n, h.1, h.2⟩ else none

/-- The value nearest to an integer. -/
def clamp (k : Kind) (n : Int) : Value where
  kind := k
  number := max k.lo (min k.hi n)
  lo_le := Int.le_max_left ..
  le_hi := Int.max_le.2 ⟨k.lo_le_hi, Int.min_le_left ..⟩

/-- The integer as a natural number, if it is not negative. -/
def toNat? (v : Value) : Option Nat := v.number.toNat?

/-- The kind with the integer in brackets. -/
def text (v : Value) : String := s!"{v.kind.name}({v.number})"

/-! ### Two's complement -/

/-- The two's complement bits of a value, as a number below `v.kind.patterns`. -/
def residue (v : Value) : Nat := (v.number % v.kind.patterns).toNat

/-- The integer of a kind with the lowest bits of `n` as its two's complement bits. -/
def signedOfResidue (k : Kind) (n : Nat) : Int :=
  let r : Int := n % k.patterns
  if r ≤ k.hi then r else r - k.patterns

theorem signedOfResidue_bounds (k : Kind) (n : Nat) :
    k.lo ≤ signedOfResidue k n ∧ signedOfResidue k n ≤ k.hi := by
  have hpos : (0 : Int) < k.patterns := by have := k.patterns_pos; omega
  have h0 : 0 ≤ (n : Int) % k.patterns := Int.emod_nonneg _ (by omega)
  have h1 : (n : Int) % k.patterns < k.patterns := Int.emod_lt_of_pos _ hpos
  have hspan := k.hi_sub_lo
  have hlo := k.lo_le_zero
  have hhi := k.zero_le_hi
  simp only [signedOfResidue]
  split <;> omega

/-- The value of a kind with the lowest bits of `n`. -/
def ofResidue (k : Kind) (n : Nat) : Value :=
  ⟨k, signedOfResidue k n, (signedOfResidue_bounds k n).1, (signedOfResidue_bounds k n).2⟩

/-! ### Words -/

/-- The words of a value, most significant first. -/
def words (v : Value) : List UInt16 :=
  (List.range v.kind.width).map fun i =>
    UInt16.ofNat (v.residue >>> (16 * (v.kind.width - 1 - i)))

/-- The number whose base-65536 digits are the words, most significant first. -/
def ofDigits (ws : List UInt16) : Nat :=
  ws.foldl (fun n w => n * 65536 + w.toNat) 0

/-- The value of a kind whose words are the last ones of the list. -/
def ofWords (k : Kind) (ws : List UInt16) : Value := ofResidue k (ofDigits ws)

/-- The value of a kind with exactly the given words. -/
def ofWords? (k : Kind) (ws : List UInt16) : Except Error Value :=
  if ws.length = k.width then .ok (ofWords k ws) else .error (.invalidData (.wordCount k ws.length))

@[simp] theorem kind_zero (k : Kind) : (zero k).kind = k := rfl

@[simp] theorem kind_clamp (k : Kind) (n : Int) : (clamp k n).kind = k := rfl

@[simp] theorem kind_ofResidue (k : Kind) (n : Nat) : (ofResidue k n).kind = k := rfl

@[simp] theorem kind_ofWords (k : Kind) (ws : List UInt16) : (ofWords k ws).kind = k := rfl

theorem kind_of_ofWords? {k : Kind} {ws : List UInt16} {v : Value} (h : ofWords? k ws = .ok v) :
    v.kind = k := by
  unfold ofWords? at h
  split at h
  · obtain rfl := Except.ok.inj h
    exact kind_ofWords k ws
  · cases h

@[simp] theorem length_words (v : Value) : v.words.length = v.kind.width := by simp [words]

end Value

end SolarTwin

import SolarTwin.Proofs.Register.Cells

namespace SolarTwin

/-!
# Numbers become values

A number becomes a value in one of two ways: only if the kind holds it, or as the nearest integer
that the kind holds.  The first takes an integer of 128 bits, which is wide enough for every value,
the second one of 64 bits, which it cuts to the bounds of the kind before it is narrowed.

* `Kind.Nearest` — the nearest integer of a kind;
* `Value.ofInt?_eq_some_iff` and `Value.nearest_clamp` — the two ways by numbers;
* `Cell.value_ofInt128?` and `Cell.value_saturated` — the two ways by cells;
* `Value.conversions_exact_or_nearest` — all that there is to say of both.
-/

/-- Whether an integer of a kind is nearer to `n` than every other one. -/
def Kind.Nearest (k : Kind) (n m : Int) : Prop :=
  k.Holds m ∧ ∀ m', k.Holds m' → m' ≠ m → (m - n).natAbs < (m' - n).natAbs

/-! ### By numbers -/

namespace Value

variable {k : Kind} {n m : Int} {v : Value}

theorem holds_number (v : Value) : v.kind.Holds v.number := Kind.holds_iff.2 ⟨v.lo_le, v.le_hi⟩

theorem ofInt?_eq_some_iff : ofInt? k n = some v ↔ v.kind = k ∧ v.number = n := by
  unfold ofInt?
  split
  · next h =>
    rw [Option.some.injEq]
    constructor
    · rintro rfl
      exact ⟨rfl, rfl⟩
    · rintro ⟨rfl, rfl⟩
      rfl
  · next h =>
    simp only [reduceCtorEq, false_iff]
    rintro ⟨rfl, rfl⟩
    exact h ⟨v.lo_le, v.le_hi⟩

theorem exists_ofInt?_iff : (∃ v, ofInt? k n = some v) ↔ k.Holds n := by
  constructor
  · rintro ⟨v, hv⟩
    obtain ⟨rfl, rfl⟩ := ofInt?_eq_some_iff.1 hv
    exact v.holds_number
  · intro h
    obtain ⟨hlo, hhi⟩ := Kind.holds_iff.1 h
    exact ⟨⟨k, n, hlo, hhi⟩, ofInt?_eq_some_iff.2 ⟨rfl, rfl⟩⟩

theorem number_clamp (k : Kind) (n : Int) : (clamp k n).number = max k.lo (min k.hi n) := rfl

/-- Cutting to the bounds gives the nearest integer of a kind. -/
theorem nearest_clamp (k : Kind) (n : Int) : k.Nearest n (clamp k n).number := by
  refine ⟨(clamp k n).holds_number, fun m hm hne => ?_⟩
  obtain ⟨hlo, hhi⟩ := Kind.holds_iff.1 hm
  have hspan := k.lo_le_hi
  rw [number_clamp] at hne ⊢
  omega

theorem clamp_mono (k : Kind) (h : n ≤ m) : (clamp k n).number ≤ (clamp k m).number := by
  rw [number_clamp, number_clamp]
  omega

/-- An integer that the kind holds is not cut. -/
theorem clamp_number (v : Value) : clamp v.kind v.number = v := by
  refine ext_number rfl ?_
  have hlo := v.lo_le
  have hhi := v.le_hi
  rw [number_clamp]
  omega

/-- The two ways agree where the first has a value. -/
theorem clamp_of_ofInt? (h : ofInt? k n = some v) : clamp k n = v := by
  obtain ⟨rfl, rfl⟩ := ofInt?_eq_some_iff.1 h
  exact v.clamp_number

end Value

/-! ### By cells -/

namespace Cell

variable {k : Kind}

/-- The integer in a cell, in a cell of 128 bits. -/
def toInt128 (x : Cell k) : BitVec 128 :=
  if k.isSigned then x.signExtend 128 else x.setWidth 128

/-- The cell of a kind with an integer of 128 bits, if the kind holds it. -/
def ofInt128? (k : Kind) (raw : BitVec 128) : Option (Cell k) :=
  if k.Holds raw.toInt then some (raw.setWidth k.bits) else none

/-- An integer of 64 bits, cut to bounds. -/
def cut (lo hi raw : Int64) : Int64 := if raw < lo then lo else if hi < raw then hi else raw

/-- The cell of a kind with an integer of 64 bits, cut to the bounds of the kind.  The kinds of 64
    bits have one bound to cut to, or none. -/
def saturated : (k : Kind) → Int64 → Cell k
  | .u16, raw => (cut 0 65535 raw).toBitVec.setWidth 16
  | .s16, raw => (cut (-32768) 32767 raw).toBitVec.setWidth 16
  | .u32, raw => (cut 0 4294967295 raw).toBitVec.setWidth 32
  | .s32, raw => (cut (-2147483648) 2147483647 raw).toBitVec.setWidth 32
  | .u64, raw => (max raw 0).toBitVec
  | .s64, raw => raw.toBitVec

/-- Widening keeps the integer, whether the kind is signed or not. -/
private theorem toInt_toInt128 (x : Cell k) : x.toInt128.toInt = x.number := by
  have hbits := k.bits_le
  unfold toInt128 number
  split
  · exact BitVec.toInt_signExtend_of_le (by omega)
  · have hlt : x.toNat < 2 ^ 64 :=
      Nat.lt_of_lt_of_le x.isLt (Nat.pow_le_pow_right (by decide) hbits)
    have htoNat : (x.setWidth 128).toNat = x.toNat := by
      rw [BitVec.toNat_setWidth]
      exact Nat.mod_eq_of_lt (by omega)
    rw [BitVec.toInt_eq_toNat_of_lt (by omega), htoNat]

/-- Narrowing gives the value of the integer, if the kind holds it. -/
theorem value_setWidth {w : Nat} {x : BitVec w} {v : Value} (hkind : v.kind = k)
    (hw : k.bits ≤ w) (hx : x.toInt = v.number) : value (k := k) (x.setWidth k.bits) = v := by
  subst hkind
  rw [Value.setWidth_eq_cell hw hx, v.value_cell]

theorem value_ofInt128? (k : Kind) (raw : BitVec 128) :
    (ofInt128? k raw).map value = Value.ofInt? k raw.toInt := by
  unfold ofInt128?
  by_cases h : k.Holds raw.toInt
  · obtain ⟨v, hv⟩ := Value.exists_ofInt?_iff.2 h
    obtain ⟨rfl, hnumber⟩ := Value.ofInt?_eq_some_iff.1 hv
    have hbits := v.kind.bits_le
    rw [if_pos h, hv, Option.map_some, value_setWidth rfl (by omega) hnumber.symm]
  · rw [if_neg h, Option.map_none, eq_comm, Option.eq_none_iff_forall_ne_some]
    exact fun v hv => h (Value.exists_ofInt?_iff.1 ⟨v, hv⟩)

/-- An integer cut to the bounds of a kind is narrowed to the value nearest to it. -/
private theorem value_cut {lo hi : Int64} (hw : k.bits ≤ 64) (hlo : lo.toInt = k.lo)
    (hhi : hi.toInt = k.hi) (raw : Int64) :
    value (k := k) ((cut lo hi raw).toBitVec.setWidth k.bits) = Value.clamp k raw.toInt := by
  apply value_setWidth (Value.kind_clamp k raw.toInt) hw
  show (cut lo hi raw).toInt = max k.lo (min k.hi raw.toInt)
  have hspan := k.lo_le_hi
  rw [← hlo, ← hhi] at hspan ⊢
  simp only [cut, Int64.lt_iff_toInt_lt]
  split
  · omega
  · split <;> omega

/-- Whatever a kind cuts to, the cell has the value nearest to the integer. -/
theorem value_saturated (k : Kind) (raw : Int64) :
    (saturated k raw).value = Value.clamp k raw.toInt := by
  have hlo := raw.le_toInt
  have hhi := raw.toInt_lt
  cases k with
  | u16 | s16 | u32 | s32 => exact value_cut (by decide) (by decide) (by decide) raw
  | u64 =>
    -- An integer of 64 bits does not come near the upper bound.
    have hmax : (max raw 0).toInt = max 0 (min 18446744073709551615 raw.toInt) := by
      show (if raw ≤ 0 then 0 else raw).toInt = _
      simp only [Int64.le_iff_toInt_le, Int64.toInt_zero]
      split
      · rw [Int64.toInt_zero]
        omega
      · omega
    rw [saturated, ← BitVec.setWidth_eq (max raw 0).toBitVec]
    exact value_setWidth rfl (by decide) hmax
  | s64 =>
    have hraw : raw.toInt = max (-9223372036854775808) (min 9223372036854775807 raw.toInt) := by
      omega
    rw [saturated, ← BitVec.setWidth_eq raw.toBitVec]
    exact value_setWidth rfl (by decide) hraw

end Cell

namespace Value

/-! ### Both ways -/

/-- A value that is not beyond the signed integers of 64 bits is one of them. -/
theorem exists_toInt_eq_number {v : Value} (h : v.number ≤ 9223372036854775807) :
    ∃ raw : Int64, raw.toInt = v.number := by
  have hlo : -9223372036854775808 ≤ v.kind.lo := by cases v.kind <;> decide
  have hnumber := v.lo_le
  exact ⟨Int64.ofInt v.number, Int64.toInt_ofInt_of_le (by omega) (by omega)⟩

/-- **Conversions are exact, or go to the nearest integer.**  The checked one has a value for the
    integers that the kind holds and for no others, and it is the value of that integer.  The other
    one has a value of the kind for every integer, which is nearer than every other integer of the
    kind; so it agrees with the first, keeps the order, and gives a value back for its number.  By
    cells both are the same, for all integers of 128 and of 64 bits: a value is read from its cell
    without loss, and comes back if it is not beyond the integers of 64 bits. -/
theorem conversions_exact_or_nearest (k : Kind) :
    (∀ n : Int, ((∃ v, ofInt? k n = some v) ↔ k.Holds n) ∧
      ∀ v, ofInt? k n = some v ↔ v.kind = k ∧ v.number = n) ∧
    (∀ n : Int, (clamp k n).kind = k ∧ k.Nearest n (clamp k n).number ∧
      ∀ v, ofInt? k n = some v → clamp k n = v) ∧
    (∀ n m : Int, n ≤ m → (clamp k n).number ≤ (clamp k m).number) ∧
    (∀ raw : BitVec 128, (Cell.ofInt128? k raw).map Cell.value = ofInt? k raw.toInt) ∧
    (∀ x : Cell k, x.toInt128.toInt = x.value.number) ∧
    (∀ raw : Int64, (Cell.saturated k raw).value = clamp k raw.toInt) ∧
    ∀ v : Value, v.kind = k → clamp k v.number = v ∧
      (v.number ≤ 9223372036854775807 →
        ∃ raw : Int64, raw.toInt = v.number ∧ (Cell.saturated k raw).value = v) := by
  refine ⟨?_, ?_, fun n m => clamp_mono k, Cell.value_ofInt128? k, Cell.toInt_toInt128,
    Cell.value_saturated k, ?_⟩
  · intro n
    exact ⟨exists_ofInt?_iff, fun v => ofInt?_eq_some_iff⟩
  · intro n
    exact ⟨kind_clamp k n, nearest_clamp k n, fun v => clamp_of_ofInt?⟩
  · rintro v rfl
    refine ⟨v.clamp_number, ?_⟩
    intro hv
    obtain ⟨raw, hraw⟩ := exists_toInt_eq_number hv
    refine ⟨raw, hraw, ?_⟩
    rw [Cell.value_saturated, hraw, clamp_number]

/-- The greatest signed integer of 64 bits is kept by the unsigned ones, and minus one is cut to
    zero. -/
theorem conversions_exact_or_nearest_longest :
    let n : Int := 9223372036854775807
    let v := clamp .u64 n
    (∃ raw : Int64, raw.toInt = n ∧ (Cell.saturated .u64 raw).value = v) ∧
    ofInt? .u64 n = some v ∧ clamp .u64 n = v ∧
    (¬ ∃ v, ofInt? .u64 (-1) = some v) ∧ Kind.u64.Nearest (-1) (clamp .u64 (-1)).number ∧
    (clamp .u64 (-1)).number ≤ (clamp .u64 n).number := by
  intro n v
  obtain ⟨hchecked, hcut, hmono, -, -, -, hback⟩ := conversions_exact_or_nearest .u64
  have hv : ofInt? .u64 n = some v := ((hchecked n).2 v).2 ⟨by decide, by decide⟩
  refine ⟨(hback v (by decide)).2 (by decide), hv, (hcut n).2.2 v hv, ?_, (hcut (-1)).2.1,
    hmono (-1) n (by decide)⟩
  intro h
  exact absurd ((hchecked (-1)).1.1 h) (by decide)

end Value

end SolarTwin

import SolarTwin.Proofs.Binary64.Whole

namespace SolarTwin.Binary64

open Float.Model (UnpackedFloat Format)
open Float.Model.UnpackedFloat (Sign)

/-!
# The order of doubles

The bits of positive doubles, read as whole numbers, are in the same order as the doubles, and no
two doubles stand for the same number, except for zero.

* `eq_of_value?_eq` and `toBits_lt_toBits` — positive doubles are told and compared by their
  numbers;
* `le_iff_infinite_or` and `nonneg_iff` — what is at least a number is finite or positive infinity;
* `atLeast_zero` — what becomes of a double that is raised to zero if it is below;
* `nonneg_add` — sums of what is not below zero are not either, although they may be infinite.
-/

/-! ### Positive doubles -/

section

variable {x y : Float} {p q : ℚ}

theorem exists_parts_of_pos (hx : value? x = some q) (hq : 0 < q) :
    ∃ m e, parts x = .finite false m e ∧ Canonical m e ∧ q = m * 2 ^ e := by
  obtain ⟨negative, m, e, hparts, rfl⟩ := exists_parts hx
  have hmagnitude : (0 : ℚ) ≤ m * 2 ^ e := by positivity
  cases negative with
  | false => exact ⟨m, e, hparts, (canonical_of_parts hparts).1, rfl⟩
  | true => exact absurd hq (not_lt.2 (neg_nonpos.2 hmagnitude))

/-- No two positive doubles stand for the same number. -/
theorem eq_of_value?_eq (hx : value? x = some q) (hy : value? y = some q) (hq : 0 < q) : x = y := by
  obtain ⟨m, e, hparts, hcanonical, rfl⟩ := exists_parts_of_pos hx hq
  obtain ⟨m', e', hparts', hcanonical', heq⟩ := exists_parts_of_pos hy hq
  have hcompare := hcanonical.compare_eq hcanonical'
  rw [compare_eq_iff_eq.2 heq, Ordering.then_eq_eq, compare_eq_iff_eq,
    compare_eq_iff_eq] at hcompare
  obtain ⟨rfl, rfl⟩ := hcompare
  exact eq_of_parts_eq (hparts.trans hparts'.symm)

/-- The bits of a double without sign: its exponent, counted from the lowest one, in front of its
    significand. -/
theorem toNat_toBits_of_parts {m : ℕ} {e : ℤ} (h : parts x = .finite false m e) :
    (x.toBits.toNat : ℤ) = (e + 1074) * 2 ^ 52 + m := by
  have hbits := x.toBits.toNat_lt
  unfold parts partsOfBits at h
  simp only [Nat.shiftRight_eq_div_pow] at h
  split at h
  · split at h <;> cases h
  · split at h
    · obtain ⟨hsign, rfl, rfl⟩ := Parts.finite.inj h
      rw [beq_eq_false_iff_ne] at hsign
      omega
    · obtain ⟨hsign, rfl, rfl⟩ := Parts.finite.inj h
      rw [beq_eq_false_iff_ne] at hsign
      omega

/-- The bits of positive doubles are in order. -/
theorem toBits_lt_toBits (hx : value? x = some p) (hy : value? y = some q) (hp : 0 < p)
    (hpq : p < q) : x.toBits.toNat < y.toBits.toNat := by
  obtain ⟨m, e, hparts, hcanonical, rfl⟩ := exists_parts_of_pos hx hp
  obtain ⟨m', e', hparts', hcanonical', rfl⟩ := exists_parts_of_pos hy (hp.trans hpq)
  have hcompare := hcanonical.compare_eq hcanonical'
  rw [compare_lt_iff_lt.2 hpq, Ordering.then_eq_lt, compare_lt_iff_lt, compare_lt_iff_lt,
    compare_eq_iff_eq] at hcompare
  have hbits := toNat_toBits_of_parts hparts
  have hbits' := toNat_toBits_of_parts hparts'
  have hroom := hcanonical.lt
  have hlowest := hcanonical.lowest
  have hfull := hcanonical'.full
  omega

end

/-! ### Doubles that are not below zero -/

section

variable {x y : Float}

theorem value?_zero : value? 0.0 = some 0 := by decide +kernel

/-- What is at least a number is positive infinity or stands for one that is. -/
theorem le_iff_infinite_or {q : ℚ} (hy : value? y = some q) :
    y ≤ x ↔ x = 1.0 / 0.0 ∨ ∃ p, value? x = some p ∧ q ≤ p := by
  constructor
  · intro hle
    cases hvalue : value? x with
    | some p => exact .inr ⟨p, rfl, (le_iff hy hvalue).1 hle⟩
    | none =>
      rw [le_iff_compare] at hle
      rcases eq_of_value?_eq_none hvalue with rfl | rfl | rfl
      · -- Nothing can be compared with a NaN.
        rw [unpack_of_nan (by decide +kernel : parts (0.0 / 0.0) = .nan)] at hle
        cases hu : y.toModel.unpack <;> rw [hu] at hle <;> cases hle
      · exact .inl rfl
      · have hinfinity : (-1.0 / 0.0 : Float).toModel.unpack = .infinity .negative := rfl
        rw [hinfinity, (compare_infinity (settles_unpack hy)).2.1] at hle
        cases hle
  · rintro (rfl | ⟨p, hx, hpq⟩)
    · have hinfinity : (1.0 / 0.0 : Float).toModel.unpack = .infinity .positive := rfl
      rw [le_iff_compare, hinfinity, (compare_infinity (settles_unpack hy)).2.2.2]
      rfl
    · exact (le_iff hy hx).2 hpq

/-- What is not below zero is positive infinity or stands for a number that is not. -/
theorem nonneg_iff : 0.0 ≤ x ↔ x = 1.0 / 0.0 ∨ ∃ q, value? x = some q ∧ 0 ≤ q :=
  le_iff_infinite_or value?_zero

theorem isNaN_iff : x.isNaN = true ↔ parts x = .nan := by
  rw [parts_eq]
  show x.toModel.unpack.isNaN = true ↔ _
  cases x.toModel.unpack <;> simp [UnpackedFloat.isNaN, partsOfUnpacked]

/-- Only what is not below zero is kept by raising it to zero, so a NaN is not. -/
theorem atLeast_zero (x : Float) : atLeast 0.0 x = if 0.0 ≤ x then x else 0.0 := by
  cases hvalue : value? x with
  | none => rcases eq_of_value?_eq_none hvalue with rfl | rfl | rfl <;> rfl
  | some q =>
    have hnumber : ¬ x.isNaN = true := by
      rw [isNaN_iff]
      intro hnan
      rw [value?, hnan] at hvalue
      cases hvalue
    rw [atLeast, if_neg hnumber]
    rcases lt_or_ge q 0 with hq | hq
    · rw [if_pos ((lt_iff hvalue value?_zero).2 hq),
        if_neg (by rw [le_iff value?_zero hvalue]; exact not_le.2 hq)]
    · rw [if_neg (by rw [lt_iff hvalue value?_zero]; exact not_lt.2 hq),
        if_pos ((le_iff value?_zero hvalue).2 hq)]

theorem nonneg_atLeast (x : Float) : 0.0 ≤ atLeast 0.0 x := by
  rw [atLeast_zero]
  split
  · assumption
  · decide +kernel

/-- A significand whose exponent is too great is packed as infinity. -/
private theorem pack_of_overflow (s : Sign) {m : ℕ} {e : ℤ} (hm : 0 < m) (he : 971 < e) :
    Float.Model.pack (.finite s m e hm) = .pack (.infinity s) := by
  have hbits : UnpackedFloat.pack .binary64 (.finite s m e hm) =
      UnpackedFloat.pack .binary64 (.infinity s) := by
    have hexponent : 2 ^ Format.binary64.exponentBits ≤
        (e + Format.binary64.exponentBias +
          Format.binary64.mantissaBitsWithoutImplicit).toNat + 1 := by
      show 2 ^ 11 ≤ (e + (1023 : ℕ) + (52 : ℕ)).toNat + 1
      omega
    simp only [UnpackedFloat.pack, if_pos hexponent]
  simp only [Float.Model.pack, hbits]

/-- A number that is not below zero is not packed as anything below zero. -/
private theorem nonneg_pack {u : UnpackedFloat} {r : ℚ} (h : Settles u r) (hr : 0 ≤ r) :
    0.0 ≤ (⟨.pack u⟩ : Float) := by
  rw [nonneg_iff]
  by_cases hrange : |r| < 2 ^ (1024 : ℤ)
  · exact .inr ⟨r, value?_pack h hrange, hr⟩
  · left
    rcases h.zero_or_finite with ⟨s, rfl, rfl⟩ | ⟨s, m, e, hm, rfl, hcanonical, rfl⟩
    · exact absurd (by positivity) hrange
    · have hmagnitude : (0 : ℚ) < m * 2 ^ e := by positivity
      rw [abs_withSign, abs_of_pos hmagnitude, not_lt] at hrange
      have hlt : (m : ℚ) < 2 ^ (53 : ℤ) := by exact_mod_cast hcanonical.lt
      have hgreat : (2 : ℚ) ^ (1024 : ℤ) < 2 ^ (53 + e) :=
        calc (2 : ℚ) ^ (1024 : ℤ) ≤ m * 2 ^ e := hrange
          _ < 2 ^ (53 : ℤ) * 2 ^ e := mul_lt_mul_of_pos_right hlt (by positivity)
          _ = 2 ^ (53 + e) := (zpow_add₀ two_ne_zero _ _).symm
      have hexponent := (zpow_lt_zpow_iff_right₀ one_lt_two).1 hgreat
      cases s with
      | negative => exact absurd hr (not_le.2 (neg_lt_zero.2 hmagnitude))
      | positive =>
        rw [pack_of_overflow .positive hm (by omega)]
        rfl

/-- Adding a number to positive infinity changes nothing. -/
theorem infinity_add {q : ℚ} (hy : value? y = some q) :
    1.0 / 0.0 + y = (1.0 / 0.0 : Float) ∧ y + 1.0 / 0.0 = (1.0 / 0.0 : Float) := by
  have hinfinity : (1.0 / 0.0 : Float).toModel.unpack = .infinity .positive := rfl
  have hadd (a b : Float) :
      a + b = ⟨.pack (UnpackedFloat.add .binary64 a.toModel.unpack b.toModel.unpack)⟩ := rfl
  rw [hadd, hadd, hinfinity]
  rcases (settles_unpack hy).zero_or_finite with ⟨s, hunpack, -⟩ | ⟨s, m, e, hm, hunpack, -, -⟩
  · rw [hunpack]
    exact ⟨rfl, rfl⟩
  · rw [hunpack]
    exact ⟨rfl, rfl⟩

/-- Sums of what is not below zero are not below zero. -/
theorem nonneg_add (hx : 0.0 ≤ x) (hy : 0.0 ≤ y) : 0.0 ≤ x + y := by
  have hinfinite : (0.0 : Float) ≤ 1.0 / 0.0 := nonneg_iff.2 (.inl rfl)
  rcases nonneg_iff.1 hx with rfl | ⟨p, hx, hp⟩ <;> rcases nonneg_iff.1 hy with rfl | ⟨q, hy, hq⟩
  · decide +kernel
  · rw [(infinity_add hy).1]
    exact hinfinite
  · rw [(infinity_add hx).2]
    exact hinfinite
  · obtain ⟨r, hr, hbetween⟩ := (rounded_add (settles_unpack hx) (settles_unpack hy)).rounds
    exact nonneg_pack hr ((hbetween 0 isDouble_zero).1 (add_nonneg hp hq))

end

end SolarTwin.Binary64

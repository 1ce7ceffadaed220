import SolarTwin.Proofs.Binary64.Value

namespace SolarTwin.Binary64

open Float.Model (Format UnpackedFloat totalExponent)
open Float.Model.UnpackedFloat

/-!
# Rounding

The four operations compute the exact result, cut it off at the place of the last bit and correct
the last bit by what has been cut off.  All that is needed of this is that it never steps over a
double: the result of an operation lies between the same doubles as the exact one, and is exact
where this is a double.

* `Brackets` — a significand with two more bits tells between which whole numbers a number lies;
* `Rounds` — an unpacked double lies between the same doubles as a number;
* `rounds_roundWithAccuracy` — what rounding does to a number that is known up to its accuracy;
* `Rounded` and `rounded_normalize` — an unpacked double comes of a number that is known exactly, as
  that of every sum, difference and product does;
* `Approximates` — the same of a double, as far as the doubles around it are finite;
* `approximates_add`, `approximates_sub`, `approximates_mul`, `approximates_div` — the operations.
-/

/-! ### What is cut off -/

/-- A significand with two more bits stands for itself if neither of them is set, and for a number
    between it and the next one otherwise. -/
inductive Brackets : ExtendedMantissa → ℚ → Prop
  | exact (m : ℕ) : Brackets ⟨m, false, false⟩ m
  | inexact {m : ℕ} {round sticky : Bool} {x : ℚ} (bits : (round || sticky) = true)
      (lo : (m : ℚ) < x) (hi : x < m + 1) : Brackets ⟨m, round, sticky⟩ x

/-- Rounding leads to the significand or to the next one. -/
theorem mantissa_le_roundedMantissa (em : ExtendedMantissa) :
    em.mantissa ≤ em.roundedMantissa ∧ em.roundedMantissa ≤ em.mantissa + 1 := by
  obtain ⟨m, round, sticky⟩ := em
  cases round <;> cases sticky <;>
    simp [ExtendedMantissa.roundedMantissa, ExtendedMantissa.accuracy,
      Accuracy.roundToNearestEven]
  omega

namespace Brackets

variable {em : ExtendedMantissa} {x : ℚ}

theorem le (h : Brackets em x) : (em.mantissa : ℚ) ≤ x := by
  cases h with
  | exact m => exact le_rfl
  | inexact bits lo hi => exact lo.le

/-- Cutting off one more bit halves the number. -/
theorem shiftRightOne (h : Brackets em x) : Brackets em.shiftRightOne (x / 2) := by
  cases h with
  | exact m =>
    obtain ⟨k, rfl | rfl⟩ := Nat.even_or_odd' m
    · have hshift : ExtendedMantissa.shiftRightOne ⟨2 * k, false, false⟩ = ⟨k, false, false⟩ := by
        simp [ExtendedMantissa.shiftRightOne]
      have hhalf : ((2 * k : ℕ) : ℚ) / 2 = k := by
        push_cast
        ring
      rw [hshift, hhalf]
      exact .exact k
    · have hshift :
          ExtendedMantissa.shiftRightOne ⟨2 * k + 1, false, false⟩ = ⟨k, true, false⟩ := by
        simp [ExtendedMantissa.shiftRightOne]
        omega
      rw [hshift]
      push_cast
      exact .inexact rfl (by linarith) (by linarith)
  | @inexact m round sticky _ bits lo hi =>
    have hlo : (2 * (m / 2 : ℕ) : ℚ) ≤ m := by exact_mod_cast Nat.mul_div_le m 2
    have hhi : (m : ℚ) + 1 ≤ 2 * ((m / 2 : ℕ) + 1) := by
      exact_mod_cast (by omega : m + 1 ≤ 2 * (m / 2 + 1))
    refine .inexact ?_ (by linarith) (by linarith)
    rw [bits, Bool.or_true]

theorem shiftRight (h : Brackets em x) (n : ℕ) : Brackets (em >>> n) (x / 2 ^ n) := by
  induction n with
  | zero =>
    rw [pow_zero, div_one]
    exact h
  | succ n ih =>
    have hshift : em >>> (n + 1) = (em >>> n).shiftRightOne := rfl
    rw [hshift, pow_succ, ← div_div]
    exact ih.shiftRightOne

/-- Rounding steps over no whole number. -/
theorem le_roundedMantissa (h : Brackets em x) {k : ℤ} (hk : (k : ℚ) ≤ x) :
    k ≤ em.roundedMantissa := by
  cases h with
  | exact m => exact_mod_cast hk
  | @inexact m round sticky _ bits lo hi =>
    have hless : k < m + 1 := by exact_mod_cast hk.trans_lt hi
    have hge : m ≤ ExtendedMantissa.roundedMantissa ⟨m, round, sticky⟩ :=
      (mantissa_le_roundedMantissa ⟨m, round, sticky⟩).1
    omega

theorem roundedMantissa_le (h : Brackets em x) {k : ℤ} (hk : x ≤ k) :
    em.roundedMantissa ≤ k := by
  cases h with
  | exact m => exact_mod_cast hk
  | @inexact m round sticky _ bits lo hi =>
    have hless : m < k := by exact_mod_cast lo.trans_le hk
    have hle : ExtendedMantissa.roundedMantissa ⟨m, round, sticky⟩ ≤ m + 1 :=
      (mantissa_le_roundedMantissa ⟨m, round, sticky⟩).2
    omega

end Brackets

theorem mantissa_shiftRight (em : ExtendedMantissa) (n : ℕ) :
    (em >>> n).mantissa = em.mantissa / 2 ^ n := by
  induction n with
  | zero => exact (Nat.div_one _).symm
  | succ n ih =>
    have hshift : (em >>> (n + 1)).mantissa = (em >>> n).mantissa / 2 := rfl
    rw [hshift, ih, Nat.div_div_eq_div_mul, pow_succ]

@[simp] theorem mantissa_ofMantissaAndAccuracy (m : ℕ) (acc : Accuracy) :
    (ExtendedMantissa.ofMantissaAndAccuracy m acc).mantissa = m := by
  cases acc with
  | exact => rfl
  | inexact o => cases o <;> rfl

/-! ### Where it is cut off -/

/-- The exponent at which a number is cut off. -/
theorem targetExponent_eq (m : ℕ) (e : ℤ) :
    Format.binary64.targetExponent (totalExponent m e) = max (m.log2 + e - 52) (-1074) := by
  show max ((m.log2 : ℤ) + 1 + e - (53 : ℕ)) (-1074) = _
  congr 1
  omega

/-- The significand of a double stays where it is. -/
theorem shiftToTargetExponent_of_lt {m : ℕ} {e : ℤ} (hm : m < 2 ^ 53) (he : -1074 ≤ e) :
    shiftToTargetExponent .binary64 m e .exact = (⟨m, false, false⟩, e) := by
  have hlog : m.log2 ≤ 52 := by
    by_cases hzero : m = 0
    · simp [hzero]
    · have := (Nat.log2_lt hzero).2 hm
      omega
  have hshift : (max ((m.log2 : ℤ) + e - 52) (-1074) - e).toNat = 0 := by omega
  rw [shiftToTargetExponent, targetExponent_eq, shiftToExponent, hshift, Nat.cast_zero, add_zero]
  rfl

/-- One bit more than there is room for is cut off, and it is not set. -/
private theorem shiftToTargetExponent_two_pow {e : ℤ} (he : -1074 ≤ e) :
    shiftToTargetExponent .binary64 (2 ^ 53) e .exact = (⟨2 ^ 52, false, false⟩, e + 1) := by
  have hshift : (max ((((2 ^ 53 : ℕ).log2 : ℕ) : ℤ) + e - 52) (-1074) - e).toNat = 1 := by
    rw [Nat.log2_two_pow]
    omega
  rw [shiftToTargetExponent, targetExponent_eq, shiftToExponent, hshift]
  rfl

section

variable {m : ℕ} {e t : ℤ}

/-- What is left of a significand has room. -/
private theorem div_two_pow_lt (ht : t = max (m.log2 + e - 52) (-1074)) :
    m / 2 ^ (t - e).toNat < 2 ^ 53 := by
  have hpow : 2 ^ (m.log2 + 1) ≤ 2 ^ 53 * 2 ^ (t - e).toNat := by
    rw [← pow_add]
    exact Nat.pow_le_pow_right two_pos (by omega)
  exact Nat.div_lt_of_lt_mul (Nat.mul_comm _ _ ▸ Nat.lt_log2_self.trans_le hpow)

/-- It is full unless the exponent is the lowest one. -/
private theorem le_div_two_pow (ht : t = max (m.log2 + e - 52) (-1074)) (he : e ≤ t) :
    2 ^ 52 ≤ m / 2 ^ (t - e).toNat ∨ t = -1074 := by
  by_cases hlowest : t = -1074
  · exact .inr hlowest
  · left
    have hlog : m.log2 = 52 + (t - e).toNat := by omega
    have hm : m ≠ 0 := by
      rintro rfl
      rw [Nat.log2_zero] at hlog
      omega
    rw [Nat.le_div_iff_mul_le (by positivity), ← pow_add, ← hlog]
    exact Nat.log2_self_le hm

theorem full_shiftRight (acc : Accuracy) (ht : t = max (m.log2 + e - 52) (-1074)) (he : e ≤ t) :
    2 ^ 52 ≤ (ExtendedMantissa.ofMantissaAndAccuracy m acc >>> (t - e).toNat).mantissa ∨
      t = -1074 := by
  rw [mantissa_shiftRight, mantissa_ofMantissaAndAccuracy]
  exact le_div_two_pow ht he

/-- Raising the exponent divides the significand. -/
theorem mul_zpow_eq_div (x : ℚ) (he : e ≤ t) : x * 2 ^ e = x / 2 ^ (t - e).toNat * 2 ^ t := by
  have hshift : (((t - e).toNat : ℕ) : ℤ) + e = t := by omega
  rw [← hshift, zpow_add₀ two_ne_zero, zpow_natCast, hshift]
  field_simp

/-- Rounding gives what is left, rounded, with the exponent at which it was cut off. -/
theorem settles_roundWithAccuracy (s : Sign) (acc : Accuracy)
    (ht : t = max (m.log2 + e - 52) (-1074)) (he : e ≤ t) :
    Settles (roundWithAccuracy .binary64 s m e acc) (withSign (s == .negative)
      (((ExtendedMantissa.ofMantissaAndAccuracy m acc >>> (t - e).toNat).roundedMantissa : ℕ) *
        2 ^ t)) := by
  have hfirst : shiftToTargetExponent .binary64 m e acc =
      (ExtendedMantissa.ofMantissaAndAccuracy m acc >>> (t - e).toNat, t) := by
    rw [shiftToTargetExponent, targetExponent_eq, ← ht, shiftToExponent]
    congr 1
    omega
  have hlt := div_two_pow_lt ht
  have hfull := le_div_two_pow ht he
  have hmantissa := mantissa_shiftRight (.ofMantissaAndAccuracy m acc) (t - e).toNat
  rw [mantissa_ofMantissaAndAccuracy] at hmantissa
  have hrounded := mantissa_le_roundedMantissa
    (ExtendedMantissa.ofMantissaAndAccuracy m acc >>> (t - e).toNat)
  rw [hmantissa] at hrounded
  rw [roundWithAccuracy, hfirst]
  dsimp only
  generalize (ExtendedMantissa.ofMantissaAndAccuracy m acc >>> (t - e).toNat).roundedMantissa = n
    at hrounded ⊢
  have hlowest : -1074 ≤ t := by omega
  rcases Nat.lt_or_ge n (2 ^ 53) with hroom | hnone
  · rw [shiftToTargetExponent_of_lt hroom hlowest]
    dsimp only
    split
    · next hzero =>
      rw [hzero, Nat.cast_zero, zero_mul, withSign_zero]
      exact settles_zero s
    · exact settles_finite _ ⟨hroom, hlowest, by omega⟩
  · -- The carry has gone through all bits, which leaves the next power of two.
    obtain rfl : n = 2 ^ 53 := by omega
    rw [shiftToTargetExponent_two_pow hlowest]
    have hcarry : ((2 ^ 53 : ℕ) : ℚ) * 2 ^ t = (2 ^ 52 : ℕ) * 2 ^ (t + 1) := by
      rw [zpow_add_one₀ two_ne_zero]
      push_cast
      ring
    rw [hcarry]
    have hpower : Canonical (2 ^ 52) (t + 1) := ⟨by decide, by omega, .inl le_rfl⟩
    exact settles_finite (Nat.two_pow_pos 52) hpower

end

/-! ### Between doubles -/

/-- An unpacked double stands for a number that no double separates from another number. -/
def Rounds (u : UnpackedFloat) (v : ℚ) : Prop :=
  ∃ r, Settles u r ∧ ∀ y, IsDouble y → (y ≤ v → y ≤ r) ∧ (v ≤ y → r ≤ y)

theorem Settles.rounds {u : UnpackedFloat} {q : ℚ} (h : Settles u q) : Rounds u q :=
  ⟨q, h, fun _ _ => ⟨id, id⟩⟩

/-- A double is a multiple of a power of two, or it is finer and then less than the least full
    significand with that power. -/
theorem IsDouble.multiple_or_small {y : ℚ} (hy : IsDouble y) (t : ℤ) :
    (∃ k : ℤ, y = k * 2 ^ t) ∨ -1074 < t ∧ |y| < 2 ^ 52 * 2 ^ t := by
  obtain ⟨n, e, hn, hlowest, -, rfl⟩ := hy
  rcases le_or_gt t e with hte | hte
  · refine .inl ⟨n * 2 ^ (e - t).toNat, ?_⟩
    have he : e = ((e - t).toNat : ℤ) + t := by omega
    conv_lhs => rw [he]
    rw [zpow_add₀ two_ne_zero, zpow_natCast]
    push_cast
    ring
  · refine .inr ⟨by omega, ?_⟩
    have hn' : |(n : ℚ)| < 2 ^ 53 := by exact_mod_cast hn
    have hpow : (0 : ℚ) < 2 ^ e := by positivity
    calc |(n : ℚ) * 2 ^ e| = |(n : ℚ)| * 2 ^ e := by rw [abs_mul, abs_of_pos hpow]
      _ < 2 ^ 53 * 2 ^ e := mul_lt_mul_of_pos_right hn' hpow
      _ = 2 ^ 52 * 2 ^ (e + 1) := by rw [zpow_add_one₀ two_ne_zero]; ring
      _ ≤ 2 ^ 52 * 2 ^ t :=
        mul_le_mul_of_nonneg_left (zpow_le_zpow_right₀ one_le_two hte) (by positivity)

/-- Where a number is cut off at the place of the last bit, it is rounded over no double. -/
theorem Brackets.not_separated {em : ExtendedMantissa} {x y : ℚ} {t : ℤ} (h : Brackets em x)
    (hfull : 2 ^ 52 ≤ em.mantissa ∨ t = -1074) (hy : IsDouble y) :
    (y ≤ x * 2 ^ t → y ≤ em.roundedMantissa * 2 ^ t) ∧
    (x * 2 ^ t ≤ y → em.roundedMantissa * 2 ^ t ≤ y) := by
  have hpow : (0 : ℚ) < 2 ^ t := by positivity
  rcases hy.multiple_or_small t with ⟨k, rfl⟩ | ⟨hlowest, hsmall⟩
  · refine ⟨fun hle => ?_, fun hle => ?_⟩
    · have hrounded := h.le_roundedMantissa (le_of_mul_le_mul_right hle hpow)
      exact mul_le_mul_of_nonneg_right (by exact_mod_cast hrounded) hpow.le
    · have hrounded := h.roundedMantissa_le (le_of_mul_le_mul_right hle hpow)
      exact mul_le_mul_of_nonneg_right (by exact_mod_cast hrounded) hpow.le
  · -- The double is finer than the last place, so it is less than anything with a full significand.
    have hmantissa : (2 : ℚ) ^ 52 ≤ em.mantissa := by
      exact_mod_cast hfull.resolve_right (by omega)
    have hrounded : (em.mantissa : ℚ) ≤ em.roundedMantissa := by
      exact_mod_cast (mantissa_le_roundedMantissa em).1
    have hless : y < 2 ^ 52 * 2 ^ t := (le_abs_self y).trans_lt hsmall
    refine ⟨fun _ => ?_, fun hle => ?_⟩
    · exact hless.le.trans (mul_le_mul_of_nonneg_right (hmantissa.trans hrounded) hpow.le)
    · exact absurd (lt_of_mul_lt_mul_right (hle.trans_lt hless) hpow.le)
        (not_lt.2 (hmantissa.trans h.le))

/-- Rounding what is known up to its accuracy. -/
theorem rounds_roundWithAccuracy (s : Sign) {m : ℕ} {e : ℤ} {acc : Accuracy} {x : ℚ}
    (hx : Brackets (.ofMantissaAndAccuracy m acc) x) (he : 52 ≤ m.log2 ∨ e ≤ -1074) :
    Rounds (roundWithAccuracy .binary64 s m e acc) (withSign (s == .negative) (x * 2 ^ e)) := by
  obtain ⟨t, ht⟩ : ∃ t : ℤ, t = max (m.log2 + e - 52) (-1074) := ⟨_, rfl⟩
  have hte : e ≤ t := by omega
  have hbrackets := hx.shiftRight (t - e).toNat
  have hfull := full_shiftRight acc ht hte
  refine ⟨_, settles_roundWithAccuracy s acc ht hte, fun y hy => ?_⟩
  rw [mul_zpow_eq_div x hte]
  cases s with
  | positive => exact hbrackets.not_separated hfull hy
  | negative =>
    -- A negative number lies between the opposite doubles.
    obtain ⟨hle, hge⟩ := hbrackets.not_separated hfull hy.neg
    exact ⟨fun h => le_neg_of_le_neg (hge (le_neg_of_le_neg h)),
      fun h => neg_le_of_neg_le (hle (neg_le_of_neg_le h))⟩

/-- An unpacked double stands for a number, or comes of rounding one that is known exactly. -/
def Rounded (u : UnpackedFloat) (v : ℚ) : Prop :=
  Settles u v ∨ ∃ (s : Sign) (m : ℕ) (e : ℤ), (52 ≤ m.log2 ∨ e ≤ -1074) ∧
    u = roundWithAccuracy .binary64 s m e .exact ∧ v = withSign (s == .negative) (m * 2 ^ e)

theorem rounded_exact (s : Sign) {m : ℕ} {e : ℤ} (he : 52 ≤ m.log2 ∨ e ≤ -1074) :
    Rounded (roundWithAccuracy .binary64 s m e .exact) (withSign (s == .negative) (m * 2 ^ e)) :=
  .inr ⟨s, m, e, he, rfl, rfl⟩

theorem Settles.rounded {u : UnpackedFloat} {q : ℚ} (h : Settles u q) : Rounded u q := .inl h

theorem Rounded.rounds {u : UnpackedFloat} {v : ℚ} (h : Rounded u v) : Rounds u v := by
  rcases h with hsettles | ⟨s, m, e, he, rfl, rfl⟩
  · exact hsettles.rounds
  · exact rounds_roundWithAccuracy s (.exact m) he

/-- Lowering the exponent lengthens the significand. -/
theorem decreaseExponent_eq (m : ℕ) (e t : ℤ) :
    decreaseExponent m e t = (m * 2 ^ (e - t).toNat, e - (e - t).toNat) := by
  rw [decreaseExponent, Nat.shiftLeft_eq]

theorem mul_two_pow_mul_zpow (n : ℚ) {e t : ℤ} (h : t ≤ e) :
    n * 2 ^ (e - t).toNat * 2 ^ t = n * 2 ^ e := by
  have he : e = ((e - t).toNat : ℤ) + t := by omega
  conv_rhs => rw [he]
  rw [zpow_add₀ two_ne_zero, zpow_natCast, mul_assoc]

private theorem le_log2_mul_two_pow {m n k : ℕ} (hm : 0 < m) (h : n ≤ m.log2 + k) :
    n ≤ (m * 2 ^ k).log2 := by
  rw [Nat.le_log2 (by positivity)]
  calc 2 ^ n ≤ 2 ^ (m.log2 + k) := Nat.pow_le_pow_right two_pos h
    _ = 2 ^ m.log2 * 2 ^ k := pow_add _ _ _
    _ ≤ m * 2 ^ k := Nat.mul_le_mul_right _ (Nat.log2_self_le hm.ne')

/-- Rounding a whole number of units. -/
theorem rounded_round (s : Sign) {m : ℕ} (hm : 0 < m) (e : ℤ) :
    Rounded (UnpackedFloat.round .binary64 s m e) (withSign (s == .negative) (m * 2 ^ e)) := by
  obtain ⟨t, ht⟩ : ∃ t : ℤ, t = max (m.log2 + e - 52) (-1074) := ⟨_, rfl⟩
  obtain ⟨k, hk⟩ : ∃ k : ℕ, k = (e - t).toNat := ⟨_, rfl⟩
  have hroom : 52 ≤ (m * 2 ^ k).log2 ∨ e - k ≤ -1074 := by
    by_cases hlowest : e - k ≤ -1074
    · exact .inr hlowest
    · exact .inl (le_log2_mul_two_pow hm (by omega))
  have hvalue : ((m * 2 ^ k : ℕ) : ℚ) * 2 ^ (e - k : ℤ) = m * 2 ^ e := by
    rw [zpow_sub₀ two_ne_zero, zpow_natCast]
    push_cast
    field_simp
  have hround : UnpackedFloat.round .binary64 s m e =
      roundWithAccuracy .binary64 s (m * 2 ^ k) (e - k) .exact := by
    rw [UnpackedFloat.round, targetExponent_eq, ← ht, decreaseExponent_eq, ← hk]
  rw [hround, ← hvalue]
  exact rounded_exact s hroom

theorem rounded_normalize (n e : ℤ) (s : Sign) :
    Rounded (UnpackedFloat.normalize .binary64 n e s) (n * 2 ^ e) := by
  rw [UnpackedFloat.normalize]
  rcases lt_trichotomy n 0 with hneg | rfl | hpos
  · rw [compare_lt_iff_lt.2 hneg]
    obtain ⟨m, rfl⟩ : ∃ m : ℕ, n = -m := ⟨(-n).toNat, by omega⟩
    have hrounded := rounded_round .negative (by omega : 0 < m) e
    rw [Int.cast_neg, Int.cast_natCast, neg_mul]
    rwa [Int.neg_neg]
  · rw [compare_eq_iff_eq.2 rfl, Int.cast_zero, zero_mul]
    exact (settles_zero s).rounded
  · rw [compare_gt_iff_gt.2 hpos]
    obtain ⟨m, rfl⟩ : ∃ m : ℕ, n = m := ⟨n.toNat, by omega⟩
    rw [Int.cast_natCast]
    exact rounded_round .positive (by omega : 0 < m) e

/-! ### The operations on unpacked doubles -/

theorem Settles.neg {u : UnpackedFloat} {q : ℚ} (h : Settles u q) : Settles u.neg (-q) := by
  rcases h.zero_or_finite with ⟨s, rfl, rfl⟩ | ⟨s, m, e, hm, rfl, hcanonical, rfl⟩
  · rw [neg_zero]
    exact settles_zero (-s)
  · have hneg : -withSign (s == .negative) ((m : ℚ) * 2 ^ e) =
        withSign (-s == .negative) (m * 2 ^ e) := by
      cases s
      · exact neg_neg _
      · rfl
    rw [hneg]
    exact settles_finite hm hcanonical

section

variable {u v : UnpackedFloat} {p q : ℚ}

/-- What a significand with a sign counts for, in smaller units. -/
theorem withSign_mul_two_pow (s : Sign) (m : ℕ) {e t : ℤ} (h : t ≤ e) :
    ((s.apply (m * 2 ^ (e - t).toNat : ℕ) : ℤ) : ℚ) * 2 ^ t =
      withSign (s == .negative) (m * 2 ^ e) := by
  rw [← mul_two_pow_mul_zpow m h]
  cases s
  · show ((-((m * 2 ^ (e - t).toNat : ℕ) : ℤ) : ℤ) : ℚ) * 2 ^ t = -(_ : ℚ)
    push_cast
    ring
  · show ((((m * 2 ^ (e - t).toNat : ℕ) : ℤ)) : ℚ) * 2 ^ t = _
    push_cast
    rfl

theorem rounded_add (hu : Settles u p) (hv : Settles v q) :
    Rounded (UnpackedFloat.add .binary64 u v) (p + q) := by
  rcases hu.zero_or_finite with ⟨s, rfl, rfl⟩ | ⟨s, m, e, hm, rfl, hcanonical, rfl⟩ <;>
    rcases hv.zero_or_finite with ⟨s', rfl, rfl⟩ | ⟨s', m', e', hm', rfl, hcanonical', rfl⟩
  · rw [UnpackedFloat.add, add_zero]
    split
    · exact (settles_zero s).rounded
    · exact (settles_zero .positive).rounded
  · rw [zero_add]
    exact hv.rounded
  · rw [add_zero]
    exact hu.rounded
  · -- Both are counted in the smaller unit.
    rw [UnpackedFloat.add]
    simp only [decreaseExponent_eq]
    rw [← withSign_mul_two_pow s m (min_le_left e e'),
      ← withSign_mul_two_pow s' m' (min_le_right e e'), ← add_mul, ← Int.cast_add]
    exact rounded_normalize _ _ _

/-- Subtracting is adding the opposite double. -/
theorem sub_eq_add (u v : UnpackedFloat) :
    UnpackedFloat.sub .binary64 u v = UnpackedFloat.add .binary64 u v.neg := by
  cases u with
  | notANumber => rfl
  | infinity s => cases v <;> rfl
  | zero s => cases v <;> rfl
  | finite s m e hm =>
    cases v with
    | notANumber | infinity | zero => rfl
    | finite s' m' e' hm' =>
      have happly (n : ℤ) : (-s').apply n = -s'.apply n := by
        cases s'
        · exact (neg_neg n).symm
        · rfl
      simp only [UnpackedFloat.sub, UnpackedFloat.add, UnpackedFloat.neg, happly,
        Int.sub_eq_add_neg]

theorem rounded_sub (hu : Settles u p) (hv : Settles v q) :
    Rounded (UnpackedFloat.sub .binary64 u v) (p - q) := by
  rw [sub_eq_add, sub_eq_add_neg]
  exact rounded_add hu hv.neg

private theorem withSign_mul_withSign (s s' : Sign) (a b : ℚ) :
    withSign (s == .negative) a * withSign (s' == .negative) b =
      withSign (s * s' == .negative) (a * b) := by
  cases s <;> cases s'
  case negative.negative => exact neg_mul_neg a b
  case negative.positive => exact neg_mul a b
  case positive.negative => exact mul_neg a b
  case positive.positive => rfl

theorem rounded_mul (hu : Settles u p) (hv : Settles v q) :
    Rounded (UnpackedFloat.mul .binary64 u v) (p * q) := by
  rcases hu.zero_or_finite with ⟨s, rfl, rfl⟩ | ⟨s, m, e, hm, rfl, hcanonical, rfl⟩ <;>
    rcases hv.zero_or_finite with ⟨s', rfl, rfl⟩ | ⟨s', m', e', hm', rfl, hcanonical', rfl⟩
  · rw [mul_zero]
    exact (settles_zero _).rounded
  · rw [zero_mul]
    exact (settles_zero _).rounded
  · rw [mul_zero]
    exact (settles_zero _).rounded
  · -- One full significand is enough to fill that of the product.
    have hroom : 52 ≤ (m * m').log2 ∨ e + e' ≤ -1074 := by
      rw [Nat.le_log2 (Nat.mul_pos hm hm').ne']
      rcases hcanonical.full with hfull | rfl
      · exact .inl (hfull.trans (Nat.le_mul_of_pos_right m hm'))
      · rcases hcanonical'.full with hfull | rfl
        · exact .inl (hfull.trans (Nat.le_mul_of_pos_left m' hm))
        · exact .inr (by decide)
    have hvalue : (m : ℚ) * 2 ^ e * (m' * 2 ^ e') = (m * m' : ℕ) * 2 ^ (e + e') := by
      rw [zpow_add₀ two_ne_zero]
      push_cast
      ring
    rw [withSign_mul_withSign, hvalue]
    exact rounded_exact (s * s') hroom

/-! ### Quotients -/

/-- A quotient of whole numbers lies where its remainder tells. -/
theorem brackets_div (n : ℕ) {d : ℕ} (hd : 0 < d) :
    Brackets (.ofMantissaAndAccuracy (n / d) (accuracyOfFraction (n % d) d)) (n / d) := by
  have hdiv : (d : ℚ) * (n / d : ℕ) + (n % d : ℕ) = n := by exact_mod_cast Nat.div_add_mod n d
  have hd' : (0 : ℚ) < d := by exact_mod_cast hd
  rw [accuracyOfFraction]
  split
  · next hzero =>
    have hvalue : (n : ℚ) / d = (n / d : ℕ) := by
      rw [div_eq_iff hd'.ne', ← hdiv, hzero, Nat.cast_zero, add_zero, mul_comm]
    rw [hvalue]
    exact .exact (n / d)
  · next hne =>
    have hpos : (0 : ℚ) < (n % d : ℕ) := by exact_mod_cast Nat.pos_of_ne_zero hne
    have hless : ((n % d : ℕ) : ℚ) < d := by exact_mod_cast Nat.mod_lt n hd
    have hlo : ((n / d : ℕ) : ℚ) < n / d := by
      rw [lt_div_iff₀ hd']
      linarith
    have hhi : (n : ℚ) / d < (n / d : ℕ) + 1 := by
      rw [div_lt_iff₀ hd']
      linarith
    cases compare (2 * (n % d)) d <;> exact .inexact rfl hlo hhi

theorem rounds_div (hu : Settles u p) (hv : Settles v q) (hq : q ≠ 0) :
    Rounds (UnpackedFloat.div .binary64 u v) (p / q) := by
  rcases hv.zero_or_finite with ⟨s', rfl, rfl⟩ | ⟨s', m', e', hm', rfl, hcanonical', rfl⟩
  · exact absurd rfl hq
  rcases hu.zero_or_finite with ⟨s, rfl, rfl⟩ | ⟨s, m, e, hm, rfl, hcanonical, rfl⟩
  · rw [zero_div]
    exact (settles_zero _).rounds
  obtain ⟨t, ht⟩ : ∃ t : ℤ,
      t = min (e - e') (max (m.log2 + e - (m'.log2 + e') - 53) (-1074)) := ⟨_, rfl⟩
  have htarget : Format.binary64.targetExponent (totalExponent m e - totalExponent m' e') =
      max (m.log2 + e - (m'.log2 + e') - 53) (-1074) := by
    show max ((m.log2 : ℤ) + 1 + e - (m'.log2 + 1 + e') - (53 : ℕ)) (-1074) = _
    congr 1
    omega
  -- The quotient has a full significand, unless it is cut off at the lowest exponent.
  have hroom : 52 ≤ (m * 2 ^ (e - e' - t).toNat / m').log2 ∨ t ≤ -1074 := by
    by_cases hlowest : t ≤ -1074
    · exact .inr hlowest
    · left
      have hpow : 2 ^ 52 * 2 ^ (m'.log2 + 1) ≤ 2 ^ m.log2 * 2 ^ (e - e' - t).toNat := by
        rw [← pow_add, ← pow_add]
        exact Nat.pow_le_pow_right two_pos (by omega)
      have hquotient : 2 ^ 52 ≤ m * 2 ^ (e - e' - t).toNat / m' := by
        rw [Nat.le_div_iff_mul_le hm']
        calc 2 ^ 52 * m' ≤ 2 ^ 52 * 2 ^ (m'.log2 + 1) :=
              Nat.mul_le_mul_left _ Nat.lt_log2_self.le
          _ ≤ 2 ^ m.log2 * 2 ^ (e - e' - t).toNat := hpow
          _ ≤ m * 2 ^ (e - e' - t).toNat := Nat.mul_le_mul_right _ (Nat.log2_self_le hm.ne')
      rwa [Nat.le_log2 (by omega)]
  have hrounds := rounds_roundWithAccuracy (s / s')
    (brackets_div (m * 2 ^ (e - e' - t).toNat) hm') hroom
  have hvalue :
      ((m * 2 ^ (e - e' - t).toNat : ℕ) : ℚ) / m' * 2 ^ t = m * 2 ^ e / (m' * 2 ^ e') := by
    push_cast
    rw [div_mul_eq_mul_div, mul_two_pow_mul_zpow m (by omega : t ≤ e - e'), zpow_sub₀ two_ne_zero]
    field_simp
  have hsign :
      withSign (s == .negative) ((m : ℚ) * 2 ^ e) / withSign (s' == .negative) (m' * 2 ^ e') =
        withSign (s / s' == .negative) (m * 2 ^ e / (m' * 2 ^ e')) := by
    cases s <;> cases s'
    case negative.negative => exact neg_div_neg_eq _ _
    case negative.positive => exact neg_div _ _
    case positive.negative => exact div_neg _
    case positive.positive => rfl
  rw [hsign, ← hvalue]
  simp only [UnpackedFloat.div, divCore, Nat.shiftLeft_eq, htarget, ← ht]
  exact hrounds

end

/-! ### The operations on doubles -/

/-- A double stands for a number between two others. -/
def Within (x : Float) (lo hi : ℚ) : Prop := ∃ q, value? x = some q ∧ lo ≤ q ∧ q ≤ hi

/-- A double lies between the same finite doubles as a number. -/
def Approximates (x : Float) (v : ℚ) : Prop :=
  ∀ lo hi, IsDouble lo → IsDouble hi → lo ≤ v → v ≤ hi → Within x lo hi

/-- A number that is a double is not changed. -/
theorem Approximates.exact {x : Float} {v : ℚ} (h : Approximates x v) (hv : IsDouble v) :
    value? x = some v := by
  obtain ⟨q, hq, hlo, hhi⟩ := h v v hv hv le_rfl le_rfl
  rwa [le_antisymm hhi hlo] at hq

theorem approximates_pack {u : UnpackedFloat} {v : ℚ} (h : Rounds u v) :
    Approximates ⟨.pack u⟩ v := by
  obtain ⟨r, hr, hbetween⟩ := h
  intro lo hi hlo hhi hle hge
  have hle' : lo ≤ r := (hbetween lo hlo).1 hle
  have hge' : r ≤ hi := (hbetween hi hhi).2 hge
  -- It is in the range of the doubles since its bounds are.
  have hrange : |r| < 2 ^ (1024 : ℤ) :=
    abs_lt.2 ⟨(abs_lt.1 hlo.abs_lt).1.trans_le hle', hge'.trans_lt (abs_lt.1 hhi.abs_lt).2⟩
  exact ⟨r, value?_pack hr hrange, hle', hge'⟩

section

variable {x y : Float} {p q : ℚ} (hx : value? x = some p) (hy : value? y = some q)

include hx in
theorem value?_neg : value? (-x) = some (-p) :=
  value?_pack (settles_unpack hx).neg (isDouble_of_value? hx).neg.abs_lt

include hx hy

theorem approximates_add : Approximates (x + y) (p + q) :=
  approximates_pack (rounded_add (settles_unpack hx) (settles_unpack hy)).rounds

theorem approximates_sub : Approximates (x - y) (p - q) :=
  approximates_pack (rounded_sub (settles_unpack hx) (settles_unpack hy)).rounds

theorem approximates_mul : Approximates (x * y) (p * q) :=
  approximates_pack (rounded_mul (settles_unpack hx) (settles_unpack hy)).rounds

theorem approximates_div (hq : q ≠ 0) : Approximates (x / y) (p / q) :=
  approximates_pack (rounds_div (settles_unpack hx) (settles_unpack hy) hq)

end

end SolarTwin.Binary64

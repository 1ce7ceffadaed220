import SolarTwin.Proofs.Binary64.Rounding

namespace SolarTwin.Binary64

open Float.Model (UnpackedFloat)
open Float.Model.UnpackedFloat

/-!
# Nearest doubles

The first bit that is cut off counts for a half of the last place and the bits behind it for less,
so rounding by them is off by at most a half.  Hence no double is nearer to an exact result than the
one that comes of rounding it.

* `Tells` — a significand with two more bits tells on which side of a half a number lies;
* `Nearest` — an unpacked double stands for a number that no double is nearer to;
* `Rounded.nearest` and `exists_nearest_sub` — what comes of rounding is nearest, and so is every
  difference;
* `IsDouble.sub_multiple` and `IsDouble.eq_of_lt_add` — up to a power of two the doubles are close
  to each other, and beyond it they are apart.
-/

/-! ### Halves -/

/-- What the first bit that is cut off counts for. -/
def half (bit : Bool) : ℚ := if bit then 1 / 2 else 0

/-- A significand with two more bits stands for itself, a half if the first of them is set, and less
    than a half, which is nothing exactly if the second one is not. -/
def Tells (em : ExtendedMantissa) (x : ℚ) : Prop :=
  ∃ rest : ℚ, 0 ≤ rest ∧ rest < 1 / 2 ∧ (em.stickyBit = false ↔ rest = 0) ∧
    x = em.mantissa + half em.roundBit + rest

namespace Tells

variable {em : ExtendedMantissa} {x : ℚ}

theorem exact (m : ℕ) : Tells ⟨m, false, false⟩ m :=
  ⟨0, le_rfl, by norm_num, by simp, by simp [half]⟩

theorem le (h : Tells em x) : (em.mantissa : ℚ) ≤ x := by
  obtain ⟨rest, hrest, -, -, rfl⟩ := h
  cases em.roundBit <;> simp only [half, if_true, Bool.false_eq_true, if_false] <;> linarith

/-- Cutting off one more bit halves the number. -/
theorem shiftRightOne (h : Tells em x) : Tells em.shiftRightOne (x / 2) := by
  obtain ⟨rest, hrest, hless, hsticky, rfl⟩ := h
  have hm : (em.mantissa : ℚ) = 2 * ((em.mantissa / 2 : ℕ) + half (em.mantissa % 2 != 0)) := by
    obtain ⟨k, hk | hk⟩ := Nat.even_or_odd' em.mantissa
    · have hodd : (2 * k % 2 != 0) = false := by simp
      rw [hk, hodd, Nat.mul_div_cancel_left k two_pos, half]
      push_cast
      simp
    · have hodd : ((2 * k + 1) % 2 != 0) = true := by simp
      have hdiv : (2 * k + 1) / 2 = k := by omega
      rw [hk, hodd, hdiv, half]
      push_cast
      simp
      ring
  -- What counted for a half now counts for a quarter, which is left over with the rest.
  refine ⟨half em.roundBit / 2 + rest / 2, ?_, ?_, ?_, ?_⟩
  · cases em.roundBit <;> simp [half] <;> linarith
  · cases em.roundBit <;> simp [half] <;> linarith
  · show (em.roundBit || em.stickyBit) = false ↔ _
    cases em.roundBit
    · simp [half, hsticky]
    · have hpos : (1 / 2 : ℚ) / 2 + rest / 2 ≠ 0 := by linarith
      simpa [half] using hpos
  · show _ = ((em.mantissa / 2 : ℕ) : ℚ) + half (em.mantissa % 2 != 0) + _
    rw [hm]
    ring

theorem shiftRight (h : Tells em x) (n : ℕ) : Tells (em >>> n) (x / 2 ^ n) := by
  induction n with
  | zero =>
    rw [pow_zero, div_one]
    exact h
  | succ n ih =>
    have hshift : em >>> (n + 1) = (em >>> n).shiftRightOne := rfl
    rw [hshift, pow_succ, ← div_div]
    exact ih.shiftRightOne

/-- Rounding is off by at most a half. -/
private theorem abs_roundedMantissa_sub_le (h : Tells em x) :
    |(em.roundedMantissa : ℚ) - x| ≤ 1 / 2 := by
  obtain ⟨rest, hrest, hless, hsticky, rfl⟩ := h
  obtain ⟨m, round, sticky⟩ := em
  rw [abs_le]
  cases round <;> cases sticky <;>
    simp only [ExtendedMantissa.roundedMantissa, ExtendedMantissa.accuracy,
      Accuracy.roundToNearestEven, half, if_true, Bool.false_eq_true, if_false, true_iff,
      Nat.cast_add, Nat.cast_one] at hsticky ⊢
  case false.false => constructor <;> linarith
  case false.true => constructor <;> linarith
  case true.false =>
    -- A half is between two whole numbers, of which the even one is taken.
    have hlo : (0 : ℚ) ≤ (m % 2 : ℕ) := Nat.cast_nonneg _
    have hhi : ((m % 2 : ℕ) : ℚ) ≤ 1 := by exact_mod_cast Nat.lt_succ_iff.1 (Nat.mod_lt m two_pos)
    constructor <;> linarith
  case true.true => constructor <;> linarith

/-- So no whole number is nearer. -/
theorem nearest (h : Tells em x) (k : ℤ) :
    |(em.roundedMantissa : ℚ) - x| ≤ |k - x| := by
  by_cases hk : k = em.roundedMantissa
  · rw [hk, Int.cast_natCast]
  · have hapart : (1 : ℚ) ≤ |(k : ℚ) - em.roundedMantissa| := by
      exact_mod_cast Int.one_le_abs (sub_ne_zero.2 hk)
    have htriangle := abs_sub_le (k : ℚ) x em.roundedMantissa
    rw [abs_sub_comm x] at htriangle
    have := h.abs_roundedMantissa_sub_le
    linarith

/-- Where a number is cut off at the place of the last bit, no double is nearer to it than what it
    is rounded to. -/
theorem nearest_double {y : ℚ} {t : ℤ} (h : Tells em x)
    (hfull : 2 ^ 52 ≤ em.mantissa ∨ t = -1074) (hy : IsDouble y) :
    |em.roundedMantissa * 2 ^ t - x * 2 ^ t| ≤ |y - x * 2 ^ t| := by
  have hpow : (0 : ℚ) < 2 ^ t := by positivity
  have hscale (a : ℚ) : |a * 2 ^ t - x * 2 ^ t| = |a - x| * 2 ^ t := by
    rw [← sub_mul, abs_mul, abs_of_pos hpow]
  rcases hy.multiple_or_small t with ⟨k, rfl⟩ | ⟨hlowest, hsmall⟩
  · rw [hscale, hscale]
    exact mul_le_mul_of_nonneg_right (h.nearest k) hpow.le
  · -- The double is finer than the last place, so it is less than the significand that is left.
    have hmantissa : (2 : ℚ) ^ 52 ≤ em.mantissa := by
      exact_mod_cast hfull.resolve_right (by omega)
    have hleft : y ≤ em.mantissa * 2 ^ t :=
      ((le_abs_self y).trans_lt hsmall).le.trans (mul_le_mul_of_nonneg_right hmantissa hpow.le)
    have hcut : (em.mantissa : ℚ) * 2 ^ t ≤ x * 2 ^ t := mul_le_mul_of_nonneg_right h.le hpow.le
    calc |(em.roundedMantissa : ℚ) * 2 ^ t - x * 2 ^ t|
        ≤ |((em.mantissa : ℤ) : ℚ) * 2 ^ t - x * 2 ^ t| := by
          rw [hscale, hscale]
          exact mul_le_mul_of_nonneg_right (h.nearest em.mantissa) hpow.le
      _ = x * 2 ^ t - em.mantissa * 2 ^ t := by
          rw [Int.cast_natCast, abs_sub_comm, abs_of_nonneg (sub_nonneg.2 hcut)]
      _ ≤ |y - x * 2 ^ t| := by
          rw [abs_sub_comm]
          exact (sub_le_sub_left hleft _).trans (le_abs_self _)

end Tells

/-! ### Nearest doubles -/

/-- An unpacked double stands for a number that is as near to another one as any double. -/
def Nearest (u : UnpackedFloat) (v : ℚ) : Prop :=
  ∃ r, Settles u r ∧ ∀ y, IsDouble y → |r - v| ≤ |y - v|

/-- What comes of rounding is nearest. -/
theorem Rounded.nearest {u : UnpackedFloat} {v : ℚ} (h : Rounded u v) : Nearest u v := by
  rcases h with hsettles | ⟨s, m, e, he, rfl, rfl⟩
  · refine ⟨v, hsettles, fun y _ => ?_⟩
    rw [sub_self, abs_zero]
    exact abs_nonneg _
  · obtain ⟨t, ht⟩ : ∃ t : ℤ, t = max (m.log2 + e - 52) (-1074) := ⟨_, rfl⟩
    have hte : e ≤ t := by omega
    have htells := (Tells.exact m).shiftRight (t - e).toNat
    have hfull := full_shiftRight .exact ht hte
    refine ⟨_, settles_roundWithAccuracy s .exact ht hte, fun y hy => ?_⟩
    rw [mul_zpow_eq_div (m : ℚ) hte]
    cases s with
    | positive => exact htells.nearest_double hfull hy
    | negative =>
      -- A negative number is as far from a double as its opposite is from the opposite double.
      have hopposite (a b : ℚ) : |-a - b| = |a - -b| := by
        rw [← abs_neg, neg_sub, sub_neg_eq_add, sub_neg_eq_add, add_comm]
      show |-_ - -_| ≤ |y - -_|
      rw [hopposite, neg_neg, ← neg_neg y, hopposite, neg_neg]
      exact htells.nearest_double hfull hy.neg

/-- What is nearest to a number between two doubles is packed as it is, and is between them. -/
private theorem Nearest.exists_value?_pack {u : UnpackedFloat} {v lo hi : ℚ} (h : Nearest u v)
    (hlo : IsDouble lo) (hhi : IsDouble hi) (hle : lo ≤ v) (hge : v ≤ hi) :
    ∃ r, value? ⟨.pack u⟩ = some r ∧ lo ≤ r ∧ r ≤ hi ∧ ∀ y, IsDouble y → |r - v| ≤ |y - v| := by
  obtain ⟨r, hr, hnearest⟩ := h
  have hle' : lo ≤ r := by
    have hnear := hnearest lo hlo
    rw [abs_sub_comm lo, abs_of_nonneg (sub_nonneg.2 hle)] at hnear
    have := neg_le_of_abs_le hnear
    linarith
  have hge' : r ≤ hi := by
    have hnear := hnearest hi hhi
    rw [abs_of_nonneg (sub_nonneg.2 hge)] at hnear
    have := le_of_abs_le hnear
    linarith
  have hrange : |r| < 2 ^ (1024 : ℤ) :=
    abs_lt.2 ⟨(abs_lt.1 hlo.abs_lt).1.trans_le hle', hge'.trans_lt (abs_lt.1 hhi.abs_lt).2⟩
  exact ⟨r, value?_pack hr hrange, hle', hge', hnearest⟩

/-- A difference between two doubles is nearest to what it should be. -/
theorem exists_nearest_sub {x y : Float} {p q lo hi : ℚ} (hx : value? x = some p)
    (hy : value? y = some q) (hlo : IsDouble lo) (hhi : IsDouble hi) (hle : lo ≤ p - q)
    (hge : p - q ≤ hi) :
    ∃ r, value? (x - y) = some r ∧ lo ≤ r ∧ r ≤ hi ∧
      ∀ d, IsDouble d → |r - (p - q)| ≤ |d - (p - q)| :=
  (rounded_sub (settles_unpack hx) (settles_unpack hy)).nearest.exists_value?_pack hlo hhi hle hge

/-! ### How far apart doubles are -/

/-- Beyond a power of two every double is a multiple of what is 53 bits further down. -/
theorem IsDouble.multiple_of_lt {t : ℚ} (h : IsDouble t) {k : ℤ} (ht : 2 ^ (53 + k) < |t|) :
    ∃ d : ℤ, t = d * 2 ^ (k + 1) := by
  rcases h.multiple_or_small (k + 1) with hmultiple | ⟨-, hsmall⟩
  · exact hmultiple
  · have hpow : (2 : ℚ) ^ (52 : ℕ) * 2 ^ (k + 1) = 2 ^ (53 + k) := by
      rw [← zpow_natCast, ← zpow_add₀ two_ne_zero]
      congr 1
      push_cast
      ring
    rw [hpow] at hsmall
    exact absurd ht hsmall.not_gt

/-- So the next double below is at least as far away as the units are. -/
theorem IsDouble.eq_of_lt_add {r t : ℚ} (hr : IsDouble r) (ht : IsDouble t) {k : ℤ}
    (hbeyond : 2 ^ (53 + k) < t) (hle : r ≤ t) (hnear : t < r + 2 ^ (k + 1)) : r = t := by
  have hunit : (0 : ℚ) < 2 ^ (k + 1) := by positivity
  have hpow : (2 : ℚ) ^ (53 + k) = (2 ^ 52 : ℤ) * 2 ^ (k + 1) := by
    rw [Int.cast_pow, Int.cast_ofNat, ← zpow_natCast, ← zpow_add₀ two_ne_zero]
    congr 1
    push_cast
    ring
  obtain ⟨a, rfl⟩ := ht.multiple_of_lt (hbeyond.trans_le (le_abs_self t))
  -- The next multiple below is still beyond the power, and nothing is left between the two.
  have hafter : (2 ^ 52 : ℤ) + 1 ≤ a := by
    rw [hpow, mul_lt_mul_iff_left₀ hunit] at hbeyond
    exact_mod_cast hbeyond
  have hbefore : (2 : ℚ) ^ (53 + k) < r := by
    have hstep : ((2 ^ 52 : ℤ) : ℚ) * 2 ^ (k + 1) ≤ (a - 1) * 2 ^ (k + 1) :=
      mul_le_mul_of_nonneg_right (by exact_mod_cast (by omega : (2 ^ 52 : ℤ) ≤ a - 1)) hunit.le
    rw [hpow]
    linarith
  obtain ⟨b, rfl⟩ := hr.multiple_of_lt (hbefore.trans_le (le_abs_self r))
  rw [mul_le_mul_iff_left₀ hunit] at hle
  rw [← add_one_mul, mul_lt_mul_iff_left₀ hunit] at hnear
  have hba : b ≤ a := by exact_mod_cast hle
  have hab : a < b + 1 := by exact_mod_cast hnear
  rw [le_antisymm hba (Int.lt_add_one_iff.1 hab)]

/-- Up to a power of two a double is a multiple of a unit that is no greater than 53 bits further
    down. -/
theorem IsDouble.exists_unit {t : ℚ} (h : IsDouble t) {k : ℤ} (hlowest : -1074 ≤ k)
    (ht : |t| ≤ 2 ^ (53 + k)) :
    ∃ n e : ℤ, |n| ≤ 2 ^ 53 ∧ -1074 ≤ e ∧ e ≤ k ∧ t = n * 2 ^ e := by
  obtain ⟨n, e, hn, he, -, rfl⟩ := h
  rcases le_or_gt e k with hek | hek
  · exact ⟨n, e, hn.le, he, hek, rfl⟩
  · have hunit : (0 : ℚ) < 2 ^ k := by positivity
    have hvalue : (n : ℚ) * 2 ^ e = (n * 2 ^ (e - k).toNat : ℤ) * 2 ^ k := by
      rw [← mul_two_pow_mul_zpow n hek.le]
      push_cast
      rfl
    refine ⟨n * 2 ^ (e - k).toNat, k, ?_, hlowest, le_rfl, hvalue⟩
    rw [hvalue, abs_mul, abs_of_pos hunit, zpow_add₀ two_ne_zero] at ht
    exact_mod_cast le_of_mul_le_mul_right ht hunit

/-- Up to a power of two, what is left of a double is one if a multiple of what is 53 bits further
    down is taken from it. -/
theorem IsDouble.sub_multiple {t : ℚ} (h : IsDouble t) {k : ℤ} (hlowest : -1074 ≤ k) (hk : k ≤ 971)
    (ht : |t| ≤ 2 ^ (53 + k)) {d : ℤ} (hless : |t - d * 2 ^ k| < |t|) :
    IsDouble (t - d * 2 ^ k) := by
  obtain ⟨n, e, hn, he, hek, rfl⟩ := h.exists_unit hlowest ht
  have hunit : (0 : ℚ) < 2 ^ e := by positivity
  have hleft : (n : ℚ) * 2 ^ e - d * 2 ^ k = (n - d * 2 ^ (k - e).toNat : ℤ) * 2 ^ e := by
    rw [← mul_two_pow_mul_zpow d hek]
    push_cast
    ring
  -- Both are multiples of the smaller unit, and there are less of them in what is left.
  rw [hleft, abs_mul, abs_mul, mul_lt_mul_iff_left₀ (abs_pos.2 hunit.ne')] at hless
  have hless' : |n - d * 2 ^ (k - e).toNat| < |n| := by exact_mod_cast hless
  exact ⟨_, e, hless'.trans_le hn, he, hek.trans hk, hleft⟩

end SolarTwin.Binary64

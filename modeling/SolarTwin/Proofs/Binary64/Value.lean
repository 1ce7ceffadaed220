import Mathlib
import SolarTwin.Binary64.Parts

namespace SolarTwin.Binary64

open Float.Model (Format UnpackedFloat)
open Float.Model.UnpackedFloat (Sign)

/-!
# The numbers that doubles stand for

A finite double stands for a rational number, which its parts give.  The arithmetic of doubles works
on unpacked doubles instead; both have the same parts, and an unpacked double whose parts are those
of some double keeps them when it is packed.

* `value?` — the number that a double stands for;
* `Canonical` — the significands and exponents of the doubles;
* `IsDouble` — the numbers that some double stands for;
* `Settles` — an unpacked double stands for a number and has canonical parts;
* `settles_unpack` and `value?_pack` — from doubles to unpacked doubles and back;
* `lt_iff` and `le_iff` — doubles are compared as their numbers are.
-/

/-- A number with its sign. -/
def withSign (negative : Bool) (q : ℚ) : ℚ := if negative then -q else q

@[simp] theorem withSign_false (q : ℚ) : withSign false q = q := rfl

@[simp] theorem withSign_true (q : ℚ) : withSign true q = -q := rfl

@[simp] theorem withSign_zero (negative : Bool) : withSign negative 0 = 0 := by
  cases negative <;> simp

@[simp] theorem abs_withSign (negative : Bool) (q : ℚ) : |withSign negative q| = |q| := by
  cases negative <;> simp

/-- The number that parts stand for, if it is finite. -/
def Parts.value? : Parts → Option ℚ
  | .finite negative m e => some (withSign negative (m * 2 ^ e))
  | .nan | .infinite _ => none

/-- The number that a double stands for, if it is finite. -/
def value? (x : Float) : Option ℚ := (parts x).value?

theorem exists_parts {x : Float} {q : ℚ} (h : value? x = some q) :
    ∃ negative m e, parts x = .finite negative m e ∧ q = withSign negative (m * 2 ^ e) := by
  unfold value? at h
  cases hparts : parts x with
  | nan | infinite => rw [hparts] at h; cases h
  | finite negative m e =>
    rw [hparts] at h
    exact ⟨negative, m, e, rfl, (Option.some.inj h).symm⟩

theorem value?_of_parts {x : Float} {negative : Bool} {m : ℕ} {e : ℤ}
    (h : parts x = .finite negative m e) : value? x = some (withSign negative (m * 2 ^ e)) := by
  rw [value?, h]
  rfl

/-! ### Significands and exponents -/

/-- Significands and exponents as the doubles have them: 53 bits, of which the first one is set
    unless the exponent is the lowest one. -/
structure Canonical (m : ℕ) (e : ℤ) : Prop where
  lt : m < 2 ^ 53
  lowest : -1074 ≤ e
  full : 2 ^ 52 ≤ m ∨ e = -1074

namespace Canonical

variable {m m' : ℕ} {e e' : ℤ}

theorem zero : Canonical 0 (-1074) := ⟨by decide, le_rfl, .inr rfl⟩

/-- What is below some power of two has an exponent below that of the power. -/
private theorem exponent_le (h : Canonical m e) (hq : (m : ℚ) * 2 ^ e < 2 ^ (1024 : ℤ)) :
    e ≤ 971 := by
  rcases h.full with hfull | rfl
  · have hm : (2 : ℚ) ^ (52 : ℤ) ≤ m := by exact_mod_cast hfull
    have hlt : (2 : ℚ) ^ (52 + e) < 2 ^ (1024 : ℤ) :=
      calc (2 : ℚ) ^ (52 + e) = 2 ^ (52 : ℤ) * 2 ^ e := zpow_add₀ two_ne_zero _ _
        _ ≤ m * 2 ^ e := mul_le_mul_of_nonneg_right hm (by positivity)
        _ < 2 ^ (1024 : ℤ) := hq
    have := (zpow_lt_zpow_iff_right₀ one_lt_two).1 hlt
    omega
  · decide

/-- A number with canonical parts is less than one with a greater exponent. -/
private theorem mul_pow_lt (h : Canonical m e) (h' : Canonical m' e') (he : e < e') :
    (m : ℚ) * 2 ^ e < m' * 2 ^ e' := by
  have hm : (m : ℚ) < 2 ^ 53 := by exact_mod_cast h.lt
  have hm' : (2 : ℚ) ^ 52 ≤ m' := by
    have hlowest := h.lowest
    exact_mod_cast h'.full.resolve_right (by omega)
  calc (m : ℚ) * 2 ^ e < 2 ^ 53 * 2 ^ e := mul_lt_mul_of_pos_right hm (by positivity)
    _ = 2 ^ 52 * 2 ^ (e + 1) := by rw [zpow_add_one₀ two_ne_zero]; ring
    _ ≤ 2 ^ 52 * 2 ^ e' :=
      mul_le_mul_of_nonneg_left (zpow_le_zpow_right₀ one_le_two he) (by positivity)
    _ ≤ m' * 2 ^ e' := mul_le_mul_of_nonneg_right hm' (by positivity)

/-- Magnitudes are compared by their exponents first. -/
theorem compare_eq (h : Canonical m e) (h' : Canonical m' e') :
    (compare e e').then (compare m m') = compare ((m : ℚ) * 2 ^ e) (m' * 2 ^ e') := by
  rcases lt_trichotomy e e' with he | rfl | he
  · rw [compare_lt_iff_lt.2 he, compare_lt_iff_lt.2 (h.mul_pow_lt h' he)]
    rfl
  · have hpow : (0 : ℚ) < 2 ^ e := by positivity
    rw [compare_eq_iff_eq.2 rfl, Ordering.then]
    rcases lt_trichotomy m m' with hm | rfl | hm
    · have hlt : (m : ℚ) * 2 ^ e < m' * 2 ^ e :=
        mul_lt_mul_of_pos_right (by exact_mod_cast hm) hpow
      rw [compare_lt_iff_lt.2 hm, compare_lt_iff_lt.2 hlt]
    · rw [compare_eq_iff_eq.2 rfl, compare_eq_iff_eq.2 rfl]
    · have hlt : (m' : ℚ) * 2 ^ e < m * 2 ^ e :=
        mul_lt_mul_of_pos_right (by exact_mod_cast hm) hpow
      rw [compare_gt_iff_gt.2 hm, compare_gt_iff_gt.2 hlt]
  · rw [compare_gt_iff_gt.2 he, compare_gt_iff_gt.2 (h'.mul_pow_lt h he)]
    rfl

end Canonical

/-- The parts of a finite double are canonical. -/
theorem canonical_of_parts {x : Float} {negative : Bool} {m : ℕ} {e : ℤ}
    (h : parts x = .finite negative m e) : Canonical m e ∧ e ≤ 971 := by
  unfold parts partsOfBits at h
  dsimp only at h
  split at h
  · split at h <;> cases h
  · split at h
    · obtain ⟨-, rfl, rfl⟩ := Parts.finite.inj h
      exact ⟨⟨by omega, by omega, .inr rfl⟩, by omega⟩
    · obtain ⟨-, rfl, rfl⟩ := Parts.finite.inj h
      exact ⟨⟨by omega, by omega, .inl (by omega)⟩, by omega⟩

/-! ### Which numbers are doubles -/

/-- The numbers that some double stands for. -/
def IsDouble (q : ℚ) : Prop :=
  ∃ n e : ℤ, |n| < 2 ^ 53 ∧ -1074 ≤ e ∧ e ≤ 971 ∧ q = n * 2 ^ e

theorem IsDouble.neg {q : ℚ} (h : IsDouble q) : IsDouble (-q) := by
  obtain ⟨n, e, hn, hlo, hhi, rfl⟩ := h
  exact ⟨-n, e, by rwa [abs_neg], hlo, hhi, by push_cast; ring⟩

theorem isDouble_intCast {n : ℤ} (hn : |n| < 2 ^ 53) : IsDouble n :=
  ⟨n, 0, hn, by decide, by decide, by simp⟩

theorem isDouble_zero : IsDouble 0 := ⟨0, 0, by decide, by decide, by decide, by simp⟩

theorem isDouble_one : IsDouble 1 := ⟨1, 0, by decide, by decide, by decide, by simp⟩

theorem isDouble_half {n : ℤ} (hn : |n| < 2 ^ 53) : IsDouble (n / 2) :=
  ⟨n, -1, hn, by decide, by decide, by rw [zpow_neg_one]; rfl⟩

/-- Twice a double that is small. -/
theorem IsDouble.two_mul {q : ℚ} (h : IsDouble q) (hq : |q| ≤ 1) : IsDouble (2 * q) := by
  obtain ⟨n, e, hn, hlo, hhi, rfl⟩ := h
  by_cases he : e = 971
  · -- Only zero is that small with the greatest exponent.
    have hzero : n = 0 := by
      by_contra hne
      have hone : (1 : ℚ) ≤ |(n : ℚ)| := by exact_mod_cast Int.one_le_abs hne
      have hpow : (1 : ℚ) < 2 ^ e := one_lt_zpow₀ one_lt_two (by omega)
      rw [abs_mul, abs_of_pos (zero_lt_one.trans hpow)] at hq
      exact absurd hq (not_le.2 (one_lt_mul_of_le_of_lt hone hpow))
    subst hzero
    exact ⟨0, 0, by decide, by decide, by decide, by simp⟩
  · refine ⟨n, e + 1, hn, by omega, by omega, ?_⟩
    rw [zpow_add_one₀ two_ne_zero]
    ring

theorem IsDouble.abs_lt {q : ℚ} (h : IsDouble q) : |q| < 2 ^ (1024 : ℤ) := by
  obtain ⟨n, e, hn, -, hhi, rfl⟩ := h
  have hn' : |(n : ℚ)| < 2 ^ (53 : ℤ) := by exact_mod_cast hn
  have hpow : (0 : ℚ) < 2 ^ e := by positivity
  calc |(n : ℚ) * 2 ^ e| = |(n : ℚ)| * 2 ^ e := by rw [abs_mul, abs_of_pos hpow]
    _ < 2 ^ (53 : ℤ) * 2 ^ e := mul_lt_mul_of_pos_right hn' hpow
    _ = 2 ^ (53 + e) := (zpow_add₀ two_ne_zero _ _).symm
    _ ≤ 2 ^ (1024 : ℤ) := zpow_le_zpow_right₀ one_le_two (by omega)

theorem isDouble_of_value? {x : Float} {q : ℚ} (h : value? x = some q) : IsDouble q := by
  obtain ⟨negative, m, e, hparts, rfl⟩ := exists_parts h
  obtain ⟨hcanonical, hhi⟩ := canonical_of_parts hparts
  have hm : |(m : ℤ)| < 2 ^ 53 := by
    rw [Nat.abs_cast]
    exact_mod_cast hcanonical.lt
  have hdouble : IsDouble (m * 2 ^ e) := ⟨m, e, hm, hcanonical.lowest, hhi, by simp⟩
  cases negative
  · exact hdouble
  · exact hdouble.neg

/-! ### Unpacked doubles -/

/-- The parts of an unpacked double. -/
def partsOfUnpacked : UnpackedFloat → Parts
  | .notANumber => .nan
  | .infinity s => .infinite (s == .negative)
  | .zero s => .finite (s == .negative) 0 (-1074)
  | .finite s m e _ => .finite (s == .negative) m e

/-- The bits of a full significand. -/
private theorem toNat_one_append (m : BitVec 52) :
    (1#1 ++ m).toNat = 4503599627370496 + m.toNat := by
  have h := Nat.two_pow_add_eq_or_of_lt m.isLt 1
  rw [Nat.mul_one] at h
  exact h.symm

section

variable (b : BitVec Format.binary64.numBits)

theorem toNat_unpackMantissa :
    (UnpackedFloat.unpackMantissa b).toNat = b.toNat % 4503599627370496 := by
  rw [UnpackedFloat.unpackMantissa_def, BitVec.extractLsb'_toNat]
  rfl

theorem toNat_unpackExponent :
    (UnpackedFloat.unpackExponent b).toNat = (b.toNat >>> 52) % 2048 := by
  rw [UnpackedFloat.unpackExponent_def, BitVec.extractLsb'_toNat]
  rfl

theorem unpackSign_eq_negative :
    (Sign.ofBitVec (UnpackedFloat.unpackSign b) == .negative) = ((b.toNat >>> 63) % 2 == 1) := by
  have h : (UnpackedFloat.unpackSign b).toNat = (b.toNat >>> 63) % 2 := by
    rw [UnpackedFloat.unpackSign_def, BitVec.extractLsb'_toNat]
    rfl
  rw [← h]
  generalize UnpackedFloat.unpackSign b = s
  decide +revert

/-- A pattern has the same parts when it is unpacked. -/
theorem partsOfBits_eq :
    partsOfBits b.toNat = partsOfUnpacked (UnpackedFloat.unpack .binary64 b) := by
  have hmantissa : UnpackedFloat.unpackMantissa b = 0#52 ↔
      (UnpackedFloat.unpackMantissa b).toNat = 0 := BitVec.toNat_inj.symm
  have hexponent : UnpackedFloat.unpackExponent b = 0#11 ↔
      (UnpackedFloat.unpackExponent b).toNat = 0 := BitVec.toNat_inj.symm
  have hgreatest : UnpackedFloat.unpackExponent b = -1#11 ↔
      (UnpackedFloat.unpackExponent b).toNat = 2047 := BitVec.toNat_inj.symm
  unfold partsOfBits UnpackedFloat.unpack
  dsimp only
  rw [← toNat_unpackMantissa b, ← toNat_unpackExponent b, ← unpackSign_eq_negative b]
  by_cases hspecial : (UnpackedFloat.unpackExponent b).toNat = 2047
  · rw [if_pos hspecial, if_pos (hgreatest.2 hspecial)]
    by_cases hzero : (UnpackedFloat.unpackMantissa b).toNat = 0
    · rw [if_pos hzero, if_pos (hmantissa.2 hzero)]
      rfl
    · rw [if_neg hzero, if_neg (mt hmantissa.1 hzero)]
      rfl
  · rw [if_neg hspecial, if_neg (mt hgreatest.1 hspecial)]
    by_cases hlowest : (UnpackedFloat.unpackExponent b).toNat = 0
    · rw [if_pos hlowest, if_pos (hexponent.2 hlowest), hlowest]
      by_cases hzero : (UnpackedFloat.unpackMantissa b).toNat = 0
      · rw [dif_pos (hmantissa.2 hzero), hzero]
        rfl
      · rw [dif_neg (mt hmantissa.1 hzero)]
        rfl
    · rw [if_neg hlowest, if_neg (mt hexponent.1 hlowest), partsOfUnpacked, toNat_one_append]
      rfl

end

/-- The parts of a double are those of the double unpacked. -/
theorem parts_eq (x : Float) : parts x = partsOfUnpacked x.toModel.unpack :=
  partsOfBits_eq x.toModel.toBits.toBitVec

/-! ### Packing -/

section

variable (s : Sign) {m : ℕ} (hm : 0 < m)

/-- The fields of a full significand are packed and unpacked again. -/
theorem unpack_pack_of_full {e : ℤ} (hfull : 2 ^ 52 ≤ m) (h : Canonical m e) (hhi : e ≤ 971) :
    (Float.Model.pack (.finite s m e hm)).unpack = .finite s m e hm := by
  have hlowest := h.lowest
  have hlt := h.lt
  have hlog : m.log2 = 52 := (Nat.log2_eq_iff hm.ne').2 ⟨hfull, hlt⟩
  have hbias : (e + Format.binary64.exponentBias + (52 : ℕ)).toNat = (e + 1075).toNat := by
    show (e + (1023 : ℕ) + (52 : ℕ)).toNat = _
    omega
  have hbits : 52 + 1 = Format.binary64.mantissaBits := rfl
  have hexponent : (BitVec.ofNat 11 (e + 1075).toNat).toNat = (e + 1075).toNat := by
    rw [BitVec.toNat_ofNat, Nat.mod_eq_of_lt (by omega)]
  -- The field of the exponent is neither the one of the special doubles nor the lowest one.
  have hfinite : BitVec.ofNat 11 (e + 1075).toNat ≠ -1#11 := by
    rw [Ne, ← BitVec.toNat_inj, hexponent]
    show _ ≠ 2047
    omega
  have hnormal : BitVec.ofNat 11 (e + 1075).toNat ≠ 0#11 := by
    rw [Ne, ← BitVec.toNat_inj, hexponent]
    show _ ≠ 0
    omega
  show UnpackedFloat.unpack .binary64 (UnpackedFloat.pack .binary64 _) = _
  rw [UnpackedFloat.pack]
  dsimp only
  rw [hbias, if_neg (by simp; omega), hlog, if_pos hbits]
  unfold UnpackedFloat.unpack
  simp only [UnpackedFloat.unpackMantissa_packComponents,
    UnpackedFloat.unpackExponent_packComponents, UnpackedFloat.unpackSign_packComponents,
    Sign.ofBitVec_toBitVec, hfinite, hnormal, if_false]
  congr 1
  · rw [toNat_one_append, BitVec.toNat_ofNat]
    omega
  · rw [hexponent]
    show ((e + 1075).toNat : ℤ) - 1075 = e
    omega

/-- So are those of a significand that is not full, which has the lowest exponent. -/
theorem unpack_pack_of_lt (hlt : m < 2 ^ 52) :
    (Float.Model.pack (.finite s m (-1074) hm)).unpack = .finite s m (-1074) hm := by
  have hlog : m.log2 < 52 := (Nat.log2_lt hm.ne').2 hlt
  have hmantissa : (BitVec.ofNat 52 m).toNat = m := by
    rw [BitVec.toNat_ofNat, Nat.mod_eq_of_lt hlt]
  have hne : BitVec.ofNat 52 m ≠ 0#52 := by
    rw [Ne, ← BitVec.toNat_inj, hmantissa]
    exact hm.ne'
  show UnpackedFloat.unpack .binary64 (UnpackedFloat.pack .binary64 _) = _
  rw [UnpackedFloat.pack]
  dsimp only
  rw [if_neg (by decide), if_neg (by simp [Format.mantissaBits]; omega)]
  unfold UnpackedFloat.unpack
  simp only [UnpackedFloat.unpackMantissa_packComponents,
    UnpackedFloat.unpackExponent_packComponents, UnpackedFloat.unpackSign_packComponents,
    Sign.ofBitVec_toBitVec]
  rw [if_neg (by decide), if_pos trivial, dif_neg hne]
  congr 1

end

/-- An unpacked double stands for a number, and its parts are canonical. -/
def Settles (u : UnpackedFloat) (q : ℚ) : Prop :=
  ∃ negative m e, partsOfUnpacked u = .finite negative m e ∧ Canonical m e ∧
    q = withSign negative (m * 2 ^ e)

theorem settles_zero (s : Sign) : Settles (.zero s) 0 :=
  ⟨_, _, _, rfl, .zero, by simp⟩

theorem settles_finite {s : Sign} {m : ℕ} {e : ℤ} (hm : 0 < m) (h : Canonical m e) :
    Settles (.finite s m e hm) (withSign (s == .negative) (m * 2 ^ e)) :=
  ⟨_, _, _, rfl, h, rfl⟩

/-- What stands for a number is a zero or finite. -/
theorem Settles.zero_or_finite {u : UnpackedFloat} {q : ℚ} (h : Settles u q) :
    (∃ s, u = .zero s ∧ q = 0) ∨
    ∃ s m e hm, u = .finite s m e hm ∧ Canonical m e ∧
      q = withSign (s == .negative) (m * 2 ^ e) := by
  obtain ⟨negative, m, e, hparts, hcanonical, rfl⟩ := h
  cases u with
  | notANumber | infinity => cases hparts
  | zero s =>
    obtain ⟨-, rfl, -⟩ := Parts.finite.inj hparts
    exact .inl ⟨s, rfl, by simp⟩
  | finite s m' e' hm =>
    obtain ⟨rfl, rfl, rfl⟩ := Parts.finite.inj hparts
    exact .inr ⟨s, m', e', hm, rfl, hcanonical, rfl⟩

theorem settles_unpack {x : Float} {q : ℚ} (h : value? x = some q) :
    Settles x.toModel.unpack q := by
  obtain ⟨negative, m, e, hparts, rfl⟩ := exists_parts h
  refine ⟨negative, m, e, ?_, (canonical_of_parts hparts).1, rfl⟩
  rw [← parts_eq, hparts]

/-- A number within the range of the doubles is kept by packing. -/
theorem value?_pack {u : UnpackedFloat} {q : ℚ} (h : Settles u q) (hq : |q| < 2 ^ (1024 : ℤ)) :
    value? ⟨.pack u⟩ = some q := by
  have hunpack : (Float.Model.pack u).unpack = u := by
    rcases h.zero_or_finite with ⟨s, rfl, -⟩ | ⟨s, m, e, hm, rfl, hcanonical, rfl⟩
    · exact UnpackedFloat.unpack_packedZero
    · rw [abs_withSign, abs_of_nonneg (by positivity)] at hq
      by_cases hfull : 2 ^ 52 ≤ m
      · exact unpack_pack_of_full s hm hfull hcanonical (hcanonical.exponent_le hq)
      · obtain rfl := hcanonical.full.resolve_left hfull
        exact unpack_pack_of_lt s hm (not_le.1 hfull)
  obtain ⟨negative, m, e, hparts, -, rfl⟩ := h
  rw [value?, parts_eq, hunpack, hparts]
  rfl

/-! ### Order -/

private theorem compare_neg_neg (p q : ℚ) : compare (-p) (-q) = compare q p := by
  rcases lt_trichotomy p q with h | rfl | h
  · rw [compare_gt_iff_gt.2 (neg_lt_neg h), compare_gt_iff_gt.2 h]
  · rw [compare_eq_iff_eq.2 rfl, compare_eq_iff_eq.2 rfl]
  · rw [compare_lt_iff_lt.2 (neg_lt_neg h), compare_lt_iff_lt.2 h]

/-- Unpacked doubles are compared as the numbers they stand for. -/
theorem compare_of_settles {u v : UnpackedFloat} {p q : ℚ} (hu : Settles u p) (hv : Settles v q) :
    u.compare v = some (compare p q) := by
  rcases hu.zero_or_finite with ⟨s, rfl, rfl⟩ | ⟨s, m, e, hm, rfl, hcanonical, rfl⟩ <;>
    rcases hv.zero_or_finite with ⟨s', rfl, rfl⟩ | ⟨s', m', e', hm', rfl, hcanonical', rfl⟩
  · rw [compare_eq_iff_eq.2 rfl]
    rfl
  · have hpos : (0 : ℚ) < m' * 2 ^ e' := by positivity
    cases s' with
    | positive => exact congrArg some (compare_lt_iff_lt.2 hpos).symm
    | negative => exact congrArg some (compare_gt_iff_gt.2 (neg_lt_zero.2 hpos)).symm
  · have hpos : (0 : ℚ) < m * 2 ^ e := by positivity
    cases s with
    | positive => exact congrArg some (compare_gt_iff_gt.2 hpos).symm
    | negative => exact congrArg some (compare_lt_iff_lt.2 (neg_lt_zero.2 hpos)).symm
  · have hpos : (0 : ℚ) < m * 2 ^ e := by positivity
    have hpos' : (0 : ℚ) < m' * 2 ^ e' := by positivity
    have hmagnitude := hcanonical.compare_eq hcanonical'
    cases s <;> cases s'
    case negative.negative =>
      rw [UnpackedFloat.compare, hmagnitude, ← Std.OrientedCmp.eq_swap, ← compare_neg_neg]
      rfl
    case negative.positive =>
      exact congrArg some (compare_lt_iff_lt.2 ((neg_lt_zero.2 hpos).trans hpos')).symm
    case positive.negative =>
      exact congrArg some (compare_gt_iff_gt.2 ((neg_lt_zero.2 hpos').trans hpos)).symm
    case positive.positive =>
      rw [UnpackedFloat.compare, hmagnitude]
      rfl

section

variable {x y : Float} {p q : ℚ}

theorem lt_iff_compare : x < y ↔ x.toModel.unpack.compare y.toModel.unpack = some .lt := by
  show decide (x.toModel < y.toModel) = true ↔ _
  rw [decide_eq_true_eq]
  exact beq_iff_eq

theorem le_iff_compare :
    x ≤ y ↔ (x.toModel.unpack.compare y.toModel.unpack).any (·.isLE) = true := by
  show decide (x.toModel ≤ y.toModel) = true ↔ _
  rw [decide_eq_true_eq]
  rfl

theorem lt_iff (hx : value? x = some p) (hy : value? y = some q) : x < y ↔ p < q := by
  rw [lt_iff_compare, compare_of_settles (settles_unpack hx) (settles_unpack hy),
    Option.some.injEq, compare_lt_iff_lt]

theorem le_iff (hx : value? x = some p) (hy : value? y = some q) : x ≤ y ↔ p ≤ q := by
  rw [le_iff_compare, compare_of_settles (settles_unpack hx) (settles_unpack hy), Option.any_some]
  exact Std.LawfulBCmp.isLE_iff_le

end

end SolarTwin.Binary64

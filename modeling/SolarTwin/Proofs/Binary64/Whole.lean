import SolarTwin.Proofs.Binary64.Rounding
import SolarTwin.Register.Format

namespace SolarTwin

namespace Binary64

open Float.Model (UnpackedFloat)

/-!
# Doubles between bounds and whole doubles

Comparing a double with finite ones leaves only numbers between them, or a NaN where it is only
known not to be outside.  Rounding leads to a whole number without stepping over any other, and a
whole double in range is the integer that it is stored as.

* `within_of_le` and `nan_or_within_of_not_lt` — what comparisons say of a double;
* `parts_mul_of_nan`, `parts_sub_of_nan`, `parts_div_of_nan` — a NaN stays one;
* `value?_ofWhole` — the doubles of whole numbers;
* `exists_value?_round` — rounding to whole numbers;
* `toBounded_of_value?` — from whole doubles to integers;
* `Format.toRaw_of_value?` and `Format.toRaw_of_nan` — what is stored of a whole double and of a
  NaN.
-/

section

variable {x y a b : Float} {p q : ℚ}

/-! ### Doubles that are not finite -/

theorem unpack_of_nan (hx : parts x = .nan) : x.toModel.unpack = .notANumber := by
  rw [parts_eq] at hx
  cases hu : x.toModel.unpack with
  | notANumber => rfl
  | infinity | zero | finite => rw [hu] at hx; cases hx

theorem parts_pack_notANumber : parts ⟨.pack .notANumber⟩ = .nan := by
  have hunpack : (Float.Model.pack .notANumber).unpack = .notANumber :=
    UnpackedFloat.unpack_packedNaN
  rw [parts_eq, hunpack]
  rfl

theorem parts_mul_of_nan (hx : parts x = .nan) (y : Float) : parts (x * y) = .nan := by
  show parts ⟨.pack (UnpackedFloat.mul .binary64 x.toModel.unpack y.toModel.unpack)⟩ = .nan
  rw [unpack_of_nan hx]
  exact parts_pack_notANumber

theorem parts_sub_of_nan (hx : parts x = .nan) (y : Float) : parts (x - y) = .nan := by
  show parts ⟨.pack (UnpackedFloat.sub .binary64 x.toModel.unpack y.toModel.unpack)⟩ = .nan
  rw [unpack_of_nan hx]
  exact parts_pack_notANumber

theorem parts_div_of_nan (hx : parts x = .nan) (y : Float) : parts (x / y) = .nan := by
  show parts ⟨.pack (UnpackedFloat.div .binary64 x.toModel.unpack y.toModel.unpack)⟩ = .nan
  rw [unpack_of_nan hx]
  exact parts_pack_notANumber

theorem parts_round_of_nan (hx : parts x = .nan) : parts (round x) = .nan := by
  unfold round
  rw [hx]
  exact hx

private theorem partsOfUnpacked_inj {u v : UnpackedFloat}
    (h : partsOfUnpacked u = partsOfUnpacked v) : u = v := by
  have hsign {s s' : UnpackedFloat.Sign} (hs : (s == .negative) = (s' == .negative)) : s = s' := by
    cases s <;> cases s' <;> first | rfl | cases hs
  cases u <;> cases v <;> try cases h
  case notANumber.notANumber => rfl
  case infinity.infinity => rw [hsign (Parts.infinite.inj h)]
  case zero.zero => rw [hsign (Parts.finite.inj h).1]
  case zero.finite hm => exact absurd (Parts.finite.inj h).2.1 hm.ne
  case finite.zero hm _ => exact absurd (Parts.finite.inj h).2.1 hm.ne'
  case finite.finite =>
    obtain ⟨hs, rfl, rfl⟩ := Parts.finite.inj h
    rw [hsign hs]

/-- A double is told by its parts. -/
theorem eq_of_parts_eq (h : parts x = parts y) : x = y := by
  rw [parts_eq, parts_eq] at h
  exact Float.toBits_inj.1 (UInt64.toBitVec_inj.1
    ((UnpackedFloat.unpack_inj_of_valid x.toModel.valid y.toModel.valid).1
      (partsOfUnpacked_inj h)))

/-- There are three doubles that are not finite. -/
theorem eq_of_value?_eq_none (h : value? x = none) :
    x = 0.0 / 0.0 ∨ x = 1.0 / 0.0 ∨ x = -1.0 / 0.0 := by
  rw [value?] at h
  cases hparts : parts x with
  | nan => exact .inl (eq_of_parts_eq (hparts.trans (by decide +kernel)))
  | infinite negative =>
    cases negative
    · exact .inr (.inl (eq_of_parts_eq (hparts.trans (by decide +kernel))))
    · exact .inr (.inr (eq_of_parts_eq (hparts.trans (by decide +kernel))))
  | finite negative m e => rw [hparts] at h; cases h

/-! ### Comparing -/

theorem unpack_of_infinite {negative : Bool} (hx : parts x = .infinite negative) :
    ∃ s, x.toModel.unpack = .infinity s ∧ (s == .negative) = negative := by
  rw [parts_eq] at hx
  cases hu : x.toModel.unpack with
  | infinity s =>
    rw [hu] at hx
    exact ⟨s, rfl, Parts.infinite.inj hx⟩
  | notANumber | zero | finite => rw [hu] at hx; cases hx

/-- The infinities are outside of all numbers. -/
theorem compare_infinity {u : UnpackedFloat} (h : Settles u p) :
    (UnpackedFloat.infinity .negative).compare u = some .lt ∧
    u.compare (.infinity .negative) = some .gt ∧
    (UnpackedFloat.infinity .positive).compare u = some .gt ∧
    u.compare (.infinity .positive) = some .lt := by
  rcases h.zero_or_finite with ⟨s, rfl, -⟩ | ⟨s, m, e, hm, rfl, -, -⟩
  · exact ⟨rfl, rfl, rfl, rfl⟩
  · cases s <;> exact ⟨rfl, rfl, rfl, rfl⟩

/-- What is not outside of two numbers is between them or a NaN. -/
theorem nan_or_within_of_not_lt (ha : value? a = some p) (hb : value? b = some q)
    (hlo : ¬ x < a) (hhi : ¬ b < x) : parts x = .nan ∨ Within x p q := by
  cases hparts : parts x with
  | nan => exact .inl rfl
  | infinite negative =>
    obtain ⟨s, hu, -⟩ := unpack_of_infinite hparts
    rw [lt_iff_compare, hu] at hlo hhi
    cases s
    · exact absurd (compare_infinity (settles_unpack ha)).1 hlo
    · exact absurd (compare_infinity (settles_unpack hb)).2.2.2 hhi
  | finite negative m e =>
    have hx := value?_of_parts hparts
    rw [lt_iff hx ha, not_lt] at hlo
    rw [lt_iff hb hx, not_lt] at hhi
    exact .inr ⟨_, hx, hlo, hhi⟩

/-- What is at least a number and at most another one is between them. -/
theorem within_of_le (ha : value? a = some p) (hb : value? b = some q) (hlo : a ≤ x) (hhi : x ≤ b) :
    Within x p q := by
  cases hparts : parts x with
  | nan =>
    rw [le_iff_compare, unpack_of_nan hparts] at hhi
    cases hhi
  | infinite negative =>
    obtain ⟨s, hu, -⟩ := unpack_of_infinite hparts
    rw [le_iff_compare, hu] at hlo hhi
    cases s
    · rw [(compare_infinity (settles_unpack ha)).2.1] at hlo
      cases hlo
    · rw [(compare_infinity (settles_unpack hb)).2.2.1] at hhi
      cases hhi
  | finite negative m e =>
    have hx := value?_of_parts hparts
    exact ⟨_, hx, (le_iff ha hx).1 hlo, (le_iff hx hb).1 hhi⟩

/-- A double that is brought between two numbers is there, or it is a NaN. -/
theorem nan_or_within_clamp (ha : value? a = some p) (hb : value? b = some q) (hpq : p ≤ q)
    (x : Float) : parts (clamp a b x) = .nan ∨ Within (clamp a b x) p q := by
  have hlo : Within a p q := ⟨p, ha, le_rfl, hpq⟩
  have hhi : Within b p q := ⟨q, hb, hpq, le_rfl⟩
  unfold clamp
  dsimp only
  by_cases hless : x < a
  · rw [if_pos hless]
    split
    · exact .inr hhi
    · exact .inr hlo
  · rw [if_neg hless]
    split
    · exact .inr hhi
    · next hgreater => exact nan_or_within_of_not_lt ha hb hless hgreater

/-! ### Whole doubles -/

/-- A whole number of up to 53 bits has a double. -/
theorem value?_ofWhole (negative : Bool) {n : ℕ} (hn : n < 2 ^ 53) :
    value? (ofWhole negative n) = some (withSign negative n) := by
  have hcast : n.toUInt64.toNat = n := by
    show n % 2 ^ 64 = n
    omega
  have hnear : Approximates n.toUInt64.toFloat ((n.toUInt64.toNat : ℤ) * 2 ^ (0 : ℤ)) :=
    approximates_pack (rounded_normalize n.toUInt64.toNat 0 .positive).rounds
  rw [hcast, zpow_zero, mul_one] at hnear
  have hvalue : value? n.toUInt64.toFloat = some (n : ℚ) :=
    hnear.exact (isDouble_intCast (by rw [Nat.abs_cast]; exact_mod_cast hn))
  cases negative
  · exact hvalue
  · exact value?_neg hvalue

/-- Rounding a quotient half up steps over no whole number. -/
private theorem roundHalfUp_between (m : ℕ) {d : ℕ} (hd : 0 < d) (k : ℤ) :
    (k * d ≤ m → k ≤ roundHalfUp m d) ∧ (m ≤ k * d → roundHalfUp m d ≤ k) := by
  have hcast : ((roundHalfUp m d : ℕ) : ℤ) = (2 * m + d) / (2 * d) := by
    rw [roundHalfUp]
    push_cast
    rfl
  rw [hcast]
  constructor
  · intro h
    rw [Int.le_ediv_iff_mul_le (by omega)]
    linarith
  · intro h
    rw [← Int.lt_add_one_iff, Int.ediv_lt_iff_lt_mul (by omega)]
    linarith

/-- Rounding leads to a whole number and steps over none. -/
theorem exists_value?_round (hx : value? x = some q) :
    ∃ n : ℤ, value? (round x) = some (n : ℚ) ∧
      ∀ k : ℤ, ((k : ℚ) ≤ q → k ≤ n) ∧ (q ≤ k → n ≤ k) := by
  obtain ⟨negative, m, e, hparts, rfl⟩ := exists_parts hx
  have hlt := (canonical_of_parts hparts).1.lt
  unfold round
  rw [hparts]
  dsimp only
  by_cases he : 0 ≤ e
  · -- There is no fraction.
    obtain ⟨j, rfl⟩ := Int.eq_ofNat_of_zero_le he
    rw [if_pos he]
    obtain ⟨n, hn⟩ : ∃ n : ℤ, withSign negative ((m : ℚ) * 2 ^ (j : ℤ)) = n := by
      cases negative
      · exact ⟨m * 2 ^ j, by push_cast; rfl⟩
      · exact ⟨-(m * 2 ^ j), by push_cast; rfl⟩
    rw [hn] at hx ⊢
    exact ⟨n, hx, fun k => by simp⟩
  · obtain ⟨j, rfl⟩ : ∃ j : ℕ, e = -j := ⟨(-e).toNat, by omega⟩
    have hunits : 1 <<< (- -(j : ℤ)).toNat = 2 ^ j := by
      rw [Nat.one_shiftLeft, neg_neg, Int.toNat_natCast]
    rw [if_neg he, hunits]
    have hunit : (0 : ℚ) < 2 ^ j := by positivity
    have hbetween (k : ℤ) : ((k : ℚ) ≤ m * 2 ^ (-j : ℤ) → k ≤ roundHalfUp m (2 ^ j)) ∧
        ((m : ℚ) * 2 ^ (-j : ℤ) ≤ k → roundHalfUp m (2 ^ j) ≤ k) := by
      have hhalf := roundHalfUp_between m (Nat.two_pow_pos j) k
      rw [zpow_neg, zpow_natCast, le_mul_inv_iff₀ hunit, mul_inv_le_iff₀ hunit]
      exact ⟨fun h => hhalf.1 (by exact_mod_cast h), fun h => hhalf.2 (by exact_mod_cast h)⟩
    have hroom : roundHalfUp m (2 ^ j) < 2 ^ 53 := by
      have hle := (roundHalfUp_between m (Nat.two_pow_pos j) m).2
        (by exact_mod_cast Nat.le_mul_of_pos_right m (Nat.two_pow_pos j))
      omega
    rw [value?_ofWhole negative hroom]
    cases negative
    · exact ⟨roundHalfUp m (2 ^ j), rfl, hbetween⟩
    · refine ⟨-roundHalfUp m (2 ^ j), by push_cast; rfl, fun k => ⟨fun h => ?_, fun h => ?_⟩⟩
      · have hle := (hbetween (-k)).2 (by push_cast; exact le_neg_of_le_neg h)
        omega
      · have hle := (hbetween (-k)).1 (by push_cast; exact neg_le_of_neg_le h)
        omega

/-- A whole double is not changed by rounding. -/
theorem value?_round_of_whole {n : ℤ} (hx : value? x = some (n : ℚ)) :
    value? (round x) = some (n : ℚ) := by
  obtain ⟨n', hn', hbetween⟩ := exists_value?_round hx
  rwa [le_antisymm ((hbetween n).2 le_rfl) ((hbetween n).1 le_rfl)] at hn'

/-- A whole double in a range is an integer in that range. -/
theorem toBounded_of_value? {n : ℤ} (hx : value? x = some (n : ℚ)) (lo hi : ℤ) :
    toBounded lo hi x = clampInt lo hi n := by
  obtain ⟨negative, m, e, hparts, hn⟩ := exists_parts hx
  unfold toBounded
  rw [hparts]
  dsimp only
  have hmagnitude : ((if 0 ≤ e then m <<< e.toNat else m >>> (-e).toNat : ℕ) : ℚ) = m * 2 ^ e := by
    by_cases he : 0 ≤ e
    · obtain ⟨j, rfl⟩ := Int.eq_ofNat_of_zero_le he
      rw [if_pos he, Nat.shiftLeft_eq, Int.toNat_natCast]
      push_cast
      rfl
    · obtain ⟨j, rfl⟩ : ∃ j : ℕ, e = -j := ⟨(-e).toNat, by omega⟩
      have hunit : (0 : ℚ) < 2 ^ j := by positivity
      have hpos : (0 : ℚ) ≤ m * 2 ^ (-j : ℤ) := by positivity
      have habs := congrArg abs hn
      rw [abs_withSign, abs_of_nonneg hpos, zpow_neg, zpow_natCast,
        eq_mul_inv_iff_mul_eq₀ hunit.ne', ← Int.cast_abs, Int.abs_eq_natAbs,
        Int.cast_natCast] at habs
      -- The significand is a multiple of the unit, so nothing is cut off.
      have hm : m = n.natAbs * 2 ^ j := by exact_mod_cast habs.symm
      rw [if_neg he, neg_neg, Int.toNat_natCast, Nat.shiftRight_eq_div_pow, zpow_neg, zpow_natCast,
        hm, Nat.mul_div_cancel _ (Nat.two_pow_pos j)]
      push_cast
      field_simp
  rw [← hmagnitude] at hn
  generalize (if 0 ≤ e then m <<< e.toNat else m >>> (-e).toNat) = units at hn ⊢
  congr 1
  cases negative
  · have hunits : (n : ℚ) = units := hn
    exact_mod_cast hunits.symm
  · have hunits : (n : ℚ) = -(units : ℚ) := hn
    exact_mod_cast hunits.symm

end

end Binary64

/-! ### What is stored -/

namespace Format

open Binary64

variable {f : Format} {x : Float}

private theorem scale_eq_one (hf : f.decimals = 0) : f.scale = 1.0 := by
  rw [scale, hf]
  rfl

/-- A format without decimals stores a whole double as the integer that it is. -/
theorem toRaw_of_value? (hf : f.decimals = 0) {n : ℤ} (hx : value? x = some (n : ℚ))
    (hn : |n| < 2 ^ 53) : f.toRaw x = n := by
  have hone : value? 1.0 = some 1 := by decide +kernel
  have hscaled : value? (x * 1.0) = some (n : ℚ) := by
    have hnear := approximates_mul hx hone
    rw [mul_one] at hnear
    exact hnear.exact (isDouble_intCast hn)
  rw [toRaw, scale_eq_one hf, toBounded_of_value? (value?_round_of_whole hscaled)]
  obtain ⟨hlo, hhi⟩ := abs_lt.1 hn
  simp only [clampInt, minSigned64, maxSigned64]
  omega

/-- Every format stores a NaN as zero. -/
theorem toRaw_of_nan (hx : parts x = .nan) : f.toRaw x = 0 := by
  have hscaled := parts_round_of_nan (parts_mul_of_nan hx f.scale)
  rw [toRaw, toBounded, hscaled]

end Format

end SolarTwin

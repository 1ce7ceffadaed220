import SolarTwin.Proofs.Binary64.Whole
import SolarTwin.Proofs.Plant.Ticking

namespace SolarTwin

open Binary64
open Chance (Ends)

/-!
# Whole watts

The power of a tick is rounded to whole watts and so are two of its phases; the third one takes what
remains.  As long as the rated power leaves room, doubles compute with whole watts exactly, so the
phases add up to the power.

* `Source.within_unit`, `Chance.around_within` — between which numbers a draw lies;
* `Plant.within_derating`, `Plant.powerOutput_within` — the factors of the power;
* `Plant.Balanced` — whole watts that add up, or no numbers at all;
* `Plant.splitPhases_balanced` and `Plant.Engine.beat_balanced` — the phases of a power, in a tick.
-/

/-! ### Draws -/

/-- A word spreads over the numbers from zero to one. -/
theorem Source.within_unit (w : UInt64) : Within (unit w) 0 1 := by
  have hlt : (w >>> 12).toNat < 2 ^ 52 := by
    have hshift : (w >>> 12).toNat = w.toNat >>> 12 := UInt64.toNat_shiftRight w 12
    rw [hshift, Nat.shiftRight_eq_div_pow]
    have := w.toNat_lt
    omega
  have hsteps : value? 4503599627370496.0 = some 4503599627370496 := by decide +kernel
  have hword : value? (ofWhole false (w >>> 12).toNat) = some ((w >>> 12).toNat : ℚ) :=
    value?_ofWhole false (by omega)
  have hle : ((w >>> 12).toNat : ℚ) ≤ 4503599627370496 := by exact_mod_cast hlt.le
  refine approximates_div hword hsteps (by norm_num) 0 1 isDouble_zero isDouble_one
    (by positivity) ?_
  rw [div_le_one (by norm_num)]
  exact hle

/-- A double drawn around zero is not farther away than its bound. -/
theorem Source.within_spread {bound : Float} (h : Within bound 0 1) (w : UInt64) :
    Within (spread (-bound) bound w) (-1) 1 := by
  obtain ⟨b, hb, hlo, hhi⟩ := h
  obtain ⟨u, hu, hu0, hu1⟩ := Source.within_unit w
  have hdouble := isDouble_of_value? hb
  -- The span is twice the bound, exactly.
  have hspan : value? (bound - -bound) = some (2 * b) := by
    have hnear := approximates_sub hb (value?_neg hb)
    rw [sub_neg_eq_add, ← two_mul] at hnear
    exact hnear.exact (hdouble.two_mul (abs_le.2 ⟨by linarith, hhi⟩))
  obtain ⟨v, hv, hv0, hv1⟩ := approximates_mul hu hspan 0 (2 * b) isDouble_zero
    (isDouble_of_value? hspan) (by positivity) (by nlinarith)
  exact approximates_add hv (value?_neg hb) (-1) 1 isDouble_one.neg isDouble_one
    (by linarith) (by linarith)

/-- What varies by at most one is between one and its opposite, also where nothing is drawn. -/
theorem Chance.around_within {bound : Float} (h : Within bound 0 1) :
    Ends (around bound) (fun r => Within r (-1) 1) fun _ => True := by
  intro s
  unfold around
  split
  · split
    · exact .inl ⟨_, _, rfl, Source.within_spread h _⟩
    · exact .inr ⟨_, rfl, trivial⟩
  · have hzero : value? 0.0 = some 0 := by decide +kernel
    exact .inl ⟨_, _, rfl, 0, hzero, by norm_num, by norm_num⟩

namespace Plant

/-! ### Power -/

/-- Whatever the temperature is, the derating leaves at least half of the output. -/
theorem within_derating (t : Float) : Within (derating t) (1 / 2) 1 := by
  have hhalf : value? 0.5 = some (1 / 2) := by decide +kernel
  have hone : value? 1.0 = some 1 := by decide +kernel
  cases ht : value? t with
  | none =>
    have hspecial : derating t = 0.5 ∨ derating t = 1.0 := by
      rcases eq_of_value?_eq_none ht with rfl | rfl | rfl
      · exact .inl (by decide +kernel)
      · exact .inl (by decide +kernel)
      · exact .inr (by decide +kernel)
    rcases hspecial with h | h
    · exact h ▸ ⟨_, hhalf, le_rfl, by norm_num⟩
    · exact h ▸ ⟨_, hone, by norm_num, le_rfl⟩
  | some q =>
    have hlimit : value? 65.0 = some 65 := by decide +kernel
    unfold derating
    split
    · exact ⟨_, hone, by norm_num, le_rfl⟩
    · next hwarm =>
      rw [le_iff ht hlimit, not_le] at hwarm
      obtain ⟨c, hc, hc0, hc1⟩ : ∃ c : ℚ, value? 0.02 = some c ∧ 0 ≤ c ∧ c ≤ 1 :=
        ⟨5764607523034235 * 2 ^ (-58 : ℤ), by decide +kernel, by norm_num, by norm_num⟩
      -- Each degree takes something away and none adds anything.
      obtain ⟨excess, hexcess, hexcess0, hexcess1⟩ := approximates_sub ht hlimit 0 q isDouble_zero
        (isDouble_of_value? ht) (by linarith) (by linarith)
      obtain ⟨loss, hloss, hloss0, -⟩ := approximates_mul hc hexcess 0 excess isDouble_zero
        (isDouble_of_value? hexcess) (by positivity) (by nlinarith)
      obtain ⟨rest, hrest, -, hrest1⟩ := approximates_sub hone hloss (-loss) 1
        (isDouble_of_value? hloss).neg isDouble_one (by linarith) (by linarith)
      unfold atLeast
      split
      · exact ⟨_, hhalf, le_rfl, by norm_num⟩
      · split
        · exact ⟨_, hhalf, le_rfl, by norm_num⟩
        · next hge =>
          rw [lt_iff hrest hhalf, not_lt] at hge
          exact ⟨rest, hrest, hge, hrest1⟩

/-- The output before derating is between nothing and the rated power, or it is a NaN. -/
theorem powerOutput_within {p : Parameters} {rated : ℚ} (hrated : value? p.ratedPower = some rated)
    (hpos : 0 ≤ rated) (now : DateTime) (w : Weather) :
    Ends (powerOutput p now w) (fun x => parts x = .nan ∨ Within x 0 rated) fun _ => True := by
  have hzero : value? 0.0 = some 0 := by decide +kernel
  unfold powerOutput
  dsimp only
  split
  · exact .pure (.inr ⟨0, hzero, le_rfl, hpos⟩)
  · refine Ends.bind (.any _) fun variation _ => ?_
    unfold Chance.clamp
    split
    · exact .pure (nan_or_within_clamp hzero hrated hpos _)
    · exact fun s => .inr ⟨_, rfl, trivial⟩

/-- The power of a tick is a number of whole watts, or a NaN. -/
theorem round_mul_derating {raw : Float} {limit : ℤ}
    (hraw : parts raw = .nan ∨ Within raw 0 limit) (t : Float) :
    parts (round (raw * derating t)) = .nan ∨
    ∃ n : ℤ, value? (round (raw * derating t)) = some (n : ℚ) ∧ 0 ≤ n ∧ n ≤ limit := by
  rcases hraw with hnan | ⟨x, hx, hx0, hx1⟩
  · exact .inl (parts_round_of_nan (parts_mul_of_nan hnan _))
  · right
    obtain ⟨f, hf, hf0, hf1⟩ := within_derating t
    obtain ⟨y, hy, hy0, hy1⟩ := approximates_mul hx hf 0 x isDouble_zero (isDouble_of_value? hx)
      (by positivity) (by nlinarith)
    obtain ⟨n, hn, hbetween⟩ := exists_value?_round hy
    exact ⟨n, hn, (hbetween 0).1 (by exact_mod_cast hy0),
      (hbetween limit).2 (hy1.trans hx1)⟩

/-! ### Phases -/

/-- A power in whole watts up to a limit whose phases have whole watts too and add up to it; or no
    numbers at all. -/
inductive Balanced (limit : ℤ) (power : Float) (x : Phases) : Prop
  | numbers (n n1 n2 : ℤ) (hn : 0 ≤ n ∧ n ≤ limit) (hn1 : 0 ≤ n1 ∧ n1 ≤ n) (hn2 : 0 ≤ n2 ∧ n2 ≤ n)
      (power : value? power = some (n : ℚ)) (l1 : value? x.l1 = some (n1 : ℚ))
      (l2 : value? x.l2 = some (n2 : ℚ)) (l3 : value? x.l3 = some ((n - n1 - n2 : ℤ) : ℚ))
  | nans (power : parts power = .nan) (l1 : parts x.l1 = .nan) (l2 : parts x.l2 = .nan)
      (l3 : parts x.l3 = .nan)

/-- A phase that varies has whole watts, and no more than the power. -/
private theorem exists_value?_phase {total variation : Float} {n : ℤ} (hn : 0 ≤ n ∧ n < 2 ^ 53)
    (htotal : value? total = some (n : ℚ)) (hvariation : Within variation (-1) 1) :
    ∃ n1 : ℤ, value? (round (total / 3.0 * (1.0 + variation))) = some (n1 : ℚ) ∧
      0 ≤ n1 ∧ n1 ≤ n := by
  have hthree : value? 3.0 = some 3 := by decide +kernel
  have hone : value? 1.0 = some 1 := by decide +kernel
  have hpos : (0 : ℚ) ≤ n := by exact_mod_cast hn.1
  have hroom : |n| < 2 ^ 53 := by rw [abs_of_nonneg hn.1]; exact hn.2
  obtain ⟨r, hr, hr0, hr1⟩ := hvariation
  -- A third may be rounded up, but not to more than a half, and the factor is two at most.
  obtain ⟨share, hshare, hshare0, hshare1⟩ := approximates_div htotal hthree (by norm_num) 0 (n / 2)
    isDouble_zero (isDouble_half hroom) (by positivity) (by linarith)
  obtain ⟨factor, hfactor, hfactor0, hfactor1⟩ := approximates_add hone hr 0 2 isDouble_zero
    (by exact_mod_cast isDouble_intCast (n := 2) (by decide)) (by linarith) (by linarith)
  obtain ⟨y, hy, hy0, hy1⟩ := approximates_mul hshare hfactor 0 n isDouble_zero
    (isDouble_intCast hroom) (by positivity) (by nlinarith)
  obtain ⟨n1, hn1, hbetween⟩ := exists_value?_round hy
  exact ⟨n1, hn1, (hbetween 0).1 (by exact_mod_cast hy0), (hbetween n).2 hy1⟩

/-- Whole watts are subtracted exactly. -/
private theorem value?_sub_of_whole {x y : Float} {n m : ℤ} (hx : value? x = some (n : ℚ))
    (hy : value? y = some (m : ℚ)) (hroom : |n - m| < 2 ^ 53) :
    value? (x - y) = some ((n - m : ℤ) : ℚ) := by
  have hnear := approximates_sub hx hy
  rw [← Int.cast_sub] at hnear
  exact hnear.exact (isDouble_intCast hroom)

/-- The phases of a power in whole watts add up to it. -/
theorem splitPhases_balanced {limit : ℤ} (hlimit : limit < 2 ^ 53) {power imbalance : Float}
    (himbalance : Within imbalance 0 100)
    (hpower : parts power = .nan ∨ ∃ n : ℤ, value? power = some (n : ℚ) ∧ 0 ≤ n ∧ n ≤ limit) :
    Ends (splitPhases power imbalance) (Balanced limit power) fun _ => True := by
  have hbound : Within (imbalance / 100.0) 0 1 := by
    have hpercent : value? 100.0 = some 100 := by decide +kernel
    obtain ⟨i, hi, hi0, hi1⟩ := himbalance
    exact approximates_div hi hpercent (by norm_num) 0 1 isDouble_zero isDouble_one
      (by positivity) (by linarith)
  have hdraw := Chance.around_within hbound
  unfold splitPhases
  dsimp only
  refine hdraw.bind fun r1 hr1 => hdraw.bind fun r2 hr2 => .pure ?_
  rcases hpower with hnan | ⟨n, hn, hn0, hn1⟩
  · have htotal := parts_round_of_nan hnan
    have hphase (r : Float) : parts (round (round power / 3.0 * (1.0 + r))) = .nan :=
      parts_round_of_nan (parts_mul_of_nan (parts_div_of_nan htotal _) _)
    exact .nans hnan (hphase r1) (hphase r2) (parts_sub_of_nan (parts_sub_of_nan htotal _) _)
  · have htotal := value?_round_of_whole hn
    obtain ⟨n1, hl1, hn1⟩ := exists_value?_phase ⟨hn0, by omega⟩ htotal hr1
    obtain ⟨n2, hl2, hn2⟩ := exists_value?_phase ⟨hn0, by omega⟩ htotal hr2
    have hrest : value? (round power - round (round power / 3.0 * (1.0 + r1))) =
        some ((n - n1 : ℤ) : ℚ) :=
      value?_sub_of_whole htotal hl1 (abs_lt.2 ⟨by omega, by omega⟩)
    exact .numbers n n1 n2 ⟨hn0, by omega⟩ hn1 hn2 hn hl1 hl2
      (value?_sub_of_whole hrest hl2 (abs_lt.2 ⟨by omega, by omega⟩))

/-- So are the power and the phases of every tick. -/
theorem Engine.beat_balanced (e : Engine) {rated : ℚ} {limit : ℤ}
    (hrated : value? e.parameters.ratedPower = some rated) (hpos : 0 ≤ rated)
    (hle : rated ≤ limit) (hlimit : limit < 2 ^ 53)
    (himbalance : Within e.parameters.phaseImbalance 0 100) (c : Commands) (now : DateTime)
    (elapsed : Float) :
    Ends (e.beat c now elapsed)
      (fun r => Balanced limit r.1.summary.power r.1.summary.phases) fun _ => True := by
  have hzero : value? 0.0 = some 0 := by decide +kernel
  unfold beat
  refine Ends.bind (.any _) fun transition _ => ?_
  refine Ends.bind (.any _) fun sky _ => ?_
  dsimp only
  refine Ends.ite_bind (P := fun raw => parts raw = .nan ∨ Within raw 0 limit) (fun _ => ?_)
    (fun _ => .pure (.inr ⟨0, hzero, le_rfl, hpos.trans hle⟩)) fun raw hraw => ?_
  · refine (powerOutput_within hrated hpos now _).mono (fun raw hraw => ?_) fun _ h => h
    exact hraw.imp_right fun ⟨q, hq, hq0, hq1⟩ => ⟨q, hq, hq0, hq1.trans hle⟩
  refine Ends.bind (splitPhases_balanced hlimit himbalance (round_mul_derating hraw _))
    fun phases hphases => ?_
  refine Ends.bind (.any _) fun grid _ => ?_
  exact Ends.bind (.any _) fun carried _ => .pure hphases

end Plant

end SolarTwin

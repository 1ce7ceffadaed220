import SolarTwin.Proofs.Plant.Counting
import SolarTwin.Proofs.Plant.Reset

namespace SolarTwin

/-!
# The daily yield and the total yield

A tick adds the same energy to both yields, one after the other, and a reset takes the daily yield
back to zero on its own.  Counters of one kind stop at the same number, so the smaller one stays the
smaller one: the daily yield is never above the total one.

* `Value.Within.raised` — counters of one kind keep their order while they count on;
* `Plant.Twin.Yields` — a daily yield that is within the total one;
* `Plant.Twin.Yields.tick` and `Plant.Twin.Yields.serve` — what an event makes of the two;
* `Plant.daily_yield_within_total` — the law for a run, and what the next tick adds;
* `Plant.long_total_falls` — a total beyond the signed integers, which does not grow with the daily
  yield.
-/

/-! ### Counters side by side -/

namespace Value

/-- Two counters of one kind, the first not above the second. -/
structure Within (v w : Value) : Prop where
  kind : v.kind = w.kind
  nonneg : 0 ≤ v.number
  le : v.number ≤ w.number

/-- A counter does not become negative. -/
private theorem number_raised_nonneg {v : Value} (h : 0 ≤ v.number) (n : Nat) :
    0 ≤ (v.raised n).number := by
  have hmin := v.le_number_raised n
  simp only [Binary64.maxSigned64] at hmin
  omega

/-- It counts everything exactly where the sum is within its kind, and within the signed integers of
    64 bits if anything is counted at all. -/
theorem number_raised_eq_add_iff {v : Value} (h : 0 ≤ v.number) (n : Nat) :
    (v.raised n).number = v.number + n ↔
      v.number + n ≤ v.kind.hi ∧
        (n = 0 ∨ v.kind ≠ .u64 ∨ v.number + n ≤ Binary64.maxSigned64) := by
  rcases Nat.eq_zero_or_pos n with rfl | hn
  · have hhi := v.le_hi
    simp [hhi]
  · have hsome : n ≠ 0 := by omega
    rw [← hi_le_maxSigned64_iff, v.number_raised hn]
    simp only [hsome, false_or]
    omega

namespace Within

variable {v w : Value}

theorem zero (h : v.Within w) : (Value.zero v.kind).Within w :=
  ⟨h.kind, Int.le_refl 0, Int.le_trans h.nonneg h.le⟩

/-- Counters of one kind stop at the same number, so counting on keeps their order. -/
theorem raised (h : v.Within w) (n : Nat) : (v.raised n).Within (w.raised n) where
  kind := by rw [kind_raised, kind_raised, h.kind]
  nonneg := number_raised_nonneg h.nonneg n
  le := by
    rcases Nat.eq_zero_or_pos n with rfl | hn
    · exact h.le
    · have hle := h.le
      rw [v.number_raised hn, w.number_raised hn, h.kind]
      omega

/-- Both count everything exactly if the second does. -/
theorem raised_eq_add_iff (h : v.Within w) (n : Nat) :
    ((v.raised n).number = v.number + n ∧ (w.raised n).number = w.number + n) ↔
      w.number + n ≤ w.kind.hi ∧
        (n = 0 ∨ w.kind ≠ .u64 ∨ w.number + n ≤ Binary64.maxSigned64) := by
  have hle := h.le
  have hnonneg := Int.le_trans h.nonneg hle
  rw [number_raised_eq_add_iff h.nonneg, number_raised_eq_add_iff hnonneg, h.kind]
  constructor
  · exact And.right
  · rintro ⟨hhi, hlimit⟩
    refine ⟨⟨by omega, ?_⟩, hhi, hlimit⟩
    rcases hlimit with hnone | hkind | hsigned
    · exact .inl hnone
    · exact .inr (.inl hkind)
    · exact .inr (.inr (by omega))

end Within

end Value

namespace Plant

namespace Twin

/-- The two yields are counters of one kind, and the daily one is not above the total one. -/
structure Yields (t : Twin) (v w : Value) : Prop where
  daily : t.bank.logical? Point.dailyYield = some v
  total : t.bank.logical? Point.totalYield = some w
  within : v.Within w

namespace Yields

variable {t t' : Twin} {daily total : Value}

/-- A tick adds the same to both, once the daily yield has started again if it does. -/
theorem tick (h : t.Yields daily total) {now : DateTime} {elapsed : Float} {beat : Beat}
    (hticks : t.TicksTo now elapsed beat t') :
    t'.Yields
      ((if t.engine.resetsAt now then Value.zero daily.kind else daily).raised
        beat.increments.energy)
      (total.raised beat.increments.energy) := by
  have hdaily := hticks.logical?_of_counter (x := Point.dailyYield) (by decide)
  have htotal := hticks.logical?_of_counter (x := Point.totalYield) (by decide)
  have hother : Point.totalYield ≠ Point.dailyYield := by decide
  rw [h.daily, Option.map_some] at hdaily
  rw [h.total, Option.map_some] at htotal
  simp only [and_true] at hdaily
  simp only [hother, and_false, if_false] at htotal
  refine { daily := hdaily, total := htotal, within := ?_ }
  -- Zero is within what the daily yield was within.
  split
  · exact h.within.zero.raised beat.increments.energy
  · exact h.within.raised beat.increments.energy

/-- Clients do not reach either of them. -/
theorem serve (h : t.Yields daily total) (unit : UInt8) (pdu : List UInt8) :
    Yields { t with bank := (t.bank.serve unit pdu).bank } daily total where
  daily := (t.bank.logical?_serve (by decide) unit pdu).trans h.daily
  total := (t.bank.logical?_serve (by decide) unit pdu).trans h.total
  within := h.within

theorem step (h : t.Yields daily total) {e : Event} (hstep : t.step e = .ok t') :
    ∃ daily' total', t'.Yields daily' total' ∧ total'.kind = total.kind := by
  cases e with
  | request unit pdu =>
    obtain rfl := Except.ok.inj hstep
    exact ⟨daily, total, h.serve unit pdu, rfl⟩
  | tick now elapsed =>
    obtain ⟨beat, hticks⟩ := step_tick_iff.1 hstep
    exact ⟨_, _, h.tick hticks, total.kind_raised _⟩

theorem after (h : t.Yields daily total) {es : List Event} (hrun : t.after es = .ok t') :
    ∃ daily' total', t'.Yields daily' total' ∧ total'.kind = total.kind := by
  refine after_induction (P := fun u => ∃ daily' total', u.Yields daily' total' ∧
    total'.kind = total.kind) ?_ hrun ⟨daily, total, h, rfl⟩
  rintro u u' e hstep ⟨daily', total', hyields, hkind⟩
  obtain ⟨daily'', total'', hyields', hkind'⟩ := hyields.step hstep
  exact ⟨daily'', total'', hyields', hkind'.trans hkind⟩

end Yields

end Twin

/-- **The daily yield is within the total yield.**  It is so behind every run of ticks and requests
    that begins so, whatever the kind of the two counters.  A tick that does not reset adds the
    energy that it has computed to both, and both take it all exactly if the total yield stays
    within its kind, and an unsigned counter of 64 bits also within the signed integers. -/
theorem daily_yield_within_total {t t' : Twin} {daily total : Value} (h : t.Yields daily total)
    {es : List Twin.Event} (hrun : t.after es = .ok t') :
    ∃ daily' total', t'.Yields daily' total' ∧ total'.kind = total.kind ∧
      ∀ (now : DateTime) (elapsed : Float) (beat : Beat) (t'' : Twin),
        t'.TicksTo now elapsed beat t'' → t'.engine.resetsAt now = false →
          t''.Yields (daily'.raised beat.increments.energy) (total'.raised beat.increments.energy) ∧
          ((daily'.raised beat.increments.energy).number = daily'.number + beat.increments.energy ∧
              (total'.raised beat.increments.energy).number =
                total'.number + beat.increments.energy ↔
            total'.number + beat.increments.energy ≤ total'.kind.hi ∧
              (beat.increments.energy = 0 ∨ total'.kind ≠ .u64 ∨
                total'.number + beat.increments.energy ≤ Binary64.maxSigned64)) := by
  obtain ⟨daily', total', hyields, hkind⟩ := h.after hrun
  refine ⟨daily', total', hyields, hkind, fun now elapsed beat t'' hticks hnot => ⟨?_, ?_⟩⟩
  · have htick := hyields.tick hticks
    rwa [hnot, if_neg Bool.false_ne_true] at htick
  · exact hyields.within.raised_eq_add_iff beat.increments.energy

theorem daily_yield_within_total_morning :
    ∃ t' daily' total', yieldTwin.after morning = .ok t' ∧
      t'.Yields daily' total' ∧ total'.kind = .u32 := by
  have hyields : yieldTwin.Yields (.clamp .u32 7) (.clamp .u32 1000) :=
    { daily := by decide +kernel
      total := by decide +kernel
      within := ⟨rfl, by decide, by decide⟩ }
  obtain ⟨t', hrun⟩ := exists_ok (x := yieldTwin.after morning) (by decide +kernel)
  obtain ⟨daily', total', hyields', hkind, -⟩ := daily_yield_within_total hyields hrun
  exact ⟨t', daily', total', hrun, hyields', hkind⟩

/-- A bank whose total yield is an unsigned counter of 64 bits, beyond the signed ones. -/
def longYieldBank : Bank where
  registers :=
    [ ⟨30513, .clamp .u64 18000000000000000000, .fix0, .readOnly, "total yield"⟩,
      ⟨30517, .clamp .u64 0, .fix0, .readOnly, "daily yield"⟩ ]
  wellLaid := ⟨by decide, by decide⟩

/-- Five watt hours more make this total fall, and the daily yield grow. -/
theorem long_total_falls :
    (longYieldBank.logical? Point.totalYield).map (·.number) = some 18000000000000000000 ∧
      ((Board.accumulate ⟨longYieldBank, []⟩ ⟨0, 0, 5, 0⟩).bank.logical? Point.totalYield).map
        (·.number) = some 9223372036854775807 ∧
      ((Board.accumulate ⟨longYieldBank, []⟩ ⟨0, 0, 5, 0⟩).bank.logical? Point.dailyYield).map
        (·.number) = some 5 := by
  decide +kernel

end Plant

end SolarTwin

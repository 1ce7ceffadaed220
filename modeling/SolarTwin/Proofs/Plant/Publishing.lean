import SolarTwin.Plant.Engine
import SolarTwin.Proofs.Bank.Registers

namespace SolarTwin

/-!
# What publishing does to the registers

Publishing stores one value after another.  Each is of the kind of its register, so it is always
stored, and it changes that register and no other.

* `Value.raised` — what a counter holds after it has counted on;
* `Plant.Board.logical?_publishCount`, `Plant.Board.logical?_add` — the effect of one step;
* `Plant.Board.logical?_accumulate` — all counters count on at once, each by its own increment;
* `Plant.Board.logical?_publishBeat_of_notMem` and `Plant.Board.logical?_publishBeat` — what a tick
  makes of a value that is no quantity, and of a counter.
-/

/-! ### Counting on -/

namespace Value

/-- The value of a counter that counts on: a negative one starts at zero, and counting ends at the
    greatest signed integer of 64 bits or at the greatest one of the kind. -/
def raised (v : Value) (n : Nat) : Value :=
  if n = 0 then v else clamp v.kind (min (max v.number 0 + n) Binary64.maxSigned64)

@[simp] theorem raised_zero (v : Value) : v.raised 0 = v := rfl

@[simp] theorem kind_raised (v : Value) (n : Nat) : (v.raised n).kind = v.kind := by
  unfold raised
  split <;> rfl

theorem number_raised (v : Value) {n : Nat} (hn : 0 < n) :
    (v.raised n).number = min (max v.number 0 + n) (min Binary64.maxSigned64 v.kind.hi) := by
  have hlo := v.kind.lo_le_zero
  have hhi := v.kind.zero_le_hi
  rw [raised, if_neg (by omega)]
  simp only [clamp, Binary64.maxSigned64]
  omega

/-- Only unsigned integers of 64 bits go beyond the signed ones. -/
theorem hi_le_maxSigned64_iff {k : Kind} : k.hi ≤ Binary64.maxSigned64 ↔ k ≠ .u64 := by
  cases k <;> decide

/-- The kind alone is where counting stops, unless an unsigned counter of 64 bits comes beyond the
    signed integers. -/
theorem number_raised_eq_iff (v : Value) {n : Nat} (hn : 0 < n) :
    (v.raised n).number = min (max v.number 0 + n) v.kind.hi ↔
      v.kind ≠ .u64 ∨ max v.number 0 + n ≤ Binary64.maxSigned64 := by
  rw [v.number_raised hn]
  by_cases hkind : v.kind = .u64
  · have hhi : v.kind.hi = 18446744073709551615 := by
      rw [hkind]
      rfl
    rw [hhi]
    simp only [hkind, Binary64.maxSigned64, ne_eq, not_true_eq_false, false_or]
    omega
  · have hhi := hi_le_maxSigned64_iff.2 hkind
    rw [Int.min_eq_right hhi]
    exact iff_of_true rfl (.inl hkind)

/-- Counting on takes nothing away but what is beyond the signed integers of 64 bits. -/
theorem le_number_raised (v : Value) (n : Nat) :
    min v.number Binary64.maxSigned64 ≤ (v.raised n).number := by
  rcases Nat.eq_zero_or_pos n with rfl | hn
  · exact Int.min_le_left ..
  · have hhi := v.le_hi
    rw [v.number_raised hn]
    omega

end Value

namespace Plant.Board

variable (b : Board)

/-! ### One step -/

@[simp] theorem bank_say (lines : Journal) : (b.say lines).bank = b.bank := rfl

/-- A value that can be stored is there, and nothing else changes. -/
theorem logical?_store (a : UInt16) (v : Value) (x : UInt16) :
    (b.store a v).bank.logical? x =
      if x = a ∧ (b.bank.setLogical a v).isOk then some v else b.bank.logical? x := by
  unfold store
  cases hset : b.bank.setLogical a v with
  | error e => simp [Except.isOk, Except.toBool]
  | ok bank => simp [Except.isOk, Except.toBool, Bank.logical?_setLogical hset]

/-- A value of the kind of its register is always stored. -/
theorem logical?_store_of_find? {a : UInt16} {r : Register} (hr : b.bank.find? a = some r)
    {v : Value} (hv : v.kind = r.kind) (x : UInt16) :
    (b.store a v).bank.logical? x = if x = a then some v else b.bank.logical? x := by
  have hok : (b.bank.setLogical a v).isOk = true :=
    Bank.setLogical_isOk_iff.2 ⟨_, Bank.logical?_of_find? hr, hv⟩
  simp only [logical?_store, hok, and_true]

theorem logical?_publishCount (a : UInt16) (n : Nat) (x : UInt16) :
    (b.publishCount a n).bank.logical? x =
      if x = a then
        (b.bank.logical? a).map fun v => Value.clamp v.kind (min n Binary64.maxSigned64)
      else b.bank.logical? x := by
  unfold publishCount
  cases hfind : b.bank.find? a with
  | none =>
    have hnone : b.bank.logical? a = none := by rw [Bank.logical?, hfind, Option.map_none]
    by_cases hx : x = a
    · rw [if_pos hx, hx, hnone, Option.map_none]
    · rw [if_neg hx]
  | some r =>
    rw [logical?_store_of_find? b hfind (Value.kind_clamp ..), Bank.logical?_of_find? hfind,
      Option.map_some]
    rfl

/-- Where zero is published, and only there, the value becomes zero. -/
theorem logical?_publishZero (c : Prop) [Decidable c] (a x : UInt16) :
    (if c then b.publishCount a 0 else b).bank.logical? x =
      (b.bank.logical? x).map fun v => if c ∧ x = a then Value.zero v.kind else v := by
  by_cases hc : c
  · rw [if_pos hc, logical?_publishCount]
    by_cases hx : x = a
    · simp only [hc, hx, and_self, if_true]
      refine congrArg (Option.map · _) (funext fun v => ?_)
      -- Zero lies within every kind.
      have hlo := v.kind.lo_le_zero
      have hhi := v.kind.zero_le_hi
      rw [Value.clamp, Value.zero, Value.mk.injEq]
      refine ⟨rfl, ?_⟩
      simp only [Binary64.maxSigned64]
      omega
    · simp [hx]
  · simp [hc]

/-- Publishing a quantity leaves every other register alone. -/
theorem logical?_publish_of_ne {a x : UInt16} (hx : x ≠ a) (quantity : Float) :
    (b.publish a quantity).bank.logical? x = b.bank.logical? x := by
  unfold publish
  split
  · rfl
  · next r hr => rw [logical?_store_of_find? b hr (Value.kind_clamp ..), if_neg hx]

/-- Counting on at a point changes the value there and no other. -/
theorem logical?_add (a : UInt16) (n : Nat) (x : UInt16) :
    (b.add a n).bank.logical? x =
      (b.bank.logical? x).map (·.raised (if x = a then n else 0)) := by
  unfold add
  by_cases hn : n = 0
  · simp [hn]
  · rw [if_neg hn, logical?_publishCount]
    by_cases hx : x = a
    · rw [if_pos hx, if_pos hx, hx]
      cases hold : b.bank.logical? a with
      | none => rfl
      | some v =>
        -- What is read back is the number, or zero if that is negative.
        have hcount : (b.count a : Int) = max v.number 0 := by
          simp only [count, hold, Option.bind_some, Value.toNat?]
          cases v.number with
          | ofNat m => simp [Int.toNat?]
          | negSucc m => simp [Int.toNat?]
        rw [Option.map_some, Option.map_some, Value.raised, if_neg hn, Int.natCast_add, hcount]
    · rw [if_neg hx, if_neg hx]
      simp

/-! ### A tick -/

/-- Publishing some quantities leaves every register alone that is none of their points. -/
theorem logical?_publishAll_of_notMem {quantities : List (UInt16 × Float)} {x : UInt16}
    (hx : x ∉ quantities.map Prod.fst) :
    (b.publishAll quantities).bank.logical? x = b.bank.logical? x := by
  induction quantities generalizing b with
  | nil => rfl
  | cons q quantities ih =>
    rw [List.map_cons, List.mem_cons, not_or] at hx
    rw [publishAll, List.foldl_cons]
    exact (ih (b.publish q.1 q.2) hx.2).trans (logical?_publish_of_ne b hx.1 q.2)

/-- Counts on at some points, in order. -/
def addAll (b : Board) (steps : List (UInt16 × Nat)) : Board :=
  steps.foldl (fun b (a, n) => b.add a n) b

/-- Counting on at different points changes each value by its own step and no other. -/
theorem logical?_addAll {steps : List (UInt16 × Nat)} (hnodup : (steps.map Prod.fst).Nodup)
    (x : UInt16) :
    (b.addAll steps).bank.logical? x =
      (b.bank.logical? x).map (·.raised ((steps.lookup x).getD 0)) := by
  induction steps generalizing b with
  | nil => simp [addAll]
  | cons step steps ih =>
    rw [List.map_cons, List.nodup_cons] at hnodup
    have hlater := ih (b.add step.1 step.2) hnodup.2
    rw [logical?_add, Option.map_map] at hlater
    refine hlater.trans (congrArg (Option.map · _) (funext fun v => ?_))
    show (v.raised _).raised _ = _
    by_cases hx : x = step.1
    · -- None of the steps that follow is about `x`.
      have hnone : steps.lookup x = none := by
        rw [List.lookup_eq_none_iff]
        intro later hlater
        rw [bne_iff_ne, hx]
        intro heq
        rw [heq] at hnodup
        exact hnodup.1 (List.mem_map_of_mem hlater)
      rw [if_pos hx, hnone, hx, List.lookup_cons_self]
      rfl
    · rw [if_neg hx, List.lookup_cons, beq_eq_false_iff_ne.2 hx]
      rfl

end Plant.Board

namespace Plant

/-- The points of the counters, and what each of them grows by. -/
def Increments.steps (i : Increments) : List (UInt16 × Nat) :=
  [ (Point.operatingTime, i.operating),
    (Point.feedInTime, i.feedIn),
    (Point.totalYield, i.energy),
    (Point.dailyYield, i.energy),
    (Point.gridConnections, i.hours) ]

/-- What the counter at a point grows by. -/
def Increments.at (i : Increments) (x : UInt16) : Nat := (i.steps.lookup x).getD 0

/-- The points of the counters. -/
def Point.counters : List UInt16 :=
  [operatingTime, feedInTime, totalYield, dailyYield, gridConnections]

/-- Every counter counts on by its own increment, and nothing else changes. -/
theorem Board.logical?_accumulate (b : Board) (i : Increments) (x : UInt16) :
    (b.accumulate i).bank.logical? x = (b.bank.logical? x).map (·.raised (i.at x)) := by
  have hnodup : (i.steps.map Prod.fst).Nodup := by
    show Point.counters.Nodup
    decide
  exact b.logical?_addAll hnodup x

/-- What is no counter does not grow. -/
theorem Increments.at_eq_zero {x : UInt16} (hx : x ∉ Point.counters) (i : Increments) :
    i.at x = 0 := by
  have hnone : i.steps.lookup x = none := by
    rw [List.lookup_eq_none_iff]
    intro step hstep
    rw [bne_iff_ne]
    rintro rfl
    exact hx (List.mem_map_of_mem hstep)
  rw [Increments.at, hnone, Option.getD_none]

/-- The points at which a tick publishes quantities. -/
def Point.quantities : List UInt16 :=
  [deviceStatus, gridContactor, acPower, acPowerL1, acPowerL2, acPowerL3, dcPowerA, dcVoltageA,
    dcCurrentA, dcPowerB, dcVoltageB, dcCurrentB, gridVoltageL1, gridVoltageL2, gridVoltageL3,
    gridCurrentL1, gridCurrentL2, gridCurrentL3, gridCurrent, gridFrequency, powerFactor,
    reactivePower, apparentPower, temperature]

theorem Beat.map_fst_points (t : Beat) : t.points.map Prod.fst = Point.quantities := rfl

/-- Where a tick publishes no quantity, it may let a value start again from zero, and then every
    counter counts on. -/
theorem Board.logical?_publishBeat_of_notMem (b : Board) (t : Beat) {x : UInt16}
    (hx : x ∉ Point.quantities) :
    (b.publishBeat t).bank.logical? x = (b.bank.logical? x).map fun v =>
      (if t.reset.isSome ∧ x = Point.dailyYield ∨
          t.transition.acknowledged ∧ x = Point.acknowledgeCommand then Value.zero v.kind
        else v).raised (t.increments.at x) := by
  rw [← t.map_fst_points] at hx
  simp only [publishBeat, bank_say, logical?_publishAll_of_notMem _ hx, logical?_accumulate,
    logical?_publishZero, Option.map_map]
  refine congrArg (Option.map · _) (funext fun v => ?_)
  by_cases hreset : t.reset.isSome ∧ x = Point.dailyYield
  · simp [hreset]
  · simp [hreset]

/-- Neither a quantity nor a command has its point at a counter. -/
theorem Point.notMem_quantities {x : UInt16} (hx : x ∈ counters) :
    x ∉ quantities ∧ x ≠ acknowledgeCommand := by
  simp only [counters, List.mem_cons, List.not_mem_nil, or_false] at hx
  rcases hx with rfl | rfl | rfl | rfl | rfl <;> decide

/-- What a tick makes of a counter: the daily yield may start again from zero, and then every
    counter counts on. -/
theorem Board.logical?_publishBeat (b : Board) (t : Beat) {x : UInt16}
    (hx : x ∈ Point.counters) :
    (b.publishBeat t).bank.logical? x = (b.bank.logical? x).map fun v =>
      (if t.reset.isSome ∧ x = Point.dailyYield then Value.zero v.kind else v).raised
        (t.increments.at x) := by
  obtain ⟨hquantity, hcommand⟩ := Point.notMem_quantities hx
  rw [b.logical?_publishBeat_of_notMem t hquantity]
  simp only [hcommand, and_false, or_false]

end Plant

end SolarTwin

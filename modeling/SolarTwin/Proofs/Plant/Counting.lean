import SolarTwin.Proofs.Modbus.Isolation
import SolarTwin.Proofs.Plant.Publishing
import SolarTwin.Proofs.Plant.Twin

namespace SolarTwin

/-!
# Counters only count on

A counter never falls while it counts on, and nothing else changes it: the quantities and the
commands have other points, and clients cannot write where the counters are.  There is one limit.
Numbers are published as signed integers of 64 bits, so an unsigned counter that starts beyond them
falls back to the greatest one.

* `Value.GrowsTo` — the value has lost nothing but what is beyond the signed integers of 64 bits;
* `Plant.Twin.CountsOn` and `Plant.Twin.countsOn_of_stepped` — what one event does to the counters;
* `Plant.counters_count_on` — the law of counting on, for one step and for a whole run;
* `Plant.long_counter_falls` — a counter beyond the limit that falls.
-/

/-! ### Growing -/

namespace Value

/-- Another value of the same kind, which is not less but for what is beyond the signed integers of
    64 bits. -/
structure GrowsTo (v v' : Value) : Prop where
  kind : v'.kind = v.kind
  number : min v.number Binary64.maxSigned64 ≤ v'.number

theorem growsTo_refl (v : Value) : v.GrowsTo v := ⟨rfl, Int.min_le_left ..⟩

theorem GrowsTo.trans {v v' v'' : Value} (h : v.GrowsTo v') (h' : v'.GrowsTo v'') :
    v.GrowsTo v'' where
  kind := h'.kind.trans h.kind
  number := by
    have := h.number
    have := h'.number
    omega

theorem growsTo_raised (v : Value) (n : Nat) : v.GrowsTo (v.raised n) :=
  ⟨v.kind_raised n, v.le_number_raised n⟩

end Value

namespace Plant

open Modbus

/-! ### Runs -/

/-- A counter ends below the registers that clients can write. -/
private theorem endAddress_le_of_counter {r : Register} (hr : r.address ∈ Point.counters) :
    r.endAddress ≤ Bank.holdingBase := by
  refine Bank.endAddress_le_of_address ?_
  simp only [Point.counters, List.mem_cons, List.not_mem_nil, or_false] at hr
  rcases hr with hr | hr | hr | hr | hr <;> rw [hr] <;> decide

namespace Twin

/-- The value of the register that starts at a point has grown, if there is one. -/
def GrowsAt (x : UInt16) (t t' : Twin) : Prop :=
  ∀ v, t.bank.logical? x = some v → ∃ v', t'.bank.logical? x = some v' ∧ v.GrowsTo v'

instance (x : UInt16) : IsTrans Twin (GrowsAt x) where
  trans t t' t'' h h' v hv := by
    obtain ⟨v', hv', hgrows⟩ := h v hv
    obtain ⟨v'', hv'', hgrows'⟩ := h' v' hv'
    exact ⟨v'', hv'', hgrows.trans hgrows'⟩

/-- Every counter has grown, but for a daily yield that has started again. -/
def CountsOn (t t' : Twin) : Prop :=
  ∀ x ∈ Point.counters, (x = Point.dailyYield → t'.engine.reset = t.engine.reset) →
    GrowsAt x t t'

/-- No event makes a counter fall. -/
theorem countsOn_of_stepped {t t' : Twin} (h : t.Stepped t') : t.CountsOn t' := by
  intro x hx hreset v hv
  cases h with
  | request unit pdu =>
    -- The register is out of the reach of the client.
    obtain ⟨r, hr, rfl, rfl⟩ := Bank.exists_mem_of_logical? hv
    have hkept := Bank.mem_serve hr (.inr (endAddress_le_of_counter hx)) unit pdu
    exact ⟨r.value, Bank.logical?_of_mem hkept, r.value.growsTo_refl⟩
  | @tick now beat engine hticked =>
    have hbeat := Board.logical?_publishBeat ⟨t.bank, []⟩ beat hx
    have hnone : ¬ (beat.reset.isSome ∧ x = Point.dailyYield) := by
      rintro ⟨hsome, hdaily⟩
      exact hticked.reset hsome (hreset hdaily)
    refine ⟨v.raised (beat.increments.at x), ?_, v.growsTo_raised _⟩
    rw [hbeat, hv, Option.map_some, if_neg hnone]

end Twin

/-- **Counters only count on.**  Counting on by a positive number takes a counter of any kind from its
    value, or from zero if that is negative, to the sum, as far as the kind and the signed integers
    of 64 bits go; the kind alone is where it stops exactly unless an unsigned counter of 64 bits
    comes beyond these.  Along every run no counter falls, except for what is beyond them and for
    the daily yield where it starts again. -/
theorem counters_count_on (b : Board) {x : UInt16} {v : Value}
    (hv : b.bank.logical? x = some v) {n : Nat} (hn : 0 < n) (t : Twin) (es : List Twin.Event) :
    (∃ v', (b.add x n).bank.logical? x = some v' ∧ v'.kind = v.kind ∧
      v'.number = min (max v.number 0 + n) (min Binary64.maxSigned64 v.kind.hi) ∧
      (v'.number = min (max v.number 0 + n) v.kind.hi ↔
        v.kind ≠ .u64 ∨ max v.number 0 + n ≤ Binary64.maxSigned64)) ∧
    (t.visited es).IsChain Twin.CountsOn ∧
    ∀ y ∈ Point.counters, y ≠ Point.dailyYield → (t.visited es).Pairwise (Twin.GrowsAt y) := by
  have hchain := t.isChain_visited Twin.countsOn_of_stepped es
  refine ⟨⟨v.raised n, ?_, v.kind_raised n, v.number_raised hn, v.number_raised_eq_iff hn⟩,
    hchain, fun y hy hdaily => ?_⟩
  · rw [b.logical?_add, hv, Option.map_some, if_pos rfl]
  · have hgrows : (t.visited es).IsChain (Twin.GrowsAt y) :=
      hchain.imp fun _ _ hcounts => hcounts y hy fun hy => absurd hy hdaily
    exact List.isChain_iff_pairwise.1 hgrows

/-- A bank with the time of operation in an unsigned counter of 32 bits that is almost full. -/
def fullBank : Bank where
  registers := [⟨30521, .clamp .u32 4294967290, .duration, .readOnly, "operating time"⟩]
  wellLaid := ⟨by decide, by decide⟩

/-- A request to stop, and a tick of five seconds. -/
def stopEvents : List Twin.Event :=
  [.request 1 [6, 0, 8, 1, 125], .tick ⟨⟨2024, 6, 20⟩, 1, 0, 0⟩ 5.0]

theorem counters_count_on_fullBank :
    ((Board.add ⟨fullBank, []⟩ Point.operatingTime 10).bank.logical? Point.operatingTime).map
      (·.number) = some 4294967295 ∧
    (Twin.visited ⟨.initial {} (.ofSeed 1), fullBank⟩ stopEvents).Pairwise
      (Twin.GrowsAt Point.operatingTime) := by
  have hv : fullBank.logical? Point.operatingTime = some (.clamp .u32 4294967290) := by
    decide +kernel
  obtain ⟨⟨v', hv', -, hnumber, -⟩, -, hgrows⟩ := counters_count_on ⟨fullBank, []⟩ hv
    (by decide : 0 < 10) ⟨.initial {} (.ofSeed 1), fullBank⟩ stopEvents
  refine ⟨?_, hgrows Point.operatingTime (by decide) (by decide)⟩
  rw [hv', Option.map_some, hnumber]
  decide +kernel

/-- A bank with the time of operation in an unsigned counter of 64 bits, beyond the signed ones. -/
def longBank : Bank where
  registers := [⟨30521, .clamp .u64 18000000000000000000, .raw, .readOnly, "operating time"⟩]
  wellLaid := ⟨by decide, by decide⟩

/-- Five seconds more make this counter fall. -/
theorem long_counter_falls :
    (longBank.logical? Point.operatingTime).map (·.number) = some 18000000000000000000 ∧
      ((Board.add ⟨longBank, []⟩ Point.operatingTime 5).bank.logical? Point.operatingTime).map
        (·.number) = some 9223372036854775807 := by
  decide +kernel

end Plant

end SolarTwin

import SolarTwin.Proofs.Bank.Stores
import SolarTwin.Proofs.Plant.Publishing
import SolarTwin.Proofs.Plant.Twin

namespace SolarTwin

/-!
# What the plant leaves alone

The plant stores values at its points only, and every store goes through: it is made where a register
starts, with a value of the kind of that register.  So a point inside of a wider register is passed
over, and a register that starts at no point is never changed.

* `Plant.Board.Publishes` — from one board to another values have been stored at some points;
* `Plant.Board.publishIdentity_publishes`, `Plant.Board.publishBeat_publishes` — the points of the
  launch and of a tick;
* `Plant.Board.logical?_publishIdentity`, `Plant.Board.logical?_publishBeat_of_mem` — what is stored
  there;
* `Plant.engine_frame` — all of it along a run.
-/

open Relation (ReflTransGen)

namespace Slot

/-- A number that is to be stored, in the scale of the slot it is for. -/
abbrev Number := Slot → Int

/-- A quantity in the format of the slot. -/
def scaled (quantity : Float) : Number := fun s => s.format.toRaw quantity

/-- A count of at most 64 bits with sign, whatever the slot is. -/
def counted (n : Nat) : Number := fun _ => min n Binary64.maxSigned64

/-- The value of a slot that is nearest to a number. -/
def nearest (s : Slot) (number : Number) : Value := Value.clamp s.kind (number s)

end Slot

namespace Plant.Board

/-! ### Publishing goes through -/

/-- From one board to another some values have been stored at points, each with success, and only
    these lines have been written into the journal. -/
structure Publishes (points : List UInt16) (lines : Journal) (b b' : Board) : Prop where
  stores : ReflTransGen (Bank.Stored points) b.bank b'.bank
  journal : b'.journal = b.journal ++ lines

namespace Publishes

variable {points points' : List UInt16} {lines lines' : Journal} {b b' b'' : Board}

theorem refl (b : Board) : b.Publishes points [] b := ⟨.refl, (List.append_nil _).symm⟩

theorem say (b : Board) (lines : Journal) : b.Publishes points lines (b.say lines) := ⟨.refl, rfl⟩

theorem trans (h : b.Publishes points lines b') (h' : b'.Publishes points lines' b'') :
    b.Publishes points (lines ++ lines') b'' where
  stores := h.stores.trans h'.stores
  journal := by rw [h'.journal, h.journal, List.append_assoc]

theorem mono (hpoints : points ⊆ points') (h : b.Publishes points lines b') :
    b.Publishes points' lines b' :=
  ⟨Bank.stores_mono hpoints h.stores, h.journal⟩

theorem slots (h : b.Publishes points lines b') : b'.bank.slots = b.bank.slots :=
  Bank.slots_of_stores h.stores

/-- Publishing one thing after another, each at its own point. -/
theorem foldl {α : Type} {f : Board → α → Board} (point : α → UInt16)
    (hf : ∀ (b : Board) x, b.Publishes [point x] [] (f b x)) (xs : List α) (b : Board) :
    b.Publishes (xs.map point) [] (xs.foldl f b) := by
  induction xs generalizing b with
  | nil => exact .refl b
  | cons x xs ih =>
    have hfirst := (hf b x).mono (List.cons_subset_cons (point x) (List.nil_subset (xs.map point)))
    exact hfirst.trans ((ih (f b x)).mono (List.subset_cons_self ..))

end Publishes

variable (b : Board)

/-- Stores a number in the register that starts at a point, if there is one. -/
def put (a : UInt16) (number : Slot.Number) : Board :=
  match b.bank.find? a with
  | none => b
  | some r => b.store a (r.slot.nearest number)

theorem publish_eq_put (a : UInt16) (quantity : Float) :
    b.publish a quantity = b.put a (Slot.scaled quantity) := rfl

theorem publishCount_eq_put (a : UInt16) (n : Nat) :
    b.publishCount a n = b.put a (Slot.counted n) := rfl

/-- What is put is of the kind of its register, so it is stored. -/
theorem put_publishes (a : UInt16) (number : Slot.Number) :
    b.Publishes [a] [] (b.put a number) := by
  unfold put
  cases hr : b.bank.find? a with
  | none => exact .refl b
  | some r =>
    -- The nearest value is one of the kind of the register, whatever the number is.
    have hset : b.bank.setLogical a (r.slot.nearest number) = .ok _ :=
      Bank.setLogical_eq_ok_iff.2 ⟨r, rfl, hr, rfl⟩
    simp only [store, hset]
    exact ⟨.single ⟨a, List.mem_singleton_self a, r.slot.nearest number, hset⟩,
      (List.append_nil _).symm⟩

theorem logical?_put (a : UInt16) (number : Slot.Number) :
    (b.put a number).bank.logical? a = (b.bank.slot? a).map (·.nearest number) := by
  unfold put
  cases hr : b.bank.find? a with
  | none =>
    have hnone := Bank.slot?_of_find?_eq_none hr
    rw [hnone, Option.map_none]
    exact Bank.logical?_eq_none_of_slot? hnone
  | some r =>
    have hkind : (r.slot.nearest number).kind = r.kind := rfl
    rw [Bank.slot?_of_find? hr, Option.map_some]
    simp only [b.logical?_store_of_find? hr hkind, if_true]

/-- A point inside of a register that starts before it is passed over. -/
theorem put_of_inside {r : Register} (hr : r ∈ b.bank.registers) {x : UInt16}
    (hx : r.owns x = true) (hne : r.address ≠ x) (number : Slot.Number) : b.put x number = b := by
  have hnone : b.bank.find? x = none := by
    rw [Bank.find?_eq_none_iff]
    -- A register that starts at the point would own it too.
    rintro s hs rfl
    exact hne (congrArg Register.address (Bank.eq_of_owns hr hs hx s.owns_address))
  rw [put, hnone]

theorem add_publishes (a : UInt16) (n : Nat) : b.Publishes [a] [] (b.add a n) := by
  unfold add
  split
  · exact .refl b
  · rw [publishCount_eq_put]
    exact b.put_publishes a _

theorem add_of_inside {r : Register} (hr : r ∈ b.bank.registers) {x : UInt16}
    (hx : r.owns x = true) (hne : r.address ≠ x) (n : Nat) : b.add x n = b := by
  unfold add
  split
  · rfl
  · rw [publishCount_eq_put, b.put_of_inside hr hx hne]

/-! ### Putting at many points -/

/-- Puts numbers at points, in order. -/
def putAll (numbers : List (UInt16 × Slot.Number)) : Board :=
  numbers.foldl (fun b q => b.put q.1 q.2) b

theorem putAll_publishes (numbers : List (UInt16 × Slot.Number)) :
    b.Publishes (numbers.map Prod.fst) [] (b.putAll numbers) :=
  .foldl Prod.fst (fun b q => b.put_publishes q.1 q.2) numbers b

/-- Different points do not disturb each other. -/
theorem logical?_putAll {numbers : List (UInt16 × Slot.Number)}
    (hnodup : (numbers.map Prod.fst).Nodup) {x : UInt16} {number : Slot.Number}
    (hx : (x, number) ∈ numbers) :
    (b.putAll numbers).bank.logical? x = (b.bank.slot? x).map (·.nearest number) := by
  induction numbers generalizing b with
  | nil => cases hx
  | cons first later ih =>
    rw [List.map_cons, List.nodup_cons] at hnodup
    show ((b.put first.1 first.2).putAll later).bank.logical? x = _
    rcases List.mem_cons.1 hx with rfl | hlater
    -- What comes later is at other points; what came first has left the slots as they were.
    · rw [Bank.logical?_of_stores (putAll_publishes _ later).stores hnodup.1, logical?_put]
    · rw [ih _ hnodup.2 hlater, Bank.slot?_congr (b.put_publishes _ _).slots]

/-- Publishing quantities is putting them all. -/
theorem publishAll_eq_putAll (quantities : List (UInt16 × Float)) :
    b.publishAll quantities = b.putAll (quantities.map fun q => (q.1, Slot.scaled q.2)) := by
  rw [putAll, List.foldl_map]
  rfl

theorem publishAll_publishes (quantities : List (UInt16 × Float)) :
    b.Publishes (quantities.map Prod.fst) [] (b.publishAll quantities) := by
  have hput := b.putAll_publishes (quantities.map fun q => (q.1, Slot.scaled q.2))
  rwa [← publishAll_eq_putAll, List.map_map] at hput

theorem logical?_publishAll {quantities : List (UInt16 × Float)}
    (hnodup : (quantities.map Prod.fst).Nodup) {x : UInt16} {quantity : Float}
    (hx : (x, quantity) ∈ quantities) :
    (b.publishAll quantities).bank.logical? x =
      (b.bank.slot? x).map (·.nearest (Slot.scaled quantity)) := by
  rw [publishAll_eq_putAll]
  refine b.logical?_putAll ?_ (List.mem_map_of_mem hx)
  rwa [List.map_map]

theorem accumulate_publishes (i : Increments) : b.Publishes Point.counters [] (b.accumulate i) :=
  .foldl Prod.fst (fun b step => b.add_publishes step.1 step.2) i.steps b

end Plant.Board

namespace Plant

/-! ### The launch -/

/-- The points that say who the device is. -/
def Point.identity : List UInt16 :=
  [susyId, susyIdMirror, serialNumber, serialNumberMirror, deviceClass, manufacturer,
    softwarePackage, ratedPower]

/-- What is published there. -/
def identityNumbers (i : Identity) (ratedPower : Float) : List (UInt16 × Slot.Number) :=
  [ (Point.susyId, Slot.counted i.susyId.toNat),
    (Point.susyIdMirror, Slot.counted i.susyId.toNat),
    (Point.serialNumber, Slot.counted i.serialNumber.toNat),
    (Point.serialNumberMirror, Slot.counted i.serialNumber.toNat),
    (Point.deviceClass, Slot.counted i.deviceClass.toNat),
    (Point.manufacturer, Slot.counted i.manufacturer.toNat),
    (Point.softwarePackage, Slot.counted i.softwarePackage.toNat),
    (Point.ratedPower, Slot.scaled ratedPower) ]

private theorem map_fst_identityNumbers (i : Identity) (ratedPower : Float) :
    (identityNumbers i ratedPower).map Prod.fst = Point.identity := rfl

/-- The line of the journal about the identity. -/
def identityLine (i : Identity) : Line :=
  .debug s!"Published identity of unit {i.unit.toNat} (serial {i.serialNumber.toNat})"

namespace Board

variable (b : Board)

theorem publishIdentity_eq (i : Identity) (ratedPower : Float) :
    b.publishIdentity i ratedPower =
      (b.putAll (identityNumbers i ratedPower)).say [identityLine i] := by
  simp only [publishIdentity, putAll, identityNumbers, identityLine, List.foldl_cons,
    List.foldl_nil, publishCount_eq_put, publish_eq_put]

theorem publishIdentity_publishes (i : Identity) (ratedPower : Float) :
    b.Publishes Point.identity [identityLine i] (b.publishIdentity i ratedPower) := by
  rw [publishIdentity_eq, ← map_fst_identityNumbers i ratedPower]
  exact (b.putAll_publishes (identityNumbers i ratedPower)).trans (.say _ _)

theorem logical?_publishIdentity (i : Identity) (ratedPower : Float) {x : UInt16}
    {number : Slot.Number} (hx : (x, number) ∈ identityNumbers i ratedPower) :
    (b.publishIdentity i ratedPower).bank.logical? x =
      (b.bank.slot? x).map (·.nearest number) := by
  have hnodup : ((identityNumbers i ratedPower).map Prod.fst).Nodup := by
    rw [map_fst_identityNumbers]
    decide
  rw [publishIdentity_eq, bank_say]
  exact b.logical?_putAll hnodup hx

end Board

/-! ### A tick -/

/-- The points at which a tick may store. -/
def Point.ofTick (acknowledged : Bool) : List UInt16 :=
  quantities ++ counters ++ if acknowledged then [acknowledgeCommand] else []

theorem Point.ofTick_subset (acknowledged : Bool) : ofTick acknowledged ⊆ ofTick true := by
  cases acknowledged <;> decide

/-- Who the device is does not change in a tick. -/
theorem Point.notMem_ofTick_of_identity {x : UInt16} (hx : x ∈ identity) : x ∉ ofTick true := by
  simp only [identity, List.mem_cons, List.not_mem_nil, or_false] at hx
  rcases hx with rfl | rfl | rfl | rfl | rfl | rfl | rfl | rfl <;> decide

namespace Board

variable (b : Board)

/-- Publishing zero only under a condition. -/
theorem publishZero_publishes {points : List UInt16} {a : UInt16} {c : Prop} [Decidable c]
    (ha : c → a ∈ points) : b.Publishes points [] (if c then b.publishCount a 0 else b) := by
  split
  · next hc =>
    rw [publishCount_eq_put]
    exact (b.put_publishes a _).mono (List.cons_subset.2 ⟨ha hc, List.nil_subset _⟩)
  · exact .refl b

/-- A tick stores at its points only, and the journal gets its own lines and no others. -/
theorem publishBeat_publishes (t : Beat) :
    b.Publishes (Point.ofTick t.transition.acknowledged) (t.opening ++ t.course ++ t.closing)
      (b.publishBeat t) := by
  -- Each part of the tick stores at points of the tick, on whatever board the parts before leave.
  have hreset : b.Publishes (Point.ofTick t.transition.acknowledged) []
      (if t.reset.isSome then b.publishCount Point.dailyYield 0 else b) :=
    b.publishZero_publishes fun _ => by simp [Point.ofTick, Point.counters]
  have hack (b : Board) : b.Publishes (Point.ofTick t.transition.acknowledged) []
      (if t.transition.acknowledged then b.publishCount Point.acknowledgeCommand 0 else b) :=
    b.publishZero_publishes fun hused => by simp [Point.ofTick, hused]
  have hcount (b : Board) : b.Publishes (Point.ofTick t.transition.acknowledged) []
      (b.accumulate t.increments) :=
    (b.accumulate_publishes t.increments).mono (by simp [Point.ofTick])
  have hpoints (b : Board) : b.Publishes (Point.ofTick t.transition.acknowledged) []
      (b.publishAll t.points) :=
    (b.publishAll_publishes t.points).mono (by simp [t.map_fst_points, Point.ofTick])
  have hopened := (hreset.trans (.say _ t.opening)).trans (hack _)
  have hcounted := (hopened.trans (.say _ t.course)).trans (hcount _)
  have hclosed := (hcounted.trans (hpoints _)).trans (.say _ t.closing)
  simpa only [publishBeat, List.nil_append, List.append_nil] using hclosed

/-- What a tick stores at the point of a quantity. -/
theorem logical?_publishBeat_of_mem (t : Beat) {x : UInt16} {quantity : Float}
    (hx : (x, quantity) ∈ t.points) :
    (b.publishBeat t).bank.logical? x =
      (b.bank.slot? x).map (·.nearest (Slot.scaled quantity)) := by
  have hnodup : (t.points.map Prod.fst).Nodup := by
    rw [t.map_fst_points]
    decide
  -- The slot that the quantity finds is that of the bank before the tick.
  have hslots := (b.publishBeat_publishes t).slots
  simp only [publishBeat, bank_say] at hslots ⊢
  rw [logical?_publishAll _ hnodup hx]
  rw [(publishAll_publishes _ t.points).slots] at hslots
  rw [Bank.slot?_congr hslots]

end Board

/-- The journal of a tick has no warning. -/
private theorem Beat.level_ne_warn (t : Beat) :
    ∀ line ∈ t.opening ++ t.course ++ t.closing, line.level ≠ .warn := by
  intro line hline
  simp only [opening, course, closing, Transition.lines, List.mem_append, List.mem_map,
    List.mem_ite_nil_right, List.mem_singleton] at hline
  rcases hline with ((⟨_, _, rfl⟩ | ⟨_, rfl⟩) | ⟨_, _, rfl⟩ | ⟨_, rfl⟩) | rfl <;>
    simp [Line.info, Line.debug]

/-! ### Runs -/

namespace Twin

/-- A tick uses an acknowledgement up. -/
def Pass.acknowledges (p : Pass) : Bool := p.before.engine.state.isAcknowledged p.before.commands

namespace Pass.Made

variable {p : Pass} {beat : Beat}

theorem publishes (h : p.Made beat) :
    Board.Publishes (Point.ofTick p.acknowledges) (beat.opening ++ beat.course ++ beat.closing)
      ⟨p.before.bank, []⟩ ⟨p.after.bank, p.journal⟩ := by
  have hpublishes := Board.publishBeat_publishes ⟨p.before.bank, []⟩ beat
  rwa [h.board, h.moved.acknowledged] at hpublishes

theorem framed (h : p.Made beat) :
    Bank.Framed (Point.ofTick p.acknowledges) p.before.bank p.after.bank :=
  Bank.framed_of_stores h.publishes.stores

theorem level_ne_warn (h : p.Made beat) : ∀ line ∈ p.journal, line.level ≠ .warn := by
  have hjournal : p.journal = [] ++ (beat.opening ++ beat.course ++ beat.closing) :=
    h.publishes.journal
  rw [hjournal]
  exact beat.level_ne_warn

/-- A value that is no quantity and no counter stays, but for an acknowledgement that is used up. -/
theorem logical?_of_notMem (h : p.Made beat) {x : UInt16} (hquantity : x ∉ Point.quantities)
    (hcounter : x ∉ Point.counters) :
    p.after.bank.logical? x = (p.before.bank.logical? x).map fun v =>
      if p.acknowledges = true ∧ x = Point.acknowledgeCommand then Value.zero v.kind else v := by
  have hvalue := Board.logical?_publishBeat_of_notMem ⟨p.before.bank, []⟩ beat hquantity
  have hdaily : x ≠ Point.dailyYield := by
    rintro rfl
    exact hcounter (by decide)
  rw [h.board] at hvalue
  rw [hvalue]
  refine congrArg (Option.map · _) (funext fun v => ?_)
  rw [beat.increments.at_eq_zero hcounter, Value.raised_zero]
  refine if_congr ?_ rfl rfl
  simp [hdaily, h.moved.acknowledged, Pass.acknowledges]

end Pass.Made

/-- Since the first tick only values at points of a tick have been stored. -/
theorem stores_of_mem_passes {t : Twin} {ticks : List (DateTime × Float)} {p : Pass}
    (h : p ∈ t.passes ticks) :
    ReflTransGen (Bank.Stored (Point.ofTick true)) t.bank p.after.bank := by
  have hall := forall_mem_passes
    (P := fun t' => ReflTransGen (Bank.Stored (Point.ofTick true)) t.bank t'.bank)
    (fun hmade hstores =>
      hstores.trans (Bank.stores_mono (Point.ofTick_subset _) hmade.framed.stores))
    .refl ticks
  exact (hall p h).2

/-- A twin that has just been launched. -/
def launched (bank : Bank) (i : Identity) (p : Parameters) (source : Source) : Twin where
  engine := (Engine.launch bank i p source).1
  bank := (Engine.launch bank i p source).2.bank

theorem bank_launched (bank : Bank) (i : Identity) (p : Parameters) (source : Source) :
    (launched bank i p source).bank = (Board.publishIdentity ⟨bank, []⟩ i p.ratedPower).bank := by
  rw [launched, Engine.launch]

theorem framed_launched (bank : Bank) (i : Identity) (p : Parameters) (source : Source) :
    Bank.Framed Point.identity bank (launched bank i p source).bank := by
  rw [bank_launched]
  exact Bank.framed_of_stores (Board.publishIdentity_publishes ⟨bank, []⟩ i p.ratedPower).stores

/-- A register for who the device is holds what it got at the launch as long as nothing but ticks has
    followed. -/
theorem mem_of_identity {bank b : Bank} {i : Identity} {p : Parameters} {source : Source}
    (hstores : ReflTransGen (Bank.Stored (Point.ofTick true)) (launched bank i p source).bank b)
    {r : Register} (hr : r ∈ bank.registers) {number : Slot.Number}
    (hnumber : (r.address, number) ∈ identityNumbers i p.ratedPower) :
    { r with value := r.slot.nearest number } ∈ b.registers := by
  have hvalue := Board.logical?_publishIdentity ⟨bank, []⟩ i p.ratedPower hnumber
  rw [Bank.slot?_of_mem hr, Option.map_some, ← bank_launched bank i p source] at hvalue
  have hmem := Bank.mem_of_slots_of_logical? (framed_launched bank i p source).slots hr hvalue
  refine Bank.mem_of_stores hstores hmem ?_
  have hpoint : r.address ∈ Point.identity := by
    rw [← map_fst_identityNumbers i p.ratedPower]
    exact List.mem_map_of_mem hnumber
  exact Point.notMem_ofTick_of_identity hpoint

/-- Launch and ticks together store at the points of both only. -/
theorem framed_of_stores_launched {bank b : Bank} {i : Identity} {p : Parameters} {source : Source}
    (hstores : ReflTransGen (Bank.Stored (Point.ofTick true)) (launched bank i p source).bank b) :
    Bank.Framed (Point.identity ++ Point.ofTick true) bank b :=
  (framed_launched bank i p source).trans (Bank.framed_of_stores hstores)

end Twin

/-- **What the plant leaves alone.**  On any bank, the launch stores at the points of the identity
    only and a tick at its own points only, each time with success and without a warning.  An
    acknowledgement that is used up becomes zero, and no other tick stores at its point.  So all
    through a run every register that starts at no point is as it was at first, among them the
    operating command, and who the device is stays as it was launched.  A point inside of a register
    that starts before it is passed over. -/
theorem engine_frame (bank : Bank) (i : Identity) (p : Parameters) (source : Source)
    (ticks : List (DateTime × Float)) :
    (Bank.Framed Point.identity bank (Twin.launched bank i p source).bank ∧
      ∀ line ∈ (Engine.launch bank i p source).2.journal, line.level ≠ .warn) ∧
    (∀ pass ∈ (Twin.launched bank i p source).passes ticks,
      Bank.Framed (Point.ofTick pass.acknowledges) pass.before.bank pass.after.bank ∧
      (∀ line ∈ pass.journal, line.level ≠ .warn) ∧
      (pass.acknowledges = true → ∀ r ∈ pass.before.bank.registers,
        r.address = Point.acknowledgeCommand →
          { r with value := .zero r.kind } ∈ pass.after.bank.registers)) ∧
    (∀ b ∈ (Twin.launched bank i p source).bank ::
        ((Twin.launched bank i p source).passes ticks).map (·.after.bank),
      Bank.Framed (Point.identity ++ Point.ofTick true) bank b ∧
      (∀ r ∈ bank.registers, r.address = Point.operatingCommand → r ∈ b.registers) ∧
      ∀ r ∈ bank.registers, ∀ number, (r.address, number) ∈ identityNumbers i p.ratedPower →
        { r with value := r.slot.nearest number } ∈ b.registers) ∧
    ∀ (board : Board), ∀ r ∈ board.bank.registers, ∀ x, r.owns x = true → r.address ≠ x →
      ∀ quantity n, board.publish x quantity = board ∧ board.publishCount x n = board ∧
        board.add x n = board := by
  refine ⟨⟨Twin.framed_launched bank i p source, ?_⟩, fun pass hpass => ?_, fun b hb => ?_, ?_⟩
  · intro line hline
    rw [Engine.launch, (Board.publishIdentity_publishes ⟨bank, []⟩ i p.ratedPower).journal,
      List.nil_append, List.mem_singleton] at hline
    rw [hline]
    simp [identityLine, Line.debug]
  · obtain ⟨⟨beat, hmade⟩, -⟩ :=
      Twin.forall_mem_passes (P := fun _ => True) (fun _ _ => trivial) trivial ticks pass hpass
    refine ⟨hmade.framed, hmade.level_ne_warn, fun hack r hr hpoint => ?_⟩
    have hvalue := hmade.logical?_of_notMem (x := r.address) (by rw [hpoint]; decide)
      (by rw [hpoint]; decide)
    rw [Bank.logical?_of_mem hr, Option.map_some, if_pos ⟨hack, hpoint⟩] at hvalue
    exact Bank.mem_of_slots_of_logical? hmade.framed.slots hr hvalue
  · have hstores : ReflTransGen (Bank.Stored (Point.ofTick true))
        (Twin.launched bank i p source).bank b := by
      rcases List.mem_cons.1 hb with hfirst | hlater
      · rw [hfirst]
      · obtain ⟨pass, hpass, rfl⟩ := List.mem_map.1 hlater
        exact Twin.stores_of_mem_passes hpass
    have hframed := Twin.framed_of_stores_launched hstores
    refine ⟨hframed, fun r hr hpoint => hframed.kept r hr ?_, fun r hr number hnumber =>
      Twin.mem_of_identity hstores hr hnumber⟩
    rw [hpoint]
    decide
  · intro board r hr x hx hne quantity n
    rw [Board.publish_eq_put, Board.publishCount_eq_put]
    exact ⟨board.put_of_inside hr hx hne _, board.put_of_inside hr hx hne _,
      board.add_of_inside hr hx hne n⟩

end Plant

end SolarTwin

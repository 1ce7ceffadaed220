import SolarTwin.Proofs.Modbus.Commuting

namespace SolarTwin

open Modbus

/-!
# One wire address for each word

A function reaches the words from the start of its table on, each under one wire address, and no
word below.  A block only runs upwards from where it starts, so a word below the table is out of the
reach of every request: it is not changed, not even where the block begins inside its register, and
nothing that is answered, written or left elsewhere tells what it is.

* `Modbus.wire?_eq_some_iff` and `Modbus.wire?_eq_none_iff` — which words have a wire address;
* `Bank.DifferAt` — two banks that are the same but for one word;
* `Bank.OutOfReach` and `Bank.outOfReach_of_forall_ne` — a request neither reads nor changes a word
  that its block does not meet;
* `Bank.one_wire_address` — both together.
-/

namespace Modbus

variable {f : Function}

/-! ### Wire addresses -/

/-- A wire address stands for the logical address that it is translated to. -/
theorem wire?_eq_some_iff {a w : UInt16} : f.wire? a = some w ↔ f.logical w = a.toNat := by
  have ha := a.toNat_lt
  have hw := w.toNat_lt
  unfold Function.wire? Function.logical
  by_cases hbase : f.base ≤ a.toNat
  · rw [if_pos hbase, Option.some.injEq, ← UInt16.toNat_inj, UInt16.toNat_ofNat']
    omega
  · rw [if_neg hbase]
    simp only [reduceCtorEq, false_iff]
    omega

/-- Only the words below the table have no wire address. -/
theorem wire?_eq_none_iff {a : UInt16} : f.wire? a = none ↔ a.toNat < f.base := by
  unfold Function.wire?
  by_cases hbase : f.base ≤ a.toNat
  · simp [hbase]
  · simpa [hbase] using Nat.not_le.1 hbase

/-- A function translates different wire addresses differently. -/
theorem logical_inj {w w' : UInt16} (h : f.logical w = f.logical w') : w = w' := by
  rw [← UInt16.toNat_inj]
  exact Nat.add_right_cancel h

/-- No block starts below the table. -/
private theorem base_le_logical (f : Function) (w : UInt16) : f.base ≤ f.logical w :=
  Nat.le_add_left f.base w.toNat

end Modbus

namespace Bank

variable {a : UInt16} {b b' : Bank} {q : Request}

/-! ### Banks that differ in one word -/

/-- Two banks that have the same slots and the same words, but for the word at `a`. -/
structure DifferAt (a : UInt16) (b b' : Bank) : Prop where
  slots : b'.slots = b.slots
  words : ∀ x, x ≠ a → b'.word? x = b.word? x

/-- Replacing a word, the banks before and after it differ at most there. -/
theorem differAt_assign (b : Bank) (a w : UInt16) : DifferAt a b (b.assign a w) :=
  ⟨slots_assign b a w, fun x hx => by rw [word?_assign, if_neg hx]⟩

theorem DifferAt.wordAt? (h : DifferAt a b b') {n : Nat} (hn : n ≠ a.toNat) :
    b'.wordAt? n = b.wordAt? n :=
  wordAt?_congr fun x hx => h.words x fun ha => hn (ha ▸ hx.symm)

/-- A block leaves the banks as different as they were. -/
theorem DifferAt.assignFrom (h : DifferAt a b b') {start : Nat} {ws : List UInt16}
    (hend : start + ws.length ≤ 65536) :
    DifferAt a (b.assignFrom start ws) (b'.assignFrom start ws) where
  slots := by rw [slots_assignFrom, slots_assignFrom, h.slots]
  words x hx := by rw [word?_assignFrom hend, word?_assignFrom hend, h.words x hx]

/-! ### What a request makes of a word that it is not about -/

/-- A word is out of the reach of a request: the request does not change it, and nothing that it
    answers, writes into the journal or leaves at other addresses depends on it. -/
structure OutOfReach (b : Bank) (a : UInt16) (q : Request) : Prop where
  kept : (b.process q).bank.word? a = b.word? a
  result : ∀ b', DifferAt a b b' → (b'.process q).result = (b.process q).result
  journal : ∀ b', DifferAt a b b' → (b'.process q).journal = (b.process q).journal
  others : ∀ b', DifferAt a b b' → DifferAt a (b.process q).bank (b'.process q).bank

/-- A request that fails on every bank alike reaches no word. -/
private theorem outOfReach_of_failed {j : Journal} {e : Error}
    (h : ∀ b' : Bank, b'.slots = b.slots → b'.process q = ⟨b', j, .error e⟩) : b.OutOfReach a q where
  kept := by rw [h b rfl]
  result b' hb' := by rw [h b rfl, h b' hb'.slots]
  journal b' hb' := by rw [h b rfl, h b' hb'.slots]
  others b' hb' := by rwa [h b rfl, h b' hb'.slots]

/-- A request that reads a block reaches only the words that the block meets. -/
private theorem outOfReach_of_read {start count : Nat}
    (h : ∀ b' : Bank, b'.process q = ⟨b', [], (b'.readFrom start count).map .registers⟩)
    (hblock : ∀ i < count, start + i ≠ a.toNat) : b.OutOfReach a q where
  kept := by rw [h]
  result b' hb' := by rw [h, h, readFrom_congr fun i hi => hb'.wordAt? (hblock i hi)]
  journal b' _ := by rw [h, h]
  others b' hb' := by rwa [h, h]

/-- A request that writes a block reaches only the words that the block meets. -/
private theorem outOfReach_of_written {start : Nat} {ws : List UInt16} {j : Journal} {body : Body}
    (hend : start + ws.length ≤ 65536) (hblock : ∀ i < ws.length, start + i ≠ a.toNat)
    (h : ∀ b' : Bank, b'.slots = b.slots → b'.process q = ⟨b'.assignFrom start ws, j, .ok body⟩) :
    b.OutOfReach a q where
  kept := by
    rw [h b rfl, word?_assignFrom hend, blockWord?_of_forall_ne hblock]
    exact Option.map_id'
  result b' hb' := by rw [h b rfl, h b' hb'.slots]
  journal b' hb' := by rw [h b rfl, h b' hb'.slots]
  others b' hb' := by
    rw [h b rfl, h b' hb'.slots]
    exact hb'.assignFrom hend

/-- A request to write reaches only the words that its block meets: whether it goes through is
    decided by the slots. -/
theorem outOfReach_of_isWrite {start : UInt16} (hfault : q.fault? = none)
    (hstart : start.toNat = q.function.logical q.address) (hw : q.function.isWrite = true)
    (hblock : ∀ i < q.values.length, start.toNat + i ≠ a.toNat) : b.OutOfReach a q := by
  have hprocess (b' : Bank) (hb' : b'.slots = b.slots) : b'.process q =
      let written := b'.writeBlock start q.values
      ⟨written.bank, written.journal, written.result.map fun _ => echo q⟩ := by
    rw [process_eq hfault hstart, processAt_eq_of_isWrite hw]
  cases hfree : b.firstRefusal? start.toNat q.values.length with
  | some e =>
    apply outOfReach_of_failed
    intro b' hb'
    rw [hprocess b' hb', writeBlock_eq, writeInPlace_eq, firstRefusal?_congr hb', hfree]
    rfl
  | none =>
    apply outOfReach_of_written (end_le_of_firstRefusal? hfree) hblock
    intro b' hb'
    rw [hprocess b' hb', writeBlock_eq, writeInPlace_eq, firstRefusal?_congr hb', hfree]
    rfl

/-- A request reaches only the words that its block meets. -/
theorem outOfReach_of_forall_ne
    (h : ∀ i < q.quantity.toNat, q.function.logical q.address + i ≠ a.toNat) :
    b.OutOfReach a q := by
  cases hfault : q.fault? with
  | some fault => exact outOfReach_of_failed fun _ _ => by rw [process_of_fault hfault]
  | none =>
    cases hlogical : q.function.logical? q.address with
    | none => exact outOfReach_of_failed fun _ _ => by rw [process_of_outside hfault hlogical]
    | some start =>
      have hstart := logical?_eq_some_iff.1 hlogical
      rw [← hstart] at h
      by_cases hf : q.function.isRead = true
      · refine outOfReach_of_read (fun b' => ?_) h
        rw [process_eq hfault hstart, processAt_of_isRead hf]
      · have hw := Function.isWrite_iff.2 hf
        rw [← (Request.fault?_eq_none_iff.1 hfault).2.2 hw] at h
        exact outOfReach_of_isWrite hfault hstart hw h

/-! ### Reading one word -/

/-- A request to read one word gives the word that its wire address stands for. -/
theorem process_read_one {f : Function} (hf : f.isRead = true) {a v w : UInt16}
    (hw : f.wire? a = some w) (hv : b.word? a = some v) (unit : UInt8) :
    b.process (.read unit f w 1) = ⟨b, [], .ok (.registers [v])⟩ := by
  have hfault : (Request.read unit f w 1).fault? = none := by
    cases f with
    | readHolding | readInput => rfl
    | writeSingle | writeMultiple => cases hf
  have hread : b.readFrom a.toNat 1 = .ok [v] := by
    rw [readFrom_eq_ok_iff]
    simp [hv]
  rw [process_eq hfault (wire?_eq_some_iff.1 hw).symm, processAt_of_isRead hf]
  exact congrArg (fun read => Served.mk b [] (read.map Body.registers)) hread

/-- **Each word has one wire address, or is out of reach.**  A word with a wire address is what the
    function translates that address to, and no other; if the function reads, asking for one word
    there gives exactly the word.  A word without a wire address is out of the reach of every request
    with the function, whatever its wire address, its quantity and its values. -/
theorem one_wire_address (b : Bank) (f : Function) {a v : UInt16} (hv : b.word? a = some v) :
    (∀ w, f.wire? a = some w →
      f.logical? w = some a ∧ (∀ w', f.logical? w' = some a → w' = w) ∧
      (f.isRead = true → ∀ unit,
        b.process (.read unit f w 1) = ⟨b, [], .ok (.registers [v])⟩)) ∧
    (f.wire? a = none → ∀ q : Request, q.function = f → b.OutOfReach a q) := by
  constructor
  · intro w hw
    have hlogical := wire?_eq_some_iff.1 hw
    refine ⟨logical?_eq_some_iff.2 hlogical.symm, fun w' hw' => ?_,
      fun hf unit => process_read_one hf hw hv unit⟩
    exact logical_inj ((logical?_eq_some_iff.1 hw').symm.trans hlogical.symm)
  · rintro hnone q rfl
    -- The block starts at the table or above, and the word lies below.
    have hbelow := wire?_eq_none_iff.1 hnone
    have hstart := base_le_logical q.function q.address
    exact outOfReach_of_forall_ne fun i _ => by omega

/-- A register of two words of which only the second one lies in the table of holding registers. -/
def straddlingBank : Bank where
  registers := [⟨40000, .clamp .u32 70000, .raw, .readWrite, ""⟩]
  wellLaid := ⟨by decide, by decide⟩

/-- The second word is read and written under the wire address 0, the first one is neither, though a
    write to the second puts the whole value together again. -/
theorem one_wire_address_straddlingBank :
    straddlingBank.word? 40000 = some 1 ∧ straddlingBank.word? 40001 = some 4464 ∧
      straddlingBank.process (.read 1 .readHolding 0 1) =
        ⟨straddlingBank, [], .ok (.registers [4464])⟩ ∧
      (straddlingBank.process (.writeSingle 1 0 9)).bank.word? 40001 = some 9 ∧
      (straddlingBank.process (.writeSingle 1 0 9)).bank.word? 40000 = some 1 ∧
      ((straddlingBank.assign 40000 5).process (.writeSingle 1 0 9)).result =
        (straddlingBank.process (.writeSingle 1 0 9)).result := by
  have hfirst : straddlingBank.word? 40000 = some 1 := by decide +kernel
  have hsecond : straddlingBank.word? 40001 = some 4464 := by decide +kernel
  have hreach := (one_wire_address straddlingBank .readHolding hsecond).1 0 (by decide)
  have hout := (one_wire_address straddlingBank .writeSingle hfirst).2 (by decide)
    (.writeSingle 1 0 9) rfl
  exact ⟨hfirst, hsecond, hreach.2.2 rfl 1, by decide +kernel, hout.kept.trans hfirst,
    hout.result _ (differAt_assign straddlingBank 40000 5)⟩

end Bank

end SolarTwin

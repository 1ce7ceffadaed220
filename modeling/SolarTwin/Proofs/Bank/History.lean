import SolarTwin.Proofs.Bank.Block

namespace SolarTwin

/-!
# Histories of a bank

A history is a list of operations, of any arguments, some of which go through and some of which
fail.

* `Bank.slots_afterWrites` — writing never changes a slot, so the registers of a bank are those of
  the list it was last loaded with (`Bank.represents_after`);
* `Bank.word?_attemptWrite` — one write assigns the words it covers if it goes through, and no
  others;
* `Bank.word?_afterWrites` — so a word is what the last write that went through and covers it
  assigned;
* `Bank.ofWords?_of_mem` — the typed view is composed of the words.
-/

namespace Bank

/-! ### Operations -/

/-- A write to a bank: of one word, of a block of words, or of a value at the start of a register. -/
inductive Write where
  | word (a w : UInt16)
  | block (start : UInt16) (ws : List UInt16)
  | logical (start : UInt16) (v : Value)

/-- An operation on a bank: loading a list of registers in place of the old ones, or a write. -/
inductive Operation where
  | load (rs : List Register)
  | write (x : Write)

/-- The attempt at an operation that changes a bank only if it goes through. -/
def attemptOf (b : Bank) : Except Error Bank → Attempt
  | .ok b' => ⟨b', none⟩
  | .error e => ⟨b, some e⟩

/-- Attempts a write. -/
def attemptWrite (b : Bank) : Write → Attempt
  | .word a w => b.attemptOf (b.setWord a w)
  | .block start ws => b.writeInPlace start ws
  | .logical start v => b.attemptOf (b.setLogical start v)

/-- Attempts an operation. -/
def attempt (b : Bank) : Operation → Attempt
  | .load rs => b.attemptOf (ofRegisters rs)
  | .write x => b.attemptWrite x

/-- The bank after a history. -/
def after (b : Bank) (ops : List Operation) : Bank :=
  ops.foldl (fun b op => (b.attempt op).bank) b

/-- The bank after some writes. -/
def afterWrites (b : Bank) (xs : List Write) : Bank := b.after (xs.map .write)

theorem after_concat (b : Bank) (ops : List Operation) (op : Operation) :
    b.after (ops ++ [op]) = ((b.after ops).attempt op).bank := by
  simp [after, List.foldl_append]

@[simp] theorem afterWrites_nil (b : Bank) : b.afterWrites [] = b := rfl

@[simp] theorem afterWrites_cons (b : Bank) (x : Write) (xs : List Write) :
    b.afterWrites (x :: xs) = (b.attemptWrite x).bank.afterWrites xs := rfl

/-! ### Registers -/

theorem slots_attemptWrite (b : Bank) (x : Write) : (b.attemptWrite x).bank.slots = b.slots := by
  cases x with
  | word a w =>
    rw [attemptWrite, setWord_eq]
    cases b.refusal? a.toNat with
    | none => exact slots_assign b a w
    | some e => rfl
  | block start ws =>
    rw [attemptWrite, writeInPlace_eq]
    cases b.firstRefusal? start.toNat ws.length with
    | none => exact slots_assignFrom b start.toNat ws
    | some e => rfl
  | logical start v =>
    rw [attemptWrite]
    cases hset : b.setLogical start v with
    | error e => rfl
    | ok b' =>
      obtain ⟨r, hv, -, rfl⟩ := setLogical_eq_ok_iff.1 hset
      exact slots_exchange (Register.slot_withValue hv)

/-- No writes change a slot. -/
theorem slots_afterWrites (b : Bank) (xs : List Write) : (b.afterWrites xs).slots = b.slots := by
  induction xs generalizing b with
  | nil => rfl
  | cons x xs ih => rw [afterWrites_cons, ih, slots_attemptWrite]

/-- A bank is built of a list exactly if the list has no fault, and then of its registers in
    address order. -/
theorem ofRegisters_eq_ok_iff {rs : List Register} {b : Bank} :
    ofRegisters rs = .ok b ↔ Layout.fault? rs = none ∧ b.registers = Layout.sorted rs := by
  unfold ofRegisters
  split
  · next fault hfault => simp [hfault]
  · next hfault =>
    rw [Except.ok.injEq]
    constructor
    · rintro rfl
      exact ⟨hfault, rfl⟩
    · rintro ⟨-, hregisters⟩
      cases b
      simp only at hregisters
      subst hregisters
      rfl

theorem perm_of_ofRegisters {rs : List Register} {b : Bank} (h : ofRegisters rs = .ok b) :
    b.registers.Perm rs := by
  rw [(ofRegisters_eq_ok_iff.1 h).2]
  exact List.mergeSort_perm ..

/-- The list a bank was last loaded with: a list that is not accepted changes nothing. -/
def accepted (rs : List Register) : Operation → List Register
  | .load rs' => if (ofRegisters rs').isOk then rs' else rs
  | .write _ => rs

/-- The list last accepted in a history, none at first. -/
def lastAccepted (ops : List Operation) : List Register := ops.foldl accepted []

/-- What a bank has of the list it was last loaded with: its registers under their own
    addresses, apart and inside the address space, with values of the kinds they were listed with. -/
structure Represents (b : Bank) (rs : List Register) : Prop where
  keyed : ∀ r ∈ b.registers, b.find? r.address = some r
  address : ∀ a r, b.find? a = some r → r.address = a
  kind : ∀ r ∈ b.registers, ∃ s ∈ rs, s.address = r.address ∧ r.value.kind = s.value.kind
  inside : ∀ r ∈ b.registers, r.endAddress ≤ 65536
  apart : b.registers.Pairwise fun r s => ∀ a, ¬ (r.owns a = true ∧ s.owns a = true)
  slots : b.slots.Perm (rs.map Register.slot)

theorem apart_registers (b : Bank) :
    b.registers.Pairwise fun r s => ∀ a, ¬ (r.owns a = true ∧ s.owns a = true) := by
  refine b.wellLaid.apart.imp fun {r s} hrs a => ?_
  rintro ⟨hr, hs⟩
  rw [Register.owns_iff] at hr hs
  omega

/-- A bank whose slots are those of a list represents it. -/
theorem Represents.of_slots {b : Bank} {rs : List Register}
    (h : b.slots.Perm (rs.map Register.slot)) : b.Represents rs where
  keyed := fun r hr => find?_eq_some_iff.2 ⟨hr, rfl⟩
  address := fun a r hr => (find?_eq_some_iff.1 hr).2
  kind := by
    intro r hr
    obtain ⟨s, hs, hslot⟩ := List.mem_map.1 (h.subset (List.mem_map_of_mem hr))
    exact ⟨s, hs, congrArg Slot.address hslot, (congrArg Slot.kind hslot).symm⟩
  inside := b.wellLaid.inside
  apart := b.apart_registers
  slots := h

/-- One operation keeps the slots in step with the list last accepted. -/
private theorem slots_attempt {b : Bank} {rs : List Register}
    (h : b.slots.Perm (rs.map Register.slot))
    (op : Operation) : (b.attempt op).bank.slots.Perm ((accepted rs op).map Register.slot) := by
  cases op with
  | write x =>
    rw [attempt, slots_attemptWrite]
    exact h
  | load rs' =>
    rw [attempt, accepted]
    cases hbuilt : ofRegisters rs' with
    | error e => exact h
    | ok b' => exact (perm_of_ofRegisters hbuilt).map Register.slot

/-- **After every history from the empty bank on**, the bank represents the list last accepted. -/
theorem represents_after (ops : List Operation) :
    (empty.after ops).Represents (lastAccepted ops) := by
  refine .of_slots ?_
  -- The last operation is attempted on the bank that the ones before it leave.
  induction ops using List.reverseRecOn with
  | nil => exact .refl []
  | append_singleton ops op ih =>
    rw [after_concat, lastAccepted, List.foldl_append]
    exact slots_attempt ih op

/-! ### Words -/

/-- Where a write starts. -/
def Write.start : Write → UInt16
  | .word a _ => a
  | .block start _ => start
  | .logical start _ => start

/-- The words a write assigns from its start on. -/
def Write.words : Write → List UInt16
  | .word _ w => [w]
  | .block _ ws => ws
  | .logical _ v => v.words

/-- The word a write assigns to an address, if it covers the address. -/
def Write.assigned? (x : Write) (a : UInt16) : Option UInt16 :=
  blockWord? x.start.toNat x.words a

/-- The writes that go through, in order. -/
def successes (b : Bank) : List Write → List Write
  | [] => []
  | x :: xs =>
    let t := b.attemptWrite x
    if t.error?.isNone then x :: t.bank.successes xs else t.bank.successes xs

/-- The word the most recent write that went through and covers an address assigned to it. -/
def lastAssigned? (b : Bank) (xs : List Write) (a : UInt16) : Option UInt16 :=
  (b.successes xs).reverse.findSome? (·.assigned? a)

/-- A write that goes through assigns the words it covers and no others, one that fails none. -/
theorem word?_attemptWrite (b : Bank) (x : Write) (a : UInt16) :
    (b.attemptWrite x).bank.word? a =
      if (b.attemptWrite x).error?.isNone then (b.word? a).map fun old => (x.assigned? a).getD old
      else b.word? a := by
  cases x with
  | word start w =>
    rw [attemptWrite, setWord_eq]
    cases b.refusal? start.toNat with
    | some e => rfl
    | none =>
      -- A word is a block of one.
      have hsingle : b.assign start w = b.assignFrom start.toNat [w] := by
        rw [assignFrom, assignFrom, UInt16.ofNat_toNat]
      have hend : start.toNat + [w].length ≤ 65536 := start.toNat_lt
      simp only [attemptOf, Option.isNone_none, if_true]
      rw [hsingle, word?_assignFrom hend]
      rfl
  | block start ws =>
    rw [attemptWrite, writeInPlace_eq]
    cases hfree : b.firstRefusal? start.toNat ws.length with
    | some e => rfl
    | none =>
      simp only [Option.isNone_none, if_true]
      rw [word?_assignFrom (end_le_of_firstRefusal? hfree)]
      rfl
  | logical start v =>
    rw [attemptWrite]
    cases hset : b.setLogical start v with
    | error e => rfl
    | ok b' =>
      obtain ⟨r, hv, hr, rfl⟩ := setLogical_eq_ok_iff.1 hset
      obtain ⟨hmem, rfl⟩ := find?_eq_some_iff.1 hr
      simp only [attemptOf, Option.isNone_none, if_true]
      rw [word?_exchange _ hmem, Write.assigned?, Write.start, Write.words, blockWord?_words hv]
      by_cases ha : r.owns a = true
      · -- A value has as many words as the register, so none of the old ones shows through.
        have hlt := Register.offset_lt ha
        have hoff : a.toNat - r.address.toNat < v.words.length := by
          rwa [Value.length_words, hv, ← Register.width, ← Register.length_words]
        rw [if_pos ha, if_pos ha, word?_of_owns hmem ha, List.getElem?_eq_getElem hlt]
        simp only [Register.words, List.getElem?_eq_getElem hoff, Option.map_some,
          Option.getD_some]
      · rw [if_neg ha, if_neg ha]
        simp only [Option.getD_none, Option.map_id']

/-- After any writes the word at an address is the one that the most recent of those that went
    through and cover it assigned, else the word it was. -/
theorem word?_afterWrites (b : Bank) (xs : List Write) (a : UInt16) :
    (b.afterWrites xs).word? a = (b.word? a).map fun old => (b.lastAssigned? xs a).getD old := by
  induction xs generalizing b with
  | nil => simp [lastAssigned?, successes]
  | cons x xs ih =>
    -- What the later writes assign comes first, then what `x` does, then the old word.
    rw [afterWrites_cons, ih, word?_attemptWrite, lastAssigned?, lastAssigned?, successes]
    by_cases hx : (b.attemptWrite x).error?.isNone = true
    · simp only [if_pos hx, List.reverse_cons, List.findSome?_append, List.findSome?_singleton]
      cases b.word? a with
      | none => rfl
      | some old =>
        cases (List.findSome? _ ((b.attemptWrite x).bank.successes xs).reverse) <;> rfl
    · simp only [if_neg hx]

/-! ### Registers and their words -/

/-- The word of a register at an offset is the bank's word at that address. -/
theorem wordAt?_of_mem {b : Bank} {r : Register} (hr : r ∈ b.registers) {i : Nat}
    (hi : i < r.width) : b.wordAt? (r.address.toNat + i) = r.words[i]? := by
  have hend := b.wellLaid.inside r hr
  rw [Register.endAddress, Layout.addressSpace] at hend
  obtain ⟨a, ha⟩ := exists_toNat_eq (n := r.address.toNat + i) (by omega)
  have howns : r.owns a = true := by
    rw [Register.owns_iff, Register.endAddress]
    omega
  rw [← ha, wordAt?_toNat, word?_of_owns hr howns, ha, Nat.add_sub_cancel_left]

/-- The value of a register is composed of the bank's words from its address on. -/
theorem ofWords?_of_mem {b : Bank} {r : Register} (hr : r ∈ b.registers) :
    ∃ ws, (List.range r.width).map (fun i => b.wordAt? (r.address.toNat + i)) = ws.map some ∧
      Value.ofWords? r.kind ws = .ok r.value := by
  refine ⟨r.words, ?_, ?_⟩
  · refine List.ext_getElem (by simp) fun i hi hi' => ?_
    have hw : i < r.width := by simpa using hi
    have hlen : i < r.words.length := by simpa using hw
    rw [List.getElem_map, List.getElem_range, wordAt?_of_mem hr hw, List.getElem_map,
      List.getElem?_eq_getElem hlen]
  · rw [Value.ofWords?_eq_ok (Register.length_words r)]
    exact congrArg _ (Value.ofWords_words r.value)

/-- The typed view of the bank has a value exactly where a register starts. -/
theorem logical?_eq_none_iff {b : Bank} {a : UInt16} :
    b.logical? a = none ↔ ∀ r ∈ b.registers, r.address ≠ a := by
  rw [logical?, Option.map_eq_none_iff, find?_eq_none_iff]

/-! ### The memory of a loaded bank -/

/-- A register of the loaded list is still there after any writes, with some value. -/
private theorem exists_mem_afterWrites {rs : List Register} {b : Bank} (hb : ofRegisters rs = .ok b)
    (xs : List Write) {r : Register} (hr : r ∈ rs) :
    ∃ s ∈ (b.afterWrites xs).registers, s.slot = r.slot := by
  have hmem : r.slot ∈ (b.afterWrites xs).slots := by
    rw [slots_afterWrites]
    exact List.mem_map_of_mem ((perm_of_ofRegisters hb).mem_iff.2 hr)
  exact List.mem_map.1 hmem

/-- A property of slots holds of all registers of the loaded list exactly if it holds of all
    registers there are after any writes. -/
private theorem forall_slot_afterWrites_iff {rs : List Register} {b : Bank}
    (hb : ofRegisters rs = .ok b) (xs : List Write) (P : Slot → Prop) :
    (∀ r ∈ (b.afterWrites xs).registers, P r.slot) ↔ ∀ r ∈ rs, P r.slot := by
  have hslots : (b.afterWrites xs).slots = b.slots := slots_afterWrites b xs
  have hperm := (perm_of_ofRegisters hb).map Register.slot
  calc (∀ r ∈ (b.afterWrites xs).registers, P r.slot)
      ↔ ∀ s ∈ (b.afterWrites xs).slots, P s := by simp [slots]
    _ ↔ ∀ s ∈ rs.map Register.slot, P s := by
        rw [hslots]
        exact forall_congr' fun s => by rw [slots, hperm.mem_iff]
    _ ↔ ∀ r ∈ rs, P r.slot := by simp

/-- **The last writer wins, in both views.**  After a list has been loaded and any writes, an
    address has a word exactly if a register of the list owns it; the word is the one assigned by
    the most recent write that went through and covers it, else the initial one.  The value of each
    register is composed of its words, and there is a value only where a register starts. -/
theorem last_writer_wins {rs : List Register} {b : Bank} (hb : ofRegisters rs = .ok b)
    (xs : List Write) :
    (∀ a, (b.afterWrites xs).word? a = none ↔ ∀ r ∈ rs, r.owns a = false) ∧
    (∀ r ∈ rs, ∀ a, r.owns a = true →
      ∃ w, r.words[a.toNat - r.address.toNat]? = some w ∧
        (b.afterWrites xs).word? a = some ((b.lastAssigned? xs a).getD w)) ∧
    (∀ r ∈ rs, ∃ v ws, (b.afterWrites xs).logical? r.address = some v ∧
      (List.range r.width).map (fun i => (b.afterWrites xs).wordAt? (r.address.toNat + i)) =
        ws.map some ∧
      Value.ofWords? r.kind ws = .ok v) ∧
    (∀ a, (b.afterWrites xs).logical? a = none ↔ ∀ r ∈ rs, r.address ≠ a) := by
  refine ⟨fun a => ?_, fun r hr a ha => ?_, fun r hr => ?_, fun a => ?_⟩
  · rw [word?_eq_none_iff]
    exact forall_slot_afterWrites_iff hb xs fun s => s.owns a = false
  · have hmem : r ∈ b.registers := (perm_of_ofRegisters hb).mem_iff.2 hr
    have hoff := Register.offset_lt ha
    refine ⟨r.words[a.toNat - r.address.toNat], List.getElem?_eq_getElem hoff, ?_⟩
    rw [word?_afterWrites, word?_of_owns hmem ha, List.getElem?_eq_getElem hoff, Option.map_some]
  · obtain ⟨s, hs, hslot⟩ := exists_mem_afterWrites hb xs hr
    have haddress : s.address = r.address := congrArg Slot.address hslot
    have hkind : s.kind = r.kind := congrArg Slot.kind hslot
    obtain ⟨ws, hwords, hvalue⟩ := ofWords?_of_mem hs
    rw [Register.width, hkind, haddress] at hwords
    rw [hkind] at hvalue
    refine ⟨s.value, ws, ?_, hwords, hvalue⟩
    rw [logical?, find?_eq_some_iff.2 ⟨hs, haddress⟩, Option.map_some]
  · rw [logical?_eq_none_iff]
    exact forall_slot_afterWrites_iff hb xs fun s => s.address ≠ a

/-- The two registers of the device that take commands. -/
def commandRegisters : List Register :=
  [.zero 40009 .u32 .enumeration .readWrite, .zero 40011 .u32 .enumeration .writeOnly]

/-- The bank of the command registers. -/
def commandBank : Bank where
  registers := commandRegisters
  wellLaid := ⟨by decide, by decide⟩

theorem ofRegisters_commandRegisters : ofRegisters commandRegisters = .ok commandBank := by
  have hsorted : Layout.sorted commandRegisters = commandRegisters :=
    List.mergeSort_of_pairwise (by decide)
  rw [ofRegisters_eq_ok_iff, Layout.fault?, hsorted]
  exact ⟨by decide, rfl⟩

/-- A block across both registers, a refused block, a value, and a word that splits the value. -/
def commandWrites : List Write :=
  [.block 40009 [0, 381, 7], .block 40012 [9, 9], .logical 40011 (.clamp .u32 26), .word 40012 5]

theorem last_writer_wins_commands :
    ofRegisters commandRegisters = .ok commandBank ∧
    (commandBank.afterWrites commandWrites).word? 40010 = some 381 ∧
    (commandBank.afterWrites commandWrites).word? 40011 = some 0 ∧
    (commandBank.afterWrites commandWrites).word? 40012 = some 5 ∧
    (commandBank.afterWrites commandWrites).word? 40013 = none := by
  obtain ⟨hnone, hsome, -, -⟩ := last_writer_wins ofRegisters_commandRegisters commandWrites
  have hassigned (a w : UInt16) (r : Register) (hr : r ∈ commandRegisters)
      (ha : r.owns a = true) (hlast : commandBank.lastAssigned? commandWrites a = some w) :
      (commandBank.afterWrites commandWrites).word? a = some w := by
    obtain ⟨initial, -, hw⟩ := hsome r hr a ha
    rw [hw, hlast, Option.getD_some]
  let state : Register := .zero 40009 .u32 .enumeration .readWrite
  let acknowledge : Register := .zero 40011 .u32 .enumeration .writeOnly
  refine ⟨ofRegisters_commandRegisters, ?_, ?_, ?_, ?_⟩
  · exact hassigned 40010 381 state (by decide) (by decide) (by decide +kernel)
  · exact hassigned 40011 0 acknowledge (by decide) (by decide) (by decide +kernel)
  · exact hassigned 40012 5 acknowledge (by decide) (by decide) (by decide +kernel)
  · exact (hnone 40013).2 (by decide)

end Bank

end SolarTwin

import SolarTwin.Proofs.Bank.Change

namespace SolarTwin

/-!
# Blocks are written whole or not at all

A block is checked in one pass and replaced in another.  Replacing a word keeps every slot, so what
the first pass has found still holds at each step of the second, and the block ends as the same
single writes would, one after another.

* `Bank.Refused` — why a client may not write a word, said of the registers alone;
* `Bank.setEach` — the words of a block as single writes;
* `Bank.setEach_eq` — they go through exactly if no word of the block is refused;
* `Bank.Replaces` — the second pass at one word, which is that of the block afterwards;
* `Bank.writeInPlace_atomic` — a block has the outcome of the single writes, or none.
-/

namespace Bank

/-! ### Refusals -/

/-- Why a client may not write the word at an address of any size. -/
inductive Refused (b : Bank) (n : Nat) : Error → Prop
  /-- The address lies past the address space. -/
  | outside (hn : 65535 < n) : Refused b n (.unmapped n)
  /-- No register owns it. -/
  | unowned {a : UInt16} (ha : a.toNat = n) (h : ∀ r ∈ b.registers, r.owns a = false) :
      Refused b n (.unmapped n)
  /-- The register that owns it is read-only. -/
  | readOnly {a : UInt16} {r : Register} (ha : a.toNat = n) (hr : r ∈ b.registers)
      (howns : r.owns a = true) (haccess : r.access = .readOnly) :
      Refused b n (.accessDenied r.address.toNat)

theorem isWritable_eq_false_iff {access : Access} :
    access.isWritable = false ↔ access = .readOnly := by
  cases access <;> decide

theorem refusal?_of_outside {n : Nat} (hn : 65535 < n) (b : Bank) :
    b.refusal? n = some (.unmapped n) := by
  rw [refusal?, wordAddress?_eq_none_iff.2 hn, Option.bind_none]

theorem refusal?_of_unowned {b : Bank} {a : UInt16} (h : b.owner? a = none) :
    b.refusal? a.toNat = some (.unmapped a.toNat) := by
  rw [refusal?, wordAddress?_toNat, Option.bind_some, h]

theorem refusal?_of_owner {b : Bank} {a : UInt16} {r : Register} (h : b.owner? a = some r) :
    b.refusal? a.toNat =
      if r.access.isWritable then none else some (.accessDenied r.address.toNat) := by
  rw [refusal?, wordAddress?_toNat, Option.bind_some, h]

/-- A refusal is found exactly where there is one. -/
theorem refusal?_eq_some_iff {b : Bank} {n : Nat} {e : Error} :
    b.refusal? n = some e ↔ b.Refused n e := by
  constructor
  · intro h
    by_cases hn : 65535 < n
    · rw [refusal?_of_outside hn] at h
      obtain rfl := Option.some.inj h
      exact .outside hn
    · obtain ⟨a, rfl⟩ := exists_toNat_eq hn
      cases howner : b.owner? a with
      | none =>
        rw [refusal?_of_unowned howner] at h
        obtain rfl := Option.some.inj h
        exact .unowned rfl (owner?_eq_none_iff.1 howner)
      | some r =>
        obtain ⟨hr, howns⟩ := owner?_eq_some_iff.1 howner
        rw [refusal?_of_owner howner] at h
        split at h
        · cases h
        · next hw =>
          obtain rfl := Option.some.inj h
          exact .readOnly rfl hr howns (isWritable_eq_false_iff.1 (Bool.eq_false_iff.2 hw))
  · rintro (hn | ⟨rfl, h⟩ | ⟨rfl, hr, howns, haccess⟩)
    · exact refusal?_of_outside hn b
    · exact refusal?_of_unowned (owner?_eq_none_iff.2 h)
    · rw [refusal?_of_owner (owner?_eq_some_iff.2 ⟨hr, howns⟩), haccess]
      rfl

/-- A word may be written exactly if its owner is writable. -/
theorem refusal?_eq_none_iff {b : Bank} {n : Nat} :
    b.refusal? n = none ↔
      ∃ a r, a.toNat = n ∧ b.owner? a = some r ∧ r.access.isWritable = true := by
  constructor
  · intro h
    by_cases hn : 65535 < n
    · rw [refusal?_of_outside hn] at h
      cases h
    · obtain ⟨a, rfl⟩ := exists_toNat_eq hn
      cases howner : b.owner? a with
      | none =>
        rw [refusal?_of_unowned howner] at h
        cases h
      | some r =>
        rw [refusal?_of_owner howner] at h
        exact ⟨a, r, rfl, howner, by simpa using h⟩
  · rintro ⟨a, r, rfl, howner, hw⟩
    rw [refusal?_of_owner howner, if_pos hw]

theorem refusal?_eq_none_iff_not_refused {b : Bank} {n : Nat} :
    b.refusal? n = none ↔ ∀ e, ¬ b.Refused n e := by
  simp only [Option.eq_none_iff_forall_ne_some, ne_eq, refusal?_eq_some_iff]

/-! ### The first address of a block with a property -/

/-- The first address with `Q`, behind addresses with `P` only, is the start of the block or lies in
    the rest of it. -/
private theorem exists_first_succ_iff {P Q : Nat → Prop} {start count : Nat} :
    (∃ i < count + 1, (∀ j < i, P (start + j)) ∧ Q (start + i)) ↔
      Q start ∨ P start ∧
        ∃ i < count, (∀ j < i, P (start + 1 + j)) ∧ Q (start + 1 + i) := by
  have hnext (i : Nat) : start + 1 + i = start + (i + 1) := by omega
  simp only [hnext, Nat.exists_lt_succ_left, Nat.forall_lt_succ_left, Nat.add_zero]
  constructor
  · rintro (⟨-, hfirst⟩ | ⟨i, hi, ⟨hfirst, hbefore⟩, hQ⟩)
    · exact .inl hfirst
    · exact .inr ⟨hfirst, i, hi, hbefore, hQ⟩
  · rintro (hfirst | ⟨hfirst, i, hi, hbefore, hQ⟩)
    · exact .inl ⟨fun j hj => absurd hj (by omega), hfirst⟩
    · exact .inr ⟨i, hi, ⟨hfirst, hbefore⟩, hQ⟩

theorem forall_succ_iff {P : Nat → Prop} {start count : Nat} :
    (∀ i < count + 1, P (start + i)) ↔ P start ∧ ∀ i < count, P (start + 1 + i) := by
  have hnext (i : Nat) : start + 1 + i = start + (i + 1) := by omega
  simp only [hnext, Nat.forall_lt_succ_left, Nat.add_zero]

/-- The first refusal in a block is that of the first address that has one. -/
theorem firstRefusal?_eq_some_iff {b : Bank} {start count : Nat} {e : Error} :
    b.firstRefusal? start count = some e ↔
      ∃ i < count, (∀ j < i, b.refusal? (start + j) = none) ∧ b.refusal? (start + i) = some e := by
  induction count generalizing start with
  | zero => simp [firstRefusal?]
  | succ count ih =>
    rw [firstRefusal?, exists_first_succ_iff (P := fun n => b.refusal? n = none)
      (Q := fun n => b.refusal? n = some e), ← ih]
    cases b.refusal? start <;> simp

theorem firstRefusal?_eq_none_iff {b : Bank} {start count : Nat} :
    b.firstRefusal? start count = none ↔ ∀ i < count, b.refusal? (start + i) = none := by
  induction count generalizing start with
  | zero => simp [firstRefusal?]
  | succ count ih =>
    rw [firstRefusal?, Option.or_eq_none_iff, ih,
      forall_succ_iff (P := fun n => b.refusal? n = none)]

theorem firstRefusal?_congr {b b' : Bank} (h : b.slots = b'.slots) (start count : Nat) :
    b.firstRefusal? start count = b'.firstRefusal? start count := by
  induction count generalizing start with
  | zero => rfl
  | succ count ih => rw [firstRefusal?, firstRefusal?, refusal?_congr h, ih]

/-- A block without refusals ends inside the address space. -/
theorem end_le_of_firstRefusal? {b : Bank} {start : UInt16} {count : Nat}
    (hfree : b.firstRefusal? start.toNat count = none) : start.toNat + count ≤ 65536 := by
  -- Otherwise the last address would be refused.
  by_contra hend
  have hstart := start.toNat_lt
  have hlast := firstRefusal?_eq_none_iff.1 hfree (count - 1) (by omega)
  rw [refusal?_of_outside (by omega)] at hlast
  cases hlast

/-! ### Reading -/

/-- A block that is read consists of the words at its addresses. -/
theorem readFrom_eq_ok_iff {b : Bank} {start count : Nat} {ws : List UInt16} :
    b.readFrom start count = .ok ws ↔
      (List.range count).map (fun i => b.wordAt? (start + i)) = ws.map some := by
  induction count generalizing start ws with
  | zero => cases ws <;> simp
  | succ count ih =>
    -- The words behind the first are those of the block that starts one further.
    have hnext (i : Nat) : start + 1 + i = start + (i + 1) := by omega
    have hshift : (List.range (count + 1)).map (fun i => b.wordAt? (start + i)) =
        b.wordAt? start :: (List.range count).map (fun i => b.wordAt? (start + 1 + i)) := by
      rw [List.range_succ_eq_map, List.map_cons, List.map_map]
      simp only [hnext]
      rfl
    rw [readFrom_succ, hshift]
    cases b.wordAt? start with
    | none => cases ws <;> simp
    | some w =>
      cases ws with
      | nil => cases b.readFrom (start + 1) count <;> simp [Except.map]
      | cons v vs =>
        rw [List.map_cons, List.cons.injEq, Option.some.injEq, ← ih]
        cases b.readFrom (start + 1) count <;> simp [Except.map]

theorem length_of_readFrom {b : Bank} {start count : Nat} {ws : List UInt16}
    (h : b.readFrom start count = .ok ws) : ws.length = count := by
  have hcount := congrArg List.length (readFrom_eq_ok_iff.1 h)
  rw [List.length_map, List.length_map, List.length_range] at hcount
  exact hcount.symm

/-- Otherwise the smallest address without a word is reported. -/
theorem readFrom_eq_error_iff {b : Bank} {start count : Nat} {e : Error} :
    b.readFrom start count = .error e ↔
      ∃ i < count, (∀ j < i, b.wordAt? (start + j) ≠ none) ∧
        b.wordAt? (start + i) = none ∧ e = .unmapped (start + i) := by
  induction count generalizing start with
  | zero => simp
  | succ count ih =>
    rw [readFrom_succ, exists_first_succ_iff (P := fun n => b.wordAt? n ≠ none)
      (Q := fun n => b.wordAt? n = none ∧ e = .unmapped n), ← ih]
    cases b.wordAt? start with
    | none => simp [eq_comm]
    | some w => cases b.readFrom (start + 1) count <;> simp [Except.map]

/-- A block is read exactly if all its words are there. -/
theorem exists_readFrom_eq_ok_iff {b : Bank} {start count : Nat} :
    (∃ ws, b.readFrom start count = .ok ws) ↔ ∀ i < count, b.wordAt? (start + i) ≠ none := by
  cases hread : b.readFrom start count with
  | error e =>
    obtain ⟨i, hi, -, hnone, -⟩ := readFrom_eq_error_iff.1 hread
    simp only [reduceCtorEq, exists_false, false_iff]
    exact fun h => h i hi hnone
  | ok ws =>
    simp only [Except.ok.injEq, exists_eq', true_iff]
    intro i hi hnone
    have hwords := congrArg (·[i]?) (readFrom_eq_ok_iff.1 hread)
    simp only [List.getElem?_map, List.getElem?_range hi, Option.map_some, hnone] at hwords
    cases hw : ws[i]? <;> simp [hw] at hwords

/-! ### Single writes -/

theorem setWord_eq (b : Bank) (a w : UInt16) :
    b.setWord a w =
      match b.refusal? a.toNat with
      | some e => .error e
      | none => .ok (b.assign a w) := by
  unfold setWord
  cases b.refusal? a.toNat with
  | some e => rfl
  | none => exact replaceWord_eq b a w

/-- Writes the words of a block one at a time, until one is refused.  There is no write to an
    address past the address space. -/
def setEach (b : Bank) (start : Nat) : List UInt16 → Except Error Bank
  | [] => .ok b
  | w :: ws =>
    match wordAddress? start with
    | none => .error (.unmapped start)
    | some a =>
      match b.setWord a w with
      | .ok b' => b'.setEach (start + 1) ws
      | .error e => .error e

/-- Single writes go through exactly if no word of the block is refused to begin with. -/
theorem setEach_eq (b : Bank) (start : Nat) (ws : List UInt16) :
    b.setEach start ws =
      match b.firstRefusal? start ws.length with
      | some e => .error e
      | none => .ok (b.assignFrom start ws) := by
  induction ws generalizing b start with
  | nil => rfl
  | cons w ws ih =>
    -- A write that goes through keeps every slot, so the rest is refused or not as before.
    rw [setEach, List.length_cons, firstRefusal?, assignFrom]
    cases hstart : wordAddress? start with
    | none =>
      have hrefusal : b.refusal? start = some (.unmapped start) := by
        rw [refusal?_eq_some_iff]
        exact .outside (wordAddress?_eq_none_iff.1 hstart)
      simp only [hrefusal, Option.some_or]
    | some a =>
      have ha : a.toNat = start := wordAddress?_eq_some_iff.1 hstart
      have hofNat : UInt16.ofNat start = a := by rw [← ha, UInt16.ofNat_toNat]
      simp only [setWord_eq, ha, hofNat]
      cases b.refusal? start with
      | some e => simp only [Option.some_or]
      | none =>
        simp only [Option.none_or]
        rw [ih, firstRefusal?_congr (slots_assign b a w)]

/-! ### Blocks -/

theorem writeInPlace_eq (b : Bank) (start : UInt16) (ws : List UInt16) :
    b.writeInPlace start ws =
      match b.firstRefusal? start.toNat ws.length with
      | some e => ⟨b, some e⟩
      | none => ⟨b.assignFrom start.toNat ws, none⟩ := by
  rw [writeInPlace, writeInPlaceBy]
  cases b.firstRefusal? start.toNat ws.length with
  | some e => rfl
  | none => exact replaceFrom_eq b start.toNat ws

/-- A block leaves the bank of its single writes if they all go through, else the bank as it was. -/
theorem writeInPlace_eq_setEach (b : Bank) (start : UInt16) (ws : List UInt16) :
    b.writeInPlace start ws =
      match b.setEach start.toNat ws with
      | .ok b' => ⟨b', none⟩
      | .error e => ⟨b, some e⟩ := by
  rw [writeInPlace_eq, setEach_eq]
  cases b.firstRefusal? start.toNat ws.length <;> rfl

/-- Single writes stop at the smallest address that is refused. -/
theorem setEach_eq_error_iff {b : Bank} {start : Nat} {ws : List UInt16} {e : Error} :
    b.setEach start ws = .error e ↔
      ∃ i < ws.length,
        (∃ b', b.setEach start (ws.take i) = .ok b') ∧
        (∀ j < i, ∀ e', ¬ b.Refused (start + j) e') ∧
        b.Refused (start + i) e := by
  have herror : b.setEach start ws = .error e ↔ b.firstRefusal? start ws.length = some e := by
    rw [setEach_eq]
    cases b.firstRefusal? start ws.length <;> simp
  rw [herror, firstRefusal?_eq_some_iff]
  constructor
  · rintro ⟨i, hi, hbefore, hrefusal⟩
    -- The words before the first refusal make a block without one.
    have hfree : b.firstRefusal? start (ws.take i).length = none := by
      rw [firstRefusal?_eq_none_iff, List.length_take]
      exact fun j hj => hbefore j (by omega)
    have htake : b.setEach start (ws.take i) = .ok (b.assignFrom start (ws.take i)) := by
      rw [setEach_eq, hfree]
    exact ⟨i, hi, ⟨_, htake⟩,
      fun j hj => refusal?_eq_none_iff_not_refused.1 (hbefore j hj),
      refusal?_eq_some_iff.1 hrefusal⟩
  · rintro ⟨i, hi, -, hbefore, hrefusal⟩
    exact ⟨i, hi, fun j hj => refusal?_eq_none_iff_not_refused.2 (hbefore j hj),
      refusal?_eq_some_iff.2 hrefusal⟩

/-- An owned address has a word. -/
theorem exists_word?_of_owner {b : Bank} {a : UInt16} {r : Register} (h : b.owner? a = some r) :
    ∃ w, b.word? a = some w := by
  obtain ⟨hr, howns⟩ := owner?_eq_some_iff.1 h
  rw [word?_of_owns hr howns]
  exact ⟨_, List.getElem?_eq_getElem (Register.offset_lt howns)⟩

/-- A block of which no word is refused is there word for word once it has been replaced. -/
theorem word?_assignFrom_of_free {b : Bank} {start : UInt16} {ws : List UInt16}
    (hfree : b.firstRefusal? start.toNat ws.length = none) {i : Nat} (hi : i < ws.length)
    {a : UInt16} (ha : a.toNat = start.toNat + i) :
    (b.assignFrom start.toNat ws).word? a = some ws[i] := by
  have hend := end_le_of_firstRefusal? hfree
  -- What may be written has an owner, so there is a word to be replaced.
  obtain ⟨a', r, ha', howner, -⟩ := refusal?_eq_none_iff.1 (firstRefusal?_eq_none_iff.1 hfree i hi)
  obtain rfl : a' = a := UInt16.toNat_inj.1 (ha'.trans ha.symm)
  obtain ⟨old, hword⟩ := exists_word?_of_owner howner
  have hblock : blockWord? start.toNat ws a' = some ws[i] := by
    have hoff : a'.toNat - start.toNat = i := by omega
    rw [blockWord?, if_pos (by omega), hoff, List.getElem?_eq_getElem]
  rw [word?_assignFrom hend, hword, hblock]
  rfl

/-- The second pass at one word of a block: the words before it have been replaced, its address has an
    owner, the owner takes the word, and the bank goes on with this word at the address and every
    other one as it was. -/
structure Replaces (b : Bank) (start : Nat) (ws : List UInt16) (i : Nat) (a w : UInt16)
    (before after : Bank) : Prop where
  reached : b.replaceFrom start (ws.take i) = ⟨before, none⟩
  address : a.toNat = start + i
  owned : ∃ r r', before.owner? a = some r ∧ r.replaceWord a w = .ok r'
  replaced : before.replaceWord a w = .ok after
  word : ∀ x, after.word? x = if x = a then some w else before.word? x

/-- If no word of a block is refused, the second pass replaces each of them, and leaves them all in
    the bank. -/
private theorem replaceFrom_target {b : Bank} {start : UInt16} {ws : List UInt16}
    (hfree : b.firstRefusal? start.toNat ws.length = none) (i : Nat) (hi : i < ws.length) :
    ∃ a before after, b.Replaces start.toNat ws i a ws[i] before after ∧
      (b.replaceFrom start.toNat ws).bank.word? a = some ws[i] := by
  -- The words before `i` have kept every slot, so the word at `i` is still not refused.
  have hslots := slots_assignFrom b start.toNat (ws.take i)
  have hi' := firstRefusal?_eq_none_iff.1 hfree i hi
  rw [← refusal?_congr hslots, refusal?_eq_none_iff] at hi'
  obtain ⟨a, r, ha, howner, -⟩ := hi'
  obtain ⟨old, hold⟩ := exists_word?_of_owner howner
  refine ⟨a, b.assignFrom start.toNat (ws.take i),
    (b.assignFrom start.toNat (ws.take i)).assign a ws[i], ?_, ?_⟩
  · exact
      { reached := replaceFrom_eq ..
        address := ha
        owned := ⟨r, _, howner, Register.replaceWord_of_owns _ (owner?_eq_some_iff.1 howner).2⟩
        replaced := replaceWord_eq ..
        word := fun x => by rw [word?_assign, hold, Option.map_some] }
  · rw [replaceFrom_eq]
    exact word?_assignFrom_of_free hfree hi ha

/-- **Writing a block is the atomic form of single writes.**  If they all go through, the block
    leaves their bank; else it reports the refusal of the smallest address that has one and leaves
    the bank as it was.  Once no word is refused, the second pass finds an owner for every word, that
    owner takes the word, and this changes the word at its address and no other; at the end every
    word of the block is there. -/
theorem writeInPlace_atomic (b : Bank) (start : UInt16) (ws : List UInt16) :
    b.writeWords start ws = b.setEach start.toNat ws ∧
    (b.writeInPlace start ws =
      match b.setEach start.toNat ws with
      | .ok b' => ⟨b', none⟩
      | .error e => ⟨b, some e⟩) ∧
    (∀ e, b.setEach start.toNat ws = .error e ↔
      ∃ i < ws.length,
        (∃ b', b.setEach start.toNat (ws.take i) = .ok b') ∧
        (∀ j < i, ∀ e', ¬ b.Refused (start.toNat + j) e') ∧
        b.Refused (start.toNat + i) e) ∧
    (b.firstRefusal? start.toNat ws.length = none →
      ∀ (i : Nat) (hi : i < ws.length), ∃ a before after,
        b.Replaces start.toNat ws i a ws[i] before after ∧
        (b.replaceFrom start.toNat ws).bank.word? a = some ws[i]) := by
  refine ⟨?_, writeInPlace_eq_setEach b start ws, fun _ => setEach_eq_error_iff,
    replaceFrom_target⟩
  rw [writeWords, writeInPlace_eq_setEach]
  cases b.setEach start.toNat ws <;> rfl

end Bank

end SolarTwin

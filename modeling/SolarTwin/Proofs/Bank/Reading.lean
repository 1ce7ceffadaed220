import SolarTwin.Proofs.Bank.Block

namespace SolarTwin.Bank

/-!
# A block is read as its single words

A block is read under addresses of any size, so that it neither wraps round behind the last address
nor leaves out a gap.  What it gives is what reading the words one by one would give, and where a
word is missing the first such address is reported, be it past the address space.

* `Bank.HasWord` — there is a word at an address of any size;
* `Bank.readWords_eq_ok_iff` and `Bank.readWords_eq_error_iff` — what a block of words is, and which
  address is reported if there is none;
* `Bank.readWords_agrees` — both together, with the condition for the block to be there.
-/

/-- Some word address is the number `n`, and there is a word at it. -/
def HasWord (b : Bank) (n : Nat) : Prop :=
  ∃ a w : UInt16, a.toNat = n ∧ b.word? a = some w

variable {b : Bank}

theorem hasWord_iff {n : Nat} : b.HasWord n ↔ b.wordAt? n ≠ none := by
  constructor
  · rintro ⟨a, w, rfl, hw⟩
    rw [wordAt?_toNat, hw]
    exact Option.some_ne_none w
  · intro hword
    obtain ⟨w, hw⟩ := Option.ne_none_iff_exists'.1 hword
    rw [wordAt?_eq] at hw
    obtain ⟨a, ha, hw⟩ := Option.bind_eq_some_iff.1 hw
    exact ⟨a, w, wordAddress?_eq_some_iff.1 ha, hw⟩

/-- No address past the address space has a word. -/
theorem HasWord.le {n : Nat} (h : b.HasWord n) : n ≤ 65535 := by
  obtain ⟨a, -, rfl, -⟩ := h
  have := a.toNat_lt
  omega

/-- Inside the address space the word at `n` is the one at the word address `n`. -/
theorem wordAt?_ofNat {n : Nat} (hn : n ≤ 65535) : b.wordAt? n = b.word? (UInt16.ofNat n) := by
  have htoNat : (UInt16.ofNat n).toNat = n := by
    rw [UInt16.toNat_ofNat']
    omega
  rw [← wordAt?_toNat, htoNat]

theorem hasWord_iff_of_le {n : Nat} (hn : n ≤ 65535) :
    b.HasWord n ↔ (b.word? (UInt16.ofNat n)).isSome = true := by
  rw [hasWord_iff, wordAt?_ofNat hn, Option.isSome_iff_ne_none]

/-- The words of a block that is read are the words at its addresses, in order. -/
theorem readFrom_eq_ok_iff_getElem {start count : Nat} {ws : List UInt16} :
    b.readFrom start count = .ok ws ↔
      ws.length = count ∧ ∀ (i : Nat) (hi : i < ws.length), b.wordAt? (start + i) = some ws[i] := by
  rw [readFrom_eq_ok_iff]
  constructor
  · intro hwords
    have hlength := congrArg List.length hwords
    simp only [List.length_map, List.length_range] at hlength
    refine ⟨hlength.symm, fun i hi => ?_⟩
    have hword := congrArg (·[i]?) hwords
    simpa [List.getElem?_range (hlength ▸ hi), List.getElem?_eq_getElem hi] using hword
  · rintro ⟨rfl, hword⟩
    refine List.ext_getElem (by simp) fun i hi _ => ?_
    rw [List.length_map, List.length_range] at hi
    simp only [List.getElem_map, List.getElem_range]
    exact hword i hi

/-- A block whose addresses all have a word ends inside the address space, unless it is empty. -/
private theorem end_le_of_hasWord {start count : Nat}
    (hwords : ∀ i < count, b.HasWord (start + i)) : start + count ≤ 65536 ∨ count = 0 := by
  cases count with
  | zero => exact .inr rfl
  | succ count =>
    have hlast := (hwords count (Nat.lt_succ_self count)).le
    omega

/-- The addresses of a block have a word exactly if it ends inside the address space, or is empty,
    and there is a word at each of its word addresses. -/
private theorem forall_hasWord_iff {start count : Nat} :
    (∀ i < count, b.HasWord (start + i)) ↔
      (start + count ≤ 65536 ∨ count = 0) ∧
        ∀ i < count, (b.word? (UInt16.ofNat (start + i))).isSome = true := by
  constructor
  · intro hwords
    exact ⟨end_le_of_hasWord hwords,
      fun i hi => (hasWord_iff_of_le (hwords i hi).le).1 (hwords i hi)⟩
  · rintro ⟨hend, hwords⟩ i hi
    exact (hasWord_iff_of_le (by omega)).2 (hwords i hi)

/-- A block is read exactly as the list of the words at its addresses. -/
theorem readWords_eq_ok_iff {start : UInt16} {count : Nat} {ws : List UInt16} :
    b.readWords start count = .ok ws ↔
      ws.length = count ∧ (start.toNat + count ≤ 65536 ∨ count = 0) ∧
        ∀ (i : Nat) (hi : i < ws.length),
          b.word? (UInt16.ofNat (start.toNat + i)) = some ws[i] := by
  rw [readWords, readFrom_eq_ok_iff_getElem]
  constructor
  · rintro ⟨hlength, hword⟩
    have hwords (i : Nat) (hi : i < count) : b.HasWord (start.toNat + i) := by
      rw [hasWord_iff, hword i (by omega)]
      exact Option.some_ne_none _
    refine ⟨hlength, end_le_of_hasWord hwords, fun i hi => ?_⟩
    rw [← wordAt?_ofNat (hwords i (by omega)).le]
    exact hword i hi
  · rintro ⟨hlength, hend, hword⟩
    refine ⟨hlength, fun i hi => ?_⟩
    rw [wordAt?_ofNat (by omega)]
    exact hword i hi

/-- A block that cannot be read reports the smallest of its addresses without a word. -/
theorem readWords_eq_error_iff {start : UInt16} {count : Nat} {e : Error} :
    b.readWords start count = .error e ↔
      ∃ i < count, (∀ j < i, b.HasWord (start.toNat + j)) ∧ ¬ b.HasWord (start.toNat + i) ∧
        e = .unmapped (start.toNat + i) := by
  simp only [readWords, readFrom_eq_error_iff, hasWord_iff, ne_eq, not_not]

/-- **Reading a block agrees with reading its words.**  A block is read exactly if it ends inside
    the address space, or is empty, and there is a word at each of its addresses; it is then the
    list of these words in order.  Otherwise the smallest of its addresses that has no word is
    reported, which may lie past the address space. -/
theorem readWords_agrees (b : Bank) (start : UInt16) (count : Nat) :
    ((∃ ws, b.readWords start count = .ok ws) ↔
      (start.toNat + count ≤ 65536 ∨ count = 0) ∧
        ∀ i < count, (b.word? (UInt16.ofNat (start.toNat + i))).isSome = true) ∧
    (∀ ws, b.readWords start count = .ok ws ↔
      ws.length = count ∧ (start.toNat + count ≤ 65536 ∨ count = 0) ∧
        ∀ (i : Nat) (hi : i < ws.length),
          b.word? (UInt16.ofNat (start.toNat + i)) = some ws[i]) ∧
    ∀ e, b.readWords start count = .error e ↔
      ∃ i < count, (∀ j < i, b.HasWord (start.toNat + j)) ∧ ¬ b.HasWord (start.toNat + i) ∧
        e = .unmapped (start.toNat + i) := by
  refine ⟨?_, fun _ => readWords_eq_ok_iff, fun _ => readWords_eq_error_iff⟩
  rw [← forall_hasWord_iff]
  simp only [readWords, exists_readFrom_eq_ok_iff, hasWord_iff]

end SolarTwin.Bank

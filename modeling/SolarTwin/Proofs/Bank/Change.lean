import SolarTwin.Proofs.Bank.View

namespace SolarTwin

/-!
# What a change of a bank changes

Both ways to change a bank exchange one register for another with the same slot: one with the value
that is stored, or one with the recomposed value of the owner of a word.

* `Bank.slots_exchange` — no change moves, retypes, renames or reopens a register;
* `Bank.word?_exchange` and `Bank.word?_assign` — a register changes its own words and nothing else,
  a word changes itself and nothing else;
* `Bank.replaceWord_eq` and `Bank.replaceFrom_eq` — replacing words never fails.
-/

namespace Bank

/-! ### Exchanging a register -/

section Exchange

variable {b : Bank} {r s : Register} (h : s.slot = r.slot)

include h

theorem owns_exchanged (t : Register) (x : UInt16) : (exchanged r s t).owns x = t.owns x :=
  congrArg (Slot.owns · x) (slot_exchanged h t)

@[simp] theorem slots_exchange : (b.exchange r s h).slots = b.slots := by
  simp only [slots, exchange, List.map_map]
  exact List.map_congr_left fun t _ => slot_exchanged h t

theorem owner?_exchange (x : UInt16) :
    (b.exchange r s h).owner? x = (b.owner? x).map (exchanged r s) := by
  cases howner : b.owner? x with
  | none =>
    rw [owner?_eq_none_iff] at howner
    rw [Option.map_none, owner?_eq_none_iff]
    intro t' ht'
    obtain ⟨t, ht, rfl⟩ := List.mem_map.1 ht'
    rw [owns_exchanged h, howner t ht]
  | some t =>
    obtain ⟨ht, hx⟩ := owner?_eq_some_iff.1 howner
    rw [Option.map_some, owner?_eq_some_iff, owns_exchanged h]
    exact ⟨List.mem_map_of_mem ht, hx⟩

/-- An exchange changes the words of the register and no others. -/
theorem word?_exchange (hr : r ∈ b.registers) (x : UInt16) :
    (b.exchange r s h).word? x =
      if r.owns x then s.words[x.toNat - r.address.toNat]? else b.word? x := by
  have haddress : s.address = r.address := congrArg Slot.address h
  have howns : s.owns x = r.owns x := congrArg (Slot.owns · x) h
  rw [word?_eq, word?_eq, owner?_exchange h]
  by_cases hx : r.owns x = true
  · -- The owner of `x` is `r`, so it becomes `s`.
    rw [if_pos hx, owner?_eq_some_iff.2 ⟨hr, hx⟩, Option.map_some, exchanged, if_pos rfl,
      Option.bind_some, Register.word?_eq, howns, if_pos hx, haddress]
  · rw [if_neg hx]
    cases howner : b.owner? x with
    | none => rfl
    | some t =>
      -- The owner of `x` is another register, so it stays.
      have htr : t ≠ r := fun htr => hx (htr ▸ (owner?_eq_some_iff.1 howner).2)
      rw [Option.map_some, exchanged, if_neg htr]

end Exchange

/-- Storing a value goes through exactly if a register of its kind starts there. -/
theorem setLogical_eq_ok_iff {b b' : Bank} {a : UInt16} {v : Value} :
    b.setLogical a v = .ok b' ↔
      ∃ r, ∃ hv : v.kind = r.kind, b.find? a = some r ∧
        b' = b.exchange r { r with value := v } (Register.slot_withValue hv) := by
  unfold setLogical
  cases hfind : b.find? a with
  | none => simp
  | some r =>
    simp only
    constructor
    · intro h
      split at h
      · next s hs =>
        obtain ⟨hv, rfl⟩ := Register.setValue_eq_ok_iff.1 hs
        exact ⟨r, hv, rfl, (Except.ok.inj h).symm⟩
      · cases h
    · rintro ⟨r', hv, hr, rfl⟩
      obtain rfl := Option.some.inj hr
      split
      · next s hs =>
        obtain ⟨-, rfl⟩ := Register.setValue_eq_ok_iff.1 hs
        rfl
      · next e he => cases he.symm.trans (Register.setValue_eq_ok_iff.2 ⟨hv, rfl⟩)

/-! ### Replacing a word -/

/-- The bank with the word at `a` replaced.  Nothing changes if no register owns `a`. -/
def assign (b : Bank) (a w : UInt16) : Bank :=
  match b.owner? a with
  | none => b
  | some r => b.exchange r (r.withWord a w) (r.slot_withWord a w)

theorem assign_of_owner {b : Bank} {a : UInt16} {r : Register} (h : b.owner? a = some r)
    (w : UInt16) : b.assign a w = b.exchange r (r.withWord a w) (r.slot_withWord a w) := by
  rw [assign, h]

theorem assign_of_unowned {b : Bank} {a : UInt16} (h : b.owner? a = none) (w : UInt16) :
    b.assign a w = b := by
  rw [assign, h]

/-- Replacing a word never fails. -/
theorem replaceWordBy_eq {m : Type → Type} [Monad m] [LawfulMonad m] {ix : Indexing m}
    (hix : ix.Faithful) (b : Bank) (a w : UInt16) :
    b.replaceWordBy ix a w = pure (.ok (b.assign a w)) := by
  rw [replaceWordBy]
  cases howner : b.owner? a with
  | none => rw [assign_of_unowned howner]
  | some r =>
    -- The owner is given a word of its own, which it cannot refuse.
    have howns := (owner?_eq_some_iff.1 howner).2
    rw [assign_of_owner howner]
    simp only [Register.replaceWordBy_of_owns hix w howns, pure_bind]
    rfl

theorem replaceWord_eq (b : Bank) (a w : UInt16) : b.replaceWord a w = .ok (b.assign a w) :=
  replaceWordBy_eq Indexing.lenient_faithful b a w

@[simp] theorem slots_assign (b : Bank) (a w : UInt16) : (b.assign a w).slots = b.slots := by
  cases howner : b.owner? a with
  | none => rw [assign_of_unowned howner]
  | some r => rw [assign_of_owner howner, slots_exchange]

/-- Replacing a word changes that word, if there is one, and no other. -/
theorem word?_assign (b : Bank) (a w x : UInt16) :
    (b.assign a w).word? x = if x = a then (b.word? a).map fun _ => w else b.word? x := by
  cases howner : b.owner? a with
  | none =>
    rw [assign_of_unowned howner]
    split
    · next hx => rw [hx, word?_of_unowned howner, Option.map_none]
    · rfl
  | some r =>
    obtain ⟨hr, ha⟩ := owner?_eq_some_iff.1 howner
    have hoff := Register.offset_lt ha
    rw [assign_of_owner howner, word?_exchange _ hr, Register.words_withWord]
    by_cases hx : x = a
    · subst hx
      rw [if_pos ha, if_pos rfl, word?_of_owns hr ha, List.getElem?_set_self hoff,
        List.getElem?_eq_getElem hoff, Option.map_some]
    · rw [if_neg hx]
      split
      · next hrx =>
        -- Another word of the same register sits at another offset.
        rw [List.getElem?_set_ne ?_, word?_of_owns hr hrx]
        intro hsame
        rw [Register.owns_iff] at ha hrx
        exact hx (UInt16.toNat_inj.1 (by omega))
      · rfl

/-! ### Replacing a block -/

/-- The bank with the words at `start`, `start + 1`, … replaced. -/
def assignFrom (b : Bank) (start : Nat) : List UInt16 → Bank
  | [] => b
  | w :: ws => (b.assign (UInt16.ofNat start) w).assignFrom (start + 1) ws

/-- Replacing words one after another never stops half-way. -/
theorem replaceFromBy_eq {m : Type → Type} [Monad m] [LawfulMonad m] {ix : Indexing m}
    (hix : ix.Faithful) (b : Bank) (start : Nat) (ws : List UInt16) :
    b.replaceFromBy ix start ws = pure ⟨b.assignFrom start ws, none⟩ := by
  induction ws generalizing b start with
  | nil => rfl
  | cons w ws ih =>
    rw [replaceFromBy, replaceWordBy_eq hix, pure_bind]
    exact ih (b.assign (UInt16.ofNat start) w) (start + 1)

theorem replaceFrom_eq (b : Bank) (start : Nat) (ws : List UInt16) :
    b.replaceFrom start ws = ⟨b.assignFrom start ws, none⟩ :=
  replaceFromBy_eq Indexing.lenient_faithful b start ws

@[simp] theorem slots_assignFrom (b : Bank) (start : Nat) (ws : List UInt16) :
    (b.assignFrom start ws).slots = b.slots := by
  induction ws generalizing b start with
  | nil => rfl
  | cons w ws ih => rw [assignFrom, ih, slots_assign]

/-- The word that a block of words from `start` on has for an address, if it covers the address. -/
def blockWord? (start : Nat) (ws : List UInt16) (x : UInt16) : Option UInt16 :=
  if start ≤ x.toNat then ws[x.toNat - start]? else none

@[simp] theorem blockWord?_nil (start : Nat) (x : UInt16) : blockWord? start [] x = none := by
  simp [blockWord?]

/-- The first word of a block is for its start, the others are a block one further. -/
private theorem blockWord?_cons (start : Nat) (w : UInt16) (ws : List UInt16) (x : UInt16) :
    blockWord? start (w :: ws) x =
      if x.toNat = start then some w else blockWord? (start + 1) ws x := by
  unfold blockWord?
  by_cases hx : x.toNat = start
  · rw [if_pos hx, if_pos (by omega), hx, Nat.sub_self, List.getElem?_cons_zero]
  · rw [if_neg hx]
    by_cases hle : start ≤ x.toNat
    · have hoff : x.toNat - start = x.toNat - (start + 1) + 1 := by omega
      rw [if_pos hle, if_pos (by omega), hoff, List.getElem?_cons_succ]
    · rw [if_neg hle, if_neg (by omega)]

/-- A block has no word for an address that it does not meet. -/
theorem blockWord?_of_forall_ne {start : Nat} {ws : List UInt16} {x : UInt16}
    (h : ∀ i < ws.length, start + i ≠ x.toNat) : blockWord? start ws x = none := by
  unfold blockWord?
  split
  · next hle =>
    rw [List.getElem?_eq_none_iff]
    by_contra hlt
    exact h (x.toNat - start) (by omega) (by omega)
  · rfl

/-- The words of a value of its kind are a block that covers a register. -/
theorem blockWord?_words {r : Register} {v : Value} (hv : v.kind = r.kind) (x : UInt16) :
    blockWord? r.address.toNat v.words x =
      if r.owns x then v.words[x.toNat - r.address.toNat]? else none := by
  have hlen : v.words.length = r.width := by rw [Value.length_words, hv, Register.width]
  unfold blockWord?
  by_cases hx : r.owns x = true
  · rw [if_pos hx, if_pos ((Register.owns_iff r x).1 hx).1]
  · rw [if_neg hx]
    split
    · rw [Register.owns_iff, Register.endAddress] at hx
      rw [List.getElem?_eq_none_iff]
      omega
    · rfl

/-- Replacing a block changes the words in it and no others. -/
theorem word?_assignFrom {start : Nat} {ws : List UInt16} (hend : start + ws.length ≤ 65536)
    (b : Bank) (x : UInt16) :
    (b.assignFrom start ws).word? x =
      (b.word? x).map fun old => (blockWord? start ws x).getD old := by
  induction ws generalizing b start with
  | nil => simp [assignFrom]
  | cons w ws ih =>
    rw [List.length_cons] at hend
    have hstart : (UInt16.ofNat start).toNat = start := by
      rw [UInt16.toNat_ofNat']
      omega
    rw [assignFrom, ih (by omega), word?_assign, blockWord?_cons]
    by_cases hx : x = UInt16.ofNat start
    · -- The first word is written now and not again.
      have hxs : x.toNat = start := by rw [hx, hstart]
      have hagain : blockWord? (start + 1) ws x = none := by
        rw [blockWord?, if_neg (by omega)]
      rw [if_pos hx, if_pos hxs, hagain, hx, Option.map_map]
      rfl
    · have hxs : x.toNat ≠ start := fun h => hx (UInt16.toNat_inj.1 (by rw [hstart, h]))
      rw [if_neg hx, if_neg hxs]

end Bank

end SolarTwin

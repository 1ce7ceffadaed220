import Mathlib.Algebra.Order.Ring.Nat
import SolarTwin.Proofs.Bank.History

namespace SolarTwin

/-!
# The sizes of a bank count addresses

The sizes of a bank are read off its registers: their number, and the sum of their widths.  Each
register owns as many addresses as it is wide, all of them inside the address space, and no address
is owned twice.  So the sizes are also numbers of addresses.

* `Layout.addressCount` — the number of word addresses with a property;
* `Layout.addressCount_any` — it adds up over properties that no address shares;
* `Bank.addressCount_owned` — the widths of some registers of a bank add up to the number of
  addresses that they own;
* `Bank.sizes_count_addresses` — the addresses with a word, with a value, and of words that a client
  may write.
-/

namespace Layout

/-! ### Counting addresses -/

/-- The number of word addresses with a property. -/
def addressCount (p : UInt16 → Bool) : Nat :=
  (List.range addressSpace).countP fun n => p (UInt16.ofNat n)

theorem addressCount_le (p : UInt16 → Bool) : addressCount p ≤ addressSpace := by
  have hle := List.countP_le_length (p := fun n => p (UInt16.ofNat n)) (l := List.range addressSpace)
  rwa [List.length_range] at hle

private theorem addressCount_false : addressCount (fun _ => false) = 0 := by
  simp [addressCount]

/-- Two properties that no address shares are counted one after the other. -/
theorem addressCount_or {p q : UInt16 → Bool} (h : ∀ a, ¬ (p a = true ∧ q a = true)) :
    addressCount (fun a => p a || q a) = addressCount p + addressCount q := by
  -- The addresses with `p` are counted first, and among the others only `q` matters.
  have hleft (a : UInt16) : ((p a || q a) && p a) = p a := by
    cases p a <;> simp
  have hright (a : UInt16) : ((p a || q a) && !p a) = q a := by
    cases hp : p a with
    | false => simp
    | true =>
      have hq : q a = false := by simpa [hp] using h a
      simp [hq]
  unfold addressCount
  rw [List.countP_eq_countP_filter_add _ _ fun n => p (UInt16.ofNat n), List.countP_filter,
    List.countP_filter]
  simp only [hleft, hright]

/-- Over properties of which no two share an address the number adds up. -/
theorem addressCount_any {α : Type} {p : α → UInt16 → Bool} {xs : List α}
    (h : xs.Pairwise fun x y => ∀ a, ¬ (p x a = true ∧ p y a = true)) :
    addressCount (fun a => xs.any (p · a)) = (xs.map fun x => addressCount (p x)).sum := by
  induction xs with
  | nil => exact addressCount_false
  | cons x xs ih =>
    obtain ⟨hx, hxs⟩ := List.pairwise_cons.1 h
    have happart (a : UInt16) : ¬ (p x a = true ∧ xs.any (p · a) = true) := by
      rintro ⟨hxa, hany⟩
      obtain ⟨y, hy, hya⟩ := List.any_eq_true.1 hany
      exact hx y hy a ⟨hxa, hya⟩
    simp only [List.any_cons, List.map_cons, List.sum_cons]
    rw [addressCount_or happart, ih hxs]

/-- The numbers below `n` that lie in a block. -/
private theorem countP_range_block (start width n : Nat) :
    (List.range n).countP (fun i => start ≤ i && i < start + width) =
      min n (start + width) - min n start := by
  induction n with
  | zero => simp
  | succ n ih =>
    rw [List.range_succ, List.countP_append, ih, List.countP_singleton]
    simp only [Bool.and_eq_true, decide_eq_true_eq]
    split <;> omega

/-- A block inside the address space has as many addresses as it is wide. -/
theorem addressCount_block {p : UInt16 → Bool} {start width : Nat}
    (hend : start + width ≤ addressSpace)
    (h : ∀ a, p a = true ↔ start ≤ a.toNat ∧ a.toNat < start + width) :
    addressCount p = width := by
  have hblock : addressCount p =
      (List.range addressSpace).countP fun i => start ≤ i && i < start + width := by
    refine List.countP_congr fun n hn => ?_
    -- A number below the end of the address space is an address as it stands.
    have htoNat : (UInt16.ofNat n).toNat = n := by
      rw [UInt16.toNat_ofNat']
      exact Nat.mod_eq_of_lt (List.mem_range.1 hn)
    rw [h, htoNat]
    simp
  rw [hblock, countP_range_block]
  omega

end Layout

open Layout

/-- A register inside the address space owns as many addresses as it is wide. -/
theorem Register.addressCount_owns {r : Register} (h : r.endAddress ≤ addressSpace) :
    addressCount r.owns = r.width :=
  addressCount_block h r.owns_iff

/-- A register starts at one address. -/
theorem Register.addressCount_address (r : Register) :
    addressCount (fun a => r.address == a) = 1 := by
  have hblock (a : UInt16) : (r.address == a) = true ↔
      r.address.toNat ≤ a.toNat ∧ a.toNat < r.address.toNat + 1 := by
    rw [beq_iff_eq, ← UInt16.toNat_inj]
    omega
  exact addressCount_block r.address.toNat_lt hblock

namespace Bank

variable (b : Bank)

/-! ### The properties that are counted -/

theorem isSome_word? (a : UInt16) : (b.word? a).isSome = b.registers.any (·.owns a) := by
  rw [Bool.eq_iff_iff, Option.isSome_iff_ne_none, ne_eq, word?_eq_none_iff]
  simp

theorem isSome_logical? (a : UInt16) : (b.logical? a).isSome = b.registers.any (·.address == a) := by
  rw [Bool.eq_iff_iff, Option.isSome_iff_ne_none, ne_eq, logical?_eq_none_iff]
  simp

/-- A client may write a word exactly if a writable register owns it, whatever the new word is. -/
private theorem isOk_setWord (a w : UInt16) :
    (b.setWord a w).isOk = (b.registers.filter (·.access.isWritable)).any (·.owns a) := by
  have hok : (b.setWord a w).isOk = true ↔ b.refusal? a.toNat = none := by
    rw [setWord_eq]
    cases b.refusal? a.toNat <;> simp [Except.isOk, Except.toBool]
  rw [Bool.eq_iff_iff, hok, refusal?_eq_none_iff, List.any_eq_true]
  constructor
  · rintro ⟨x, r, hx, howner, hw⟩
    obtain rfl := UInt16.toNat_inj.1 hx
    obtain ⟨hr, howns⟩ := owner?_eq_some_iff.1 howner
    exact ⟨r, List.mem_filter.2 ⟨hr, hw⟩, howns⟩
  · rintro ⟨r, hr, howns⟩
    obtain ⟨hmem, hw⟩ := List.mem_filter.1 hr
    exact ⟨a, r, rfl, owner?_eq_some_iff.2 ⟨hmem, howns⟩, hw⟩

/-! ### The sizes -/

/-- The addresses that some registers of a bank own are as many as their widths together. -/
theorem addressCount_owned {rs : List Register} (h : rs.Sublist b.registers) :
    addressCount (fun a => rs.any (·.owns a)) = (rs.map Register.width).sum := by
  -- The registers lie apart, so what they own is counted one register after the other.
  rw [addressCount_any (p := Register.owns) (b.apart_registers.sublist h)]
  exact congrArg List.sum <| List.map_congr_left fun r hr =>
    Register.addressCount_owns (b.wellLaid.inside r (h.subset hr))

/-- Each register starts at an address of its own. -/
theorem addressCount_addresses :
    addressCount (fun a => b.registers.any (·.address == a)) = b.registers.length := by
  have hapart : b.registers.Pairwise fun r s =>
      ∀ a, ¬ ((r.address == a) = true ∧ (s.address == a) = true) := by
    refine b.apart_registers.imp fun {r s} hrs a => ?_
    rintro ⟨hr, hs⟩
    obtain rfl := beq_iff_eq.1 hr
    exact hrs _ ⟨r.owns_address, beq_iff_eq.1 hs ▸ s.owns_address⟩
  rw [addressCount_any (p := fun (r : Register) a => r.address == a) hapart]
  simp only [Register.addressCount_address, List.map_const', List.sum_replicate_nat, mul_one]

theorem mappedWords_eq_sum : b.stats.mappedWords = (b.registers.map Register.width).sum :=
  (List.foldr_map ..).symm

/-- **The sizes of a bank count its address space.**  The mapped words are the addresses with a
    word, so there are at most 65536; the logical registers are the addresses with a value; and the
    words that a client may write, each with any new word, are as many as the writable registers are
    wide together. -/
theorem sizes_count_addresses :
    b.stats.mappedWords = addressCount (fun a => (b.word? a).isSome) ∧
    b.stats.mappedWords ≤ 65536 ∧
    b.stats.logicalRegisters = addressCount (fun a => (b.logical? a).isSome) ∧
    ∀ words : UInt16 → UInt16,
      addressCount (fun a => (b.setWord a (words a)).isOk) =
        ((b.registers.filter (·.access.isWritable)).map Register.width).sum := by
  have hmapped : b.stats.mappedWords = addressCount (fun a => (b.word? a).isSome) := by
    simp only [isSome_word?]
    rw [addressCount_owned b (List.Sublist.refl _), mappedWords_eq_sum]
  refine ⟨hmapped, hmapped ▸ addressCount_le _, ?_, fun words => ?_⟩
  · simp only [isSome_logical?]
    exact b.addressCount_addresses.symm
  · simp only [isOk_setWord]
    exact addressCount_owned b List.filter_sublist

end Bank

end SolarTwin

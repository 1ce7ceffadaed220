import SolarTwin.Proofs.Bank.History

namespace SolarTwin

/-!
# Which lists a bank is loaded with

A list of registers is searched for faults in two passes: entry by entry, and then neighbour by
neighbour in address order.  That is enough to compare every two entries, so a list is accepted
exactly if it is sound, in whatever order it stands, and nothing is lost when it is put under the
addresses of its registers.

* `Register.Apart`, `Layout.Sound` — what is asked of two registers, and of a list;
* `Layout.fault?_eq_none_iff` — the search finds a fault exactly in a list that is not sound;
* `Layout.collect` — a list under its addresses, one entry after another;
* `Layout.collect_eq_sorted` — of a sound list every entry is kept;
* `Bank.load_exact` — what loading a list does to a bank.
-/

/-! ### Two registers -/

namespace Register

/-- Two registers have no address in common. -/
def Apart (r s : Register) : Prop := ∀ n, ¬ (r.Covers n ∧ s.Covers n)

variable {r s : Register}

theorem Apart.symm (h : r.Apart s) : s.Apart r := fun n hn => h n hn.symm

/-- Of two registers that are apart one ends before the other starts. -/
theorem apart_iff :
    r.Apart s ↔ r.endAddress ≤ s.address.toNat ∨ s.endAddress ≤ r.address.toNat := by
  have hr := r.width_pos
  have hs := s.width_pos
  unfold Apart Covers endAddress
  constructor
  · intro h
    -- If they overlap, the greater of the two starts belongs to both.
    have hstart := h (max r.address.toNat s.address.toNat)
    omega
  · intro h n
    omega

theorem Apart.address_ne (h : r.Apart s) : r.address ≠ s.address := by
  intro heq
  have hr := r.width_pos
  have hs := s.width_pos
  rw [apart_iff, endAddress, endAddress, heq] at h
  omega

/-- The one that starts first ends before the other starts. -/
theorem Apart.end_le (h : r.Apart s) (hle : r.address.toNat ≤ s.address.toNat) :
    r.endAddress ≤ s.address.toNat := by
  have hs := s.width_pos
  rcases apart_iff.1 h with hend | hend
  · exact hend
  · rw [endAddress] at hend
    omega

end Register

namespace Layout

/-! ### Sound lists -/

/-- The registers of a list end inside the address space, and every two entries are apart. -/
structure Sound (rs : List Register) : Prop where
  inside : ∀ r ∈ rs, r.endAddress ≤ addressSpace
  apart : rs.Pairwise Register.Apart

variable {rs rs' map : List Register}

/-- The order of the entries does not matter. -/
theorem Sound.perm (h : Sound rs) (hperm : rs.Perm rs') : Sound rs' where
  inside := fun r hr => h.inside r (hperm.mem_iff.2 hr)
  apart := (hperm.pairwise_iff fun hrs => hrs.symm).1 h.apart

theorem Sound.addresses (h : Sound rs) : rs.Pairwise fun r s => r.address ≠ s.address :=
  h.apart.imp fun hrs => hrs.address_ne

theorem WellLaid.sound (h : WellLaid rs) : Sound rs where
  inside := h.inside
  apart := h.apart.imp fun hend => Register.apart_iff.2 (.inl hend)

/-- In a well-laid list the registers start at ascending addresses. -/
theorem WellLaid.pairwise_lt (h : WellLaid rs) :
    rs.Pairwise fun r s => r.address.toNat < s.address.toNat := by
  apply h.apart.imp
  intro r s hend
  have := r.width_pos
  rw [Register.endAddress] at hend
  omega

theorem perm_sorted (rs : List Register) : (sorted rs).Perm rs := List.mergeSort_perm ..

theorem pairwise_sorted (rs : List Register) :
    (sorted rs).Pairwise fun r s => r.address.toNat ≤ s.address.toNat := by
  have h : (sorted rs).Pairwise fun r s => decide (r.address.toNat ≤ s.address.toNat) = true :=
    List.pairwise_mergeSort (fun r s t => by simpa using Nat.le_trans)
      (fun r s => by simpa using Nat.le_total _ _) rs
  exact h.imp fun hle => by simpa using hle

/-! ### The search for faults -/

/-- The first pass looks at the end of each entry, and for its address among those seen before. -/
theorem entryFault?_eq_none_iff {seen : List UInt16} :
    entryFault? seen rs = none ↔
      (∀ r ∈ rs, r.endAddress ≤ addressSpace) ∧ (∀ r ∈ rs, r.address ∉ seen) ∧
        rs.Pairwise fun r s => r.address ≠ s.address := by
  induction rs generalizing seen with
  | nil => simp [entryFault?]
  | cons r rest ih =>
    simp only [entryFault?, List.forall_mem_cons, List.pairwise_cons]
    by_cases hend : addressSpace < r.endAddress
    · simp only [hend, if_true, reduceCtorEq, false_iff]
      omega
    · by_cases hseen : r.address ∈ seen
      · simp [hend, hseen]
      · -- The rest is searched with the address of `r` among those seen.
        have hcontains : seen.contains r.address = false := by simpa using hseen
        simp only [hend, if_false, hcontains, Bool.false_eq_true, ih, List.mem_cons, not_or]
        constructor
        · rintro ⟨hinside, hfresh, hdistinct⟩
          exact ⟨⟨by omega, hinside⟩, ⟨hseen, fun s hs => (hfresh s hs).2⟩,
            fun s hs => Ne.symm (hfresh s hs).1, hdistinct⟩
        · rintro ⟨⟨-, hinside⟩, ⟨-, hfresh⟩, hother, hdistinct⟩
          exact ⟨hinside, fun s hs => ⟨Ne.symm (hother s hs), hfresh s hs⟩, hdistinct⟩

/-- The second pass finds nothing in registers that end before the next ones start. -/
theorem overlapFault?_eq_none (h : rs.Pairwise fun r s => r.endAddress ≤ s.address.toNat) :
    overlapFault? rs = none := by
  induction rs with
  | nil => rfl
  | cons r rest ih =>
    obtain ⟨hr, hrest⟩ := List.pairwise_cons.1 h
    cases rest with
    | nil => rfl
    | cons s rest =>
      have hend := hr s List.mem_cons_self
      rw [overlapFault?, if_neg (by omega)]
      exact ih hrest

/-- In address order a sound list is well laid. -/
theorem Sound.wellLaid (h : Sound rs)
    (hkeys : rs.Pairwise fun r s => r.address.toNat ≤ s.address.toNat) : WellLaid rs where
  inside := h.inside
  apart := h.apart.imp₂ (fun _ _ hrs hle => hrs.end_le hle) hkeys

theorem Sound.wellLaid_sorted (h : Sound rs) : WellLaid (sorted rs) :=
  (h.perm (perm_sorted rs).symm).wellLaid (pairwise_sorted rs)

/-- A list is without fault exactly if it is sound. -/
theorem fault?_eq_none_iff : fault? rs = none ↔ Sound rs := by
  constructor
  · intro h
    exact (wellLaid_sorted h).sound.perm (perm_sorted rs)
  · intro h
    rw [fault?, Option.or_eq_none_iff]
    exact ⟨entryFault?_eq_none_iff.2 ⟨h.inside, by simp, h.addresses⟩,
      overlapFault?_eq_none h.wellLaid_sorted.apart⟩

theorem check_eq_ok_iff : check rs = .ok () ↔ fault? rs = none := by
  unfold check
  cases fault? rs <;> simp

/-! ### Registers under their addresses -/

/-- Puts a register under its address among others in address order.  One that has been under the
    same address is dropped. -/
def put (r : Register) : List Register → List Register
  | [] => [r]
  | s :: rest =>
    if r.address.toNat < s.address.toNat then r :: s :: rest
    else if r.address = s.address then r :: rest
    else s :: put r rest

/-- Puts the entries of a list under their addresses, one after another. -/
def collect (rs : List Register) : List Register := rs.foldl (fun map r => put r map) []

private theorem mem_put {r s : Register} (h : s ∈ put r map) : s = r ∨ s ∈ map := by
  induction map with
  | nil => exact .inl (List.mem_singleton.1 h)
  | cons t rest ih =>
    unfold put at h
    split at h
    · exact List.mem_cons.1 h
    · split at h
      · exact (List.mem_cons.1 h).imp_right fun hs => List.mem_cons_of_mem t hs
      · rcases List.mem_cons.1 h with rfl | hs
        · exact .inr List.mem_cons_self
        · exact (ih hs).imp_right fun hs => List.mem_cons_of_mem t hs

/-- Putting keeps the address order, with no address twice. -/
private theorem pairwise_put (h : map.Pairwise fun s t => s.address.toNat < t.address.toNat)
    (r : Register) : (put r map).Pairwise fun s t => s.address.toNat < t.address.toNat := by
  induction map with
  | nil => exact List.pairwise_singleton _ r
  | cons t rest ih =>
    obtain ⟨ht, hrest⟩ := List.pairwise_cons.1 h
    unfold put
    split
    · next hlt =>
      refine List.pairwise_cons.2 ⟨fun s hs => ?_, h⟩
      rcases List.mem_cons.1 hs with rfl | hs
      · exact hlt
      · exact Nat.lt_trans hlt (ht s hs)
    · next hge =>
      split
      · next heq => exact List.pairwise_cons.2 ⟨fun s hs => heq ▸ ht s hs, hrest⟩
      · next hne =>
        refine List.pairwise_cons.2 ⟨fun s hs => ?_, ih hrest⟩
        rcases mem_put hs with rfl | hs
        · have : s.address.toNat ≠ t.address.toNat := fun heq => hne (UInt16.toNat_inj.1 heq)
          omega
        · exact ht s hs

/-- Under an address of its own a register joins the others. -/
theorem put_perm {r : Register} (h : ∀ s ∈ map, s.address ≠ r.address) :
    (put r map).Perm (r :: map) := by
  induction map with
  | nil => exact .refl _
  | cons t rest ih =>
    obtain ⟨ht, hrest⟩ := List.forall_mem_cons.1 h
    unfold put
    split
    · exact .refl _
    · rw [if_neg ht.symm]
      exact ((ih hrest).cons t).trans (.swap r t rest)

theorem pairwise_collect (rs : List Register) :
    (collect rs).Pairwise fun s t => s.address.toNat < t.address.toNat := by
  unfold collect
  induction rs using List.reverseRecOn with
  | nil => exact .nil
  | append_singleton rs r ih =>
    rw [List.foldl_append]
    exact pairwise_put ih r

/-- Entries with addresses of their own are all kept. -/
theorem collect_perm (h : rs.Pairwise fun r s => r.address ≠ s.address) :
    (collect rs).Perm rs := by
  induction rs using List.reverseRecOn with
  | nil => exact .nil
  | append_singleton rs r ih =>
    obtain ⟨hrs, -, hr⟩ := List.pairwise_append.1 h
    have hcollected := ih hrs
    have hput : collect (rs ++ [r]) = put r (collect rs) := by
      simp [collect, List.foldl_append]
    rw [hput]
    refine (put_perm fun s hs => ?_).trans ((hcollected.cons r).trans ?_)
    · exact hr s (hcollected.mem_iff.1 hs) r (List.mem_singleton.2 rfl)
    · exact (List.perm_append_singleton r rs).symm

/-- A sound list under its addresses is the list in address order. -/
theorem collect_eq_sorted (h : Sound rs) : collect rs = sorted rs := by
  have hsorted := h.wellLaid_sorted.pairwise_lt
  refine ((collect_perm h.addresses).trans (perm_sorted rs).symm).eq_of_pairwise
    (fun s t _ _ hst hts => ?_) (pairwise_collect rs) hsorted
  omega

end Layout

namespace Bank

/-! ### Loading -/

/-- A list that is rejected leaves the bank as it was, with the fault of the list. -/
private theorem attempt_load_of_error {rs : List Register} {e : Error}
    (h : Layout.check rs = .error e) (b : Bank) : b.attempt (.load rs) = ⟨b, some e⟩ := by
  unfold Layout.check at h
  rw [attempt, ofRegisters]
  split at h
  · next fault hfault =>
    obtain rfl := Except.error.inj h
    split
    · next fault' hfault' =>
      obtain rfl := Option.some.inj (hfault.symm.trans hfault')
      rfl
    · next hnone => cases hfault.symm.trans hnone
  · cases h

/-- A sound list takes the place of what was in the bank. -/
private theorem attempt_load_of_sound {rs : List Register} (h : Layout.Sound rs) (b : Bank) :
    ∃ b', b.attempt (.load rs) = ⟨b', none⟩ ∧ b'.registers = Layout.collect rs := by
  have hfault := Layout.fault?_eq_none_iff.2 h
  let loaded : Bank := ⟨Layout.sorted rs, Layout.wellLaid_sorted hfault⟩
  have hloaded : ofRegisters rs = .ok loaded := ofRegisters_eq_ok_iff.2 ⟨hfault, rfl⟩
  refine ⟨loaded, ?_, (Layout.collect_eq_sorted h).symm⟩
  rw [attempt, hloaded, attemptOf]

/-- **Loading is exact.**  A list is accepted exactly if it is sound, and then so is each of its
    rearrangements.  A list that is rejected is reported with its fault and leaves the bank as it
    was.  One that is accepted leaves its entries under their addresses, every one of them with its
    value, and nothing of what was there before. -/
theorem load_exact (rs : List Register) :
    (Layout.check rs = .ok () ↔ Layout.Sound rs) ∧
    (∀ rs' : List Register, rs'.Perm rs → (Layout.check rs' = .ok () ↔ Layout.check rs = .ok ())) ∧
    ∀ b : Bank,
      (∀ e, Layout.check rs = .error e → b.attempt (.load rs) = ⟨b, some e⟩) ∧
      (Layout.check rs = .ok () → ∃ b', b.attempt (.load rs) = ⟨b', none⟩ ∧
        b'.registers = Layout.collect rs ∧ b'.registers.Perm rs ∧
        ∀ a r, b'.find? a = some r ↔ r ∈ rs ∧ r.address = a) := by
  have haccepted {rs : List Register} : Layout.check rs = .ok () ↔ Layout.Sound rs :=
    Layout.check_eq_ok_iff.trans Layout.fault?_eq_none_iff
  refine ⟨haccepted, fun rs' hperm => ?_, fun b => ⟨fun e he => ?_, fun hok => ?_⟩⟩
  · rw [haccepted, haccepted]
    exact ⟨fun h => h.perm hperm, fun h => h.perm hperm.symm⟩
  · exact attempt_load_of_error he b
  · have hsound := haccepted.1 hok
    obtain ⟨b', hloaded, hregisters⟩ := attempt_load_of_sound hsound b
    have hperm : b'.registers.Perm rs := by
      rw [hregisters]
      exact Layout.collect_perm hsound.addresses
    refine ⟨b', hloaded, hregisters, hperm, fun a r => ?_⟩
    rw [find?_eq_some_iff, hperm.mem_iff]

/-- A register of four words up to the end of the address space, and one at the start. -/
def edgeList : List Register :=
  [⟨65532, .clamp .u64 18446744073709551615, .raw, .readOnly, "last"⟩,
    ⟨0, .clamp .s16 (-1), .raw, .readWrite, "first"⟩]

/-- The same with a register on the last word, which the four words take already. -/
def crowdedList : List Register := ⟨65535, .zero .u16, .raw, .readOnly, "crowded"⟩ :: edgeList

theorem load_exact_edgeList :
    (Layout.check edgeList.reverse = .ok () ↔ Layout.check edgeList = .ok ()) ∧
    (∃ b', empty.attempt (.load edgeList) = ⟨b', none⟩ ∧ b'.registers = edgeList.reverse) ∧
    Layout.check crowdedList ≠ .ok () ∧
    ∀ e, Layout.check crowdedList = .error e →
      commandBank.attempt (.load crowdedList) = ⟨commandBank, some e⟩ := by
  obtain ⟨haccepted, hreversed, hload⟩ := load_exact edgeList
  obtain ⟨hcrowded, -, hrejected⟩ := load_exact crowdedList
  have hsound : Layout.Sound edgeList :=
    ⟨by decide, by simp [edgeList, Register.apart_iff]; decide⟩
  obtain ⟨b', hloaded, hregisters, -⟩ := (hload empty).2 (haccepted.2 hsound)
  refine ⟨hreversed _ (List.reverse_perm edgeList), ⟨b', hloaded, hregisters⟩, fun hok => ?_,
    (hrejected commandBank).1⟩
  -- The last word would belong to two registers.
  have hapart := (List.pairwise_cons.1 (hcrowded.1 hok).apart).1 _ List.mem_cons_self
  exact hapart 65535 ⟨⟨by decide, by decide⟩, ⟨by decide, by decide⟩⟩

end Bank

end SolarTwin

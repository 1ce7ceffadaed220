import SolarTwin.Register.Basic

namespace SolarTwin

/-!
# Layouts

A list of registers is well laid if every register ends inside the address space and none reaches
into a later one.

* `Layout.fault?` finds the first fault of a list in any order: registers past the end and repeated
  addresses in list order, then overlaps in address order;
* `Layout.wellLaid_sorted` — a list without fault, put in address order, is well laid.
-/

namespace Layout

/-- The number of word addresses. -/
def addressSpace : Nat := 65536

/-- Registers in address order that lie inside the address space and apart from each other. -/
structure WellLaid (rs : List Register) : Prop where
  inside : ∀ r ∈ rs, r.endAddress ≤ addressSpace
  apart : rs.Pairwise fun r s => r.endAddress ≤ s.address.toNat

/-- The first register, in list order, that runs past the end or repeats an address. -/
def entryFault? (seen : List UInt16) : List Register → Option LayoutFault
  | [] => none
  | r :: rest =>
    if addressSpace < r.endAddress then some (.pastEnd r.address.toNat r.kind)
    else if seen.contains r.address then some (.duplicate r.address.toNat)
    else entryFault? (r.address :: seen) rest

/-- The first register that reaches into its successor. -/
def overlapFault? : List Register → Option LayoutFault
  | r :: s :: rest =>
    if s.address.toNat < r.endAddress then
      some (.overlap r.address.toNat r.kind s.address.toNat)
    else overlapFault? (s :: rest)
  | _ => none

/-- The registers in address order. -/
def sorted (rs : List Register) : List Register :=
  rs.mergeSort fun r s => r.address.toNat ≤ s.address.toNat

/-- What is wrong with a list of registers, if anything. -/
def fault? (rs : List Register) : Option LayoutFault :=
  (entryFault? [] rs).or (overlapFault? (sorted rs))

/-- Fails with the fault of a list, if it has one. -/
def check (rs : List Register) : Except Error Unit :=
  match fault? rs with
  | some fault => .error (.layout fault)
  | none => .ok ()

/-! ### A list without fault is well laid -/

theorem inside_of_entryFault? {seen : List UInt16} {rs : List Register}
    (h : entryFault? seen rs = none) : ∀ r ∈ rs, r.endAddress ≤ addressSpace := by
  induction rs generalizing seen with
  | nil => simp
  | cons r rest ih =>
    simp only [entryFault?] at h
    split at h
    · simp at h
    · split at h
      · simp at h
      · intro s hs
        rcases List.mem_cons.1 hs with rfl | hs
        · omega
        · exact ih h s hs

theorem address_le_endAddress (r : Register) : r.address.toNat ≤ r.endAddress := by
  simp [Register.endAddress]

theorem apart_of_overlapFault? {rs : List Register} (h : overlapFault? rs = none) :
    rs.Pairwise fun r s => r.endAddress ≤ s.address.toNat := by
  induction rs with
  | nil => exact .nil
  | cons r rest ih =>
    cases rest with
    | nil => simp
    | cons s rest =>
      simp only [overlapFault?] at h
      split at h
      · simp at h
      · have hs := ih h
        refine List.pairwise_cons.2 ⟨fun t ht => ?_, hs⟩
        rcases List.mem_cons.1 ht with rfl | ht
        · omega
        · have := (List.pairwise_cons.1 hs).1 t ht
          have := address_le_endAddress s
          omega

theorem wellLaid_sorted {rs : List Register} (h : fault? rs = none) : WellLaid (sorted rs) := by
  simp only [fault?, Option.or_eq_none_iff] at h
  exact
    { inside := fun r hr => inside_of_entryFault? h.1 r ((List.mergeSort_perm ..).mem_iff.1 hr)
      apart := apart_of_overlapFault? h.2 }

theorem wellLaid_nil : WellLaid [] := ⟨by simp, .nil⟩

/-- A change of the registers that keeps every address and kind keeps the layout. -/
theorem WellLaid.map {rs : List Register} (h : WellLaid rs) {f : Register → Register}
    (haddress : ∀ r, (f r).address = r.address) (hkind : ∀ r, (f r).kind = r.kind) :
    WellLaid (rs.map f) := by
  have hend (r : Register) : (f r).endAddress = r.endAddress := by
    simp [Register.endAddress, Register.width, haddress, hkind]
  constructor
  · intro s hs
    obtain ⟨r, hr, rfl⟩ := List.mem_map.1 hs
    simpa [hend] using h.inside r hr
  · exact List.pairwise_map.2 (h.apart.imp fun {r s} hrs => by simpa [hend, haddress] using hrs)

end Layout

end SolarTwin

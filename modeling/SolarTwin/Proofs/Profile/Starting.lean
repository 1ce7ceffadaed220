import Mathlib.Data.List.Forall2
import SolarTwin.CommandLine.Program
import SolarTwin.Proofs.Bank.Loading
import SolarTwin.Proofs.Bank.Registers
import SolarTwin.Proofs.Plant.Halting

namespace SolarTwin

/-!
# From a checked profile to its bank

A profile is checked when it is loaded and its bank is built when the program starts.  Both look for
the same faults in its registers, so a profile that passes the check has a bank, and that bank has
what the profile lists.

* `Parameters.Sound` and `Parameters.fault?_eq_none_iff_sound` — what is asked of the parameters;
* `Parameters.Sound.isNaN_eq_false` — sound parameters are numbers wherever something is asked;
* `Entry.Describes` and `Profile.describes_of_registers` — the registers of a profile, one by one;
* `Bank.Realizes` — a bank has the registers and values that some entries list;
* `Profile.start_of_load` — the program starts with every profile that it loads;
* `Profile.checked_profile_starts` — the check, the bank and what is in it.
-/

/-! ### Doubles that are no numbers -/

/-- Only numbers are in order. -/
private theorem Binary64.isNaN_eq_false_of_le {x y : Float} (h : x ≤ y) :
    x.isNaN = false ∧ y.isNaN = false := by
  have hle : Option.any (·.isLE) (x.toModel.unpack.compare y.toModel.unpack) = true :=
    of_decide_eq_true h
  constructor
  · show x.toModel.unpack.isNaN = false
    cases hx : x.toModel.unpack with
    | notANumber =>
      rw [hx] at hle
      cases hle
    | infinity | zero | finite => rfl
  · show y.toModel.unpack.isNaN = false
    cases hy : y.toModel.unpack with
    | notANumber =>
      rw [hy] at hle
      cases hx : x.toModel.unpack <;> rw [hx] at hle <;> cases hle
    | infinity | zero | finite => rfl

/-! ### The parameters -/

namespace Parameters

/-- What is asked of the parameters of a plant. -/
structure Sound (p : Parameters) : Prop where
  interval : p.updateInterval ≠ 0
  ratedPower : 0.0 < p.ratedPower
  efficiency : 0.0 < p.efficiency ∧ p.efficiency ≤ 100.0
  faultProbability : 0.0 ≤ p.faultProbability ∧ p.faultProbability ≤ 100.0
  resetHour : p.resetHour.toNat ≤ 23
  powerVariation : 0.0 ≤ p.powerVariation
  phaseImbalance : 0.0 ≤ p.phaseImbalance
  voltageVariation : 0.0 ≤ p.voltageVariation
  frequencyVariation : 0.0 ≤ p.frequencyVariation
  someWeather : p.weather ≠ []
  weather : ∀ w ∈ p.weather, 0.0 ≤ w.power ∧ 0.0 ≤ w.heating

variable {p : Parameters}

/-- Parameters are without fault exactly if they are sound. -/
theorem fault?_eq_none_iff_sound : p.fault? = none ↔ p.Sound := by
  rw [fault?_eq_none_iff, conditions]
  simp only [List.forall_mem_append, List.forall_mem_cons, List.forall_mem_map, Weather.isSound,
    Bool.and_eq_true, decide_eq_true_eq, bne_iff_ne, Bool.not_eq_true', List.isEmpty_eq_false_iff]
  constructor
  · rintro ⟨⟨hinterval, hrated, hefficiency, hfault, hhour, hpower, hphases, hvoltage, hfrequency,
      hsome, -⟩, hweather⟩
    exact ⟨hinterval, hrated, hefficiency, hfault, hhour, hpower, hphases, hvoltage, hfrequency,
      hsome, hweather⟩
  · intro h
    exact ⟨⟨h.interval, h.ratedPower, h.efficiency, h.faultProbability, h.resetHour,
      h.powerVariation, h.phaseImbalance, h.voltageVariation, h.frequencyVariation, h.someWeather,
      by simp⟩, h.weather⟩

/-- The doubles of which something is asked. -/
def checkedDoubles (p : Parameters) : List Float :=
  [p.ratedPower, p.efficiency, p.faultProbability, p.powerVariation, p.phaseImbalance,
    p.voltageVariation, p.frequencyVariation] ++ p.weather.flatMap fun w => [w.power, w.heating]

/-- Sound parameters have numbers where something is asked of them. -/
theorem Sound.isNaN_eq_false (h : p.Sound) : ∀ x ∈ p.checkedDoubles, x.isNaN = false := by
  -- Each of them is at least zero, which only a number can be.
  have hnumber {x : Float} (hx : 0.0 ≤ x) : x.isNaN = false := (Binary64.isNaN_eq_false_of_le hx).2
  have hweather : ∀ w ∈ p.weather, w.power.isNaN = false ∧ w.heating.isNaN = false :=
    fun w hw => ⟨hnumber (h.weather w hw).1, hnumber (h.weather w hw).2⟩
  rw [checkedDoubles]
  simp only [List.forall_mem_append, List.forall_mem_cons, List.forall_mem_flatMap]
  refine ⟨⟨hnumber (Binary64.le_of_lt h.ratedPower), hnumber (Binary64.le_of_lt h.efficiency.1),
    hnumber h.faultProbability.1, hnumber h.powerVariation, hnumber h.phaseImbalance,
    hnumber h.voltageVariation, hnumber h.frequencyVariation, ?_⟩, fun w hw => ?_⟩
  · exact fun x hx => nomatch hx
  · obtain ⟨hpower, hheating⟩ := hweather w hw
    exact ⟨hpower, hheating, fun x hx => nomatch hx⟩

end Parameters

/-! ### The registers -/

/-- A map that can fail but goes through maps element by element. -/
private theorem forall₂_of_mapM {ε α β : Type} {f : α → Except ε β} {xs : List α} {ys : List β}
    (h : xs.mapM f = .ok ys) : List.Forall₂ (fun x y => f x = .ok y) xs ys := by
  induction xs generalizing ys with
  | nil =>
    obtain rfl := Except.ok.inj h
    exact .nil
  | cons x xs ih =>
    rw [List.mapM_cons] at h
    cases hx : f x with
    | error e =>
      rw [hx] at h
      cases h
    | ok y =>
      rw [hx] at h
      cases hxs : xs.mapM f with
      | error e =>
        rw [hxs] at h
        cases h
      | ok zs =>
        rw [hxs] at h
        obtain rfl := Except.ok.inj h
        exact .cons hx (ih hxs)

/-- What an entry says of the register that it lists. -/
structure Entry.Describes (e : Entry) (r : Register) : Prop where
  address : r.address = e.address
  kind : r.kind = e.kind
  format : r.format = e.format
  access : r.access = e.access
  name : r.name = e.name
  number : r.value.number = e.value.getD 0

/-- The register of an entry is one that it describes. -/
theorem Entry.describes_of_register {e : Entry} {r : Register} (h : e.register = .ok r) :
    e.Describes r := by
  unfold register at h
  cases hvalue : e.value with
  | none =>
    rw [hvalue] at h
    obtain rfl := Except.ok.inj h
    exact ⟨rfl, rfl, rfl, rfl, rfl, by rw [hvalue]; rfl⟩
  | some n =>
    simp only [hvalue] at h
    by_cases hfits : e.kind.lo ≤ n ∧ n ≤ e.kind.hi
    · have hof : Value.ofInt? e.kind n = some ⟨e.kind, n, hfits.1, hfits.2⟩ := dif_pos hfits
      rw [hof] at h
      obtain rfl := Except.ok.inj h
      exact ⟨rfl, rfl, rfl, rfl, rfl, by rw [hvalue]; rfl⟩
    · have hof : Value.ofInt? e.kind n = none := dif_neg hfits
      rw [hof] at h
      cases h

/-- The registers of a profile are those that its entries describe, one for each. -/
theorem Profile.describes_of_registers {p : Profile} {rs : List Register}
    (h : p.registers = .ok rs) : List.Forall₂ Entry.Describes p.entries rs :=
  (forall₂_of_mapM h).imp fun _ _ => Entry.describes_of_register

/-! ### The bank -/

namespace Bank

/-- A bank has a register for each of some entries and no others, with the values that they list. -/
structure Realizes (b : Bank) (es : List Entry) : Prop where
  registers : ∃ rs, b.registers.Perm rs ∧ List.Forall₂ Entry.Describes es rs
  values : ∀ e ∈ es, ∃ v, b.logical? e.address = some v ∧ v.kind = e.kind ∧
    v.number = e.value.getD 0
  stats : b.stats = ⟨es.length, es.foldr (fun e n => e.kind.width + n) 0,
    es.countP fun e => e.access.isWritable⟩

variable {b : Bank} {es : List Entry} {rs : List Register}

/-- A bank of registers that some entries describe has the sizes that the entries list. -/
theorem stats_of_perm (hperm : b.registers.Perm rs) (hes : List.Forall₂ Entry.Describes es rs) :
    b.stats = ⟨es.length, es.foldr (fun e n => e.kind.width + n) 0,
      es.countP fun e => e.access.isWritable⟩ := by
  -- Entry and register agree on what is counted, and the order does not matter to it.
  have hwidths : es.map (fun e => e.kind.width) = rs.map Register.width := by
    rw [← List.forall₂_eq_eq_eq, List.forall₂_map_left_iff, List.forall₂_map_right_iff]
    exact hes.imp fun e r h => congrArg Kind.width h.kind.symm
  have haccess : es.map (·.access.isWritable) = rs.map (·.access.isWritable) := by
    rw [← List.forall₂_eq_eq_eq, List.forall₂_map_left_iff, List.forall₂_map_right_iff]
    exact hes.imp fun e r h => congrArg Access.isWritable h.access.symm
  have hlength : b.registers.length = es.length := hperm.length_eq.trans hes.length_eq.symm
  have hwords : b.registers.foldr (fun r n => r.width + n) 0 =
      es.foldr (fun e n => e.kind.width + n) 0 := by
    rw [← List.foldr_map (g := (· + ·)) (f := Register.width),
      ← List.foldr_map (g := (· + ·)) (f := fun e : Entry => e.kind.width), hwidths]
    exact (hperm.map Register.width).foldr_eq' (fun m _ n _ k => Nat.add_left_comm n m k) 0
  have hwritable : b.registers.countP (·.access.isWritable) =
      es.countP fun e => e.access.isWritable := by
    have hcount := congrArg (List.countP id) haccess
    rw [List.countP_map, List.countP_map] at hcount
    exact (hperm.countP_eq _).trans hcount.symm
  rw [stats, hlength, hwords, hwritable]

/-- A bank that is built of registers that some entries describe realizes the entries. -/
theorem realizes_of_ofRegisters (hes : List.Forall₂ Entry.Describes es rs)
    (hb : ofRegisters rs = .ok b) : b.Realizes es := by
  have hperm := perm_of_ofRegisters hb
  refine ⟨⟨rs, hperm, hes⟩, fun e he => ?_, stats_of_perm hperm hes⟩
  -- The register of an entry stands in its place in the list, and so in the bank.
  obtain ⟨i, hi, rfl⟩ := List.getElem_of_mem he
  have hi' : i < rs.length := hes.length_eq ▸ hi
  have hdescribes : es[i].Describes rs[i] := hes.get hi hi'
  have hvalue := logical?_of_mem (hperm.mem_iff.2 (List.getElem_mem hi'))
  rw [hdescribes.address] at hvalue
  exact ⟨_, hvalue, hdescribes.kind, hdescribes.number⟩

/-- A list of registers passes the check of its layout exactly if a bank can be built of it. -/
theorem check_eq_ok_iff (rs : List Register) :
    Layout.check rs = .ok () ↔ ∃ b, ofRegisters rs = .ok b := by
  rw [Layout.check_eq_ok_iff]
  constructor
  · intro hfault
    exact ⟨⟨Layout.sorted rs, Layout.wellLaid_sorted hfault⟩,
      ofRegisters_eq_ok_iff.2 ⟨hfault, rfl⟩⟩
  · rintro ⟨b, hb⟩
    exact (ofRegisters_eq_ok_iff.1 hb).1

end Bank

namespace Profile

variable {p : Profile}

/-- The bank of a profile realizes its entries. -/
theorem realizes_of_bank {b : Bank} (h : p.registers.bind Bank.ofRegisters = .ok b) :
    b.Realizes p.entries := by
  cases hregisters : p.registers with
  | error e =>
    rw [hregisters] at h
    cases h
  | ok rs =>
    rw [hregisters] at h
    exact Bank.realizes_of_ofRegisters (describes_of_registers hregisters) h

/-- A profile passes the check exactly if its parameters are sound and it has a bank. -/
theorem check_eq_ok_iff :
    p.check = .ok () ↔ p.parameters.Sound ∧ ∃ b, p.registers.bind Bank.ofRegisters = .ok b := by
  rw [← Parameters.fault?_eq_none_iff_sound, check]
  cases p.parameters.fault? with
  | some fault => simp
  | none =>
    cases hregisters : p.registers with
    | error e => simp [Except.bind]
    | ok rs => simpa [Except.bind] using Bank.check_eq_ok_iff rs

/-- A profile that is loaded has passed the check. -/
theorem check_of_load {path : String} {content : Except FileFault ByteArray}
    (h : load path content = .ok p) : p.check = .ok () := by
  unfold load at h
  cases hfile : ofFile path content with
  | error e =>
    rw [hfile] at h
    cases h
  | ok q =>
    rw [hfile, Except.bind] at h
    cases hcheck : q.check with
    | error e =>
      rw [hcheck] at h
      cases h
    | ok checked =>
      rw [hcheck] at h
      obtain rfl := Except.ok.inj h
      exact hcheck

/-- The program starts with the bank of every profile that it loads. -/
theorem start_of_load {path : String} {content : Except FileFault ByteArray}
    (h : load path content = .ok p) :
    ∃ b, p.registers.bind Bank.ofRegisters = .ok b ∧
      (CommandLine.start path content).2 = some ⟨p, b⟩ := by
  obtain ⟨-, b, hb⟩ := check_eq_ok_iff.1 (check_of_load h)
  refine ⟨b, hb, ?_⟩
  unfold CommandLine.start
  simp only [h, hb]

/-- **A checked profile starts.**  A profile passes the check exactly if its parameters are sound,
    for which they must be numbers, and a bank can be built of its registers.  That bank has one
    register for each entry, shows under its address the integer that the entry lists or else zero,
    and has the sizes that the entries list. -/
theorem checked_profile_starts (p : Profile) :
    (p.check = .ok () ↔
      p.parameters.Sound ∧ ∃ b, p.registers.bind Bank.ofRegisters = .ok b) ∧
    (∀ x ∈ p.parameters.checkedDoubles, x.isNaN = true → p.check ≠ .ok ()) ∧
    ∀ b, p.registers.bind Bank.ofRegisters = .ok b → b.Realizes p.entries := by
  refine ⟨check_eq_ok_iff, fun x hx hnan hcheck => ?_, fun b hb => realizes_of_bank hb⟩
  have hnumber := (check_eq_ok_iff.1 hcheck).1.isNaN_eq_false x hx
  rw [hnan] at hnumber
  cases hnumber

/-- A profile with values at the edges of several kinds, and a register without a value. -/
def edgeProfile : Profile where
  identity := {}
  parameters := {}
  entries :=
    [ { address := 30001, kind := .u64, value := some 18446744073709551615 },
      { address := 30005, kind := .s64, value := some (-9223372036854775808) },
      { address := 30009, kind := .s16, value := some (-32768) },
      { address := 40009, kind := .u32, access := .readWrite },
      { address := 65535, kind := .u16, value := some 65535, access := .writeOnly } ]

/-- The same profile with a rated power that is no number. -/
def unratedProfile : Profile := { edgeProfile with parameters := { ratedPower := 0.0 / 0.0 } }

/-- The registers of the profile. -/
def edgeRegisters : List Register :=
  [ ⟨30001, .clamp .u64 18446744073709551615, .raw, .readOnly, ""⟩,
    ⟨30005, .clamp .s64 (-9223372036854775808), .raw, .readOnly, ""⟩,
    ⟨30009, .clamp .s16 (-32768), .raw, .readOnly, ""⟩,
    ⟨40009, .zero .u32, .raw, .readWrite, ""⟩,
    ⟨65535, .clamp .u16 65535, .raw, .writeOnly, ""⟩ ]

theorem checked_profile_starts_edgeProfile :
    edgeProfile.check = .ok () ∧ unratedProfile.check ≠ .ok () ∧
    ∃ b, edgeProfile.registers.bind Bank.ofRegisters = .ok b ∧ b.Realizes edgeProfile.entries := by
  have hregisters : edgeProfile.registers = .ok edgeRegisters := rfl
  have hsorted : Layout.sorted edgeRegisters = edgeRegisters :=
    List.mergeSort_of_pairwise (by decide)
  have hfault : Layout.fault? edgeRegisters = none := by
    rw [Layout.fault?, hsorted]
    decide
  have hsound : edgeProfile.parameters.Sound :=
    Parameters.fault?_eq_none_iff_sound.1 ((Parameters.fault?_eq_none_iff _).2 (by decide +kernel))
  have hbank : edgeProfile.registers.bind Bank.ofRegisters =
      .ok ⟨Layout.sorted edgeRegisters, Layout.wellLaid_sorted hfault⟩ := by
    rw [hregisters]
    exact Bank.ofRegisters_eq_ok_iff.2 ⟨hfault, rfl⟩
  obtain ⟨hcheck, -, hrealizes⟩ := checked_profile_starts edgeProfile
  obtain ⟨-, hnan, -⟩ := checked_profile_starts unratedProfile
  exact ⟨hcheck.2 ⟨hsound, _, hbank⟩,
    hnan _ List.mem_cons_self (by decide +kernel), _, hbank, hrealizes _ hbank⟩

end Profile

end SolarTwin

import SolarTwin.Profile.Check
import SolarTwin.Proofs.Plant.Twin

namespace SolarTwin

/-!
# Ticks that panic

A checked profile has a positive rated power and some weather.  So a tick never brings a double
between bounds that are out of order, never draws from no weather at all and never looks for weather
that is not in the list.  But the check lets bounds of variations pass between which no double can
be drawn, because their span is not finite.

* `Binary64.le_of_lt` — the check compares by `<` where a tick needs `≤`;
* `Plant.Engine.run_ends` — runs of ticks, on whatever banks;
* `Plant.checked_ticks` — the ticks of a checked profile never panic if its parameters are tame, and
  all of them do if they are not steady;
* `Plant.wild_tick_panics` — a checked profile whose first tick panics.
-/

/-- A double that is less than another one is at most it. -/
theorem Binary64.le_of_lt {x y : Float} (h : x < y) : x ≤ y := by
  have hlt : (x.toModel.unpack.compare y.toModel.unpack == some .lt) = true :=
    of_decide_eq_true h
  have hcompare := eq_of_beq hlt
  show decide (x.toModel ≤ y.toModel) = true
  refine decide_eq_true ?_
  show Option.any (·.isLE) (x.toModel.unpack.compare y.toModel.unpack) = true
  rw [hcompare]
  rfl

/-! ### Checked parameters -/

namespace Parameters

variable {p : Parameters}

/-- The rated power of checked parameters is not below zero. -/
theorem rated_of_fault?_eq_none (h : p.fault? = none) : 0.0 ≤ p.ratedPower := by
  have hpositive := p.fault?_eq_none_iff.1 h (0.0 < p.ratedPower, .ratedPower) (by simp [conditions])
  exact Binary64.le_of_lt (of_decide_eq_true hpositive)

/-- Checked parameters have some weather. -/
theorem weather_of_fault?_eq_none (h : p.fault? = none) : 0 < p.weather.length := by
  have hsome := p.fault?_eq_none_iff.1 h (!p.weather.isEmpty, .noWeather) (by simp [conditions])
  rw [List.length_pos_iff]
  intro hnil
  simp [hnil] at hsome

end Parameters

/-! ### Checked profiles -/

theorem Profile.fault?_of_check {p : Profile} (h : p.check = .ok ()) :
    p.parameters.fault? = none := by
  unfold check at h
  split at h
  · cases h
  · assumption

/-- Without registers only the parameters can be at fault. -/
theorem Profile.check_of_entries_eq_nil {p : Profile} (hentries : p.entries = [])
    (hfault : p.parameters.fault? = none) : p.check = .ok () := by
  have hregisters : p.registers = .ok [] := by
    rw [registers, hentries, List.mapM_nil]
    rfl
  have hlayout : Layout.fault? [] = none := by
    simp [Layout.fault?, Layout.sorted, Layout.entryFault?, Layout.overlapFault?]
  unfold check
  rw [hfault, hregisters]
  show Layout.check [] = .ok ()
  rw [Layout.check, hlayout]

/-! ### Runs of ticks -/

namespace Plant.Engine

/-- An engine with given parameters whose weather is in their list. -/
structure Runs (p : Parameters) (e : Engine) : Prop where
  parameters : e.parameters = p
  weather : e.sky.index < p.weather.length

variable {p : Parameters}

theorem Runs.initial (h : p.fault? = none) (source : Source) : (initial p source).Runs p :=
  ⟨rfl, p.weather_of_fault?_eq_none h⟩

theorem Runs.ticked {e e' : Engine} {now : DateTime} {t : Beat} (h : e.Runs p)
    (hticked : e.Ticked now t e') : e'.Runs p where
  parameters := hticked.parameters.trans h.parameters
  weather := by
    rcases hticked.sky with hsame | hdrawn
    · rw [hsame]
      exact h.weather
    · rw [h.parameters] at hdrawn
      exact hdrawn

/-- Tame parameters that are checked keep a run from panicking. -/
theorem run_ends (hfault : p.fault? = none) (htame : p.Tame) {e : Engine} (he : e.Runs p)
    (ticks : List (Bank × DateTime × Float)) :
    (∃ e', e.run ticks = .ok e' ∧ e'.Runs p) ∨ e.run ticks = .error .endless := by
  have hends : (∃ e', e.run ticks = .ok e' ∧ e'.Runs p) ∨
      ∃ h, e.run ticks = .error h ∧ h = .endless := by
    refine ending_keeps (P := Runs p) (E := fun h => h = .endless) (fun he hpass => ?_)
      (fun he hpass => ?_) he ticks
    · obtain ⟨beat, hticked⟩ := Twin.ticked_of_pass hpass
      exact he.ticked hticked
    · rcases Twin.excuses_of_pass hpass with ⟨-, hwild⟩ | ⟨hendless, -⟩
      · rw [he.parameters] at hwild
        exact absurd ⟨htame, p.rated_of_fault?_eq_none hfault⟩ hwild
      · exact hendless
  rcases hends with hrun | ⟨_, hrun, rfl⟩
  · exact .inl hrun
  · exact .inr hrun

/-- Parameters that are not steady make every tick panic. -/
theorem tick_panics {e : Engine} (hwild : ¬ e.parameters.Steady) (bank : Bank) (now : DateTime)
    (elapsed : Float) : ∃ h, e.tick bank now elapsed = .error h ∧ h.IsPanic := by
  rcases e.tick_ends bank now elapsed with ⟨t, e', -, hticked⟩ | ⟨h, herror, hexcuse⟩
  · exact absurd hticked.steady hwild
  · rcases hexcuse with ⟨hpanic, -⟩ | ⟨-, hsteady⟩
    · exact ⟨h, herror, hpanic⟩
    · exact absurd hsteady hwild

/-- Parameters that are not tame give no result by daylight to a device that works. -/
theorem light_of_tick {e e' : Engine} (hwild : ¬ e.parameters.Tame) {bank : Bank} {now : DateTime}
    {elapsed : Float} {summary : Summary} {board : Board}
    (hok : e.tick bank now elapsed = .ok (summary, e', board)) (hstate : summary.state = .ok) :
    light now ≤ 0.0 := by
  rcases e.tick_ends bank now elapsed with ⟨t, e', hok', hticked⟩ | ⟨h, herror, -⟩
  · obtain ⟨rfl, -⟩ := Prod.mk.inj (Except.ok.inj (hok.symm.trans hok'))
    rw [hticked.state] at hstate
    rcases hticked.power hstate with hdark | ⟨hdrawable, -⟩
    · exact hdark
    · exact absurd ⟨hticked.steady, hdrawable⟩ hwild
  · cases hok.symm.trans herror

end Plant.Engine

namespace Plant

/-- **The ticks of a checked profile.**  If its parameters are tame, no run of its engine panics,
    whatever is drawn, stored and commanded and at whatever times: the run goes through with weather
    that is in the list, or a tick goes on for ever.  If its parameters are not steady, every tick
    panics; and if they are not tame, so does every tick in which the device works by daylight. -/
theorem checked_ticks {profile : Profile} (hcheck : profile.check = .ok ()) :
    (profile.parameters.Tame → ∀ source ticks,
      (∃ e, (Engine.initial profile.parameters source).run ticks = .ok e ∧
        e.sky.index < profile.parameters.weather.length) ∨
      (Engine.initial profile.parameters source).run ticks = .error .endless) ∧
    ∀ e : Engine, e.parameters = profile.parameters → ∀ bank now elapsed,
      (¬ profile.parameters.Steady → ∃ h, e.tick bank now elapsed = .error h ∧ h.IsPanic) ∧
      (¬ profile.parameters.Tame → ∀ summary e' board,
        e.tick bank now elapsed = .ok (summary, e', board) → summary.state = .ok →
          light now ≤ 0.0) := by
  have hfault := Profile.fault?_of_check hcheck
  refine ⟨fun htame source ticks => ?_, fun e he bank now elapsed => ⟨fun hwild => ?_, ?_⟩⟩
  · rcases Engine.run_ends hfault htame (.initial hfault source) ticks with ⟨e, hok, he⟩ | hendless
    · exact .inl ⟨e, hok, he.weather⟩
    · exact .inr hendless
  · rw [← he] at hwild
    exact Engine.tick_panics hwild bank now elapsed
  · intro hwild summary e' board hok hstate
    rw [← he] at hwild
    exact Engine.light_of_tick hwild hok hstate

/-- A profile with the standard parameters and no register. -/
def plainProfile : Profile := ⟨{}, {}, []⟩

/-- Two ticks with the command to stop, the second one after a very long time. -/
def stoppedTicks : List (Bank × DateTime × Float) :=
  [(stoppedBank, ⟨⟨2024, 6, 20⟩, 12, 0, 0⟩, 1.0), (stoppedBank, ⟨⟨2024, 6, 20⟩, 12, 0, 5⟩, 1e20)]

theorem checked_ticks_plainProfile : plainProfile.check = .ok () ∧ plainProfile.parameters.Tame ∧
    ∃ e, (Engine.initial plainProfile.parameters (.ofSeed 1)).run stoppedTicks = .ok e ∧
      e.sky.index < 3 := by
  have hcheck : plainProfile.check = .ok () :=
    Profile.check_of_entries_eq_nil rfl ((Parameters.fault?_eq_none_iff _).2 (by decide +kernel))
  have htame : plainProfile.parameters.Tame :=
    ⟨⟨by decide +kernel, by decide +kernel, by decide +kernel⟩, by decide +kernel⟩
  have hok : ((Engine.initial plainProfile.parameters (.ofSeed 1)).run stoppedTicks).isOk = true := by
    decide +kernel
  rcases (checked_ticks hcheck).1 htame (.ofSeed 1) stoppedTicks with hrun | hendless
  · exact ⟨hcheck, htame, hrun⟩
  · rw [hendless] at hok
    cases hok

/-- A profile whose grid frequency varies between bounds that are too far apart. -/
def wildProfile : Profile := ⟨{}, { frequencyVariation := 1e308 }, []⟩

/-- The check lets this profile pass, and its first tick panics. -/
theorem wild_tick_panics : wildProfile.check = .ok () ∧
    ∃ h, (Engine.initial wildProfile.parameters (.ofSeed 1)).tick .empty ⟨⟨2024, 6, 20⟩, 1, 0, 0⟩ 1.0
      = .error h ∧ h.IsPanic := by
  have hwild : ¬ wildProfile.parameters.Steady := by
    intro hsteady
    have hdrawable : ¬ Chance.Drawable wildProfile.parameters.frequencyVariation := by
      decide +kernel
    exact hdrawable hsteady.frequency
  have hcheck : wildProfile.check = .ok () :=
    Profile.check_of_entries_eq_nil rfl ((Parameters.fault?_eq_none_iff _).2 (by decide +kernel))
  exact ⟨hcheck, Engine.tick_panics hwild .empty _ _⟩

end Plant

end SolarTwin

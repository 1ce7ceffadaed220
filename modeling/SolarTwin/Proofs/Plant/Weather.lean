import SolarTwin.Proofs.Plant.Twin

namespace SolarTwin.Plant

/-!
# The weather schedule

New weather is drawn at once, and then whenever the interval between two changes has gone by in
simulated time.  What is drawn is left to chance, but when it is drawn follows from the times
between the ticks alone.

* `Plant.Sky.advance_eq_ok` — what one draw of the weather does;
* `Plant.Engine.exists_sky_of_tick` — a tick draws the weather once, from the source that its step
  has left;
* `Plant.Engine.turns` — the ticks of an engine, and which of them took words for new weather;
* `Plant.Sky.schedule` and `Plant.Engine.look_turns` — the schedule, which every run follows;
* `Plant.weather_follows_time` — so two runs that share their times share their schedule.
-/

/-! ### One draw -/

namespace Sky

variable {sky next : Sky} {p : Parameters} {seconds : Float}

/-- An index is drawn from one word or from two. -/
private theorem taken_lt_taken_index (n : Nat) (s : Source) : s.taken < (s.index n).2.taken := by
  unfold Source.index Source.next
  dsimp only
  split <;> dsimp only <;> omega

/-- If new weather is due, words are taken for it, it is in the list and it is remembered with the
    time; otherwise nothing is taken and nothing changes. -/
theorem advance_eq_ok {s rest : Source} (hweather : p.weather ≠ [])
    (h : sky.advance p seconds s = .ok (next, rest)) :
    if sky.isDue p.weatherInterval seconds then
      s.taken < rest.taken ∧ next.drawn = some seconds ∧ next.index < p.weather.length
    else rest = s ∧ next = sky := by
  have hpos : 0 < p.weather.length := List.length_pos_iff.2 hweather
  unfold advance at h
  by_cases hdue : sky.isDue p.weatherInterval seconds = true
  · rw [if_pos (by simp [hweather, hdue])] at h
    obtain ⟨i, s', hbelow, hdraw⟩ := Chance.bind_eq_ok h
    obtain ⟨rfl, rfl⟩ := Prod.mk.inj (Except.ok.inj hdraw)
    rw [Chance.below, Source.below, if_neg (by omega)] at hbelow
    obtain ⟨rfl, rfl⟩ := Prod.mk.inj (Except.ok.inj hbelow)
    rw [if_pos hdue]
    exact ⟨taken_lt_taken_index _ s, rfl, Source.index_lt hpos s⟩
  · rw [if_neg (by simp [hdue])] at h
    obtain ⟨rfl, rfl⟩ := Prod.mk.inj (Except.ok.inj h)
    rw [if_neg hdue]
    exact ⟨rfl, rfl⟩

end Sky

/-! ### One tick -/

namespace Engine

open Chance (Ends)

variable {e next : Engine}

/-- The simulated time after a tick. -/
def secondsAfter (e : Engine) (elapsed : Float) : Float :=
  e.seconds + Binary64.atLeast 0.0 elapsed

/-- The source that the step of the state leaves for the weather. -/
def sourceOfSky (e : Engine) (c : Commands) : Source :=
  (e.state.step c e.parameters.faultProbability e.ratio e.source).2

/-- Whether a tick takes words from its source for new weather. -/
def redraws (e : Engine) (c : Commands) (elapsed : Float) : Bool :=
  match e.sky.advance e.parameters (e.secondsAfter elapsed) (e.sourceOfSky c) with
  | .ok (_, rest) => (e.sourceOfSky c).taken < rest.taken
  | .error _ => false

/-- A tick draws the weather behind the step of its state, and goes on with what it has drawn. -/
theorem exists_sky_of_tick {bank : Bank} {now : DateTime} {elapsed : Float} {summary : Summary}
    {board : Board} (h : e.tick bank now elapsed = .ok (summary, next, board)) :
    next.parameters = e.parameters ∧ next.seconds = e.secondsAfter elapsed ∧
      ∃ rest, e.sky.advance e.parameters (e.secondsAfter elapsed)
        (e.sourceOfSky (Board.commands ⟨bank, []⟩)) = .ok (next.sky, rest) := by
  obtain ⟨t, next', source, hbeat, -, -, rfl⟩ := exists_beat_eq_ok h
  unfold beat at hbeat
  obtain ⟨transition, s, hstep, hbeat⟩ := Chance.bind_eq_ok hbeat
  obtain ⟨rfl, rfl⟩ := Prod.mk.inj (Except.ok.inj hstep)
  obtain ⟨sky, rest, hsky, hbeat⟩ := Chance.bind_eq_ok hbeat
  -- Whatever is drawn from here on, the engine goes on with this sky.
  have hnext : next'.parameters = e.parameters ∧ next'.seconds = e.secondsAfter elapsed ∧
      next'.sky = sky := by
    refine Ends.of_eq_ok (E := fun _ => True) (P := fun r : Beat × Engine =>
      r.2.parameters = e.parameters ∧ r.2.seconds = e.secondsAfter elapsed ∧ r.2.sky = sky) ?_ hbeat
    dsimp only
    refine Ends.ite_bind (P := fun _ => True) (fun _ => .any _) (fun _ => .any _) fun raw _ => ?_
    refine Ends.bind (.any _) fun phases _ => ?_
    refine Ends.bind (.any _) fun grid _ => ?_
    exact Ends.bind (.any _) fun carried _ => .pure ⟨rfl, rfl, rfl⟩
  obtain ⟨hparameters, hseconds, rfl⟩ := hnext
  exact ⟨hparameters, hseconds, rest, hsky⟩

/-- What a tick does to the weather, in terms of whether new weather is due. -/
structure Weathers (e : Engine) (c : Commands) (elapsed : Float) (next : Engine) : Prop where
  parameters : next.parameters = e.parameters
  seconds : next.seconds = e.secondsAfter elapsed
  redraws : e.redraws c elapsed =
    e.sky.isDue e.parameters.weatherInterval (e.secondsAfter elapsed)
  drawn : next.sky.drawn =
    if e.redraws c elapsed then some (e.secondsAfter elapsed) else e.sky.drawn
  index : if e.redraws c elapsed then next.sky.index < e.parameters.weather.length
    else next.sky.index = e.sky.index

theorem weathers_of_tick {bank : Bank} {now : DateTime} {elapsed : Float} {summary : Summary}
    {board : Board} (hweather : e.parameters.weather ≠ [])
    (h : e.tick bank now elapsed = .ok (summary, next, board)) :
    e.Weathers (Board.commands ⟨bank, []⟩) elapsed next := by
  obtain ⟨hparameters, hseconds, rest, hsky⟩ := exists_sky_of_tick h
  have hadvance := Sky.advance_eq_ok hweather hsky
  have hredraws : e.redraws (Board.commands ⟨bank, []⟩) elapsed =
      e.sky.isDue e.parameters.weatherInterval (e.secondsAfter elapsed) := by
    rw [redraws, hsky]
    by_cases hdue : e.sky.isDue e.parameters.weatherInterval (e.secondsAfter elapsed) = true
    · rw [if_pos hdue] at hadvance
      simp [hdue, hadvance.1]
    · rw [if_neg hdue] at hadvance
      simp [hdue, hadvance.1]
  rw [← hredraws] at hadvance
  by_cases hdrawn : e.redraws (Board.commands ⟨bank, []⟩) elapsed = true
  · rw [if_pos hdrawn] at hadvance
    exact ⟨hparameters, hseconds, hredraws, by rw [if_pos hdrawn, hadvance.2.1],
      by rw [if_pos hdrawn]; exact hadvance.2.2⟩
  · rw [if_neg hdrawn] at hadvance
    exact ⟨hparameters, hseconds, hredraws, by rw [if_neg hdrawn, hadvance.2],
      by rw [if_neg hdrawn, hadvance.2]⟩

/-! ### Runs -/

/-- What is seen of a tick: whether it took words for new weather, and what engine it left. -/
structure Turn where
  redrawn : Bool
  after : Engine

/-- Whether a tick has redrawn the weather, and the time of the last change after it. -/
def Turn.look (t : Turn) : Bool × Option Float := (t.redrawn, t.after.sky.drawn)

/-- What is seen of a tick that has a result. -/
def turnOf (p : Twin.Pass) : Turn :=
  ⟨p.before.engine.redraws p.before.commands p.elapsed, p.after.engine⟩

/-- The ticks of an engine, each on whatever bank there is by then, at any local time and after any
    time, up to one without a result. -/
def turns (e : Engine) (ticks : List (Bank × DateTime × Float)) : List Turn :=
  (e.tickTrail ticks).records.map turnOf

/-- A tick of a run does to the weather what a tick does. -/
theorem weathers_of_pass {t : Twin} {now : DateTime} {elapsed : Float} {p : Twin.Pass}
    (hweather : t.engine.parameters.weather ≠ []) (h : t.pass now elapsed = .ok p) :
    turnOf p = ⟨t.engine.redraws t.commands elapsed, p.after.engine⟩ ∧
      t.engine.Weathers t.commands elapsed p.after.engine := by
  obtain ⟨rfl, rfl, htick⟩ := Twin.pass_eq_ok_iff.1 h
  exact ⟨rfl, weathers_of_tick hweather htick⟩

end Engine

/-- When the weather is redrawn, by an interval, the time of the last change and the times between
    the ticks alone: whether it is in each of the ticks, and the time of the last change after
    it. -/
def Sky.schedule (interval : UInt64) (seconds : Float) (drawn : Option Float) :
    List Float → List (Bool × Option Float)
  | [] => []
  | elapsed :: rest =>
    let seconds := seconds + Binary64.atLeast 0.0 elapsed
    let due := (⟨0, drawn⟩ : Sky).isDue interval seconds
    let drawn := if due then some seconds else drawn
    (due, drawn) :: schedule interval seconds drawn rest

namespace Engine

variable {e : Engine}

/-- Every run follows the schedule, as far as it goes. -/
theorem look_turns (hweather : e.parameters.weather ≠ []) (ticks : List (Bank × DateTime × Float)) :
    (e.turns ticks).map Turn.look <+:
      Sky.schedule e.parameters.weatherInterval e.seconds e.sky.drawn (ticks.map (·.2.2)) := by
  induction ticks generalizing e with
  | nil => exact List.nil_prefix
  | cons tick rest ih =>
    obtain ⟨bank, now, elapsed⟩ := tick
    rw [turns]
    cases hpass : Twin.pass ⟨e, bank⟩ now elapsed with
    | error halt =>
      rw [tickTrail_of_error hpass]
      exact List.nil_prefix
    | ok p =>
      obtain ⟨hturn, hweathers⟩ := weathers_of_pass hweather hpass
      have hrest := ih (e := p.after.engine) (by rwa [hweathers.parameters])
      -- The rest of the schedule goes on from the time of the last change, which the tick has left.
      rw [hweathers.parameters, hweathers.seconds, hweathers.drawn, hweathers.redraws] at hrest
      rw [tickTrail_of_ok hpass, Trail.records_cons, List.map_cons, List.map_cons, hturn]
      simp only [Turn.look, hweathers.redraws, hweathers.drawn]
      exact List.cons_prefix_cons.2 ⟨rfl, hrest⟩

/-- What a tick of a run shows is in its place of the schedule. -/
private theorem getElem?_schedule (hweather : e.parameters.weather ≠ [])
    {ticks : List (Bank × DateTime × Float)} {i : Nat} {t : Turn}
    (ht : (e.turns ticks)[i]? = some t) :
    (Sky.schedule e.parameters.weatherInterval e.seconds e.sky.drawn
      (ticks.map (·.2.2)))[i]? = some t.look := by
  obtain ⟨hi, rfl⟩ := List.getElem?_eq_some_iff.1 ht
  have h := List.prefix_iff_getElem?.1 (look_turns hweather ticks) i (by simpa using hi)
  rwa [List.getElem_map] at h

/-- Along every run the weather is in the list. -/
theorem index_turns (hindex : e.sky.index < e.parameters.weather.length)
    (ticks : List (Bank × DateTime × Float)) :
    ∀ t ∈ e.turns ticks, t.after.parameters = e.parameters ∧
      t.after.sky.index < e.parameters.weather.length := by
  refine List.forall_mem_map.2 (forall_mem_records
    (P := fun e' => e'.parameters = e.parameters ∧ e'.sky.index < e.parameters.weather.length)
    (fun {e' tick p} hkept hpass => ?_) ⟨rfl, hindex⟩ ticks)
  obtain ⟨hparameters, hindex'⟩ := hkept
  have hweather : e'.parameters.weather ≠ [] := by
    rw [hparameters, ← List.length_pos_iff]
    omega
  obtain ⟨hturn, hweathers⟩ := weathers_of_pass hweather hpass
  have hnext : p.after.engine.sky.index < e.parameters.weather.length := by
    have h := hweathers.index
    rw [hparameters] at h
    split at h
    · exact h
    · rwa [h]
  have hkept : p.after.engine.parameters = e.parameters := hweathers.parameters.trans hparameters
  rw [hturn]
  exact ⟨⟨hkept, hnext⟩, hkept, hnext⟩

end Engine

/-- **The weather follows the time.**  Take two engines with some weather to choose from, before
    their first draw, with the same interval between two changes and at the same simulated time, and
    ticks with the same times between them; all else may be different, also on the way.  Both redraw
    the weather in the same ticks and remember the same time of the last change after each of them,
    the first tick redraws it, and after every tick the weather in effect is in the list. -/
theorem weather_follows_time {e e' : Engine} (hweather : e.parameters.weather ≠ [])
    (hweather' : e'.parameters.weather ≠ []) (hsky : e.sky = .initial) (hsky' : e'.sky = .initial)
    (hseconds : e'.seconds = e.seconds)
    (hinterval : e'.parameters.weatherInterval = e.parameters.weatherInterval)
    {ticks ticks' : List (Bank × DateTime × Float)}
    (htimes : ticks'.map (·.2.2) = ticks.map (·.2.2)) :
    (∀ (i : Nat) t t', (e.turns ticks)[i]? = some t → (e'.turns ticks')[i]? = some t' →
      t'.redrawn = t.redrawn ∧ t'.after.sky.drawn = t.after.sky.drawn) ∧
    (∀ t, (e.turns ticks).head? = some t → t.redrawn = true) ∧
    ∀ t ∈ e.turns ticks, t.after.sky.index < e.parameters.weather.length ∧
      t.after.weather? = e.parameters.weather[t.after.sky.index]? ∧
      t.after.weather?.isSome = true := by
  refine ⟨fun i t t' ht ht' => ?_, fun t ht => ?_, fun t ht => ?_⟩
  · -- Both stand at the same place of the one schedule.
    have hlook := Engine.getElem?_schedule hweather ht
    have hlook' := Engine.getElem?_schedule hweather' ht'
    rw [hinterval, hseconds, htimes, hsky', ← hsky, hlook, Option.some.injEq] at hlook'
    exact Prod.mk.inj hlook'.symm
  · rw [List.head?_eq_getElem?] at ht
    have hlook := Engine.getElem?_schedule hweather ht
    -- Nothing has been drawn yet, so the schedule begins with a draw.
    rw [hsky] at hlook
    cases ticks with
    | nil => cases ht
    | cons tick rest => exact (Prod.mk.inj (Option.some.inj hlook)).1.symm
  · have hpos : e.sky.index < e.parameters.weather.length := by
      rw [hsky]
      exact List.length_pos_iff.2 hweather
    obtain ⟨hparameters, hindex⟩ := Engine.index_turns hpos ticks t ht
    have heffect : t.after.weather? = e.parameters.weather[t.after.sky.index]? := by
      rw [Engine.weather?, Sky.weather?, hparameters]
    exact ⟨hindex, heffect, by simp [heffect, hindex]⟩

/-- An engine that is off, with one kind of weather, another rated power and another source. -/
def idleEngine : Engine :=
  { Engine.initial { ratedPower := 800.0, weather := [⟨"Fog", 0.1, 0.2⟩] } (.ofWords [7, 9]) with
    state := .off }

/-- Four ticks within five minutes. -/
def fiveMinutes : List (Bank × DateTime × Float) :=
  [(.empty, ⟨⟨2024, 6, 20⟩, 12, 0, 0⟩, 1.0), (.empty, ⟨⟨2024, 6, 20⟩, 12, 2, 0⟩, 100.0),
    (.empty, ⟨⟨2024, 6, 20⟩, 12, 4, 0⟩, 100.0), (.empty, ⟨⟨2024, 6, 20⟩, 11, 5, 0⟩, 100.0)]

/-- The same times between four ticks in another year. -/
def fiveOtherMinutes : List (Bank × DateTime × Float) :=
  [(stoppedBank, ⟨⟨2021, 1, 1⟩, 0, 0, 0⟩, 1.0), (stoppedBank, ⟨⟨2020, 1, 1⟩, 0, 0, 0⟩, 100.0),
    (stoppedBank, ⟨⟨2022, 1, 1⟩, 0, 0, 0⟩, 100.0), (stoppedBank, ⟨⟨2022, 1, 1⟩, 0, 0, 0⟩, 100.0)]

/-- Both redraw their weather in the first tick and in the fourth one. -/
theorem weather_follows_time_fiveMinutes :
    (faultyEngine.turns fiveMinutes).map (·.redrawn) = [true, false, false, true] ∧
    (idleEngine.turns fiveOtherMinutes).length = 4 ∧
    ∀ (i : Nat) t t', (faultyEngine.turns fiveMinutes)[i]? = some t →
      (idleEngine.turns fiveOtherMinutes)[i]? = some t' →
      t'.redrawn = t.redrawn ∧ t'.after.sky.drawn = t.after.sky.drawn := by
  have hredrawn :
      (faultyEngine.turns fiveMinutes).map (·.redrawn) = [true, false, false, true] := by
    decide +kernel
  have hlength : (idleEngine.turns fiveOtherMinutes).length = 4 := by decide +kernel
  have hweather : faultyEngine.parameters.weather ≠ [] := by
    simp [faultyEngine, Engine.initial]
  have hweather' : idleEngine.parameters.weather ≠ [] := by
    simp [idleEngine, Engine.initial]
  have hsky : faultyEngine.sky = .initial := rfl
  have hsky' : idleEngine.sky = .initial := rfl
  have hseconds : idleEngine.seconds = faultyEngine.seconds := by
    simp [faultyEngine, idleEngine, Engine.initial]
  have hinterval : idleEngine.parameters.weatherInterval =
      faultyEngine.parameters.weatherInterval := by
    simp [faultyEngine, idleEngine, Engine.initial]
  have htimes : fiveOtherMinutes.map (·.2.2) = fiveMinutes.map (·.2.2) := by
    simp [fiveMinutes, fiveOtherMinutes]
  exact ⟨hredrawn, hlength,
    (weather_follows_time hweather hweather' hsky hsky' hseconds hinterval htimes).1⟩

end SolarTwin.Plant

import SolarTwin.Proofs.Calendar
import SolarTwin.Proofs.Plant.Restart

namespace SolarTwin

/-!
# The resets of a run

Behind a tick in the hour of the reset the engine remembers the date of the tick, whether it has
reset or not.  So as long as the local time does not step back, a date has one reset at most, at its
first tick in the hour, and a date without a tick in the hour has none.

* `Plant.Twin.resets` — the local times of the resets of a run;
* `Plant.Twin.resets_sublist`, `Plant.Twin.hour_of_mem_resets` — they are at ticks of the run, in
  the hour;
* `Plant.Twin.reset_after` — the engine remembers the date of the last of them;
* `Plant.Twin.isChain_resets` — one reset after another is for another date;
* `Plant.resets_once_per_date` — when a tick resets, and what the reset does;
* `Plant.reset_within_its_hour` — a tick that crosses the beginning of the hour;
* `Plant.reset_hour_skipped` — a run without a tick in the hour.
-/

private theorem getLast?_toList {α : Type} (o : Option α) : o.toList.getLast? = o := by
  cases o <;> rfl

namespace Plant

namespace Twin

variable {t t' : Twin} {now : DateTime}

/-! ### The resets of a run -/

/-- The local time of the reset with which an event begins, if it does. -/
def resetAt (t : Twin) : Event → List DateTime
  | .tick now _ => if t.engine.resetsAt now then [now] else []
  | .request .. => []

/-- The local times of the resets of a run, in order. -/
def resets (t : Twin) : List Event → List DateTime
  | [] => []
  | e :: es =>
    t.resetAt e ++
    match t.step e with
    | .ok u => u.resets es
    | .error _ => []

theorem resets_cons_of_ok {e : Event} {u : Twin} (h : t.step e = .ok u) (es : List Event) :
    t.resets (e :: es) = t.resetAt e ++ u.resets es := by
  rw [resets, h]

theorem resets_cons_of_error {e : Event} {halt : Halt} (h : t.step e = .error halt)
    (es : List Event) : t.resets (e :: es) = t.resetAt e := by
  rw [resets, h, List.append_nil]

/-- No event changes the parameters, so the hour of the reset is the same all along a run. -/
theorem parameters_step {e : Event} (h : t.step e = .ok t') :
    t'.engine.parameters = t.engine.parameters := by
  cases e with
  | request unit pdu =>
    obtain rfl := Except.ok.inj h
    rfl
  | tick now elapsed =>
    obtain ⟨beat, hticks⟩ := step_tick_iff.1 h
    exact hticks.restarts.parameters

theorem parameters_after {es : List Event} (h : t.after es = .ok t') :
    t'.engine.parameters = t.engine.parameters :=
  after_induction (P := fun u => u.engine.parameters = t.engine.parameters)
    (fun hstep hparameters => (parameters_step hstep).trans hparameters) h rfl

/-! ### When there is a reset -/

private theorem mem_resetAt_iff {e : Event} :
    now ∈ t.resetAt e ↔ (∃ elapsed, e = .tick now elapsed) ∧ t.engine.resetsAt now = true := by
  cases e with
  | request unit pdu => simp [resetAt]
  | tick time elapsed =>
    rw [resetAt]
    by_cases hresets : t.engine.resetsAt time = true
    · rw [if_pos hresets, List.mem_singleton]
      constructor
      · rintro rfl
        exact ⟨⟨elapsed, rfl⟩, hresets⟩
      · rintro ⟨⟨elapsed', htick⟩, -⟩
        cases htick
        rfl
    · rw [if_neg hresets]
      constructor
      · intro hmem
        cases hmem
      · rintro ⟨⟨elapsed', htick⟩, hresets'⟩
        cases htick
        exact absurd hresets' hresets

private theorem resetAt_sublist (t : Twin) (e : Event) :
    (t.resetAt e).Sublist (Event.times [e]) := by
  cases e with
  | request unit pdu => exact .slnil
  | tick now elapsed =>
    rw [resetAt, Event.times_tick_cons, Event.times_nil]
    split
    · exact .refl [now]
    · exact List.nil_sublist [now]

/-- The resets of a run are at some of its ticks. -/
theorem resets_sublist (t : Twin) (es : List Event) :
    (t.resets es).Sublist (Event.times es) := by
  induction es generalizing t with
  | nil => exact .slnil
  | cons e es ih =>
    have htimes : Event.times (e :: es) = Event.times [e] ++ Event.times es :=
      Event.times_append [e] es
    rw [htimes]
    cases hstep : t.step e with
    | error halt =>
      rw [resets_cons_of_error hstep]
      exact (t.resetAt_sublist e).trans (List.sublist_append_left ..)
    | ok u =>
      rw [resets_cons_of_ok hstep]
      exact (t.resetAt_sublist e).append (ih u)

/-- They are in the hour of the reset. -/
theorem hour_of_mem_resets {es : List Event} (h : now ∈ t.resets es) :
    now.hour = t.engine.parameters.resetHour.toNat := by
  induction es generalizing t with
  | nil => cases h
  | cons e es ih =>
    have hfirst (hmem : now ∈ t.resetAt e) : now.hour = t.engine.parameters.resetHour.toNat :=
      (Engine.resetsAt_iff.1 (mem_resetAt_iff.1 hmem).2).2
    cases hstep : t.step e with
    | error halt =>
      rw [resets_cons_of_error hstep] at h
      exact hfirst h
    | ok u =>
      rw [resets_cons_of_ok hstep, List.mem_append] at h
      rcases h with hmem | hmem
      · exact hfirst hmem
      · rw [ih hmem, parameters_step hstep]

/-! ### What the engine remembers -/

/-- Behind an event the engine remembers the date of its reset, or else the same as before. -/
theorem reset_step {e : Event} (h : t.step e = .ok t') :
    t'.engine.reset = (t.engine.reset.toList ++ (t.resetAt e).map (·.date)).getLast? := by
  cases e with
  | request unit pdu =>
    obtain rfl := Except.ok.inj h
    simp [resetAt, getLast?_toList]
  | tick now elapsed =>
    obtain ⟨beat, hticks⟩ := step_tick_iff.1 h
    rw [hticks.restarts.engine, Engine.reset_restart, resetAt]
    split <;> simp [getLast?_toList]

/-- Behind a run it remembers the date of the last reset. -/
theorem reset_after {es : List Event} (h : t.after es = .ok t') :
    t'.engine.reset = (t.engine.reset.toList ++ (t.resets es).map (·.date)).getLast? := by
  induction es generalizing t with
  | nil =>
    obtain rfl := after_nil_iff.1 h
    simp [resets, getLast?_toList]
  | cons e es ih =>
    obtain ⟨u, hstep, hrest⟩ := after_cons_iff.1 h
    rw [ih hrest, resets_cons_of_ok hstep, List.map_append, ← List.append_assoc,
      List.getLast?_append, List.getLast?_append, ← reset_step hstep, getLast?_toList]

/-- A date that is remembered is not reset for again. -/
theorem isChain_resetAt (t : Twin) (e : Event) :
    (t.engine.reset.toList ++ (t.resetAt e).map (·.date)).IsChain (· ≠ ·) := by
  cases e with
  | request unit pdu => cases t.engine.reset <;> simp [resetAt]
  | tick now elapsed =>
    rw [resetAt]
    split
    · next hresets =>
      obtain ⟨hother, -⟩ := Engine.resetsAt_iff.1 hresets
      cases hreset : t.engine.reset with
      | none => simp
      | some d =>
        rw [hreset, ne_eq, Option.some.injEq] at hother
        simpa using hother
    · cases t.engine.reset <;> simp

/-- Each reset is for another date than the one before, and the first one for another than the
    engine remembers. -/
theorem isChain_resets (t : Twin) (es : List Event) :
    (t.engine.reset.toList ++ (t.resets es).map (·.date)).IsChain (· ≠ ·) := by
  induction es generalizing t with
  | nil => cases t.engine.reset <;> simp [resets]
  | cons e es ih =>
    cases hstep : t.step e with
    | error halt =>
      rw [resets_cons_of_error hstep]
      exact t.isChain_resetAt e
    | ok u =>
      rw [resets_cons_of_ok hstep, List.map_append, ← List.append_assoc, List.isChain_append]
      -- What the event leaves behind is what the rest of the run begins with.
      obtain ⟨-, hrest, hnext⟩ := List.isChain_append.1 (ih u)
      rw [reset_step hstep, getLast?_toList] at hnext
      exact ⟨t.isChain_resetAt e, hrest, hnext⟩

/-! ### Time that does not step back -/

/-- Behind a tick in the hour of the reset its date is remembered until the next date. -/
theorem reset_of_mem {es : List Event} (h : t.after es = .ok t')
    (horder : (Event.times es ++ [now]).Pairwise (· ≤ ·)) {earlier : DateTime}
    (hmem : earlier ∈ Event.times es) (hdate : earlier.date = now.date)
    (hhour : earlier.hour = t.engine.parameters.resetHour.toNat) :
    t'.engine.reset = some now.date := by
  obtain ⟨elapsed, htick⟩ := Event.mem_times_iff.1 hmem
  obtain ⟨pre, post, rfl⟩ := List.append_of_mem htick
  obtain ⟨u, hpre, hrest⟩ := after_append_iff.1 h
  obtain ⟨v, hstep, hpost⟩ := after_cons_iff.1 hrest
  -- The tick itself leaves its date.
  have hv : v.engine.reset = some now.date := by
    obtain ⟨beat, hticks⟩ := step_tick_iff.1 hstep
    rw [hticks.restarts.engine, ← hdate]
    exact Engine.reset_restart_of_hour (by rw [hhour, parameters_after hpre])
  rw [reset_after hpost, hv, List.getLast?_append, List.getLast?_map]
  cases hlast : (v.resets post).getLast? with
  | none => rfl
  | some last =>
    -- A later reset lies between the two times, so it is for the same date.
    have hlater : last ∈ Event.times post :=
      (v.resets_sublist post).subset (List.mem_of_getLast? hlast)
    rw [Event.times_append, Event.times_tick_cons, List.append_assoc, List.cons_append,
      List.pairwise_append, List.pairwise_cons] at horder
    obtain ⟨-, ⟨hearlier, hafter⟩, -⟩ := horder
    have hfrom : earlier ≤ last := hearlier last (List.mem_append_left _ hlater)
    have hto : last ≤ now :=
      (List.pairwise_append.1 hafter).2.2 last hlater now (List.mem_singleton_self now)
    have hsame : last.date = now.date :=
      le_antisymm (DateTime.date_le hto) (hdate ▸ DateTime.date_le hfrom)
    simp [hsame]

/-- As long as time does not step back, an engine that was fresh remembers the date exactly if there
    was a tick in the hour of the reset. -/
theorem reset_eq_date_iff {es : List Event} (hfresh : t.engine.reset = none)
    (h : t.after es = .ok t') (horder : (Event.times es ++ [now]).Pairwise (· ≤ ·)) :
    t'.engine.reset = some now.date ↔ ∃ earlier ∈ Event.times es,
      earlier.date = now.date ∧ earlier.hour = t.engine.parameters.resetHour.toNat := by
  constructor
  · intro hreset
    rw [reset_after h, hfresh, Option.toList_none, List.nil_append, List.getLast?_map,
      Option.map_eq_some_iff] at hreset
    obtain ⟨last, hlast, hdate⟩ := hreset
    have hmem : last ∈ t.resets es := List.mem_of_getLast? hlast
    exact ⟨last, (t.resets_sublist es).subset hmem, hdate, hour_of_mem_resets hmem⟩
  · rintro ⟨earlier, hmem, hdate, hhour⟩
    exact reset_of_mem h horder hmem hdate hhour

/-- So a tick resets exactly if it is the first of its date in the hour of the reset. -/
theorem resetsAt_after_iff {es : List Event} (hfresh : t.engine.reset = none)
    (h : t.after es = .ok t') (horder : (Event.times es ++ [now]).Pairwise (· ≤ ·)) :
    t'.engine.resetsAt now = true ↔ now.hour = t.engine.parameters.resetHour.toNat ∧
      ∀ earlier ∈ Event.times es,
        ¬ (earlier.date = now.date ∧ earlier.hour = t.engine.parameters.resetHour.toNat) := by
  rw [Engine.resetsAt_iff, ne_eq, reset_eq_date_iff hfresh h horder, parameters_after h]
  simp only [not_exists, not_and]
  exact and_comm

/-- The resets of a run in which time does not step back are for later and later dates. -/
theorem pairwise_resets {es : List Event} (horder : (Event.times es).Pairwise (· ≤ ·)) :
    ((t.resets es).map (·.date)).Pairwise (· < ·) := by
  have hchain : ((t.resets es).map (·.date)).IsChain (· ≠ ·) :=
    (t.isChain_resets es).right_of_append
  have hsorted : ((t.resets es).map (·.date)).Pairwise (· ≤ ·) :=
    List.pairwise_map.2 ((horder.sublist (t.resets_sublist es)).imp DateTime.date_le)
  -- Neighbours are different and in order, and that is passed on along the dates.
  apply List.isChain_iff_pairwise.1
  apply List.isChain_iff_getElem.2
  intro i hi
  have hle := List.pairwise_iff_getElem.1 hsorted i (i + 1) (by omega) hi (Nat.lt_succ_self i)
  exact lt_of_le_of_ne hle (hchain.getElem i hi)

end Twin

/-! ### Once per date -/

open Twin

/-- **The daily yield starts again once per date.**  In a run that begins with a fresh engine a tick
    resets exactly if it is the first of its date in the hour of the reset, and no two resets are
    for the same date, as long as local time does not step back.  Even if it does, two resets in a
    row are for different dates, and each is in its hour.  The reset makes the daily yield zero,
    whatever its kind, and the engine remember the date, and without a reset nothing has changed.
    What follows in the tick is what a tick does that does not reset: it adds energy to the daily
    yield and leaves the date alone. -/
theorem resets_once_per_date (t : Twin) :
    (t.engine.reset = none →
      (∀ (past : List Event) (now : DateTime) (t' : Twin), t.after past = .ok t' →
        (Event.times past ++ [now]).Pairwise (· ≤ ·) →
        (t'.engine.resetsAt now = true ↔ now.hour = t.engine.parameters.resetHour.toNat ∧
          ∀ earlier ∈ Event.times past,
            ¬ (earlier.date = now.date ∧ earlier.hour = t.engine.parameters.resetHour.toNat))) ∧
      ∀ es : List Event, (Event.times es).Pairwise (· ≤ ·) →
        ((t.resets es).map (·.date)).Nodup) ∧
    (∀ es : List Event, ((t.resets es).map (·.date)).IsChain (· ≠ ·) ∧
      ∀ now ∈ t.resets es, now.hour = t.engine.parameters.resetHour.toNat) ∧
    ∀ (u : Twin) (now : DateTime) (elapsed : Float),
      (u.engine.resetsAt now = true →
        (∀ x, (u.restart now).bank.logical? x = (u.bank.logical? x).map fun v =>
          if x = Point.dailyYield then Value.zero v.kind else v) ∧
        (u.restart now).engine.reset = some now.date) ∧
      (u.engine.resetsAt now = false → u.restart now = u) ∧
      ((u.restart now).engine.resetsAt now = false ∧
        (u.restart now).step (.tick now elapsed) = u.step (.tick now elapsed)) ∧
      ∀ (beat : Beat) (u' : Twin), u.TicksTo now elapsed beat u' →
        u'.engine.reset = (u.restart now).engine.reset ∧
        u'.bank.logical? Point.dailyYield = ((u.restart now).bank.logical? Point.dailyYield).map
          (·.raised beat.increments.energy) := by
  refine ⟨?_, ?_, ?_⟩
  · intro hfresh
    refine ⟨fun past now t' hpast horder => resetsAt_after_iff hfresh hpast horder, ?_⟩
    intro es horder
    exact (pairwise_resets horder).imp ne_of_lt
  · intro es
    exact ⟨(t.isChain_resets es).right_of_append, fun now => hour_of_mem_resets⟩
  · intro u now elapsed
    refine ⟨?_, restart_of_not, ⟨u.engine.resetsAt_restart now, u.step_restart now elapsed⟩, ?_⟩
    · intro hresets
      have hdate : (u.restart now).engine.reset = some now.date :=
        (u.engine.reset_restart now).trans (if_pos hresets)
      refine ⟨fun x => ?_, hdate⟩
      simp only [logical?_restart, hresets, true_and]
    · intro beat u' hticks
      exact ⟨hticks.restarts.engine, hticks.logical?_dailyYield⟩

/-- A bank with a daily yield and a total one, and with the command to stop. -/
def yieldBank : Bank where
  registers :=
    [ ⟨30513, .clamp .u32 1000, .fix0, .readOnly, "total yield"⟩,
      ⟨30517, .clamp .u32 7, .fix0, .readOnly, "daily yield"⟩,
      ⟨40009, .clamp .u32 381, .enumeration, .readWrite, "operating command"⟩ ]
  wellLaid := ⟨by decide, by decide⟩

/-- A plant with this bank, whose daily yield starts again in the hour of six. -/
def yieldTwin : Twin := ⟨.initial { resetHour := 6 } (.ofSeed 1), yieldBank⟩

/-- A tick every half an hour in the morning, with a client that reads the daily yield. -/
def morning : List Event :=
  [ .tick ⟨⟨2024, 6, 20⟩, 5, 45, 0⟩ 5.0, .request 1 [3, 119, 53, 0, 2],
    .tick ⟨⟨2024, 6, 20⟩, 6, 15, 0⟩ 5.0 ]

/-- Behind a tick in the hour of the reset the next one does not reset. -/
theorem resets_once_per_date_morning :
    ∃ t', yieldTwin.after morning = .ok t' ∧
      t'.engine.resetsAt ⟨⟨2024, 6, 20⟩, 6, 45, 0⟩ = false ∧
      (yieldTwin.resets morning).map (·.date) = [⟨2024, 6, 20⟩] := by
  have hdates : (yieldTwin.resets morning).map (·.date) = [⟨2024, 6, 20⟩] := by decide +kernel
  have horder : (Event.times morning ++
      [(⟨⟨2024, 6, 20⟩, 6, 45, 0⟩ : DateTime)]).Pairwise (· ≤ ·) := by
    decide +kernel
  obtain ⟨t', hpast⟩ := exists_ok (x := yieldTwin.after morning) (by decide +kernel)
  obtain ⟨hfirst, -⟩ := (resets_once_per_date yieldTwin).1 rfl
  refine ⟨t', hpast, ?_, hdates⟩
  rw [Bool.eq_false_iff, ne_eq, hfirst morning _ t' hpast horder]
  decide +kernel

/-! ### Across the hour of the reset -/

/-- **The hour of the reset must not be skipped.**  In a run that begins with a fresh engine, the
    first tick that is not before the hour of the reset of its date lets the daily yield start again
    exactly if it falls into that hour, however long ago the tick before it was: the yield is zero,
    and then what the tick itself has added.  If the tick falls behind the hour, none of that date
    resets. -/
theorem reset_within_its_hour {t t' : Twin} {past later : List Event} {before now : DateTime}
    {elapsed : Float} (hfresh : t.engine.reset = none) (hpast : t.after past = .ok t')
    (hlast : (Event.times past).getLast? = some before)
    (horder : (Event.times (past ++ .tick now elapsed :: later)).Pairwise (· ≤ ·))
    (hbefore : before < now.date.atHour t.engine.parameters.resetHour.toNat)
    (hnow : now.date.atHour t.engine.parameters.resetHour.toNat ≤ now) :
    (t'.engine.resetsAt now = true ↔ now.hour = t.engine.parameters.resetHour.toNat) ∧
      (now.hour = t.engine.parameters.resetHour.toNat →
        (t'.restart now).bank.logical? Point.dailyYield =
            (t'.bank.logical? Point.dailyYield).map (fun v => Value.zero v.kind) ∧
          ∀ (beat : Beat) (t'' : Twin), t'.TicksTo now elapsed beat t'' →
            t''.bank.logical? Point.dailyYield = (t'.bank.logical? Point.dailyYield).map
              fun v => (Value.zero v.kind).raised beat.increments.energy) ∧
      (now.hour ≠ t.engine.parameters.resetHour.toNat →
        ∀ reset ∈ t.resets (past ++ .tick now elapsed :: later), reset.date ≠ now.date) := by
  rw [Event.times_append, Event.times_tick_cons] at horder
  obtain ⟨hsorted, hafter, hacross⟩ := List.pairwise_append.1 horder
  have hnext : ∀ time ∈ Event.times later, now ≤ time := (List.pairwise_cons.1 hafter).1
  -- What is before the instant is not in its hour.
  have hearly : ∀ time ∈ Event.times past, time.date = now.date →
      time.hour ≠ t.engine.parameters.resetHour.toNat := by
    intro time htime hdate hhour
    have hreached : now.date.atHour t.engine.parameters.resetHour.toNat ≤ time := by
      rw [← hdate]
      exact DateTime.atHour_le_iff.2 hhour.ge
    have hle : time ≤ before := by
      have hmax := hsorted.rel_getLast htime
      rw [List.getLast?_eq_some_getLast (List.ne_nil_of_mem htime), Option.some.injEq] at hlast
      rwa [hlast] at hmax
    exact absurd hbefore (hreached.trans hle).not_gt
  have hfires : t'.engine.resetsAt now = true ↔
      now.hour = t.engine.parameters.resetHour.toNat := by
    rw [resetsAt_after_iff hfresh hpast (horder.sublist (by simp))]
    simp only [not_and]
    exact and_iff_left hearly
  refine ⟨hfires, ?_, ?_⟩
  · intro hhour
    have hzero : (t'.restart now).bank.logical? Point.dailyYield =
        (t'.bank.logical? Point.dailyYield).map fun v => Value.zero v.kind := by
      simp only [logical?_restart, hfires.2 hhour, and_self, if_true]
    refine ⟨hzero, ?_⟩
    intro beat t'' hticks
    rw [hticks.logical?_dailyYield, hzero, Option.map_map]
    rfl
  · intro hhour reset hreset hdate
    -- What is not before the tick has passed the hour as the tick has.
    have hreset' : reset.hour = t.engine.parameters.resetHour.toNat := hour_of_mem_resets hreset
    have hmem := (t.resets_sublist _).subset hreset
    rw [Event.times_append, Event.times_tick_cons, List.mem_append, List.mem_cons] at hmem
    have hpassed : t.engine.parameters.resetHour.toNat ≤ now.hour := DateTime.atHour_le_iff.1 hnow
    rcases hmem with hmem | hmem | hmem
    · exact hearly reset hmem hdate hreset'
    · exact hhour (hmem ▸ hreset')
    · have hlater := DateTime.hour_le (hnext reset hmem) hdate.symm
      omega

/-- A tick a quarter of an hour before the hour of the reset, and one a quarter of an hour into
    it. -/
theorem reset_within_its_hour_morning :
    ∃ t', yieldTwin.after [.tick ⟨⟨2024, 6, 20⟩, 5, 45, 0⟩ 5.0] = .ok t' ∧
      t'.engine.resetsAt ⟨⟨2024, 6, 20⟩, 6, 15, 0⟩ = true ∧
      (t'.restart ⟨⟨2024, 6, 20⟩, 6, 15, 0⟩).bank.logical? Point.dailyYield =
        (t'.bank.logical? Point.dailyYield).map fun v => Value.zero v.kind := by
  have horder : (Event.times ([.tick ⟨⟨2024, 6, 20⟩, 5, 45, 0⟩ 5.0] ++
      .tick ⟨⟨2024, 6, 20⟩, 6, 15, 0⟩ 5.0 :: [])).Pairwise (· ≤ ·) := by
    decide +kernel
  have hlast : (Event.times [.tick ⟨⟨2024, 6, 20⟩, 5, 45, 0⟩ 5.0]).getLast? =
      some ⟨⟨2024, 6, 20⟩, 5, 45, 0⟩ := rfl
  obtain ⟨t', hpast⟩ := exists_ok
    (x := yieldTwin.after [.tick ⟨⟨2024, 6, 20⟩, 5, 45, 0⟩ 5.0]) (by decide +kernel)
  obtain ⟨hfires, hzero, -⟩ :=
    reset_within_its_hour rfl hpast hlast horder (by decide) (by decide)
  exact ⟨t', hpast, hfires.2 rfl, (hzero rfl).1⟩

/-- Two ticks before and after the hour of the reset, with no other in between: neither resets, and
    the daily yield is kept. -/
theorem reset_hour_skipped :
    (⟨⟨2024, 6, 20⟩, 5, 0, 0⟩ : DateTime) < Date.atHour ⟨2024, 6, 20⟩ 6 ∧
      Date.atHour ⟨2024, 6, 20⟩ 6 ≤ ⟨⟨2024, 6, 20⟩, 7, 0, 0⟩ ∧
      yieldTwin.engine.parameters.resetHour = 6 ∧
      (yieldTwin.after [.tick ⟨⟨2024, 6, 20⟩, 5, 0, 0⟩ 5.0]).toOption.map
        (·.engine.resetsAt ⟨⟨2024, 6, 20⟩, 7, 0, 0⟩) = some false ∧
      (yieldTwin.after [.tick ⟨⟨2024, 6, 20⟩, 5, 0, 0⟩ 5.0,
          .tick ⟨⟨2024, 6, 20⟩, 7, 0, 0⟩ 5.0]).toOption.map
        (fun u => (u.bank.logical? Point.dailyYield).map (·.number)) = some (some 7) := by
  decide +kernel

end Plant

end SolarTwin

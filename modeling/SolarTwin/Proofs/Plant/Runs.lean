import SolarTwin.Proofs.Plant.Twin

namespace SolarTwin.Plant

open Chance (Ends)

/-!
# Runs, event by event

A run goes through its events in order, and here it is of interest only if all of them have a
result.  Since a run can be cut anywhere, what is said of the tick behind a run is said of every
tick of a run.

* `Twin.after_cons_iff` and `Twin.after_append_iff` — the twin behind a run that is taken apart;
* `Twin.after_induction` — what every event preserves holds behind a run;
* `Twin.Event.times` — the local times of the ticks of a run;
* `Twin.TicksTo` and `Twin.step_tick_iff` — a tick by the beat that it computes and publishes;
* `Engine.of_advance` — what is certain however a tick draws.
-/

/-- What has not failed has a result. -/
theorem exists_ok {ε α : Type} {x : Except ε α} (h : x.isOk = true) : ∃ a, x = .ok a := by
  cases x with
  | error e => cases h
  | ok a => exact ⟨a, rfl⟩

/-! ### What a tick computes -/

/-- What holds of the beat of a tick and the engine behind it whatever is drawn. -/
theorem Engine.of_advance {e e' : Engine} {c : Commands} {now : DateTime} {elapsed : Float}
    {beat : Beat} {P : Beat → Engine → Prop}
    (hends : Ends (e.beat c now elapsed) (fun r => P r.1 r.2) fun _ => True)
    (hsource : ∀ engine source, P beat engine → P beat { engine with source })
    (h : e.advance c now elapsed = .ok (beat, e')) : P beat e' := by
  unfold advance at h
  rcases hends e.source with ⟨⟨beat', engine⟩, source, hok, hresult⟩ | ⟨halt, herror, -⟩
  · simp only [StateT.run, hok] at h
    obtain ⟨rfl, rfl⟩ : beat' = beat ∧ { engine with source } = e' := by
      simpa using Except.ok.inj h
    exact hsource engine source hresult
  · simp only [StateT.run, herror] at h
    cases h

namespace Twin

variable {t t' : Twin}

/-- A tick has computed a beat and published it. -/
structure TicksTo (t : Twin) (now : DateTime) (elapsed : Float) (beat : Beat) (t' : Twin) :
    Prop where
  advance : t.engine.advance t.commands now elapsed = .ok (beat, t'.engine)
  bank : t'.bank = (Board.publishBeat ⟨t.bank, []⟩ beat).bank

theorem step_tick (t : Twin) (now : DateTime) (elapsed : Float) :
    t.step (.tick now elapsed) = (t.engine.advance t.commands now elapsed).map
      fun r => ⟨r.2, (Board.publishBeat ⟨t.bank, []⟩ r.1).bank⟩ := by
  rw [step, pass, Engine.tick, commands]
  cases t.engine.advance (Board.commands ⟨t.bank, []⟩) now elapsed <;> rfl

theorem step_tick_iff {now : DateTime} {elapsed : Float} :
    t.step (.tick now elapsed) = .ok t' ↔ ∃ beat, t.TicksTo now elapsed beat t' := by
  rw [step_tick]
  constructor
  · intro h
    cases hadvance : t.engine.advance t.commands now elapsed with
    | error halt =>
      rw [hadvance] at h
      cases h
    | ok r =>
      obtain ⟨beat, engine⟩ := r
      simp only [hadvance, Except.map, Except.ok.injEq] at h
      subst h
      exact ⟨beat, { advance := hadvance, bank := by dsimp only }⟩
  · rintro ⟨beat, hadvance, hbank⟩
    simp only [hadvance, Except.map, ← hbank]

namespace TicksTo

variable {now : DateTime} {elapsed : Float} {beat : Beat}

theorem moved (h : t.TicksTo now elapsed beat t') : t.engine.Moved t.commands beat t'.engine :=
  Engine.of_advance (t.engine.beat_moves t.commands now elapsed)
    (fun _ _ hmoved => { hmoved with }) h.advance

/-- The tick has used an acknowledgement up exactly if the twin was in an error and found one. -/
theorem acknowledged (h : t.TicksTo now elapsed beat t') :
    beat.transition.acknowledged = t.engine.state.isAcknowledged t.commands :=
  h.moved.acknowledged

end TicksTo

/-! ### Runs -/

theorem after_nil_iff : t.after [] = .ok t' ↔ t = t' := by
  show Except.ok t = .ok t' ↔ t = t'
  rw [Except.ok.injEq]

theorem after_append_iff {es es' : List Event} :
    t.after (es ++ es') = .ok t' ↔ ∃ u, t.after es = .ok u ∧ u.after es' = .ok t' := by
  have happend : t.after (es ++ es') = (t.after es).bind (·.after es') := ending_append t es es'
  rw [happend]
  cases t.after es with
  | error halt => simp [Except.bind]
  | ok u => simp [Except.bind]

theorem after_cons_iff {e : Event} {es : List Event} :
    t.after (e :: es) = .ok t' ↔ ∃ u, t.step e = .ok u ∧ u.after es = .ok t' := by
  rw [after, eventTrail]
  cases hstep : t.step e with
  | error halt => simp [trail_of_error hstep]
  | ok u => simp [trail_of_ok hstep, after, eventTrail]

/-- What every event preserves holds behind a run. -/
theorem after_induction {P : Twin → Prop} (hP : ∀ {t t' e}, t.step e = .ok t' → P t → P t')
    {es : List Event} (h : t.after es = .ok t') (ht : P t) : P t' :=
  of_ending (P := P) (fun hkept hstep => hP hstep hkept) ht h

/-! ### Local times -/

namespace Event

/-- The local time of a tick. -/
def time? : Event → Option DateTime
  | .tick now _ => some now
  | .request .. => none

/-- The local times of the ticks among some events, in order. -/
def times (es : List Event) : List DateTime := es.filterMap time?

@[simp] theorem times_nil : times [] = [] := rfl

@[simp] theorem times_tick_cons (now : DateTime) (elapsed : Float) (es : List Event) :
    times (.tick now elapsed :: es) = now :: times es := rfl

@[simp] theorem times_request_cons (unit : UInt8) (pdu : List UInt8) (es : List Event) :
    times (.request unit pdu :: es) = times es := rfl

@[simp] theorem times_append (es es' : List Event) : times (es ++ es') = times es ++ times es' :=
  List.filterMap_append

theorem mem_times_iff {es : List Event} {now : DateTime} :
    now ∈ times es ↔ ∃ elapsed, .tick now elapsed ∈ es := by
  rw [times, List.mem_filterMap]
  constructor
  · rintro ⟨e, he, htime⟩
    cases e with
    | tick now' elapsed =>
      obtain rfl := Option.some.inj htime
      exact ⟨elapsed, he⟩
    | request unit pdu => cases htime
  · rintro ⟨elapsed, he⟩
    exact ⟨_, he, rfl⟩

end Event

end Twin

end SolarTwin.Plant

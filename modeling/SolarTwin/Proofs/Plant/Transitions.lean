import Mathlib.Data.List.Chain
import SolarTwin.Plant.State

namespace SolarTwin.Plant

/-!
# Runs of the state of the device

In each step of a run the commands, the probability of a fault, the load and the source to draw from
may be anything.

* `State.Moves` and `State.exists_moves` — all that one step can do;
* `State.run` — the steps of a run, each from the state that the one before left;
* `Stride.Lawful` — what is certain of every step of a device that works at first;
* `State.run_lawful` — that it is, and that an error lasts until a step in which it is acknowledged
  or the device is stopped.
-/

/-- What a step is given. -/
structure Stimulus where
  commands : Commands
  /-- The chance of a fault in percent, without load. -/
  probability : Float
  /-- The output of the last tick over the rated power. -/
  ratio : Float
  source : Source

namespace Stimulus

variable {i : Stimulus}

/-- The command is to stop. -/
abbrev Stops (i : Stimulus) : Prop := i.commands.operating = Commands.stop

/-- The command is to start. -/
abbrev Starts (i : Stimulus) : Prop := i.commands.operating = Commands.start

/-- The command is to acknowledge an error. -/
abbrev Acknowledges (i : Stimulus) : Prop := i.commands.acknowledge = Commands.acknowledgement

/-- A fault may happen. -/
abbrev Risky (i : Stimulus) : Prop := 0.0 < State.risk i.probability i.ratio

theorem Starts.not_stops (h : i.Starts) : ¬ i.Stops := by
  intro hstop
  have hsame : Commands.start = Commands.stop := h.symm.trans hstop
  exact absurd hsame (by decide)

end Stimulus

namespace State

/-! ### One step -/

/-- All that a step can do: what the state becomes, whether an acknowledgement is used up, and how
    many words are drawn. -/
inductive Moves (i : Stimulus) : State → State → Bool → Nat → Prop
  | stop (state : State) (hstop : i.Stops) : Moves i state .off (state.isAcknowledged i.commands) 0
  | clear (hstop : ¬ i.Stops) (hack : i.Acknowledges) : Moves i .error .ok true 0
  | remain (hstop : ¬ i.Stops) (hack : ¬ i.Acknowledges) : Moves i .error .error false 0
  | work (hstop : ¬ i.Stops) (hrisk : ¬ i.Risky) : Moves i .ok .ok false 0
  | survive (hstop : ¬ i.Stops) (hrisk : i.Risky) : Moves i .ok .ok false 1
  | fail (hstop : ¬ i.Stops) (hrisk : i.Risky) : Moves i .ok .error false 1
  | start {state : State} (hidle : state = .off ∨ state = .warning) (hstart : i.Starts) :
      Moves i state .ok false 0
  | rest {state : State} (hidle : state = .off ∨ state = .warning) (hstop : ¬ i.Stops)
      (hstart : ¬ i.Starts) : Moves i state state false 0

theorem isAcknowledged_iff {state : State} {c : Commands} :
    state.isAcknowledged c = true ↔
      state = .error ∧ c.acknowledge = Commands.acknowledgement := by
  simp [isAcknowledged]

/-- Where there is a risk one word is drawn, and otherwise none. -/
theorem fails_eq (i : Stimulus) :
    (¬ i.Risky ∧ fails i.probability i.ratio i.source = (false, i.source)) ∨
      i.Risky ∧ ∃ failed, fails i.probability i.ratio i.source =
        (failed, { i.source with taken := i.source.taken + 1 }) := by
  unfold fails
  by_cases hrisk : i.Risky
  · exact .inr ⟨hrisk, _, if_pos hrisk⟩
  · exact .inl ⟨hrisk, if_neg hrisk⟩

/-- A device that is off, or in the reserved state, waits for the command to start. -/
private theorem step_of_idle {state : State} (hidle : state = .off ∨ state = .warning)
    {i : Stimulus} (hstop : ¬ i.Stops) :
    state.step i.commands i.probability i.ratio i.source =
      (⟨state, if i.commands.operating = Commands.start then .ok else state, false⟩, i.source) := by
  unfold step
  rw [if_neg hstop]
  rcases hidle with rfl | rfl <;> rfl

theorem exists_moves (state : State) (i : Stimulus) :
    ∃ after acknowledged n, Moves i state after acknowledged n ∧
      state.step i.commands i.probability i.ratio i.source =
        (⟨state, after, acknowledged⟩, { i.source with taken := i.source.taken + n }) := by
  by_cases hstop : i.Stops
  · exact ⟨_, _, 0, .stop state hstop, if_pos hstop⟩
  · -- The two idle states go the same way.
    have hidle (h : state = .off ∨ state = .warning) :
        ∃ after acknowledged n, Moves i state after acknowledged n ∧
          state.step i.commands i.probability i.ratio i.source =
            (⟨state, after, acknowledged⟩, { i.source with taken := i.source.taken + n }) := by
      rw [step_of_idle h hstop]
      by_cases hstart : i.Starts
      · rw [if_pos hstart]
        exact ⟨_, _, 0, .start h hstart, rfl⟩
      · rw [if_neg hstart]
        exact ⟨_, _, 0, .rest h hstop hstart, rfl⟩
    cases state with
    | off => exact hidle (.inl rfl)
    | warning => exact hidle (.inr rfl)
    | error =>
      unfold step
      rw [if_neg hstop]
      by_cases hack : i.Acknowledges
      · exact ⟨_, _, 0, .clear hstop hack, if_pos (isAcknowledged_iff.2 ⟨rfl, hack⟩)⟩
      · exact ⟨_, _, 0, .remain hstop hack, if_neg fun h => hack (isAcknowledged_iff.1 h).2⟩
    | ok =>
      unfold step
      rw [if_neg hstop]
      rcases fails_eq i with ⟨hrisk, hfails⟩ | ⟨hrisk, failed, hfails⟩
      · rw [hfails]
        exact ⟨_, _, 0, .work hstop hrisk, rfl⟩
      · rw [hfails]
        cases failed with
        | false => exact ⟨_, _, 1, .survive hstop hrisk, rfl⟩
        | true => exact ⟨_, _, 1, .fail hstop hrisk, rfl⟩

namespace Moves

variable {i : Stimulus} {before after : State} {acknowledged : Bool} {n : Nat}

theorem after_ne_warning (h : Moves i before after acknowledged n) (hbefore : before ≠ .warning) :
    after ≠ .warning := by
  cases h <;> grind

theorem after_eq_off (h : Moves i before after acknowledged n) (hstop : i.Stops) :
    after = .off := by
  cases h with
  | start hidle hstart => exact absurd hstop hstart.not_stops
  | _ => first | rfl | contradiction

/-- A device that works goes on if it is not stopped and runs no risk. -/
theorem after_eq_ok (h : Moves i before after acknowledged n) (hbefore : before = .ok)
    (hstop : ¬ i.Stops) (hrisk : ¬ i.Risky) : after = .ok := by
  cases h <;> grind

theorem eq_of_after_eq_error (h : Moves i before after acknowledged n) (hafter : after = .error) :
    before = .error ∨ before = .ok ∧ ¬ i.Stops := by
  cases h <;> grind

theorem after_ne_error_iff (h : Moves i before after acknowledged n) (hbefore : before = .error) :
    after ≠ .error ↔ i.Acknowledges ∨ i.Stops := by
  cases h <;> grind

theorem eq_ok_of_left_off (h : Moves i before after acknowledged n) (hbefore : before = .off)
    (hafter : after ≠ .off) : after = .ok ∧ i.Starts := by
  cases h <;> grind

theorem acknowledged_iff (h : Moves i before after acknowledged n) :
    acknowledged = true ↔ before = .error ∧ i.Acknowledges := by
  cases h <;> grind [isAcknowledged_iff]

theorem after_of_acknowledged (h : Moves i before after acknowledged n)
    (hack : acknowledged = true) :
    (after = .ok ∨ after = .off) ∧ (after = .off ↔ i.Stops) := by
  cases h <;> grind

theorem drawn_eq (h : Moves i before after acknowledged n) :
    n = if before = .ok ∧ ¬ i.Stops ∧ i.Risky then 1 else 0 := by
  cases h <;> grind

end Moves

end State

/-! ### Runs -/

/-- A step that has been taken: what it was given, what it did, and the source behind it. -/
structure Stride where
  given : Stimulus
  transition : Transition
  source : Source

/-- What is certain of a step of a device that works at first. -/
structure Stride.Lawful (s : Stride) : Prop where
  /-- The reserved state is never reached. -/
  reserved : s.transition.before ≠ .warning ∧ s.transition.after ≠ .warning
  /-- A command to stop turns the device off. -/
  stopped : s.given.Stops → s.transition.after = .off
  /-- Only a device that works and is not stopped fails. -/
  failed : s.transition.after = .error →
    s.transition.before = .error ∨ s.transition.before = .ok ∧ ¬ s.given.Stops
  /-- An error is left exactly by acknowledging it or by stopping the device. -/
  released : s.transition.before = .error →
    (s.transition.after ≠ .error ↔ s.given.Acknowledges ∨ s.given.Stops)
  /-- A device that is off is left only to work, by a command to start. -/
  started : s.transition.before = .off → s.transition.after ≠ .off →
    s.transition.after = .ok ∧ s.given.Starts
  /-- An acknowledgement is used up exactly by an error. -/
  acknowledged : s.transition.acknowledged = true ↔
    s.transition.before = .error ∧ s.given.Acknowledges
  /-- Behind an acknowledged error the device works, or is off where it is stopped. -/
  cleared : s.transition.acknowledged = true →
    (s.transition.after = .ok ∨ s.transition.after = .off) ∧
      (s.transition.after = .off ↔ s.given.Stops)
  /-- One word is drawn by a device that works, is not stopped and runs a risk, and none otherwise. -/
  drawn : s.source = { s.given.source with
    taken := s.given.source.taken +
      if s.transition.before = .ok ∧ ¬ s.given.Stops ∧ s.given.Risky then 1 else 0 }

namespace State

/-- The step from a state. -/
def stride (state : State) (i : Stimulus) : Stride where
  given := i
  transition := (state.step i.commands i.probability i.ratio i.source).1
  source := (state.step i.commands i.probability i.ratio i.source).2

/-- The steps of a run. -/
def run (state : State) : List Stimulus → List Stride
  | [] => []
  | i :: is => state.stride i :: run (state.stride i).transition.after is

theorem before_stride (state : State) (i : Stimulus) :
    (state.stride i).transition.before = state := by
  obtain ⟨after, acknowledged, n, -, hstep⟩ := state.exists_moves i
  rw [stride, hstep]

theorem lawful_stride {state : State} (hstate : state ≠ .warning) (i : Stimulus) :
    (state.stride i).Lawful := by
  obtain ⟨after, acknowledged, n, hmoves, hstep⟩ := state.exists_moves i
  have hdrawn := hmoves.drawn_eq
  rw [stride, hstep]
  exact
    { reserved := ⟨hstate, hmoves.after_ne_warning hstate⟩
      stopped := hmoves.after_eq_off
      failed := hmoves.eq_of_after_eq_error
      released := hmoves.after_ne_error_iff
      started := hmoves.eq_ok_of_left_off
      acknowledged := hmoves.acknowledged_iff
      cleared := hmoves.after_of_acknowledged
      drawn := by rw [hdrawn] }

@[simp] theorem map_given_run (state : State) (is : List Stimulus) :
    (state.run is).map (·.given) = is := by
  induction is generalizing state with
  | nil => rfl
  | cons i is ih => rw [run, List.map_cons, ih, stride]

/-- A run begins in the state it starts from. -/
theorem head?_run (state : State) (is : List Stimulus) :
    ∀ s ∈ (state.run is).head?, s.transition.before = state := by
  intro s hs
  cases is with
  | nil => cases hs
  | cons i is =>
    obtain rfl := Option.some.inj hs
    exact before_stride state i

/-- Each step of a run starts from the state that the one before left. -/
theorem isChain_run (state : State) (is : List Stimulus) :
    (state.run is).IsChain fun s s' => s'.transition.before = s.transition.after := by
  induction is generalizing state with
  | nil => exact .nil
  | cons i is ih =>
    exact List.isChain_cons.2 ⟨head?_run _ is, ih _⟩

theorem lawful_of_mem_run {state : State} (hstate : state ≠ .warning) {is : List Stimulus}
    {s : Stride} (hs : s ∈ state.run is) : s.Lawful := by
  induction is generalizing state with
  | nil => cases hs
  | cons i is ih =>
    have hfirst := lawful_stride hstate i
    rcases List.mem_cons.1 hs with rfl | hlater
    · exact hfirst
    · exact ih hfirst.reserved.2 hlater

end State

/-- Along lawful steps that follow each other, an error lasts as long as nothing releases it. -/
private theorem Stride.after_eq_error_of_chain {s : Stride} {during : List Stride}
    (hchain : (s :: during).IsChain fun s s' => s'.transition.before = s.transition.after)
    (hlawful : ∀ s' ∈ during, s'.Lawful)
    (hunreleased : ∀ s' ∈ during, ¬ s'.given.Acknowledges ∧ ¬ s'.given.Stops)
    (herror : s.transition.after = .error) :
    ∀ s' ∈ during, s'.transition.before = .error ∧ s'.transition.after = .error := by
  -- Each step starts in the error that the one before has left, and leaves it in turn.
  induction during generalizing s with
  | nil => exact fun s' hs' => nomatch hs'
  | cons next during ih =>
    obtain ⟨hnext, hrest⟩ := List.isChain_cons_cons.1 hchain
    rw [List.forall_mem_cons] at hlawful hunreleased ⊢
    have hbefore : next.transition.before = .error := hnext.trans herror
    have hafter : next.transition.after = .error := by
      by_contra hleft
      rcases (hlawful.1.released hbefore).1 hleft with hack | hstop
      · exact hunreleased.1.1 hack
      · exact hunreleased.1.2 hstop
    exact ⟨⟨hbefore, hafter⟩, ih hrest hlawful.2 hunreleased.2 hafter⟩

namespace State

/-- **Runs of the state.**  In a run of a device that works at first, with whatever commands, risks,
    loads and draws, every step is lawful; and once a step has ended in an error, every state is the
    error as long as no step acknowledges it or stops the device. -/
theorem run_lawful (is : List Stimulus) :
    (State.ok.run is).map (·.given) = is ∧
    (∀ s ∈ (State.ok.run is).head?, s.transition.before = .ok) ∧
    ((State.ok.run is).IsChain fun s s' => s'.transition.before = s.transition.after) ∧
    (∀ s ∈ State.ok.run is, s.Lawful) ∧
    ∀ earlier s during later, State.ok.run is = earlier ++ s :: during ++ later →
      s.transition.after = .error →
      (∀ s' ∈ during, ¬ s'.given.Acknowledges ∧ ¬ s'.given.Stops) →
      ∀ s' ∈ during, s'.transition.before = .error ∧ s'.transition.after = .error := by
  have hlawful : ∀ s ∈ State.ok.run is, s.Lawful := fun s => lawful_of_mem_run (by decide)
  refine ⟨map_given_run .ok is, head?_run .ok is, isChain_run .ok is, hlawful, ?_⟩
  intro earlier s during later hrun herror hunreleased
  have hchain := isChain_run .ok is
  rw [hrun] at hchain hlawful
  -- The steps from the one that failed on are a chain of their own.
  have hpart := (List.isChain_append.1 (List.isChain_append.1 hchain).1).2.1
  refine Stride.after_eq_error_of_chain hpart (fun s' hs' => hlawful s' ?_) hunreleased herror
  simp [hs']

end State

end SolarTwin.Plant

import Mathlib.Data.List.Chain
import SolarTwin.Plant.Chance

namespace SolarTwin.Plant

/-!
# Steps one after another

Engines and twins move in steps, each of which goes on from where the one before has led, up to the
first one that halts.  What they step through differs, and so does what a step leaves to be looked
at; how steps follow each other does not.

* `trail` — the records of steps taken one after another, and what these end with;
* `trail_keeps` — what every step keeps holds all along; of it, `forall_mem_records` is about the
  records and `ending_keeps` about the end;
* `isChain_trail` — what every step does holds between each state and the next;
* `ending_append` — a trail can be cut anywhere;
* `trail_agree` — two trails whose steps agree go side by side.
-/

/-- What has come of some steps. -/
structure Trail (σ ρ : Type) where
  /-- What each step with a result has left, in order. -/
  records : List ρ
  /-- Where they have led if all of them have a result, or else why they ended before. -/
  ending : Except Halt σ

namespace Trail

variable {σ ρ : Type}

/-- Why a trail ends before all of its steps have had a result, if it does. -/
def halt? (t : Trail σ ρ) : Option Halt :=
  match t.ending with
  | .ok _ => none
  | .error h => some h

/-- A record in front of a trail. -/
def cons (r : ρ) (t : Trail σ ρ) : Trail σ ρ := ⟨r :: t.records, t.ending⟩

@[simp] theorem records_cons (r : ρ) (t : Trail σ ρ) : (t.cons r).records = r :: t.records := rfl

@[simp] theorem ending_cons (r : ρ) (t : Trail σ ρ) : (t.cons r).ending = t.ending := rfl

@[simp] theorem halt?_cons (r : ρ) (t : Trail σ ρ) : (t.cons r).halt? = t.halt? := rfl

end Trail

variable {σ ρ ι : Type}

/-- Takes steps one after another.  A step goes by what it is given, and its record tells where the
    next one goes on. -/
def trail (step : σ → ι → Except Halt ρ) (next : ρ → σ) (s : σ) : List ι → Trail σ ρ
  | [] => ⟨[], .ok s⟩
  | i :: is =>
    match step s i with
    | .ok r => (trail step next (next r) is).cons r
    | .error h => ⟨[], .error h⟩

section Trail

variable {step : σ → ι → Except Halt ρ} {next : ρ → σ} {s : σ} {i : ι} {is : List ι}

theorem trail_of_ok {r : ρ} (h : step s i = .ok r) :
    trail step next s (i :: is) = (trail step next (next r) is).cons r := by
  rw [trail, h]

theorem trail_of_error {halt : Halt} (h : step s i = .error halt) :
    trail step next s (i :: is) = ⟨[], .error halt⟩ := by
  rw [trail, h]

/-- What every step keeps holds where a trail leads, and what it shows holds of every record; and if
    a step halts it is for a reason that holds of it. -/
theorem trail_keeps {P : σ → Prop} {Q : ρ → Prop} {E : Halt → Prop}
    (hok : ∀ {s i r}, P s → step s i = .ok r → Q r ∧ P (next r))
    (herror : ∀ {s i h}, P s → step s i = .error h → E h) (hs : P s) (is : List ι) :
    (∀ r ∈ (trail step next s is).records, Q r) ∧
      ((∃ s', (trail step next s is).ending = .ok s' ∧ P s') ∨
        ∃ h, (trail step next s is).ending = .error h ∧ E h) := by
  induction is generalizing s with
  | nil => exact ⟨fun r hr => (nomatch hr), .inl ⟨s, rfl, hs⟩⟩
  | cons i is ih =>
    cases hstep : step s i with
    | error h =>
      rw [trail_of_error hstep]
      exact ⟨fun r hr => (nomatch hr), .inr ⟨h, rfl, herror hs hstep⟩⟩
    | ok r =>
      obtain ⟨hr, hnext⟩ := hok hs hstep
      obtain ⟨hrecords, hending⟩ := ih hnext
      rw [trail_of_ok hstep]
      exact ⟨List.forall_mem_cons.2 ⟨hr, hrecords⟩, hending⟩

/-- What every step shows holds of every record. -/
theorem forall_mem_records {P : σ → Prop} {Q : ρ → Prop}
    (hok : ∀ {s i r}, P s → step s i = .ok r → Q r ∧ P (next r)) (hs : P s) (is : List ι) :
    ∀ r ∈ (trail step next s is).records, Q r :=
  (trail_keeps (P := P) (E := fun _ => True) hok (fun _ _ => trivial) hs is).1

/-- What every step keeps holds where a trail leads, or the trail ends for a reason that holds
    of the step that halts. -/
theorem ending_keeps {P : σ → Prop} {E : Halt → Prop}
    (hok : ∀ {s i r}, P s → step s i = .ok r → P (next r))
    (herror : ∀ {s i h}, P s → step s i = .error h → E h) (hs : P s) (is : List ι) :
    (∃ s', (trail step next s is).ending = .ok s' ∧ P s') ∨
      ∃ h, (trail step next s is).ending = .error h ∧ E h :=
  (trail_keeps (P := P) (Q := fun _ => True)
    (fun hkept hstep => ⟨trivial, hok hkept hstep⟩) herror hs is).2

/-- What every step keeps holds where a trail leads. -/
theorem of_ending {P : σ → Prop} (hok : ∀ {s i r}, P s → step s i = .ok r → P (next r)) (hs : P s)
    {s' : σ} (h : (trail step next s is).ending = .ok s') : P s' := by
  rcases ending_keeps (P := P) (E := fun _ => True) hok (fun _ _ => trivial) hs is with
    ⟨s'', hending, hkept⟩ | ⟨halt, hending, -⟩
  · obtain rfl := Except.ok.inj (h.symm.trans hending)
    exact hkept
  · cases h.symm.trans hending

/-- What every step does holds between each state of a trail and the next. -/
theorem isChain_trail {R : σ → σ → Prop} (hR : ∀ {s i r}, step s i = .ok r → R s (next r)) (s : σ)
    (is : List ι) : (s :: (trail step next s is).records.map next).IsChain R := by
  induction is generalizing s with
  | nil => exact .singleton s
  | cons i is ih =>
    cases hstep : step s i with
    | error h =>
      rw [trail_of_error hstep]
      exact .singleton s
    | ok r =>
      rw [trail_of_ok hstep]
      exact .cons_cons (hR hstep) (ih (next r))

/-- A trail can be cut anywhere. -/
theorem ending_append (s : σ) (is js : List ι) :
    (trail step next s (is ++ js)).ending =
      (trail step next s is).ending.bind fun s' => (trail step next s' js).ending := by
  induction is generalizing s with
  | nil => rfl
  | cons i is ih =>
    rw [List.cons_append]
    cases hstep : step s i with
    | error h =>
      rw [trail_of_error hstep, trail_of_error hstep]
      rfl
    | ok r =>
      rw [trail_of_ok hstep, trail_of_ok hstep]
      exact ih (next r)

end Trail

/-- Two trails go side by side if their steps agree: both have a result, or both halt for the same
    reason. -/
theorem trail_agree {σ' ρ' : Type} {step : σ → ι → Except Halt ρ} {next : ρ → σ}
    {step' : σ' → ι → Except Halt ρ'} {next' : ρ' → σ'} {R : σ → σ' → Prop} {S : ρ → ρ' → Prop}
    (hagree : ∀ {s s'} i, R s s' →
      (∃ r r', step s i = .ok r ∧ step' s' i = .ok r' ∧ S r r' ∧ R (next r) (next' r')) ∨
        ∃ halt, step s i = .error halt ∧ step' s' i = .error halt)
    {s : σ} {s' : σ'} (hs : R s s') (is : List ι) :
    List.Forall₂ S (trail step next s is).records (trail step' next' s' is).records ∧
      (trail step' next' s' is).halt? = (trail step next s is).halt? := by
  induction is generalizing s s' with
  | nil => exact ⟨.nil, rfl⟩
  | cons i is ih =>
    rcases hagree i hs with ⟨r, r', hr, hr', hS, hnext⟩ | ⟨halt, hhalt, hhalt'⟩
    · obtain ⟨hrecords, hhalts⟩ := ih hnext
      rw [trail_of_ok hr, trail_of_ok hr']
      exact ⟨.cons hS hrecords, hhalts⟩
    · rw [trail_of_error hhalt, trail_of_error hhalt']
      exact ⟨.nil, rfl⟩

end SolarTwin.Plant

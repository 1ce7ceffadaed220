import SolarTwin.Plant.Chance

namespace SolarTwin

/-!
# How computations that draw end

A computation that draws ends with a result or halts.  Whatever the source is, `Chance.Ends` says
what holds of the result and what holds of the halt; a sequence of computations is followed step by
step.

* `Halt.IsPanic` — the halts other than going on for ever;
* `Chance.bind_eq_ok`, `Chance.Ends.bind` — the rules for sequences;
* `Chance.Drawable` and `Chance.around_ends` — between which bounds a double can be drawn;
* `Chance.clamp_ends` and `Chance.below_ends` — the same of clamping and of drawing an index.
-/

/-- Going on for ever is not a panic, every other halt is one. -/
def Halt.IsPanic : Halt → Prop
  | .endless => False
  | .span .. | .emptyRange | .bounds .. => True

namespace Chance

variable {α β : Type} {P P' : α → Prop} {Q : β → Prop} {E E' : Halt → Prop}

/-! ### Sequences -/

/-- A choice, followed by the same computation either way, only depends on what that computes. -/
theorem ite_bind_congr {c : Prop} [Decidable c] {x y : Chance α} {f g : α → Chance β}
    (h : ∀ a, f a = g a) :
    (if c then x >>= f else y >>= f) = if c then x >>= g else y >>= g := by
  rw [funext h]

/-- A sequence has a result where its parts have one, the second one from the source that the first
    one leaves. -/
theorem bind_eq_ok {x : Chance α} {f : α → Chance β} {s : Source} {r : β × Source}
    (h : (x >>= f) s = .ok r) : ∃ a s', x s = .ok (a, s') ∧ f a s' = .ok r := by
  have hbind : (x >>= f) s = x s >>= fun r => f r.1 r.2 := rfl
  rw [hbind] at h
  cases hx : x s with
  | ok r =>
    rw [hx] at h
    exact ⟨r.1, r.2, rfl, h⟩
  | error halt =>
    rw [hx] at h
    cases h

/-- Whatever is drawn, there is a result of which `P` holds or a halt of which `E` holds. -/
def Ends (x : Chance α) (P : α → Prop) (E : Halt → Prop) : Prop :=
  ∀ s, (∃ a s', x s = .ok (a, s') ∧ P a) ∨ ∃ h, x s = .error h ∧ E h

namespace Ends

theorem pure {a : α} (ha : P a) : Ends (Pure.pure a : Chance α) P E :=
  fun s => .inl ⟨a, s, rfl, ha⟩

/-- Nothing is asked of how a computation ends. -/
theorem any (x : Chance α) : Ends x (fun _ => True) fun _ => True := by
  intro s
  cases hx : x s with
  | ok r => exact .inl ⟨r.1, r.2, rfl, trivial⟩
  | error h => exact .inr ⟨h, rfl, trivial⟩

theorem mono {x : Chance α} (hx : Ends x P E) (hP : ∀ a, P a → P' a) (hE : ∀ h, E h → E' h) :
    Ends x P' E' := by
  intro s
  rcases hx s with ⟨a, s', ha, hresult⟩ | ⟨h, hh, hhalt⟩
  · exact .inl ⟨a, s', ha, hP a hresult⟩
  · exact .inr ⟨h, hh, hE h hhalt⟩

/-- The second part only matters where the first one has a result. -/
theorem bind {x : Chance α} {f : α → Chance β} (hx : Ends x P E)
    (hf : ∀ a, P a → Ends (f a) Q E) : Ends (x >>= f) Q E := by
  intro s
  have hbind : (x >>= f) s = x s >>= fun r => f r.1 r.2 := rfl
  rw [hbind]
  rcases hx s with ⟨a, s', ha, hresult⟩ | ⟨h, hh, hhalt⟩
  · rw [ha]
    exact hf a hresult s'
  · rw [hh]
    exact .inr ⟨h, rfl, hhalt⟩

/-- A choice, followed by the same computation either way. -/
theorem ite_bind {c : Prop} [Decidable c] {x y : Chance α} {f : α → Chance β}
    (hx : c → Ends x P E) (hy : ¬ c → Ends y P E) (hf : ∀ a, P a → Ends (f a) Q E) :
    Ends (if c then x >>= f else y >>= f) Q E := by
  split
  · next hc => exact (hx hc).bind hf
  · next hc => exact (hy hc).bind hf

/-- What holds of every result holds of one that there is. -/
theorem of_eq_ok {x : Chance α} (hx : Ends x P E) {s s' : Source} {a : α}
    (h : x s = .ok (a, s')) : P a := by
  rcases hx s with ⟨a', s'', ha, hresult⟩ | ⟨halt, hhalt, -⟩
  · obtain ⟨rfl, -⟩ := Prod.mk.inj (Except.ok.inj (ha.symm.trans h))
    exact hresult
  · cases hhalt.symm.trans h

/-- A computation that draws nothing, as part of one that draws. -/
theorem lift {x : Except Halt α} (hok : ∀ a, x = .ok a → P a) (herror : ∀ h, x = .error h → E h) :
    Ends (liftM x) P E := by
  intro s
  cases x with
  | ok a => exact .inl ⟨a, s, rfl, hok a rfl⟩
  | error h => exact .inr ⟨h, rfl, herror h rfl⟩

end Ends

/-! ### Drawing -/

/-- A double can be drawn around zero if the bound is not positive, since then nothing is drawn, or
    if the span from end to end is finite. -/
def Drawable (bound : Float) : Prop := 0.0 < bound → (bound - -bound).isFinite = true

instance (bound : Float) : Decidable (Drawable bound) :=
  inferInstanceAs (Decidable (0.0 < bound → (bound - -bound).isFinite = true))

theorem around_ends (bound : Float) :
    Ends (around bound) (fun _ => Drawable bound)
      fun h => h = .span (-bound) bound ∧ ¬ Drawable bound := by
  intro s
  unfold around
  by_cases hpos : 0.0 < bound
  · rw [if_pos hpos]
    by_cases hfinite : (bound - -bound).isFinite = true
    · rw [if_pos hfinite]
      exact .inl ⟨_, _, rfl, fun _ => hfinite⟩
    · rw [if_neg hfinite]
      exact .inr ⟨_, rfl, rfl, fun h => hfinite (h hpos)⟩
  · rw [if_neg hpos]
    exact .inl ⟨_, _, rfl, fun h => absurd h hpos⟩

theorem below_ends (n : Nat) :
    Ends (below n) (· < n) fun h => h = .emptyRange ∧ n = 0 := by
  intro s
  unfold below Source.below
  by_cases hn : n = 0
  · rw [if_pos hn]
    exact .inr ⟨_, rfl, rfl, hn⟩
  · rw [if_neg hn]
    exact .inl ⟨_, _, rfl, Source.index_lt (by omega) s⟩

theorem clamp_ends (lo hi x : Float) :
    Ends (clamp lo hi x) (fun _ => lo ≤ hi) fun h => h = .bounds lo hi ∧ ¬ lo ≤ hi := by
  unfold clamp
  by_cases hle : lo ≤ hi
  · rw [if_pos hle]
    exact .pure hle
  · rw [if_neg hle]
    exact fun s => .inr ⟨_, rfl, rfl, hle⟩

end Chance

end SolarTwin

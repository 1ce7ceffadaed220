namespace SolarTwin

/-!
# Indices into lists of words

Words are looked up and replaced under indices that are computed first.  What becomes of an index
that lies outside its list is not for the function to say that has computed it: such functions are
written once, for any way to use their indices.

* `Indexing.lenient` — where an index lies outside, nothing is found and nothing changes;
* `Indexing.strict` — then there is no outcome at all;
* `Indexing.Faithful` — where an index lies inside, both do the same.
-/

/-- A way to use indices into lists of words. -/
structure Indexing (m : Type → Type) where
  /-- The word at an index, if there is one. -/
  get : List UInt16 → Nat → m (Option UInt16)
  /-- The list with the word at an index replaced. -/
  set : List UInt16 → Nat → UInt16 → m (List UInt16)

namespace Indexing

/-- An index outside its list finds nothing and changes nothing. -/
def lenient : Indexing Id where
  get ws i := ws[i]?
  set ws i w := ws.set i w

/-- An index outside its list has no outcome. -/
def strict : Indexing Option where
  get ws i := ws[i]?.map some
  set ws i w := if i < ws.length then some (ws.set i w) else none

/-- Indices inside their lists are used as they should be. -/
structure Faithful {m : Type → Type} [Monad m] (ix : Indexing m) : Prop where
  get : ∀ {ws : List UInt16} {i : Nat}, i < ws.length → ix.get ws i = pure ws[i]?
  set : ∀ {ws : List UInt16} {i : Nat} (w : UInt16), i < ws.length →
    ix.set ws i w = pure (ws.set i w)

theorem lenient_faithful : lenient.Faithful where
  get _ := rfl
  set _ _ := rfl

theorem strict_faithful : strict.Faithful where
  get {ws i} h := by
    show ws[i]?.map some = some ws[i]?
    rw [List.getElem?_eq_getElem h, Option.map_some]
  set _ h := if_pos h

end Indexing

end SolarTwin

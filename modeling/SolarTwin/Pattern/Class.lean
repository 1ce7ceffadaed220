import SolarTwin.Pattern.Escape

namespace SolarTwin.Pattern

/-!
# Classes

A class in brackets is a set of characters: single ones, ranges, sets with names and further
classes, and what two signs between them make of the sets on both sides.  How deep a class is
nested counts as well.
-/

/-- What is known of a part of a class. -/
structure ClassPart where
  set : CharSet
  depth : Nat

/-- The signs between the parts of a class. -/
inductive ClassSign where
  | inter
  | diff
  | symmDiff

/-- The set that a sign makes of two. -/
def ClassSign.apply : ClassSign → CharSet → CharSet → CharSet
  | inter => CharSet.inter
  | diff => CharSet.diff
  | symmDiff => CharSet.symmDiff

/-- The sign at the beginning of a text, with the text behind it. -/
def classSign? : List Char → Option (ClassSign × List Char)
  | '&' :: '&' :: rest => some (.inter, rest)
  | '-' :: '-' :: rest => some (.diff, rest)
  | '~' :: '~' :: rest => some (.symmDiff, rest)
  | _ => none

/-- A set with the other case of its characters, if case does not matter.  The cases of all scripts
    are not supported, so no character may be in the set then. -/
def Flags.fold? (f : Flags) (s : CharSet) : Option CharSet :=
  if !f.ignoreCase then some s
  else if !f.unicode then some s.anyCase
  else if s.isEmpty then some s
  else none

/-- The set of a class.  Where a pattern is read as ASCII, a class must not have other characters,
    so none is inverted. -/
def Flags.close? (f : Flags) (negated : Bool) (s : CharSet) : Option CharSet :=
  (f.fold? s).bind fun s =>
    if !negated then some s else if f.unicode then some s.complement else none

/-- Several parts of a class without a sign between them. -/
def unionOf : List ClassPart → ClassPart
  | [] => ⟨CharSet.empty, 0⟩
  | [part] => part
  | parts =>
    parts.foldl (fun whole part => ⟨whole.set.union part.set, max whole.depth (part.depth + 1)⟩)
      ⟨CharSet.empty, 0⟩

/-- What a pending sign makes of the part in front of it and the part behind it. -/
def settle (f : Flags) (pending : Option (ClassSign × ClassPart)) (right : ClassPart) :
    Option ClassPart :=
  match pending with
  | none => some right
  | some (sign, left) => do
    let a ← f.fold? left.set
    let b ← f.fold? right.set
    return ⟨sign.apply a b, max left.depth right.depth + 1⟩

/-- A set with a name behind an opening bracket: its name stands between colons, and a caret in
    front of it inverts it. -/
def namedSet? (cs : List Char) : Option (CharSet × Bool × List Char) :=
  match cs with
  | ':' :: rest =>
    let (negated, rest) :=
      match rest with
      | '^' :: rest => (true, rest)
      | rest => (false, rest)
    let name := rest.takeWhile (· ≠ ':')
    match rest.dropWhile (· ≠ ':') with
    | ':' :: ']' :: rest =>
      (CharSet.named.lookup (String.ofList name)).map fun s => (s, negated, rest)
    | _ => none
  | _ => none

/-- A single character of a class, or an escape. -/
def classItem (f : Flags) : List Char → Option (Escape × List Char)
  | [] => none
  | '\\' :: rest => escape f rest
  | c :: rest => some (.literal c false, rest)

/-- The character that an escape in a class stands for. -/
def classChar? (f : Flags) : Escape → Option Char
  | .literal c _ => if f.unicode ∨ c.toNat < 128 then some c else none
  | _ => none

/-- A character, a set or a range of a class.  A hyphen in front of the closing bracket or of
    another hyphen makes no range. -/
def classRange (f : Flags) (cs : List Char) : Option (CharSet × List Char) := do
  let (first, rest) ← classItem f cs
  match f.skip rest with
  | [] => none
  | c :: behind =>
    if c = '-' ∧ f.peek behind ≠ some ']' ∧ f.peek behind ≠ some '-' then
      let (final, rest) ← classItem f (f.skip behind)
      let low ← classChar? f first
      let high ← classChar? f final
      if low ≤ high then some (CharSet.range low.toNat high.toNat, rest) else none
    else
      match first with
      | .set s => some (s, c :: behind)
      | e => (classChar? f e).map fun d => (CharSet.single d, c :: behind)

/-- The hyphens ahead, which stand for themselves at the beginning of a class.  The fuel has to
    exceed the length of the text. -/
def leadingHyphens (f : Flags) : Nat → List Char → List ClassPart → List ClassPart × List Char
  | n + 1, '-' :: rest, found =>
    leadingHyphens f n (f.skip rest) (⟨CharSet.single '-', 0⟩ :: found)
  | _, cs, found => (found, cs)

mutual

/-- A class behind its opening bracket.  A closing bracket in the first place stands for itself.
    The fuel has to exceed twice the length of the text. -/
def classBody (f : Flags) : Nat → List Char → Option (ClassPart × List Char)
  | 0, _ => none
  | n + 1, cs =>
    let (negated, cs) :=
      match f.skip cs with
      | '^' :: rest => (true, f.skip rest)
      | cs => (false, cs)
    let (items, cs) := leadingHyphens f (cs.length + 1) cs []
    let (items, cs) :=
      match items, cs with
      | [], ']' :: rest => ([⟨CharSet.single ']', 0⟩], rest)
      | items, cs => (items, cs)
    (classItems f n cs items none).bind fun (whole, rest) =>
      (f.close? negated whole.set).map fun s => (⟨s, whole.depth + 1⟩, rest)

/-- The parts of a class up to its closing bracket, given those before and the sign in front of
    them. -/
def classItems (f : Flags) : Nat → List Char → List ClassPart →
    Option (ClassSign × ClassPart) → Option (ClassPart × List Char)
  | 0, _, _, _ => none
  | n + 1, cs, items, pending =>
    let cs := f.skip cs
    match cs with
    | [] => none
    | ']' :: rest => (settle f pending (unionOf items)).map fun part => (part, rest)
    | '[' :: rest =>
      match namedSet? rest with
      | some (s, negated, rest) =>
        (f.close? negated s).bind fun s => classItems f n rest (⟨s, 0⟩ :: items) pending
      | none =>
        (classBody f n rest).bind fun (part, rest) => classItems f n rest (part :: items) pending
    | _ =>
      match classSign? cs with
      | some (sign, rest) =>
        (settle f pending (unionOf items)).bind fun left =>
          classItems f n rest [] (some (sign, left))
      | none =>
        (classRange f cs).bind fun (s, rest) => classItems f n rest (⟨s, 0⟩ :: items) pending

end

end SolarTwin.Pattern

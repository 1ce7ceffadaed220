import SolarTwin.Pattern.Class
import SolarTwin.Pattern.Size
import SolarTwin.Text.Letter

namespace SolarTwin.Pattern

/-!
# Reading patterns

A pattern is written as alternatives between bars; each is a row of characters, classes, places and
groups, which may be followed by how often they come.  `Pattern.ofText?` reads a whole text.
-/

/-- A part of a pattern that has been read. -/
structure Piece where
  pattern : Pattern
  /-- How deep it is nested. -/
  depth : Nat
  /-- Whether it only sets flags, so that it cannot be repeated. -/
  isDirective : Bool

/-- The rest of a text, how it is read, and the names of the groups so far. -/
structure Reader where
  rest : List Char
  flags : Flags
  names : List (List Char)

/-- Pieces in a row, the last one first. -/
def rowOf (pieces : List Piece) : Piece :=
  match pieces with
  | [] => ⟨empty, 0, false⟩
  | [piece] => { piece with isDirective := false }
  | _ =>
    ⟨ofSequence (pieces.reverse.map (·.pattern)), pieces.foldl (fun n p => max n (p.depth + 1)) 0,
      false⟩

/-- Alternatives, the last one first. -/
def choiceOf (pieces : List Piece) : Piece :=
  match pieces with
  | [piece] => piece
  | _ =>
    ⟨ofChoice (pieces.reverse.map (·.pattern)), pieces.foldl (fun n p => max n (p.depth + 1)) 0,
      false⟩

/-! ### Single characters -/

/-- A character, which may have been given as a byte.  A byte that is no character of its own
    stands for nothing in a text. -/
def literal? (f : Flags) (c : Char) (byte : Bool) : Option Pattern :=
  if !f.unicode ∧ byte ∧ 128 ≤ c.toNat then none
  else (f.fold? (CharSet.single c)).map chars

/-- The characters that a dot stands for. -/
def dot? (f : Flags) : Option Pattern :=
  if !f.unicode then none
  else if f.dotAll then some (chars CharSet.all)
  else if f.returns then some (chars (CharSet.ofRanges [('\n', '\n'), ('\r', '\r')]).complement)
  else some (chars (CharSet.single '\n').complement)

/-- What stands for one character or one place. -/
def atom (f : Flags) : List Char → Option (Pattern × List Char)
  | [] => none
  | '\\' :: rest =>
    (escape f rest).bind fun (e, rest) =>
      match e with
      | .literal c byte => (literal? f c byte).map (·, rest)
      | .set s => some (chars s, rest)
      | .assertion a => some (assertion a, rest)
  | '.' :: rest => (dot? f).map (·, rest)
  | '^' :: rest =>
    some (assertion (if f.multiLine then .lineStart f.returns else .textStart), rest)
  | '$' :: rest => some (assertion (if f.multiLine then .lineStop f.returns else .textStop), rest)
  | c :: rest => (literal? f c false).map (·, rest)

/-! ### Repetitions -/

/-- The largest count. -/
def countLimit : Nat := 4294967295

/-- The digits ahead.  The fuel has to exceed the length of the text. -/
def countDigits (f : Flags) : Nat → List Char → List Char → List Char × List Char
  | n + 1, c :: rest, found =>
    if c.isDigit then countDigits f n (f.skip rest) (c :: found) else (found.reverse, c :: rest)
  | _, cs, found => (found.reverse, cs)

/-- A count, which may have white space around it. -/
def count (f : Flags) (cs : List Char) : Option Nat × List Char :=
  let cs := cs.dropWhile Text.isSpace
  let (digits, rest) := countDigits f (cs.length + 1) cs []
  let n := digits.foldl (fun n d => 10 * n + (d.toNat - 48)) 0
  let rest := (rest.dropWhile Text.isSpace)
  let rest := if digits.isEmpty then rest else f.skip rest
  (if digits.isEmpty ∨ countLimit < n then none else some n, rest)

/-- The counts between braces, behind the opening one: exactly so many, at least so many, or a
    range. -/
def counts (f : Flags) (cs : List Char) : Option ((Nat × Option Nat) × List Char) :=
  let (least?, rest) := count f (f.skip cs)
  match rest with
  | '\x7d' :: rest => least?.map fun n => ((n, some n), f.skip rest)
  | ',' :: rest =>
    match f.skip rest with
    | '\x7d' :: rest => least?.map fun n => ((n, none), f.skip rest)
    | rest =>
      let (most?, rest) := count f rest
      match rest with
      | '\x7d' :: rest =>
        least?.bind fun least => most?.bind fun most =>
          if least ≤ most then some ((least, some most), f.skip rest) else none
      | _ => none
  | _ => none

/-- A text without the question mark that makes a repetition prefer few. -/
def skipLazy : List Char → List Char
  | '?' :: rest => rest
  | cs => cs

/-- Repeats the last piece, which has to be there. -/
def repeatLast (pieces : List Piece) (least : Nat) (most : Option Nat) : Option (List Piece) :=
  match pieces with
  | piece :: before =>
    if piece.isDirective then none
    else some (⟨piece.pattern.times least most, piece.depth + 1, false⟩ :: before)
  | [] => none

/-! ### Groups -/

/-- Whether a character may stand in the name of a group. -/
def isNameChar (first : Bool) (c : Char) : Bool :=
  c = '_' || Text.isLetter c ||
    (!first && (c = '.' || c = '[' || c = ']' || Text.isNumber c))

/-- The name of a group, which must be new. -/
def groupName (names : List (List Char)) (cs : List Char) : Option (List Char × List Char) :=
  let name := cs.takeWhile (· ≠ '>')
  match cs.dropWhile (· ≠ '>') with
  | '>' :: rest =>
    if name.isEmpty ∨ !(name.take 1).all (isNameChar true) ∨
        !(name.drop 1).all (isNameChar false) ∨ names.contains name then none
    else some (name, rest)
  | _ => none

/-- What an opening parenthesis begins: flags for what follows in the same group, or a group. -/
inductive Opening where
  | directive (r : Reader)
  | group (named : Bool) (r : Reader)

/-- The opening behind a parenthesis.  Conditions on the text around are not supported. -/
def opening (r : Reader) : Option Opening :=
  let cs := r.flags.skip r.rest
  let named (rest : List Char) : Option Opening :=
    (groupName r.names rest).map fun (name, rest) =>
      .group true { r with rest := rest, names := name :: r.names }
  match cs with
  | '?' :: '=' :: _ | '?' :: '!' :: _ | '?' :: '<' :: '=' :: _ | '?' :: '<' :: '!' :: _ => none
  | '?' :: 'P' :: '<' :: rest | '?' :: '<' :: rest => named rest
  | '?' :: rest =>
    (readFlags rest []).bind fun (items, rest) =>
      let r := { r with rest := rest.tail, flags := r.flags.setAll true items }
      if rest.head? = some ':' then some (.group false r)
      else if items.isEmpty then none
      else some (.directive r)
  | _ => some (.group true { r with rest := cs })

/-- Alternatives up to a closing parenthesis or the end, given those before and the pieces of the
    last one.  The flags at the end of a group are those at its beginning.  The fuel has to exceed
    the length of the text. -/
def alternatives : Nat → Reader → List Piece → List Piece → Option (Piece × Reader)
  | 0, _, _, _ => none
  | n + 1, r, before, pieces =>
    let f := r.flags
    let cs := f.skip r.rest
    let again (rest : List Char) (pieces? : Option (List Piece)) : Option (Piece × Reader) :=
      pieces?.bind fun pieces => alternatives n { r with rest := rest } before pieces
    match cs with
    | [] => some (choiceOf (rowOf pieces :: before), { r with rest := cs })
    | c :: rest =>
      if c = ')' then some (choiceOf (rowOf pieces :: before), { r with rest := cs })
      else if c = '|' then alternatives n { r with rest := rest } (rowOf pieces :: before) []
      else if c = '(' then
        match opening { r with rest := rest } with
        | none => none
        | some (.directive r) => alternatives n r before (⟨empty, 0, true⟩ :: pieces)
        | some (.group captures inner) =>
          match alternatives n inner [] [] with
          | some (piece, ⟨')' :: rest, _, names⟩) =>
            let p := if captures then group piece.pattern else piece.pattern
            alternatives n ⟨rest, f, names⟩ before (⟨p, piece.depth + 1, false⟩ :: pieces)
          | _ => none
      else if c = '[' then
        (classBody f (2 * rest.length + 2) rest).bind fun (part, rest) =>
          again rest (some (⟨chars part.set, part.depth, false⟩ :: pieces))
      else if c = '?' then again (skipLazy rest) (repeatLast pieces 0 (some 1))
      else if c = '*' then again (skipLazy rest) (repeatLast pieces 0 none)
      else if c = '+' then again (skipLazy rest) (repeatLast pieces 1 none)
      else if c = '\x7b' then
        (counts f rest).bind fun ((least, most), rest) =>
          again (skipLazy rest) (repeatLast pieces least most)
      else (atom f cs).bind fun (p, rest) => again rest (some (⟨p, 0, false⟩ :: pieces))

/-- How deep a pattern may be nested. -/
def depthLimit : Nat := 250

/-- The pattern written by a text, if it is one that is supported. -/
def ofText? (text : String) : Option Pattern :=
  let cs := text.toList
  match alternatives (cs.length + 1) ⟨cs, Flags.standard, []⟩ [] [] with
  | some (piece, ⟨[], _, _⟩) =>
    if piece.depth ≤ depthLimit ∧ piece.pattern.isSupported ∧ piece.pattern.isSmall then
      some piece.pattern
    else none
  | _ => none

end SolarTwin.Pattern

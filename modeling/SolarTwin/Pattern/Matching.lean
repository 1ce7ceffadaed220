import SolarTwin.Pattern.Basic

namespace SolarTwin

/-!
# Finding patterns in texts

For every place of a text the places are found where a stretch that fits a pattern can end when it
begins there.  This relation between places is put together from those of the pattern's parts, so
every part is looked at once.

* `Spans` is such a relation, with composition and closure;
* `Pattern.spans` is the relation of a pattern, `Pattern.occursIn` says whether it has a pair.
-/

/-- A relation between the places of a text: in the row of a place, the bits of the places to which
    it is related. -/
abbrev Spans := Array Nat

namespace Spans

/-- The relation in a text of a length whose rows are given. -/
def ofRows (length : Nat) (row : Nat → Nat) : Spans := (Array.range (length + 1)).map row

/-- The bit of a place. -/
def bit (place : Nat) : Nat := 1 <<< place

/-- Every place to itself. -/
def identity (length : Nat) : Spans := ofRows length bit

/-- Whether one place is related to another. -/
def relates (s : Spans) (i j : Nat) : Bool := (s.getD i 0).testBit j

/-- Related by either relation. -/
def union (s t : Spans) : Spans := s.zipWith (· ||| ·) t

/-- Related by one relation and then the other. -/
def compose (s t : Spans) : Spans :=
  s.map fun row =>
    if row = 0 then 0
    else (t.zipIdx).foldl (fun found (next, j) => if row.testBit j then found ||| next else found) 0

/-- Related by a relation applied so many times. -/
def power (s : Spans) (n : Nat) : Spans :=
  if h : n = 0 then identity (s.size - 1)
  else
    let half := (s.compose s).power (n / 2)
    if n % 2 = 0 then half else s.compose half
termination_by n
decreasing_by omega

/-- The rows of the closure from a place on, given the rows of the places behind it.  No place is
    related to one before it. -/
def closureRows (s : Spans) (place : Nat) (rows : List Nat) : List Nat :=
  let row := (rows.zipIdx (place + 1)).foldl
    (fun found (next, j) => if s.relates place j then found ||| next else found) (bit place)
  row :: rows

/-- Related by a relation applied any number of times. -/
def closure (s : Spans) : Spans :=
  ((List.range s.size).foldr (closureRows s) []).toArray

end Spans

/-- Whether the character at an index is a line feed. -/
def isFeedAt (text : Array Char) (i : Nat) : Bool := text[i]? = some '\n'

/-- Whether the character at an index is a carriage return. -/
def isReturnAt (text : Array Char) (i : Nat) : Bool := text[i]? = some '\r'

/-- Whether the character at an index belongs to a word. -/
def isWordAt (text : Array Char) (i : Nat) : Bool :=
  text[i]?.any fun c => CharSet.wordChars.contains c.toNat

/-- Whether a place lies in a word, between words or at the edge of one as asked. -/
def WordPlace.holds (w : WordPlace) (before behind : Bool) : Bool :=
  match w with
  | boundary => before != behind
  | notBoundary => before == behind
  | start => !before && behind
  | stop => before && !behind
  | startHalf => !before
  | stopHalf => !behind

/-- Whether a place in a text meets a condition.  A carriage return and the line feed behind it end
    a line together. -/
def Assertion.holds (a : Assertion) (text : Array Char) (place : Nat) : Bool :=
  match a with
  | textStart => place = 0
  | textStop => place = text.size
  | lineStart returns =>
    place = 0 || isFeedAt text (place - 1) ||
      (returns && isReturnAt text (place - 1) && !isFeedAt text place)
  | lineStop returns =>
    place = text.size || (returns && isReturnAt text place) ||
      (isFeedAt text place && !(returns && place ≠ 0 && isReturnAt text (place - 1)))
  | word w _ => w.holds (place ≠ 0 && isWordAt text (place - 1)) (isWordAt text place)

namespace Pattern

/-- Where the stretches that fit a pattern begin and end.  A stretch cannot be cut into more parts
    with characters than it has characters, so counts beyond the length of the text say no more
    than that length and one. -/
def spans (text : Array Char) : Pattern → Spans
  | empty => Spans.identity text.size
  | chars set =>
    Spans.ofRows text.size fun i =>
      if text[i]?.any fun c => set.contains c.toNat then Spans.bit (i + 1) else 0
  | assertion a => Spans.ofRows text.size fun i => if a.holds text i then Spans.bit i else 0
  | sequence p q => (p.spans text).compose (q.spans text)
  | choice p q => (p.spans text).union (q.spans text)
  | repeated p least most =>
    let s := p.spans text
    let required := s.power (min least (text.size + 1))
    match most with
    | none => required.compose s.closure
    | some most =>
      let optional := s.union (Spans.identity text.size)
      required.compose (optional.power (min (most - least) (text.size + 1)))
  | group p => p.spans text

/-- Whether a stretch that fits a pattern occurs in a text. -/
def occursIn (p : Pattern) (text : String) : Bool :=
  (p.spans text.toList.toArray).any (· ≠ 0)

end Pattern

end SolarTwin

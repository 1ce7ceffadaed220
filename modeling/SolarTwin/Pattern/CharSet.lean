namespace SolarTwin

/-!
# Sets of characters

A set of characters is kept as the ascending code points at which membership changes, so every set
has one form and can be inverted.

* `CharSet.contains` is the view of a set;
* `CharSet.combine` makes a set of two, from which union, intersection and the differences follow.
-/

/-- A set of characters, as the code points at which membership changes. -/
structure CharSet where
  bounds : List Nat
  deriving DecidableEq

namespace CharSet

/-- The largest code point. -/
def last : Nat := 0x10FFFF

/-- Whether a set has a code point. -/
def contains (s : CharSet) (n : Nat) : Bool :=
  s.bounds.foldl (fun inside bound => inside != decide (bound ≤ n)) false

/-- The set of no character. -/
def empty : CharSet := ⟨[]⟩

/-- The set of all characters. -/
def all : CharSet := ⟨[0]⟩

/-- The set of the code points from one to another. -/
def range (low high : Nat) : CharSet := ⟨[low, high + 1]⟩

/-- The set of one character. -/
def single (c : Char) : CharSet := range c.toNat c.toNat

/-- The set whose members a rule finds from their membership in two sets. -/
def combine (rule : Bool → Bool → Bool) (s t : CharSet) : CharSet :=
  let holds (n : Nat) : Bool := rule (s.contains n) (t.contains n)
  let changes (n : Nat) : Bool := holds n != (n ≠ 0 && holds (n - 1))
  ⟨(((0 :: s.bounds) ++ t.bounds).eraseDups.mergeSort).filter changes⟩

/-- The characters of either set. -/
def union (s t : CharSet) : CharSet := combine (fun a b => a || b) s t

/-- The characters of both sets. -/
def inter (s t : CharSet) : CharSet := combine (fun a b => a && b) s t

/-- The characters of the first set that are not in the second. -/
def diff (s t : CharSet) : CharSet := combine (fun a b => a && !b) s t

/-- The characters of exactly one of two sets. -/
def symmDiff (s t : CharSet) : CharSet := combine (fun a b => a != b) s t

/-- The characters that are not in a set. -/
def complement (s : CharSet) : CharSet := combine (fun a _ => !a) s empty

/-- The set of the characters in several ranges. -/
def ofRanges (ranges : List (Char × Char)) : CharSet :=
  ranges.foldl (fun s (low, high) => s.union (range low.toNat high.toNat)) empty

/-- Whether a set has no character. -/
def isEmpty (s : CharSet) : Bool := s.bounds.isEmpty

/-- Whether all characters of a set are ASCII. -/
def isAscii (s : CharSet) : Bool := s.bounds.all (· ≤ 128) && !s.contains 128

/-- A set with the other case of its ASCII letters. -/
def anyCase (s : CharSet) : CharSet :=
  (List.range 26).foldl
    (fun t i =>
      if s.contains (65 + i) || s.contains (97 + i) then
        (t.union (range (65 + i) (65 + i))).union (range (97 + i) (97 + i))
      else t)
    s

/-- The ranges of a set, from its ascending bounds. -/
def rangesOf : List Nat → List (Nat × Nat)
  | low :: high :: rest => (low, high - 1) :: rangesOf rest
  | [low] => [(low, last)]
  | [] => []

/-- The ranges of a set. -/
def ranges (s : CharSet) : List (Nat × Nat) := rangesOf s.bounds

/-! ### Sets with names -/

/-- The decimal digits. -/
def digits : CharSet := ofRanges [('0', '9')]

/-- The characters of words. -/
def wordChars : CharSet := ofRanges [('0', '9'), ('A', 'Z'), ('_', '_'), ('a', 'z')]

/-- The ASCII white space. -/
def spaces : CharSet := ofRanges [('\t', '\r'), (' ', ' ')]

/-- The sets that classes may name. -/
def named : List (String × CharSet) := [
  ("alnum", ofRanges [('0', '9'), ('A', 'Z'), ('a', 'z')]),
  ("alpha", ofRanges [('A', 'Z'), ('a', 'z')]),
  ("ascii", range 0 127),
  ("blank", ofRanges [('\t', '\t'), (' ', ' ')]),
  ("cntrl", (range 0 31).union (range 127 127)),
  ("digit", digits),
  ("graph", ofRanges [('!', '~')]),
  ("lower", ofRanges [('a', 'z')]),
  ("print", ofRanges [(' ', '~')]),
  ("punct", ofRanges [('!', '/'), (':', '@'), ('[', '_'), (Char.ofNat 96, Char.ofNat 96),
    ('\x7b', '~')]),
  ("space", spaces),
  ("upper", ofRanges [('A', 'Z')]),
  ("word", wordChars),
  ("xdigit", ofRanges [('0', '9'), ('A', 'F'), ('a', 'f')])]

end CharSet

end SolarTwin

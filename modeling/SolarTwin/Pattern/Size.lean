import SolarTwin.Pattern.Basic

namespace SolarTwin

/-!
# The size of patterns

A pattern stands for two automata over bytes, one that reads a text forwards and one that reads it
backwards.  Their sizes grow with every counted repetition, and patterns for which one of them is
too large are not supported.

* `utf8Sequences` splits a range of characters into sequences of byte ranges;
* `Pattern.memory` is the size of an automaton of a pattern, `Pattern.isSmall` compares both sizes
  with the limit.
-/

/-! ### Characters as bytes -/

/-- A range of bytes, or of the six bits that a byte contributes. -/
abbrev ByteRange := Nat × Nat

/-- Puts a range in front of sequences. -/
def startingWith (r : ByteRange) (sequences : List (List ByteRange)) : List (List ByteRange) :=
  sequences.map (r :: ·)

/-- The numbers from `low` to `high` as sequences of one leading range and `n` ranges of six
    bits. -/
def sixBitSequences : Nat → Nat → Nat → List (List ByteRange)
  | 0, low, high => [[(low, high)]]
  | n + 1, low, high =>
    let unit := 1 <<< (6 * (n + 1))
    let first := low / unit
    let final := high / unit
    if first = final then
      startingWith (first, first) (sixBitSequences n (low % unit) (high % unit))
    else
      let head :=
        if low % unit = 0 then []
        else startingWith (first, first) (sixBitSequences n (low % unit) (unit - 1))
      let tail :=
        if high % unit = unit - 1 then []
        else startingWith (final, final) (sixBitSequences n 0 (high % unit))
      let begin := if head.isEmpty then first else first + 1
      let stop := if tail.isEmpty then final + 1 else final
      let middle :=
        if begin < stop then [(begin, stop - 1) :: List.replicate (n + 1) (0, 63)] else []
      head ++ middle ++ tail

/-- The ranges of characters that take up the same number of bytes: their first and last
    characters, the bytes behind the leading one, and what is added to the leading one. -/
def utf8Lengths : List (Nat × Nat × Nat × Nat) :=
  [(0, 0x7F, 0, 0), (0x80, 0x7FF, 1, 0xC0), (0x800, 0xD7FF, 2, 0xE0), (0xE000, 0xFFFF, 2, 0xE0),
    (0x10000, 0x10FFFF, 3, 0xF0)]

/-- The characters from `low` to `high` as sequences of byte ranges. -/
def utf8Sequences (low high : Nat) : List (List ByteRange) :=
  utf8Lengths.flatMap fun (first, final, behind, lead) =>
    let low := max low first
    let high := min high final
    if high < low then []
    else
      (sixBitSequences behind low high).map fun
        | (a, b) :: rest => (a + lead, b + lead) :: rest
        | [] => []

/-- The byte sequences of a set. -/
def CharSet.sequences (s : CharSet) : List (List ByteRange) :=
  s.ranges.flatMap fun (low, high) => utf8Sequences low high

/-! ### Automata -/

/-- The size of a state of an automaton. -/
def stateSize : Nat := 32

/-- The size of a way out of a state that has several of them. -/
def branchSize : Nat := 4

/-- The size of a byte range at a state that has several of them. -/
def rangeSize : Nat := 8

/-- The byte ranges with which sequences begin. -/
def heads (sequences : List (List ByteRange)) : List ByteRange :=
  (sequences.filterMap List.head?).eraseDups

/-- What follows each of the byte ranges with which sequences begin. -/
def tails (sequences : List (List ByteRange)) : List (List (List ByteRange)) :=
  (heads sequences).map fun r => sequences.filterMap fun s =>
    if s.head? = some r then some s.tail else none

/-- The states that read sequences, each as the sequences that it reads. -/
def readers (sequences : List (List ByteRange)) : List (List (List ByteRange)) :=
  let second := tails sequences
  let third := second.flatMap tails
  let fourth := third.flatMap tails
  ((sequences :: second) ++ third ++ fourth).eraseDups.filter fun s => !(heads s).isEmpty

/-- The size of the states that read a character of a set forwards: sequences that end in the same
    way share their last states. -/
def forwardSize (s : CharSet) : Nat :=
  (readers s.sequences).foldl (fun n r => n + stateSize + rangeSize * (heads r).length) stateSize

/-- The size of the states that read a character of a set backwards: sequences that begin in the
    same way share states. -/
def backwardSize (s : CharSet) : Nat :=
  let sequences := s.sequences
  let states := (sequences.flatMap fun q => (List.range q.length).map fun n => q.take (n + 1)).eraseDups
  2 * stateSize + stateSize * states.length + branchSize * sequences.length

/-- The size of the states that read a character of a set. -/
def CharSet.memory (backward : Bool) (s : CharSet) : Nat :=
  match s.sequences with
  | [] => stateSize
  | [bytes] =>
    if bytes.all fun (low, high) => low = high then stateSize * bytes.length
    else if s.isAscii then 2 * stateSize + rangeSize
    else if backward then backwardSize s
    else forwardSize s
  | ranges =>
    if s.isAscii then 2 * stateSize + rangeSize * ranges.length
    else if backward then backwardSize s
    else forwardSize s

namespace Pattern

/-- The size of an automaton of a pattern, which may be a branch of a choice. -/
def memory (backward : Bool) : Bool → Pattern → Nat
  | inChoice, choice p q =>
    (if inChoice then 0 else 2 * stateSize) + p.memory backward true + q.memory backward true
  | inChoice, p =>
    let own :=
      match p with
      | empty | assertion _ => stateSize
      | chars set => set.memory backward
      | sequence p q => p.memory backward false + q.memory backward false
      | choice _ _ => 0
      | group p => (if backward then 0 else 2 * stateSize) + p.memory backward false
      | repeated p least most =>
        let size := p.memory backward false
        let fork := stateSize + 2 * branchSize
        match most with
        | none =>
          if 0 < least then least * size + fork
          else if p.consumes then size + fork
          else size + 2 * fork + stateSize
        | some most =>
          if least = most then least * size
          else (if least = 0 ∧ most ≠ 1 then stateSize else least * size) + stateSize +
            (most - least) * (fork + size)
    (if inChoice then branchSize else 0) + own

/-- The size of what an automaton has besides its pattern. -/
def frameSize : Nat := 208

/-- The largest size of an automaton: ten mebibytes. -/
def sizeLimit : Nat := 10485760

/-- Whether both automata of a pattern keep to the limit. -/
def isSmall (p : Pattern) : Bool :=
  frameSize + p.memory false false ≤ sizeLimit && frameSize + p.memory true false ≤ sizeLimit

end Pattern

end SolarTwin

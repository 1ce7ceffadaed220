import SolarTwin.Pattern.CharSet

namespace SolarTwin

/-!
# Patterns

A pattern describes stretches of text: a character of a set, patterns one after another, one of two
patterns, a pattern some number of times, or nothing at a place that meets a condition.  Which of
several stretches is preferred does not matter here, so patterns do not record it.
-/

/-- A condition on the characters before and after a place, as far as words are concerned. -/
inductive WordPlace where
  | boundary
  | notBoundary
  | start
  | stop
  /-- No word before. -/
  | startHalf
  /-- No word behind. -/
  | stopHalf
  deriving DecidableEq

/-- A condition on a place in a text. -/
inductive Assertion where
  | textStart
  | textStop
  /-- The start of a line; a carriage return may end a line too. -/
  | lineStart (returns : Bool)
  /-- The end of a line. -/
  | lineStop (returns : Bool)
  /-- A place in or between words, either of ASCII characters or of the characters of all
      scripts. -/
  | word (place : WordPlace) (ascii : Bool)
  deriving DecidableEq

/-- A pattern. -/
inductive Pattern where
  | empty
  | chars (set : CharSet)
  | assertion (a : Assertion)
  | sequence (first second : Pattern)
  | choice (first second : Pattern)
  /-- A pattern at least and at most so many times. -/
  | repeated (p : Pattern) (least : Nat) (most : Option Nat)
  /-- A group that can be referred to. -/
  | group (p : Pattern)
  deriving DecidableEq

namespace Pattern

/-- Whether no stretch of a pattern has a character, as its form shows. -/
def isBlank : Pattern → Bool
  | empty | assertion _ => true
  | chars _ => false
  | sequence p q | choice p q => p.isBlank && q.isBlank
  | repeated p _ _ | group p => p.isBlank

/-- Whether every stretch of a pattern has a character, as its form shows. -/
def consumes : Pattern → Bool
  | empty | assertion _ => false
  | chars set => !set.isEmpty
  | sequence p q => p.consumes || q.consumes
  | choice p q => p.consumes && q.consumes
  | repeated p least _ => least ≠ 0 && p.consumes
  | group p => p.consumes

/-- Whether the words in a pattern are words of ASCII characters.  For others the letters of all
    scripts would have to be known, so such patterns are not supported. -/
def isSupported : Pattern → Bool
  | empty | chars _ => true
  | assertion (.word _ ascii) => ascii
  | assertion _ => true
  | sequence p q | choice p q => p.isSupported && q.isSupported
  | repeated p _ _ | group p => p.isSupported

/-- Two patterns one after the other. -/
def andThen : Pattern → Pattern → Pattern
  | empty, q => q
  | p, empty => p
  | p, q => sequence p q

/-- Patterns one after another. -/
def ofSequence (ps : List Pattern) : Pattern := ps.foldr andThen empty

/-- One of several patterns. -/
def ofChoice : List Pattern → Pattern
  | [] => empty
  | [p] => p
  | p :: ps => choice p (ofChoice ps)

/-- A pattern at least and at most so many times.  What has no character need not come twice. -/
def times (p : Pattern) (least : Nat) (most : Option Nat) : Pattern :=
  let (least, most) :=
    if p.isBlank then (min least 1, some (min (most.getD 1) 1)) else (least, most)
  if least = 0 ∧ most = some 0 then empty
  else if least = 1 ∧ most = some 1 then p
  else repeated p least most

end Pattern

end SolarTwin

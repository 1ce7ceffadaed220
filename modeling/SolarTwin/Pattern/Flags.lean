import SolarTwin.Pattern.CharSet
import SolarTwin.Text.Space

namespace SolarTwin.Pattern

/-!
# Flags

Flags change how the rest of a group in a pattern is read.  In a spaced pattern white space and
comments stand for nothing.
-/

/-- How a pattern is read. -/
structure Flags where
  ignoreCase : Bool
  multiLine : Bool
  /-- Whether a dot stands for every character. -/
  dotAll : Bool
  /-- Whether words, digits and cases are those of all scripts. -/
  unicode : Bool
  /-- Whether a carriage return ends a line too. -/
  returns : Bool
  spaced : Bool
  deriving DecidableEq

/-- How a pattern is read in the beginning. -/
def Flags.standard : Flags := ⟨false, false, false, true, false, false⟩

/-- A flag that a pattern may set; which of several stretches is preferred does not matter. -/
inductive Flag where
  | ignoreCase
  | multiLine
  | dotAll
  | swapGreed
  | unicode
  | returns
  | spaced
  deriving DecidableEq

/-- The letters of flags. -/
def Flag.ofChar? : Char → Option Flag
  | 'i' => some ignoreCase
  | 'm' => some multiLine
  | 's' => some dotAll
  | 'U' => some swapGreed
  | 'u' => some unicode
  | 'R' => some returns
  | 'x' => some spaced
  | _ => none

/-- Sets a flag. -/
def Flags.set (f : Flags) (flag : Flag) (on : Bool) : Flags :=
  match flag with
  | .ignoreCase => { f with ignoreCase := on }
  | .multiLine => { f with multiLine := on }
  | .dotAll => { f with dotAll := on }
  | .swapGreed => f
  | .unicode => { f with unicode := on }
  | .returns => { f with returns := on }
  | .spaced => { f with spaced := on }

/-- A flag, or the mark behind which flags are switched off. -/
inductive FlagItem where
  | flag (f : Flag)
  | off
  deriving DecidableEq

/-- The flags in front of a colon or closing parenthesis, each at most once; the mark has to be
    followed by a flag. -/
def readFlags : List Char → List FlagItem → Option (List FlagItem × List Char)
  | [], _ => none
  | c :: rest, found =>
    if c = ':' ∨ c = ')' then
      if found.head? = some .off then none else some (found.reverse, c :: rest)
    else
      let item? := if c = '-' then some FlagItem.off else (Flag.ofChar? c).map FlagItem.flag
      item?.bind fun item => if found.contains item then none else readFlags rest (item :: found)

/-- Sets flags one after another. -/
def Flags.setAll (f : Flags) (on : Bool) : List FlagItem → Flags
  | [] => f
  | .off :: rest => f.setAll false rest
  | .flag flag :: rest => (f.set flag on).setAll on rest

/-! ### White space in spaced patterns -/

/-- A text without the white space and comments in front of it. -/
def skipBlank : (inComment : Bool) → List Char → List Char
  | _, [] => []
  | true, c :: rest => skipBlank (c ≠ '\n') rest
  | false, c :: rest =>
    if Text.isSpace c then skipBlank false rest
    else if c = '#' then skipBlank true rest
    else c :: rest

/-- A text without what stands for nothing in front of it. -/
def Flags.skip (f : Flags) (cs : List Char) : List Char := if f.spaced then skipBlank false cs else cs

/-- The character that decides whether a hyphen makes a range.  Of a comment that begins here only
    the mark is passed over. -/
def Flags.peek (f : Flags) (cs : List Char) : Option Char :=
  if f.spaced then
    match cs.dropWhile Text.isSpace with
    | '#' :: rest => (rest.dropWhile Text.isSpace).head?
    | rest => rest.head?
  else cs.head?

end SolarTwin.Pattern

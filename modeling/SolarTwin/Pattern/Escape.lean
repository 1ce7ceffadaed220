import SolarTwin.Pattern.Basic
import SolarTwin.Pattern.Flags
import SolarTwin.Text.Hex

namespace SolarTwin.Pattern

/-!
# Escapes

What a backslash and the characters behind it stand for.  Classes that need the properties of all
characters are not supported: the letters for digits, white space and words count only where the
pattern is read as ASCII.
-/

/-- What an escape stands for. -/
inductive Escape where
  /-- A character, which may have been given as a byte. -/
  | literal (c : Char) (byte : Bool)
  | set (s : CharSet)
  | assertion (a : Assertion)

/-- The characters with a meaning of their own. -/
def metaChars : List Char := "\\.+*?()|[]\x7b\x7d^$#&-~".toList

/-- Whether a character that is escaped stands for itself. -/
def isEscapable (c : Char) : Bool :=
  metaChars.contains c || (c.toNat < 128 && !c.isAlphanum && c ≠ '<' && c ≠ '>')

/-- The character with a code point. -/
def charOf? (n : Nat) : Option Char := if n.isValidChar then some (Char.ofNat n) else none

/-- So many hexadecimal digits. -/
def fixedHex (f : Flags) : Nat → List Char → Nat → Option (Nat × List Char)
  | 0, cs, value => some (value, cs)
  | _ + 1, [], _ => none
  | n + 1, c :: rest, value =>
    (Hex.value? c).bind fun d => fixedHex f n (f.skip rest) (16 * value + d)

/-- The hexadecimal digits in front of a closing brace, of which there must be some.  The fuel has
    to exceed the length of the text. -/
def bracedHex (f : Flags) : Nat → List Char → Option Nat → Option (Nat × List Char)
  | 0, _, _ => none
  | n + 1, cs, value =>
    match cs with
    | [] => none
    | c :: rest =>
      if c = '\x7d' then value.map fun v => (v, f.skip rest)
      else
        (Hex.value? c).bind fun d =>
          bracedHex f n (f.skip rest) (some (16 * value.getD 0 + d))

/-- A character given by its code point, behind the letter of the escape. -/
def hexEscape (f : Flags) (digits : Nat) (cs : List Char) : Option (Escape × List Char) :=
  match f.skip cs with
  | '\x7b' :: rest =>
    (bracedHex f (rest.length + 1) (f.skip rest) none).bind fun (n, rest) =>
      (charOf? n).map fun c => (.literal c false, rest)
  | cs =>
    (fixedHex f digits cs 0).bind fun (n, rest) =>
      (charOf? n).map fun c => (.literal c (digits = 2), rest)

/-- The names of places at words. -/
def wordPlaces : List (String × WordPlace) :=
  [("start", .start), ("end", .stop), ("start-half", .startHalf), ("end-half", .stopHalf)]

/-- The letters and hyphens ahead.  The fuel has to exceed the length of the text. -/
def placeName (f : Flags) : Nat → List Char → List Char → List Char × List Char
  | n + 1, c :: rest, found =>
    if c.isAlpha ∨ c = '-' then placeName f n (f.skip rest) (c :: found)
    else (found.reverse, c :: rest)
  | _, cs, found => (found.reverse, cs)

/-- The place at a word that is named in braces behind the letter of a word boundary.  Braces that
    begin with something else are a count. -/
def wordEscape (f : Flags) (cs : List Char) : Option (WordPlace × List Char) :=
  match cs with
  | '\x7b' :: rest =>
    let inner := f.skip rest
    match inner with
    | [] => none
    | c :: _ =>
      if c.isAlpha ∨ c = '-' then
        let (name, rest) := placeName f (inner.length + 1) inner []
        match rest with
        | '\x7d' :: rest =>
          (wordPlaces.lookup (String.ofList name)).map fun place => (place, rest)
        | _ => none
      else some (.boundary, cs)
  | _ => some (.boundary, cs)

/-- The characters that single letters stand for. -/
def letterEscape? : Char → Option Char
  | 'a' => some '\x07'
  | 'f' => some '\x0c'
  | 't' => some '\t'
  | 'n' => some '\n'
  | 'r' => some '\r'
  | 'v' => some '\x0b'
  | _ => none

/-- The sets that single letters stand for. -/
def setEscape? : Char → Option CharSet
  | 'd' => some CharSet.digits
  | 's' => some CharSet.spaces
  | 'w' => some CharSet.wordChars
  | _ => none

/-- The places that single letters stand for. -/
def placeEscape? (ascii : Bool) : Char → Option Assertion
  | 'A' => some .textStart
  | 'z' => some .textStop
  | 'B' => some (.word .notBoundary ascii)
  | '<' => some (.word .start ascii)
  | '>' => some (.word .stop ascii)
  | _ => none

/-- The escape behind a backslash. -/
def escape (f : Flags) : List Char → Option (Escape × List Char)
  | [] => none
  | c :: rest =>
    if c = 'x' then hexEscape f 2 rest
    else if c = 'u' then hexEscape f 4 rest
    else if c = 'U' then hexEscape f 8 rest
    else if c = 'b' then
      (wordEscape f rest).map fun (place, rest) => (.assertion (.word place !f.unicode), rest)
    else if isEscapable c then some (.literal c false, rest)
    else if let some d := letterEscape? c then some (.literal d false, rest)
    else if let some a := placeEscape? (!f.unicode) c then some (.assertion a, rest)
    else if let some s := setEscape? c then if f.unicode then none else some (.set s, rest)
    else none

end SolarTwin.Pattern

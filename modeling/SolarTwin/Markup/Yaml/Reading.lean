import SolarTwin.Binary64.Reading
import SolarTwin.Markup.Dialect
import SolarTwin.Markup.Yaml.Node

namespace SolarTwin.Markup.Yaml

/-!
# What YAML nodes mean

The text of a plain scalar decides what it can be: a null, a boolean, an integer with an optional
base, a double.  Quoted scalars are texts.  Every scalar can be read as a text, so a field that
wants one takes whatever was written.
-/

/-! ### Plain texts -/

/-- Whether a text is a null. -/
def isNull (text : String) : Bool := ["null", "Null", "NULL", "~"].contains text

/-- Whether a text is a boolean. -/
def isBool (text : String) : Bool :=
  ["true", "True", "TRUE", "false", "False", "FALSE"].contains text

/-- Whether a text begins with a sign. -/
def isSigned (cs : List Char) : Bool := cs.head?.any fun c => c = '+' || c = '-'

/-- A text without a leading plus sign. -/
def unplussed : List Char → List Char
  | '+' :: cs => cs
  | cs => cs

/-- The value of a digit in a base of at most sixteen. -/
def digitIn? (base : Nat) (c : Char) : Option Nat := (Hex.value? c).filter (· < base)

/-- The number of a non-empty list of digits. -/
def digitsIn? (base : Nat) (cs : List Char) : Option Nat :=
  if cs.isEmpty then none
  else cs.foldl (fun acc c => acc.bind fun n => (digitIn? base c).map (n * base + ·)) (some 0)

/-- The base that a text names in front of its digits, and the digits. -/
def baseOf? : List Char → Option (Nat × List Char)
  | '0' :: 'x' :: cs => some (16, cs)
  | '0' :: 'o' :: cs => some (8, cs)
  | '0' :: 'b' :: cs => some (2, cs)
  | _ => none

/-- Whether a text is a zero followed by further digits, which is no number. -/
def hasLeadingZero (cs : List Char) : Bool :=
  match if isSigned cs then cs.tail else cs with
  | '0' :: rest => !rest.isEmpty && rest.all Char.isDigit
  | _ => false

/-- The natural number that a text is, if it is below a bound. -/
def natural? (bound : Nat) (text : List Char) : Option Nat :=
  let cs := unplussed text
  let based := (baseOf? cs).bind fun (base, digits) => digitsIn? base digits
  match based.filter (· < bound) with
  | some n => some n
  | none =>
    if isSigned cs ∨ hasLeadingZero text then none else (digitsIn? 10 cs).filter (· < bound)

/-- The integer with a minus sign that a text is, if it is not below `-bound`. -/
def negative? (bound : Nat) (text : List Char) : Option Int :=
  match text with
  | '-' :: cs =>
    let based := (baseOf? cs).bind fun (base, digits) => digitsIn? base digits
    let plain := if hasLeadingZero text then none else digitsIn? 10 cs
    ((based.filter (· ≤ bound)).or (plain.filter (· ≤ bound))).map fun n => -(n : Int)
  | _ => none

/-- The double that a text is.  Numbers beyond the doubles are none; infinities and NaN have their
    own spellings. -/
def real? (text : String) : Option Float :=
  let cs := text.toList
  let body := unplussed cs
  if cs.head? = some '+' ∧ isSigned body then none
  else if [".inf", ".Inf", ".INF"].contains (String.ofList body) then some (1.0 / 0.0)
  else if ["-.inf", "-.Inf", "-.INF"].contains text then some (-1.0 / 0.0)
  else if [".nan", ".NaN", ".NAN"].contains text then some (0.0 / 0.0)
  else (Binary64.read? body).filter (·.isFinite)

/-- The integer that a text is, if it has at most 64 bits. -/
def integer? (text : String) : Option Int :=
  match natural? 18446744073709551616 text.toList with
  | some n => some n
  | none => negative? 9223372036854775808 text.toList

/-! ### Nodes -/

/-- The text of a scalar that may be a number or a boolean: a plain one, or a literal block with
    the tag of what is wanted. -/
def untyped? (wanted : Tag) : Node → Option String
  | .scalar _ text .plain => some text
  | .scalar tag text .literal => if tag = some wanted then some text else none
  | _ => none

/-- The name in the tag of a node, if the tag is one of one's own. -/
def ownName? (tag : Option Tag) : Option String := tag.bind Tag.own?

/-- Whether nothing at all is written at a node. -/
def isBlankNode : Node → Bool
  | .scalar _ "" .plain => true
  | _ => false

/-- Whether a tag leaves the type of a plain scalar open: no tag does, and one of one's own whose
    name is no text. -/
def leavesOpen (tag : Option Tag) : Bool := tag.all (·.head? = some Tag.mark)

/-- The integer of a scalar in a place that takes values of several types.  The tag decides if
    there is one, else the text of a plain scalar. -/
def anyInteger? : Node → Option Int
  | .scalar tag text style =>
    if (ownName? tag).isSome then none
    else if tag = some Tag.integer then integer? text
    else if leavesOpen tag ∧ style = .plain ∧ !isNull text ∧ !isBool text then integer? text
    else none
  | _ => none

/-- Whether a scalar stands for a missing value. -/
def isMissing : Node → Bool
  | .scalar none text .plain => text.isEmpty || isNull text
  | .scalar (some tag) text .plain => tag = Tag.null && isNull text
  | _ => false

/-- The choice that a scalar names: its tag if it has one of its own, and then nothing else may be
    written, or its text. -/
def choiceOf? : Node → Option String
  | .scalar tag text style =>
    match ownName? tag with
    | some name =>
      if style = .plain ∧ (text.isEmpty ∨ isNull text) then some name else none
    | none => some text
  | _ => none

/-- The readings of the nodes of a document. -/
def Document.dialect (d : Document) : Dialect Node where
  entries n :=
    match d.resolve n with
    | .mapping _ entries => some entries
    | m => if isBlankNode m then some [] else none
  positional _ := none
  items n :=
    match d.resolve n with
    | .sequence _ items => some items
    | m => if isBlankNode m then some [] else none
  text n :=
    match d.resolve n with
    | .scalar _ text _ => some text
    | _ => none
  natural n := (untyped? Tag.integer (d.resolve n)).bind fun text => natural? 18446744073709551616 text.toList
  integer n := anyInteger? (d.resolve n)
  real n := (untyped? Tag.real (d.resolve n)).bind real?
  choice n := choiceOf? (d.resolve n)
  isAbsent n := isMissing (d.resolve n)

end SolarTwin.Markup.Yaml

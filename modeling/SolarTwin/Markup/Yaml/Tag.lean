namespace SolarTwin.Markup.Yaml

/-!
# Tags

A tag is a sequence of bytes: a percent escape in it may stand for any byte, also for one that is
part of no character.

* `Tag.ofHandle?` puts a tag together from what is written;
* `Tag.integer`, `Tag.real`, `Tag.bool` and `Tag.null` are the standard tags that matter;
* `Tag.own?` is the name in a tag of one's own.
-/

/-- A tag, as its bytes. -/
abbrev Tag := List UInt8

/-- The handles a document knows, each with what it stands for. -/
abbrev Handles := List (List Char × Tag)

namespace Tag

/-- The bytes of a text. -/
def ofText (text : String) : Tag := text.toUTF8.toList

/-- What stands in front of the name of every standard tag. -/
def standard : Tag := ofText "tag:yaml.org,2002:"

/-- The tag of integers. -/
def integer : Tag := standard ++ ofText "int"

/-- The tag of doubles. -/
def real : Tag := standard ++ ofText "float"

/-- The tag of booleans. -/
def bool : Tag := standard ++ ofText "bool"

/-- The tag of null. -/
def null : Tag := standard ++ ofText "null"

/-- The exclamation mark. -/
def mark : UInt8 := 0x21

/-- A tag ends in front of a zero byte. -/
def upToZero (t : Tag) : Tag := t.takeWhile (· ≠ 0)

/-- The tag of a handle and a suffix, if the handle is known or empty. -/
def ofHandle? (handles : Handles) (handle : List Char) (suffix : Tag) : Option Tag :=
  if handle.isEmpty then some suffix.upToZero
  else (handles.lookup handle).map fun stem => stem.upToZero ++ suffix.upToZero

/-- The name behind the exclamation mark of a tag of one's own; it has to be a text. -/
def own? : Tag → Option String
  | [] => none
  | b :: name => if b = mark then String.fromUTF8? ⟨name.toArray⟩ else none

end Tag

/-- The tag handles every document knows. -/
def defaultHandles : Handles := [(['!'], [Tag.mark]), (['!', '!'], Tag.standard)]

end SolarTwin.Markup.Yaml

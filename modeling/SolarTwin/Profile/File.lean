import SolarTwin.Profile.Check
import SolarTwin.Profile.Reading

namespace SolarTwin

/-!
# Profile files

The extension of a file's name says in which language its profile is written.  A file without
extension is taken for YAML; a name that only begins with a dot has no extension.
-/

/-- Why a file could not be read. -/
inductive FileFault where
  | notFound
  | permissionDenied
  | notDirectory
  | isDirectory
  | nameTooLong
  | notUtf8
  | stated (text : String)

/-- The wording of a file fault. -/
def FileFault.message : FileFault → String
  | .notFound => "No such file or directory (os error 2)"
  | .permissionDenied => "Permission denied (os error 13)"
  | .notDirectory => "Not a directory (os error 20)"
  | .isDirectory => "Is a directory (os error 21)"
  | .nameTooLong => "File name too long (os error 36)"
  | .notUtf8 => "stream did not contain valid UTF-8"
  | .stated text => text

namespace Profile

/-- The last name in a path; slashes at the end and steps that stay in place do not count. -/
def fileName? (path : String) : Option String :=
  match (path.splitOn "/").filter (fun part => part ≠ "" ∧ part ≠ ".") |>.getLast? with
  | some name => if name = ".." then none else some name
  | none => none

/-- What follows the last dot of a name, unless that dot is its first character. -/
def extensionOf? (name : String) : Option String :=
  match name.splitOn "." with
  | [] | [_] => none
  | ["", _] => none
  | parts => parts.getLast?

/-- The language of the file at a path. -/
def languageOf (path : String) : Except Error Language :=
  match (fileName? path).bind extensionOf? with
  | none | some "yaml" | some "yml" => .ok .yaml
  | some "json" => .ok .json
  | some other => .error (.configuration (.extension other))

/-- The text of a file's content. -/
def textOf (content : Except FileFault ByteArray) : Except FileFault String :=
  content.bind fun bytes =>
    match String.fromUTF8? bytes with
    | some text => .ok text
    | none => .error .notUtf8

/-- The profile in the file at a path, given what reading the file gives. -/
def ofFile (path : String) (content : Except FileFault ByteArray) : Except Error Profile :=
  match textOf content with
  | .error fault => .error (.configuration (.unreadable path fault.message))
  | .ok text => (languageOf path).bind fun language => read language text

/-- The profile in the file at a path, if it also passes the check. -/
def load (path : String) (content : Except FileFault ByteArray) : Except Error Profile :=
  (ofFile path content).bind fun p => p.check.map fun _ => p

end Profile

end SolarTwin

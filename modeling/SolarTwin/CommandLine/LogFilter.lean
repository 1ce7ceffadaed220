import SolarTwin.Journal
import SolarTwin.Pattern.Matching
import SolarTwin.Pattern.Reading

namespace SolarTwin.CommandLine

/-!
# Log filters

A filter is written as directives separated by commas: a level for all lines, or the beginning of a
target with a level behind an equals sign.  A target without level lets every line pass.  Of the
directives that fit a target the one with the longest name decides; a filter without directives
lets errors pass.  Behind a slash stands a pattern that must occur in a line; what cannot be read as
a pattern asks for nothing.
-/

/-- How far lines of some targets may pass: lines of a rank above the limit do not. -/
structure Directive where
  /-- What the targets begin with; none for all targets. -/
  target : Option String
  limit : Nat
  deriving DecidableEq

/-- Which lines are printed. -/
structure LogFilter where
  directives : List Directive
  wanted : Option Pattern
  deriving DecidableEq

/-- The level names of a filter with their limits. -/
def limits : List (String × Nat) :=
  [("off", 0), ("error", 1), ("warn", 2), ("info", 3), ("debug", 4), ("trace", 5)]

/-- The limit that lets everything pass. -/
def noLimit : Nat := 5

/-- The limit of a level name, in ASCII letters of any case. -/
def limit? (text : String) : Option Nat := limits.lookup (text.map Char.toLower)

/-- The directive written by a text, if it is one. -/
def Directive.ofText? (text : String) : Option Directive :=
  match text.splitOn "=" with
  | [name] =>
    match limit? name with
    | some limit => some ⟨none, limit⟩
    | none => some ⟨some name, noLimit⟩
  | [name, level] =>
    let level := Text.trimmed level
    if level.isEmpty then some ⟨some name, noLimit⟩
    else (limit? level).map fun limit => ⟨some name, limit⟩
  | _ => none

/-- Whether a directive is about a target. -/
def Directive.fits (d : Directive) (target : String) : Bool :=
  d.target.all fun name => name.toList.isPrefixOf target.toList

/-- How closely a directive is about its targets. -/
def Directive.weight (d : Directive) : Nat := d.target.elim 0 String.utf8ByteSize

namespace LogFilter

/-- Adds a directive; one with the same name gives way to it. -/
def insert (ds : List Directive) (d : Directive) : List Directive :=
  if ds.any (·.target == d.target) then
    ds.map fun old => if old.target = d.target then d else old
  else ds ++ [d]

/-- The filter written by a text.  Directives that cannot be read are passed over, and a text with
    two slashes says nothing at all. -/
def ofText (text : String) : LogFilter :=
  let read (part : String) : List Directive :=
    ((part.splitOn ",").map Text.trimmed).filter (· ≠ "") |>.filterMap Directive.ofText?
      |>.foldl insert []
  match text.splitOn "/" with
  | [part] => ⟨read part, none⟩
  | [part, wanted] => ⟨read part, Pattern.ofText? wanted⟩
  | _ => ⟨[], none⟩

/-- The limit for the lines of a target. -/
def limitFor (f : LogFilter) (target : String) : Nat :=
  if f.directives.isEmpty then Level.error.rank
  else
    (f.directives.foldl (fun best d =>
      if d.fits target ∧ best.all (fun b : Directive => b.weight ≤ d.weight) then some d else best)
      none).elim 0 (·.limit)

/-- Whether a line of a target is printed. -/
def passes (f : LogFilter) (target : String) (line : Line) : Bool :=
  line.level.rank ≤ f.limitFor target && f.wanted.all (·.occursIn line.text)

end LogFilter

end SolarTwin.CommandLine

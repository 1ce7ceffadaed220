namespace SolarTwin.Markup

/-!
# Readings of a document

A document language offers several readings of its nodes: a node may be read as text, as a number,
as a list, as a record of named fields.  A `Dialect` collects the readings of one language, so that
what is decoded from documents is written once.

* `Dialect.record d fields n` finds the named fields of a record, each at most once;
* `Fields.required` and `Fields.optional` read one field of it.
-/

/-- The readings of the nodes of one document language; a reading that a node does not have is
    `none`. -/
structure Dialect (ν : Type) where
  /-- The keys and values of a record. -/
  entries : ν → Option (List (ν × ν))
  /-- The values of a record written without keys, in the order of its fields. -/
  positional : ν → Option (List ν)
  /-- The elements of a list. -/
  items : ν → Option (List ν)
  /-- A text. -/
  text : ν → Option String
  /-- A natural number of at most 64 bits. -/
  natural : ν → Option Nat
  /-- An integer of at most 64 bits, for a place that takes either sign. -/
  integer : ν → Option Int
  /-- A double. -/
  real : ν → Option Float
  /-- The name of one of several choices. -/
  choice : ν → Option String
  /-- Whether the node stands for a missing value where a value may be missing. -/
  isAbsent : ν → Bool

/-- The nodes found for the fields of a record. -/
abbrev Fields (ν : Type) := String → Option ν

namespace Dialect

variable {ν : Type}

/-- The fields of a record among its entries: every key must be a text, and a known key must not
    come twice.  Unknown keys are passed over. -/
def keyed (d : Dialect ν) (fields : List String) :
    List (ν × ν) → Fields ν → Option (Fields ν)
  | [], found => some found
  | (k, v) :: rest, found =>
    match d.text k with
    | none => none
    | some key =>
      if fields.contains key then
        if (found key).isSome then none
        else d.keyed fields rest fun name => if name = key then some v else found name
      else d.keyed fields rest found

/-- The fields of a record whose values come in the order of the fields; there must not be more of
    them than fields. -/
def inOrder (fields : List String) (values : List ν) : Option (Fields ν) :=
  if fields.length < values.length then none
  else some fun name => (fields.zip values).lookup name

/-- The fields of a record. -/
def record (d : Dialect ν) (fields : List String) (n : ν) : Option (Fields ν) :=
  match d.entries n with
  | some entries => d.keyed fields entries fun _ => none
  | none => (d.positional n).bind (inOrder fields)

/-- A natural number below a bound. -/
def below (d : Dialect ν) (bound : Nat) (n : ν) : Option Nat :=
  (d.natural n).filter (· < bound)

/-- A list of things that are read in the same way. -/
def list {α : Type} (d : Dialect ν) (read : ν → Option α) (n : ν) : Option (List α) :=
  (d.items n).bind (·.mapM read)

end Dialect

namespace Fields

variable {ν α : Type}

/-- A field that must be there. -/
def required (f : Fields ν) (name : String) (read : ν → Option α) : Option α :=
  (f name).bind read

/-- A field that may be missing. -/
def optional (f : Fields ν) (name : String) (read : ν → Option α) (default : α) : Option α :=
  match f name with
  | none => some default
  | some n => read n

end Fields

end SolarTwin.Markup

import SolarTwin.Markup.Yaml.Node

namespace SolarTwin.Markup.Yaml

/-!
# Following aliases

A node behind an alias is read again wherever the alias stands, so a short document can stand for a
very large one.  A document is therefore read only if the aliases that are followed on the way are
not too many for its size.

* `Shape` says what of a document is looked at;
* `Document.follow?` counts the aliases on the way;
* `Document.isModest` says whether they are few enough.
-/

/-- What of a node is looked at. -/
inductive Shape where
  /-- The node itself. -/
  | value
  /-- The elements of a list. -/
  | list (element : Shape)
  /-- The keys of a record, and the values behind the known ones. -/
  | record (fields : List String) (field : String → Shape)

mutual

/-- A count with the size of a node added: a collection has a start and an end. -/
def Node.addSize : Node → Nat → Nat
  | .scalar .., n => n + 1
  | .alias _, n => n + 1
  | .sequence _ items, n => addSizes items (n + 2)
  | .mapping _ entries, n => addEntrySizes entries (n + 2)

/-- A count with the sizes of elements added. -/
def addSizes : List Node → Nat → Nat
  | [], n => n
  | item :: rest, n => addSizes rest (item.addSize n)

/-- A count with the sizes of keys and values added. -/
def addEntrySizes : List (Node × Node) → Nat → Nat
  | [], n => n
  | (key, value) :: rest, n => addEntrySizes rest (value.addSize (key.addSize n))

end

/-- The size of a document. -/
def Document.size (d : Document) : Nat := d.root.addSize 0

/-- What is left of a number of aliases when a node is come to. -/
def Node.spend : Node → Nat → Option Nat
  | .alias _, 0 => none
  | .alias _, n + 1 => some n
  | _, n => some n

/-- What is left of a number of aliases when a node has been looked at, if they are enough. -/
def Document.follow? (d : Document) : Shape → Node → Nat → Option Nat
  | .value, node, n => node.spend n
  | .list element, node, n =>
    (node.spend n).bind fun n =>
      match d.resolve node with
      | .sequence _ items => items.foldlM (fun n item => d.follow? element item n) n
      | _ => some n
  | .record fields field, node, n =>
    (node.spend n).bind fun n =>
      match d.resolve node with
      | .mapping _ entries =>
        entries.foldlM
          (fun n (key, value) =>
            (key.spend n).bind fun n =>
              match d.resolve key with
              | .scalar _ name _ =>
                if fields.contains name then d.follow? (field name) value n else some n
              | _ => some n)
          n
      | _ => some n

/-- Whether a document can be read with at most a hundred aliases for every unit of its size. -/
def Document.isModest (d : Document) (shape : Shape) : Bool :=
  (d.follow? shape d.root (100 * d.size)).isSome

end SolarTwin.Markup.Yaml

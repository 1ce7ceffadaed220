import SolarTwin.Markup.Yaml.Token

namespace SolarTwin.Markup.Yaml

/-!
# Nodes and documents

The tokens of a stream form a tree of scalars, sequences and mappings.  An alias names an earlier
node; it stays in the tree as a number, and the document keeps the node that every number stands
for, so trees are finite also where an alias lies inside its own node.

* `Node.ofTokens?` forms one node, `Document.ofText?` the only document of a stream.
-/

/-- A node of a document. -/
inductive Node where
  | scalar (tag : Option Tag) (text : String) (style : Style)
  | sequence (tag : Option Tag) (items : List Node)
  | mapping (tag : Option Tag) (entries : List (Node × Node))
  | alias (number : Nat)

/-- The scalar that stands where nothing is written. -/
def Node.empty : Node := .scalar none "" .plain

/-- A document: its root and what its aliases stand for. -/
structure Document where
  root : Node
  anchors : List (Nat × Node)

/-- The node an alias stands for; other nodes stand for themselves. -/
def Document.resolve (d : Document) : Node → Node
  | .alias number => (d.anchors.lookup number).getD Node.empty
  | n => n

/-! ### Forming nodes -/

/-- The tokens ahead and the anchors behind.  An anchor gets the number of names known before it,
    so a name that comes again shares its number with the next new name. -/
structure Reader where
  tokens : List Token
  handles : Handles
  /-- The number of every anchored name. -/
  names : List (List Char × Nat)
  /-- How many different names there are. -/
  known : Nat
  /-- How many anchored nodes have begun. -/
  begun : Nat
  /-- For every number the anchored node that last took it, counted from the start. -/
  owners : List (Nat × Nat)
  /-- The finished anchored nodes. -/
  nodes : List (Nat × Node)

namespace Reader

/-- The token ahead. -/
def head (r : Reader) : Token := r.tokens.headD .streamEnd

/-- The reader past one token. -/
def skip (r : Reader) : Reader := { r with tokens := r.tokens.tail }

/-- Takes note of an anchored node that begins; the result is its place in the count. -/
def anchor (r : Reader) (name : List Char) : Nat × Reader :=
  (r.begun,
    { r with
      names := (name, r.known) :: r.names
      known := if (r.names.lookup name).isSome then r.known else r.known + 1
      begun := r.begun + 1
      owners := (r.known, r.begun) :: r.owners })

/-- Takes note of an anchored node that is finished. -/
def finish (r : Reader) (place : Option Nat) (n : Node) : Node × Reader :=
  match place with
  | some p => (n, { r with nodes := (p, n) :: r.nodes })
  | none => (n, r)

/-- What the numbers stand for. -/
def anchors (r : Reader) : List (Nat × Node) :=
  r.owners.filterMap fun (number, place) => (r.nodes.lookup place).map fun n => (number, n)

/-- The name and the tag in front of a node, in either order. -/
structure Properties where
  name : Option (List Char)
  tag : Option (List Char × Tag)

/-- Reads the properties of a node. -/
def properties (r : Reader) : Properties × Reader :=
  match r.tokens with
  | .anchor name :: .tag handle suffix :: rest =>
    (⟨some name, some (handle, suffix)⟩, { r with tokens := rest })
  | .tag handle suffix :: .anchor name :: rest =>
    (⟨some name, some (handle, suffix)⟩, { r with tokens := rest })
  | .anchor name :: rest => (⟨some name, none⟩, { r with tokens := rest })
  | .tag handle suffix :: rest => (⟨none, some (handle, suffix)⟩, { r with tokens := rest })
  | _ => (⟨none, none⟩, r)

/-- Whether an element or value of a block is missing in front of a token. -/
def endsBlockItem : Token → Bool
  | .key | .value | .blockEnd => true
  | _ => false

/-- Whether an element of a block sequence is missing in front of a token. -/
def endsBlockEntry : Token → Bool
  | .blockEntry | .blockEnd => true
  | _ => false

/-- Whether a key or value of a flow mapping is missing in front of a token. -/
def endsFlowItem : Token → Bool
  | .flowEntry | .flowMappingEnd => true
  | _ => false

/-- Whether a key or value of a pair inside a flow sequence is missing in front of a token. -/
def endsFlowPair : Token → Bool
  | .flowEntry | .flowSequenceEnd => true
  | _ => false

/-- Where a node stands, which decides the collections it may be. -/
inductive Place where
  | flow
  | block
  /-- A value of a block mapping, which may be a sequence without indentation of its own. -/
  | blockValue
  deriving DecidableEq

mutual

/-- A node.  The number bounds the depth and breadth still allowed. -/
def node : Nat → Place → Reader → Option (Node × Reader)
  | 0, _, _ => none
  | n + 1, place, r =>
    match r.head with
    | .alias name => (r.names.lookup name).map fun number => (.alias number, r.skip)
    | _ =>
      let (props, r) := r.properties
      let tag? := props.tag.map fun (handle, suffix) => Tag.ofHandle? r.handles handle suffix
      match tag? with
      | some none => none
      | _ =>
        let tag := tag?.join
        let (at?, r) :=
          match props.name with
          | some name => let (p, r) := r.anchor name; (some p, r)
          | none => (none, r)
        let found : Option (Node × Reader) :=
          match r.head with
          | .scalar text style =>
            some (.scalar (tag) (String.ofList text) style, r.skip)
          | .flowSequenceStart =>
            (flowItems n true r.skip []).map fun (items, r) => (.sequence tag items, r)
          | .flowMappingStart =>
            (flowEntries n true r.skip []).map fun (entries, r) => (.mapping tag entries, r)
          | t =>
            if t = .blockSequenceStart ∧ place ≠ .flow then
              (blockItems n r.skip []).map fun (items, r) => (.sequence tag items, r)
            else if t = .blockMappingStart ∧ place ≠ .flow then
              (blockEntries n r.skip []).map fun (entries, r) => (.mapping tag entries, r)
            else if t = .blockEntry ∧ place = .blockValue then
              (indentlessItems n r []).map fun (items, r) => (.sequence tag items, r)
            else if props.name.isSome ∨ props.tag.isSome then some (.scalar tag "" .plain, r)
            else none
        found.map fun (made, r) => r.finish at? made

/-- The elements of a block sequence up to its end. -/
def blockItems : Nat → Reader → List Node → Option (List Node × Reader)
  | 0, _, _ => none
  | n + 1, r, found =>
    match r.head with
    | .blockEntry =>
      let r := r.skip
      if endsBlockEntry r.head then blockItems n r (Node.empty :: found)
      else (node n .block r).bind fun (item, r) => blockItems n r (item :: found)
    | .blockEnd => some (found.reverse, r.skip)
    | _ => none

/-- The elements of a sequence that has no indentation of its own. -/
def indentlessItems : Nat → Reader → List Node → Option (List Node × Reader)
  | 0, _, _ => none
  | n + 1, r, found =>
    match r.head with
    | .blockEntry =>
      let r := r.skip
      if endsBlockEntry r.head || endsBlockItem r.head then
        indentlessItems n r (Node.empty :: found)
      else (node n .block r).bind fun (item, r) => indentlessItems n r (item :: found)
    | _ => some (found.reverse, r)

/-- The entries of a block mapping up to its end. -/
def blockEntries : Nat → Reader → List (Node × Node) → Option (List (Node × Node) × Reader)
  | 0, _, _ => none
  | n + 1, r, found =>
    match r.head with
    | .key =>
      (item n endsBlockItem .blockValue r.skip).bind fun (key, r) =>
        match r.head with
        | .value =>
          (item n endsBlockItem .blockValue r.skip).bind fun (value, r) =>
            blockEntries n r ((key, value) :: found)
        | _ => blockEntries n r ((key, Node.empty) :: found)
    | .blockEnd => some (found.reverse, r.skip)
    | _ => none

/-- A node, or the empty scalar in front of a token that ends the place it could take. -/
def item : Nat → (Token → Bool) → Place → Reader → Option (Node × Reader)
  | 0, _, _, _ => none
  | n + 1, ends, place, r =>
    if ends r.head then some (Node.empty, r) else node n place r

/-- The elements of a flow sequence; a key makes the element a mapping of one pair. -/
def flowItems : Nat → Bool → Reader → List Node → Option (List Node × Reader)
  | 0, _, _, _ => none
  | n + 1, first, r, found =>
    if r.head = .flowSequenceEnd then some (found.reverse, r.skip)
    else if !first ∧ r.head ≠ .flowEntry then none
    else
      let r := if first then r else r.skip
      if r.head = .key then
        (flowPair n r.skip).bind fun (pair, r) =>
          flowItems n false r (.mapping none [pair] :: found)
      else if r.head = .flowSequenceEnd then some (found.reverse, r.skip)
      else (node n .flow r).bind fun (item, r) => flowItems n false r (item :: found)

/-- The pair behind a key in a flow sequence.  Where the key is missing, the token ahead is passed
    over. -/
def flowPair : Nat → Reader → Option ((Node × Node) × Reader)
  | 0, _ => none
  | n + 1, r =>
    let key? : Option (Node × Reader) :=
      if r.head = .value || endsFlowPair r.head then some (Node.empty, r.skip)
      else node n .flow r
    key?.bind fun (key, r) =>
      if r.head = .value then
        (item n endsFlowPair .flow r.skip).map fun (value, r) => ((key, value), r)
      else some ((key, Node.empty), r)

/-- The entries of a flow mapping; a node without key mark has no value. -/
def flowEntries : Nat → Bool → Reader → List (Node × Node) →
    Option (List (Node × Node) × Reader)
  | 0, _, _, _ => none
  | n + 1, first, r, found =>
    if r.head = .flowMappingEnd then some (found.reverse, r.skip)
    else if !first ∧ r.head ≠ .flowEntry then none
    else
      let r := if first then r else r.skip
      if r.head = .key then
        (item n (fun t => t = .value || endsFlowItem t) .flow r.skip).bind fun (key, r) =>
          if r.head = .value then
            (item n endsFlowItem .flow r.skip).bind fun (value, r) =>
              flowEntries n false r ((key, value) :: found)
          else flowEntries n false r ((key, Node.empty) :: found)
      else if r.head = .flowMappingEnd then some (found.reverse, r.skip)
      else
        (node n .flow r).bind fun (key, r) =>
          flowEntries n false r ((key, Node.empty) :: found)

end

/-! ### Documents -/

/-- Reads the directives in front of a document: at most one version, which must be 1.1 or 1.2,
    and every tag handle at most once. -/
def directives : List Token → Bool → Handles → Option (Handles × List Token)
  | .versionDirective major minor :: rest, versioned, handles =>
    if versioned ∨ major ≠ 1 ∨ (minor ≠ 1 ∧ minor ≠ 2) then none
    else directives rest true handles
  | .tagDirective handle stem :: rest, versioned, handles =>
    if (handles.lookup handle).isSome then none
    else directives rest versioned ((handle, stem) :: handles)
  | rest, _, handles => some (handles, rest)

/-- Whether a token ends a document without content. -/
def endsDocument : Token → Bool
  | .versionDirective .. | .tagDirective .. | .documentStart | .documentEnd | .streamEnd => true
  | _ => false

/-- The root of the document that begins with the tokens. -/
def document (fuel : Nat) (tokens : List Token) : Option (Node × Reader) := do
  let (own, rest) ← directives tokens false []
  let r : Reader := ⟨rest, own ++ defaultHandles, [], 0, 0, [], []⟩
  if r.head = .documentStart then item fuel endsDocument .block r.skip
  else if own.isEmpty ∧ rest.length = tokens.length then node fuel .block r
  else none

end Reader

/-- The only document of a text; none if there is no document or a second one. -/
def Document.ofText? (text : String) : Option Document := do
  let tokens ← Token.ofText? text
  if tokens.head? = some .streamEnd then none
  else
    let (root, r) ← Reader.document (4 * tokens.length + 16) tokens
    let rest := r.tokens.dropWhile (· = .documentEnd)
    if rest.head? = some .streamEnd then some ⟨root, r.anchors⟩ else none

end SolarTwin.Markup.Yaml

import SolarTwin.Markup.Yaml.Scalar
import SolarTwin.Markup.Yaml.Tag

namespace SolarTwin.Markup.Yaml

/-!
# Tokens

A stream is cut into tokens: scalars, the marks of anchors and tags, flow indicators, and the
starts and ends of block collections, which follow from the indentation.  A key on one line is
recognised only by the colon behind it; its tokens are then put in front of what was already cut
off.  `Token.ofText?` cuts a whole stream.
-/

/-- A token of a stream. -/
inductive Token where
  | versionDirective (major minor : Nat)
  | tagDirective (handle : List Char) (stem : Tag)
  | documentStart
  | documentEnd
  | blockSequenceStart
  | blockMappingStart
  | blockEnd
  | flowSequenceStart
  | flowSequenceEnd
  | flowMappingStart
  | flowMappingEnd
  | flowEntry
  | blockEntry
  | key
  | value
  | alias (name : List Char)
  | anchor (name : List Char)
  | tag (handle : List Char) (suffix : Tag)
  | scalar (text : List Char) (style : Style)
  | streamEnd
  deriving DecidableEq

/-- A place where a key on one line may have begun. -/
structure PossibleKey where
  /-- Whether nothing but a key is allowed there. -/
  required : Bool
  /-- How many tokens come before it. -/
  position : Nat
  index : Nat
  line : Nat
  column : Nat

/-- A stream that is being cut. -/
structure Scanner where
  cursor : Cursor
  tokens : Array Token
  /-- How many flow collections are open. -/
  flow : Nat
  /-- The column of the innermost block collection, or -1. -/
  indent : Int
  outer : List Int
  keyAllowed : Bool
  /-- The possible key of every open flow collection and of the block around them, innermost
      first. -/
  keys : List (Option PossibleKey)

namespace Scanner

/-- The start of a stream. -/
def start (cs : List Char) : Scanner := ⟨Cursor.start cs, #[], 0, -1, [], true, [none]⟩

/-- Adds a token. -/
def push (s : Scanner) (t : Token) : Scanner := { s with tokens := s.tokens.push t }

/-- The scanner at another place. -/
def atCursor (s : Scanner) (c : Cursor) : Scanner := { s with cursor := c }

/-- The scanner with keys on one line allowed or not at the next token. -/
def allowKey (s : Scanner) (allowed : Bool) : Scanner := { s with keyAllowed := allowed }

/-! ### Keys on one line -/

/-- Gives up possible keys that reach into another line or are too long; a required one may not be
    given up. -/
def dropStaleKeys (s : Scanner) : Option Scanner :=
  let isStale (k : PossibleKey) : Bool :=
    k.line < s.cursor.line || k.index + 1024 < s.cursor.index
  if s.keys.any (·.any fun k => isStale k && k.required) then none
  else some { s with keys := s.keys.map (·.filter (!isStale ·)) }

/-- Gives up the innermost possible key, which must not be required. -/
def removeKey (s : Scanner) : Option Scanner :=
  match s.keys with
  | key :: rest => if key.any (·.required) then none else some { s with keys := none :: rest }
  | [] => some s

/-- Notes that a key may begin here. -/
def saveKey (s : Scanner) : Option Scanner :=
  if s.keyAllowed then
    let c := s.cursor
    let required := s.flow = 0 ∧ s.indent = c.column
    s.removeKey.map fun s =>
      { s with keys := some ⟨required, s.tokens.size, c.index, c.line, c.column⟩ :: s.keys.tail }
  else some s

/-! ### Indentation -/

/-- Opens a block collection at a column right of the current one; its start is put at a
    position. -/
def openBlock (s : Scanner) (column : Nat) (position : Nat) (t : Token) : Scanner :=
  if s.flow = 0 ∧ s.indent < column then
    { s with
      tokens := s.tokens.insertIdxIfInBounds position t
      indent := column
      outer := s.indent :: s.outer }
  else s

/-- Closes the block collections right of a column, given those around the innermost one. -/
def closeBlocks (s : Scanner) (column : Int) : List Int → Scanner
  | [] => s
  | i :: outer =>
    if s.flow = 0 ∧ column < s.indent then
      closeBlocks { s with tokens := s.tokens.push .blockEnd, indent := i, outer := outer }
        column outer
    else s

/-- Closes the block collections right of a column. -/
def unroll (s : Scanner) (column : Int) : Scanner := s.closeBlocks column s.outer

/-! ### White space between tokens -/

/-- Past white space and comments.  In a block a line break makes a key possible again, and tabs
    may not stand where a key may begin. -/
def skipSpace : Nat → Scanner → Scanner
  | 0, s => s
  | n + 1, s =>
    let c := s.cursor
    let c := if c.column = 0 ∧ c.rest.head?.any (·.toNat = 0xFEFF) then c.skip 1 else c
    let tabs := s.flow ≠ 0 ∨ !s.keyAllowed
    let c := (c.span fun d => d = ' ' || (tabs && d = '\t')).2
    let c := c.skipComment
    if c.rest.head?.any isBreak then
      skipSpace n { s with cursor := c.skipLine, keyAllowed := s.keyAllowed || s.flow = 0 }
    else s.atCursor c

/-! ### Directives and tags -/

/-- A number of at most nine digits. -/
def versionNumber (c : Cursor) : Option (Nat × Cursor) :=
  let (digits, c) := c.span Char.isDigit
  if digits.isEmpty ∨ 9 < digits.length then none
  else some (digits.foldl (fun n d => 10 * n + (d.toNat - 48)) 0, c)

/-- The handle of a tag: an exclamation mark, or a word between two of them.  In a tag that is not
    a directive the second mark may be missing. -/
def tagHandle (directive : Bool) (c : Cursor) : Option (List Char × Cursor) :=
  match c.rest with
  | '!' :: _ =>
    let (word, c) := (c.skip 1).span isWord
    match c.rest with
    | '!' :: _ => some ('!' :: word ++ ['!'], c.skip 1)
    | _ => if directive ∧ !word.isEmpty then none else some ('!' :: word, c)
  | _ => none

/-- Whether a character may stand in a tag. -/
def isTagChar (verbatim : Bool) (c : Char) : Bool :=
  isWord c || ";/?:@&=+$.!~*'()".toList.contains c || (verbatim && ",[]".toList.contains c)

/-- How many bytes follow the first byte of an escaped character. -/
def escapedTail? (b : UInt8) : Option Nat :=
  if b < 0x80 then some 0
  else if 0xC0 ≤ b ∧ b < 0xE0 then some 1
  else if 0xE0 ≤ b ∧ b < 0xF0 then some 2
  else if 0xF0 ≤ b ∧ b < 0xF8 then some 3
  else none

/-- A byte written as a percent sign and two hexadecimal digits. -/
def escapedByte? : List Char → Option UInt8
  | '%' :: a :: b :: _ => (hexNumber? 2 [a, b]).map UInt8.ofNat
  | _ => none

/-- The bytes of a tag, last one first, with `pending` bytes of an escaped character still to
    come. -/
def tagBytes (verbatim : Bool) : Nat → Nat → Cursor → Tag → Option (Tag × Cursor)
  | 0, _, _, _ => none
  | n + 1, pending, c, found =>
    let atEscape := c.rest.head? = some '%'
    if atEscape ∨ pending ≠ 0 then
      match escapedByte? c.rest with
      | none => none
      | some b =>
        if pending = 0 then
          (escapedTail? b).bind fun tail => tagBytes verbatim n tail (c.skip 3) (b :: found)
        else if 0x80 ≤ b ∧ b < 0xC0 then tagBytes verbatim n (pending - 1) (c.skip 3) (b :: found)
        else none
    else
      match c.rest with
      | d :: _ =>
        if isTagChar verbatim d then
          tagBytes verbatim n 0 (c.skip 1) (UInt8.ofNat d.toNat :: found)
        else some (found, c)
      | [] => some (found, c)

/-- The text of a tag behind a handle of which all but the exclamation mark belongs to it; a tag
    without handle must have a character.  The fuel has to exceed the length of the text ahead. -/
def tagText (verbatim : Bool) (head : List Char) (fuel : Nat) (c : Cursor) :
    Option (Tag × Cursor) :=
  match tagBytes verbatim fuel 0 c [] with
  | none => none
  | some (found, c) =>
    if head.isEmpty ∧ found.isEmpty then none
    else some (Tag.ofText (String.ofList head.tail) ++ found.reverse, c)

/-- A tag. -/
def tagToken (flow : Bool) (fuel : Nat) (c : Cursor) : Option (Token × Cursor) := do
  let (handle, suffix, c) ←
    match c.rest with
    | '!' :: '<' :: _ => do
      let (suffix, c) ← tagText true [] fuel (c.skip 2)
      if c.rest.head? = some '>' then some ([], suffix, c.skip 1) else none
    | _ => do
      let (handle, c) ← tagHandle false c
      if 1 < handle.length ∧ handle.getLast? = some '!' then
        let (suffix, c) ← tagText false [] fuel c
        some (handle, suffix, c)
      else
        let (suffix, c) ← tagText false handle fuel c
        if suffix.upToZero.isEmpty then some ([], [Tag.mark], c) else some (['!'], suffix, c)
  if endsWord c.rest ∨ (flow ∧ c.rest.head? = some ',') then some (.tag handle suffix, c) else none

/-- The name behind the mark of an anchor or alias. -/
def anchorName (c : Cursor) : Option (List Char × Cursor) :=
  let (name, c) := (c.skip 1).span isWord
  let ended := endsWord c.rest || c.rest.head?.any ("?:,]\x7d%@`".toList.contains ·)
  if name.isEmpty ∨ !ended then none else some (name, c)

/-- A directive, up to the end of its line. -/
def directiveToken (fuel : Nat) (c : Cursor) : Option (Token × Cursor) := do
  let (name, c) := (c.skip 1).span isWord
  if name.isEmpty ∨ !endsWord c.rest then none
  else
    let (token, c) ←
      if name = "YAML".toList then do
        let (major, c) ← versionNumber c.skipBlanks
        if c.rest.head? = some '.' then
          let (minor, c) ← versionNumber (c.skip 1)
          some (Token.versionDirective major minor, c)
        else none
      else if name = "TAG".toList then do
        let (handle, c) ← tagHandle true c.skipBlanks
        if c.rest.head?.any isBlank then
          let (stem, c) ← tagText true [] fuel c.skipBlanks
          if endsWord c.rest then some (Token.tagDirective handle stem, c) else none
        else none
      else none
    return (token, ← c.finishLine?)

/-! ### Fetching tokens -/

/-- Adds the indicator here and goes past it. -/
def indicator (s : Scanner) (t : Token) (width : Nat) : Scanner :=
  (s.push t).atCursor (s.cursor.skip width)

/-- A directive or the mark of a document ends every block collection. -/
def closeAll (s : Scanner) : Option Scanner := (s.unroll (-1)).removeKey.map (·.allowKey false)

/-- The start of a flow collection, which may be a key itself. -/
def fetchFlowStart (s : Scanner) (t : Token) : Option Scanner := do
  let s ← s.saveKey
  return ({ s with flow := s.flow + 1, keys := none :: s.keys }.allowKey true).indicator t 1

/-- The end of a flow collection. -/
def fetchFlowEnd (s : Scanner) (t : Token) : Option Scanner := do
  let s ← s.removeKey
  let s := if s.flow = 0 then s else { s with flow := s.flow - 1, keys := s.keys.tail }
  return (s.allowKey false).indicator t 1

/-- Opens a block collection for the indicator here; in a block, that needs a place where a key may
    begin. -/
def openHere (s : Scanner) (t : Token) : Option Scanner :=
  if s.flow ≠ 0 then some s
  else if s.keyAllowed then some (s.openBlock s.cursor.column s.tokens.size t)
  else none

/-- A dash in front of an element of a block sequence. -/
def fetchBlockEntry (s : Scanner) : Option Scanner := do
  let s ← (← s.openHere .blockSequenceStart).removeKey
  return (s.allowKey true).indicator .blockEntry 1

/-- A question mark in front of a key. -/
def fetchKey (s : Scanner) : Option Scanner := do
  let s ← (← s.openHere .blockMappingStart).removeKey
  return (s.allowKey (s.flow = 0)).indicator .key 1

/-- A colon in front of a value.  If a key on one line lies behind, its mark and the start of its
    mapping are put in front of it. -/
def fetchValue (s : Scanner) : Option Scanner :=
  match s.keys with
  | some k :: rest =>
    let s := { s with tokens := s.tokens.insertIdxIfInBounds k.position .key, keys := none :: rest }
    let s := s.openBlock k.column k.position .blockMappingStart
    some ((s.allowKey false).indicator .value 1)
  | _ => do
    let s ← s.openHere .blockMappingStart
    return (s.allowKey (s.flow = 0)).indicator .value 1

/-- An anchor, alias or tag, which may begin a key. -/
def fetchProperty (s : Scanner) (read : Cursor → Option (Token × Cursor)) : Option Scanner := do
  let s ← s.saveKey
  let (t, c) ← read s.cursor
  return ((s.allowKey false).push t).atCursor c

/-- A block scalar. -/
def fetchBlockScalar (s : Scanner) (folded : Bool) (fuel : Nat) : Option Scanner := do
  let s ← s.removeKey
  let (found, c) ← block folded s.indent fuel (s.cursor.skip 1)
  let style := if folded then Style.folded else Style.literal
  return ((s.allowKey true).push (.scalar found.reverse style)).atCursor c

/-- A quoted scalar, which may be a key. -/
def fetchQuoted (s : Scanner) (double : Bool) (fuel : Nat) : Option Scanner := do
  let s ← s.saveKey
  let (found, c) ← quoted double fuel (s.cursor.skip 1) []
  let style := if double then Style.doubleQuoted else Style.singleQuoted
  return ((s.allowKey false).push (.scalar found.reverse style)).atCursor c

/-- A plain scalar, which may be a key.  If it is followed by a line break, a key may follow. -/
def fetchPlain (s : Scanner) (fuel : Nat) : Option Scanner := do
  let s ← s.saveKey
  let indent := (s.indent + 1).toNat
  let (found, broken, c) ← plain (s.flow ≠ 0) indent fuel s.cursor Gap.none []
  return ((s.allowKey broken).push (.scalar found.reverse .plain)).atCursor c

/-- Whether a plain scalar can begin with a character, given the text behind it. -/
def startsPlain (flow : Bool) (c : Char) (rest : List Char) : Bool :=
  (!isWhite c && !("-?:,[]\x7b\x7d#&*!|>'\"%@`".toList.contains c)) ||
    (c = '-' && !rest.head?.any isBlank) ||
    (!flow && (c = '?' || c = ':') && !endsWord rest)

/-- Adds the token that begins here.  The fuel has to exceed the length of the text ahead. -/
def fetchToken (s : Scanner) (c : Char) (rest : List Char) (fuel : Nat) : Option Scanner :=
  let flow := s.flow ≠ 0
  let place := s.cursor
  if c = '%' ∧ place.column = 0 then do
    let s ← s.closeAll
    let (t, place) ← directiveToken fuel place
    return (s.push t).atCursor place
  else if place.atMarker '-' then s.closeAll.map (·.indicator .documentStart 3)
  else if place.atMarker '.' then s.closeAll.map (·.indicator .documentEnd 3)
  else if c = '[' then s.fetchFlowStart .flowSequenceStart
  else if c = '\x7b' then s.fetchFlowStart .flowMappingStart
  else if c = ']' then s.fetchFlowEnd .flowSequenceEnd
  else if c = '\x7d' then s.fetchFlowEnd .flowMappingEnd
  else if c = ',' then s.removeKey.map fun s => (s.allowKey true).indicator .flowEntry 1
  else if c = '-' ∧ endsWord rest then s.fetchBlockEntry
  else if c = '?' ∧ (flow ∨ endsWord rest) then s.fetchKey
  else if c = ':' ∧ (flow ∨ endsWord rest) then s.fetchValue
  else if c = '*' then
    s.fetchProperty fun place => (anchorName place).map fun (name, p) => (.alias name, p)
  else if c = '&' then
    s.fetchProperty fun place => (anchorName place).map fun (name, p) => (.anchor name, p)
  else if c = '!' then s.fetchProperty (tagToken flow fuel)
  else if c = '|' ∧ !flow then s.fetchBlockScalar false fuel
  else if c = '>' ∧ !flow then s.fetchBlockScalar true fuel
  else if c = '\'' then s.fetchQuoted false fuel
  else if c = '"' then s.fetchQuoted true fuel
  else if startsPlain flow c rest then s.fetchPlain fuel
  else none

/-- Cuts the rest of a stream; every step takes up a character or ends the stream, so what bounds
    the steps stays above the length of the text ahead. -/
def run : Nat → Scanner → Option (List Token)
  | 0, _ => none
  | n + 1, s => do
    let s := s.skipSpace n
    let s ← s.dropStaleKeys
    let s := s.unroll s.cursor.column
    match s.cursor.rest with
    | [] =>
      let s ← s.closeAll
      return (s.push .streamEnd).tokens.toList
    | c :: rest => run n (← s.fetchToken c rest n)

end Scanner

/-- The tokens of a text, if it can be cut into tokens. -/
def Token.ofText? (text : String) : Option (List Token) :=
  let cs := text.toList
  if cs.all isAllowed then Scanner.run (cs.length + 2) (Scanner.start cs) else none

end SolarTwin.Markup.Yaml

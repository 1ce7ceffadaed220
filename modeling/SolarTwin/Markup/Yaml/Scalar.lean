import SolarTwin.Markup.Yaml.Cursor
import SolarTwin.Text.Hex

namespace SolarTwin.Markup.Yaml

/-!
# The text of scalars

Scalars are written plain, quoted or as an indented block.  White space inside a plain or quoted
scalar is folded: a single line break becomes a space, further ones stay.
-/

/-- How a scalar was written. -/
inductive Style where
  | plain
  | singleQuoted
  | doubleQuoted
  | literal
  | folded
  deriving DecidableEq

/-! ### White space between the parts of a scalar -/

/-- White space inside a scalar: the blanks up to the first line break, that break, and the breaks
    after it.  Blanks and later breaks are kept last first. -/
structure Gap where
  broken : Bool
  blanks : List Char
  leading : List Char
  trailing : List Char

namespace Gap

/-- No white space. -/
def none : Gap := ⟨false, [], [], []⟩

/-- A scalar, last character first, with what a gap leaves in it. -/
def onto (g : Gap) (found : List Char) : List Char :=
  if g.broken then
    if g.leading = ['\n'] then (if g.trailing.isEmpty then ' ' :: found else g.trailing ++ found)
    else g.trailing ++ (g.leading ++ found)
  else g.blanks ++ found

/-- The gap with one more blank; blanks behind a line break are indentation. -/
def blank (g : Gap) (c : Char) : Gap :=
  if g.broken then g else { g with blanks := c :: g.blanks }

/-- The gap with one more line break. -/
def lineBreak (g : Gap) (c : Char) : Gap :=
  if g.broken then { g with trailing := breakChar c :: g.trailing }
  else ⟨true, [], [breakChar c], []⟩

end Gap

/-- Takes up the white space here.  Behind a line break a tab left of column `limit` is an
    error. -/
def takeGap (limit : Nat) : List Char → Cursor → Gap → Option (Gap × Cursor)
  | '\r' :: '\n' :: rest, c, g =>
    takeGap limit rest c.skipLine (g.lineBreak '\n')
  | b :: rest, c, g =>
    if isBlank b then
      if g.broken ∧ b = '\t' ∧ c.column < limit then none
      else takeGap limit rest (c.skip 1) (g.blank b)
    else if isBreak b then takeGap limit rest c.skipLine (g.lineBreak b)
    else some (g, c)
  | [], c, g => some (g, c)

/-! ### Plain scalars -/

/-- Whether a character is a bracket of a flow collection. -/
def isBracket (c : Char) : Bool := c = '[' || c = ']' || c = '\x7b' || c = '\x7d'

/-- The characters of a plain scalar, last one first, up to white space or an indicator that ends
    it, and the place behind them.  In a flow collection a colon in front of a flow indicator is an
    error. -/
def plainPart (flow : Bool) : List Char → Cursor → List Char → Option (List Char × Cursor)
  | [], c, found => some (found, c)
  | d :: rest, c, found =>
    if isWhite d then some (found, c)
    else if flow ∧ d = ':' ∧ rest.head?.any (fun e => e = ',' || e = '?' || isBracket e) then none
    else if d = ':' ∧ endsWord rest then some (found, c)
    else if flow ∧ (d = ',' ∨ isBracket d) then some (found, c)
    else plainPart flow rest (c.skip 1) (d :: found)

/-- A plain scalar: its text, last character first, whether a line break follows it, and the place
    behind it.  On its later lines it must stay right of `indent` outside flow collections. -/
def plain (flow : Bool) (indent : Nat) : Nat → Cursor → Gap → List Char →
    Option (List Char × Bool × Cursor)
  | 0, _, _, _ => none
  | n + 1, c, gap, found =>
    if c.atDocumentMarker ∨ c.rest.head? = some '#' then some (found, gap.broken, c)
    else
      match plainPart flow c.rest c [] with
      | none => none
      | some (part, c) =>
        let (gap, found) := if part.isEmpty then (gap, found) else (Gap.none, part ++ gap.onto found)
        match c.rest with
        | [] => some (found, gap.broken, c)
        | b :: _ =>
          if !isWhite b then some (found, gap.broken, c)
          else
            match takeGap indent c.rest c Gap.none with
            | none => none
            | some (gap, c) =>
              if !flow ∧ c.column < indent then some (found, gap.broken, c)
              else plain flow indent n c gap found

/-! ### Quoted scalars -/

/-- How a part of a quoted scalar ended. -/
inductive PartEnd where
  | quote
  | white
  /-- An escaped line break. -/
  | continuation

/-- The character of an escape of one letter. -/
def escape? : Char → Option Char
  | '0' => some (Char.ofNat 0)
  | 'a' => some '\x07'
  | 'b' => some '\x08'
  | 't' | '\t' => some '\t'
  | 'n' => some '\n'
  | 'v' => some '\x0b'
  | 'f' => some '\x0c'
  | 'r' => some '\r'
  | 'e' => some '\x1b'
  | ' ' => some ' '
  | '"' => some '"'
  | '/' => some '/'
  | '\\' => some '\\'
  | 'N' => some (Char.ofNat 0x85)
  | '_' => some (Char.ofNat 0xA0)
  | 'L' => some (Char.ofNat 0x2028)
  | 'P' => some (Char.ofNat 0x2029)
  | _ => none

/-- How many hexadecimal digits follow the letter of a numeric escape. -/
def escapeLength? : Char → Option Nat
  | 'x' => some 2
  | 'u' => some 4
  | 'U' => some 8
  | _ => none

/-- The number of exactly `n` hexadecimal digits. -/
def hexNumber? (n : Nat) (cs : List Char) : Option Nat :=
  if (cs.take n).length < n then none
  else (cs.take n).foldl (fun acc c => acc.bind fun v => (Hex.value? c).map (16 * v + ·)) (some 0)

/-- The character of a code point, surrogates excepted. -/
def charOfCode? (n : Nat) : Option Char :=
  if (0xD800 ≤ n ∧ n ≤ 0xDFFF) ∨ 0x10FFFF < n then none else some (Char.ofNat n)

/-- A single-quoted scalar, last character first, up to white space or the closing quote. -/
def singleQuotedPart : List Char → Cursor → List Char → Option (List Char × PartEnd × Cursor)
  | '\'' :: '\'' :: rest, c, found => singleQuotedPart rest (c.skip 2) ('\'' :: found)
  | '\'' :: _, c, found => some (found, .quote, c.skip 1)
  | d :: rest, c, found =>
    if isWhite d then some (found, .white, c) else singleQuotedPart rest (c.skip 1) (d :: found)
  | [], _, _ => none

/-- A double-quoted scalar, last character first, up to white space, an escaped line break or the
    closing quote. -/
def doubleQuotedPart : Nat → Cursor → List Char → Option (List Char × PartEnd × Cursor)
  | 0, _, _ => none
  | n + 1, c, found =>
    match c.rest with
    | [] => none
    | '"' :: _ => some (found, .quote, c.skip 1)
    | '\\' :: d :: rest =>
      if isBreak d then some (found, .continuation, c.skip 1)
      else
        match escapeLength? d with
        | some digits =>
          ((hexNumber? digits rest).bind charOfCode?).bind fun e =>
            doubleQuotedPart n (c.skip (digits + 2)) (e :: found)
        | none => (escape? d).bind fun e => doubleQuotedPart n (c.skip 2) (e :: found)
    | d :: _ =>
      if d = '\\' then none
      else if isWhite d then some (found, .white, c)
      else doubleQuotedPart n (c.skip 1) (d :: found)

/-- A quoted scalar behind its opening quote: its text, last character first, and the place behind
    the closing quote.  Neither the end of the text nor the mark of a document may come before that
    quote.  The fuel has to exceed the length of the text ahead. -/
def quoted (double : Bool) : Nat → Cursor → List Char → Option (List Char × Cursor)
  | 0, _, _ => none
  | n + 1, c, found =>
    if c.atDocumentMarker then none
    else
      let part :=
        if double then doubleQuotedPart (n + 1) c found else singleQuotedPart c.rest c found
      match part with
      | none => none
      | some (found, stop, c) =>
        match stop with
        | .quote => some (found, c)
        | .white =>
          (takeGap 0 c.rest c Gap.none).bind fun (gap, c) => quoted double n c (gap.onto found)
        | .continuation =>
          let c := c.skipLine
          (takeGap 0 c.rest c ⟨true, [], [], []⟩).bind fun (gap, c) =>
            quoted double n c (gap.onto found)

/-! ### Block scalars -/

/-- What becomes of the line breaks at the end of a block scalar. -/
inductive Chomping where
  | strip
  | clip
  | keep

/-- Takes up empty lines and indentation; the line breaks come last one first.  Without a known
    indentation the deepest indentation of an empty line is found as well.  A tab in the place of
    indentation is an error. -/
def blockBreaks (indent : Option Nat) : Nat → Cursor → Nat → List Char →
    Option (Nat × List Char × Cursor)
  | 0, _, _, _ => none
  | n + 1, c, deepest, breaks =>
    let spaces := (c.rest.takeWhile (· = ' ')).length
    let c := c.skip ((indent.map fun i => min spaces (i - c.column)).getD spaces)
    let deepest := max deepest c.column
    let inside := indent.all (c.column < ·)
    match c.rest with
    | [] => some (deepest, breaks, c)
    | b :: _ =>
      if inside ∧ b = '\t' then none
      else if isBreak b then blockBreaks indent n c.skipLine deepest (c.lineBreak ++ breaks)
      else some (deepest, breaks, c)

/-- The lines of a block scalar, last character first.  `leading` is the break that ended the last
    line, `breaks` are those of the empty lines behind it, and `blank` says whether the last line
    began with a blank. -/
def blockLines (folded : Bool) (indent : Nat) : Nat → Cursor → List Char → List Char → Bool →
    List Char → Option (List Char × List Char × List Char × Cursor)
  | 0, _, _, _, _, _ => none
  | n + 1, c, leading, breaks, blank, found =>
    if c.column ≠ indent ∨ c.rest.isEmpty then some (found, leading, breaks, c)
    else
      let startsBlank := c.rest.head?.any isBlank
      let joint :=
        if folded ∧ leading = ['\n'] ∧ !blank ∧ !startsBlank then
          if breaks.isEmpty then [' '] else []
        else leading
      let (line, c) := c.span (!isBreak ·)
      let found := line.reverse ++ (breaks ++ (joint ++ found))
      let leading := c.lineBreak
      match blockBreaks (some indent) (n + 1) c.skipLine 0 [] with
      | none => none
      | some (_, breaks, c) => blockLines folded indent n c leading breaks startsBlank found

/-- The chomping of an indicator. -/
def chomping? : Char → Option Chomping
  | '+' => some .keep
  | '-' => some .strip
  | _ => none

/-- The two indicators of a block scalar, in either order, and the place behind them.  The
    indentation indicator is a digit other than zero. -/
def blockHeader (c : Cursor) : Option (Chomping × Option Nat × Cursor) :=
  let digit? (c : Cursor) : Option (Option Nat × Cursor) :=
    match c.rest with
    | d :: _ =>
      if d = '0' then none
      else if d.isDigit then some (some (d.toNat - 48), c.skip 1)
      else some (none, c)
    | [] => some (none, c)
  match c.rest.head?.bind chomping? with
  | some chomping => (digit? (c.skip 1)).map fun (increment, c) => (chomping, increment, c)
  | none =>
    (digit? c).map fun (increment, c) =>
      match increment.bind fun _ => c.rest.head?.bind chomping? with
      | some chomping => (chomping, increment, c.skip 1)
      | none => (.clip, increment, c)

/-- A block scalar behind its indicator, in a collection indented by `parent`: its text, last
    character first, and the place behind it.  The fuel has to exceed the length of the text
    ahead. -/
def block (folded : Bool) (parent : Int) (fuel : Nat) (c : Cursor) :
    Option (List Char × Cursor) := do
  let (chomping, increment, c) ← blockHeader c
  let c ← c.finishLine?
  let fixed := increment.map fun n => if 0 ≤ parent then parent.toNat + n else n
  let (deepest, breaks, c) ← blockBreaks fixed fuel c 0 []
  let indent := fixed.getD (max deepest (max (parent + 1).toNat 1))
  let (found, leading, breaks, c) ← blockLines folded indent fuel c [] breaks false []
  return match chomping with
    | .strip => (found, c)
    | .clip => (leading ++ found, c)
    | .keep => (breaks ++ (leading ++ found), c)

end SolarTwin.Markup.Yaml

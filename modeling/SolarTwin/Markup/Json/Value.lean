namespace SolarTwin.Markup.Json

/-!
# JSON values

The grammar of JSON, as a reader from text.  Numbers and strings keep what was written: which
double a number is, and whether the surrogates of a string pair up, is decided when the value is
used, so a value that nobody uses need only be well formed.
-/

/-- A number as it was written. -/
structure Number where
  negative : Bool
  whole : List Char
  fraction : List Char
  /-- The sign and the digits of the exponent. -/
  exponent : Option (Bool × List Char)
  deriving DecidableEq

/-- A part of a string: a character, or a 16-bit unit that was written as an escape. -/
inductive Piece where
  | char (c : Char)
  | unit (n : Nat)
  deriving DecidableEq

/-- A value. -/
inductive Value where
  | null
  | bool (b : Bool)
  | number (n : Number)
  | string (pieces : List Piece)
  | array (items : List Value)
  | object (entries : List (List Piece × Value))

/-- Whether a character may stand between tokens. -/
def isSpace (c : Char) : Bool := c = ' ' || c = '\n' || c = '\t' || c = '\r'

/-- The text behind its leading white space. -/
def skipSpace (cs : List Char) : List Char := cs.dropWhile isSpace

/-- The digits a text begins with, and the rest. -/
def digits (cs : List Char) : List Char × List Char :=
  (cs.takeWhile Char.isDigit, cs.dropWhile Char.isDigit)

/-! ### Numbers -/

/-- The whole part of a number: no zero in front of another digit. -/
def readWhole (cs : List Char) : Option (List Char × List Char) :=
  match digits cs with
  | ([], _) => none
  | ('0' :: _ :: _, _) => none
  | found => some found

/-- The fraction of a number, empty if there is no point. -/
def readFraction : List Char → Option (List Char × List Char)
  | '.' :: cs =>
    match digits cs with
    | ([], _) => none
    | found => some found
  | cs => some ([], cs)

/-- The exponent of a number, if there is one. -/
def readExponent : List Char → Option (Option (Bool × List Char) × List Char)
  | [] => some (none, [])
  | mark :: cs =>
    if mark = 'e' ∨ mark = 'E' then
      let (negative, cs) : Bool × List Char :=
        match cs with
        | '-' :: rest => (true, rest)
        | '+' :: rest => (false, rest)
        | rest => (false, rest)
      match digits cs with
      | ([], _) => none
      | (found, rest) => some (some (negative, found), rest)
    else some (none, mark :: cs)

/-- A number, from its first digit or minus sign on. -/
def readNumber (cs : List Char) : Option (Number × List Char) := do
  let (negative, cs) : Bool × List Char :=
    match cs with
    | '-' :: rest => (true, rest)
    | rest => (false, rest)
  let (whole, cs) ← readWhole cs
  let (fraction, cs) ← readFraction cs
  let (exponent, cs) ← readExponent cs
  return (⟨negative, whole, fraction, exponent⟩, cs)

/-! ### Strings -/

/-- The value of a hexadecimal digit. -/
def hexValue? (c : Char) : Option Nat :=
  if c.isDigit then some (c.toNat - 48)
  else if 'a' ≤ c ∧ c ≤ 'f' then some (c.toNat - 87)
  else if 'A' ≤ c ∧ c ≤ 'F' then some (c.toNat - 55)
  else none

/-- The number of four hexadecimal digits. -/
def hexUnit? (a b c d : Char) : Option Nat := do
  return (((← hexValue? a) * 16 + (← hexValue? b)) * 16 + (← hexValue? c)) * 16 + (← hexValue? d)

/-- The character behind a backslash that stands for itself or for a control character. -/
def simpleEscape? : Char → Option Char
  | '"' => some '"'
  | '\\' => some '\\'
  | '/' => some '/'
  | 'b' => some '\x08'
  | 'f' => some '\x0c'
  | 'n' => some '\n'
  | 'r' => some '\r'
  | 't' => some '\t'
  | _ => none

/-- A string behind its opening quote. -/
def readString : List Char → List Piece → Option (List Piece × List Char)
  | '"' :: cs, found => some (found.reverse, cs)
  | '\\' :: 'u' :: a :: b :: c :: d :: cs, found =>
    (hexUnit? a b c d).bind fun n => readString cs (.unit n :: found)
  | '\\' :: c :: cs, found =>
    (simpleEscape? c).bind fun c => readString cs (.char c :: found)
  | c :: cs, found => if c.toNat < 32 then none else readString cs (.char c :: found)
  | [], _ => none

/-- The text of a string; none if a surrogate has no partner. -/
def text? : List Piece → Option (List Char)
  | [] => some []
  | .char c :: rest => (text? rest).map (c :: ·)
  | .unit n :: rest =>
    if 0xD800 ≤ n ∧ n < 0xDC00 then
      match rest with
      | .unit m :: rest =>
        if 0xDC00 ≤ m ∧ m < 0xE000 then
          (text? rest).map (Char.ofNat (0x10000 + (n - 0xD800) * 0x400 + (m - 0xDC00)) :: ·)
        else none
      | _ => none
    else if 0xDC00 ≤ n ∧ n < 0xE000 then none
    else (text? rest).map (Char.ofNat n :: ·)

/-! ### Values -/

/-- The text behind a word it has to begin with. -/
def dropWord (word : List Char) (cs : List Char) : Option (List Char) :=
  if word.isPrefixOf cs then some (cs.drop word.length) else none

mutual

/-- A value.  The number bounds the depth and breadth still allowed; the length of the text is
    always enough. -/
def readValue : Nat → List Char → Option (Value × List Char)
  | 0, _ => none
  | n + 1, cs =>
    match skipSpace cs with
    | '"' :: cs => (readString cs []).map fun (s, rest) => (.string s, rest)
    | '[' :: cs =>
      match skipSpace cs with
      | ']' :: rest => some (.array [], rest)
      | cs => (readItems n cs []).map fun (items, rest) => (.array items, rest)
    | '\x7b' :: cs =>
      match skipSpace cs with
      | '\x7d' :: rest => some (.object [], rest)
      | cs => (readEntries n cs []).map fun (entries, rest) => (.object entries, rest)
    | 'n' :: cs => (dropWord ['u', 'l', 'l'] cs).map fun rest => (.null, rest)
    | 't' :: cs => (dropWord ['r', 'u', 'e'] cs).map fun rest => (.bool true, rest)
    | 'f' :: cs => (dropWord ['a', 'l', 's', 'e'] cs).map fun rest => (.bool false, rest)
    | cs => (readNumber cs).map fun (found, rest) => (.number found, rest)

/-- The items of an array up to its closing bracket. -/
def readItems : Nat → List Char → List Value → Option (List Value × List Char)
  | 0, _, _ => none
  | n + 1, cs, found =>
    match readValue n cs with
    | none => none
    | some (v, cs) =>
      match skipSpace cs with
      | ',' :: rest => readItems n rest (v :: found)
      | ']' :: rest => some ((v :: found).reverse, rest)
      | _ => none

/-- The entries of an object up to its closing brace. -/
def readEntries : Nat → List Char → List (List Piece × Value) →
    Option (List (List Piece × Value) × List Char)
  | 0, _, _ => none
  | n + 1, cs, found =>
    match skipSpace cs with
    | '"' :: cs =>
      match readString cs [] with
      | none => none
      | some (key, cs) =>
        match skipSpace cs with
        | ':' :: cs =>
          match readValue n cs with
          | none => none
          | some (v, cs) =>
            match skipSpace cs with
            | ',' :: rest => readEntries n rest ((key, v) :: found)
            | '\x7d' :: rest => some (((key, v) :: found).reverse, rest)
            | _ => none
        | _ => none
    | _ => none

end

/-- The value a text consists of. -/
def read? (text : String) : Option Value :=
  let cs := text.toList
  match readValue (2 * cs.length + 2) cs with
  | some (v, rest) => if (skipSpace rest).isEmpty then some v else none
  | none => none

end SolarTwin.Markup.Json

namespace SolarTwin.Text

/-!
# White space

The characters that separate words in any script, and texts without those at their ends.
-/

/-- Whether a character is white space. -/
def isSpace (c : Char) : Bool :=
  let n := c.toNat
  (0x9 ≤ n && n ≤ 0xD) || n = 0x20 || n = 0x85 || n = 0xA0 || n = 0x1680 ||
    (0x2000 ≤ n && n ≤ 0x200A) || n = 0x2028 || n = 0x2029 || n = 0x202F || n = 0x205F || n = 0x3000

/-- A text without the white space at its ends. -/
def trimmed (text : String) : String :=
  let ahead (cs : List Char) : List Char := cs.dropWhile isSpace
  String.ofList (ahead (ahead text.toList).reverse).reverse

end SolarTwin.Text

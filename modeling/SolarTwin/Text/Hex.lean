namespace SolarTwin.Hex

/-!
# Hexadecimal text

Upper-case hexadecimal forms of bytes and words, and the spaced dumps that traces print.

* `byte b` has two digits, `word w` four, the most significant first;
* `dump bs` and `words ws` put single spaces between the groups.
-/

/-- The digit of a number below sixteen, in upper case. -/
def digit (n : Nat) : Char :=
  if n < 10 then Char.ofNat (48 + n) else Char.ofNat (55 + n)

/-- The value of a digit of either case. -/
def value? (c : Char) : Option Nat :=
  if c.isDigit then some (c.toNat - 48)
  else if 'a' ≤ c ∧ c ≤ 'f' then some (c.toNat - 87)
  else if 'A' ≤ c ∧ c ≤ 'F' then some (c.toNat - 55)
  else none

/-- The two digits of a byte. -/
def byte (b : UInt8) : List Char :=
  [digit (b.toNat / 16), digit (b.toNat % 16)]

/-- The four digits of a word. -/
def word (w : UInt16) : List Char :=
  [digit (w.toNat / 4096), digit (w.toNat / 256 % 16), digit (w.toNat / 16 % 16),
    digit (w.toNat % 16)]

/-- The groups one after another, a single space between neighbours. -/
def spaced : List (List Char) → List Char
  | [] => []
  | [g] => g
  | g :: h :: rest => g ++ ' ' :: spaced (h :: rest)

/-- The spaced two-digit forms of a byte string. -/
def dump (bytes : List UInt8) : String :=
  String.ofList (spaced (bytes.map byte))

/-- The spaced four-digit forms of a list of words. -/
def words (ws : List UInt16) : String :=
  String.ofList (spaced (ws.map word))

/-- A byte as `0x` and its two digits. -/
def code (b : UInt8) : String :=
  "0x" ++ String.ofList (byte b)

@[simp] theorem spaced_nil : spaced [] = [] := rfl

@[simp] theorem spaced_singleton (g : List Char) : spaced [g] = g := rfl

@[simp] theorem spaced_cons_cons (g h : List Char) (rest : List (List Char)) :
    spaced (g :: h :: rest) = g ++ ' ' :: spaced (h :: rest) := rfl

end SolarTwin.Hex

import SolarTwin.Binary64.Reading
import SolarTwin.Error

namespace SolarTwin.Network

/-!
# Network addresses

The text of an IP address and of a socket address.

* an IPv4 address is four numbers without leading zeros, joined by points;
* an IPv6 address is eight groups of hexadecimal digits, joined by colons; the last two may be
  written as an IPv4 address, and one run of zero groups may be left out between two colons;
* a socket address is an IPv4 address or an IPv6 address in brackets, with a port behind a colon.
-/

/-- An IP address; a version 6 address has eight groups. -/
inductive IpAddress where
  | v4 (a b c d : UInt8)
  | v6 (groups : List UInt16)
  deriving DecidableEq

/-- An address and port to listen on or to talk to.  Only version 6 has a scope. -/
structure SocketAddress where
  ip : IpAddress
  scope : UInt32
  port : UInt16
  deriving DecidableEq

/-- Reads something at the start of a text and gives it with the rest. -/
abbrev Reader (α : Type) := List Char → Option (α × List Char)

/-! ### Reading -/

/-- The value of a digit of a base. -/
def digit? (base : Nat) (c : Char) : Option Nat :=
  let value :=
    if c.isDigit then c.toNat - 48
    else if 'a' ≤ c ∧ c ≤ 'f' then c.toNat - 87
    else if 'A' ≤ c ∧ c ≤ 'F' then c.toNat - 55
    else 16
  if value < base then some value else none

/-- The digits that a text begins with, and the rest. -/
def spanDigits (base : Nat) : List Char → List Nat × List Char
  | [] => ([], [])
  | c :: cs =>
    match digit? base c with
    | none => ([], c :: cs)
    | some d =>
      let (ds, rest) := spanDigits base cs
      (d :: ds, rest)

/-- A number below a bound, of at most so many digits. -/
def number (base maxDigits bound : Nat) : Reader Nat := fun cs =>
  let (ds, rest) := spanDigits base cs
  let n := ds.foldl (fun n d => n * base + d) 0
  if ds.isEmpty ∨ maxDigits < ds.length ∨ bound ≤ n then none else some (n, rest)

/-- A given character. -/
def given (c : Char) : Reader Unit
  | d :: rest => if d = c then some ((), rest) else none
  | [] => none

/-- A number from 0 to 255 without leading zeros. -/
def octet : Reader UInt8 := fun cs => do
  let (n, rest) ← number 10 3 256 cs
  if cs.head? = some '0' ∧ rest.length + 1 < cs.length then none
  else return (UInt8.ofNat n, rest)

/-- A version 4 address. -/
def ipv4 : Reader IpAddress := fun cs => do
  let (a, cs) ← octet cs
  let (_, cs) ← given '.' cs
  let (b, cs) ← octet cs
  let (_, cs) ← given '.' cs
  let (c, cs) ← octet cs
  let (_, cs) ← given '.' cs
  let (d, cs) ← octet cs
  return (.v4 a b c d, cs)

/-- Two groups written as a version 4 address. -/
def embedded : Reader (List UInt16) := fun cs => do
  let (ip, rest) ← ipv4 cs
  match ip with
  | .v4 a b c d => return ([256 * a.toUInt16 + b.toUInt16, 256 * c.toUInt16 + d.toUInt16], rest)
  | .v6 _ => none

/-- At most `limit` groups, all but the first behind a colon.  An embedded version 4 address ends
    them; the flag says whether there was one. -/
def groups (isFirst : Bool) : Nat → List Char → (List UInt16 × Bool) × List Char
  | 0, cs => (([], false), cs)
  | limit + 1, cs =>
    let inner := if isFirst then some ((), cs) else given ':' cs
    let last : Option (List UInt16 × List Char) :=
      if limit = 0 then none else inner.bind fun (_, cs) => embedded cs
    match last with
    | some (pair, rest) => ((pair, true), rest)
    | none =>
      match inner.bind fun (_, cs) => number 16 4 65536 cs with
      | none => (([], false), cs)
      | some (g, rest) =>
        let ((gs, hasEmbedded), rest) := groups false limit rest
        ((UInt16.ofNat g :: gs, hasEmbedded), rest)

/-- A version 6 address. -/
def ipv6 : Reader IpAddress := fun cs => do
  let ((front, hasEmbedded), cs) := groups true 8 cs
  if front.length = 8 then return (.v6 front, cs)
  if hasEmbedded then none
  else
    let (_, cs) ← given ':' cs
    let (_, cs) ← given ':' cs
    let ((back, _), cs) := groups true (7 - front.length) cs
    return (.v6 (front ++ List.replicate (8 - front.length - back.length) 0 ++ back), cs)

/-- A port behind a colon. -/
def port : Reader UInt16 := fun cs => do
  let (_, cs) ← given ':' cs
  let (n, cs) ← number 10 cs.length 65536 cs
  return (UInt16.ofNat n, cs)

/-- A socket address of version 4. -/
def socket4 : Reader SocketAddress := fun cs => do
  let (ip, cs) ← ipv4 cs
  let (p, cs) ← port cs
  return (⟨ip, 0, p⟩, cs)

/-- The scope of a version 6 address, behind a percent sign. -/
def scope : Reader UInt32 := fun cs =>
  match given '%' cs with
  | none => some (0, cs)
  | some (_, digits) => (number 10 digits.length 4294967296 digits).map fun (n, rest) =>
      (UInt32.ofNat n, rest)

/-- A socket address of version 6. -/
def socket6 : Reader SocketAddress := fun cs => do
  let (_, cs) ← given '[' cs
  let (ip, cs) ← ipv6 cs
  let (s, cs) ← scope cs
  let (_, cs) ← given ']' cs
  let (p, cs) ← port cs
  return (⟨ip, s, p⟩, cs)

/-- What a reader makes of a whole text. -/
def whole? {α : Type} (read : Reader α) (text : String) : Option α :=
  match read text.toList with
  | some (v, []) => some v
  | _ => none

/-- The IP address a text writes. -/
def IpAddress.ofText? (text : String) : Option IpAddress :=
  (whole? ipv4 text).or (whole? ipv6 text)

/-- The socket address a text writes. -/
def SocketAddress.ofText? (text : String) : Option SocketAddress :=
  (whole? socket4 text).or (whole? socket6 text)

/-- The address a server is to listen on. -/
def SocketAddress.forBinding (text : String) : Except Error SocketAddress :=
  match SocketAddress.ofText? text with
  | some address => .ok address
  | none => .error (.configuration .bindAddress)

/-! ### Writing -/

/-- Groups of hexadecimal digits, joined by colons. -/
def groupsText (gs : List UInt16) : String :=
  ":".intercalate (gs.map fun g => String.ofList (Nat.toDigits 16 g.toNat))

/-- How many zero groups a list begins with. -/
def zerosAhead (gs : List UInt16) : Nat := (gs.takeWhile (· = 0)).length

/-- The place and length of the first of the longest runs of zero groups. -/
def longestRun (gs : List UInt16) : Nat × Nat :=
  (List.range gs.length).foldl (fun best i =>
    let n := zerosAhead (gs.drop i)
    if best.2 < n then (i, n) else best) (0, 0)

/-- The four numbers of a version 4 address. -/
def octetsText (a b c d : UInt8) : String := s!"{a.toNat}.{b.toNat}.{c.toNat}.{d.toNat}"

/-- The text of a version 6 address: its longest run of at least two zero groups is left out, and a
    version 4 address mapped into version 6 keeps its own form. -/
def ipv6Text (gs : List UInt16) : String :=
  match gs with
  | [0, 0, 0, 0, 0, 0xFFFF, high, low] =>
    "::ffff:" ++ octetsText (high >>> 8).toUInt8 high.toUInt8 (low >>> 8).toUInt8 low.toUInt8
  | _ =>
    let (start, length) := longestRun gs
    if 1 < length then groupsText (gs.take start) ++ "::" ++ groupsText (gs.drop (start + length))
    else groupsText gs

/-- The text of an IP address. -/
def IpAddress.text : IpAddress → String
  | .v4 a b c d => octetsText a b c d
  | .v6 gs => ipv6Text gs

/-- The text of a socket address. -/
def SocketAddress.text (s : SocketAddress) : String :=
  match s.ip with
  | .v4 .. => s!"{s.ip.text}:{s.port.toNat}"
  | .v6 _ =>
    let scope := if s.scope = 0 then "" else s!"%{s.scope.toNat}"
    s!"[{s.ip.text}{scope}]:{s.port.toNat}"

end SolarTwin.Network

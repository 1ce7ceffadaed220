import SolarTwin.Bank.Access
import SolarTwin.Modbus.Address
import SolarTwin.Modbus.Reply
import SolarTwin.Modbus.Request

namespace SolarTwin.Modbus

/-!
# Serving requests

Requests are served against a bank.  A request is carried out as a whole or answered with an
exception, and then the bank is as it was.

* `Bank.process` carries out one request, and `Bank.processBy` does so for any use of indices;
* `Bank.handle` also turns a failure into the reply that reports it;
* `Bank.serve` starts from the bytes of a protocol data unit; only an empty one has no reply.
-/

/-- The outcome of a request: the bank after it, what it wrote into the journal, and its result. -/
structure Served (α : Type) where
  bank : Bank
  journal : Journal
  result : α

end Modbus

open Modbus

namespace Bank

/-! ### Carrying out a request -/

section Process

variable {m : Type → Type} [Monad m] (ix : Indexing m)

/-- Writes a block on behalf of a client. -/
def writeBlockBy (b : Bank) (start : UInt16) (ws : List UInt16) :
    m (Served (Except Error Unit)) := do
  let written ← b.writeInPlaceBy ix start ws
  match written.error? with
  | none =>
    return ⟨written.bank, [.debug s!"Wrote [{Hex.words ws}] at logical address {start.toNat}"],
      .ok ()⟩
  | some e =>
    return ⟨written.bank, refusalLines e ++
      [.warn s!"Rejected write of {ws.length} word(s) at logical {start.toNat}: {e.message}"],
      .error e⟩

/-- Makes the body that echoes a write.  That of a single one takes the first value. -/
def echoBy (q : Request) : m Body :=
  match q.function with
  | .writeSingle => do
    match ← ix.get q.values 0 with
    | some value => return .wroteSingle q.address value
    | none => return .wroteMultiple q.address q.quantity
  | _ => return .wroteMultiple q.address q.quantity

/-- Carries out a request at a logical address. -/
def processAtBy (b : Bank) (q : Request) (start : UInt16) : m (Served (Except Error Body)) := do
  if q.function.isRead then
    let read ← b.readFromBy ix start.toNat q.quantity.toNat
    return ⟨b, [], read.map .registers⟩
  else
    let written ← b.writeBlockBy ix start q.values
    match written.result with
    | .ok () => return ⟨written.bank, written.journal, .ok (← echoBy ix q)⟩
    | .error e => return ⟨written.bank, written.journal, .error e⟩

/-- Carries out a request: checks its quantity and values, then its address. -/
def processBy (b : Bank) (q : Request) : m (Served (Except Error Body)) :=
  match q.fault? with
  | some fault => return ⟨b, [], .error (.invalidData fault)⟩
  | none =>
    match q.function.logical? q.address with
    | none => return ⟨b, [], .error (.unmapped (q.function.logical q.address))⟩
    | some start => b.processAtBy ix q start

end Process

/-- Writes a block on behalf of a client. -/
def writeBlock (b : Bank) (start : UInt16) (ws : List UInt16) : Served (Except Error Unit) :=
  b.writeBlockBy .lenient start ws

/-- The body that echoes a write. -/
def echo (q : Request) : Body := echoBy .lenient q

/-- Carries out a request at a logical address. -/
def processAt (b : Bank) (q : Request) (start : UInt16) : Served (Except Error Body) :=
  b.processAtBy .lenient q start

/-- Carries out a request: checks its quantity and values, then its address. -/
def process (b : Bank) (q : Request) : Served (Except Error Body) := b.processBy .lenient q

/-- Carries out a request and replies to it, to a failed one with an exception. -/
def handle (b : Bank) (q : Request) : Served Reply :=
  let done := b.process q
  match done.result with
  | .ok body => ⟨done.bank, done.journal, ⟨q.unit, q.function.code, body⟩⟩
  | .error e =>
    let line := s!"{q.function.text} at wire address {q.address.toNat} (x{q.quantity.toNat})" ++
      s!" rejected: {e.message}"
    ⟨done.bank, done.journal ++ [.debug line],
      ⟨q.unit, q.function.code, .exception e.exception⟩⟩

/-- A reply together with the request it answers, if that could be read. -/
structure Answer where
  request : Option Request
  reply : Reply

/-- Serves the bytes of a protocol data unit.  A request that cannot be read is answered with an
    exception under the function byte it came with; an empty unit is an error. -/
def serve (b : Bank) (unit : UInt8) (pdu : List UInt8) : Served (Except Error Answer) :=
  match Request.decode unit pdu with
  | .ok q =>
    let handled := b.handle q
    ⟨handled.bank, handled.journal, .ok ⟨some q, handled.result⟩⟩
  | .error (.frame fault) => ⟨b, [], .error (.frame fault)⟩
  | .error e =>
    let code := pdu.headD 0
    ⟨b, [.debug s!"Request {Hex.code code} rejected: {e.message}"],
      .ok ⟨none, ⟨unit, code, .exception e.exception⟩⟩⟩

end Bank

end SolarTwin

import SolarTwin.Error
import SolarTwin.Modbus.Octets

namespace SolarTwin.Modbus

/-!
# Requests

A request names a function, a wire address, a quantity and, for writing, the values.

* `Request.fault?` says what is wrong with a request's quantity and values;
* `Request.decode` reads a request from a protocol data unit, the bytes from the function on, and
  accepts only requests without fault; bytes behind the request are ignored;
* `Request.encode` writes the bytes a client sends.
-/

/-- A request of a client. -/
structure Request where
  unit : UInt8
  function : Function
  address : UInt16
  quantity : UInt16
  values : List UInt16
  deriving DecidableEq

namespace Request

/-- A request to read a block. -/
def read (unit : UInt8) (function : Function) (address quantity : UInt16) : Request :=
  ⟨unit, function, address, quantity, []⟩

/-- A request to write one word. -/
def writeSingle (unit : UInt8) (address value : UInt16) : Request :=
  ⟨unit, .writeSingle, address, 1, [value]⟩

/-- A request to write a block.  The quantity is the number of values modulo `2 ^ 16`. -/
def writeMultiple (unit : UInt8) (address : UInt16) (values : List UInt16) : Request :=
  ⟨unit, .writeMultiple, address, UInt16.ofNat values.length, values⟩

/-- What is wrong with a request: a quantity outside the limits of its function, or values that are
    not as many as the quantity says. -/
def fault? (q : Request) : Option DataFault :=
  if q.quantity = 0 ∨ q.function.maxQuantity < q.quantity.toNat then
    some (.quantity q.quantity.toNat q.function)
  else if q.function.isWrite ∧ q.values.length ≠ q.quantity.toNat then some .valueCount
  else none

/-- The request, if nothing is wrong with it. -/
def validate (q : Request) : Except Error Request :=
  match q.fault? with
  | some fault => .error (.invalidData fault)
  | none => .ok q

/-- Reads the byte count and the values of a block to write. -/
def decodeBlock (unit : UInt8) (address quantity : UInt16) : List UInt8 → Except Error Request
  | [] => .error (.invalidData .missingByteCount)
  | count :: payload =>
    if count.toNat ≠ 2 * quantity.toNat ∨ payload.length < count.toNat then
      .error (.invalidData (.byteCount count.toNat quantity.toNat))
    else .ok (writeMultiple unit address (wordsOf (payload.take count.toNat)))

/-- Reads the bytes behind the function. -/
def decodeData (unit : UInt8) (f : Function) : List UInt8 → Except Error Request
  | a₁ :: a₀ :: b₁ :: b₀ :: rest =>
    let address := ofOctets a₁ a₀
    let second := ofOctets b₁ b₀
    match f with
    | .readHolding | .readInput => .ok (read unit f address second)
    | .writeSingle => .ok (writeSingle unit address second)
    | .writeMultiple => decodeBlock unit address second rest
  | _ => .error (.invalidData (.shortPdu f))

/-- Reads a request from a protocol data unit. -/
def decode (unit : UInt8) : List UInt8 → Except Error Request
  | [] => .error (.frame .emptyPdu)
  | code :: data =>
    match Function.ofCode? code with
    | none => .error (.invalidFunction code)
    | some f => (decodeData unit f data).bind validate

/-- The protocol data unit of a request. -/
def encode (q : Request) : List UInt8 :=
  match q.function with
  | .readHolding | .readInput => q.function.code :: octets q.address ++ octets q.quantity
  | .writeSingle => q.function.code :: octets q.address ++ octetsOf q.values
  | .writeMultiple =>
    q.function.code :: octets q.address ++ octets q.quantity ++
      UInt8.ofNat (2 * q.values.length) :: octetsOf q.values

end Request

end SolarTwin.Modbus

import SolarTwin.Modbus.Function
import SolarTwin.Modbus.Octets

namespace SolarTwin.Modbus

/-!
# Replies

A reply carries the words read, echoes a write, or names an exception.  `Reply.encode` is its
protocol data unit: an exception is marked in the top bit of the function byte.
-/

/-- What a reply says. -/
inductive Body where
  | registers (words : List UInt16)
  | wroteSingle (address value : UInt16)
  | wroteMultiple (address quantity : UInt16)
  | exception (e : Exception)
  deriving DecidableEq

/-- A reply to a request.  The function byte is kept also if no function has it. -/
structure Reply where
  unit : UInt8
  functionCode : UInt8
  body : Body
  deriving DecidableEq

namespace Body

/-- The exception a body names. -/
def exception? : Body → Option Exception
  | .exception e => some e
  | _ => none

/-- The words a body carries. -/
def registers? : Body → Option (List UInt16)
  | .registers ws => some ws
  | _ => none

end Body

namespace Reply

/-- Whether the request failed. -/
def isException (r : Reply) : Bool := r.body.exception?.isSome

/-- The protocol data unit of a reply.  The byte count of a read is taken modulo 256. -/
def encode (r : Reply) : List UInt8 :=
  match r.body with
  | .registers ws => r.functionCode :: UInt8.ofNat (2 * ws.length) :: octetsOf ws
  | .wroteSingle address value => r.functionCode :: octets address ++ octets value
  | .wroteMultiple address quantity => r.functionCode :: octets address ++ octets quantity
  | .exception e => [r.functionCode ||| 0x80, e.code]

end Reply

end SolarTwin.Modbus

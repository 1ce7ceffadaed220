import SolarTwin.Text.Hex

namespace SolarTwin.Modbus

/-!
# Functions and exceptions

The four request functions a server answers, and the four exceptions it answers failures with.
Both are named on the wire by one byte.
-/

/-- The longest block one request may read, in registers. -/
def maxReadQuantity : Nat := 125

/-- The longest block one request may write, in registers. -/
def maxWriteQuantity : Nat := 123

/-- What a request asks for. -/
inductive Function where
  | readHolding
  | readInput
  | writeSingle
  | writeMultiple
  deriving DecidableEq

/-- Why a request was not carried out. -/
inductive Exception where
  | illegalFunction
  | illegalDataAddress
  | illegalDataValue
  | serverDeviceFailure
  deriving DecidableEq

namespace Function

/-- The byte of a function. -/
def code : Function → UInt8
  | .readHolding => 3
  | .readInput => 4
  | .writeSingle => 6
  | .writeMultiple => 16

/-- All functions. -/
def all : List Function := [.readHolding, .readInput, .writeSingle, .writeMultiple]

/-- The function of a byte. -/
def ofCode? (b : UInt8) : Option Function := all.find? (·.code == b)

/-- Whether a function reads. -/
def isRead : Function → Bool
  | .readHolding | .readInput => true
  | .writeSingle | .writeMultiple => false

/-- Whether a function writes. -/
def isWrite (f : Function) : Bool := !f.isRead

/-- The name of a function. -/
def name : Function → String
  | .readHolding => "Read Holding Registers"
  | .readInput => "Read Input Registers"
  | .writeSingle => "Write Single Register"
  | .writeMultiple => "Write Multiple Registers"

/-- The name with the byte in brackets. -/
def text (f : Function) : String := s!"{f.name} ({Hex.code f.code})"

/-- The greatest quantity a request may name. -/
def maxQuantity : Function → Nat
  | .readHolding | .readInput => maxReadQuantity
  | .writeSingle => 1
  | .writeMultiple => maxWriteQuantity

@[simp] theorem ofCode?_code (f : Function) : ofCode? f.code = some f := by
  cases f <;> decide

end Function

namespace Exception

/-- The byte of an exception. -/
def code : Exception → UInt8
  | .illegalFunction => 1
  | .illegalDataAddress => 2
  | .illegalDataValue => 3
  | .serverDeviceFailure => 4

/-- All exceptions. -/
def all : List Exception :=
  [.illegalFunction, .illegalDataAddress, .illegalDataValue, .serverDeviceFailure]

/-- The exception of a byte. -/
def ofCode? (b : UInt8) : Option Exception := all.find? (·.code == b)

/-- What an exception means. -/
def description : Exception → String
  | .illegalFunction =>
    "The function code received in the query is not an allowable action for the server"
  | .illegalDataAddress =>
    "The data address received in the query is not an allowable address for the server"
  | .illegalDataValue =>
    "A value contained in the query data field is not an allowable value for server"
  | .serverDeviceFailure =>
    "An unrecoverable error occurred while the server was attempting to perform the requested action"

/-- The byte and the meaning. -/
def text (e : Exception) : String := s!"Modbus Exception {Hex.code e.code}: {e.description}"

@[simp] theorem ofCode?_code (e : Exception) : ofCode? e.code = some e := by
  cases e <;> decide

end Exception

end SolarTwin.Modbus

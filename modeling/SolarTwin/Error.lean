import SolarTwin.Binary64.Decimal
import SolarTwin.Modbus.Function
import SolarTwin.Register.Kind

namespace SolarTwin

/-!
# Errors

Everything that can go wrong, as causes.  `Error.message` words a cause, and `Error.exception?`
names the exception that answers it on the wire: a cause that concerns no single request has none.
-/

/-- What is wrong with the data of a request or value. -/
inductive DataFault where
  | shortPdu (function : Modbus.Function)
  | missingByteCount
  | byteCount (count named : Nat)
  | quantity (quantity : Nat) (function : Modbus.Function)
  | valueCount
  | wordCount (kind : Kind) (given : Nat)
  | stated (text : String)
  deriving DecidableEq

/-- What is wrong with a frame. -/
inductive FrameFault where
  | emptyPdu
  | protocolId (id : Nat)
  | length (length : Nat)
  | stated (text : String)
  deriving DecidableEq

/-- What is wrong with a list of registers. -/
inductive LayoutFault where
  | pastEnd (address : Nat) (kind : Kind)
  | duplicate (address : Nat)
  | overlap (address : Nat) (kind : Kind) (next : Nat)
  deriving DecidableEq

/-- What is wrong with the parameters of a plant. -/
inductive ParameterFault where
  | updateInterval
  | ratedPower
  | efficiency (percent : Float)
  | faultProbability (percent : Float)
  | resetHour (hour : Nat)
  | negative (parameter : String)
  | noWeather
  | weather (name : String)

/-- The languages a profile can be written in. -/
inductive Language where
  | yaml
  | json
  deriving DecidableEq

/-- What is wrong with the configuration. -/
inductive ConfigurationFault where
  | layout (fault : LayoutFault)
  | parameter (fault : ParameterFault)
  | initialValue (number : Int) (address : Nat) (kind : Kind)
  | unreadable (path reason : String)
  | extension (text : String)
  | document (language : Language)
  | traceMode (text : String)
  | bindAddress
  | stated (text : String)

/-- Why an operation failed. -/
inductive Error where
  | io (text : String)
  | connection (text : String)
  | unmapped (address : Nat)
  | accessDenied (address : Nat)
  | typeMismatch (address : Nat) (expected actual : Kind)
  | invalidFunction (code : UInt8)
  | invalidData (fault : DataFault)
  | frame (fault : FrameFault)
  | configuration (fault : ConfigurationFault)
  | internal (text : String)

/-! ### Wording -/

/-- The wording of a data fault. -/
def DataFault.message : DataFault → String
  | .shortPdu f => s!"PDU too short for {f.text}"
  | .missingByteCount => "Missing byte count"
  | .byteCount count named => s!"Byte count {count} does not match quantity {named}"
  | .quantity n f => s!"Invalid quantity {n} for {f.text}"
  | .valueCount => "Value count does not match quantity"
  | .wordCount kind given => s!"{kind.name} needs {kind.width} words, got {given}"
  | .stated text => text

/-- The wording of a frame fault. -/
def FrameFault.message : FrameFault → String
  | .emptyPdu => "Empty PDU"
  | .protocolId id => s!"Invalid protocol ID {id}"
  | .length n => s!"Invalid MBAP length {n}"
  | .stated text => text

/-- The wording of a layout fault. -/
def LayoutFault.message : LayoutFault → String
  | .pastEnd address kind =>
    s!"Register {address} ({kind.name}) runs past the end of the address space"
  | .duplicate address => s!"Duplicate register address {address}"
  | .overlap address kind next =>
    s!"Register {address} ({kind.name}, {kind.width} words) overlaps register {next}"

/-- The wording of a parameter fault. -/
def ParameterFault.message : ParameterFault → String
  | .updateInterval => "update_interval_ms must be positive"
  | .ratedPower => "max_power_watts must be positive"
  | .efficiency percent =>
    s!"efficiency_percent {Binary64.plain percent} is outside (0, 100]"
  | .faultProbability percent =>
    s!"fault_probability_percent {Binary64.plain percent} is outside [0, 100]"
  | .resetHour hour => s!"daily_yield_reset_hour {hour} is not an hour of the day"
  | .negative parameter => s!"{parameter} must not be negative"
  | .noWeather => "At least one weather model is required"
  | .weather name => s!"Weather model '{name}' has a negative multiplier"

/-- The name of a language. -/
def Language.name : Language → String
  | .yaml => "YAML"
  | .json => "JSON"

/-- The wording of a configuration fault. -/
def ConfigurationFault.message : ConfigurationFault → String
  | .layout fault => fault.message
  | .parameter fault => fault.message
  | .initialValue number address kind =>
    s!"Initial value {number} of register {address} does not fit {kind.name}"
  | .unreadable path reason => s!"Cannot read {path}: {reason}"
  | .extension text => s!"Unsupported configuration format '.{text}'"
  | .document language => s!"{language.name} error"
  | .traceMode text =>
    s!"Unknown packet logging mode '{text}' (expected off, raw, interpreted or both)"
  | .bindAddress => "Invalid bind address: invalid socket address syntax"
  | .stated text => text

namespace Error

/-- The wording of an error. -/
def message : Error → String
  | .io text => s!"I/O error: {text}"
  | .connection text => s!"Connection error: {text}"
  | .unmapped address => s!"Unmapped register address {address}"
  | .accessDenied address => s!"Write denied to read-only register at {address}"
  | .typeMismatch address expected actual =>
    s!"Type mismatch at {address}: register is {expected.name}, value is {actual.name}"
  | .invalidFunction code => s!"Invalid function code: {Hex.code code}"
  | .invalidData fault => s!"Invalid data: {fault.message}"
  | .frame fault => s!"Frame error: {fault.message}"
  | .configuration fault => s!"Configuration error: {fault.message}"
  | .internal text => s!"Internal error: {text}"

/-- The exception that answers an error; none for errors outside a request. -/
def exception? : Error → Option Modbus.Exception
  | .invalidFunction _ => some .illegalFunction
  | .unmapped _ | .accessDenied _ => some .illegalDataAddress
  | .invalidData _ => some .illegalDataValue
  | .internal _ | .typeMismatch .. => some .serverDeviceFailure
  | .io _ | .connection _ | .frame _ | .configuration _ => none

/-- The exception a reply carries for an error: a device failure if nothing fits better. -/
def exception (e : Error) : Modbus.Exception := e.exception?.getD .serverDeviceFailure

/-- Whether the error is one of the transport and not of what was transported. -/
def isTransport : Error → Bool
  | .io _ | .connection _ => true
  | _ => false

/-- An error in the layout of a register list. -/
def layout (fault : LayoutFault) : Error := .configuration (.layout fault)

end Error

end SolarTwin

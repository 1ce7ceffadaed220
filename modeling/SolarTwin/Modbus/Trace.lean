import SolarTwin.Error
import SolarTwin.Journal
import SolarTwin.Modbus.Reply
import SolarTwin.Modbus.Request

namespace SolarTwin.Modbus

/-!
# Packet tracing

A trace shows the frames that pass a connection, as raw bytes, as their fields, or both ways.
-/

/-- What a trace shows of a frame. -/
inductive TraceMode where
  | off
  | raw
  | interpreted
  | both
  deriving DecidableEq

namespace TraceMode

/-- The name of a mode. -/
def name : TraceMode → String
  | .off => "off"
  | .raw => "raw"
  | .interpreted => "interpreted"
  | .both => "both"

/-- The mode of a name, in ASCII letters of any case. -/
def parse (text : String) : Except Error TraceMode :=
  match text.map Char.toLower with
  | "off" | "none" => .ok .off
  | "raw" => .ok .raw
  | "interpreted" => .ok .interpreted
  | "both" => .ok .both
  | other => .error (.configuration (.traceMode other))

/-- Whether a mode shows anything. -/
def isEnabled (m : TraceMode) : Bool := m != .off

/-- The lines of a frame between the twin and a peer; `arrow` points to the receiver. -/
def lines (m : TraceMode) (peer arrow : String) (frame : List UInt8) (fields : String) : Journal :=
  let raw := s!"{peer} {arrow} Raw: {Hex.dump frame}"
  let interpreted := s!"{peer} {arrow} {fields}"
  match m with
  | .off => []
  | .raw => [.info raw]
  | .interpreted => [.info interpreted]
  | .both => [.info interpreted, .debug raw]

end TraceMode

/-- Words in square brackets, separated by commas. -/
def listText (ws : List UInt16) : String :=
  "[" ++ ", ".intercalate (ws.map fun w => toString w.toNat) ++ "]"

/-- The fields of a request. -/
def Request.fields (q : Request) : String :=
  let fields := s!"Unit: {q.unit.toNat}, Function: {q.function.text}, " ++
    s!"Address: {q.address.toNat}, Quantity: {q.quantity.toNat}"
  if q.function.isWrite then s!"{fields}, Values: {listText q.values}" else fields

/-- The fields of a body; of the words read only the first eight are shown. -/
def Body.fields : Body → String
  | .registers ws => s!"Byte count: {2 * ws.length}, Registers: {listText (ws.take 8)}"
  | .wroteSingle address value =>
    s!"Address: {address.toNat}, Value: {value.toNat} (0x{String.ofList (Hex.word value)})"
  | .wroteMultiple address quantity =>
    s!"Address: {address.toNat}, Quantity: {quantity.toNat}"
  | .exception e => s!"Exception: {e.description} ({Hex.code e.code})"

/-- The fields of a reply. -/
def Reply.fields (r : Reply) : String :=
  s!"Unit: {r.unit.toNat}, Function: {Hex.code r.functionCode}, {r.body.fields}"

/-- The lines of a received request. -/
def TraceMode.requestLines (m : TraceMode) (peer : String) (frame : List UInt8) (q : Request) :
    Journal :=
  m.lines peer "->" frame q.fields

/-- The lines of a reply that is sent. -/
def TraceMode.replyLines (m : TraceMode) (peer : String) (frame : List UInt8) (r : Reply) :
    Journal :=
  m.lines peer "<-" frame r.fields

end SolarTwin.Modbus

import SolarTwin.Duration
import SolarTwin.Modbus.Frame
import SolarTwin.Modbus.Service
import SolarTwin.Modbus.Trace
import SolarTwin.Network.Address

namespace SolarTwin

/-!
# The server

The server accepts a limited number of connections and serves each as a byte stream: it cuts frames
off the bytes received, answers them in order and counts what it does.

* `Server.feed` serves the frames that are complete and keeps the rest of the bytes;
* `Server.accept` and `Server.release` keep the number of connections within its limit;
* `Server.start` and `Server.stop` open and close the server.  Its counters last.
-/

open Modbus

/-- How a server works. -/
structure ServerSettings where
  address : Network.SocketAddress
  maxConnections : Nat
  /-- A connection without a request for so long is closed. -/
  idleTimeout : Option Duration
  trace : TraceMode

/-- What a server has done so far. -/
structure Counters where
  /-- Connections that were accepted. -/
  connections : Nat
  /-- Connections that were dropped at the limit. -/
  rejected : Nat
  /-- Frames received. -/
  total : Nat
  /-- Requests carried out. -/
  successful : Nat
  /-- Requests answered with an exception, and malformed ones. -/
  failed : Nat
  bytesReceived : Nat
  bytesSent : Nat
  deriving DecidableEq

/-- A server: its bank, what it has done, and how many connections it is serving. -/
structure Server where
  settings : ServerSettings
  bank : Bank
  counters : Counters
  isRunning : Bool
  active : Nat

/-- What has become of a connection after it was fed. -/
inductive Remainder where
  /-- It is open, and these bytes wait for the rest of their frame. -/
  | waiting (bytes : List UInt8)
  /-- It has been closed because of a malformed frame. -/
  | closed
  deriving DecidableEq

/-- The outcome of feeding a connection. -/
structure Fed where
  server : Server
  journal : Journal
  /-- The frames that are sent, in order. -/
  replies : List (List UInt8)
  remainder : Remainder

namespace ServerSettings

/-- The port of the device. -/
def defaultPort : UInt16 := 1502

/-- The most connections served at once. -/
def defaultMaxConnections : Nat := 100

/-- Listens on all addresses, never closes an idle connection and traces nothing. -/
def standard : ServerSettings :=
  ⟨⟨.v4 0 0 0 0, 0, defaultPort⟩, defaultMaxConnections, none, .off⟩

end ServerSettings

namespace Counters

/-- Nothing has been done. -/
def zero : Counters := ⟨0, 0, 0, 0, 0, 0, 0⟩

/-- A frame of so many bytes has been received. -/
def received (c : Counters) (bytes : Nat) : Counters :=
  { c with total := c.total + 1, bytesReceived := c.bytesReceived + bytes }

/-- A malformed frame or request has been met. -/
def malformed (c : Counters) : Counters := { c with failed := c.failed + 1 }

/-- A reply of so many bytes has been sent. -/
def replied (c : Counters) (isException : Bool) (bytes : Nat) : Counters :=
  let c := { c with bytesSent := c.bytesSent + bytes }
  if isException then { c with failed := c.failed + 1 }
  else { c with successful := c.successful + 1 }

end Counters

namespace Server

/-- A server that has not been started. -/
def create (settings : ServerSettings) (bank : Bank) : Server :=
  ⟨settings, bank, .zero, false, 0⟩

/-! ### Starting and stopping -/

/-- Starts a server that is not running. -/
def start (s : Server) : Except Error Server :=
  if s.isRunning then .error (.connection "Server is already running")
  else .ok { s with isRunning := true }

/-- What starting a server at an address writes. -/
def startedLines (s : Server) : Journal :=
  let idle := s.settings.idleTimeout.elim "None" fun d => s!"Some({d.exact})"
  [ .info s!"🚀 Starting Modbus TCP server on {s.settings.address.text}",
    .info s!"✅ Modbus TCP server listening on {s.settings.address.text}",
    .info s!"   - Max connections: {s.settings.maxConnections}",
    .info s!"   - Idle timeout: {idle}",
    .info s!"   - Packet logging: {s.settings.trace.name}" ]

/-- Stops a server; all its connections are closed. -/
def stop (s : Server) : Server := { s with isRunning := false, active := 0 }

/-- What stopping a server writes. -/
def stoppedLines : Journal :=
  [ .info "Shutdown signal received, stopping server", .info "⏹️  Modbus TCP server stopped" ]

/-! ### Connections -/

/-- Takes a new connection, or drops it if there are as many as there may be.  The flag says which
    of the two. -/
def accept (s : Server) : Bool × Server :=
  if s.settings.maxConnections ≤ s.active then
    (false, { s with counters := { s.counters with rejected := s.counters.rejected + 1 } })
  else
    (true, { s with
      active := s.active + 1
      counters := { s.counters with connections := s.counters.connections + 1 } })

/-- What the answer to a new connection writes. -/
def acceptLines (s : Server) (peer : String) (taken : Bool) : Journal :=
  if taken then [.info s!"📡 New client connected: {peer}"]
  else [.warn s!"Rejecting {peer}: {s.settings.maxConnections} connections already open"]

/-- A connection has ended. -/
def release (s : Server) : Server := { s with active := s.active - 1 }

/-- What the end of a connection writes. -/
def releaseLine (peer : String) : Line := .info s!"🔌 Client {peer} disconnected"

/-! ### Serving -/

/-- The outcome of serving one frame; without a reply the connection is closed. -/
structure Answered where
  server : Server
  journal : Journal
  reply : Option (List UInt8)

/-- Serves one frame. -/
def answer (s : Server) (peer : String) (f : Frame) : Answered :=
  let counters := s.counters.received f.size
  let served := s.bank.serve f.header.unit f.pdu
  match served.result with
  | .error e =>
    ⟨{ s with counters := counters.malformed },
      served.journal ++ [.warn s!"Malformed request from {peer}: {e.message}"], none⟩
  | .ok a =>
    let frame := f.header.encode ++ f.pdu
    let reply := Frame.encode f.header.transaction f.header.unit a.reply.encode
    let requestLines := a.request.elim [] (s.settings.trace.requestLines peer frame)
    ⟨{ s with
        bank := served.bank
        counters := counters.replied a.reply.isException reply.length },
      served.journal ++ requestLines ++ s.settings.trace.replyLines peer reply a.reply,
      some reply⟩

/-- Feeds a connection with the bytes it has received and not yet consumed. -/
def feed (s : Server) (peer : String) (bytes : List UInt8) : Fed :=
  match _h : Frame.next bytes with
  | .incomplete => ⟨s, [], [], .waiting bytes⟩
  | .malformed e =>
    ⟨{ s with counters := s.counters.malformed },
      [.warn s!"Malformed frame from {peer}: {e.message}"], [], .closed⟩
  | .frame f rest =>
    let answered := s.answer peer f
    match answered.reply with
    | none => ⟨answered.server, answered.journal, [], .closed⟩
    | some reply =>
      let fed := feed answered.server peer rest
      ⟨fed.server, answered.journal ++ fed.journal, reply :: fed.replies, fed.remainder⟩
termination_by bytes.length
decreasing_by exact Frame.length_lt_of_next _h

end Server

end SolarTwin

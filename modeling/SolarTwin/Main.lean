import SolarTwin.CommandLine.Program
import SolarTwin.Plant.Engine
import Std.Async.Signal
import Std.Async.TCP
import Std.Async.Timer
import Std.Time.Zoned

namespace SolarTwin.CommandLine

/-!
# Running the program

The outer layer: it reads the profile, keeps the time, moves bytes between sockets and the server,
and prints the journal.  What happens with the bytes and the time is decided elsewhere.
-/

open Std.Async Std.Async.TCP.Socket

/-- What the tasks of the program share. -/
structure World where
  server : Server
  engine : Plant.Engine
  metrics : Plant.Metrics
  /-- Whether the engine has come to a tick that has no result. -/
  halted : Bool

/-- The place where the tasks find the shared world, and the filter of their lines. -/
structure Running where
  world : IO.Ref World
  filter : LogFilter

/-! ### The journal -/

/-- The name of a level in five columns. -/
def levelColumn (l : Level) : String := if l.name.length < 5 then l.name ++ " " else l.name

/-- Prints the lines that pass the filter. -/
def printLines (filter : LogFilter) (target : String) (lines : Journal) : IO Unit := do
  let now ← Std.Time.Timestamp.now
  let time := Std.Time.DateTime.ofTimestamp now .UTC
  let stamp := time.format "uuuu-MM-dd'T'HH:mm:ss.SSS'Z'"
  for line in lines do
    if filter.passes target line then
      IO.eprintln s!"[{stamp} {levelColumn line.level} {target}] {line.text}"

/-- Prints lines of a running program. -/
def Running.say (r : Running) (lines : Journal) : IO Unit := printLines r.filter libraryTarget lines

/-! ### The engine -/

/-- The local time. -/
def localTime : IO DateTime := do
  let t ← Std.Time.PlainDateTime.now
  return ⟨⟨t.year.toInt, t.month.toNat, t.day.toNat⟩, t.hour.val.toNat, t.minute.val.toNat,
    t.second.val.toNat⟩

/-- Runs one tick and records how long it took. -/
def Running.tick (r : Running) (elapsed : Duration) : IO Unit := do
  let now ← localTime
  let started ← IO.monoNanosNow
  let journal ← r.world.modifyGet fun w =>
    match w.engine.tick w.server.bank now elapsed.toSeconds with
    | .ok (_, engine, board) =>
      (board.journal, { w with engine, server := { w.server with bank := board.bank } })
    | .error _ => ([], { w with halted := true })
  let took : Duration := ⟨(← IO.monoNanosNow) - started⟩
  let overrun ← r.world.modifyGet fun w =>
    let budget := Duration.ofMillis w.engine.parameters.updateInterval.toNat
    (Plant.Metrics.lines took budget, { w with metrics := w.metrics.record took budget })
  r.say (journal ++ overrun)

/-- Waits for some time. -/
def pause (d : Duration) : Async Unit :=
  Std.Async.sleep (Std.Time.Millisecond.Offset.ofNat (d.nanos / 1000000))

/-- Runs tick after tick; each counts the time since the start of the one before. -/
partial def Running.engineLoop (r : Running) (last : Option Nat) : Async Unit := do
  let started ← IO.monoNanosNow
  let interval := Duration.ofMillis (← r.world.get).engine.parameters.updateInterval.toNat
  r.tick (last.elim interval fun before => ⟨started - before⟩)
  if (← r.world.get).halted then return
  pause ⟨interval.nanos - ((← IO.monoNanosNow) - started)⟩
  r.engineLoop (some started)

/-! ### Connections -/

/-- The text of a peer's address. -/
def peerText (address : Std.Net.SocketAddress) : String :=
  let parsed : Network.SocketAddress :=
    match address with
    | .v4 a =>
      let o := a.addr.octets
      ⟨.v4 o[0] o[1] o[2] o[3], 0, a.port⟩
    | .v6 a => ⟨.v6 a.addr.segments.toList, 0, a.port⟩
  parsed.text

/-- The next bytes of a client; none at the end of the stream or after some time. -/
def receive (client : Client) (limit : Option Duration) : Async (Option ByteArray) := do
  match limit with
  | none => client.recv? 4096
  | some limit =>
    let timer ← Selector.sleep (Std.Time.Millisecond.Offset.ofNat (limit.nanos / 1000000))
    Selectable.one #[
      .case (client.recvSelector 4096) pure,
      .case timer fun _ => pure none ]

/-- Serves a client until it or the server closes the connection.  The idle timeout is counted from
    the last complete frame. -/
partial def Running.serve (r : Running) (client : Client) (peer : String) (waiting : List UInt8)
    (since : Nat) : Async Unit := do
  let idle := (← r.world.get).server.settings.idleTimeout
  let gone := (← IO.monoNanosNow) - since
  match ← receive client (idle.map fun limit => ⟨limit.nanos - gone⟩) with
  | none => return
  | some bytes =>
    let fed ← r.world.modifyGet fun w =>
      let fed := w.server.feed peer (waiting ++ bytes.toList)
      (fed, { w with server := fed.server })
    r.say fed.journal
    for reply in fed.replies do
      client.send ⟨reply.toArray⟩
    match fed.remainder with
    | .closed => return
    | .waiting rest =>
      let now ← IO.monoNanosNow
      r.serve client peer rest (if fed.replies.isEmpty then since else now)

/-- Serves a client that has been accepted, and notes its end. -/
def Running.attend (r : Running) (client : Client) (peer : String) : Async Unit := do
  try r.serve client peer [] (← IO.monoNanosNow)
  catch e => r.say [.debug s!"Connection {peer} closed: I/O error: {e}"]
  r.world.modify fun w => { w with server := w.server.release }
  r.say [Server.releaseLine peer]

/-- Accepts clients. -/
partial def Running.acceptLoop (r : Running) (listener : TCP.Socket.Server) : Async Unit := do
  let client ← listener.accept
  let peer := peerText (← client.getPeerName)
  let (taken, server) ← r.world.modifyGet fun w =>
    let (taken, server) := w.server.accept
    ((taken, server), { w with server })
  r.say (server.acceptLines peer taken)
  if taken then background (r.attend client peer)
  r.acceptLoop listener

/-- The address to listen on, for the sockets. -/
def socketAddress (a : Network.SocketAddress) : Std.Net.SocketAddress :=
  match a.ip with
  | .v4 x y z w => .v4 ⟨.ofParts x y z w, a.port⟩
  | .v6 gs =>
    let g (i : Nat) : UInt16 := gs.getD i 0
    .v6 ⟨.ofParts (g 0) (g 1) (g 2) (g 3) (g 4) (g 5) (g 6) (g 7), a.port⟩

/-! ### The program -/

/-- The content of a file. -/
def contentOf (path : String) : IO (Except FileFault ByteArray) := do
  try return .ok (← IO.FS.readBinFile path)
  catch e =>
    return .error <| match e with
      | .noFileOrDirectory .. => .notFound
      | .permissionDenied .. => .permissionDenied
      | .inappropriateType .. => .isDirectory
      | other => .stated other.toString

/-- Waits for a signal that ends the program. -/
def awaitSignal : Async StopSignal := do
  let interrupt ← Signal.Waiter.mk .sigint false
  let terminate ← Signal.Waiter.mk .sigterm false
  Selectable.one #[
    .case interrupt.selector fun _ => pure .interrupt,
    .case terminate.selector fun _ => pure .terminate ]

/-- Listens and runs the plant until a signal comes. -/
def serveUntilSignal (o : Options) (loaded : Loaded) : Async UInt32 := do
  let seed := (← IO.getRandomBytes 8).toList.foldl (fun n b => n * 256 + b.toUInt64) 0
  let p := loaded.profile.parameters
  let (engine, board) :=
    Plant.Engine.launch loaded.bank loaded.profile.identity p (.ofSeed seed)
  let server := Server.create o.settings board.bank
  let world ← IO.mkRef (World.mk server engine .fresh false)
  let r : Running := ⟨world, o.filter⟩
  r.say (board.journal ++ [Plant.Engine.startedLine p])
  background (r.engineLoop none)
  let listener ← TCP.Socket.Server.mk
  try
    listener.bind (socketAddress o.settings.address)
    listener.listen 1024
  catch e =>
    let failure := Error.connection s!"Failed to bind to {o.settings.address.text}: {e}"
    printLines o.filter target [.error s!"❌ {failure.message}"]
    return 1
  world.modify fun w => { w with server := (w.server.start.toOption).getD w.server }
  r.say server.startedLines
  let opened ← IO.monoNanosNow
  background (r.acceptLoop listener)
  let signal ← awaitSignal
  printLines o.filter target (signalLines signal)
  world.modify fun w => { w with server := w.server.stop }
  let w ← world.get
  r.say (Server.stoppedLines ++ [w.engine.stoppedLine])
  let metrics := if w.halted then none else some w.metrics
  printLines o.filter target
    (closingLines metrics w.server.counters ⟨(← IO.monoNanosNow) - opened⟩)
  return if w.halted then 1 else 0

/-- Runs the program under its options. -/
def runProgram (o : Options) : IO UInt32 := do
  let o := { o with logLevel := (← IO.getEnv "RUST_LOG").or o.logLevel }
  let (lines, loaded) := start o.path (← contentOf o.path)
  printLines o.filter target lines
  match loaded with
  | none => return 1
  | some loaded => (serveUntilSignal o loaded).block

end SolarTwin.CommandLine

/-- Serves a simulated inverter over Modbus TCP until it is interrupted. -/
def main (arguments : List String) : IO UInt32 := do
  match SolarTwin.CommandLine.Options.read arguments with
  | .ok o => SolarTwin.CommandLine.runProgram o
  | .error e =>
    match e.output? with
    | some text => IO.println text
    | none => IO.eprintln "error: the arguments cannot be accepted; try --help"
    return UInt32.ofNat e.exitCode

import SolarTwin.Bank.Basic
import SolarTwin.CommandLine.LogFilter
import SolarTwin.CommandLine.Options
import SolarTwin.Plant.Metrics
import SolarTwin.Profile.File

namespace SolarTwin.CommandLine

/-!
# The program

What the program says of itself, how it gets from a profile to a bank, and what it writes on the
way and in the end.
-/

/-- The version of the program. -/
def version : String := "0.1.0"

/-- What the program is. -/
def about : String := "Modbus TCP digital twin of an SMA-style solar inverter"

/-- The program with its version and purpose. -/
def banner : String := s!"Voltage Twin v{version} - {about}"

/-- The text that answers a question for the version. -/
def versionText : String := s!"voltage-twin {version}"

/-- The text that answers a question for help. -/
def helpText : String :=
  "\n".intercalate
    [ about,
      "",
      "Usage: inverter_twin [OPTIONS] [PROFILE]",
      "",
      "Arguments:",
      "  [PROFILE]  Device profile (YAML or JSON)",
      "",
      "Options:",
      "  -c, --config <CONFIG>",
      "          Device profile, takes precedence over the positional argument",
      "  -p, --port <PORT>",
      "          TCP port to listen on [default: 1502]",
      "      --bind <BIND>",
      "          Address to bind [default: 0.0.0.0]",
      "      --log-level <LOG_LEVEL>",
      "          Default log filter, overridden by RUST_LOG [default: info]",
      "      --packet-log <PACKET_LOG>",
      "          Packet tracing: off, raw, interpreted or both [default: off]",
      "      --idle-timeout-secs <IDLE_TIMEOUT_SECS>",
      "          Close client connections idle for this many seconds",
      "  -h, --help",
      "          Print help",
      "  -V, --version",
      "          Print version" ]

namespace Ending

/-- The exit code of a program that does not run. -/
def exitCode : Ending → Nat
  | .help | .version => 0
  | .misuse => 2

/-- What a program that does not run prints. -/
def output? : Ending → Option String
  | .help => some helpText
  | .version => some versionText
  | .misuse => none

end Ending

/-- The target of the lines the program itself writes. -/
def target : String := "inverter_twin"

/-- The target of all other lines. -/
def libraryTarget : String := "voltage_twin"

/-- The filter for the lines, which is `info` unless an option says otherwise. -/
def Options.filter (o : Options) : LogFilter := .ofText (o.logLevel.getD "info")

/-- A profile that has been loaded, and its bank. -/
structure Loaded where
  profile : Profile
  bank : Bank

/-- Gets from the content of the profile's file to a bank, with the lines written on the way. -/
def start (path : String) (content : Except FileFault ByteArray) : Journal × Option Loaded :=
  let greeting := Line.info s!"🚀 {banner}"
  match Profile.load path content with
  | .error e => ([greeting, .error s!"❌ Invalid profile {path}: {e.message}"], none)
  | .ok profile =>
    let loaded := Line.info (s!"📄 Loaded profile {path} ({profile.entries.length} registers, " ++
      s!"unit {profile.identity.unit.toNat})")
    match profile.registers.bind Bank.ofRegisters with
    | .error e =>
      ([greeting, loaded, .error s!"❌ Failed to initialize register bank: {e.message}"], none)
    | .ok bank =>
      let ready := Line.info (s!"🔧 Register bank ready: {bank.stats.logicalRegisters} registers, "
        ++ s!"{bank.stats.mappedWords} words")
      ([greeting, loaded, ready], some ⟨profile, bank⟩)

/-- The signals that end the program. -/
inductive StopSignal where
  | interrupt
  | terminate
  deriving DecidableEq

/-- What is written when a signal ends the program. -/
def signalLines (signal : StopSignal) : Journal :=
  [ .info (if signal = .interrupt then "Ctrl+C received" else "SIGTERM received"),
    .info "🛑 Shutting down..." ]

/-- What is written in the end; an engine that has failed leaves no metrics. -/
def closingLines (metrics : Option Plant.Metrics) (c : Counters) (uptime : Duration) : Journal :=
  let failure := Error.internal "Simulation task failed"
  [ metrics.elim (.error s!"Failed to stop simulation engine: {failure.message}") fun m =>
      .info m.text,
    .info "📊 Server statistics:",
    .info s!"   - Uptime: {uptime.seconds}s",
    .info s!"   - Connections: {c.connections} ({c.rejected} rejected)",
    .info s!"   - Requests: {c.total} ({c.successful} ok, {c.failed} failed)",
    .info s!"   - Bytes: {c.bytesReceived} received, {c.bytesSent} sent" ]

end SolarTwin.CommandLine

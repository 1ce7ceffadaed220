import SolarTwin.Modbus.Trace
import SolarTwin.Network.Address
import SolarTwin.Server

namespace SolarTwin.CommandLine

/-!
# Options

The command line names a profile and sets options.  Arguments are read from left to right: the
first one that cannot be accepted, or that asks for help or for the version, decides.

* an option is a long name behind two hyphens or a letter behind one; its value is attached to it
  or is the next argument, which must not itself begin with a hyphen;
* no option may come twice, and there is at most one other argument, the profile;
* behind two hyphens alone there are no more options.
-/

/-- What the command line says; what it leaves out is missing. -/
structure Options where
  profile : Option String := none
  config : Option String := none
  port : Option UInt16 := none
  bind : Option Network.IpAddress := none
  logLevel : Option String := none
  trace : Option Modbus.TraceMode := none
  /-- Seconds after which an idle connection is closed. -/
  idleTimeout : Option Nat := none

/-- An option with a value. -/
inductive Key where
  | config
  | port
  | bind
  | logLevel
  | trace
  | idleTimeout
  deriving DecidableEq

/-- Why the program does not run. -/
inductive Ending where
  | help
  | version
  | misuse
  deriving DecidableEq

/-- What an argument is. -/
inductive Argument where
  /-- No more options behind this argument. -/
  | terminator
  | asks (e : Ending)
  /-- An option; its value may be the next argument. -/
  | setting (key : Key) (value : Option String)
  | other (text : String)

namespace Key

/-- The key of a long name. -/
def ofName? : String → Option Key
  | "config" => some .config
  | "port" => some .port
  | "bind" => some .bind
  | "log-level" => some .logLevel
  | "packet-log" => some .trace
  | "idle-timeout-secs" => some .idleTimeout
  | _ => none

/-- The key of a letter. -/
def ofLetter? : Char → Option Key
  | 'c' => some .config
  | 'p' => some .port
  | _ => none

end Key

namespace Argument

/-- The argument with a long name and perhaps a value. -/
def long (name : String) (value : Option String) : Argument :=
  match Key.ofName? name with
  | some key => .setting key value
  | none =>
    match name, value with
    | "help", none => .asks .help
    | "version", none => .asks .version
    | _, _ => .asks .misuse

/-- The argument with a letter and what is attached to it. -/
def short (letter : Char) (attached : List Char) : Argument :=
  match Key.ofLetter? letter with
  | some key =>
    match attached with
    | [] => .setting key none
    | '=' :: value => .setting key (some (String.ofList value))
    | value => .setting key (some (String.ofList value))
  | none =>
    if letter = 'h' then .asks .help
    else if letter = 'V' then .asks .version
    else .asks .misuse

/-- What an argument is, read by itself. -/
def ofText (text : String) : Argument :=
  match text.toList with
  | ['-', '-'] => .terminator
  | '-' :: '-' :: rest =>
    let name := rest.takeWhile (· ≠ '=')
    match rest.drop name.length with
    | [] => long (String.ofList name) none
    | _ :: value => long (String.ofList name) (some (String.ofList value))
  | '-' :: letter :: attached => short letter attached
  | _ => .other text

/-- Whether an argument can be the value of the option in front of it. -/
def isValue (text : String) : Bool :=
  match ofText text with
  | .other _ => true
  | _ => false

end Argument

namespace Options

/-- A natural number below a bound in decimal digits; a plus sign may stand in front. -/
def natural? (bound : Nat) (text : String) : Option Nat :=
  let digits := match text.toList with
    | '+' :: cs => cs
    | cs => cs
  if digits.isEmpty ∨ digits.any (!·.isDigit) then none
  else
    let n := Binary64.ofDigits digits
    if n < bound then some n else none

/-- A port: a number with any sign that is not negative. -/
def port? (text : String) : Option UInt16 :=
  match text.toList with
  | '-' :: digits =>
    if digits.head?.any Char.isDigit then
      (natural? 1 (String.ofList digits)).map UInt16.ofNat
    else none
  | _ => (natural? 65536 text).map UInt16.ofNat

/-- A path, which is never empty. -/
def path? (text : String) : Option String := if text.isEmpty then none else some text

/-- Puts a value where there must be none yet. -/
def fill {α : Type} (old : Option α) (value : Option α) : Except Ending (Option α) :=
  if old.isSome ∨ value.isNone then .error .misuse else .ok value

/-- Sets an option. -/
def set (o : Options) (key : Key) (text : String) : Except Ending Options := do
  match key with
  | .config => return { o with config := ← fill o.config (path? text) }
  | .port => return { o with port := ← fill o.port (port? text) }
  | .bind => return { o with bind := ← fill o.bind (Network.IpAddress.ofText? text) }
  | .logLevel => return { o with logLevel := ← fill o.logLevel (some text) }
  | .trace => return { o with trace := ← fill o.trace (Modbus.TraceMode.parse text).toOption }
  | .idleTimeout =>
    return { o with idleTimeout := ← fill o.idleTimeout (natural? (18446744073709551616) text) }

/-- Sets the profile. -/
def setProfile (o : Options) (text : String) : Except Ending Options := do
  return { o with profile := ← fill o.profile (path? text) }

/-- Reads arguments on top of what has been read. -/
def readFrom (o : Options) : List String → Except Ending Options
  | [] => .ok o
  | text :: rest =>
    match Argument.ofText text with
    | .terminator => rest.foldlM setProfile o
    | .asks e => .error e
    | .other text => (o.setProfile text).bind fun o => o.readFrom rest
    | .setting key (some value) => (o.set key value).bind fun o => o.readFrom rest
    | .setting key none =>
      match rest with
      | [] => .error .misuse
      | value :: rest =>
        if Argument.isValue value then (o.set key value).bind fun o => o.readFrom rest
        else .error .misuse

/-- Reads the arguments of the program. -/
def read (arguments : List String) : Except Ending Options := readFrom {} arguments

/-- The path of the profile: the option goes before the argument. -/
def path (o : Options) : String :=
  (o.config.or o.profile).getD "sma_inverter_profile.yaml"

/-- How the server works under these options. -/
def settings (o : Options) : ServerSettings where
  address := ⟨o.bind.getD (.v4 0 0 0 0), 0, o.port.getD ServerSettings.defaultPort⟩
  maxConnections := ServerSettings.defaultMaxConnections
  idleTimeout := o.idleTimeout.map fun seconds => .ofSeconds seconds 0
  trace := o.trace.getD .off

end Options

end SolarTwin.CommandLine

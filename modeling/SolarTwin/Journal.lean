namespace SolarTwin

/-!
# The journal

What the twin writes while it works: lines with a level.  Functions that can write return their
lines beside their result, in the order in which they are written.
-/

/-- How urgent a line is. -/
inductive Level where
  | error
  | warn
  | info
  | debug
  deriving DecidableEq

/-- One line of the journal. -/
structure Line where
  level : Level
  text : String
  deriving DecidableEq

/-- A journal, oldest line first. -/
abbrev Journal := List Line

namespace Level

/-- The name a level is printed with. -/
def name : Level → String
  | .error => "ERROR"
  | .warn => "WARN"
  | .info => "INFO"
  | .debug => "DEBUG"

/-- The rank of a level: a filter of rank `n` lets the levels of rank at most `n` pass. -/
def rank : Level → Nat
  | .error => 1
  | .warn => 2
  | .info => 3
  | .debug => 4

end Level

namespace Line

/-- An error line. -/
def error (text : String) : Line := ⟨.error, text⟩

/-- A warning. -/
def warn (text : String) : Line := ⟨.warn, text⟩

/-- A line of interest to everyone. -/
def info (text : String) : Line := ⟨.info, text⟩

/-- A line for tracing. -/
def debug (text : String) : Line := ⟨.debug, text⟩

end Line

end SolarTwin

import SolarTwin.Binary64.Whole

namespace SolarTwin

/-!
# Display formats

A format says how a stored integer is to be read: as a plain number, a code, or a quantity with a
fixed number of implied decimal places.  It never changes how the integer is stored; the plant
uses it to scale the quantities it publishes.
-/

/-- How a stored integer is displayed. -/
inductive Format where
  | raw
  | enumeration
  | fix0
  | fix1
  | fix2
  | fix3
  | fix4
  | dateTime
  | firmware
  | temperature
  | duration
  deriving DecidableEq

/-- What clients may do with a register.  Reading is always allowed. -/
inductive Access where
  | readOnly
  | readWrite
  | writeOnly
  deriving DecidableEq

namespace Format

/-- The name a format goes by in profiles. -/
def name : Format → String
  | .raw => "RAW"
  | .enumeration => "ENUM"
  | .fix0 => "FIX0"
  | .fix1 => "FIX1"
  | .fix2 => "FIX2"
  | .fix3 => "FIX3"
  | .fix4 => "FIX4"
  | .dateTime => "DT"
  | .firmware => "FW"
  | .temperature => "TEMP"
  | .duration => "Duration"

/-- All formats. -/
def all : List Format :=
  [.raw, .enumeration, .fix0, .fix1, .fix2, .fix3, .fix4, .dateTime, .firmware, .temperature,
    .duration]

/-- The format of a name; case matters. -/
def ofName? (text : String) : Option Format := all.find? (·.name == text)

/-- The number of implied decimal places. -/
def decimals : Format → Nat
  | .fix1 | .temperature => 1
  | .fix2 => 2
  | .fix3 => 3
  | .fix4 => 4
  | _ => 0

/-- The factor between a quantity and its stored integer. -/
def scale (f : Format) : Float :=
  match f.decimals with
  | 0 => 1.0
  | 1 => 10.0
  | 2 => 100.0
  | 3 => 1000.0
  | _ => 10000.0

/-- The stored integer of a quantity: scaled and rounded to nearest, a half away from zero.
    Quantities out of range give the nearest 64-bit integer, NaN gives zero. -/
def toRaw (f : Format) (quantity : Float) : Int :=
  Binary64.toBounded Binary64.minSigned64 Binary64.maxSigned64
    (Binary64.round (quantity * f.scale))

/-- The quantity a stored integer stands for. -/
def toReal (f : Format) (raw : Int) : Float :=
  Binary64.ofInt raw / f.scale

end Format

namespace Access

/-- The name an access right goes by in profiles. -/
def name : Access → String
  | .readOnly => "RO"
  | .readWrite => "RW"
  | .writeOnly => "WO"

/-- All access rights. -/
def all : List Access := [.readOnly, .readWrite, .writeOnly]

/-- The access right of a name; case matters. -/
def ofName? (text : String) : Option Access := all.find? (·.name == text)

/-- Whether clients may write. -/
def isWritable : Access → Bool
  | .readOnly => false
  | .readWrite | .writeOnly => true

end Access

end SolarTwin

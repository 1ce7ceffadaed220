import SolarTwin.Binary64.Decimal
import SolarTwin.Profile.Basic

namespace SolarTwin

/-!
# Writing profiles

The records of a profile are lists of named fields, in the order in which they are documented.
`Profile.yaml` writes a profile in block style, one field a line: every field is written, also one
that holds its default, and what is not printable ASCII in a text is escaped.
-/

/-- The content of a field. -/
inductive Field where
  | number (n : Int)
  | real (x : Float)
  /-- One of several fixed names. -/
  | choice (name : String)
  | text (text : String)

/-- A record with named fields. -/
abbrev Record := List (String × Field)

/-! ### Fields -/

/-- The fields of an identity. -/
def Identity.fields (i : Identity) : Record :=
  [ ("unit_id", .number i.unit.toNat),
    ("serial_number", .number i.serialNumber.toNat),
    ("susy_id", .number i.susyId.toNat),
    ("device_class", .number i.deviceClass.toNat),
    ("manufacturer", .number i.manufacturer.toNat),
    ("software_package", .number i.softwarePackage.toNat) ]

/-- The fields of the parameters, the list of the weather apart. -/
def Parameters.fields (p : Parameters) : Record :=
  [ ("update_interval_ms", .number p.updateInterval.toNat),
    ("max_power_watts", .real p.ratedPower),
    ("efficiency_percent", .real p.efficiency),
    ("max_internal_temp_celsius", .real p.maxTemperature),
    ("fault_probability_percent", .real p.faultProbability),
    ("power_variation_percent", .real p.powerVariation),
    ("phase_imbalance_percent", .real p.phaseImbalance),
    ("voltage_variation_percent", .real p.voltageVariation),
    ("grid_voltage_nominal", .real p.gridVoltage),
    ("grid_frequency_nominal", .real p.gridFrequency),
    ("frequency_variation_hz", .real p.frequencyVariation),
    ("daily_yield_reset_hour", .number p.resetHour.toNat),
    ("ambient_temp_celsius", .real p.ambientTemperature),
    ("startup_delay_seconds", .number p.startupDelay.toNat),
    ("shutdown_delay_seconds", .number p.shutdownDelay.toNat),
    ("weather_change_interval_seconds", .number p.weatherInterval.toNat) ]

/-- The fields of a kind of weather. -/
def Weather.fields (w : Weather) : Record :=
  [ ("name", .text w.name),
    ("power_multiplier", .real w.power),
    ("temp_increase_factor", .real w.heating) ]

/-- The fields of an entry; a missing value and an empty name are left out. -/
def Entry.fields (e : Entry) : Record :=
  [ ("address", .number e.address.toNat),
    ("type", .choice e.kind.name),
    ("format", .choice e.format.name),
    ("access", .choice e.access.name) ] ++
  (e.value.toList.map fun n => ("value", .number n)) ++
  if e.name.isEmpty then [] else [("name", .text e.name)]

/-! ### Text -/

namespace Profile

/-- A character inside double quotes. -/
def quotedChar (c : Char) : List Char :=
  if c = '"' ∨ c = '\\' then ['\\', c]
  else if ' ' ≤ c ∧ c ≤ '~' then [c]
  else
    let digits := Nat.toDigits 16 c.toNat
    '\\' :: 'U' :: (List.replicate (8 - digits.length) '0' ++ digits)

/-- A text in double quotes. -/
def quoted (text : String) : String :=
  String.ofList ('"' :: text.toList.flatMap quotedChar ++ ['"'])

/-- A double; infinities and NaN are written with a point in front. -/
def realText (x : Float) : String :=
  if x.isNaN then ".nan"
  else if x.isInf then (if x < 0.0 then "-.inf" else ".inf")
  else Binary64.plain x

/-- The text of a field's content. -/
def fieldText : Field → String
  | .number n => toString n
  | .real x => realText x
  | .choice name => name
  | .text text => quoted text

/-- The lines of a record, the first behind `first` and the others behind as many blanks. -/
def recordLines (first : String) (fields : Record) : List String :=
  let blanks := String.ofList (List.replicate first.length ' ')
  fields.mapIdx fun i (name, content) =>
    (if i = 0 then first else blanks) ++ name ++ ": " ++ fieldText content

/-- A list of records under a key, each behind a dash. -/
def listLines (blanks key : String) (items : List Record) : List String :=
  if items.isEmpty then [blanks ++ key ++ ": []"]
  else (blanks ++ key ++ ":") :: items.flatMap (recordLines (blanks ++ "  - "))

/-- The text of a profile. -/
def yaml (p : Profile) : String :=
  let lines :=
    "device_identity:" :: recordLines "  " p.identity.fields ++
    "simulation_parameters:" :: recordLines "  " p.parameters.fields ++
    listLines "  " "weather_models" (p.parameters.weather.map Weather.fields) ++
    listLines "" "registers" (p.entries.map Entry.fields)
  "\n".intercalate lines ++ "\n"

end Profile

end SolarTwin

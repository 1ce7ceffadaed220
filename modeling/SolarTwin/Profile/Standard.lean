import SolarTwin.Profile.Basic

namespace SolarTwin.Profile

/-!
# The standard profile

A three-phase inverter of five kilowatts.  Registers below 40001 are read with the function for
input registers, those from 40001 on with the functions for holding registers.
-/

/-- A read-only entry without initial value. -/
def measured (address : UInt16) (kind : Kind) (format : Format) (name : String) : Entry :=
  ⟨address, kind, format, .readOnly, none, name⟩

/-- A read-only entry with an initial value. -/
def preset (address : UInt16) (kind : Kind) (format : Format) (value : Int) (name : String) :
    Entry :=
  ⟨address, kind, format, .readOnly, some value, name⟩

/-- An entry for commands, with an initial value. -/
def command (address : UInt16) (value : Int) (name : String) : Entry :=
  ⟨address, .u32, .enumeration, .readWrite, some value, name⟩

/-- Who the device is. -/
def identityEntries : List Entry :=
  [ measured 30003 .u32 .raw "SUSy ID",
    measured 30005 .u32 .raw "Serial number",
    measured 30051 .u32 .enumeration "Device class",
    measured 30053 .u32 .raw "SUSy ID (mirror)",
    measured 30055 .u32 .enumeration "Manufacturer",
    measured 30057 .u32 .raw "Serial number (mirror)",
    measured 30059 .u32 .firmware "Software package",
    measured 30231 .u32 .fix0 "Rated active power" ]

/-- The state of the device. -/
def statusEntries : List Entry :=
  [ preset 30201 .u32 .enumeration 307 "Device status",
    preset 30217 .u32 .enumeration 311 "Grid contactor" ]

/-- The counters of energy and time. -/
def counterEntries : List Entry :=
  [ preset 30513 .u64 .fix0 0 "Total yield (Wh)",
    preset 30517 .u64 .fix0 0 "Daily yield (Wh)",
    preset 30521 .u64 .duration 0 "Operating time",
    preset 30525 .u64 .duration 0 "Feed-in time",
    preset 30599 .u32 .fix0 0 "Grid connections" ]

/-- What is measured at the inputs, at the output and on the grid. -/
def telemetryEntries : List Entry :=
  [ measured 30769 .s32 .fix3 "DC current A",
    measured 30771 .s32 .fix2 "DC voltage A",
    measured 30773 .s32 .fix0 "DC power A",
    measured 30775 .s32 .fix0 "AC active power",
    measured 30777 .s32 .fix0 "AC power L1",
    measured 30779 .s32 .fix0 "AC power L2",
    measured 30781 .s32 .fix0 "AC power L3",
    measured 30783 .u32 .fix2 "Grid voltage L1",
    measured 30785 .u32 .fix2 "Grid voltage L2",
    measured 30787 .u32 .fix2 "Grid voltage L3",
    measured 30797 .u32 .fix3 "Grid current",
    measured 30803 .u32 .fix2 "Grid frequency",
    measured 30805 .s32 .fix0 "Reactive power",
    measured 30813 .s32 .fix0 "Apparent power",
    measured 30949 .u32 .fix3 "Power factor",
    measured 30953 .s32 .temperature "Internal temperature",
    measured 30957 .s32 .fix3 "DC current B",
    measured 30959 .s32 .fix2 "DC voltage B",
    measured 30961 .s32 .fix0 "DC power B",
    measured 30977 .s32 .fix3 "Grid current L1",
    measured 30979 .s32 .fix3 "Grid current L2",
    measured 30981 .s32 .fix3 "Grid current L3" ]

/-- What clients can tell the device. -/
def commandEntries : List Entry :=
  [ command 40009 295 "Operating state (295 = MPP, 381 = stop)",
    command 40011 0 "Acknowledge error (26 = acknowledge)" ]

/-- The profile of the device the twin was made for. -/
def standard : Profile where
  identity := {}
  parameters := { faultProbability := 0.001 }
  entries := identityEntries ++ statusEntries ++ counterEntries ++ telemetryEntries ++
    commandEntries

end SolarTwin.Profile

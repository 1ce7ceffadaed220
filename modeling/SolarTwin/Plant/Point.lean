namespace SolarTwin.Plant.Point

/-!
# Telemetry points

The addresses of the registers through which the plant and its clients talk: where the plant
publishes, and where it looks for commands.  A profile may leave out any of them.
-/

/-! ### Identity, published once -/

/-- The model number. -/
def susyId : UInt16 := 30003

/-- The serial number. -/
def serialNumber : UInt16 := 30005

/-- The class of the device. -/
def deviceClass : UInt16 := 30051

/-- The model number once more. -/
def susyIdMirror : UInt16 := 30053

/-- The manufacturer. -/
def manufacturer : UInt16 := 30055

/-- The serial number once more. -/
def serialNumberMirror : UInt16 := 30057

/-- The software package. -/
def softwarePackage : UInt16 := 30059

/-- The rated power. -/
def ratedPower : UInt16 := 30231

/-! ### Status -/

/-- The state of the device. -/
def deviceStatus : UInt16 := 30201

/-- Whether the grid contactor is closed. -/
def gridContactor : UInt16 := 30217

/-! ### Counters -/

/-- Energy in watt hours. -/
def totalYield : UInt16 := 30513

/-- Energy of the day in watt hours. -/
def dailyYield : UInt16 := 30517

/-- Seconds in operation. -/
def operatingTime : UInt16 := 30521

/-- Seconds of feeding in. -/
def feedInTime : UInt16 := 30525

/-- Whole hours on the grid. -/
def gridConnections : UInt16 := 30599

/-! ### DC inputs -/

/-- Current of the first input. -/
def dcCurrentA : UInt16 := 30769

/-- Voltage of the first input. -/
def dcVoltageA : UInt16 := 30771

/-- Power of the first input. -/
def dcPowerA : UInt16 := 30773

/-- Current of the second input. -/
def dcCurrentB : UInt16 := 30957

/-- Voltage of the second input. -/
def dcVoltageB : UInt16 := 30959

/-- Power of the second input. -/
def dcPowerB : UInt16 := 30961

/-! ### AC output and grid -/

/-- Active power. -/
def acPower : UInt16 := 30775

/-- Active power of the first phase. -/
def acPowerL1 : UInt16 := 30777

/-- Active power of the second phase. -/
def acPowerL2 : UInt16 := 30779

/-- Active power of the third phase. -/
def acPowerL3 : UInt16 := 30781

/-- Voltage of the first phase. -/
def gridVoltageL1 : UInt16 := 30783

/-- Voltage of the second phase. -/
def gridVoltageL2 : UInt16 := 30785

/-- Voltage of the third phase. -/
def gridVoltageL3 : UInt16 := 30787

/-- Current of all phases. -/
def gridCurrent : UInt16 := 30797

/-- Current of the first phase. -/
def gridCurrentL1 : UInt16 := 30977

/-- Current of the second phase. -/
def gridCurrentL2 : UInt16 := 30979

/-- Current of the third phase. -/
def gridCurrentL3 : UInt16 := 30981

/-- Frequency of the grid. -/
def gridFrequency : UInt16 := 30803

/-- Reactive power. -/
def reactivePower : UInt16 := 30805

/-- Apparent power. -/
def apparentPower : UInt16 := 30813

/-- Power factor. -/
def powerFactor : UInt16 := 30949

/-- Temperature inside. -/
def temperature : UInt16 := 30953

/-! ### Commands -/

/-- Start and stop. -/
def operatingCommand : UInt16 := 40009

/-- Acknowledgement of an error. -/
def acknowledgeCommand : UInt16 := 40011

end SolarTwin.Plant.Point

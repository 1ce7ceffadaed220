import SolarTwin.Main
import SolarTwin.Profile.Standard
import SolarTwin.Profile.Tree
import SolarTwin.Profile.Writing
import SolarTwin.Proofs.Register.Words
import SolarTwin.Proofs.Bank.View
import SolarTwin.Proofs.Bank.Change
import SolarTwin.Proofs.Bank.Block
import SolarTwin.Proofs.Bank.History
import SolarTwin.Proofs.Modbus.Decoding
import SolarTwin.Proofs.Modbus.Service
import SolarTwin.Proofs.Bank.Registers
import SolarTwin.Proofs.Modbus.Isolation
import SolarTwin.Proofs.Modbus.Framing
import SolarTwin.Proofs.Server.Stream
import SolarTwin.Proofs.Plant.Chance
import SolarTwin.Proofs.Plant.Publishing
import SolarTwin.Proofs.Plant.Ticking
import SolarTwin.Proofs.Plant.Counting
import SolarTwin.Proofs.Plant.Halting
import SolarTwin.Proofs.Bank.Stores
import SolarTwin.Proofs.Plant.Transitions
import SolarTwin.Proofs.Plant.Frame
import SolarTwin.Proofs.Plant.Status
import SolarTwin.Proofs.Plant.Feedback
import SolarTwin.Proofs.Calendar
import SolarTwin.Proofs.Plant.Runs
import SolarTwin.Proofs.Plant.Restart
import SolarTwin.Proofs.Plant.Reset
import SolarTwin.Proofs.Plant.Yields
import SolarTwin.Proofs.Modbus.Writing
import SolarTwin.Proofs.Plant.Acknowledging
import SolarTwin.Proofs.Modbus.Replies
import SolarTwin.Proofs.Modbus.ReadingBack
import SolarTwin.Proofs.Modbus.Verdict
import SolarTwin.Proofs.Modbus.Commuting
import SolarTwin.Proofs.Server.Interleaving
import SolarTwin.Proofs.Profile.Starting
import SolarTwin.Proofs.Bank.Loading
import SolarTwin.Proofs.Modbus.Grammar
import SolarTwin.Proofs.Plant.Weather
import SolarTwin.Proofs.Binary64.Value
import SolarTwin.Proofs.Binary64.Rounding
import SolarTwin.Proofs.Binary64.Whole
import SolarTwin.Proofs.Plant.Watts
import SolarTwin.Proofs.Plant.Phases
import SolarTwin.Proofs.Modbus.Headers
import SolarTwin.Proofs.Bank.Reading
import SolarTwin.Proofs.Modbus.Warnings
import SolarTwin.Proofs.Binary64.Nearest
import SolarTwin.Proofs.Binary64.Order
import SolarTwin.Proofs.Plant.Hours
import SolarTwin.Proofs.Modbus.Indexing
import SolarTwin.Proofs.Modbus.Translation
import SolarTwin.Proofs.Bank.Sizes
import SolarTwin.Proofs.Plant.Metrics
import SolarTwin.Proofs.Register.Cells
import SolarTwin.Proofs.Register.Conversions
import SolarTwin.Proofs.Bank.Owner
import SolarTwin.Proofs.Modbus.Dumps

import Coalesce.Main
import Coalesce.Proofs.Interleaving
import Coalesce.Simulation.Schedule
import Coalesce.Worker.Run
import Coalesce.Proofs.Moves
import Coalesce.Proofs.Exclusion
import Coalesce.Proofs.Outstanding
import Coalesce.Proofs.Wakeup
import Coalesce.Proofs.Crash
import Coalesce.Proofs.Recovery
import Coalesce.Proofs.Daemon
import Coalesce.Proofs.WireFormat
import Coalesce.Proofs.Pool
import Coalesce.Proofs.Storm
import Coalesce.Proofs.Archives
import Coalesce.Proofs.Consumption
import Coalesce.Proofs.Discipline
import Coalesce.Proofs.Cycles
import Coalesce.Proofs.FlagStores
import Coalesce.Proofs.Delivery
import Coalesce.Proofs.Publishing
import Coalesce.Proofs.Survey
import Coalesce.Proofs.ErrorPaths
import Coalesce.Proofs.Numeral
import Coalesce.Proofs.Grammar
import Coalesce.Proofs.NormalForm
import Coalesce.Proofs.Bindings
import Coalesce.Proofs.Stopping
import Coalesce.Proofs.Rerouting
import Coalesce.Proofs.Roster
import Coalesce.Proofs.Assembly
import Coalesce.Proofs.Variables
import Coalesce.Proofs.SendCounts

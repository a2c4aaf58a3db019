import Contention.Main
import Contention.Phase.SpawnError
import Contention.Phase.Trial
import Contention.Proofs.Config
import Contention.Proofs.Occupancy.Tally
import Contention.Proofs.Phase.Abandonment
import Contention.Proofs.Signals.Once
import Contention.Proofs.Spellings
import Contention.Proofs.Stall.HoldAndWait
import Contention.Proofs.Stall.Latency
import Contention.Proofs.WaitGraph.Passes
import Contention.Proofs.WaitGraph.Reordering
import Contention.Proofs.Worker.Aftermath
import Contention.Proofs.Worker.Draws
import Contention.Proofs.Worker.Exits
import Contention.Proofs.Worker.Hazards
import Contention.Proofs.Worker.Remains
import Contention.Proofs.Worker.Standstill
import Contention.Proofs.Workshop.Diagnosis
import Contention.Proofs.Workshop.Handling
import Contention.Worker.Trial
import Contention.Workshop.Session
import Contention.Workshop.Standoff

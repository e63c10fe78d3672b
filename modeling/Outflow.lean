import Outflow.Proofs.Arrival
import Outflow.Proofs.Blocks
import Outflow.Proofs.Counts
import Outflow.Proofs.Deferred
import Outflow.Proofs.Draining
import Outflow.Proofs.Fifo
import Outflow.Proofs.Gathering
import Outflow.Proofs.Isolation
import Outflow.Proofs.Laden
import Outflow.Proofs.Limit
import Outflow.Proofs.Notices
import Outflow.Proofs.Presence
import Outflow.Proofs.Separation
import Outflow.Proofs.Slot
import Outflow.Proofs.Sticky
import Outflow.Proofs.Synchrony
import Outflow.Proofs.Writeout
import Outflow.Scenario.Run
import Outflow.Trial.Config
import Outflow.Trial.Error
import Outflow.Trial.Marker
import Outflow.Trial.Permit
import Outflow.Trial.Store
import Outflow.Trial.Transport

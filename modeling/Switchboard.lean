import Switchboard.Cluster
import Switchboard.Tracing.Subscriber
import Switchboard.Settings.Ambient
import Switchboard.Proofs.Delivery
import Switchboard.Proofs.Absence
import Switchboard.Proofs.Attendance
import Switchboard.Proofs.Isolation
import Switchboard.Proofs.Interleaving
import Switchboard.Proofs.Sweep
import Switchboard.Proofs.Pruning
import Switchboard.Proofs.Queueing
import Switchboard.Proofs.Consistency
import Switchboard.Proofs.Accounting
import Switchboard.Proofs.Capacity
import Switchboard.Proofs.Ordering
import Switchboard.Proofs.Independence
import Switchboard.Proofs.Unicast
import Switchboard.Proofs.Lifecycle
import Switchboard.Proofs.Variables
import Switchboard.Proofs.RoundTrip
import Switchboard.Proofs.Lifetimes
import Switchboard.Proofs.Decoding
import Switchboard.Proofs.Sources
import Switchboard.Proofs.Completion
import Switchboard.Proofs.Logging
import Switchboard.Proofs.Reckoning
import Switchboard.Proofs.Membership
import Switchboard.Proofs.Eviction

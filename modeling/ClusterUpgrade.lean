import ClusterUpgrade.Main
import ClusterUpgrade.Proofs.Schedule.InFlight
import ClusterUpgrade.Proofs.Schedule.Draining
import ClusterUpgrade.Proofs.Schedule.Idempotence
import ClusterUpgrade.Proofs.Schedule.Consent
import ClusterUpgrade.Proofs.Schedule.Preview
import ClusterUpgrade.Proofs.Schedule.Interruption
import ClusterUpgrade.Proofs.Schedule.LiveUpgrades
import ClusterUpgrade.Proofs.Schedule.AutomaticGates
import ClusterUpgrade.Proofs.Program.Admission
import ClusterUpgrade.Proofs.Program.ReadOnly
import ClusterUpgrade.Proofs.Schedule.OutOfScope
import ClusterUpgrade.Proofs.Schedule.NodePools
import ClusterUpgrade.Proofs.Schedule.OneScheduled
import ClusterUpgrade.Proofs.Http.Replies
import ClusterUpgrade.Proofs.Schedule.Partition
import ClusterUpgrade.Proofs.Wire.RoundTrip
import ClusterUpgrade.Proofs.Program.Token
import ClusterUpgrade.Proofs.Version.RawId
import ClusterUpgrade.Proofs.Schedule.ConsentToken
import ClusterUpgrade.Proofs.Schedule.GateDiscovery
import ClusterUpgrade.Proofs.Schedule.Validation
import ClusterUpgrade.Proofs.Schedule.Candidates
import ClusterUpgrade.Proofs.Schedule.Paging
import ClusterUpgrade.Proofs.Version.OldestFirst
import ClusterUpgrade.Proofs.Http.Routes

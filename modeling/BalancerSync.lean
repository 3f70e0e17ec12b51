import BalancerSync.Main
import BalancerSync.Rehearsal
import BalancerSync.Proofs.Isolation
import BalancerSync.Proofs.Agreement
import BalancerSync.Proofs.Inference
import BalancerSync.Proofs.Calls
import BalancerSync.Proofs.Atomic
import BalancerSync.Proofs.Ports
import BalancerSync.Proofs.Notices
import BalancerSync.Proofs.Stable
import BalancerSync.Proofs.Range
import BalancerSync.Proofs.Floating
import BalancerSync.Proofs.Report
import BalancerSync.Proofs.Tape
import BalancerSync.Proofs.Routine
import BalancerSync.Proofs.Commands
import BalancerSync.Proofs.Capability
import BalancerSync.Proofs.Provenance
import BalancerSync.Proofs.Recognition
import BalancerSync.Proofs.Refresh
import BalancerSync.Proofs.Graph
import BalancerSync.Proofs.Lines
import BalancerSync.Proofs.Filters
import BalancerSync.Proofs.Family
import BalancerSync.Proofs.Patch
import BalancerSync.Proofs.Retry

import ReservedArray.Allocator.Stack
import ReservedArray.Buffer.Array
import ReservedArray.Element.Samples
import ReservedArray.Permutations
import ReservedArray.Proofs.Arena.Capacity
import ReservedArray.Proofs.Arena.Isolation
import ReservedArray.Proofs.Arena.Relocation
import ReservedArray.Proofs.Arena.Reports
import ReservedArray.Proofs.Bounded.Filling
import ReservedArray.Proofs.Bounded.Runs
import ReservedArray.Proofs.Causes
import ReservedArray.Proofs.Conservation.Blocks
import ReservedArray.Proofs.Conservation.Elements
import ReservedArray.Proofs.Course.Array
import ReservedArray.Proofs.Demand.HookCalls
import ReservedArray.Proofs.Demand.Peak
import ReservedArray.Proofs.Demand.Supply
import ReservedArray.Proofs.Enumeration
import ReservedArray.Proofs.Gauge
import ReservedArray.Proofs.Holdings
import ReservedArray.Proofs.Interchange.Script
import ReservedArray.Proofs.Leak
import ReservedArray.Proofs.Lineage
import ReservedArray.Proofs.Rollback
import ReservedArray.Proofs.SortedSearch
import ReservedArray.Proofs.Sound
import ReservedArray.Proofs.StableSort
import ReservedArray.Proofs.Succession.Order
import ReservedArray.Proofs.Unwinding
import ReservedArray.Proofs.Windows
import ReservedArray.Proofs.Wrapping.Budget
import ReservedArray.Proofs.Wrapping.Native
import ReservedArray.Proofs.Wrapping.Resize
import ReservedArray.Proofs.Wrapping.Sharing
import ReservedArray.Proofs.Wrapping.Transparency
import ReservedArray.Workbench.Blocks
import ReservedArray.Workbench.Roster
import ReservedArray.Workbench.Single

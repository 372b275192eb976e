import Tenancy.System.State

/-!
`Reconciler.reconcile` of `internal/reconciler/reconciler.go`, one call a step. Every
replica runs it, with no lease.

* `list`: `ListByStatus(Running)`; an error ends the pass.
* `check`: `PodExists("zeroclaw-<id>", namespace)` in the reconciler's namespace; an error
  or an existing pod moves on to the next record.
* `demote`: `UpdateStatus(Idle, "", "")`; on error the pass moves on.
* `clearCache`: `DEL router:endpoint:<id>`.

A cancelled context stops the pass, which the model has as the pass never being scheduled
again. The log keeps each check's answer, and for each demotion the record and whether the
pod exists at that moment.
-/

namespace Tenancy

namespace Sys

/-- The next call of process `i`, a `reconcile` pass. -/
def reconcileStep (s : Sys) (i : Nat) (ok : Bool) : ReconPc → Option Sys
  | .list =>
    some (s.setProc i (.reconcile (if ok then .check (DynamoClient.listByStatus s.reg statusRunning)
      else .done)))
  | .check [] => some (s.setProc i (.reconcile .done))
  | .check (t :: ts) =>
    if ok then
      let found := (s.cluster.getPod s.cfg.ns (podName t.tenantID)).isSome
      some ((s.setProc i (.reconcile (if found then .check ts else .demote t ts))).emit
        (.reconChecked i t.tenantID found))
    else some (s.setProc i (.reconcile (.check ts)))
  | .demote t ts =>
    let s' := s.emit (.reconDemoted i t.tenantID (DynamoClient.getTenant s.reg t.tenantID)
      (s.cluster.getPod s.cfg.ns (podName t.tenantID)).isSome)
    if ok then
      some ({ s' with reg := DynamoClient.updateStatus s.reg s.now t.tenantID statusIdle "" "" }.setProc
        i (.reconcile (.clearCache t ts)))
    else some (s'.setProc i (.reconcile (.check ts)))
  | .clearCache t ts =>
    let cache := if ok then Function.update s.cache t.tenantID none else s.cache
    some ({ s with cache := cache }.setProc i (.reconcile (.check ts)))
  | .done => none

end Sys

end Tenancy

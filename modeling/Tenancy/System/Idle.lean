import Tenancy.System.State

/-!
`Controller.checkIdleTenants` of `internal/lifecycle` (`controller.go`), one call a step.
Only the leader runs it; a pass in flight when leadership moves is not stopped before its
next call, so passes may overlap and the model lets them.

* `scan`: `ListIdleTenants(5 * time.Minute)`.
* `check`: for the next scanned record, `time.Since(LastActiveAt) < timeout` skips it;
  otherwise `DeletePod(PodName, Namespace, 30)`, and on error the record is skipped. The
  threshold is `idleThreshold`, computed on 64-bit integers as Go does.
* `demote`: `UpdateStatus(Idle, "", "")`, its error logged.

The pass decides from its scan alone: neither write re-reads the record. The log keeps, for
each write, the scanned record, the record as it is at the write, and the clock.
-/

namespace Tenancy

/-- The scan window of the pass, `5 * time.Minute`. -/
def idleScanWindow : Int := 300 * nsPerSec

/-- `time.Duration(IdleTimeoutS) * time.Second`, wrapping at 64 bits as the Go product does,
with 5 minutes in place of zero. -/
def idleThreshold (idleTimeoutS : Int) : Int :=
  if Int.bmod (idleTimeoutS * nsPerSec) (2 ^ 64) = 0 then 300 * nsPerSec
  else Int.bmod (idleTimeoutS * nsPerSec) (2 ^ 64)

namespace Sys

/-- The next call of process `i`, a `checkIdleTenants` pass. -/
def idleStep (s : Sys) (i : Nat) (ok : Bool) : IdlePc → Option Sys
  | .scan =>
    some (s.setProc i (.idle (if ok then .check (DynamoClient.listIdleTenants s.reg s.now
      idleScanWindow) else .done)))
  | .check [] => some (s.setProc i (.idle .done))
  | .check (t :: ts) =>
    if s.now - t.lastActiveAt < idleThreshold t.idleTimeoutS then
      some (s.setProc i (.idle (.check ts)))
    else
      let s' := s.emit (.idleDeletedPod t.tenantID t (DynamoClient.getTenant s.reg t.tenantID) s.now)
      if ok then
        some ({ s' with cluster := s.cluster.deletePod t.ns t.podName 30 }.setProc i
          (.idle (.demote t ts)))
      else some (s'.setProc i (.idle (.check ts)))
  | .demote t ts =>
    let s' := s.emit (.idleDemoted t.tenantID t (DynamoClient.getTenant s.reg t.tenantID) s.now)
    let reg := if ok then DynamoClient.updateStatus s.reg s.now t.tenantID statusIdle "" "" else s.reg
    some ({ s' with reg := reg }.setProc i (.idle (.check ts)))
  | .done => none

end Sys

end Tenancy

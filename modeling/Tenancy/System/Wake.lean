import Tenancy.System.State

/-!
`Handler.wakeOrGet` and `pollUntilRunning` of `internal/api/handler.go`, one call a step.

* `start`: `GetTenant`; a Running record with a `pod_ip` is returned at once (the fast
  path).
* `acquire`: `AcquireWakeLock` with `WakeLockTTL`; a caller that does not get the lock
  polls (`poll`: a `GetTenant` of `pollUntilRunning`, returning the first Running address;
  a failed poll is the loop's timeout or a cancelled context). The record read at `start`
  is not read again.
* `autoCreate`: on a missing record, `CreateTenant` of a Provisioning record, its error
  ignored; the pipeline goes on with its own copy of the record.
* `createPV`, `createPVC`: the two `Create`s of `CreatePVC`.
* `listWarm`, `claimWarm`, `deleteWarm`: `GetWarmPod` (the list, then the conditional
  relabel of each eligible candidate in turn) and the zero-grace `DeletePod` of the claimed
  warm pod; its node pins the tenant pod. A failed list is a warm-pool miss.
* `createPod`, `getPod`: `CreateTenantPod`, which on AlreadyExists returns a `Get` of the
  existing pod, whatever its state.
* `waitReady`: a poll of `WaitPodReady` seeing the pod Running with an IP; a failure is the
  timeout.
* `commit`: `UpdateStatus(Running, pod.Name, podIP)`.
* `release`: the deferred `ReleaseWakeLock`, on every exit after the lock was taken.

Every successful return is logged (`wakeReturned`), as are the start of the slow path at the
warm-pool claim (`claimStarted`), the pods created (`podCreated`) and the commits with the
pod `WaitPodReady` read (`committed`).
-/

namespace Tenancy

/-- `ns`: the record's namespace, or the handler's when the record has none. -/
def wakeNamespace (cfg : Config) (rec : TenantRecord) : String :=
  if rec.ns ≠ "" then rec.ns else cfg.ns

/-- The record `wakeOrGet` creates for an unknown tenant. -/
def provisioningRecord (cfg : Config) (now : Int) (tenantID : String) : TenantRecord :=
  ⟨tenantID, statusProvisioning, "", "", cfg.ns, "tenants/" ++ tenantID ++ "/", "", now, now, 300⟩

namespace Sys

/-- Process `i`, a `wakeOrGet` of `t` holding the lock until `lu`, moves to `pc`. -/
def wakeTo (s : Sys) (i : Nat) (t : String) (lu : Option Int) (pc : WakePc) : Sys :=
  s.setProc i (.wake t lu pc)

/-- The next call of process `i`, a `wakeOrGet` of tenant `t`. -/
def wakeStep (s : Sys) (i : Nat) (ok : Bool) (t : String) (lu : Option Int) :
    WakePc → Option Sys
  | .start =>
    if ok then
      match DynamoClient.getTenant s.reg t with
      | some r =>
        if r.status = statusRunning ∧ r.podIP ≠ "" then
          some ((s.wakeTo i t lu (.done (some r.podIP))).emit (.wakeReturned i t r.podIP))
        else some (s.wakeTo i t lu (.acquire (some r)))
      | none => some (s.wakeTo i t lu (.acquire none))
    else some (s.wakeTo i t lu (.done none))
  | .acquire record =>
    if ok then
      match acquireWakeLock s.locks s.now t s.cfg.wakeLockTTL i with
      | (true, locks) =>
        some ({ s with locks := locks }.wakeTo i t (some (s.now + s.cfg.wakeLockTTL))
          (match record with
           | some r => .createPV r (wakeNamespace s.cfg r)
           | none => .autoCreate))
      | (false, _) => some (s.wakeTo i t lu .poll)
    else some (s.wakeTo i t lu (.done none))
  | .poll =>
    if ok then
      match DynamoClient.getTenant s.reg t with
      | some r =>
        if r.status = statusRunning ∧ r.podIP ≠ "" then
          some ((s.wakeTo i t lu (.done (some r.podIP))).emit (.wakeReturned i t r.podIP))
        else some s
      | none => some s
    else some (s.wakeTo i t lu (.done none))
  | .autoCreate =>
    let record := provisioningRecord s.cfg s.now t
    let reg := if ok then (DynamoClient.createTenant s.reg record).getD s.reg else s.reg
    some ({ s with reg := reg }.wakeTo i t lu (.createPV record (wakeNamespace s.cfg record)))
  | .createPV record ns =>
    if ok then some ({ s with cluster := s.cluster.createPV t }.wakeTo i t lu (.createPVC record ns))
    else some (s.wakeTo i t lu (.release none))
  | .createPVC record ns =>
    if ok then
      some ({ s with cluster := s.cluster.createPVC t ns }.wakeTo i t lu (.listWarm record ns))
    else some (s.wakeTo i t lu (.release none))
  | .listWarm record ns =>
    if ok then
      some ((s.wakeTo i t lu (.claimWarm record ns (s.cluster.listWarmPods ns))).emit
        (.claimStarted i t))
    else some ((s.wakeTo i t lu (.createPod record ns "")).emit (.claimStarted i t))
  | .claimWarm record ns cands =>
    match cands.dropWhile (fun p => !Cluster.warmEligible p) with
    | [] => some (s.wakeTo i t lu (.createPod record ns ""))
    | p :: rest =>
      match (if ok then s.cluster.claimWarmPod p else none) with
      | some (p', c) => some ({ s with cluster := c }.wakeTo i t lu (.deleteWarm record ns p'))
      | none => some (s.wakeTo i t lu (.claimWarm record ns rest))
  | .deleteWarm record ns warm =>
    let c := if ok then s.cluster.deletePod ns warm.name 0 else s.cluster
    some ({ s with cluster := c }.wakeTo i t lu (.createPod record ns warm.nodeName))
  | .createPod record ns node =>
    if ok then
      let pod := s.cluster.tenantPod t ns record.botToken node
      match s.cluster.createPod pod with
      | some c =>
        some (({ s with cluster := c }.wakeTo i t lu (.waitReady ns pod)).emit
          (.podCreated ns pod.name i))
      | none => some (s.wakeTo i t lu (.getPod ns))
    else some (s.wakeTo i t lu (.release none))
  | .getPod ns =>
    match (if ok then s.cluster.getPod ns (podName t) else none) with
    | some p => some (s.wakeTo i t lu (.waitReady ns p))
    | none => some (s.wakeTo i t lu (.release none))
  | .waitReady ns pod =>
    if ok then (s.cluster.readyPod ns (podName t)).map fun p => s.wakeTo i t lu (.commit pod p p.podIP)
    else some (s.wakeTo i t lu (.release none))
  | .commit pod seen ip =>
    if ok then
      some (({ s with reg := DynamoClient.updateStatus s.reg s.now t statusRunning pod.name ip }.wakeTo
        i t lu (.release (some ip))).emit (.committed i t ip seen))
    else some (s.wakeTo i t lu (.release none))
  | .release result =>
    let s' := { s with locks := if ok then releaseWakeLock s.locks t else s.locks }.wakeTo i t none
      (.done result)
    match result with
    | some ip => some (s'.emit (.wakeReturned i t ip))
    | none => some s'
  | .done _ => none

end Sys

end Tenancy

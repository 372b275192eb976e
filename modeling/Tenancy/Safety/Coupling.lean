import Tenancy.Invariant.Step

/-!
Address coupling of the registry (`wakeOrGet` commits, `UpdateStatus` of the idle
controller and the reconciler, `CreateTenant`, the upserts of `UpdateActivity`).

* `record_status_coupled`: **in every reachable deployment a Running record names its
  tenant's pod `zeroclaw-<id>` and holds an address, and an Idle or Terminated record holds
  neither**. Every write of the status writes the pod name and the address with it, and
  the commit writes the name of the pod `CreateTenantPod` returned and the address
  `WaitPodReady` saw, both carried by `WakePc.Wf`.
-/

namespace Tenancy

/-- **Records couple their status with their pod fields.** -/
theorem record_status_coupled {cfg : Config} {s : Sys} (hs : Reachable cfg s) {id : String}
    {r : TenantRecord} (hr : DynamoClient.getTenant s.reg id = some r) :
    (r.status = statusRunning → r.podName = podName r.tenantID ∧ r.podIP ≠ "") ∧
      (r.status = statusIdle ∨ r.status = statusTerminated → r.podName = "" ∧ r.podIP = "") :=
  let hw := hs.inv.reg id r hr
  ⟨hw.running, hw.stopped⟩

/-- A tenant created and woken: its Running record is coupled. -/
theorem record_status_coupled_after_wake :
    Reachable (Config.orchestrator "tenants" false)
        (Sys.runFrom (Config.orchestrator "tenants" false)
          (Act.createAndWake 0 "tenants" "a" "10.0.0.1")) ∧
      DynamoClient.getTenant (Sys.runFrom (Config.orchestrator "tenants" false)
          (Act.createAndWake 0 "tenants" "a" "10.0.0.1")).reg "a" =
        some ⟨"a", statusRunning, "zeroclaw-a", "10.0.0.1", "tenants", "tenants/a/", "", 0, 0, 300⟩ ∧
      ((statusRunning = statusRunning → "zeroclaw-a" = podName "a" ∧ "10.0.0.1" ≠ "") ∧
        (statusRunning = statusIdle ∨ statusRunning = statusTerminated →
          "zeroclaw-a" = "" ∧ "10.0.0.1" = "")) :=
  have hs := Reachable.runFrom (by decide)
  have hr := by decide
  ⟨hs, hr, record_status_coupled hs hr⟩

end Tenancy

import Tenancy.Invariant.Step

/-!
What one `checkIdleTenants` pass knows when it evicts (`Controller.checkIdleTenants`,
against `UpdateActivity` and `wakeOrGet` commits).

* `idleBudget`: the budget `docs/configuration.md` states, `idle_timeout_s` seconds, 300
  by default;
  `idleThreshold_eq_idleBudget`: the controller's 64-bit product is that budget when it
  does not overflow;
* `idleThreshold_eq_idleBudget_iff`: **it is that budget exactly for `idle_timeout_s`
  between -9223372036 and 9223372036**; `idle_timeout_wraps`: a tenant stored with
  9223372037 s loses its pod after 301 s idle;
* `idle_pass_evicts_refreshed_tenant`: a run in which the pass deletes the pod of a tenant
  whose activity `UpdateActivity` refreshed after the scan: the pass decides on the
  scanned record and reads nothing before `DeletePod`;
* `idle_eviction_follows_scan`: **every `DeletePod` and `UpdateStatus(Idle)` of a pass is
  issued for a record its scan returned Running, with at least the record's budget elapsed
  since that record's `last_active_at`**, the budget computed as the Go code computes it.
-/

namespace Tenancy

/-- The idle budget of `docs/configuration.md` ("idle timeout in seconds (default: 300)"), in
nanoseconds: `idle_timeout_s` seconds, 5 minutes when it is zero. -/
def idleBudget (idleTimeoutS : Int) : Int :=
  if idleTimeoutS = 0 then 300 * nsPerSec else idleTimeoutS * nsPerSec

lemma idleThreshold_eq_idleBudget {n : Int} (h₁ : -2 ^ 63 ≤ n * nsPerSec)
    (h₂ : n * nsPerSec < 2 ^ 63) : idleThreshold n = idleBudget n := by
  have hb : Int.bmod (n * nsPerSec) (2 ^ 64) = n * nsPerSec := by
    rw [Int.bmod_def]
    omega
  have hz : n * nsPerSec = 0 ↔ n = 0 := by simp [nsPerSec]
  unfold idleThreshold idleBudget
  rw [hb]
  by_cases hn : n = 0 <;> simp [hn, hz]

/-- **The 64-bit product wraps exactly outside ±9223372036 s.** The controller's threshold is
the documented budget for those `idle_timeout_s` values only; every other one, though a valid
`int64` that `CreateTenant` and `UpdateTenant` store as sent, gets a wrapped threshold. -/
lemma idleThreshold_eq_idleBudget_iff (n : Int) :
    idleThreshold n = idleBudget n ↔ -9223372036 ≤ n ∧ n ≤ 9223372036 := by
  have hlo : -(2 ^ 63) ≤ Int.bmod (n * nsPerSec) (2 ^ 64) := Int.le_bmod (by decide)
  have hhi : Int.bmod (n * nsPerSec) (2 ^ 64) < 2 ^ 63 := Int.bmod_lt (by decide)
  refine ⟨fun h => ?_, fun h => idleThreshold_eq_idleBudget (by unfold nsPerSec; omega)
    (by unfold nsPerSec; omega)⟩
  unfold idleThreshold idleBudget at h
  unfold nsPerSec at *
  split_ifs at h <;> omega

/-- Tenant `a` created with `idle_timeout_s` 9223372037 (about 292 years) and woken at time
0; 301 s later an idle pass scans it. -/
def wrappedTimeoutRun : List Act :=
  [.request (.createTenant "a" "" 9223372037), .run 0 true, .request (.wake "a")] ++ Act.calls 1 7 ++
    [.podReady "tenants" (podName "a") "10.0.0.1"] ++ Act.calls 1 3 ++
    [.tick 301000000000, .request .idlePass, .run 2 true, .run 2 true]

/-- The pass deletes the pod of a tenant idle for 301 s whose timeout is 9223372037 s: the
product wraps to a negative threshold. -/
theorem idle_timeout_wraps :
    ¬ ∀ cfg s, Reachable cfg s → ∀ t snap cur now, Event.idleDeletedPod t snap cur now ∈ s.log →
      (if 0 < snap.idleTimeoutS then snap.idleTimeoutS * nsPerSec else 300 * nsPerSec) ≤
        now - snap.lastActiveAt := by
  intro h
  have := h _ _ (@Reachable.runFrom (Config.orchestrator "tenants" false) wrappedTimeoutRun (by decide)) "a"
    ⟨"a", statusRunning, "zeroclaw-a", "10.0.0.1", "tenants", "tenants/a/", "", 0, 0, 9223372037⟩
    (some ⟨"a", statusRunning, "zeroclaw-a", "10.0.0.1", "tenants", "tenants/a/", "", 0, 0, 9223372037⟩)
    301000000000 (by decide)
  exact absurd this (by decide)

/-- Every eviction is justified at the moment it is made: the record is then Running and
idle for at least its budget (the lifecycle controller's row of `docs/cli-migration.md`:
running → idle if `now - last_active_at > idle_timeout_s`). -/
def EvictionsJustified (log : List Event) : Prop :=
  ∀ t snap cur now, Event.idleDeletedPod t snap cur now ∈ log ∨ Event.idleDemoted t snap cur now ∈ log →
    ∃ r, cur = some r ∧ r.status = statusRunning ∧ idleBudget r.idleTimeoutS ≤ now - r.lastActiveAt

/-- Tenant `a` woken at time 0; five minutes later an idle pass scans it, an
`UpdateActivity` refreshes it, and the pass deletes its pod. -/
def refreshedEvictionRun : List Act :=
  Act.createAndWake 0 "tenants" "a" "10.0.0.1" ++
    [.tick 301000000000, .request .idlePass, .run 2 true, .request (.updateActivity "a"),
     .run 3 true, .run 2 true]

/-- The pass deletes the pod of a tenant active at that moment. -/
theorem idle_pass_evicts_refreshed_tenant :
    ¬ ∀ cfg s, Reachable cfg s → EvictionsJustified s.log := by
  intro h
  have := h _ _ (Reachable.runFrom (by decide)) "a"
    ⟨"a", statusRunning, "zeroclaw-a", "10.0.0.1", "tenants", "tenants/a/", "", 0, 0, 300⟩
    (some ⟨"a", statusRunning, "zeroclaw-a", "10.0.0.1", "tenants", "tenants/a/", "", 0,
      301000000000, 300⟩) 301000000000
    (.inl (show _ ∈ (Sys.runFrom (Config.orchestrator "tenants" false) refreshedEvictionRun).log
      by decide))
  obtain ⟨r, hr, -, hb⟩ := this
  cases hr
  exact absurd hb (by decide)

/-- **Evictions follow the scanned record.** -/
theorem idle_eviction_follows_scan {cfg : Config} {s : Sys} (hs : Reachable cfg s)
    {t : String} {snap : TenantRecord} {cur : Option TenantRecord} {now : Int}
    (he : Event.idleDeletedPod t snap cur now ∈ s.log ∨ Event.idleDemoted t snap cur now ∈ s.log) :
    snap.tenantID = t ∧ snap.status = statusRunning ∧
      idleThreshold snap.idleTimeoutS ≤ now - snap.lastActiveAt ∧
      (-2 ^ 63 ≤ snap.idleTimeoutS * nsPerSec → snap.idleTimeoutS * nsPerSec < 2 ^ 63 →
        idleBudget snap.idleTimeoutS ≤ now - snap.lastActiveAt) := by
  have ⟨ht, hrun, hle⟩ : snap.tenantID = t ∧ snap.status = statusRunning ∧
      idleThreshold snap.idleTimeoutS ≤ now - snap.lastActiveAt := by
    rcases he with he | he <;> obtain ⟨_, _, h⟩ := hs.inv.log.of_mem he <;> exact h
  exact ⟨ht, hrun, hle, fun h₁ h₂ => idleThreshold_eq_idleBudget h₁ h₂ ▸ hle⟩

theorem idle_eviction_follows_scan_sample :
    Reachable (Config.orchestrator "tenants" false)
        (Sys.runFrom (Config.orchestrator "tenants" false) refreshedEvictionRun) ∧
      (Event.idleDeletedPod "a"
          ⟨"a", statusRunning, "zeroclaw-a", "10.0.0.1", "tenants", "tenants/a/", "", 0, 0, 300⟩
          (some ⟨"a", statusRunning, "zeroclaw-a", "10.0.0.1", "tenants", "tenants/a/", "", 0,
            301000000000, 300⟩) 301000000000 ∈
          (Sys.runFrom (Config.orchestrator "tenants" false) refreshedEvictionRun).log ∨
        Event.idleDemoted "a"
          ⟨"a", statusRunning, "zeroclaw-a", "10.0.0.1", "tenants", "tenants/a/", "", 0, 0, 300⟩
          (some ⟨"a", statusRunning, "zeroclaw-a", "10.0.0.1", "tenants", "tenants/a/", "", 0,
            301000000000, 300⟩) 301000000000 ∈
          (Sys.runFrom (Config.orchestrator "tenants" false) refreshedEvictionRun).log) ∧
      ("a" = "a" ∧ statusRunning = statusRunning ∧
        idleThreshold 300 ≤ 301000000000 - 0 ∧
        (-2 ^ 63 ≤ 300 * nsPerSec → 300 * nsPerSec < 2 ^ 63 → idleBudget 300 ≤ 301000000000 - 0)) :=
  have hs := Reachable.runFrom (by decide)
  have he := .inl (by decide)
  ⟨hs, he, idle_eviction_follows_scan hs he⟩

end Tenancy

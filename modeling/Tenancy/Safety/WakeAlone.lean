import Tenancy.Invariant.Footprint

/-!
One `wakeOrGet` call on its own (`Handler.wakeOrGet` of `internal/api/handler.go`, through
`AcquireWakeLock`, `CreatePVC`, `GetWarmPod`, `DeletePod`, `CreateTenantPod`,
`WaitPodReady`, `UpdateStatus` and `ReleaseWakeLock`): no other process moves between its
calls, every call succeeds, and the kubelet reports the tenant pod Running once it exists.

* `Sys.wakeRecord`, `Sys.wakeNs`: the record the slow path works with (the one `GetTenant`
  read, or the Provisioning record it creates) and the namespace it works in;
* `Cluster.Vacant`: no pod bears the tenant pod's name there, and no pod holds the address
  the kubelet will give it; every cluster call of the slow path keeps it;
* `Sys.wake_prepare_run`: the read, the lock, the record, the PV, the PVC and the warm-pool
  list;
* `Sys.wake_claim_run`: the listed candidates, tried in turn, until one is relabelled and
  deleted or none is left;
* `Sys.wake_finish_run`: the tenant pod's creation and readiness, the commit and the release;
* `wake_alone_returns_ready_address`: **from any state in which the tenant is not Running
  with an address, its wake lock is free, no pod bears its pod's name and no pod holds
  `ip`, a wake alone, every call succeeding and the kubelet giving its pod `ip`, returns
  `ip`, leaves the record Running at `ip` and the tenant's own pod Running there as the one
  pod at `ip`, and frees the lock**.
-/

namespace Tenancy

/-- The record the slow path of a wake of `t` works with: the one `GetTenant` read, or the
Provisioning record `wakeOrGet` creates for an unknown tenant. -/
def Sys.wakeRecord (s : Sys) (t : String) : TenantRecord :=
  (DynamoClient.getTenant s.reg t).getD (provisioningRecord s.cfg s.now t)

/-- The namespace the slow path of a wake of `t` works in. -/
def Sys.wakeNs (s : Sys) (t : String) : String := wakeNamespace s.cfg (s.wakeRecord t)

/-! ### The cluster the slow path needs -/

namespace Cluster

/-- No pod `ns/podName t`, and no pod at address `ip`. -/
structure Vacant (c : Cluster) (ns t ip : String) : Prop where
  pod : c.getPod ns (podName t) = none
  addr : ∀ p ∈ c.pods, p.podIP ≠ ip

variable {c c' : Cluster} {ns t ip : String}

@[simp] lemma tenantPod_name (tok node : String) : (c.tenantPod t ns tok node).name = podName t := rfl
@[simp] lemma tenantPod_tenant (tok node : String) : (c.tenantPod t ns tok node).tenant = t := rfl

lemma Vacant.of_pods (h : c.Vacant ns t ip) (he : c'.pods = c.pods) : c'.Vacant ns t ip :=
  ⟨by rw [getPod, he]; exact h.pod, fun p hp => h.addr p (he ▸ hp)⟩

/-- A cluster whose pods are pods of `c`, or at other addresses, under names `c` has. -/
lemma Vacant.of_shrinks (h : c.Vacant ns t ip) (hs : Shrinks c c')
    (ha : ∀ p ∈ c'.pods, p ∈ c.pods ∨ p.podIP ≠ ip) : c'.Vacant ns t ip := by
  refine ⟨?_, fun p hp => (ha p hp).elim (h.addr p) id⟩
  cases hc : c'.getPod ns (podName t) with
  | none => rfl
  | some p =>
    have := hs _ _ (getPod_isSome_iff.1 (by rw [hc]; rfl))
    rw [← getPod_isSome_iff, h.pod] at this
    cases this

/-- Relabelling a pod of the cluster keeps it vacant. -/
lemma Vacant.claim (h : c.Vacant ns t ip) {p p' : Pod} (hc : c.claimWarmPod p = some (p', c'))
    (hp : p ∈ c.pods) : c'.Vacant ns t ip := by
  refine h.of_shrinks (.claimWarmPod hc) fun q hq => ?_
  unfold claimWarmPod at hc
  split at hc
  · split_ifs at hc
    cases hc
    simp only [modifyPod, List.mem_map] at hq
    obtain ⟨x, hx, rfl⟩ := hq
    split_ifs
    · exact .inr (h.addr p hp)
    · exact .inl hx
  · cases hc

/-- `DeletePod` keeps the cluster vacant. -/
lemma Vacant.deletePod (h : c.Vacant ns t ip) (ns' name : String) (grace : Nat) :
    (c.deletePod ns' name grace).Vacant ns t ip := by
  refine h.of_shrinks (.deletePod grace) fun q hq => ?_
  unfold Cluster.deletePod at hq
  split_ifs at hq
  · exact .inl (List.mem_filter.1 hq).1
  · simp only [modifyPod, List.mem_map] at hq
    obtain ⟨x, hx, rfl⟩ := hq
    split_ifs
    · exact .inr (h.addr x hx)
    · exact .inl hx

/-- `CreateTenantPod` in a vacant cluster creates the pod, and the kubelet then reports it
Running at `ip`: `WaitPodReady` sees it, and it is the one pod at `ip`. -/
lemma Vacant.createPod_ready (h : c.Vacant ns t ip) (hip : ip ≠ "") (tok node : String) :
    ∃ c₁ c₂ p, c.createPod (c.tenantPod t ns tok node) = some c₁ ∧ c₁.podReady ns (podName t) ip = some c₂ ∧
      c₂.readyPod ns (podName t) = some p ∧ c₂.podAt ip = some p ∧
      (∀ q ∈ c₂.pods, q.podIP = ip → q = p) ∧ p.tenant = t ∧ p.podIP = ip := by
  have hnone : ∀ x ∈ c.pods, x.is ns (podName t) = false := by simpa [getPod] using h.pod
  have hfind : c.pods.find? (·.podIP == ip) = none := List.find?_eq_none.2 fun x hx => by simpa using h.addr x hx
  let c₁ : Cluster := { c with pods := c.tenantPod t ns tok node :: c.pods, rev := c.rev + 1 }
  let p : Pod := { c.tenantPod t ns tok node with phase := .running, podIP := ip, resourceVersion := c.rev + 1 + 1 }
  have hg₁ : c₁.getPod ns (podName t) = some (c.tenantPod t ns tok node) := by simp [c₁, getPod, tenantPod, Pod.is]
  have ha₁ : c₁.podAt ip = none := by simp [c₁, podAt, hip, tenantPod, hfind, Ne.symm hip]
  have hkeep : c.pods.map (fun x => if x.is ns (podName t) then
      { x with phase := .running, podIP := ip, resourceVersion := c.rev + 1 + 1 } else x) = c.pods :=
    (List.map_congr_left fun x hx => by rw [hnone x hx]; rfl).trans (List.map_id _)
  refine ⟨c₁, { c with pods := p :: c.pods, rev := c.rev + 1 + 1 }, p,
    by simp [c₁, Cluster.createPod, tenantPod, h.pod], ?_, ?_, by simp [podAt, hip, p], fun q hq hqi => ?_,
    rfl, rfl⟩
  · simp only [podReady, hg₁, ha₁, modifyPod, List.map_cons, Option.getD_some]
    rw [if_pos (by simp [tenantPod, hip]), hkeep, if_pos (by simp [Pod.is, tenantPod])]
  · simp [readyPod, getPod, Pod.is, Option.filter, hip, p, tenantPod]
  · rcases List.mem_cons.1 hq with rfl | hq
    · rfl
    · exact absurd hqi (h.addr q hq)

end Cluster

/-! ### The slow path, call by call -/

namespace Sys

variable {s : Sys} {i : Nat} {t ip : String}

/-- The next call of a `wakeOrGet` process. -/
lemma procStep_wake {ok : Bool} {lu : Option Int} {pc : WakePc} :
    s.procStep i ok (.wake t lu pc) = s.wakeStep i ok t lu pc := rfl

/-- `n` more successful calls of process `i` after one that led to `s₁`. -/
lemma run_calls_succ {s₁ : Sys} (h : s.step (.run i true) = some s₁) (n : Nat) :
    s.run (Act.calls i (n + 1)) = s₁.run (Act.calls i n) := by
  rw [Act.calls, List.replicate_succ, run_cons, h, Option.some_bind]
  rfl

/-- The read, the lock, the record of an unknown tenant, the PV, the PVC and the list of the
warm pool. -/
lemma wake_prepare_run (hi : s.procs[i]? = some (.wake t none .start))
    (hslow : ∀ r, DynamoClient.getTenant s.reg t = some r → ¬ (r.status = statusRunning ∧ r.podIP ≠ ""))
    (hlock : s.locks.get s.now (keyPrefix ++ t) = none) :
    ∃ n s₁, s.run (Act.calls i n) = some s₁ ∧
      s₁.procs[i]? = some (.wake t (some (s.now + s.cfg.wakeLockTTL))
        (.claimWarm (s.wakeRecord t) (s.wakeNs t) (s.cluster.listWarmPods (s.wakeNs t)))) ∧
      s₁.cluster.pods = s.cluster.pods := by
  have hlen : i < s.procs.length := (List.getElem?_eq_some_iff.1 hi).1
  cases hr : DynamoClient.getTenant s.reg t with
  | none =>
    refine ⟨6, ?_⟩
    simp [Act.calls, run_cons, step, hi, procStep_wake, wakeStep, wakeTo, hr, acquireWakeLock, hlock, hlen,
      wakeRecord, wakeNs, Cluster.listWarmPods]
  | some r =>
    refine ⟨5, ?_⟩
    simp [Act.calls, run_cons, step, hi, procStep_wake, wakeStep, wakeTo, hr, if_neg (hslow r hr), acquireWakeLock,
      hlock, hlen, wakeRecord, wakeNs, Cluster.listWarmPods]

/-- The warm-pool candidates, tried in turn: the first one Running with an IP and not
terminating is relabelled, and then deleted with a zero grace period, a conflict moving on
to the next; with none left the tenant pod is created on no particular node. -/
lemma wake_claim_run {r : TenantRecord} {ns : String} {lu : Option Int} (cands : List Pod) (s : Sys)
    (hi : s.procs[i]? = some (.wake t lu (.claimWarm r ns cands)))
    (hc : ∀ q ∈ cands, q ∈ s.cluster.pods) (hv : s.cluster.Vacant ns t ip) :
    ∃ n s₁ node, s.run (Act.calls i n) = some s₁ ∧
      s₁.procs[i]? = some (.wake t lu (.createPod r ns node)) ∧ s₁.cluster.Vacant ns t ip := by
  have hlen : i < s.procs.length := (List.getElem?_eq_some_iff.1 hi).1
  have hsuf : cands.dropWhile (fun p => !Cluster.warmEligible p) <:+ cands := List.dropWhile_suffix _
  cases hd : cands.dropWhile (fun p => !Cluster.warmEligible p) with
  | nil =>
    refine ⟨1, s.wakeTo i t lu (.createPod r ns ""), "", ?_, by simp [wakeTo, hlen], hv⟩
    simp [Act.calls, run_cons, step, hi, procStep_wake, wakeStep, hd]
  | cons p rest =>
    rw [hd] at hsuf
    have hp : p ∈ s.cluster.pods := hc p (hsuf.subset (List.mem_cons_self _ _))
    cases hcl : s.cluster.claimWarmPod p with
    | none =>
      have h₁ : s.step (.run i true) = some (s.wakeTo i t lu (.claimWarm r ns rest)) := by
        simp [step, hi, procStep_wake, wakeStep, hd, hcl]
      obtain ⟨n, s₁, node, hr, hs₁⟩ := wake_claim_run rest (s.wakeTo i t lu (.claimWarm r ns rest))
        (show (s.wakeTo i t lu (.claimWarm r ns rest)).procs[i]? = some (.wake t lu (.claimWarm r ns rest))
          by simp [wakeTo, hlen]) (fun q hq => hc q (hsuf.subset (List.mem_cons_of_mem _ hq))) hv
      exact ⟨n + 1, s₁, node, by rw [run_calls_succ h₁, hr], hs₁⟩
    | some pc =>
      obtain ⟨p', c⟩ := pc
      refine ⟨2, { ({ s with cluster := c }.wakeTo i t lu (.deleteWarm r ns p')) with
        cluster := c.deletePod ns p'.name 0 }.wakeTo i t lu (.createPod r ns p'.nodeName), p'.nodeName, ?_,
        by simp [wakeTo, hlen], (hv.claim hcl hp).deletePod ns p'.name 0⟩
      simp [Act.calls, run_cons, step, hi, procStep_wake, wakeStep, wakeTo, hd, hcl, hlen]
termination_by cands.length
decreasing_by
  have h := hsuf.length_le
  rw [hd] at h
  exact h

/-- The tenant pod created, reported Running at `ip` by the kubelet, seen by `WaitPodReady`,
committed, and the lock released. -/
lemma wake_finish_run {r : TenantRecord} {ns node : String} {lu : Option Int}
    (hi : s.procs[i]? = some (.wake t lu (.createPod r ns node))) (hv : s.cluster.Vacant ns t ip)
    (hip : ip ≠ "") :
    ∃ s', s.run (Act.calls i 1 ++ .podReady ns (podName t) ip :: Act.calls i 3) = some s' ∧
      s'.procs[i]? = some (.wake t none (.done (some ip))) ∧
      DynamoClient.runningIP s'.reg t = some ip ∧
      (∃ p, s'.cluster.readyPod ns (podName t) = some p ∧ s'.cluster.podAt ip = some p ∧ p.tenant = t ∧
        p.podIP = ip ∧ ∀ q ∈ s'.cluster.pods, q.podIP = ip → q = p) ∧
      s'.locks (keyPrefix ++ t) = none := by
  have hlen : i < s.procs.length := (List.getElem?_eq_some_iff.1 hi).1
  obtain ⟨c₁, c₂, p, hc₁, hc₂, hg₂, hat, hall, ht, hpi⟩ := hv.createPod_ready hip r.botToken node
  simp [Act.calls, run_cons, step, hi, procStep_wake, wakeStep, wakeTo, hlen, hc₁, hc₂, hg₂, hat, ht, hpi,
    DynamoClient.runningIP, DynamoClient.getTenant, DynamoClient.updateStatus, Item.toRecord, releaseWakeLock]
  exact hall

end Sys

/-- **A wake on its own returns the address its pod became ready at.** From any state in
which process `i` starts a `wakeOrGet` of `t` whose record is not Running with an address,
whose wake lock is free, whose namespace holds no pod named after `t`, and with no pod at `ip`,
the wake alone, every call succeeding and the kubelet reporting `t`'s pod Running at `ip` once
it exists, returns `ip`; the record is then Running at `ip`, `WaitPodReady` sees `t`'s own pod
Running there, no other pod holds `ip`, and the lock is free. -/
theorem wake_alone_returns_ready_address (s : Sys) {i : Nat} {t ip : String}
    (hi : s.procs[i]? = some (.wake t none .start))
    (hslow : ∀ r, DynamoClient.getTenant s.reg t = some r → ¬ (r.status = statusRunning ∧ r.podIP ≠ ""))
    (hlock : s.locks.get s.now (keyPrefix ++ t) = none)
    (hv : s.cluster.Vacant (s.wakeNs t) t ip) (hip : ip ≠ "") :
    ∃ n s', s.run (Act.calls i n ++ .podReady (s.wakeNs t) (podName t) ip :: Act.calls i 3) = some s' ∧
      s'.procs[i]? = some (.wake t none (.done (some ip))) ∧
      DynamoClient.runningIP s'.reg t = some ip ∧
      (∃ p, s'.cluster.readyPod (s.wakeNs t) (podName t) = some p ∧ p.podIP = ip ∧ p.tenant = t ∧
        ∀ q ∈ s'.cluster.pods, q.podIP = ip → q = p) ∧
      s'.locks.get s'.now (keyPrefix ++ t) = none := by
  obtain ⟨n₁, s₁, h₁, hi₁, hp₁⟩ := Sys.wake_prepare_run hi hslow hlock
  obtain ⟨n₂, s₂, node, h₂, hi₂, hv₂⟩ := Sys.wake_claim_run _ s₁ hi₁
    (fun q hq => hp₁ ▸ (Cluster.mem_listWarmPods hq).1) (hv.of_pods hp₁)
  obtain ⟨s', h₃, hi₃, hrun, ⟨p, hready, -, ht, hpi, hall⟩, hlk⟩ := Sys.wake_finish_run hi₂ hv₂ hip
  refine ⟨n₁ + n₂ + 1, s', ?_, hi₃, hrun, ⟨p, hready, hpi, ht, hall⟩, by simp [LockStore.get, hlk]⟩
  rw [Act.calls, List.replicate_add, List.replicate_add, List.append_assoc, List.append_assoc,
    Sys.run_append, ← Act.calls, h₁, Option.some_bind, Sys.run_append, ← Act.calls, h₂, Option.some_bind]
  exact h₃

/-- A warm-pool replica on `node-1`, ready at `10.0.1.1`, then a wake of the unknown tenant
`a`. -/
def warmWakeRun : List Act :=
  [.warmReplica "x" "node-1", .podReady "tenants" "warm-pool-x" "10.0.1.1", .request (.wake "a")]

theorem wake_alone_claims_warm_pod :
    (Sys.runFrom (Config.orchestrator "tenants" false) warmWakeRun).procs[0]? = some (.wake "a" none .start) ∧
      ∃ n s', (Sys.runFrom (Config.orchestrator "tenants" false) warmWakeRun).run (Act.calls 0 n ++
          .podReady ((Sys.runFrom (Config.orchestrator "tenants" false) warmWakeRun).wakeNs "a") (podName "a")
            "10.0.0.1" :: Act.calls 0 3) = some s' ∧
        s'.procs[0]? = some (.wake "a" none (.done (some "10.0.0.1"))) :=
  have hi : (Sys.runFrom (Config.orchestrator "tenants" false) warmWakeRun).procs[0]? =
      some (.wake "a" none .start) := by decide
  have hr : DynamoClient.getTenant (Sys.runFrom (Config.orchestrator "tenants" false) warmWakeRun).reg "a" =
      none := by decide
  ⟨hi, by
    obtain ⟨n, s', h, hd, -⟩ := wake_alone_returns_ready_address _ hi
      (fun _ h => Option.noConfusion (hr.symm.trans h)) (by decide) ⟨by decide, by decide⟩
      (show "10.0.0.1" ≠ "" by decide)
    exact ⟨n, s', h, hd⟩⟩

end Tenancy

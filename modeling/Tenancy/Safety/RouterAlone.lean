import Tenancy.Safety.WakeAlone

/-!
One Telegram update on its own, from the router's cache lookup to the orchestrator's
activity endpoint (`Router.handleTelegramUpdate` and `forwardToPod` of `cmd/router`, over
`Handler.wakeOrGet`): no other process moves, every call succeeds, and the kubelet reports
the tenant pod Running once it exists.

* `Sys.run_others`: a run in which process `k` makes no call leaves it where it was;
* `Sys.router_lookup_miss`: a cache miss starts a `wakeOrGet` process and waits for it;
* `Sys.router_finish_run`: once the wake has returned an address, the router caches it for
  `endpointCacheTTL`, forwards the update to the pod holding it, and reports activity;
* `update_alone_reaches_tenant_pod`: **from any state in which the tenant has no cached
  endpoint, is not Running with an address, its wake lock is free, no pod bears its pod's
  name and no pod holds `ip`, an update with text, handled alone, every call succeeding and
  the kubelet giving the tenant's pod `ip`, is delivered to the tenant's own pod at `ip`;
  the endpoint is then cached for five minutes and the record is Running at `ip`**.
-/

namespace Tenancy

namespace Sys

variable {s s' : Sys} {i k : Nat} {t text ip : String}

/-- The next call of a router goroutine. -/
lemma procStep_router {ok : Bool} {pc : RouterPc} :
    s.procStep i ok (.router t text pc) = s.routerStep i ok t text pc := rfl

/-- A run in which process `k` makes no call leaves it where it was. -/
lemma run_others : ∀ {s s' : Sys} {acts : List Act}, (∀ a ∈ acts, ∀ ok, a ≠ .run k ok) →
    k < s.procs.length → s.run acts = some s' → s'.procs[k]? = s.procs[k]?
  | _, _, [], _, _, h => by cases h; rfl
  | _, _, _ :: _, ha, hk, h => by
    obtain ⟨s₁, h₁, h⟩ := Option.bind_eq_some.1 h
    have e := step_others h₁ (ha _ (List.mem_cons_self _ _)) hk
    have hk₁ : k < s₁.procs.length := (List.getElem?_eq_some_iff.1 (e.trans (List.getElem?_eq_getElem hk))).1
    rw [run_others (fun a ha' => ha a (List.mem_cons_of_mem _ ha')) hk₁ h, e]

/-- A cache miss: the router calls `/wake`, served by a new `wakeOrGet` process. -/
lemma router_lookup_miss (hi : s.procs[i]? = some (.router t text .lookup)) (hmiss : s.cacheGet t = none) :
    s.step (.run i true) =
      some ((s.spawn (.wake t none .start)).routerTo i t text (.awaitWake s.procs.length)) := by
  simp [step, hi, procStep_router, routerStep, hmiss]

/-- The wake has returned `ip`: the router caches it, forwards the update to the pod at `ip`,
and reports activity. -/
lemma router_finish_run {j : Nat} {t' : String} {lu : Option Int} {p : Pod}
    (hi : s.procs[i]? = some (.router t text (.awaitWake j)))
    (hj : s.procs[j]? = some (.wake t' lu (.done (some ip)))) (hat : s.cluster.podAt ip = some p)
    (htext : text ≠ "") :
    ∃ s', s.run (Act.calls i 4) = some s' ∧ s'.procs[i]? = some (.router t text .done) ∧
      .delivered t ip p ∈ s'.log ∧ s'.cache t = some ⟨ip, s'.now + endpointCacheTTL⟩ ∧
      s'.reg = DynamoClient.updateActivity s.reg s.now t := by
  have hlen : i < s.procs.length := (List.getElem?_eq_some_iff.1 hi).1
  simp [Act.calls, run_cons, step, hi, hj, hat, htext, procStep_router, routerStep, routerTo, hlen]

end Sys

/-- **An update handled alone reaches the tenant's own pod.** From any state in which
process `i` handles an update with text for `t`, `t` has no cached endpoint, its record is
not Running with an address, its wake lock is free, and its namespace holds no pod named
after `t` and no pod at `ip`, the update handled alone, every call succeeding and the kubelet
reporting `t`'s pod Running at `ip` once it exists, is delivered to `t`'s own pod at `ip`; the
router has then cached `ip` for `endpointCacheTTL`, and the record is Running at `ip`. -/
theorem update_alone_reaches_tenant_pod (s : Sys) {i : Nat} {t text ip : String}
    (hi : s.procs[i]? = some (.router t text .lookup)) (hmiss : s.cacheGet t = none)
    (hslow : ∀ r, DynamoClient.getTenant s.reg t = some r → ¬ (r.status = statusRunning ∧ r.podIP ≠ ""))
    (hlock : s.locks.get s.now (keyPrefix ++ t) = none)
    (hv : s.cluster.Vacant (s.wakeNs t) t ip) (hip : ip ≠ "") (htext : text ≠ "") :
    ∃ n s', s.run (Act.calls i 1 ++ Act.calls s.procs.length n ++
        .podReady (s.wakeNs t) (podName t) ip :: Act.calls s.procs.length 3 ++ Act.calls i 4) = some s' ∧
      s'.procs[i]? = some (.router t text .done) ∧
      (∃ p, .delivered t ip p ∈ s'.log ∧ p.tenant = t) ∧
      s'.cache t = some ⟨ip, s'.now + endpointCacheTTL⟩ ∧ DynamoClient.runningIP s'.reg t = some ip := by
  have hlen : i < s.procs.length := (List.getElem?_eq_some_iff.1 hi).1
  set s₁ := (s.spawn (.wake t none .start)).routerTo i t text (.awaitWake s.procs.length)
  have hj₁ : s₁.procs[s.procs.length]? = some (.wake t none .start) := by
    simp [s₁, Sys.routerTo, Sys.setProc, Sys.spawn, List.getElem?_set_ne (Nat.ne_of_lt hlen)]
  obtain ⟨n₁, s₂, h₂, hi₂, hp₂⟩ := Sys.wake_prepare_run hj₁ hslow hlock
  obtain ⟨n₂, s₃, node, h₃, hi₃, hv₃⟩ := Sys.wake_claim_run _ s₂ hi₂
    (fun q hq => hp₂ ▸ (Cluster.mem_listWarmPods hq).1) (hv.of_pods hp₂)
  obtain ⟨s₄, h₄, hj₄, hrun, ⟨p, -, hat, hpt, -⟩, -⟩ := Sys.wake_finish_run hi₃ hv₃ hip
  have hwake : s₁.run (Act.calls s.procs.length (n₁ + n₂ + 1) ++
      .podReady (s.wakeNs t) (podName t) ip :: Act.calls s.procs.length 3) =
      some s₄ := by
    rw [Act.calls, List.replicate_add, List.replicate_add, List.append_assoc, List.append_assoc,
      Sys.run_append, ← Act.calls, h₂, Option.some_bind, Sys.run_append, ← Act.calls, h₃, Option.some_bind]
    exact h₄
  have hi₄ : s₄.procs[i]? = some (.router t text (.awaitWake s.procs.length)) := by
    rw [Sys.run_others (fun a ha ok => ?_) (by simp [s₁, Sys.routerTo, Sys.spawn, Sys.setProc]; omega) hwake]
    · simp [s₁, Sys.routerTo, Sys.setProc, Sys.spawn, List.getElem?_append_left, hlen]
    · rintro rfl
      simp [Act.calls, List.mem_replicate] at ha
      omega
  obtain ⟨s', h', hi', hd, hc, hreg⟩ := Sys.router_finish_run hi₄ hj₄ hat htext
  refine ⟨n₁ + n₂ + 1, s', ?_, hi', ⟨p, hd, hpt⟩, hc, by rw [hreg, DynamoClient.runningIP_updateActivity, hrun]⟩
  have hA : s.run (Act.calls i 1) = some s₁ := by
    rw [Act.calls, List.replicate_one, Sys.run_cons, Sys.router_lookup_miss hi hmiss]
    rfl
  rw [Sys.run_append, List.append_assoc, Sys.run_append, hA, Option.some_bind, hwake, Option.some_bind]
  exact h'

/-- Tenant `a` created by the administrative API, and then an update for it. -/
def idleUpdateRun : List Act :=
  [.request (.createTenant "a" "tok" 0), .run 0 true, .request (.telegram "a" "hello")]

theorem update_alone_wakes_idle_tenant :
    (Sys.runFrom (Config.orchestrator "tenants" false) idleUpdateRun).procs[1]? =
        some (.router "a" "hello" .lookup) ∧
      ∃ n s', (Sys.runFrom (Config.orchestrator "tenants" false) idleUpdateRun).run (Act.calls 1 1 ++
          Act.calls 2 n ++ .podReady "tenants" (podName "a") "10.0.0.1" :: Act.calls 2 3 ++ Act.calls 1 4) =
          some s' ∧ ∃ p, .delivered "a" "10.0.0.1" p ∈ s'.log ∧ p.tenant = "a" := by
  have hi : (Sys.runFrom (Config.orchestrator "tenants" false) idleUpdateRun).procs[1]? =
      some (.router "a" "hello" .lookup) := by decide
  have hst : (DynamoClient.getTenant (Sys.runFrom (Config.orchestrator "tenants" false) idleUpdateRun).reg
      "a").map TenantRecord.status = some statusIdle := by decide
  obtain ⟨n, s', h, -, hd, -⟩ := update_alone_reaches_tenant_pod _ hi (by decide)
    (fun r h => by
      rw [h, Option.map_some', Option.some_inj] at hst
      exact fun h' => absurd (hst.symm.trans h'.1) (by decide)) (by decide) ⟨by decide, by decide⟩
    (show "10.0.0.1" ≠ "" by decide) (show "hello" ≠ "" by decide)
  exact ⟨hi, n, s', h, hd⟩

end Tenancy

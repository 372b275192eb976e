import Tenancy.Safety.WarmClaim

/-!
The resource versions of the pods (`metadata.resourceVersion`, which the relabel of
`Client.GetWarmPod` in `internal/k8s/client.go` sends back as its condition), over every move
of the deployment.

* `ClusterStep`: a move leaves the pods and the counter alone, or makes one write: a
  `Create`, the conditional relabel of `GetWarmPod`, a `DeletePod`, or the cluster's own
  `podReady`, `podGone`, `podLost` and `warmReplica`;
* `Cluster.Writes`: what such a write does to the pods: it keeps some, and writes the pods of
  one object with the next version, advancing the counter to it;
* `Cluster.Versioned`: one object per namespace and name, no version ahead of the counter,
  and no two pods of one version; `ClusterStep.versioned`: every move keeps it;
* `Cluster.Listed`, `Sys.ListedCurrent`: every candidate a wake holds from `GetWarmPod`'s
  list is the current state of its pod or bears a version no pod has, and no later write
  gives that version again; every move keeps it;
* `warm_relabel_applies_to_listed_pod`: **in every reachable deployment, whatever the
  interleaving, a wake's relabel of a listed candidate applies to the pod exactly as it was
  listed: Running with an IP and not terminating, as `GetWarmPod` checked on the list**.
-/

namespace Tenancy

/-! ### One write to the cluster -/

/-- What one move can do to the cluster. -/
inductive ClusterStep (c : Cluster) : Cluster → Prop
  | keep {c' : Cluster} (hp : c'.pods = c.pods) (hr : c'.rev = c.rev) : ClusterStep c c'
  | create {p : Pod} {c' : Cluster} (h : c.createPod p = some c') (hv : p.resourceVersion = c.rev + 1) :
      ClusterStep c c'
  | claim {p p' : Pod} {c' : Cluster} (h : c.claimWarmPod p = some (p', c')) : ClusterStep c c'
  | delete (ns name : String) (grace : Nat) : ClusterStep c (c.deletePod ns name grace)
  | ready {ns name ip : String} {c' : Cluster} (h : c.podReady ns name ip = some c') : ClusterStep c c'
  | gone {ns name : String} {c' : Cluster} (h : c.podGone ns name = some c') : ClusterStep c c'
  | lost {ns name : String} {c' : Cluster} (h : c.podLost ns name = some c') : ClusterStep c c'
  | replica {ns suffix node : String} {c' : Cluster} (h : c.warmReplica ns suffix node = some c') :
      ClusterStep c c'

namespace Cluster

/-- One object per namespace and name, no version ahead of the counter, and no two pods of
one version. -/
structure Versioned (c : Cluster) : Prop where
  wf : c.Wf
  versions : (c.pods.map Pod.resourceVersion).Nodup

/-- What a write does to the pods: it keeps some, and writes pods of the one object `k` with
the next version, the counter advancing to it. -/
def Writes (c c' : Cluster) : Prop :=
  c.rev ≤ c'.rev ∧ ∃ k, ∀ q ∈ c'.pods,
    q ∈ c.pods ∨ (q.resourceVersion = c.rev + 1 ∧ c.rev + 1 ≤ c'.rev ∧ q.key = k)

variable {c c' : Cluster} {ns name : String}

/-- A write whose pods keep one object per namespace and name keeps the versions apart. -/
lemma Versioned.of_writes (h : c.Versioned) (hk : (c'.pods.map Pod.key).Nodup) (hw : Writes c c') :
    c'.Versioned := by
  obtain ⟨hrev, k, hq⟩ := hw
  have hnd : c.pods.Nodup := List.Nodup.of_map _ h.wf.nodup
  refine ⟨⟨hk, fun q hq' => ?_⟩, (List.nodup_map_iff_inj_on (List.Nodup.of_map _ hk)).2 fun x hx y hy hxy => ?_⟩
  · rcases hq q hq' with hq' | ⟨hv, hle, -⟩
    · exact (h.wf.rev_le q hq').trans hrev
    · omega
  · rcases hq x hx with hx' | ⟨hvx, -, hkx⟩ <;> rcases hq y hy with hy' | ⟨hvy, -, hky⟩
    · exact (List.nodup_map_iff_inj_on hnd).1 h.versions x hx' y hy' hxy
    · have := h.wf.rev_le x hx'; omega
    · have := h.wf.rev_le y hy'; omega
    · exact List.inj_on_of_nodup_map hk hx hy (hkx.trans hky.symm)

lemma writes_of_pods (hp : c'.pods = c.pods) (hr : c'.rev = c.rev) : Writes c c' :=
  ⟨hr.ge, default, fun _ hq => .inl (hp ▸ hq)⟩

/-- Rewriting the object `ns/name` with the next version, its key kept. -/
lemma Versioned.modifyPod (h : c.Versioned) {f : Pod → Pod}
    (hf : ∀ p, p.is ns name → (f p).key = p.key ∧ (f p).resourceVersion = c.rev + 1) :
    (c.modifyPod ns name f).Versioned ∧ Writes c (c.modifyPod ns name f) := by
  have hw : Writes c (c.modifyPod ns name f) := by
    refine ⟨Nat.le_succ _, (ns, name), fun q hq => ?_⟩
    obtain ⟨p, hp, rfl⟩ := List.mem_map.1 hq
    split_ifs with hi
    · obtain ⟨h₁, h₂⟩ := is_iff.1 hi
      exact .inr ⟨(hf p hi).2, le_rfl, by rw [(hf p hi).1]; simp [Pod.key, h₁, h₂]⟩
    · exact .inl hp
  refine ⟨h.of_writes ?_ hw, hw⟩
  have : (c.modifyPod ns name f).pods.map Pod.key = c.pods.map Pod.key := by
    simp only [Cluster.modifyPod, List.map_map]
    refine List.map_congr_left fun p _ => ?_
    simp only [Function.comp]
    split_ifs with hi
    · exact (hf p hi).1
    · rfl
  exact this ▸ h.wf.nodup

/-- Removing the object `ns/name`. -/
lemma Versioned.erasePod (h : c.Versioned) :
    (c.erasePod ns name).Versioned ∧ Writes c (c.erasePod ns name) := by
  have hw : Writes c (c.erasePod ns name) := ⟨le_rfl, default, fun q hq => .inl (List.mem_filter.1 hq).1⟩
  exact ⟨h.of_writes ((List.filter_sublist _).map _ |>.nodup h.wf.nodup) hw, hw⟩

/-- Adding a pod of a free namespace and name with the next version. -/
lemma Versioned.cons (h : c.Versioned) {p : Pod} (hfree : c.getPod p.ns p.name = none)
    (hv : p.resourceVersion = c.rev + 1) :
    ({ c with pods := p :: c.pods, rev := c.rev + 1 } : Cluster).Versioned ∧
      Writes c { c with pods := p :: c.pods, rev := c.rev + 1 } := by
  have hw : Writes c { c with pods := p :: c.pods, rev := c.rev + 1 } := by
    refine ⟨Nat.le_succ _, p.key, fun q hq => ?_⟩
    rcases List.mem_cons.1 hq with rfl | hq
    · exact .inr ⟨hv, le_rfl, rfl⟩
    · exact .inl hq
  refine ⟨h.of_writes ?_ hw, hw⟩
  refine List.nodup_cons.2 ⟨fun hk => ?_, h.wf.nodup⟩
  obtain ⟨q, hq, hqk⟩ := List.mem_map.1 hk
  have : (c.getPod p.ns p.name).isSome := getPod_isSome_iff.2 ⟨q, hq, congrArg Prod.fst hqk, congrArg Prod.snd hqk⟩
  rw [hfree] at this
  cases this

end Cluster

namespace ClusterStep

variable {c c' : Cluster}

/-- **Every move keeps the versions apart**, and writes pods only with the next version. -/
lemma versioned (hs : ClusterStep c c') (h : c.Versioned) : c'.Versioned ∧ c.Writes c' := by
  cases hs with
  | keep hp hr => exact ⟨h.of_writes (hp ▸ h.wf.nodup) (Cluster.writes_of_pods hp hr), Cluster.writes_of_pods hp hr⟩
  | create hc hv =>
    unfold Cluster.createPod at hc
    split_ifs at hc with hfree
    cases hc
    exact h.cons (Option.not_isSome_iff_eq_none.1 hfree) hv
  | claim hc =>
    obtain ⟨cur, -, -, rfl, rfl⟩ := Cluster.claimWarmPod_eq_some hc
    exact h.modifyPod fun q hq => by
      obtain ⟨h₁, h₂⟩ := Cluster.is_iff.1 hq
      exact ⟨by simp [Pod.key, h₁, h₂], rfl⟩
  | delete ns name grace =>
    unfold Cluster.deletePod
    split_ifs
    · exact h.erasePod
    · exact h.modifyPod fun _ _ => ⟨rfl, rfl⟩
  | ready hc =>
    unfold Cluster.podReady at hc
    split at hc
    · split_ifs at hc
      cases hc
      exact h.modifyPod fun _ _ => ⟨rfl, rfl⟩
    · cases hc
  | gone hc =>
    unfold Cluster.podGone at hc
    split at hc
    · split_ifs at hc
      cases hc
      exact h.erasePod
    · cases hc
  | lost hc =>
    obtain ⟨_, -, rfl⟩ := Option.map_eq_some'.1 hc
    exact h.erasePod
  | replica hc =>
    dsimp only [Cluster.warmReplica] at hc
    split_ifs at hc with hfree
    cases hc
    exact h.cons (Option.not_isSome_iff_eq_none.1 hfree) rfl

end ClusterStep

/-! ### Every move of the deployment -/

namespace Sys

variable {s s' : Sys} {i : Nat} {ok : Bool}

lemma wakeStep_cluster {t : String} {lu : Option Int} {pc : WakePc}
    (hs : s.wakeStep i ok t lu pc = some s') : ClusterStep s.cluster s'.cluster := by
  cases pc <;> simp only [wakeStep] at hs
  case createPV =>
    split at hs <;> cases hs
    · exact .keep (Cluster.createPV_pods _) (by unfold Cluster.createPV; split_ifs <;> rfl)
    · exact .keep rfl rfl
  case createPVC =>
    split at hs <;> cases hs
    · exact .keep (Cluster.createPVC_pods _) (by unfold Cluster.createPVC; split_ifs <;> rfl)
    · exact .keep rfl rfl
  case claimWarm =>
    split at hs
    · cases hs; exact .keep rfl rfl
    · split at hs
      · rename_i c hc
        cases hs
        exact .claim (call_eq_some hc).2
      · cases hs; exact .keep rfl rfl
  case deleteWarm =>
    cases hs
    dsimp only [wakeTo, setProc]
    split
    · exact .delete _ _ _
    · exact .keep rfl rfl
  case createPod =>
    split at hs
    · split at hs
      · rename_i c hc
        cases hs
        exact .create hc rfl
      · cases hs; exact .keep rfl rfl
    · cases hs; exact .keep rfl rfl
  case waitReady =>
    split at hs
    · obtain ⟨p, -, rfl⟩ := Option.map_eq_some'.1 hs
      exact .keep rfl rfl
    · cases hs; exact .keep rfl rfl
  all_goals (repeat' split at hs) <;> (try cases hs) <;> exact .keep rfl rfl

lemma idleStep_cluster {pc : IdlePc} (hs : s.idleStep i ok pc = some s') :
    ClusterStep s.cluster s'.cluster := by
  cases pc <;> simp only [idleStep] at hs
  case check ts =>
    cases ts with
    | nil => cases hs; exact .keep rfl rfl
    | cons t ts =>
      simp only at hs
      split at hs
      · cases hs; exact .keep rfl rfl
      · split at hs <;> cases hs
        · dsimp only [setProc]
          exact .delete _ _ _
        · exact .keep rfl rfl
  all_goals (repeat' split at hs) <;> (try cases hs) <;> exact .keep rfl rfl

lemma procStep_cluster {p : Proc} (hs : s.procStep i ok p = some s') : ClusterStep s.cluster s'.cluster := by
  cases p with
  | wake => exact wakeStep_cluster hs
  | idle => exact idleStep_cluster hs
  | deleteTenant t clean pc =>
    cases pc <;> simp only [procStep, deleteTenantStep] at hs
    case deletePod =>
      split at hs <;> cases hs
      · dsimp only [deleteTo, setProc]
        exact .delete _ _ _
      · exact .keep rfl rfl
    all_goals (repeat' split at hs) <;> (try cases hs) <;> exact .keep rfl rfl
  | router _ _ pc | createTenant _ _ _ pc | updateTenant _ _ _ pc =>
    cases pc <;> simp only [procStep, routerStep, createTenantStep, updateTenantStep] at hs
    all_goals (repeat' split at hs) <;> (try cases hs) <;> exact .keep rfl rfl
  | reconcile pc =>
    cases pc <;> simp only [procStep, reconcileStep] at hs
    case check ts => cases ts <;> simp only at hs <;> (repeat' split at hs) <;> cases hs <;> exact .keep rfl rfl
    all_goals (repeat' split at hs) <;> (try cases hs) <;> exact .keep rfl rfl
  | updateActivity t fin =>
    cases fin <;> simp only [procStep, updateActivityStep] at hs <;> cases hs
    exact .keep rfl rfl

/-- **Every move writes the cluster as a `ClusterStep`.** -/
lemma step_cluster {a : Act} (hs : s.step a = some s') : ClusterStep s.cluster s'.cluster := by
  cases a with
  | run i ok =>
    obtain ⟨p, -, hp⟩ := Option.bind_eq_some.1 hs
    exact procStep_cluster hp
  | request r => cases hs; exact .keep rfl rfl
  | tick d => cases hs; exact .keep rfl rfl
  | podReady =>
    obtain ⟨c, hc, rfl⟩ := Option.map_eq_some'.1 hs
    exact .ready hc
  | podGone =>
    obtain ⟨c, hc, rfl⟩ := Option.map_eq_some'.1 hs
    exact .gone hc
  | podLost =>
    obtain ⟨c, hc, rfl⟩ := Option.map_eq_some'.1 hs
    exact .lost hc
  | warmReplica =>
    obtain ⟨c, hc, rfl⟩ := Option.map_eq_some'.1 hs
    exact .replica hc

end Sys

/-! ### Whole runs -/

/-- In every reachable deployment the versions are apart. -/
lemma Reachable.versioned {cfg : Config} {s : Sys} (hs : Reachable cfg s) : s.cluster.Versioned :=
  let ⟨_, hr⟩ := hs
  Sys.run_induct (fun s => s.cluster.Versioned) (fun _ _ _ h hs => ((Sys.step_cluster hs).versioned h).1)
    (s := Sys.init cfg) ⟨⟨List.nodup_nil, fun _ h => nomatch h⟩, List.nodup_nil⟩ hr

/-! ### `GetWarmPod` relabels only what it listed -/

namespace Cluster

variable {c c' : Cluster} {q p' : Pod}

/-- Pod `q`, a copy `GetWarmPod` listed, is the current state of its object or bears a
version no pod of `c` has; either way its version is not past the counter, so no later write
gives a pod that version. -/
def Listed (c : Cluster) (q : Pod) : Prop :=
  q.resourceVersion ≤ c.rev ∧ ∀ p ∈ c.pods, p.resourceVersion = q.resourceVersion → p = q

/-- A pod of a cluster whose versions are apart is listed as it is. -/
lemma Versioned.listed (h : c.Versioned) (hq : q ∈ c.pods) : c.Listed q :=
  ⟨h.wf.rev_le q hq, fun _ hp hv =>
    (List.nodup_map_iff_inj_on (List.Nodup.of_map _ h.wf.nodup)).1 h.versions _ hp q hq hv⟩

/-- A write keeps a listed copy listed: the pods it writes bear a version past the counter. -/
lemma Listed.of_writes (h : c.Listed q) (hw : Writes c c') : c'.Listed q := by
  obtain ⟨hrev, k, hk⟩ := hw
  refine ⟨h.1.trans hrev, fun p hp hv => ?_⟩
  rcases hk p hp with hp | ⟨hv', -, -⟩
  · exact h.2 p hp hv
  · have := h.1
    omega

/-- The conditional relabel of a listed copy succeeds only on the pod as it was listed. -/
lemma Listed.mem_of_claim (h : c.Listed q) (hc : c.claimWarmPod q = some (p', c')) :
    q ∈ c.pods ∧ p' = { q with warm := "consuming", resourceVersion := c.rev + 1 } := by
  obtain ⟨cur, hcur, hv, rfl, -⟩ := claimWarmPod_eq_some hc
  have hmem := (mem_of_getPod hcur).1
  exact ⟨h.2 cur hmem hv ▸ hmem, rfl⟩

end Cluster

namespace Sys

variable {s s' : Sys} {i : Nat} {ok : Bool}

/-- Every candidate a wake holds from `GetWarmPod`'s list is `Listed` in the cluster. -/
def ListedCurrent (s : Sys) : Prop :=
  ∀ (i : Nat) (t : String) (lu : Option Int) (r : TenantRecord) (ns : String) (cands : List Pod),
    s.procs[i]? = some (.wake t lu (.claimWarm r ns cands)) → ∀ q ∈ cands, s.cluster.Listed q

/-- A call of a wake that leaves it trying candidates is the list, or a relabel that did not
go through: it leaves the cluster alone, and its candidates are the listed pods or some of
those it had. -/
lemma wakeStep_claimWarm {t t' : String} {lu lu' : Option Int} {pc : WakePc} {r : TenantRecord}
    {ns : String} {cands : List Pod} (hi : s.procs[i]? = some (.wake t lu pc))
    (hs : s.wakeStep i ok t lu pc = some s')
    (hi' : s'.procs[i]? = some (.wake t' lu' (.claimWarm r ns cands))) :
    s'.cluster = s.cluster ∧ ((pc = .listWarm r ns ∧ cands = s.cluster.listWarmPods ns) ∨
      ∃ cands₀, pc = .claimWarm r ns cands₀ ∧ ∀ q ∈ cands, q ∈ cands₀) := by
  have hlen : i < s.procs.length := (List.getElem?_eq_some_iff.1 hi).1
  cases pc <;> simp only [wakeStep] at hs
  case claimWarm r₀ ns₀ cands₀ =>
    have hsuf : cands₀.dropWhile (fun p => !Cluster.warmEligible p) <:+ cands₀ := List.dropWhile_suffix _
    split at hs
    · cases hs
      simp [wakeTo, List.getElem?_set_self hlen] at hi'
    · rename_i q rest hd
      rw [hd] at hsuf
      split at hs <;> cases hs <;> simp [wakeTo, List.getElem?_set_self hlen] at hi'
      obtain ⟨-, -, rfl, rfl, rfl⟩ := hi'
      exact ⟨rfl, .inr ⟨cands₀, rfl, fun x hx => hsuf.subset (List.mem_cons_of_mem _ hx)⟩⟩
  case listWarm r₀ ns₀ =>
    split at hs <;> cases hs <;> simp [wakeTo, List.getElem?_set_self hlen] at hi'
    obtain ⟨-, -, rfl, rfl, rfl⟩ := hi'
    exact ⟨rfl, .inl ⟨rfl, rfl⟩⟩
  case waitReady =>
    split at hs
    · obtain ⟨p, -, rfl⟩ := Option.map_eq_some'.1 hs
      simp [wakeTo, List.getElem?_set_self hlen] at hi'
    · cases hs
      simp [wakeTo, List.getElem?_set_self hlen] at hi'
  all_goals (repeat' split at hs) <;> (try cases hs) <;> simp_all [wakeTo, List.getElem?_set_self hlen]

/-- Every move keeps the candidates of every wake listed. -/
lemma ListedCurrent.step (hv : s.cluster.Versioned) (h : s.ListedCurrent) {a : Act}
    (hs : s.step a = some s') : s'.ListedCurrent := by
  have hw := ((step_cluster hs).versioned hv).2
  intro j t lu r ns cands hj q hq
  by_cases hm : ∃ ok, a = .run j ok
  · obtain ⟨ok, rfl⟩ := hm
    obtain ⟨p, hp, hps⟩ := Option.bind_eq_some.1 hs
    cases p with
    | wake t₀ lu₀ pc =>
      obtain ⟨hcl, hpc⟩ := wakeStep_claimWarm hp hps hj
      rw [hcl]
      rcases hpc with ⟨-, rfl⟩ | ⟨cands₀, rfl, hsub⟩
      · exact hv.listed (Cluster.mem_listWarmPods hq).1
      · exact h j t₀ lu₀ r ns cands₀ hp q (hsub q hq)
    | _ =>
      obtain ⟨p', hp', htag⟩ := step_self hs hj
      rw [hp, Option.some_inj] at hp'
      subst hp'
      cases htag
  · by_cases hl : j < s.procs.length
    · rw [step_others hs (fun ok h => hm ⟨ok, h⟩) hl] at hj
      exact (h j t lu r ns cands hj q hq).of_writes hw
    · obtain ⟨req, hreq⟩ := step_fresh hs (not_lt.1 hl) hj
      cases req <;> cases hreq

end Sys

/-- In every reachable deployment every candidate a wake holds is listed. -/
lemma Reachable.listedCurrent {cfg : Config} {s : Sys} (hs : Reachable cfg s) : s.ListedCurrent :=
  let ⟨_, hr⟩ := hs
  (Sys.run_induct (fun s => s.cluster.Versioned ∧ s.ListedCurrent)
    (fun _ _ _ ⟨hv, h⟩ hs => ⟨((Sys.step_cluster hs).versioned hv).1, h.step hv hs⟩)
    (s := Sys.init cfg) ⟨⟨⟨List.nodup_nil, fun _ h => nomatch h⟩, List.nodup_nil⟩,
      fun _ _ _ _ _ _ h => by simp [Sys.init] at h⟩ hr).2

/-- **`GetWarmPod` relabels a pod only as it listed it.** In every reachable deployment,
whatever interleaving of requests, calls and cluster moves led there, a call of a wake that
relabels one of its listed candidates applies to a pod that is, at that moment, exactly the
copy it listed: Running with an IP and not terminating, as `GetWarmPod` checked on the list.
The relabel is an `Update` of the listed object, conditional on its resource version. -/
theorem warm_relabel_applies_to_listed_pod {cfg : Config} {s s' : Sys} (hs : Reachable cfg s) {i : Nat}
    {ok : Bool} {t : String} {lu : Option Int} {r : TenantRecord} {ns : String} {cands : List Pod}
    {p' : Pod} (hi : s.procs[i]? = some (.wake t lu (.claimWarm r ns cands)))
    (hstep : s.step (.run i ok) = some s') (hd : s'.procs[i]? = some (.wake t lu (.deleteWarm r ns p'))) :
    ∃ q ∈ cands, q ∈ s.cluster.pods ∧ Cluster.warmEligible q = true ∧
      p' = { q with warm := "consuming", resourceVersion := s.cluster.rev + 1 } := by
  have hlen : i < s.procs.length := (List.getElem?_eq_some_iff.1 hi).1
  simp only [Sys.step, hi, Option.some_bind, Sys.procStep, Sys.wakeStep] at hstep
  split at hstep
  · cases hstep
    simp [Sys.wakeTo, List.getElem?_set_self hlen] at hd
  · rename_i q rest hdrop
    obtain ⟨hqc, hqe⟩ := ClaimPc.mem_eligible_of_dropWhile hdrop
    split at hstep
    · rename_i p'' c hc
      cases hstep
      have hc' : s.cluster.claimWarmPod q = some (p'', c) := by
        revert hc
        split_ifs <;> simp
      obtain ⟨hmem, hp''⟩ := (hs.listedCurrent i t lu r ns cands hi q hqc).mem_of_claim hc'
      simp [Sys.wakeTo, List.getElem?_set_self hlen] at hd
      exact ⟨q, hqc, hmem, hqe, hd ▸ hp''⟩
    · cases hstep
      simp [Sys.wakeTo, List.getElem?_set_self hlen] at hd

/-- A warm-pool replica `x` Running at `10.0.1.1`, then a wake of the unknown tenant `a` up to
its relabel. -/
def warmClaimRun : List Act :=
  [.warmReplica "x" "node-1", .podReady "tenants" "warm-pool-x" "10.0.1.1", .request (.wake "a")] ++
    Act.calls 0 6

/-- The wake relabels replica `x`, which it listed Running at `10.0.1.1` with version 2, as it
listed it. -/
theorem warm_claim_relabels_listed_replica :
    let cfg := Config.orchestrator "tenants" false
    let s := Sys.runFrom cfg warmClaimRun
    let r := provisioningRecord cfg 0 "a"
    let x : Pod := ⟨"tenants", "warm-pool-x", "warm-pool", "", "true", "node-1", "", .running, "10.0.1.1", false, 2⟩
    Reachable cfg s ∧ s.procs[0]? = some (.wake "a" (some (240 * nsPerSec)) (.claimWarm r "tenants" [x])) ∧
      ∃ s', s.step (.run 0 true) = some s' ∧
        s'.procs[0]? = some (.wake "a" (some (240 * nsPerSec))
          (.deleteWarm r "tenants" { x with warm := "consuming", resourceVersion := 3 })) ∧
        ∃ q ∈ [x], q ∈ s.cluster.pods ∧ Cluster.warmEligible q = true ∧
          { x with warm := "consuming", resourceVersion := 3 } =
            { q with warm := "consuming", resourceVersion := s.cluster.rev + 1 } := by
  intro cfg s r x
  have hs : Reachable cfg s := Reachable.runFrom (by decide)
  have hi : s.procs[0]? = some (.wake "a" (some (240 * nsPerSec)) (.claimWarm r "tenants" [x])) := by decide
  let s' := (s.step (.run 0 true)).getD s
  have hstep : s.step (.run 0 true) = some s' :=
    (Option.getD_of_ne_none (Option.ne_none_iff_isSome.2 (by decide)) s).symm
  have hd : s'.procs[0]? = some (.wake "a" (some (240 * nsPerSec))
      (.deleteWarm r "tenants" { x with warm := "consuming", resourceVersion := 3 })) := by decide
  exact ⟨hs, hi, s', hstep, hd, warm_relabel_applies_to_listed_pod hs hi hstep hd⟩

end Tenancy

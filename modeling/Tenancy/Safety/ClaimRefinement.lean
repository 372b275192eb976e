import Tenancy.Safety.ClusterVersions

/-!
The warm-pool claims of concurrent wakes in the deployment (`Handler.wakeOrGet` calling
`Client.GetWarmPod` of `internal/k8s/client.go`) against `ClaimRace`, the model of
concurrent `GetWarmPod` calls alone.

* `Proc.claimIn`: the `GetWarmPod` call a wake is making in a namespace: listing, trying its
  candidates, or returned with the relabelled pod it goes on to delete, or with none;
* `Sys.claiming`: the moves of a claim: a successful call of a wake listing or trying
  candidates;
* `ClaimRace.Tracks`: a `ClaimRace` stands for wakes `ws` of the deployment: the same
  cluster, and call `j` where wake `ws[j]` is; `ClaimRace.Tracks.step`: **every claim move
  of the deployment is the matching `GetWarmPod` step**, and `ClaimRace.Tracks.run` for
  every interleaving of them;
* `wakes_claim_distinct_warm_pods`: **in every reachable deployment, wakes that list the
  warm pool of one namespace and then claim, in any interleaving with nothing else moving,
  end holding as many warm pods as the pool had claimable or as there were wakes, no two
  the same object**: `ClaimRace.Reachable.outcome` carried over to the deployment, with no
  second proof.
-/

namespace Tenancy

/-- The `GetWarmPod` call in namespace `ns` that a process is making, if it is a wake in its
warm-pool claim there. -/
def Proc.claimIn (ns : String) : Proc → Option ClaimPc
  | .wake _ _ (.listWarm _ ns') => if ns' = ns then some .list else none
  | .wake _ _ (.claimWarm _ ns' cands) => if ns' = ns then some (.claim cands) else none
  | .wake _ _ (.deleteWarm _ ns' p) => if ns' = ns then some (.done (some p)) else none
  | .wake _ _ (.createPod _ ns' node) => if ns' = ns ∧ node = "" then some (.done none) else none
  | _ => none

/-- A move of the claim in `ns`: a successful call of a wake listing the warm pool there or
trying its candidates. -/
def Sys.claiming (ns : String) (s : Sys) : Act → Bool
  | .run w true => (s.procs[w]?.bind (Proc.claimIn ns)).any fun pc => !pc.finished
  | _ => false

/-- A process in an unfinished claim is a wake listing or trying candidates. -/
lemma Proc.claimIn_unfinished {ns : String} {p : Proc} {pc : ClaimPc} (h : p.claimIn ns = some pc)
    (hf : pc.finished = false) :
    ∃ t lu r, (pc = .list ∧ p = .wake t lu (.listWarm r ns)) ∨
      ∃ cands, pc = .claim cands ∧ p = .wake t lu (.claimWarm r ns cands) := by
  cases p with
  | wake t lu w =>
    cases w with
    | listWarm r ns' =>
      simp only [Proc.claimIn] at h
      split_ifs at h with hn
      cases h; subst hn
      exact ⟨t, lu, r, .inl ⟨rfl, rfl⟩⟩
    | claimWarm r ns' cands =>
      simp only [Proc.claimIn] at h
      split_ifs at h with hn
      cases h; subst hn
      exact ⟨t, lu, r, .inr ⟨cands, rfl, rfl⟩⟩
    | deleteWarm | createPod =>
      simp only [Proc.claimIn] at h
      split_ifs at h
      cases h; cases hf
    | _ => simp [Proc.claimIn] at h
  | _ => simp [Proc.claimIn] at h

/-- Rewriting the entry of `ws[j]` rewrites only entry `j` of a map over distinct `ws`. -/
lemma map_set_of_nodup {α : Type} {ws : List Nat} (hw : ws.Nodup) {j : Nat} (hj : j < ws.length)
    (g g' : Nat → α) (hg : ∀ w, w ≠ ws[j] → g' w = g w) : ws.map g' = (ws.map g).set j (g' ws[j]) := by
  refine List.ext_getElem? fun n => ?_
  rw [List.getElem?_map, List.getElem?_set]
  by_cases hn : j = n
  · subst hn
    simp [hj]
  · rw [if_neg hn, List.getElem?_map]
    cases hw' : ws[n]? with
    | none => rfl
    | some w =>
      obtain ⟨hn', rfl⟩ := List.getElem?_eq_some_iff.1 hw'
      simp only [Option.map_some']
      rw [hg _ fun h => hn ((hw.getElem_inj_iff).1 h).symm]

namespace ClaimRace

/-- `r` stands for the wakes `ws` of `s` claiming in `ns`: the same cluster, and call `j`
where wake `ws[j]` is. -/
structure Tracks (ns : String) (ws : List Nat) (s : Sys) (r : ClaimRace) : Prop where
  cluster : r.cluster = s.cluster
  ns_eq : r.ns = ns
  calls : r.calls.map some = ws.map fun w => s.procs[w]?.bind (Proc.claimIn ns)

variable {ns : String} {ws : List Nat} {s s' : Sys} {r : ClaimRace}

/-- Call `j` is where wake `ws[j]` is. -/
lemma Tracks.getElem?_calls (ht : r.Tracks ns ws s) {j w : Nat} {pc : ClaimPc} (hj : ws[j]? = some w)
    (hp : s.procs[w]?.bind (Proc.claimIn ns) = some pc) : r.calls[j]? = some pc := by
  have h := congrArg (·[j]?) ht.calls
  simp only [List.getElem?_map, hj, Option.map_some', hp] at h
  obtain ⟨_, h₁, h₂⟩ := Option.map_eq_some'.1 h
  cases h₂
  exact h₁

/-- Moving wake `ws[j]` to a process in call `pc` moves call `j` to `pc`. -/
lemma Tracks.calls_set (ht : r.Tracks ns ws s) (hw : ws.Nodup) {j : Nat} (hj : j < ws.length) {p : Proc}
    {pc : ClaimPc} (hp : p.claimIn ns = some pc) (hlen : ws[j] < s.procs.length)
    (hprocs : s'.procs = s.procs.set ws[j] p) :
    (r.calls.set j pc).map some = ws.map fun w => s'.procs[w]?.bind (Proc.claimIn ns) := by
  rw [List.map_set, ht.calls, map_set_of_nodup hw hj (fun w => s.procs[w]?.bind (Proc.claimIn ns))
    (fun w => s'.procs[w]?.bind (Proc.claimIn ns)) fun w hne => by
      simp only [hprocs, List.getElem?_set_ne (Ne.symm hne)]]
  simp [hprocs, hlen, hp]

/-- **Every claim move of the deployment is the matching `GetWarmPod` step.** -/
lemma Tracks.step (ht : r.Tracks ns ws s) (hw : ws.Nodup) {j : Nat} (hj : j < ws.length)
    (ha : s.claiming ns (.run ws[j] true) = true) (hs : s.step (.run ws[j] true) = some s') :
    ∃ r', r.step j = some r' ∧ r'.Tracks ns ws s' := by
  obtain ⟨pc, hpc, hf⟩ : ∃ pc, s.procs[ws[j]]?.bind (Proc.claimIn ns) = some pc ∧ pc.finished = false := by
    simp only [Sys.claiming] at ha
    cases h : s.procs[ws[j]]?.bind (Proc.claimIn ns) with
    | none => rw [h] at ha; cases ha
    | some pc => rw [h, Option.any_some, Bool.not_eq_true'] at ha; exact ⟨pc, rfl, ha⟩
  obtain ⟨p, hp, hq⟩ := Option.bind_eq_some.1 hpc
  have hrj := ht.getElem?_calls (List.getElem?_eq_getElem hj) hpc
  have hlen : ws[j] < s.procs.length := (List.getElem?_eq_some_iff.1 hp).1
  obtain ⟨t, lu, rec, ⟨rfl, rfl⟩ | ⟨cands, rfl, rfl⟩⟩ := Proc.claimIn_unfinished hq hf
  · simp only [Sys.step, hp, Option.some_bind, Sys.procStep, Sys.wakeStep, if_true] at hs
    cases hs
    refine ⟨{ r with calls := r.calls.set j (.claim (r.cluster.listWarmPods r.ns)) },
      by simp [ClaimRace.step, hrj], ht.cluster, ht.ns_eq, ?_⟩
    rw [ht.cluster, ht.ns_eq]
    exact ht.calls_set hw hj (by simp [Proc.claimIn]) hlen rfl
  · simp only [Sys.step, hp, Option.some_bind, Sys.procStep, Sys.wakeStep, if_true] at hs
    cases hd : cands.dropWhile (fun p => !Cluster.warmEligible p) with
    | nil =>
      rw [hd] at hs
      cases hs
      exact ⟨{ r with calls := r.calls.set j (.done none) }, by simp [ClaimRace.step, hrj, hd], ht.cluster, ht.ns_eq,
        ht.calls_set hw hj (by simp [Proc.claimIn]) hlen rfl⟩
    | cons q rest =>
      rw [hd] at hs
      cases hcl : s.cluster.claimWarmPod q with
      | none =>
        simp only [hcl, Option.some.injEq] at hs
        subst hs
        exact ⟨{ r with calls := r.calls.set j (.claim rest) }, by simp [ClaimRace.step, hrj, hd, ht.cluster, hcl],
          ht.cluster, ht.ns_eq,
          ht.calls_set hw hj (by simp [Proc.claimIn]) hlen rfl⟩
      | some pc' =>
        obtain ⟨q', c⟩ := pc'
        simp only [hcl, Option.some.injEq] at hs
        subst hs
        exact ⟨{ r with cluster := c, calls := r.calls.set j (.done (some q')), claims := (r.cluster, q) :: r.claims },
          by simp [ClaimRace.step, hrj, hd, ht.cluster, hcl], rfl, ht.ns_eq,
          ht.calls_set hw hj (by simp [Proc.claimIn]) hlen rfl⟩

/-- Every interleaving of claim moves of the deployment is an interleaving of the matching
`GetWarmPod` calls. -/
lemma Tracks.run (hw : ws.Nodup) : ∀ (js : List Nat) {r : ClaimRace} {s s' : Sys},
    (∀ j ∈ js, j < ws.length) → r.Tracks ns ws s →
    s.runGuarded (Sys.claiming ns) (js.map fun j => .run (ws.getD j 0) true) = some s' →
    ∃ r', r.run js = some r' ∧ r'.Tracks ns ws s'
  | [], r, _, _, _, ht, h => by cases h; exact ⟨r, rfl, ht⟩
  | j :: js, _, _, _, hjs, ht, h => by
    have hj := hjs j (List.mem_cons_self _ _)
    have hg : ws.getD j 0 = ws[j] := by simp [hj]
    simp only [List.map_cons, Sys.runGuarded, hg] at h
    split_ifs at h with ha
    obtain ⟨s₁, h₁, h⟩ := Option.bind_eq_some.1 h
    obtain ⟨r₁, hr₁, ht₁⟩ := ht.step hw hj ha h₁
    obtain ⟨r', hr', ht'⟩ := Tracks.run hw js (fun j' hj' => hjs j' (List.mem_cons_of_mem _ hj')) ht₁ h
    exact ⟨r', by simp [ClaimRace.run, hr₁, hr'], ht'⟩

/-- Wakes `ws`, all listing the warm pool of `ns`, stand for `GetWarmPod` calls not yet
started. -/
lemma Tracks.start (hl : ∀ w ∈ ws, s.procs[w]?.bind (Proc.claimIn ns) = some .list) :
    (start s.cluster ns ws.length).Tracks ns ws s := by
  refine ⟨rfl, rfl, ?_⟩
  rw [start_calls, List.map_replicate, List.map_congr_left hl, List.map_const']

end ClaimRace

/-- **Concurrent wakes claim distinct warm pods.** In every reachable deployment, take
distinct wakes `ws`, all about to list the warm pool of `ns`, and any interleaving `js` of
their claim calls, each reaching the API server, with nothing else moving. Once every one
has returned, as many of them hold a relabelled warm pod as the pool had claimable pods or
as there were wakes, whichever is less, and no two hold the same object. -/
theorem wakes_claim_distinct_warm_pods {cfg : Config} {s s' : Sys} (hs : Reachable cfg s) {ns : String}
    {ws js : List Nat} (hw : ws.Nodup) (hl : ∀ w ∈ ws, s.procs[w]?.bind (Proc.claimIn ns) = some .list)
    (hjs : ∀ j ∈ js, j < ws.length)
    (hr : s.runGuarded (Sys.claiming ns) (js.map fun j => .run (ws.getD j 0) true) = some s')
    (hdone : ∀ w ∈ ws, (s'.procs[w]?.bind (Proc.claimIn ns)).all ClaimPc.finished = true) :
    ws.countP (fun w => ((s'.procs[w]?.bind (Proc.claimIn ns)).bind ClaimPc.result).isSome) =
        min ws.length (s.cluster.pool ns).length ∧
      ∀ v ∈ ws, ∀ w ∈ ws, ∀ p q : Pod, s'.procs[v]?.bind (Proc.claimIn ns) = some (.done (some p)) →
        s'.procs[w]?.bind (Proc.claimIn ns) = some (.done (some q)) → p.key = q.key → v = w := by
  obtain ⟨r, hr', ht⟩ := ClaimRace.Tracks.run hw js hjs (ClaimRace.Tracks.start hl) hr
  have hfin : ∀ pc ∈ r.calls, pc.finished = true := fun pc hpc => by
    have : some pc ∈ ws.map fun w => s'.procs[w]?.bind (Proc.claimIn ns) := ht.calls ▸ List.mem_map_of_mem _ hpc
    obtain ⟨w, hw', hpw⟩ := List.mem_map.1 this
    simpa [hpw] using hdone w hw'
  obtain ⟨hcount, hdist, -⟩ := ClaimRace.Reachable.outcome hs.versioned.wf ⟨js, hr'⟩ hfin
  refine ⟨?_, fun v hv w hw' p q hp hq hk => ?_⟩
  · have h := congrArg (List.countP fun o : Option ClaimPc => (o.bind ClaimPc.result).isSome) ht.calls
    simp only [List.countP_map] at h
    exact h.symm.trans hcount
  · obtain ⟨i, hi, rfl⟩ := List.getElem_of_mem hv
    obtain ⟨i', hi', rfl⟩ := List.getElem_of_mem hw'
    obtain rfl := hdist i i' p q (ht.getElem?_calls (List.getElem?_eq_getElem hi) hp)
      (ht.getElem?_calls (List.getElem?_eq_getElem hi') hq) hk
    rfl

/-- Two warm-pool replicas Running in `tenants`, then wakes of the unknown tenants `a` and
`b`, each brought to the list of the warm pool. -/
def twoWakesRun : List Act :=
  [.warmReplica "x" "node-1", .podReady "tenants" "warm-pool-x" "10.0.1.1",
   .warmReplica "y" "node-2", .podReady "tenants" "warm-pool-y" "10.0.1.2",
   .request (.wake "a"), .request (.wake "b")] ++ Act.calls 0 5 ++ Act.calls 1 5

/-- Both wakes list the pool; `a` claims `warm-pool-x`, `b` conflicts on it and claims
`warm-pool-y`: both hold a warm pod. -/
theorem two_wakes_claim_two_warm_pods :
    ∃ s', (Sys.runFrom (Config.orchestrator "tenants" false) twoWakesRun).runGuarded (Sys.claiming "tenants")
        ([0, 1, 0, 1, 1].map fun j => .run ([0, 1].getD j 0) true) = some s' ∧
      [0, 1].countP (fun w => ((s'.procs[w]?.bind (Proc.claimIn "tenants")).bind ClaimPc.result).isSome) = 2 := by
  have hs := @Reachable.runFrom (Config.orchestrator "tenants" false) twoWakesRun (by decide)
  have hsome : ((Sys.runFrom (Config.orchestrator "tenants" false) twoWakesRun).runGuarded
      (Sys.claiming "tenants") ([0, 1, 0, 1, 1].map fun j => .run ([0, 1].getD j 0) true)).isSome := by decide
  have hr := (Option.getD_of_ne_none (Option.ne_none_iff_isSome.2 hsome) (Sys.init (Config.orchestrator "tenants" false))).symm
  refine ⟨_, hr, ?_⟩
  rw [(wakes_claim_distinct_warm_pods hs (by decide) (by decide) (by decide) hr (by decide)).1]
  decide

end Tenancy

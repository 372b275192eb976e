import Tenancy.Invariant.Footprint

/-!
Concurrent `GetWarmPod` calls (`Client.GetWarmPod` of `internal/k8s/client.go`, the warm-pool
claim of `Handler.wakeOrGet`), over a cluster nothing else changes.

Each call lists `app=warm-pool,warm=true` once, then tries its candidates in order: it skips
one that is not Running with an IP or is terminating, and relabels the next `warm=consuming`
with an `Update` that the API server applies only if the pod still has the listed resource
version; on a conflict it goes on to the next candidate, and with none left it returns no
pod. `ClaimRace.step` is one call of one of them, in any interleaving.

* `Pod.key`, `Cluster.Wf`: one object per namespace and name, no resource version ahead of
  the counter;
* `Cluster.claimable`, `Cluster.pool`: the pods a call can claim; `m` is their number;
* `ClaimPc.Sound`, `ClaimRace.Inv`: a call holding candidates holds every pod still
  claimable, and a listed pod whose version is unchanged is unchanged; a call that found
  none left none; the returned pods are distinct and no longer claimable, and as many as the
  pool has lost;
* `ClaimRace.left`, `step_left_lt`, `finished_of_stuck`: every call lowers what the calls have
  left to do, and a call that has not returned can always move, so every interleaving ends
  with all calls returned;
* `warm_claims_race_free`: **every interleaving of `k` calls over a pool of `m` claimable pods
  is finite, and once it cannot go on exactly `min k m` calls have returned a pod, no two the
  same pod, each one claimable, as the cluster had it, immediately before the `Update` that
  relabelled it**.
-/

namespace Tenancy

/-- The object a pod is: its namespace and name. -/
def Pod.key (p : Pod) : String × String := (p.ns, p.name)

namespace Cluster

/-- A pod `GetWarmPod` in `ns` lists and may relabel: `app=warm-pool,warm=true` in `ns`,
Running with an IP, and not terminating. -/
def claimable (ns : String) (p : Pod) : Bool :=
  p.ns == ns && p.app == "warm-pool" && p.warm == "true" && warmEligible p

/-- The pods a `GetWarmPod` in `ns` can claim. -/
def pool (c : Cluster) (ns : String) : List Pod := c.pods.filter (claimable ns)

/-- What every cluster the API server keeps satisfies: one object per namespace and name,
and no resource version ahead of the counter. -/
structure Wf (c : Cluster) : Prop where
  nodup : (c.pods.map Pod.key).Nodup
  rev_le : ∀ p ∈ c.pods, p.resourceVersion ≤ c.rev

variable {c : Cluster} {p q p' : Pod} {ns : String}

lemma Wf.eq_of_key (h : c.Wf) (hp : p ∈ c.pods) (hq : q ∈ c.pods) (hk : p.key = q.key) : p = q :=
  List.inj_on_of_nodup_map h.nodup hp hq hk

lemma Wf.getPod_self (h : c.Wf) (hp : p ∈ c.pods) : c.getPod p.ns p.name = some p := by
  cases hf : c.getPod p.ns p.name with
  | none =>
    have : (c.pods.find? (·.is p.ns p.name)).isSome := List.find?_isSome.2 ⟨p, hp, by simp [Pod.is]⟩
    rw [← getPod, hf] at this
    cases this
  | some x =>
    obtain ⟨hx, hn, hm⟩ := mem_of_getPod hf
    rw [h.eq_of_key hx hp (by simp [Pod.key, hn, hm])]

lemma claimWarmPod_eq_some {c' : Cluster} (h : c.claimWarmPod p = some (p', c')) :
    ∃ cur, c.getPod p.ns p.name = some cur ∧ cur.resourceVersion = p.resourceVersion ∧
      p' = { p with warm := "consuming", resourceVersion := c.rev + 1 } ∧
      c' = c.modifyPod p.ns p.name fun _ => p' := by
  unfold claimWarmPod at h
  split at h
  · rename_i cur hcur
    split_ifs at h with hv
    cases h
    exact ⟨cur, hcur, hv, rfl, rfl⟩
  · cases h

/-- The claimable pods have claimable members only. -/
lemma claimable_of_mem_pool (h : q ∈ c.pool ns) : q ∈ c.pods ∧ claimable ns q = true :=
  List.mem_filter.1 h

/-! ### Relabelling one object -/

/-- The pods after `p`'s object is rewritten to `p'`. -/
def relabel (l : List Pod) (p p' : Pod) : List Pod := l.map fun q => if q.is p.ns p.name then p' else q

lemma mem_relabel {l : List Pod} {x : Pod} (hx : x ∈ relabel l p p') :
    x = p' ∨ (x ∈ l ∧ x.key ≠ p.key) := by
  obtain ⟨y, hy, rfl⟩ := List.mem_map.1 hx
  split_ifs with hi
  · exact .inl rfl
  · exact .inr ⟨hy, fun hk => hi (is_iff.2 ⟨congrArg Prod.fst hk, congrArg Prod.snd hk⟩)⟩

/-- Rewriting the one object `p` to `p'` counts `p'` in place of `p`. -/
lemma countP_relabel {l : List Pod} (hnd : (l.map Pod.key).Nodup) (hp : p ∈ l) (f : Pod → Bool) :
    (relabel l p p').countP f + (if f p then 1 else 0) = l.countP f + (if f p' then 1 else 0) := by
  induction l with
  | nil => cases hp
  | cons x l ih =>
    rw [List.map_cons, List.nodup_cons] at hnd
    by_cases hx : x.is p.ns p.name
    · have hxk : x.key = p.key := by
        obtain ⟨h₁, h₂⟩ := is_iff.1 hx; simp [Pod.key, h₁, h₂]
      obtain rfl : p = x := by
        rcases List.mem_cons.1 hp with h | h
        · exact h
        · exact absurd (List.mem_map.2 ⟨p, h, hxk.symm⟩) hnd.1
      have hid : relabel l p p' = l := by
        refine (List.map_congr_left fun q hq => if_neg fun hq' => hnd.1 ?_).trans (List.map_id _)
        obtain ⟨h₁, h₂⟩ := is_iff.1 hq'
        exact List.mem_map.2 ⟨q, hq, by simp [Pod.key, h₁, h₂]⟩
      simp only [relabel, List.map_cons, if_pos hx] at hid ⊢
      rw [hid, List.countP_cons, List.countP_cons]
      omega
    · have hp' : p ∈ l := (List.mem_cons.1 hp).resolve_left fun h => hx (h ▸ by simp [Pod.is])
      simp only [relabel, List.map_cons, if_neg hx, List.countP_cons] at ih ⊢
      have := ih hnd.2 hp'
      split_ifs at this ⊢ <;> omega

/-- The cluster after `claimWarmPod` relabelled the listed `p`. -/
lemma modifyPod_pods :
    (c.modifyPod p.ns p.name fun _ => p').pods = relabel c.pods p p' := rfl

lemma Wf.of_relabel (h : c.Wf) (hk : p'.key = p.key) (hrev : p'.resourceVersion ≤ c.rev + 1) :
    (c.modifyPod p.ns p.name fun _ => p').Wf := by
  refine ⟨?_, fun x hx => ?_⟩
  · have : (relabel c.pods p p').map Pod.key = c.pods.map Pod.key := by
      rw [Cluster.relabel, List.map_map]
      refine List.map_congr_left fun q _ => ?_
      simp only [Function.comp]
      split_ifs with hq
      · obtain ⟨h₁, h₂⟩ := is_iff.1 hq; rw [hk]; simp [Pod.key, h₁, h₂]
      · rfl
    exact (congrArg List.Nodup this).mpr h.nodup
  · rcases mem_relabel hx with rfl | ⟨hx, -⟩
    · exact hrev
    · exact (h.rev_le x hx).trans (Nat.le_succ _)

/-- A pod claimable in `ns` is one `GetWarmPod` tries. -/
lemma warmEligible_of_claimable (h : claimable ns q = true) : warmEligible q = true := by
  simp only [claimable, Bool.and_eq_true] at h
  exact h.2

/-- The `Update` of a listed pod the cluster still holds unchanged succeeds. -/
lemma Wf.claimWarmPod_isSome (h : c.Wf) (hp : p ∈ c.pods) : (c.claimWarmPod p).isSome = true := by
  simp [claimWarmPod, h.getPod_self hp]

/-- After a relabel to a pod no call can claim, the claimable pods are some of those before,
none of them the relabelled object. -/
lemma mem_pool_claim (hq : q ∈ (c.modifyPod p.ns p.name fun _ => p').pool ns)
    (hp' : claimable ns p' = false) : q ∈ c.pool ns ∧ q.key ≠ p.key := by
  obtain ⟨hq, hcl⟩ := claimable_of_mem_pool hq
  rw [modifyPod_pods] at hq
  rcases mem_relabel hq with rfl | ⟨hq, hk⟩
  · rw [hp'] at hcl; cases hcl
  · exact ⟨List.mem_filter.2 ⟨hq, hcl⟩, hk⟩

/-- Relabelling a claimable pod to one no call can claim takes exactly it from the pool. -/
lemma Wf.pool_length_claim (h : c.Wf) (hp : p ∈ c.pool ns) (hp' : claimable ns p' = false) :
    ((c.modifyPod p.ns p.name fun _ => p').pool ns).length + 1 = (c.pool ns).length := by
  have : (relabel c.pods p p').countP (claimable ns) + _ = _ :=
    countP_relabel h.nodup (claimable_of_mem_pool hp).1 (claimable ns)
  rw [(claimable_of_mem_pool hp).2, hp'] at this
  simpa only [pool, modifyPod_pods, ← List.countP_eq_length_filter] using this

end Cluster

/-! ### The calls -/

/-- Where a `GetWarmPod` call is: before its `List`, holding the candidates it has not
tried, or returned. -/
inductive ClaimPc
  | list
  | claim (cands : List Pod)
  | done (pod : Option Pod)
  deriving DecidableEq, Repr

/-- The pod a call returned. -/
def ClaimPc.result : ClaimPc → Option Pod
  | .done p => p
  | _ => none

/-- The call has returned. -/
def ClaimPc.finished : ClaimPc → Bool
  | .done _ => true
  | _ => false

/-- `GetWarmPod` calls in namespace `ns` over a cluster nothing else changes, with (ghost)
each successful relabel: the cluster just before it and the listed pod it relabelled. -/
structure ClaimRace where
  cluster : Cluster
  ns : String
  calls : List ClaimPc
  claims : List (Cluster × Pod)

namespace ClaimRace

/-- `k` calls, none started. -/
def start (c : Cluster) (ns : String) (k : Nat) : ClaimRace := ⟨c, ns, List.replicate k .list, []⟩

@[simp] lemma start_cluster (c : Cluster) (ns : String) (k : Nat) : (start c ns k).cluster = c := rfl
@[simp] lemma start_ns (c : Cluster) (ns : String) (k : Nat) : (start c ns k).ns = ns := rfl
@[simp] lemma start_calls (c : Cluster) (ns : String) (k : Nat) :
    (start c ns k).calls = List.replicate k .list := rfl
@[simp] lemma start_claims (c : Cluster) (ns : String) (k : Nat) : (start c ns k).claims = [] := rfl

/-- The next call of `GetWarmPod` `i`: its `List`, or the `Update` of its next eligible
candidate; a conflict moves on to the following one, and with none left it returns no
pod. -/
def step (r : ClaimRace) (i : Nat) : Option ClaimRace :=
  match r.calls[i]? with
  | some .list => some { r with calls := r.calls.set i (.claim (r.cluster.listWarmPods r.ns)) }
  | some (.claim cands) =>
    match cands.dropWhile (fun p => !Cluster.warmEligible p) with
    | [] => some { r with calls := r.calls.set i (.done none) }
    | p :: rest =>
      match r.cluster.claimWarmPod p with
      | some (p', c) =>
        some { r with cluster := c, calls := r.calls.set i (.done (some p')),
                      claims := (r.cluster, p) :: r.claims }
      | none => some { r with calls := r.calls.set i (.claim rest) }
  | _ => none

/-- The calls `is` make, one after another. -/
def run (r : ClaimRace) : List Nat → Option ClaimRace
  | [] => some r
  | i :: is => (r.step i).bind (·.run is)

/-- A state some interleaving of `k` calls reaches. -/
def Reachable (c : Cluster) (ns : String) (k : Nat) (r : ClaimRace) : Prop :=
  ∃ is, (start c ns k).run is = some r

/-- The state an interleaving reaches, or the start if it gets stuck. -/
def runFrom (c : Cluster) (ns : String) (k : Nat) (is : List Nat) : ClaimRace :=
  ((start c ns k).run is).getD (start c ns k)

lemma Reachable.runFrom {c : Cluster} {ns : String} {k : Nat} {is : List Nat}
    (h : ((start c ns k).run is).isSome = true) : Reachable c ns k (runFrom c ns k is) := by
  obtain ⟨r, hr⟩ := Option.isSome_iff_exists.1 h
  exact ⟨is, by rw [ClaimRace.runFrom, hr]; rfl⟩

variable {r r' : ClaimRace} {i : Nat}

/-- **What one call can do.** -/
lemma step_cases (hs : r.step i = some r') :
    (r.calls[i]? = some .list ∧
      r' = { r with calls := r.calls.set i (.claim (r.cluster.listWarmPods r.ns)) }) ∨
    (∃ cands, r.calls[i]? = some (.claim cands) ∧ cands.dropWhile (fun p => !Cluster.warmEligible p) = [] ∧
      r' = { r with calls := r.calls.set i (.done none) }) ∨
    (∃ cands p rest, r.calls[i]? = some (.claim cands) ∧
      cands.dropWhile (fun p => !Cluster.warmEligible p) = p :: rest ∧ r.cluster.claimWarmPod p = none ∧
      r' = { r with calls := r.calls.set i (.claim rest) }) ∨
    (∃ cands p rest p' c, r.calls[i]? = some (.claim cands) ∧
      cands.dropWhile (fun p => !Cluster.warmEligible p) = p :: rest ∧
      r.cluster.claimWarmPod p = some (p', c) ∧
      r' = { r with cluster := c, calls := r.calls.set i (.done (some p')),
                    claims := (r.cluster, p) :: r.claims }) := by
  unfold step at hs
  split at hs
  · rename_i h; cases hs; exact .inl ⟨h, rfl⟩
  · rename_i cands h
    split at hs
    · rename_i hd; cases hs; exact .inr (.inl ⟨cands, h, hd, rfl⟩)
    · rename_i p rest hd
      split at hs
      · rename_i p' c hc; cases hs; exact .inr (.inr (.inr ⟨cands, p, rest, p', c, h, hd, hc, rfl⟩))
      · rename_i hc; cases hs; exact .inr (.inr (.inl ⟨cands, p, rest, h, hd, hc, rfl⟩))
  · cases hs

end ClaimRace

/-! ### The invariant -/

/-- What call `pc` knows of cluster `c`: a call holding candidates holds only pods listed in
`ns` that are unchanged while their version is, and every pod still claimable; a call that
found none left none claimable; a call that returned a pod shares its object with no
claimable pod. -/
def ClaimPc.Sound (c : Cluster) (ns : String) : ClaimPc → Prop
  | .list => True
  | .claim cands =>
    (∀ q ∈ cands, q.ns = ns ∧ q.app = "warm-pool" ∧ q.warm = "true" ∧ q.resourceVersion ≤ c.rev ∧
      ∀ p ∈ c.pods, p.key = q.key → p.resourceVersion = q.resourceVersion → p = q) ∧
    ∀ p ∈ c.pool ns, p ∈ cands
  | .done none => c.pool ns = []
  | .done (some p) => ∀ q ∈ c.pool ns, q.key ≠ p.key

namespace ClaimPc

variable {c : Cluster} {ns : String} {cands rest : List Pod} {p p' : Pod}

/-- The candidate a call tries next is one it listed, and eligible. -/
lemma mem_eligible_of_dropWhile (hd : cands.dropWhile (fun p => !Cluster.warmEligible p) = p :: rest) :
    p ∈ cands ∧ Cluster.warmEligible p = true := by
  induction cands with
  | nil => cases hd
  | cons x xs ih =>
    rw [List.dropWhile_cons] at hd
    split_ifs at hd with hx
    · exact ⟨List.mem_cons_of_mem _ (ih hd).1, (ih hd).2⟩
    · cases hd; simpa using hx

/-- A fresh `List` holds every pod claimable now, each as the cluster has it. -/
lemma sound_list (hc : c.Wf) : (ClaimPc.claim (c.listWarmPods ns)).Sound c ns := by
  refine ⟨fun q hq => ?_, fun x hx => ?_⟩
  · obtain ⟨hq, hf⟩ := List.mem_filter.1 hq
    simp only [Bool.and_eq_true, beq_iff_eq] at hf
    exact ⟨hf.1.1, hf.1.2, hf.2, hc.rev_le q hq, fun x hx hk _ => hc.eq_of_key hx hq hk⟩
  · obtain ⟨hx, hf⟩ := Cluster.claimable_of_mem_pool hx
    simp only [Cluster.claimable, Bool.and_eq_true] at hf
    exact List.mem_filter.2 ⟨hx, by simpa only [Bool.and_eq_true] using hf.1⟩

/-- A call with no eligible candidate left leaves no claimable pod. -/
lemma Sound.exhausted (h : (ClaimPc.claim cands).Sound c ns)
    (hd : cands.dropWhile (fun p => !Cluster.warmEligible p) = []) : c.pool ns = [] :=
  List.eq_nil_iff_forall_not_mem.2 fun x hx => by
    have := List.dropWhile_eq_nil_iff.1 hd x (h.2 x hx)
    rw [Cluster.warmEligible_of_claimable (Cluster.claimable_of_mem_pool hx).2] at this
    cases this

/-- A conflict on the next candidate leaves every claimable pod among the rest: the
candidate itself had changed, and those skipped were not eligible. -/
lemma Sound.conflict (hc : c.Wf) (h : (ClaimPc.claim cands).Sound c ns)
    (hd : cands.dropWhile (fun p => !Cluster.warmEligible p) = p :: rest) (hcl : c.claimWarmPod p = none) :
    (ClaimPc.claim rest).Sound c ns := by
  have hsub : rest <:+ cands := (List.suffix_cons p rest).trans (hd ▸ List.dropWhile_suffix _)
  refine ⟨fun q hq => h.1 q (hsub.subset hq), fun x hx => ?_⟩
  obtain ⟨hxp, hxcl⟩ := Cluster.claimable_of_mem_pool hx
  have hxc := h.2 x hx
  rw [← List.takeWhile_append_dropWhile (fun p => !Cluster.warmEligible p) cands, hd] at hxc
  rcases List.mem_append.1 hxc with hxt | hxc
  · have := List.mem_takeWhile_imp hxt
    rw [Cluster.warmEligible_of_claimable hxcl] at this
    cases this
  · rcases List.mem_cons.1 hxc with rfl | hxc
    · have := hc.claimWarmPod_isSome hxp
      rw [hcl] at this
      cases this
    · exact hxc

/-- The `Update` that succeeds relabels the candidate as the cluster holds it. -/
lemma Sound.claimed (h : (ClaimPc.claim cands).Sound c ns) (hp : p ∈ cands) {c' : Cluster}
    (hcl : c.claimWarmPod p = some (p', c')) :
    c.getPod p.ns p.name = some p ∧ p' = { p with warm := "consuming", resourceVersion := c.rev + 1 } ∧
      c' = c.modifyPod p.ns p.name fun _ => p' := by
  obtain ⟨cur, hcur, hv, hp', hc'⟩ := Cluster.claimWarmPod_eq_some hcl
  obtain ⟨hx, hn, hm⟩ := Cluster.mem_of_getPod hcur
  rw [(h.1 p hp).2.2.2.2 cur hx (by simp [Pod.key, hn, hm]) hv] at hcur
  exact ⟨hcur, hp', hc'⟩

/-- What a call knows survives another call's relabel to a fresh version no call can
claim. -/
lemma Sound.relabel {pc : ClaimPc} (h : pc.Sound c ns) (hp' : Cluster.claimable ns p' = false)
    (hrv : p'.resourceVersion = c.rev + 1) : pc.Sound (c.modifyPod p.ns p.name fun _ => p') ns := by
  have hpool : ∀ q ∈ (c.modifyPod p.ns p.name fun _ => p').pool ns, q ∈ c.pool ns :=
    fun _ hq => (Cluster.mem_pool_claim hq hp').1
  cases pc with
  | list => trivial
  | claim cands =>
    refine ⟨fun q hq => ?_, fun x hx => h.2 x (hpool x hx)⟩
    obtain ⟨h₁, h₂, h₃, h₄, h₅⟩ := h.1 q hq
    refine ⟨h₁, h₂, h₃, Nat.le_succ_of_le h₄, fun x hx hk hv => ?_⟩
    rcases Cluster.mem_relabel hx with rfl | ⟨hx, -⟩
    · omega
    · exact h₅ x hx hk hv
  | done o =>
    cases o with
    | none => exact List.eq_nil_iff_forall_not_mem.2 fun x hx => List.not_mem_nil x (h ▸ hpool x hx)
    | some q₀ => exact fun q hq => h q (hpool q hq)

end ClaimPc

/-- The invariant of the calls, `m` being the number of pods claimable at the start. -/
structure ClaimRace.Inv (m : Nat) (r : ClaimRace) : Prop where
  wf : r.cluster.Wf
  sound : ∀ pc ∈ r.calls, pc.Sound r.cluster r.ns
  count : r.calls.countP (·.result.isSome) + (r.cluster.pool r.ns).length = m
  distinct : ∀ (i j : Nat) (p q : Pod), r.calls[i]? = some (.done (some p)) →
    r.calls[j]? = some (.done (some q)) → p.key = q.key → i = j
  traced : ∀ p' : Pod, .done (some p') ∈ r.calls →
    ∃ e ∈ r.claims, p' = { e.2 with warm := "consuming", resourceVersion := e.1.rev + 1 }
  ghost : ∀ e ∈ r.claims, e.1.getPod e.2.ns e.2.name = some e.2 ∧ Cluster.claimable r.ns e.2 = true

namespace ClaimRace

variable {m : Nat} {r r' : ClaimRace} {i : Nat}

lemma Inv.start {c : Cluster} (hc : c.Wf) (ns : String) (k : Nat) :
    (start c ns k).Inv (c.pool ns).length := by
  refine ⟨hc, fun pc hpc => ?_, ?_, fun i _ p _ hi _ _ => ?_, fun p' hp' => ?_, fun _ he => by cases he⟩
  · rw [start_calls] at hpc; rw [List.eq_of_mem_replicate hpc]; trivial
  · simp [List.countP_replicate, ClaimPc.result]
  · simp [List.getElem?_replicate] at hi
  · cases List.eq_of_mem_replicate hp'

/-- A call that moves between two states with no result, the cluster unchanged. -/
lemma Inv.setCall (h : r.Inv m) {x y : ClaimPc} (hi : r.calls[i]? = some x) (hx : x.result = none)
    (hy : y.result = none) (hys : y.Sound r.cluster r.ns) :
    ({ r with calls := r.calls.set i y } : ClaimRace).Inv m := by
  have hlen : i < r.calls.length := (List.getElem?_eq_some_iff.1 hi).1
  have hget : ∀ (j : Nat) (z : Pod), (r.calls.set i y)[j]? = some (.done (some z)) →
      r.calls[j]? = some (.done (some z)) := fun j z hj => by
    by_cases hij : i = j
    · subst hij
      rw [List.getElem?_set_self hlen] at hj
      cases hj; simp [ClaimPc.result] at hy
    · rwa [List.getElem?_set_ne hij] at hj
  refine ⟨h.wf, fun pc hpc => ?_, ?_, fun i j p q hi hj hk => h.distinct i j p q (hget i p hi) (hget j q hj) hk,
    fun p' hp' => h.traced p' ?_, h.ghost⟩
  · rcases List.mem_or_eq_of_mem_set hpc with hpc | rfl
    · exact h.sound pc hpc
    · exact hys
  · show (r.calls.set i y).countP _ + _ = m
    rw [List.countP_set _ _ _ _ hlen, (List.getElem?_eq_some_iff.1 hi).2]
    simpa [hx, hy] using h.count
  · obtain ⟨j, hj⟩ := List.mem_iff_getElem?.1 hp'
    exact List.mem_iff_getElem?.2 ⟨j, hget j p' hj⟩

/-- A call's successful `Update`: it returns the relabelled pod, which leaves the pool. -/
lemma Inv.claim (h : r.Inv m) {cands rest : List Pod} {p p' : Pod} {c : Cluster}
    (hi : r.calls[i]? = some (.claim cands))
    (hd : cands.dropWhile (fun p => !Cluster.warmEligible p) = p :: rest)
    (hcl : r.cluster.claimWarmPod p = some (p', c)) :
    ({ r with cluster := c, calls := r.calls.set i (.done (some p')),
              claims := (r.cluster, p) :: r.claims } : ClaimRace).Inv m := by
  have hlen : i < r.calls.length := (List.getElem?_eq_some_iff.1 hi).1
  have hsnd := h.sound _ (List.getElem?_mem hi)
  obtain ⟨hpc, hpel⟩ := ClaimPc.mem_eligible_of_dropWhile hd
  obtain ⟨hget, hp'eq, rfl⟩ := hsnd.claimed hpc hcl
  have hpcl : Cluster.claimable r.ns p = true := by
    obtain ⟨h₁, h₂, h₃, -⟩ := hsnd.1 p hpc
    simp [Cluster.claimable, h₁, h₂, h₃, hpel]
  have hp : p ∈ r.cluster.pool r.ns := List.mem_filter.2 ⟨(Cluster.mem_of_getPod hget).1, hpcl⟩
  have hp' : Cluster.claimable r.ns p' = false := by rw [hp'eq]; simp [Cluster.claimable]
  have hrv : p'.resourceVersion = r.cluster.rev + 1 := by rw [hp'eq]
  have hkey : p'.key = p.key := by rw [hp'eq]; rfl
  have hslot : ∀ (j : Nat) (z : Pod), (r.calls.set i (.done (some p')))[j]? = some (.done (some z)) →
      (j = i ∧ z = p') ∨ r.calls[j]? = some (.done (some z)) := fun j z hj => by
    by_cases hij : i = j
    · subst hij; rw [List.getElem?_set_self hlen] at hj; cases hj; exact .inl ⟨rfl, rfl⟩
    · rw [List.getElem?_set_ne hij] at hj; exact .inr hj
  /- A pod returned earlier shares its object with no claimable pod, and `p` was claimable. -/
  have hfresh : ∀ (j : Nat) (z : Pod), r.calls[j]? = some (.done (some z)) → p'.key ≠ z.key := fun j z hj =>
    hkey ▸ h.sound _ (List.getElem?_mem hj) p hp
  refine ⟨h.wf.of_relabel hkey hrv.le, fun pc hpc => ?sound, ?count, fun j₁ j₂ q₁ q₂ h₁ h₂ hk => ?distinct,
    fun z hz => ?traced, fun e he => ?ghost⟩
  case sound =>
    rcases List.mem_or_eq_of_mem_set hpc with hpc | rfl
    · exact (h.sound pc hpc).relabel hp' hrv
    · exact fun q hq => hkey ▸ (Cluster.mem_pool_claim hq hp').2
  case count =>
    have hpool := h.wf.pool_length_claim hp hp'
    have hcount := h.count
    show (r.calls.set i _).countP _ + _ = m
    rw [List.countP_set _ _ _ _ hlen, (List.getElem?_eq_some_iff.1 hi).2]
    simp only [ClaimPc.result, Option.isSome_none, Option.isSome_some, if_true, Bool.false_eq_true,
      if_false, Nat.sub_zero] at hcount ⊢
    omega
  case distinct =>
    rcases hslot _ _ h₁ with ⟨rfl, rfl⟩ | h₁' <;> rcases hslot _ _ h₂ with ⟨rfl, rfl⟩ | h₂'
    · rfl
    · exact absurd hk (hfresh _ _ h₂')
    · exact absurd hk.symm (hfresh _ _ h₁')
    · exact h.distinct _ _ _ _ h₁' h₂' hk
  case traced =>
    rcases List.mem_or_eq_of_mem_set hz with hz | hz
    · obtain ⟨e, he, rfl⟩ := h.traced z hz
      exact ⟨e, List.mem_cons_of_mem _ he, rfl⟩
    · cases hz
      exact ⟨(r.cluster, p), List.mem_cons_self _ _, hp'eq⟩
  case ghost =>
    rcases List.mem_cons.1 he with rfl | he
    · exact ⟨hget, hpcl⟩
    · exact h.ghost e he

/-- **One call of any `GetWarmPod` keeps the invariant.** -/
lemma Inv.step (h : r.Inv m) (hs : r.step i = some r') : r'.Inv m := by
  rcases step_cases hs with ⟨hi, rfl⟩ | ⟨cands, hi, hd, rfl⟩ | ⟨cands, p, rest, hi, hd, hcl, rfl⟩ |
    ⟨cands, p, rest, p', c, hi, hd, hcl, rfl⟩
  · exact h.setCall hi rfl rfl (ClaimPc.sound_list h.wf)
  · exact h.setCall hi rfl rfl ((h.sound _ (List.getElem?_mem hi)).exhausted hd)
  · exact h.setCall hi rfl rfl ((h.sound _ (List.getElem?_mem hi)).conflict h.wf hd hcl)
  · exact h.claim hi hd hcl

/-- A call changes neither the namespace nor the number of calls. -/
lemma step_shape (hs : r.step i = some r') : r'.ns = r.ns ∧ r'.calls.length = r.calls.length := by
  rcases step_cases hs with ⟨-, rfl⟩ | ⟨-, -, -, rfl⟩ | ⟨-, -, -, -, -, -, rfl⟩ | ⟨-, -, -, -, -, -, -, -, rfl⟩ <;>
    exact ⟨rfl, List.length_set _ _ _⟩

/-- What every call keeps holds after any interleaving. -/
lemma run_induct (P : ClaimRace → Prop) (hstep : ∀ r r' i, P r → r.step i = some r' → P r') :
    ∀ {r r' : ClaimRace} (is : List Nat), P r → r.run is = some r' → P r'
  | _, _, [], h, hr => by cases hr; exact h
  | _, _, _ :: is, h, hr => by
    obtain ⟨r₁, h₁, hr⟩ := Option.bind_eq_some.1 hr
    exact run_induct P hstep is (hstep _ _ _ h h₁) hr

/-- **Every interleaving keeps the invariant**, the namespace and the `k` calls. -/
lemma Reachable.inv {c : Cluster} {ns : String} {k : Nat} (hc : c.Wf) (hr : Reachable c ns k r) :
    r.Inv (c.pool ns).length ∧ r.ns = ns ∧ r.calls.length = k := by
  obtain ⟨is, hr⟩ := hr
  refine run_induct (fun r => r.Inv (c.pool ns).length ∧ r.ns = ns ∧ r.calls.length = k)
    (fun _ _ _ h hs => ?_) is ⟨Inv.start hc ns k, rfl, List.length_replicate _ _⟩ hr
  obtain ⟨hns, hlen⟩ := step_shape hs
  exact ⟨h.1.step hs, hns.trans h.2.1, hlen.trans h.2.2⟩

/-! ### Every interleaving ends -/

/-- What call `pc` has left to do, `bound` bounding what a `List` returns: the `List`, one
`Update` per candidate, and its return. -/
def ClaimPc.left (bound : Nat) : ClaimPc → Nat
  | .list => bound + 2
  | .claim cands => cands.length + 1
  | .done _ => 0

/-- What the calls have left to do; a `List` returns at most the cluster's pods. -/
def left (r : ClaimRace) : Nat := (r.calls.map (ClaimPc.left r.cluster.pods.length)).sum

/-- Replacing one entry by a smaller one lowers the sum. -/
lemma sum_map_set_lt {f : ClaimPc → Nat} {x y : ClaimPc} (hxy : f y < f x) :
    ∀ {l : List ClaimPc} {i : Nat}, l[i]? = some x → ((l.set i y).map f).sum < (l.map f).sum
  | [], _, h => by cases h
  | a :: l, 0, h => by
    rw [List.getElem?_cons_zero, Option.some.injEq] at h
    subst h
    simpa using hxy
  | a :: l, i + 1, h => by
    rw [List.getElem?_cons_succ] at h
    simpa using sum_map_set_lt hxy h

/-- **Every call lowers what is left**: its `List` by the pods it did not list, each
`Update` by the candidate it tried. -/
lemma step_left_lt (hs : r.step i = some r') : r'.left < r.left := by
  rcases step_cases hs with ⟨hi, rfl⟩ | ⟨cands, hi, -, rfl⟩ | ⟨cands, p, rest, hi, hd, -, rfl⟩ |
    ⟨cands, p, rest, p', c, hi, -, hcl, rfl⟩
  · refine sum_map_set_lt ?_ hi
    simpa [ClaimPc.left, Cluster.listWarmPods] using Nat.lt_succ_of_le (List.length_filter_le _ r.cluster.pods)
  · exact sum_map_set_lt (by simp [ClaimPc.left]) hi
  · refine sum_map_set_lt ?_ hi
    have := (List.dropWhile_suffix (fun p => !Cluster.warmEligible p) (l := cands)).length_le
    rw [hd, List.length_cons] at this
    simp only [ClaimPc.left]
    omega
  · obtain ⟨-, -, -, -, rfl⟩ := Cluster.claimWarmPod_eq_some hcl
    have hlen : (r.cluster.modifyPod p.ns p.name fun _ => p').pods.length = r.cluster.pods.length :=
      List.length_map _ _
    simp only [left, hlen]
    exact sum_map_set_lt (by simp [ClaimPc.left]) hi

/-- An interleaving makes at most as many calls as were left at its start. -/
lemma run_length_le : ∀ {r r' : ClaimRace} (is : List Nat), r.run is = some r' → is.length + r'.left ≤ r.left
  | _, _, [], h => by cases h; simp
  | _, _, _ :: is, h => by
    obtain ⟨r₁, h₁, h⟩ := Option.bind_eq_some.1 h
    have := run_length_le is h
    have := step_left_lt h₁
    simp only [List.length_cons]
    omega

/-- A call that has not returned can always make its next call. -/
lemma step_isSome (hi : r.calls[i]? = some pc) (hpc : pc.finished = false) : (r.step i).isSome := by
  unfold step
  rw [hi]
  cases pc with
  | list => rfl
  | claim cands =>
    simp only
    cases cands.dropWhile (fun p => !Cluster.warmEligible p) with
    | nil => rfl
    | cons p rest =>
      simp only
      cases r.cluster.claimWarmPod p <;> rfl
  | done => cases hpc

/-- An interleaving that no call can extend has every call returned. -/
lemma finished_of_stuck (h : ∀ i, r.step i = none) : ∀ pc ∈ r.calls, pc.finished = true := fun pc hpc => by
  obtain ⟨i, hi⟩ := List.mem_iff_getElem?.1 hpc
  by_contra hf
  have := step_isSome hi (Bool.eq_false_iff.2 hf)
  rw [h i] at this
  cases this

/-- The calls of a fresh start have their `List`s and all their candidates left. -/
lemma left_start (c : Cluster) (ns : String) (k : Nat) : (start c ns k).left = k * (c.pods.length + 2) := by
  simp only [left, start_calls, start_cluster, List.map_replicate, ClaimPc.left]
  induction k with
  | zero => simp
  | succ k ih => rw [List.replicate_succ, List.sum_cons, ih, Nat.succ_mul, Nat.add_comm]

/-- A state whose calls have all returned can make no call. -/
lemma step_eq_none_of_finished (h : ∀ pc ∈ r.calls, pc.finished = true) (i : Nat) : r.step i = none := by
  unfold step
  cases hi : r.calls[i]? with
  | none => rfl
  | some pc =>
    have := h pc (List.getElem?_mem hi)
    cases pc with
    | done => rfl
    | _ => cases this

/-- Once every call has returned: as many pods were returned as the pool held or as there were
calls, no two the same object, each the relabel of a claimable pod the cluster held just
before its `Update`. -/
lemma Reachable.outcome {c : Cluster} {ns : String} {k : Nat} (hc : c.Wf) (hr : Reachable c ns k r)
    (hdone : ∀ pc ∈ r.calls, pc.finished = true) :
    r.calls.countP (·.result.isSome) = min k (c.pool ns).length ∧
      (∀ (i j : Nat) (p q : Pod), r.calls[i]? = some (.done (some p)) →
        r.calls[j]? = some (.done (some q)) → p.key = q.key → i = j) ∧
      ∀ p' : Pod, .done (some p') ∈ r.calls → ∃ e ∈ r.claims,
        e.1.getPod e.2.ns e.2.name = some e.2 ∧ Cluster.claimable ns e.2 = true ∧
          p' = { e.2 with warm := "consuming", resourceVersion := e.1.rev + 1 } := by
  obtain ⟨hinv, rfl, hlen⟩ := hr.inv hc
  refine ⟨?_, hinv.distinct, fun p' hp' => ?_⟩
  · have hle : r.calls.countP (·.result.isSome) ≤ k := hlen ▸ List.countP_le_length _
    have hcount := hinv.count
    by_cases hnone : ClaimPc.done none ∈ r.calls
    · /- A call that found no candidate left the pool empty: every claimable pod was returned. -/
      have hempty : r.cluster.pool r.ns = [] := hinv.sound _ hnone
      rw [hempty, List.length_nil] at hcount
      omega
    · /- Otherwise every call returned a pod. -/
      have hall : r.calls.countP (·.result.isSome) = k := by
        refine hlen ▸ List.countP_eq_length.2 fun pc hpc => ?_
        have hfin := hdone pc hpc
        cases pc with
        | done o => cases o with
          | none => exact absurd hpc hnone
          | some => rfl
        | _ => cases hfin
      omega
  · obtain ⟨e, he, rfl⟩ := hinv.traced p' hp'
    exact ⟨e, he, (hinv.ghost e he).1, (hinv.ghost e he).2, rfl⟩

end ClaimRace

/-- **Concurrent warm-pool claims.** `k` `GetWarmPod` calls in `ns` over a well-formed cluster
whose pool holds `m` claimable pods: every interleaving of their calls is finite, and once
it cannot go on, exactly `min k m` of them have returned a pod, no two the same object, and
each returned pod is a pod the cluster held, claimable, at the moment of the `Update` that
relabelled it, with that `Update`'s label and version. -/
theorem warm_claims_race_free {c : Cluster} {ns : String} {k : Nat} (hc : c.Wf) :
    (∀ (is : List Nat) (r : ClaimRace), (ClaimRace.start c ns k).run is = some r →
      is.length ≤ k * (c.pods.length + 2)) ∧
    ∀ r, ClaimRace.Reachable c ns k r → (∀ i, r.step i = none) →
      r.calls.countP (·.result.isSome) = min k (c.pool ns).length ∧
      (∀ (i j : Nat) (p q : Pod), r.calls[i]? = some (.done (some p)) →
        r.calls[j]? = some (.done (some q)) → p.key = q.key → i = j) ∧
      ∀ p' : Pod, .done (some p') ∈ r.calls → ∃ e ∈ r.claims,
        e.1.getPod e.2.ns e.2.name = some e.2 ∧ Cluster.claimable ns e.2 = true ∧
          p' = { e.2 with warm := "consuming", resourceVersion := e.1.rev + 1 } :=
  ⟨fun is _ h => ClaimRace.left_start c ns k ▸ (Nat.le_add_right _ _).trans (ClaimRace.run_length_le is h),
    fun _ hr hstuck => hr.outcome hc (ClaimRace.finished_of_stuck hstuck)⟩

/-- Two claimable warm pods and a warm pod still pending, in `tenants`. -/
def twoWarm : Cluster :=
  ⟨[⟨"tenants", "warm-1", "warm-pool", "", "true", "", "", .running, "10.0.0.1", false, 1⟩,
    ⟨"tenants", "warm-2", "warm-pool", "", "true", "", "", .running, "10.0.0.2", false, 2⟩,
    ⟨"tenants", "warm-3", "warm-pool", "", "true", "", "", .pending, "", false, 3⟩], [], [], 3⟩

/-- Three calls list the pool; the first claims `warm-1`, the other two conflict on it; the
second claims `warm-2`, the third conflicts on it and finds nothing eligible left. -/
def threeClaimsRun : List Nat := [0, 1, 2, 0, 1, 2, 1, 2, 2]

theorem three_claims_over_two_pods :
    twoWarm.Wf ∧ ClaimRace.Reachable twoWarm "tenants" 3 (ClaimRace.runFrom twoWarm "tenants" 3 threeClaimsRun) ∧
      (∀ pc ∈ (ClaimRace.runFrom twoWarm "tenants" 3 threeClaimsRun).calls, pc.finished = true) ∧
      (ClaimRace.runFrom twoWarm "tenants" 3 threeClaimsRun).calls.countP (·.result.isSome) =
        min 3 (twoWarm.pool "tenants").length :=
  have hc : twoWarm.Wf := ⟨by decide, by decide⟩
  have hr := @ClaimRace.Reachable.runFrom twoWarm "tenants" 3 threeClaimsRun (by decide)
  have hd : ∀ pc ∈ (ClaimRace.runFrom twoWarm "tenants" 3 threeClaimsRun).calls, pc.finished = true := by decide
  ⟨hc, hr, hd, ((warm_claims_race_free hc).2 _ hr (ClaimRace.step_eq_none_of_finished hd)).1⟩

end Tenancy

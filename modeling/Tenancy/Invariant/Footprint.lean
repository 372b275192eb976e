import Tenancy.Invariant.Frame

/-!
What one move can do to the objects of one tenant `T`: its registry record, its entry in the
router's address cache, its PV and PVC, and the pods named `podName T`.

* `Proc.touches`: a process works on `T`: a request for `T`, or a pass holding a scanned
  record of `T`;
* `Cluster.named`, `Cluster.Terminating`, `Cluster.readyIP`: the pods `ns/podName T`, that
  each of them is terminating, and the address `WaitPodReady` sees them Running at;
* `DynamoClient.runningIP`: the address a Running record gives;
* `Cluster.Spares`: a write of the cluster that creates no volume of `T` and keeps `T`'s
  pods terminating when they all are; `Cluster.KeepsReady`: one that keeps the address
  `T`'s pod is ready at;
* `Sys.Footprint`, `Sys.procStep_footprint`: **what a call of any process may do to `T`**:
  only a `wakeOrGet` of `T` at its commit makes `T` Running, no call moves the address
  `T`'s pod is ready at, and a call of a process that does not work on `T` leaves `T`'s
  record and cache entry alone and spares its volumes and pods;
* `Sys.step_running`, `Sys.step_ready`, `Sys.step_quiet`: the same for every move, the
  cluster's included.
-/

namespace Tenancy

/-- The scanned records an idle pass still holds. -/
def IdlePc.records : IdlePc → List TenantRecord
  | .check ts => ts
  | .demote t ts => t :: ts
  | .scan | .done => []

/-- The listed records a reconcile pass still holds. -/
def ReconPc.records : ReconPc → List TenantRecord
  | .check ts => ts
  | .demote t ts | .clearCache t ts => t :: ts
  | .list | .done => []

/-- Process `p` works on tenant `T`: a request for `T`, or a pass holding a record of `T`. -/
def Proc.touches (T : String) : Proc → Bool
  | .wake t .. | .router t .. | .createTenant t .. | .deleteTenant t .. | .updateActivity t _
  | .updateTenant t .. => t == T
  | .idle pc => pc.records.any (·.tenantID == T)
  | .reconcile pc => pc.records.any (·.tenantID == T)

lemma ne_of_touches {t T : String} (h : (t == T) = false) : t ≠ T := by simpa using h

lemma ne_of_touches_head {t : TenantRecord} {ts : List TenantRecord} {T : String}
    (h : (t :: ts).any (·.tenantID == T) = false) : t.tenantID ≠ T := by
  simp only [List.any_cons, Bool.or_eq_false_iff] at h
  exact ne_of_touches h.1

/-! ### The pods, PVC and PV of one tenant -/

namespace Cluster

variable {c c' : Cluster} {ns name ns' name' : String}

/-- The pods `ns/name`, in the order `getPod` meets them. -/
def named (c : Cluster) (ns name : String) : List Pod := c.pods.filter (·.is ns name)

/-- Every pod `ns/name` is terminating. -/
def Terminating (c : Cluster) (ns name : String) : Prop := ∀ p ∈ c.named ns name, p.deleting = true

/-- The address `WaitPodReady` sees `ns/name` Running at. -/
def readyIP (c : Cluster) (ns name : String) : Option String := (c.readyPod ns name).map (·.podIP)

lemma getPod_eq_head : c.getPod ns name = (c.named ns name).head? := by
  unfold getPod named
  induction c.pods with
  | nil => rfl
  | cons p ps ih =>
    rw [List.find?_cons, List.filter_cons]
    cases p.is ns name
    · exact ih
    · rfl

lemma is_iff {p : Pod} : p.is ns name = true ↔ p.ns = ns ∧ p.name = name := by
  simp [Pod.is]

lemma readyIP_congr (h : c'.named ns name = c.named ns name) : c'.readyIP ns name = c.readyIP ns name := by
  simp only [readyIP, readyPod, getPod_eq_head, h]

/-- A rewrite of the pods `ns/name` that keeps their phase and address keeps `readyIP`. -/
lemma readyIP_map {f : Pod → Pod} (h : c'.named ns name = (c.named ns name).map f)
    (hf : ∀ p, (f p).phase = p.phase ∧ (f p).podIP = p.podIP) : c'.readyIP ns name = c.readyIP ns name := by
  simp only [readyIP, readyPod, getPod_eq_head, h]
  cases c.named ns name with
  | nil => rfl
  | cons p _ => simp [Option.filter, (hf p).1, (hf p).2]

lemma Terminating.of_subset (h : c.Terminating ns name) (hs : ∀ p ∈ c'.named ns name, p ∈ c.named ns name) :
    c'.Terminating ns name :=
  fun p hp => h p (hs p hp)

lemma Terminating.map {f : Pod → Pod} (h : c.Terminating ns name)
    (he : c'.named ns name = (c.named ns name).map f) (hf : ∀ p, p.deleting = true → (f p).deleting = true) :
    c'.Terminating ns name := by
  intro q hq
  rw [he, List.mem_map] at hq
  obtain ⟨p, hp, rfl⟩ := hq
  exact hf p (h p hp)

/-! The pods `ns/name` after each write. -/

lemma named_modifyPod {f : Pod → Pod} (hf : ∀ p, p.is ns' name' → (f p).ns = p.ns ∧ (f p).name = p.name) :
    (c.modifyPod ns' name' f).named ns name =
      (c.named ns name).map fun p => if p.is ns' name' then f p else p := by
  simp only [named, modifyPod, List.filter_map]
  congr 1
  refine List.filter_congr fun p _ => ?_
  simp only [Function.comp_apply]
  split_ifs with h
  · simp only [Pod.is, (hf p h).1, (hf p h).2]
  · rfl

lemma named_modifyPod_ne {f : Pod → Pod} (hf : ∀ p, p.is ns' name' → (f p).ns = p.ns ∧ (f p).name = p.name)
    (hne : ¬(ns' = ns ∧ name' = name)) : (c.modifyPod ns' name' f).named ns name = c.named ns name := by
  rw [named_modifyPod hf]
  conv_rhs => rw [← List.map_id (c.named ns name)]
  refine List.map_congr_left fun p hp => if_neg fun h' => hne ?_
  obtain ⟨h₁, h₂⟩ := is_iff.1 (List.mem_filter.1 hp).2
  obtain ⟨h₃, h₄⟩ := is_iff.1 h'
  exact ⟨h₃.symm.trans h₁, h₄.symm.trans h₂⟩

lemma named_erasePod_ne (hne : ¬(ns' = ns ∧ name' = name)) :
    (c.erasePod ns' name').named ns name = c.named ns name := by
  simp only [named, erasePod, List.filter_filter]
  refine List.filter_congr fun p _ => ?_
  by_cases h : p.is ns name
  · have : p.is ns' name' = false := by
      rw [Bool.eq_false_iff]
      intro h'
      obtain ⟨h₁, h₂⟩ := is_iff.1 h
      obtain ⟨h₃, h₄⟩ := is_iff.1 h'
      exact hne ⟨h₃.symm.trans h₁, h₄.symm.trans h₂⟩
    simp [h, this]
  · simp [h]

lemma named_erasePod_sub : ∀ p ∈ (c.erasePod ns' name').named ns name, p ∈ c.named ns name := by
  intro p hp
  simp only [named, erasePod, List.mem_filter] at hp ⊢
  exact ⟨hp.1.1, hp.2⟩

lemma is_eq_false {p : Pod} (h : p.name ≠ name) : p.is ns name = false := by
  rw [Bool.eq_false_iff]; intro h'; exact h (is_iff.1 h').2

lemma named_createPod {p : Pod} (hc : c.createPod p = some c') (hne : p.is ns name = false) :
    c'.named ns name = c.named ns name := by
  unfold createPod at hc
  split_ifs at hc
  cases hc
  simp [named, List.filter_cons, hne]

lemma named_claimWarmPod {p p' : Pod} (hc : c.claimWarmPod p = some (p', c')) (hne : p.name ≠ name) :
    c'.named ns name = c.named ns name := by
  unfold claimWarmPod at hc
  split at hc
  · split_ifs at hc
    cases hc
    exact named_modifyPod_ne (fun q hq => ⟨(is_iff.1 hq).1.symm, (is_iff.1 hq).2.symm⟩) fun h => hne h.2
  · cases hc

lemma named_warmReplica {suffix node : String} (hc : c.warmReplica ns' suffix node = some c')
    (T : String) : c'.named ns (podName T) = c.named ns (podName T) := by
  dsimp only [warmReplica] at hc
  split_ifs at hc
  cases hc
  simp [named, List.filter_cons, Pod.is, warmPool_ne_podName suffix T]

lemma named_deletePod {grace : Nat} (hg : grace ≠ 0) :
    (c.deletePod ns' name' grace).named ns name = (c.named ns name).map fun p =>
      if p.is ns' name' then { p with deleting := true, resourceVersion := c.rev + 1 } else p := by
  unfold Cluster.deletePod
  rw [if_neg hg]
  exact named_modifyPod fun _ _ => ⟨rfl, rfl⟩

/-! ### What a write keeps of one tenant's objects -/

/-- A write that creates no volume of `T` and keeps `T`'s pods terminating when they all
are. -/
structure Spares (T : String) (c c' : Cluster) : Prop where
  pv : pvName T ∈ c'.pvs → pvName T ∈ c.pvs
  pvc : ∀ ns, (ns, pvcName T) ∈ c'.pvcs → (ns, pvcName T) ∈ c.pvcs
  terminating : ∀ ns, c.Terminating ns (podName T) → c'.Terminating ns (podName T)

/-- A write that keeps the address `T`'s pod is ready at. -/
def KeepsReady (T : String) (c c' : Cluster) : Prop :=
  ∀ ns a, c.readyIP ns (podName T) = some a → c'.readyIP ns (podName T) = some a

variable {T : String}

lemma Spares.of_pods (hv : c'.pvs = c.pvs) (hc : c'.pvcs = c.pvcs)
    (ht : ∀ ns, c'.named ns (podName T) = c.named ns (podName T)) : Spares T c c' :=
  ⟨fun h => hv ▸ h, fun _ h => hc ▸ h, fun ns h => fun p hp => h p (ht ns ▸ hp)⟩

lemma Spares.refl : Spares T c c := .of_pods rfl rfl fun _ => rfl

lemma KeepsReady.of_named (h : ∀ ns, c'.named ns (podName T) = c.named ns (podName T)) :
    KeepsReady T c c' :=
  fun ns _ ha => (readyIP_congr (h ns)).trans ha

lemma KeepsReady.refl : KeepsReady T c c := .of_named fun _ => rfl

lemma named_of_pods (h : c'.pods = c.pods) : c'.named ns name = c.named ns name := by
  simp only [named, h]

/-- `DeletePod` with a grace period marks pods and keeps their phase and address. -/
lemma KeepsReady.deletePod {grace : Nat} (hg : grace ≠ 0) : KeepsReady T c (c.deletePod ns' name' grace) :=
  fun _ _ ha => (readyIP_map (named_deletePod hg) fun _ => by split <;> exact ⟨rfl, rfl⟩).trans ha

lemma Spares.erasePod : Spares T c (c.erasePod ns' name') :=
  ⟨id, fun _ => id, fun _ h => h.of_subset fun _ => named_erasePod_sub _⟩

lemma Spares.deletePod (grace : Nat) : Spares T c (c.deletePod ns' name' grace) := by
  by_cases hg : grace = 0
  · subst hg; exact .erasePod
  · refine ⟨by unfold Cluster.deletePod; rw [if_neg hg]; exact id,
      by unfold Cluster.deletePod; rw [if_neg hg]; exact fun _ => id, fun ns h => ?_⟩
    exact h.map (named_deletePod hg) fun _ hp => by split; rfl; exact hp

lemma Spares.createPV {t : String} (h : t ≠ T) : Spares T c (c.createPV t) := by
  unfold Cluster.createPV
  split_ifs
  · exact .refl
  · refine ⟨fun hm => ?_, fun _ => id, fun _ => id⟩
    rcases List.mem_cons.1 hm with hm | hm
    · exact absurd (prefixed_inj hm).symm h
    · exact hm

lemma Spares.createPVC {t ns' : String} (h : t ≠ T) : Spares T c (c.createPVC t ns') := by
  unfold Cluster.createPVC
  split_ifs
  · exact .refl
  · refine ⟨id, fun _ hm => ?_, fun _ => id⟩
    rcases List.mem_cons.1 hm with hm | hm
    · exact absurd (prefixed_inj (Prod.mk.inj hm).2).symm h
    · exact hm

lemma Spares.deletePV (t : String) : Spares T c (c.deletePV t) :=
  ⟨fun h => (List.mem_filter.1 h).1, fun _ => id, fun _ => id⟩

lemma Spares.deletePVC (t ns' : String) : Spares T c (c.deletePVC t ns') :=
  ⟨id, fun _ h => (List.mem_filter.1 h).1, fun _ => id⟩

lemma Spares.createPod {p : Pod} (hc : c.createPod p = some c') (hn : p.name ≠ podName T) :
    Spares T c c' := by
  have hv : c'.pvs = c.pvs ∧ c'.pvcs = c.pvcs := by
    unfold Cluster.createPod at hc; split_ifs at hc; cases hc; exact ⟨rfl, rfl⟩
  exact .of_pods hv.1 hv.2 fun _ => named_createPod hc (is_eq_false hn)

lemma Spares.claimWarmPod {p p' : Pod} (hc : c.claimWarmPod p = some (p', c'))
    (hn : p.name ≠ podName T) : Spares T c c' := by
  have hv : c'.pvs = c.pvs ∧ c'.pvcs = c.pvcs := by
    unfold Cluster.claimWarmPod at hc; split at hc
    · split_ifs at hc; cases hc; exact ⟨rfl, rfl⟩
    · cases hc
  exact .of_pods hv.1 hv.2 fun _ => named_claimWarmPod hc hn

lemma Spares.podReady {ip : String} (hc : c.podReady ns' name' ip = some c') : Spares T c c' := by
  unfold Cluster.podReady at hc
  split at hc
  · split_ifs at hc
    cases hc
    refine ⟨id, fun _ => id, fun _ h => h.map (named_modifyPod fun _ _ => ⟨rfl, rfl⟩) ?_⟩
    exact fun _ hp => by split; exact hp; exact hp
  · cases hc

lemma Spares.podGone (hc : c.podGone ns' name' = some c') : Spares T c c' := by
  unfold Cluster.podGone at hc
  split at hc
  · split_ifs at hc; cases hc; exact .erasePod
  · cases hc

lemma Spares.podLost (hc : c.podLost ns' name' = some c') : Spares T c c' := by
  obtain ⟨_, _, rfl⟩ := Option.map_eq_some'.1 hc
  exact .erasePod

lemma Spares.warmReplica {suffix node : String} (hc : c.warmReplica ns' suffix node = some c') :
    Spares T c c' := by
  have hv : c'.pvs = c.pvs ∧ c'.pvcs = c.pvcs := by
    dsimp only [Cluster.warmReplica] at hc; split_ifs at hc; cases hc; exact ⟨rfl, rfl⟩
  exact .of_pods hv.1 hv.2 fun _ => named_warmReplica hc T

lemma KeepsReady.claimWarmPod {p p' : Pod} (hc : c.claimWarmPod p = some (p', c'))
    (hn : p.name ≠ podName T) : KeepsReady T c c' :=
  .of_named fun _ => named_claimWarmPod hc hn

/-- `CreateTenantPod` fails on a pod that exists, so it never moves a ready address. -/
lemma KeepsReady.createPod {p : Pod} (hc : c.createPod p = some c') : KeepsReady T c c' := by
  intro ns a ha
  cases hk : p.is ns (podName T)
  · exact (readyIP_congr (named_createPod hc hk)).trans ha
  · unfold Cluster.createPod at hc
    split_ifs at hc with hg
    obtain ⟨h₁, h₂⟩ := is_iff.1 hk
    rw [h₁, h₂] at hg
    simp [readyIP, readyPod, Option.not_isSome_iff_eq_none.1 hg] at ha

/-- The kubelet readies only a pending pod, so it never moves a ready address. -/
lemma KeepsReady.podReady {ip : String} (hc : c.podReady ns' name' ip = some c') :
    KeepsReady T c c' := by
  intro ns a ha
  unfold Cluster.podReady at hc
  split at hc
  · rename_i p hp
    split_ifs at hc with hcond
    cases hc
    by_cases hk : ns' = ns ∧ name' = podName T
    · obtain ⟨rfl, rfl⟩ := hk
      simp [readyIP, readyPod, hp, Option.filter, hcond.1] at ha
    · refine (readyIP_congr (named_modifyPod_ne ?_ hk)).trans ha
      exact fun _ _ => ⟨rfl, rfl⟩
  · cases hc

/-- The removal of a pod other than `T`'s ready one keeps `T`'s address. -/
lemma KeepsReady.erasePod_of (h : name' = podName T → c.readyIP ns' name' = none) :
    KeepsReady T c (c.erasePod ns' name') := by
  intro ns a ha
  by_cases hk : ns' = ns ∧ name' = podName T
  · obtain ⟨rfl, rfl⟩ := hk
    rw [h rfl] at ha
    cases ha
  · exact (readyIP_congr (named_erasePod_ne hk)).trans ha

lemma KeepsReady.podGone (hc : c.podGone ns' name' = some c')
    (h : name' = podName T → c.readyIP ns' name' = none) : KeepsReady T c c' := by
  unfold Cluster.podGone at hc
  split at hc
  · split_ifs at hc; cases hc; exact .erasePod_of h
  · cases hc

lemma KeepsReady.podLost (hc : c.podLost ns' name' = some c')
    (h : name' = podName T → c.readyIP ns' name' = none) : KeepsReady T c c' := by
  obtain ⟨_, _, rfl⟩ := Option.map_eq_some'.1 hc
  exact .erasePod_of h

lemma KeepsReady.warmReplica {suffix node : String} (hc : c.warmReplica ns' suffix node = some c') :
    KeepsReady T c c' :=
  .of_named fun _ => named_warmReplica hc T

end Cluster

/-! ### The record of one tenant -/

namespace DynamoClient

/-- The address the record of `tenantID` gives when it is Running. -/
def runningIP (t : Table) (tenantID : String) : Option String :=
  (getTenant t tenantID).bind fun r => if r.status = statusRunning then some r.podIP else none

variable {t t' : Table} {id key a : String}

lemma getTenant_upsert_ne {set : Item → Item} (h : key ≠ id) :
    getTenant (upsert t id set) key = getTenant t key := by
  simp [getTenant, h]

lemma getTenant_deleteTenant_ne (h : key ≠ id) : getTenant (deleteTenant t id) key = getTenant t key := by
  simp [getTenant, h]

lemma getTenant_createTenant_ne {r : TenantRecord} (hc : createTenant t r = some t')
    (h : key ≠ r.tenantID) : getTenant t' key = getTenant t key := by
  obtain ⟨-, rfl⟩ := createTenant_eq_some hc
  simp [getTenant, AList.lookup_insert_ne h]

/-- An upsert that keeps the status and the address keeps what a Running record gives; on an
absent key it creates an item with no status. -/
lemma runningIP_upsert {set : Item → Item} (hs : ∀ it, (set it).status = it.status ∧ (set it).podIP = it.podIP) :
    runningIP (upsert t id set) key = runningIP t key := by
  unfold runningIP getTenant
  rw [lookup_upsert]
  split_ifs with h
  · subst h
    cases t.lookup key <;> simp [Item.toRecord, Item.blank, hs, statusRunning]
  · rfl

lemma runningIP_updateStatus {now : Int} {st pn ip : String}
    (h : runningIP (updateStatus t now id st pn ip) key = some a) :
    runningIP t key = some a ∨ key = id ∧ st = statusRunning ∧ a = ip := by
  unfold runningIP getTenant at *
  rw [updateStatus, lookup_upsert] at h
  split_ifs at h with hk
  · simp only [Option.map_some', Option.some_bind, Item.toRecord, Option.getD_some] at h
    split_ifs at h with hst
    cases h
    exact .inr ⟨hk, hst, rfl⟩
  · exact .inl h

lemma runningIP_updateStatus_of_ne {now : Int} {st pn ip : String} (hst : st ≠ statusRunning)
    (h : runningIP (updateStatus t now id st pn ip) key = some a) : runningIP t key = some a :=
  (runningIP_updateStatus h).resolve_right fun h' => hst h'.2.1

lemma runningIP_updateActivity {now : Int} : runningIP (updateActivity t now id) key = runningIP t key :=
  runningIP_upsert fun _ => ⟨rfl, rfl⟩

lemma runningIP_updateExisting {set : Item → Item} (hu : updateExisting t id set = some t')
    (hs : ∀ it, (set it).status = it.status ∧ (set it).podIP = it.podIP) :
    runningIP t' key = runningIP t key := by
  obtain ⟨-, rfl⟩ := updateExisting_eq_some hu
  exact runningIP_upsert hs

lemma getTenant_updateExisting_ne {set : Item → Item} (hu : updateExisting t id set = some t')
    (h : key ≠ id) : getTenant t' key = getTenant t key := by
  obtain ⟨-, rfl⟩ := updateExisting_eq_some hu
  exact getTenant_upsert_ne h

lemma runningIP_deleteTenant (h : runningIP (deleteTenant t id) key = some a) : runningIP t key = some a := by
  unfold runningIP at *
  by_cases hk : key = id
  · simp [getTenant, hk] at h
  · rwa [getTenant_deleteTenant_ne hk] at h

lemma runningIP_createTenant {r : TenantRecord} (hr : r.status ≠ statusRunning)
    (hc : createTenant t r = some t') (h : runningIP t' key = some a) : runningIP t key = some a := by
  unfold runningIP at *
  by_cases hk : key = r.tenantID
  · obtain ⟨-, rfl⟩ := createTenant_eq_some hc
    subst hk
    simp [getTenant, Item.toRecord, hr] at h
  · rwa [getTenant_createTenant_ne hc hk] at h

lemma getTenant_createTenant_getD_ne {r : TenantRecord} (h : key ≠ r.tenantID) :
    getTenant ((createTenant t r).getD t) key = getTenant t key := by
  cases hc : createTenant t r with
  | none => rfl
  | some t' => exact getTenant_createTenant_ne hc h

lemma runningIP_createTenant_getD {r : TenantRecord} (hr : r.status ≠ statusRunning)
    (h : runningIP ((createTenant t r).getD t) key = some a) : runningIP t key = some a := by
  cases hc : createTenant t r with
  | none => rwa [hc] at h
  | some t' => rw [hc] at h; exact runningIP_createTenant hr hc h

end DynamoClient

/-! ### What a call may do to one tenant -/

namespace Sys

variable {s s' : Sys} {i : Nat} {ok : Bool} {T : String}

/-- What a call of a process running `p` may do to tenant `T`: only a `wakeOrGet` of `T` at
its commit makes `T` Running at an address, the address `T`'s pod is ready at stays, and a
process that does not work on `T` leaves `T`'s record and cache entry alone and spares its
volumes and pods. -/
structure Footprint (T : String) (p : Proc) (s s' : Sys) : Prop where
  running : ∀ a, DynamoClient.runningIP s'.reg T = some a →
    DynamoClient.runningIP s.reg T = some a ∨ ∃ lu pod seen, p = .wake T lu (.commit pod seen a)
  ready : Cluster.KeepsReady T s.cluster s'.cluster
  quiet : p.touches T = false → DynamoClient.getTenant s'.reg T = DynamoClient.getTenant s.reg T ∧
    s'.cache T = s.cache T ∧ Cluster.Spares T s.cluster s'.cluster

namespace Footprint

variable {p : Proc}

/-- A call that writes neither the registry, nor the cache, nor the cluster. -/
lemma keep (hr : s'.reg = s.reg) (hc : s'.cache = s.cache) (hcl : s'.cluster = s.cluster) :
    Footprint T p s s' := by
  refine ⟨fun _ h => .inl (hr ▸ h), ?_, fun _ => ⟨by rw [hr], by rw [hc], ?_⟩⟩ <;> rw [hcl]
  exacts [.refl, .refl]

/-- A call that writes only the cluster. -/
lemma cluster (hr : s'.reg = s.reg) (hc : s'.cache = s.cache)
    (hk : Cluster.KeepsReady T s.cluster s'.cluster)
    (hsp : p.touches T = false → Cluster.Spares T s.cluster s'.cluster) : Footprint T p s s' :=
  ⟨fun _ h => .inl (hr ▸ h), hk, fun ht => ⟨by rw [hr], by rw [hc], hsp ht⟩⟩

/-- A call that writes only the registry, making no record Running. -/
lemma reg (hcl : s'.cluster = s.cluster) (hc : s'.cache = s.cache)
    (hrun : ∀ a, DynamoClient.runningIP s'.reg T = some a → DynamoClient.runningIP s.reg T = some a)
    (hq : p.touches T = false → DynamoClient.getTenant s'.reg T = DynamoClient.getTenant s.reg T) :
    Footprint T p s s' := by
  refine ⟨fun a h => .inl (hrun a h), ?_, fun ht => ⟨hq ht, by rw [hc], ?_⟩⟩ <;> rw [hcl]
  exacts [.refl, .refl]

/-- A call that writes only the cache. -/
lemma cache (hr : s'.reg = s.reg) (hcl : s'.cluster = s.cluster)
    (hq : p.touches T = false → s'.cache T = s.cache T) : Footprint T p s s' := by
  refine ⟨fun _ h => .inl (hr ▸ h), ?_, fun ht => ⟨by rw [hr], hq ht, ?_⟩⟩ <;> rw [hcl]
  exacts [.refl, .refl]

end Footprint

lemma wakeStep_footprint (h : s.Inv) {t : String} {lu : Option Int} {pc : WakePc}
    (hi : s.procs[i]? = some (.wake t lu pc)) (hs : s.wakeStep i ok t lu pc = some s') :
    Footprint T (.wake t lu pc) s s' := by
  have hw : pc.Wf s.cfg s.log t := h.procs _ (List.getElem?_mem hi)
  cases pc <;> simp only [wakeStep] at hs
  case autoCreate =>
    cases hs
    refine .reg rfl rfl (fun a ha => ?_) fun ht => ?_ <;> split at *
    · exact DynamoClient.runningIP_createTenant_getD (by decide : statusProvisioning ≠ statusRunning) ha
    · exact ha
    · exact DynamoClient.getTenant_createTenant_getD_ne (Ne.symm (ne_of_touches ht))
    · rfl
  case createPV r ns =>
    split at hs <;> cases hs
    · exact .cluster rfl rfl (.of_named fun _ => Cluster.named_of_pods (Cluster.createPV_pods t))
        fun ht => .createPV (ne_of_touches ht)
    · exact .keep rfl rfl rfl
  case createPVC r ns =>
    split at hs <;> cases hs
    · exact .cluster rfl rfl (.of_named fun _ => Cluster.named_of_pods (Cluster.createPVC_pods t))
        fun ht => .createPVC (ne_of_touches ht)
    · exact .keep rfl rfl rfl
  case claimWarm r ns cands =>
    split at hs
    · cases hs; exact .keep rfl rfl rfl
    · rename_i q rest hd
      have hq := hw.2 q ((hd ▸ (List.dropWhile_suffix _).subset) (List.mem_cons_self _ _))
      have hn : q.name ≠ podName T := hq.1.name_ne hq.2 T
      split at hs
      · rename_i q' c hc
        cases hs
        exact .cluster rfl rfl (.claimWarmPod (call_eq_some hc).2 hn)
          fun _ => .claimWarmPod (call_eq_some hc).2 hn
      · cases hs; exact .keep rfl rfl rfl
  case deleteWarm r ns warm =>
    cases hs
    refine .cluster rfl rfl ?_ fun _ => ?_ <;> split
    · unfold Cluster.deletePod
      rw [if_pos rfl]
      exact .erasePod_of fun hn => absurd hn (hw.2.1.name_ne hw.2.2 T)
    · exact .refl
    · exact .deletePod 0
    · exact .refl
  case createPod r ns node =>
    split at hs
    · split at hs
      · rename_i c hc
        cases hs
        exact .cluster rfl rfl (.createPod hc)
          fun ht => .createPod hc fun hn => ne_of_touches ht (podName_inj hn)
      · cases hs; exact .keep rfl rfl rfl
    · cases hs; exact .keep rfl rfl rfl
  case waitReady ns pod =>
    split at hs
    · obtain ⟨p, -, rfl⟩ := Option.map_eq_some'.1 hs
      exact .keep rfl rfl rfl
    · cases hs; exact .keep rfl rfl rfl
  case commit pod seen ip =>
    split at hs <;> cases hs
    · refine ⟨fun a ha => ?_, .refl, fun ht => ⟨?_, rfl, .refl⟩⟩
      · rcases DynamoClient.runningIP_updateStatus ha with ha | ⟨rfl, -, rfl⟩
        · exact .inl ha
        · exact .inr ⟨lu, pod, seen, rfl⟩
      · exact DynamoClient.getTenant_upsert_ne (Ne.symm (ne_of_touches ht))
    · exact .keep rfl rfl rfl
  all_goals (repeat' split at hs) <;> (try cases hs) <;> exact .keep rfl rfl rfl

lemma routerStep_footprint {t text : String} {pc : RouterPc}
    (hs : s.routerStep i ok t text pc = some s') : Footprint T (.router t text pc) s s' := by
  cases pc <;> simp only [routerStep] at hs
  case setCache ip =>
    cases hs
    refine .cache rfl rfl fun ht => ?_
    split
    · exact Function.update_noteq (Ne.symm (ne_of_touches ht)) _ _
    · rfl
  case forward ip =>
    split at hs
    · cases hs; exact .keep rfl rfl rfl
    · split at hs <;> cases hs
      · exact .keep rfl rfl rfl
      · exact .cache rfl rfl fun ht => Function.update_noteq (Ne.symm (ne_of_touches ht)) _ _
  case updateActivity =>
    cases hs
    refine .reg rfl rfl (fun a ha => ?_) fun ht => ?_ <;> split at *
    · exact DynamoClient.runningIP_updateActivity.symm.trans ha
    · exact ha
    · exact DynamoClient.getTenant_upsert_ne (Ne.symm (ne_of_touches ht))
    · rfl
  all_goals (repeat' split at hs) <;> (try cases hs) <;> exact .keep rfl rfl rfl

lemma idleStep_footprint {pc : IdlePc} (hs : s.idleStep i ok pc = some s') :
    Footprint T (.idle pc) s s' := by
  cases pc <;> simp only [idleStep] at hs
  case check ts =>
    cases ts with
    | nil => cases hs; exact .keep rfl rfl rfl
    | cons t ts =>
      simp only at hs
      split at hs
      · cases hs; exact .keep rfl rfl rfl
      · split at hs <;> cases hs
        · exact .cluster rfl rfl (.deletePod (by decide)) fun _ => .deletePod 30
        · exact .keep rfl rfl rfl
  case demote t ts =>
    cases hs
    refine .reg rfl rfl (fun a ha => ?_) fun ht => ?_ <;> split at *
    · exact DynamoClient.runningIP_updateStatus_of_ne (by decide) ha
    · exact ha
    · exact DynamoClient.getTenant_upsert_ne (Ne.symm (ne_of_touches_head ht))
    · rfl
  all_goals (repeat' split at hs) <;> (try cases hs) <;> exact .keep rfl rfl rfl

lemma reconcileStep_footprint {pc : ReconPc} (hs : s.reconcileStep i ok pc = some s') :
    Footprint T (.reconcile pc) s s' := by
  cases pc <;> simp only [reconcileStep] at hs
  case check ts =>
    cases ts <;> simp only at hs <;> (repeat' split at hs) <;> cases hs <;> exact .keep rfl rfl rfl
  case demote t ts =>
    split at hs <;> cases hs
    · exact .reg rfl rfl (fun _ ha => DynamoClient.runningIP_updateStatus_of_ne (by decide) ha)
        fun ht => DynamoClient.getTenant_upsert_ne (Ne.symm (ne_of_touches_head ht))
    · exact .keep rfl rfl rfl
  case clearCache t ts =>
    cases hs
    refine .cache rfl rfl fun ht => ?_
    split
    · exact Function.update_noteq (Ne.symm (ne_of_touches_head ht)) _ _
    · rfl
  all_goals (repeat' split at hs) <;> (try cases hs) <;> exact .keep rfl rfl rfl

lemma createTenantStep_footprint {t tok : String} {n : Int} {pc : CreatePc}
    (hs : s.createTenantStep i ok t tok n pc = some s') : Footprint T (.createTenant t tok n pc) s s' := by
  cases pc <;> simp only [createTenantStep] at hs
  case create =>
    split at hs
    · cases hs; exact .keep rfl rfl rfl
    · split at hs
      · rename_i reg hc
        cases hs
        have hc := (call_eq_some hc).2
        exact .reg rfl rfl
          (fun _ ha => DynamoClient.runningIP_createTenant (by decide : statusIdle ≠ statusRunning) hc ha)
          fun ht => DynamoClient.getTenant_createTenant_ne hc (Ne.symm (ne_of_touches ht))
      · cases hs; exact .keep rfl rfl rfl
  all_goals (repeat' split at hs) <;> (try cases hs) <;> exact .keep rfl rfl rfl

lemma deleteTenantStep_footprint {t : String} {clean : Bool} {pc : DeletePc}
    (hs : s.deleteTenantStep i ok t clean pc = some s') : Footprint T (.deleteTenant t clean pc) s s' := by
  cases pc <;> simp only [deleteTenantStep] at hs
  case deletePod r =>
    split at hs <;> cases hs
    · exact .cluster rfl rfl (.deletePod (by decide)) fun _ => .deletePod 30
    · exact .keep rfl rfl rfl
  case deletePVC r =>
    split at hs <;> cases hs
    · exact .cluster rfl rfl (.of_named fun _ => Cluster.named_of_pods (Cluster.deletePVC_pods t))
        fun _ => .deletePVC t r.ns
    · exact .keep rfl rfl rfl
  case deletePV r =>
    split at hs <;> cases hs
    · exact .cluster rfl rfl (.of_named fun _ => Cluster.named_of_pods (Cluster.deletePV_pods t))
        fun _ => .deletePV t
    · exact .keep rfl rfl rfl
  case deleteRecord r =>
    split at hs <;> cases hs
    · exact .reg rfl rfl (fun _ ha => DynamoClient.runningIP_deleteTenant ha)
        fun ht => DynamoClient.getTenant_deleteTenant_ne (Ne.symm (ne_of_touches ht))
    · exact .keep rfl rfl rfl
  case clearCache r =>
    split at hs <;> cases hs
    · exact .cache rfl rfl fun ht => Function.update_noteq (Ne.symm (ne_of_touches ht)) _ _
    · exact .keep rfl rfl rfl
  all_goals (repeat' split at hs) <;> (try cases hs) <;> exact .keep rfl rfl rfl

lemma updateTenantStep_footprint {t : String} {tok : Option String} {n : Option Int} {pc : UpdatePc}
    (hs : s.updateTenantStep i ok t tok n pc = some s') : Footprint T (.updateTenant t tok n pc) s s' := by
  cases pc <;> simp only [updateTenantStep] at hs
  case token =>
    split at hs
    · cases hs; exact .keep rfl rfl rfl
    · split at hs
      · rename_i reg hu
        cases hs
        have hu := (call_eq_some hu).2
        exact .reg rfl rfl (fun _ ha => (DynamoClient.runningIP_updateExisting hu fun _ => ⟨rfl, rfl⟩).symm.trans ha)
          fun ht => DynamoClient.getTenant_updateExisting_ne hu (Ne.symm (ne_of_touches ht))
      · cases hs; exact .keep rfl rfl rfl
  case timeout =>
    split at hs
    · cases hs; exact .keep rfl rfl rfl
    · split at hs
      · rename_i reg hu
        cases hs
        have hu := (call_eq_some hu).2
        exact .reg rfl rfl (fun _ ha => (DynamoClient.runningIP_updateExisting hu fun _ => ⟨rfl, rfl⟩).symm.trans ha)
          fun ht => DynamoClient.getTenant_updateExisting_ne hu (Ne.symm (ne_of_touches ht))
      · cases hs; exact .keep rfl rfl rfl
  all_goals (repeat' split at hs) <;> (try cases hs) <;> exact .keep rfl rfl rfl

/-- **What a call of any process may do to tenant `T`.** -/
lemma procStep_footprint (h : s.Inv) {p : Proc} (hi : s.procs[i]? = some p)
    (hs : s.procStep i ok p = some s') : Footprint T p s s' := by
  cases p with
  | wake => exact wakeStep_footprint h hi hs
  | router => exact routerStep_footprint hs
  | idle => exact idleStep_footprint hs
  | reconcile => exact reconcileStep_footprint hs
  | createTenant => exact createTenantStep_footprint hs
  | deleteTenant => exact deleteTenantStep_footprint hs
  | updateTenant => exact updateTenantStep_footprint hs
  | updateActivity t fin =>
    cases fin
    · simp only [procStep, updateActivityStep] at hs
      cases hs
      refine .reg rfl rfl (fun a ha => ?_) fun ht => ?_ <;> split at *
      · exact DynamoClient.runningIP_updateActivity.symm.trans ha
      · exact ha
      · exact DynamoClient.getTenant_upsert_ne (Ne.symm (ne_of_touches ht))
      · rfl
    · simp [procStep, updateActivityStep] at hs

/-! ### Any move -/

/-- The move does not remove a pod named after `T` while it is ready at an address. -/
def keepsReadyPod (T : String) (s : Sys) : Act → Bool
  | .podGone ns name | .podLost ns name => !(name == podName T && (s.cluster.readyIP ns name).isSome)
  | _ => true

lemma readyIP_none_of_keeps {ns name : String} (h : (!(name == podName T && (s.cluster.readyIP ns name).isSome)) = true)
    (hn : name = podName T) : s.cluster.readyIP ns name = none := by
  subst hn
  simpa using h

variable {a : Act}

/-- Only a `wakeOrGet` of `T` at its commit makes `T` Running at an address. -/
lemma step_running (h : s.Inv) (hs : s.step a = some s') {b : String}
    (hb : DynamoClient.runningIP s'.reg T = some b) :
    DynamoClient.runningIP s.reg T = some b ∨
      ∃ k ok lu pod seen, a = .run k ok ∧ s.procs[k]? = some (.wake T lu (.commit pod seen b)) := by
  cases a with
  | run k ok =>
    obtain ⟨p, hi, hp⟩ := Option.bind_eq_some.1 hs
    rcases (procStep_footprint h hi hp).running b hb with hb | ⟨lu, pod, seen, rfl⟩
    · exact .inl hb
    · exact .inr ⟨k, ok, lu, pod, seen, rfl, hi⟩
  | request r => cases hs; exact .inl hb
  | tick d => cases hs; exact .inl hb
  | podReady | podGone | podLost | warmReplica =>
    obtain ⟨c, -, rfl⟩ := Option.map_eq_some'.1 hs
    exact .inl hb

/-- No move but the removal of `T`'s ready pod moves the address `T`'s pod is ready at. -/
lemma step_ready (h : s.Inv) (hs : s.step a = some s') (hk : keepsReadyPod T s a = true) :
    Cluster.KeepsReady T s.cluster s'.cluster := by
  cases a with
  | run k ok =>
    obtain ⟨p, hi, hp⟩ := Option.bind_eq_some.1 hs
    exact (procStep_footprint h hi hp).ready
  | request r => cases hs; exact .refl
  | tick d => cases hs; exact .refl
  | podReady ns name ip =>
    obtain ⟨c, hc, rfl⟩ := Option.map_eq_some'.1 hs
    exact .podReady hc
  | podGone ns name =>
    obtain ⟨c, hc, rfl⟩ := Option.map_eq_some'.1 hs
    exact .podGone hc (readyIP_none_of_keeps hk)
  | podLost ns name =>
    obtain ⟨c, hc, rfl⟩ := Option.map_eq_some'.1 hs
    exact .podLost hc (readyIP_none_of_keeps hk)
  | warmReplica suffix node =>
    obtain ⟨c, hc, rfl⟩ := Option.map_eq_some'.1 hs
    exact .warmReplica hc

/-- A move by no process working on `T` leaves `T`'s record and cache entry alone and spares
its volumes and pods. -/
lemma step_quiet (h : s.Inv) (hs : s.step a = some s')
    (hq : ∀ k ok p, a = .run k ok → s.procs[k]? = some p → p.touches T = false) :
    DynamoClient.getTenant s'.reg T = DynamoClient.getTenant s.reg T ∧ s'.cache T = s.cache T ∧
      Cluster.Spares T s.cluster s'.cluster := by
  cases a with
  | run k ok =>
    obtain ⟨p, hi, hp⟩ := Option.bind_eq_some.1 hs
    exact (procStep_footprint h hi hp).quiet (hq k ok p rfl hi)
  | request r => cases hs; exact ⟨rfl, rfl, .refl⟩
  | tick d => cases hs; exact ⟨rfl, rfl, .refl⟩
  | podReady ns name ip =>
    obtain ⟨c, hc, rfl⟩ := Option.map_eq_some'.1 hs
    exact ⟨rfl, rfl, .podReady hc⟩
  | podGone ns name =>
    obtain ⟨c, hc, rfl⟩ := Option.map_eq_some'.1 hs
    exact ⟨rfl, rfl, .podGone hc⟩
  | podLost ns name =>
    obtain ⟨c, hc, rfl⟩ := Option.map_eq_some'.1 hs
    exact ⟨rfl, rfl, .podLost hc⟩
  | warmReplica suffix node =>
    obtain ⟨c, hc, rfl⟩ := Option.map_eq_some'.1 hs
    exact ⟨rfl, rfl, .warmReplica hc⟩

end Sys

end Tenancy

import Tenancy.System.Step

/-!
The facts about single objects that every reachable deployment keeps, and what each write
of the model does to them.

* `ReadyAddr`: an address the kubelet once gave a pod named after a tenant;
* `PodOK`: a pod named after a tenant is that tenant's `zeroclaw` pod, and an address it
  holds was given to it by a `podReady`;
* `TenantRecord.Wf`: a record names its tenant's pod or none, lives in the handler's
  namespace or none, couples its status with its pod fields (Running: the tenant's pod and
  an address; Idle and Terminated: neither) and holds only an address the kubelet gave the
  tenant's pod; `RegWf` says it of every record of the table;
* the writes of `DynamoClient` and of the cluster keep them: `RegWf.updateStatus`,
  `RegWf.createTenant`, `PodsOK.modifyPod`, `PodsOK.podReady`, ...
-/

namespace Tenancy

lemma podName_inj {t x : String} (h : podName t = podName x) : t = x := prefixed_inj h

lemma warmPool_ne_podName (suffix x : String) : warmPoolPrefix ++ suffix ≠ podName x := by
  intro h
  have := congrArg (fun s => s.data.head?) h
  simp [podName, warmPoolPrefix] at this

/-- A call that reached its service returned `y`. -/
lemma call_eq_some {α : Type} {ok : Bool} {x : Option α} {y : α}
    (h : (if ok then x else none) = some y) : ok = true ∧ x = some y := by
  cases ok <;> simp_all

/-! ### Addresses and pods -/

/-- The kubelet once gave address `a` to a pod named after tenant `t`. -/
def ReadyAddr (log : List Event) (t a : String) : Prop :=
  ∃ ns, Event.podReady ns (podName t) a ∈ log

lemma ReadyAddr.mono {log log' : List Event} {t a : String} (h : ReadyAddr log t a)
    (hl : log ⊆ log') : ReadyAddr log' t a :=
  let ⟨ns, hm⟩ := h; ⟨ns, hl hm⟩

/-- A pod named after a tenant is that tenant's `zeroclaw` pod, and the address it holds
was handed to it by a `podReady`. -/
structure PodOK (log : List Event) (p : Pod) : Prop where
  named : ∀ x, p.name = podName x → p.tenant = x ∧ p.app = "zeroclaw"
  addr : p.podIP = "" ∨ Event.podReady p.ns p.name p.podIP ∈ log

lemma PodOK.mono {log log' : List Event} {p : Pod} (h : PodOK log p) (hl : log ⊆ log') :
    PodOK log' p :=
  ⟨h.named, h.addr.imp_right fun hm => hl hm⟩

/-- A `warm-pool` pod is not named after a tenant. -/
lemma PodOK.name_ne {log : List Event} {p : Pod} (h : PodOK log p) (happ : p.app = "warm-pool")
    (x : String) : p.name ≠ podName x := fun hn => by
  have := (h.named x hn).2
  rw [happ] at this
  exact absurd this (by decide)

/-- Every pod of the cluster is well formed. -/
def PodsOK (log : List Event) (c : Cluster) : Prop := ∀ p ∈ c.pods, PodOK log p

lemma PodsOK.mono {log log' : List Event} {c : Cluster} (h : PodsOK log c) (hl : log ⊆ log') :
    PodsOK log' c := fun p hp => (h p hp).mono hl

namespace Cluster

variable {c c' : Cluster} {p p' : Pod} {ns name : String}

lemma mem_of_getPod (h : c.getPod ns name = some p) : p ∈ c.pods ∧ p.ns = ns ∧ p.name = name := by
  have hm := List.mem_of_find?_eq_some h
  have hp := List.find?_some h
  simp only [Pod.is, Bool.and_eq_true, beq_iff_eq] at hp
  exact ⟨hm, hp⟩

lemma mem_of_readyPod (h : c.readyPod ns name = some p) :
    (p ∈ c.pods ∧ p.ns = ns ∧ p.name = name) ∧ p.phase = .running ∧ p.podIP ≠ "" := by
  unfold readyPod at h
  cases hg : c.getPod ns name with
  | none => simp [hg] at h
  | some q =>
    simp only [hg, Option.filter, Bool.and_eq_true, beq_iff_eq, bne_iff_ne, ne_eq] at h
    split_ifs at h with hq
    cases h
    exact ⟨mem_of_getPod hg, hq⟩

lemma mem_of_podAt {ip : String} (h : c.podAt ip = some p) :
    p ∈ c.pods ∧ p.podIP = ip ∧ ip ≠ "" := by
  unfold podAt at h
  split_ifs at h with hip
  exact ⟨List.mem_of_find?_eq_some h, by simpa using List.find?_some h, hip⟩

lemma mem_listWarmPods (h : p ∈ c.listWarmPods ns) : p ∈ c.pods ∧ p.app = "warm-pool" := by
  simp only [listWarmPods, List.mem_filter, Bool.and_eq_true, beq_iff_eq] at h
  exact ⟨h.1, h.2.1.2⟩

@[simp] lemma createPV_pods (t : String) : (c.createPV t).pods = c.pods := by
  unfold createPV; split_ifs <;> rfl
@[simp] lemma createPVC_pods (t : String) : (c.createPVC t ns).pods = c.pods := by
  unfold createPVC; split_ifs <;> rfl
@[simp] lemma deletePVC_pods (t : String) : (c.deletePVC t ns).pods = c.pods := rfl
@[simp] lemma deletePV_pods (t : String) : (c.deletePV t).pods = c.pods := rfl

end Cluster

namespace PodsOK

variable {log : List Event} {c c' : Cluster} {p p' : Pod} {ns name : String}

/-- A write that leaves the pods alone keeps them well formed. -/
lemma of_pods_eq (h : PodsOK log c) (he : c'.pods = c.pods) : PodsOK log c' :=
  fun q hq => h q (he ▸ hq)

lemma createPod (h : PodsOK log c) (hp : PodOK log p) (hc : c.createPod p = some c') :
    PodsOK log c' := by
  unfold Cluster.createPod at hc
  split_ifs at hc
  cases hc
  simpa [PodsOK, hp] using h

lemma tenantPod (c : Cluster) (t ns tok node : String) : PodOK log (c.tenantPod t ns tok node) :=
  ⟨fun _ hx => ⟨podName_inj hx, rfl⟩, .inl rfl⟩

lemma modifyPod (h : PodsOK log c) {f : Pod → Pod}
    (hf : ∀ p ∈ c.pods, p.is ns name → PodOK log (f p)) : PodsOK log (c.modifyPod ns name f) := by
  intro q hq
  simp only [Cluster.modifyPod, List.mem_map] at hq
  obtain ⟨p, hp, rfl⟩ := hq
  split_ifs with hi
  · exact hf p hp hi
  · exact h p hp

lemma erasePod (h : PodsOK log c) : PodsOK log (c.erasePod ns name) :=
  fun q hq => h q (List.mem_filter.1 hq).1

lemma deletePod (h : PodsOK log c) (grace : Nat) : PodsOK log (c.deletePod ns name grace) := by
  unfold Cluster.deletePod
  split_ifs
  · exact h.erasePod
  · exact h.modifyPod fun p hp _ => ⟨(h p hp).named, (h p hp).addr⟩

lemma claimWarmPod (h : PodsOK log c) (hp : PodOK log p)
    (hc : c.claimWarmPod p = some (p', c')) : PodsOK log c' ∧ PodOK log p' ∧ p'.app = p.app := by
  unfold Cluster.claimWarmPod at hc
  split at hc
  · split_ifs at hc
    cases hc
    have hp' : PodOK log { p with warm := "consuming", resourceVersion := c.rev + 1 } :=
      ⟨hp.named, hp.addr⟩
    exact ⟨h.modifyPod fun _ _ _ => hp', hp', rfl⟩
  · cases hc

lemma podReady (h : PodsOK log c) {ip : String} (hc : c.podReady ns name ip = some c') :
    PodsOK (.podReady ns name ip :: log) c' := by
  unfold Cluster.podReady at hc
  split at hc
  · split_ifs at hc
    cases hc
    refine (h.mono (List.subset_cons_self _ _)).modifyPod fun q hq hi => ?_
    simp only [Pod.is, Bool.and_eq_true, beq_iff_eq] at hi
    exact ⟨(h q hq).named, .inr (by simp [hi.1, hi.2])⟩
  · cases hc

lemma podGone (h : PodsOK log c) (hc : c.podGone ns name = some c') : PodsOK log c' := by
  unfold Cluster.podGone at hc
  split at hc
  · split_ifs at hc
    cases hc
    exact h.erasePod
  · cases hc

lemma podLost (h : PodsOK log c) (hc : c.podLost ns name = some c') : PodsOK log c' := by
  obtain ⟨_, _, rfl⟩ := Option.map_eq_some'.1 hc
  exact h.erasePod

lemma warmReplica (h : PodsOK log c) {suffix node : String}
    (hc : c.warmReplica ns suffix node = some c') : PodsOK log c' := by
  dsimp only [Cluster.warmReplica] at hc
  split_ifs at hc
  cases hc
  intro q hq
  rcases List.mem_cons.1 hq with rfl | hq
  · exact ⟨fun x hx => absurd hx (warmPool_ne_podName _ x), .inl rfl⟩
  · exact h q hq

end PodsOK

/-- A cache hit is the address of a live entry. -/
lemma Sys.cacheGet_eq_some {s : Sys} {t ip : String} (h : s.cacheGet t = some ip) :
    ∃ e, s.cache t = some e ∧ e.ip = ip := by
  obtain ⟨e, he, rfl⟩ := Option.map_eq_some'.1 h
  cases hc : s.cache t with
  | none => simp [hc] at he
  | some e' =>
    simp only [hc, Option.filter] at he
    split_ifs at he
    cases he
    exact ⟨_, rfl, rfl⟩

/-! ### Records -/

/-- A record names its tenant's pod or none, lives in the handler's namespace or none, is
Running only with its tenant's pod and an address, Idle or Terminated with neither, and
holds only an address the kubelet gave a pod named after its tenant. -/
structure TenantRecord.Wf (cfg : Config) (log : List Event) (r : TenantRecord) : Prop where
  podName_eq : r.podName = "" ∨ r.podName = Tenancy.podName r.tenantID
  ns_eq : r.ns = "" ∨ r.ns = cfg.ns
  running : r.status = statusRunning → r.podName = Tenancy.podName r.tenantID ∧ r.podIP ≠ ""
  stopped : r.status = statusIdle ∨ r.status = statusTerminated → r.podName = "" ∧ r.podIP = ""
  addr : r.podIP = "" ∨ ReadyAddr log r.tenantID r.podIP

lemma TenantRecord.Wf.mono {cfg : Config} {log log' : List Event} {r : TenantRecord}
    (h : r.Wf cfg log) (hl : log ⊆ log') : r.Wf cfg log' :=
  ⟨h.podName_eq, h.ns_eq, h.running, h.stopped, h.addr.imp_right fun ha => ha.mono hl⟩

/-- A well-formed record's namespace is where `wakeOrGet` works. -/
lemma TenantRecord.Wf.wakeNamespace {cfg : Config} {log : List Event} {r : TenantRecord}
    (h : r.Wf cfg log) : wakeNamespace cfg r = cfg.ns := by
  unfold Tenancy.wakeNamespace
  rcases h.ns_eq with h | h <;> simp [h]

/-- Every record of the table is well formed. -/
def RegWf (cfg : Config) (log : List Event) (reg : Table) : Prop :=
  ∀ id r, DynamoClient.getTenant reg id = some r → r.Wf cfg log

namespace RegWf

variable {cfg : Config} {log : List Event} {reg reg' : Table}

lemma tenantID_eq {id : String} {r : TenantRecord} (h : DynamoClient.getTenant reg id = some r) :
    r.tenantID = id := by
  obtain ⟨_, _, rfl⟩ := Option.map_eq_some'.1 h
  rfl

lemma mono (h : RegWf cfg log reg) {log' : List Event} (hl : log ⊆ log') : RegWf cfg log' reg :=
  fun id r hr => (h id r hr).mono hl

lemma empty : RegWf cfg log ∅ := fun _ _ h => by simp [DynamoClient.getTenant] at h

/-- An upsert keeps the table well formed when its `SET` keeps every well-formed item so,
the blank item included. -/
lemma upsert (h : RegWf cfg log reg) {id : String} {set : Item → Item}
    (hset : ∀ it, (it.toRecord id).Wf cfg log → ((set it).toRecord id).Wf cfg log) :
    RegWf cfg log (DynamoClient.upsert reg id set) := by
  intro key r hr
  simp only [DynamoClient.getTenant, DynamoClient.lookup_upsert] at hr
  split_ifs at hr with hk
  · subst hk
    simp only [Option.map_some', Option.some.injEq] at hr
    subst hr
    apply hset
    cases hl : reg.lookup key with
    | none => exact ⟨.inl rfl, .inl rfl, by simp [Item.toRecord, Item.blank, statusRunning],
        by simp [Item.toRecord, Item.blank], .inl rfl⟩
    | some it => exact h key _ (by simp [DynamoClient.getTenant, hl])
  · exact h key r hr

/-- `UpdateStatus` keeps the table well formed when the status, pod name and address it
writes are coupled as `TenantRecord.Wf` asks. -/
lemma updateStatus (h : RegWf cfg log reg) {now : Int} {id st pn ip : String}
    (hpn : pn = "" ∨ pn = podName id) (hrun : st = statusRunning → pn = podName id ∧ ip ≠ "")
    (hstop : st = statusIdle ∨ st = statusTerminated → pn = "" ∧ ip = "")
    (haddr : ip = "" ∨ ReadyAddr log id ip) :
    RegWf cfg log (DynamoClient.updateStatus reg now id st pn ip) :=
  h.upsert fun _ hw => ⟨hpn, hw.ns_eq, hrun, hstop, haddr⟩

/-- `UpdateStatus(Idle, "", "")`, the demotion of the idle controller and the reconciler. -/
lemma updateStatus_idle (h : RegWf cfg log reg) (now : Int) (id : String) :
    RegWf cfg log (DynamoClient.updateStatus reg now id statusIdle "" "") :=
  h.updateStatus (.inl rfl) (by simp [statusIdle, statusRunning]) (fun _ => ⟨rfl, rfl⟩) (.inl rfl)

lemma updateActivity (h : RegWf cfg log reg) (now : Int) (id : String) :
    RegWf cfg log (DynamoClient.updateActivity reg now id) :=
  h.upsert fun _ hw => ⟨hw.podName_eq, hw.ns_eq, hw.running, hw.stopped, hw.addr⟩

lemma updateBotToken (h : RegWf cfg log reg) {id tok : String}
    (hu : DynamoClient.updateBotToken reg id tok = some reg') : RegWf cfg log reg' := by
  obtain ⟨_, rfl⟩ := DynamoClient.updateExisting_eq_some hu
  exact h.upsert fun _ hw => ⟨hw.podName_eq, hw.ns_eq, hw.running, hw.stopped, hw.addr⟩

lemma updateIdleTimeout (h : RegWf cfg log reg) {id : String} {n : Int}
    (hu : DynamoClient.updateIdleTimeout reg id n = some reg') : RegWf cfg log reg' := by
  obtain ⟨_, rfl⟩ := DynamoClient.updateExisting_eq_some hu
  exact h.upsert fun _ hw => ⟨hw.podName_eq, hw.ns_eq, hw.running, hw.stopped, hw.addr⟩

lemma createTenant (h : RegWf cfg log reg) {r : TenantRecord} (hr : r.Wf cfg log)
    (hc : DynamoClient.createTenant reg r = some reg') : RegWf cfg log reg' := by
  obtain ⟨_, rfl⟩ := DynamoClient.createTenant_eq_some hc
  intro key r' hr'
  by_cases hk : key = r.tenantID
  · subst hk
    simp only [DynamoClient.getTenant, AList.lookup_insert, Option.map_some', Option.some.injEq] at hr'
    rw [← hr']
    exact hr
  · simp only [DynamoClient.getTenant, AList.lookup_insert_ne hk] at hr'
    exact h key r' hr'

lemma createTenant_getD (h : RegWf cfg log reg) {r : TenantRecord} (hr : r.Wf cfg log) :
    RegWf cfg log ((DynamoClient.createTenant reg r).getD reg) := by
  cases hc : DynamoClient.createTenant reg r with
  | none => exact h
  | some reg' => exact h.createTenant hr hc

lemma deleteTenant (h : RegWf cfg log reg) (id : String) :
    RegWf cfg log (DynamoClient.deleteTenant reg id) := by
  intro key r hr
  simp only [DynamoClient.getTenant, DynamoClient.lookup_deleteTenant] at hr
  split_ifs at hr
  · simp at hr
  · exact h key r hr

/-- A record a scan returns is well formed. -/
lemma of_scan (h : RegWf cfg log reg) {keep : String → Item → Bool} {r : TenantRecord}
    (hr : r ∈ DynamoClient.scan reg keep) : r.Wf cfg log := by
  obtain ⟨it, hl, -, hrec⟩ := DynamoClient.mem_scan hr
  exact h r.tenantID r (by simp only [DynamoClient.getTenant, hl, Option.map_some']; exact congrArg some hrec.symm)

/-- The address of a record is one the kubelet gave its tenant's pod. -/
lemma readyAddr (h : RegWf cfg log reg) {id : String} {r : TenantRecord}
    (hr : DynamoClient.getTenant reg id = some r) (hip : r.podIP ≠ "") : ReadyAddr log id r.podIP := by
  have := (h id r hr).addr
  rw [tenantID_eq hr] at this
  exact this.resolve_left hip

end RegWf

/-- The record `wakeOrGet` creates is well formed. -/
lemma provisioningRecord_wf (cfg : Config) (log : List Event) (now : Int) (t : String) :
    (provisioningRecord cfg now t).Wf cfg log :=
  ⟨.inl rfl, .inr rfl, fun h => absurd (show statusProvisioning = statusRunning from h) (by decide),
    fun h => absurd (show statusProvisioning = statusIdle ∨ statusProvisioning = statusTerminated from h)
      (by decide), .inl rfl⟩

/-- The record `CreateTenant` writes is well formed. -/
lemma createdRecord_wf (cfg : Config) (log : List Event) (now : Int) (t tok : String) (n : Int) :
    (createdRecord cfg now t tok n).Wf cfg log :=
  ⟨.inl rfl, .inr rfl, fun h => absurd (show statusIdle = statusRunning from h) (by decide),
    fun _ => ⟨rfl, rfl⟩, .inl rfl⟩

end Tenancy

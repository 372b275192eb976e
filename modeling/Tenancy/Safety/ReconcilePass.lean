import Tenancy.System.Step

/-!
One `reconcile` pass on its own (`Reconciler.reconcile` of
`internal/reconciler/reconciler.go`): no other move between its calls, and every call
succeeding.

* `reconcileRecord`: what the pass does with one listed record: nothing when the pod
  `podName(id)` exists in the reconciler's namespace, otherwise `UpdateStatus(Idle, "", "")`
  and then the `DEL` of the tenant's cache key;
* `Sys.reconcile_pass_run`: the pass ends, after as many calls as its records need, having
  folded `reconcileRecord` over what `ListByStatus(Running)` returned and changed nothing
  else but the log;
* `reconciledItem`, what the `Reconciler` doc comment says a pass is for ("a tenant marked as
  running in DynamoDB but its pod no longer exists", reset to Idle): a Running item whose pod
  is missing becomes Idle with no pod name or IP (stamped, as `UpdateStatus` stamps); every
  other item is left as it was; `lookup_reconcile_pass`: the pass leaves exactly that, key
  by key;
* `reconcile_pass_idempotent`: **from any state, a pass alone ends, demoting exactly the
  Running records whose pod is missing and deleting exactly their cache keys, and a second
  pass, whenever it runs, leaves the registry and the cache as the first left them**.
-/

namespace Tenancy

/-! ### One record, and the pass as a fold -/

/-- One listed record, every call succeeding: a pod `podName(id)` found in `ns` leaves it;
otherwise `UpdateStatus(Idle, "", "")` at clock `now`, then `DEL router:endpoint:<id>`. -/
def reconcileRecord (ns : String) (c : Cluster) (now : Int)
    (st : Table × (String → Option CacheEntry)) (t : TenantRecord) : Table × (String → Option CacheEntry) :=
  if (c.getPod ns (podName t.tenantID)).isSome then st
  else (DynamoClient.updateStatus st.1 now t.tenantID statusIdle "" "", Function.update st.2 t.tenantID none)

/-- The pod of tenant `key` is missing from namespace `ns`. -/
def podMissing (ns : String) (c : Cluster) (key : String) : Bool := (c.getPod ns (podName key)).isNone

/-- The item `UpdateStatus(Idle, "", "")` writes over `it` at clock `now`. -/
def demotedItem (now : Int) (it : Item) : Item :=
  { it with status := some statusIdle, podName := "", podIP := "", lastActiveAt := truncSec now }

/-- The item under `key` is one the `Reconciler` doc comment says a pass resets: Running, its
pod missing. -/
def reconcileDemotes (ns : String) (c : Cluster) (key : String) (it : Item) : Bool :=
  it.status == some statusRunning && podMissing ns c key

/-- The item a pass is meant to leave under `key`: reset when `reconcileDemotes` holds, as it
was otherwise. -/
def reconciledItem (ns : String) (c : Cluster) (now : Int) (key : String) (it : Item) : Item :=
  if reconcileDemotes ns c key it then demotedItem now it else it

section Fold

variable (ns : String) (c : Cluster) (now : Int) (key : String)

/-- The table after the records `ts`: their keys whose pod is missing are demoted, each once
or more, with the same result. -/
lemma lookup_foldl_reconcileRecord : ∀ (ts : List TenantRecord) (st : Table × (String → Option CacheEntry)),
    (ts.foldl (reconcileRecord ns c now) st).1.lookup key =
      if ts.any (·.tenantID == key) && podMissing ns c key then
        some (demotedItem now ((st.1.lookup key).getD Item.blank))
      else st.1.lookup key
  | [], _ => by simp
  | t :: ts, st => by
    rw [List.foldl_cons, lookup_foldl_reconcileRecord ts]
    unfold reconcileRecord
    by_cases hk : t.tenantID = key
    · subst hk
      cases hp : c.getPod ns (podName t.tenantID) <;>
        simp [podMissing, hp, demotedItem, DynamoClient.updateStatus]
    · cases hp : c.getPod ns (podName t.tenantID) <;> simp [hk, Ne.symm hk, DynamoClient.updateStatus]

/-- The cache after the records `ts`: exactly the keys of those whose pod is missing are
deleted. -/
lemma cache_foldl_reconcileRecord : ∀ (ts : List TenantRecord) (st : Table × (String → Option CacheEntry)),
    (ts.foldl (reconcileRecord ns c now) st).2 key =
      if ts.any (·.tenantID == key) && podMissing ns c key then none else st.2 key
  | [], _ => by simp
  | t :: ts, st => by
    rw [List.foldl_cons, cache_foldl_reconcileRecord ts]
    unfold reconcileRecord
    by_cases hk : t.tenantID = key
    · subst hk
      cases hp : c.getPod ns (podName t.tenantID) <;> simp [podMissing, hp]
    · cases hp : c.getPod ns (podName t.tenantID) <;> simp [hk, Function.update_noteq (Ne.symm hk)]

/-- Records whose pods all exist change nothing. -/
lemma foldl_reconcileRecord_of_found :
    ∀ (ts : List TenantRecord) (st : Table × (String → Option CacheEntry)),
      (∀ t ∈ ts, (c.getPod ns (podName t.tenantID)).isSome) → ts.foldl (reconcileRecord ns c now) st = st
  | [], _, _ => rfl
  | t :: ts, st, h => by
    rw [List.foldl_cons, reconcileRecord, if_pos (h t (List.mem_cons_self _ _))]
    exact foldl_reconcileRecord_of_found ts st fun t' ht' => h t' (List.mem_cons_of_mem _ ht')

end Fold

/-- `ListByStatus(st)` returns a record of `key` exactly when `key`'s item has status `st`. -/
lemma any_listByStatus (t : Table) (st key : String) :
    (DynamoClient.listByStatus t st).any (·.tenantID == key) = (t.lookup key).any (·.status == some st) := by
  rw [Bool.eq_iff_iff, List.any_eq_true]
  constructor
  · rintro ⟨r, hr, hk⟩
    obtain ⟨it, hit, hkeep, -⟩ := DynamoClient.mem_scan hr
    rw [beq_iff_eq.1 hk] at hit
    rw [hit]
    exact hkeep
  · intro h
    cases hit : t.lookup key with
    | none => rw [hit] at h; cases h
    | some it =>
      rw [hit] at h
      exact ⟨it.toRecord key, List.mem_filterMap.2 ⟨⟨key, it⟩, AList.mem_lookup_iff.1 hit,
        by dsimp only; rw [if_pos (show (it.status == some st) = true from h)]⟩, beq_self_eq_true _⟩

section Pass

variable (ns : String) (c : Cluster) (now : Int) (reg : Table) (cache : String → Option CacheEntry)
  (key : String)

/-- **The registry after a pass, key by key, is `reconciledItem` of the registry before.** -/
lemma lookup_reconcile_pass :
    ((DynamoClient.listByStatus reg statusRunning).foldl (reconcileRecord ns c now) (reg, cache)).1.lookup key =
      (reg.lookup key).map (reconciledItem ns c now key) := by
  rw [lookup_foldl_reconcileRecord, any_listByStatus]
  cases reg.lookup key with
  | none => rfl
  | some it =>
    show (if reconcileDemotes ns c key it then _ else _) = some (if reconcileDemotes ns c key it then _ else _)
    split_ifs <;> rfl

/-- The cache after a pass: exactly the keys of the items it demoted are deleted. -/
lemma cache_reconcile_pass :
    ((DynamoClient.listByStatus reg statusRunning).foldl (reconcileRecord ns c now) (reg, cache)).2 key =
      if (reg.lookup key).any (reconcileDemotes ns c key) then none else cache key := by
  rw [cache_foldl_reconcileRecord, any_listByStatus]
  cases reg.lookup key <;> rfl

/-- After a pass every Running record has its pod, so a second pass over the same pods
finds them all. -/
lemma found_of_reconciled :
    ∀ t ∈ DynamoClient.listByStatus
        ((DynamoClient.listByStatus reg statusRunning).foldl (reconcileRecord ns c now) (reg, cache)).1
        statusRunning,
      (c.getPod ns (podName t.tenantID)).isSome := fun t ht => by
  obtain ⟨it, hit, hrun, -⟩ := DynamoClient.mem_scan ht
  rw [lookup_reconcile_pass] at hit
  obtain ⟨it₀, -, rfl⟩ := Option.map_eq_some'.1 hit
  unfold reconciledItem at hrun
  split_ifs at hrun with hd
  · simp [demotedItem, statusIdle, statusRunning] at hrun
  · exact Option.isSome_iff_ne_none.2 (by simpa [reconcileDemotes, hrun, podMissing] using hd)

end Pass

/-! ### The pass as the deployment runs it -/

namespace Sys

/-- `s` with registry and cache `st`, processes `procs` and log `log`: what a pass alone
changes. -/
def withStore (s : Sys) (st : Table × (String → Option CacheEntry)) (procs : List Proc) (log : List Event) : Sys :=
  { s with reg := st.1, cache := st.2, procs := procs, log := log }

variable {s : Sys} {i : Nat}

/-- A record's check, and its demotion and cache deletion when its pod is missing. -/
lemma reconcile_record_run {t : TenantRecord} {ts : List TenantRecord}
    (hi : s.procs[i]? = some (.reconcile (.check (t :: ts)))) :
    ∃ k log, s.run (Act.calls i k) = some (s.withStore (reconcileRecord s.cfg.ns s.cluster s.now (s.reg, s.cache) t)
      (s.procs.set i (.reconcile (.check ts))) log) := by
  have hlen : i < s.procs.length := (List.getElem?_eq_some_iff.1 hi).1
  by_cases hf : (s.cluster.getPod s.cfg.ns (podName t.tenantID)).isSome
  · refine ⟨1, .reconChecked i t.tenantID true :: s.log, ?_⟩
    simp [Act.calls, run_cons, step, hi, procStep, reconcileStep, hf, reconcileRecord, setProc, emit, withStore]
  · refine ⟨3, .reconDemoted i t.tenantID (DynamoClient.getTenant s.reg t.tenantID) false ::
      .reconChecked i t.tenantID false :: s.log, ?_⟩
    simp [Act.calls, run_cons, step, hi, procStep, reconcileStep, hf, reconcileRecord, setProc, emit, hlen,
      withStore]

/-- The checks of a pass handle the listed records in turn, and the pass ends. -/
lemma reconcile_check_run : ∀ (ts : List TenantRecord) (s : Sys),
    s.procs[i]? = some (.reconcile (.check ts)) →
    ∃ n log, s.run (Act.calls i n) = some (s.withStore
      (ts.foldl (reconcileRecord s.cfg.ns s.cluster s.now) (s.reg, s.cache)) (s.procs.set i (.reconcile .done)) log)
  | [], s, hi => ⟨1, s.log, by simp [Act.calls, run_cons, step, hi, procStep, reconcileStep, setProc, withStore]⟩
  | t :: ts, s, hi => by
    have hlen : i < s.procs.length := (List.getElem?_eq_some_iff.1 hi).1
    obtain ⟨k, log, hk⟩ := reconcile_record_run hi
    obtain ⟨n, log', hn⟩ := reconcile_check_run ts (s.withStore (reconcileRecord s.cfg.ns s.cluster s.now
      (s.reg, s.cache) t) (s.procs.set i (.reconcile (.check ts))) log) (List.getElem?_set_self hlen)
    refine ⟨k + n, log', ?_⟩
    rw [Act.calls, List.replicate_add, run_append, ← Act.calls, ← Act.calls, hk, Option.some_bind, hn]
    simp [withStore, List.set_set]

/-- **A pass alone, every call succeeding, ends**, having folded `reconcileRecord` over the
Running records its `List` returned. -/
lemma reconcile_pass_run (hi : s.procs[i]? = some (.reconcile .list)) :
    ∃ n log, s.run (Act.calls i n) = some (s.withStore
      ((DynamoClient.listByStatus s.reg statusRunning).foldl (reconcileRecord s.cfg.ns s.cluster s.now) (s.reg, s.cache))
      (s.procs.set i (.reconcile .done)) log) := by
  have hlen : i < s.procs.length := (List.getElem?_eq_some_iff.1 hi).1
  have h₁ : s.step (.run i true) = some (s.setProc i (.reconcile (.check
      (DynamoClient.listByStatus s.reg statusRunning)))) := by
    simp [step, hi, procStep, reconcileStep]
  obtain ⟨n, log, hn⟩ := reconcile_check_run _ (s.setProc i (.reconcile (.check
    (DynamoClient.listByStatus s.reg statusRunning)))) (List.getElem?_set_self hlen)
  refine ⟨n + 1, log, ?_⟩
  rw [Act.calls, List.replicate_succ, run_cons, h₁, Option.some_bind, ← Act.calls, hn]
  simp [setProc, withStore, List.set_set]

end Sys

/-- **A reconcile pass, and a second one.** From any state in which process `i` starts a
pass, the pass alone ends; it leaves under each key the item `reconciledItem` describes,
deletes the cache keys of exactly the tenants it demoted, and touches no pod. A second pass,
started at any later clock reading over the same pods, ends too and leaves the registry and
the cache exactly as the first left them. -/
theorem reconcile_pass_idempotent (s : Sys) {i : Nat} (hi : s.procs[i]? = some (.reconcile .list)) :
    ∃ n s', s.run (Act.calls i n) = some s' ∧ s'.procs[i]? = some (.reconcile .done) ∧
      (∀ key, s'.reg.lookup key = (s.reg.lookup key).map (reconciledItem s.cfg.ns s.cluster s.now key)) ∧
      (∀ key, s'.cache key = if (s.reg.lookup key).any (reconcileDemotes s.cfg.ns s.cluster key) then none
        else s.cache key) ∧
      s'.cluster = s.cluster ∧
      ∀ d : Nat, ∃ m s'', s'.run (.tick d :: .request .reconcilePass :: Act.calls s'.procs.length m) = some s'' ∧
        s''.reg = s'.reg ∧ s''.cache = s'.cache := by
  have hlen : i < s.procs.length := (List.getElem?_eq_some_iff.1 hi).1
  obtain ⟨n, log, hn⟩ := Sys.reconcile_pass_run hi
  refine ⟨n, _, hn, List.getElem?_set_self hlen, lookup_reconcile_pass _ _ _ _ _,
    cache_reconcile_pass _ _ _ _ _, rfl, fun d => ?_⟩
  /- The second pass: a tick, its request, then its calls, over a registry whose Running
  records all have their pods. -/
  set s' := s.withStore ((DynamoClient.listByStatus s.reg statusRunning).foldl
    (reconcileRecord s.cfg.ns s.cluster s.now) (s.reg, s.cache)) (s.procs.set i (.reconcile .done)) log
  set s₂ : Sys := { s' with now := s'.now + d }.spawn (.reconcile .list)
  have h₂ : s₂.procs[s'.procs.length]? = some (.reconcile .list) := by simp [s₂, Sys.spawn]
  obtain ⟨m, log₂, hm⟩ := Sys.reconcile_pass_run h₂
  have hfix : (DynamoClient.listByStatus s₂.reg statusRunning).foldl (reconcileRecord s₂.cfg.ns s₂.cluster s₂.now)
      (s₂.reg, s₂.cache) = (s₂.reg, s₂.cache) :=
    foldl_reconcileRecord_of_found _ _ _ _ _ (found_of_reconciled s.cfg.ns s.cluster s.now s.reg s.cache)
  rw [hfix] at hm
  exact ⟨m, _, hm, rfl, rfl⟩

/-- Tenant `a` woken, its pod lost with its node, and a pass requested. -/
def lostPodRun : List Act :=
  Act.createAndWake 0 "tenants" "a" "10.0.0.1" ++ [.podLost "tenants" "zeroclaw-a", .request .reconcilePass]

theorem reconcile_pass_after_lost_pod :
    (Sys.runFrom (Config.orchestrator "tenants" false) lostPodRun).procs[2]? = some (.reconcile .list) ∧
      ∃ n s', (Sys.runFrom (Config.orchestrator "tenants" false) lostPodRun).run (Act.calls 2 n) = some s' ∧
        s'.procs[2]? = some (.reconcile .done) :=
  have hi : (Sys.runFrom (Config.orchestrator "tenants" false) lostPodRun).procs[2]? =
      some (.reconcile .list) := by decide
  ⟨hi, let ⟨n, s', h, hd, _⟩ := reconcile_pass_idempotent _ hi; ⟨n, s', h, hd⟩⟩

end Tenancy

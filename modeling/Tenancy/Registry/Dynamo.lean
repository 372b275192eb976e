import Tenancy.Registry.Record

/-!
`DynamoClient` of `internal/registry/registry.go`, over DynamoDB's conditional writes and
scan filters.

* `createTenant`: `PutItem` under `attribute_not_exists(tenant_id)`; `none` is the
  failed conditional check.
* `updateStatus`, `updateActivity`: `UpdateItem` with no condition expression, which
  DynamoDB applies as an upsert (`upsert`): on an absent key it creates an item holding
  only the key and the attributes set. Both stamp `last_active_at` with
  `time.Now().UTC().Format(time.RFC3339)`, whole seconds (`truncSec`).
* `updateBotToken`, `updateIdleTimeout`: `UpdateItem` under `attribute_exists(tenant_id)`.
* `listAll`, `listByStatus`, `listIdleTenants`: `Scan` with the filter expression of each
  method, the whole table read in one page. `listIdleTenants` compares the stored string
  with the RFC 3339 text of its cutoff (`rfc3339Before`).
* `deleteTenant`: `DeleteItem`, silent on an absent key.

A failed request (network, throttling) is not modelled here: the callers' models decide
whether a call reached the table.
-/

namespace Tenancy

namespace DynamoClient

/-- `GetTenant`: `GetItem` by key, unmarshalled. -/
def getTenant (t : Table) (tenantID : String) : Option TenantRecord :=
  (t.lookup tenantID).map (Item.toRecord tenantID)

/-- `CreateTenant`: `PutItem` with `attribute_not_exists(tenant_id)`. -/
def createTenant (t : Table) (record : TenantRecord) : Option Table :=
  if record.tenantID ∈ t then none else some (t.insert record.tenantID (Item.ofRecord record))

/-- An `UpdateItem` with a `SET` expression and no condition: an upsert. -/
def upsert (t : Table) (tenantID : String) (set : Item → Item) : Table :=
  t.insert tenantID (set ((t.lookup tenantID).getD Item.blank))

/-- `UpdateStatus`: `SET #s = :s, pod_name = :pn, pod_ip = :pi, last_active_at = :la`. -/
def updateStatus (t : Table) (now : Int) (tenantID : String) (status : TenantStatus)
    (podName podIP : String) : Table :=
  upsert t tenantID fun it =>
    { it with status := some status, podName := podName, podIP := podIP,
              lastActiveAt := truncSec now }

/-- `UpdateActivity`: `SET last_active_at = :la`. -/
def updateActivity (t : Table) (now : Int) (tenantID : String) : Table :=
  upsert t tenantID fun it => { it with lastActiveAt := truncSec now }

/-- An `UpdateItem` with `attribute_exists(tenant_id)`: `none` on an absent key. -/
def updateExisting (t : Table) (tenantID : String) (set : Item → Item) : Option Table :=
  if tenantID ∈ t then some (upsert t tenantID set) else none

/-- `UpdateBotToken`: `SET bot_token = :bt` on an existing item. -/
def updateBotToken (t : Table) (tenantID botToken : String) : Option Table :=
  updateExisting t tenantID fun it => { it with botToken := botToken }

/-- `UpdateIdleTimeout`: `SET idle_timeout_s = :t` on an existing item. -/
def updateIdleTimeout (t : Table) (tenantID : String) (timeoutS : Int) : Option Table :=
  updateExisting t tenantID fun it => { it with idleTimeoutS := timeoutS }

/-- The key of the warm pool's metadata item, which `ListAll` filters out. -/
def warmPoolMetaID : String := "warm-pool-meta"

/-- A `Scan` keeping the items its filter expression accepts, unmarshalled. -/
def scan (t : Table) (keep : String → Item → Bool) : List TenantRecord :=
  t.entries.filterMap fun e => if keep e.1 e.2 then some (e.2.toRecord e.1) else none

/-- `ListAll`: `attribute_exists(#s) AND tenant_id <> :meta`. -/
def listAll (t : Table) : List TenantRecord :=
  scan t fun tenantID it => it.status.isSome && tenantID != warmPoolMetaID

/-- `ListByStatus`: `#s = :status`. -/
def listByStatus (t : Table) (status : TenantStatus) : List TenantRecord :=
  scan t fun _ it => it.status == some status

/-- `ListIdleTenants`: `#s = :running AND last_active_at < :cutoff`, the cutoff being
`now - olderThan` formatted with `time.RFC3339`. -/
def listIdleTenants (t : Table) (now : Int) (olderThan : Int) : List TenantRecord :=
  scan t fun _ it =>
    it.status == some statusRunning && rfc3339Before it.lastActiveAt (truncSec (now - olderThan))

/-- `DeleteTenant`: `DeleteItem`. -/
def deleteTenant (t : Table) (tenantID : String) : Table :=
  t.erase tenantID

/-! ### Lookups after each write -/

@[simp] lemma lookup_upsert (t : Table) (tenantID key : String) (set : Item → Item) :
    (upsert t tenantID set).lookup key =
      if key = tenantID then some (set ((t.lookup tenantID).getD Item.blank))
      else t.lookup key := by
  unfold upsert
  split_ifs with h
  · subst h; exact AList.lookup_insert _
  · exact AList.lookup_insert_ne h

@[simp] lemma mem_upsert (t : Table) (tenantID key : String) (set : Item → Item) :
    key ∈ upsert t tenantID set ↔ key = tenantID ∨ key ∈ t :=
  AList.mem_insert _

lemma updateExisting_eq_some {t t' : Table} {tenantID : String} {set : Item → Item}
    (h : updateExisting t tenantID set = some t') :
    tenantID ∈ t ∧ t' = upsert t tenantID set := by
  unfold updateExisting at h
  split_ifs at h with hm
  exact ⟨hm, (Option.some.inj h).symm⟩

@[simp] lemma lookup_deleteTenant (t : Table) (tenantID key : String) :
    (deleteTenant t tenantID).lookup key = if key = tenantID then none else t.lookup key := by
  unfold deleteTenant
  split_ifs with h
  · subst h; exact AList.lookup_erase _ _
  · exact AList.lookup_erase_ne h

lemma createTenant_eq_some {t t' : Table} {record : TenantRecord}
    (h : createTenant t record = some t') :
    record.tenantID ∉ t ∧ t' = t.insert record.tenantID (Item.ofRecord record) := by
  unfold createTenant at h
  split_ifs at h with hm
  exact ⟨hm, (Option.some.inj h).symm⟩

/-- A scan returns, under their own keys, items of the table its filter accepts. -/
lemma mem_scan {t : Table} {keep : String → Item → Bool} {r : TenantRecord}
    (h : r ∈ scan t keep) :
    ∃ it, t.lookup r.tenantID = some it ∧ keep r.tenantID it = true ∧ r = it.toRecord r.tenantID := by
  unfold scan at h
  obtain ⟨e, he, hr⟩ := List.mem_filterMap.1 h
  split_ifs at hr with hk
  cases hr
  exact ⟨e.2, AList.mem_lookup_iff.2 he, hk, rfl⟩

end DynamoClient

end Tenancy

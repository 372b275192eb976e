import Tenancy.Registry.Record

/-!
`MockClient` of `internal/registry/mock.go`: the in-memory registry every unit test of the
wake pipeline, the idle controller and the reconciler runs on.

Its `map[string]*TenantRecord` is an association list keyed by tenant id. Unlike
`DynamoClient`, `updateStatus` fails on an absent id and `updateActivity` leaves the
table alone there; it stamps `time.Now()` at full precision, and its scans filter the
records with Go's own comparisons.
-/

namespace Tenancy

/-- The mock's `tenants` map. -/
abbrev MockTable := AList (fun _ : String => TenantRecord)

namespace MockClient

/-- `GetTenant`: a copy of the stored record. -/
def getTenant (m : MockTable) (tenantID : String) : Option TenantRecord :=
  m.lookup tenantID

/-- `CreateTenant`: `ConditionalCheckFailed` when the id is taken. -/
def createTenant (m : MockTable) (record : TenantRecord) : Option MockTable :=
  if record.tenantID ∈ m then none else some (m.insert record.tenantID record)

/-- The mock's writes to a stored record: `none` when the id is absent. -/
def update (m : MockTable) (tenantID : String) (set : TenantRecord → TenantRecord) :
    Option MockTable :=
  (m.lookup tenantID).map fun r => m.insert tenantID (set r)

/-- `UpdateStatus`: fails with `tenant ... not found` on an absent id. -/
def updateStatus (m : MockTable) (now : Int) (tenantID : String) (status : TenantStatus)
    (podName podIP : String) : Option MockTable :=
  update m tenantID fun r =>
    { r with status := status, podName := podName, podIP := podIP, lastActiveAt := now }

/-- `UpdateActivity`: returns `nil` and changes nothing on an absent id. -/
def updateActivity (m : MockTable) (now : Int) (tenantID : String) : MockTable :=
  (update m tenantID fun r => { r with lastActiveAt := now }).getD m

/-- `UpdateBotToken`: `ConditionalCheckFailed` on an absent id. -/
def updateBotToken (m : MockTable) (tenantID botToken : String) : Option MockTable :=
  update m tenantID fun r => { r with botToken := botToken }

/-- `UpdateIdleTimeout`: `ConditionalCheckFailed` on an absent id. -/
def updateIdleTimeout (m : MockTable) (tenantID : String) (timeoutS : Int) :
    Option MockTable :=
  update m tenantID fun r => { r with idleTimeoutS := timeoutS }

/-- `ListAll`: every stored record. -/
def listAll (m : MockTable) : List TenantRecord :=
  m.entries.map (·.2)

/-- `ListByStatus`. -/
def listByStatus (m : MockTable) (status : TenantStatus) : List TenantRecord :=
  (listAll m).filter (·.status == status)

/-- `ListIdleTenants`: `Status == StatusRunning && LastActiveAt.Before(cutoff)` with
`cutoff = time.Now().Add(-olderThan)`. -/
def listIdleTenants (m : MockTable) (now : Int) (olderThan : Int) : List TenantRecord :=
  (listAll m).filter fun r => r.status == statusRunning && decide (r.lastActiveAt < now - olderThan)

/-- `DeleteTenant`. -/
def deleteTenant (m : MockTable) (tenantID : String) : MockTable :=
  m.erase tenantID

end MockClient

end Tenancy

import Tenancy.Invariant.Registry

/-!
The status a tenant's item goes through (`Handler.wakeOrGet`, `Handler.CreateTenant`,
`Handler.DeleteTenant`, `Controller.checkIdleTenants` and `Reconciler.reconcile`, through
`DynamoClient`).

A key's status is `none` when it has no item, `some none` when its item has no `status`
attribute, and `some (some st)` otherwise.

* `specEdge`: the lifecycle `docs/cli-migration.md` states: absent → Idle, absent →
  Provisioning, Idle → Provisioning, Provisioning → Running, Running → Idle, any → removed;
* `codeEdge`: the changes the code can make: Running or Idle written over anything,
  Provisioning or an item without status only where there was none, and removal;
* `status_changes_are_code_edges`: **every move, from any state, changes a key's status only
  along a `codeEdge`**: no write sets Provisioning on an existing item, none sets
  Terminated;
* `wake_skips_provisioning`: a wake of an Idle tenant commits Running without passing through
  Provisioning.
-/

namespace Tenancy

/-- The status of `T`'s item, if it has one. -/
def statusOf (t : Table) (T : String) : Option (Option TenantStatus) := (t.lookup T).map (·.status)

/-- The lifecycle of `docs/cli-migration.md` ("Who Does What"): creation makes a record Idle or
Provisioning, a wake taking the lock makes an Idle record Provisioning, a ready pod makes it
Running, the idle controller or the reconciler makes a Running record Idle, and a delete
removes any record. -/
def specEdge : Option (Option TenantStatus) → Option (Option TenantStatus) → Bool
  | none, some (some n) => n == statusIdle || n == statusProvisioning
  | some (some o), some (some n) =>
    (o == statusIdle && n == statusProvisioning) || (o == statusProvisioning && n == statusRunning) ||
      (o == statusRunning && n == statusIdle)
  | some _, none => true
  | _, _ => false

/-- The status changes the code can make: `UpdateStatus` writes Running (a wake's commit) or
Idle (a demotion) over any item or none, `CreateTenant` makes an Idle or Provisioning record
where there was none, `UpdateActivity` makes an item without status where there was none,
and `DeleteTenant` removes the item. -/
def codeEdge (o n : Option (Option TenantStatus)) : Bool :=
  n == none || n == some (some statusRunning) || n == some (some statusIdle) ||
    (o == none && (n == some (some statusProvisioning) || n == some none))

/-- What a write does to one key's status. -/
lemma ItemStep.codeEdge {now : Int} {o o' : Option Item} (h : ItemStep now o o')
    (hne : o.map (·.status) ≠ o'.map (·.status)) : codeEdge (o.map (·.status)) (o'.map (·.status)) = true := by
  cases h with
  | keep => exact absurd rfl hne
  | create _ hst => rcases hst with h | h <;> simp [Tenancy.codeEdge, Item.ofRecord, h]
  | status _ _ hst => rcases hst with h | h <;> simp [Tenancy.codeEdge, h]
  | @activity o =>
    cases o with
    | none => simp [Tenancy.codeEdge, Item.blank]
    | some it => exact absurd rfl hne
  | update hs _ => exact absurd (by simp [hs]) hne
  | delete => simp [Tenancy.codeEdge]

/-- **Every status change is a `codeEdge`.** From any state, whatever the move. -/
theorem status_changes_are_code_edges {s s' : Sys} {a : Act} (hs : s.step a = some s') (T : String)
    (hne : statusOf s.reg T ≠ statusOf s'.reg T) : codeEdge (statusOf s.reg T) (statusOf s'.reg T) = true :=
  ((s.step_reg hs).item T).codeEdge hne

/-- Tenant `a` requested on an empty deployment; its `CreateTenant` then puts the record. -/
def createRequestRun : List Act := [.request (.createTenant "a" "" 0)]

theorem create_status_edge :
    let s := Sys.runFrom (Config.orchestrator "tenants" false) createRequestRun
    let s' := (s.step (.run 0 true)).getD s
    s.step (.run 0 true) = some s' ∧ statusOf s.reg "a" ≠ statusOf s'.reg "a" ∧
      codeEdge (statusOf s.reg "a") (statusOf s'.reg "a") = true := by
  intro s s'
  have hs : s.step (.run 0 true) = some s' :=
    (Option.getD_of_ne_none (Option.ne_none_iff_isSome.2 (by decide)) s).symm
  have hne : statusOf s.reg "a" ≠ statusOf s'.reg "a" := by decide
  exact ⟨hs, hne, status_changes_are_code_edges hs "a" hne⟩

/-- Tenant `a` created Idle and woken, up to the call before its commit. -/
def idleWakeRun : List Act :=
  [.request (.createTenant "a" "" 0), .run 0 true, .request (.wake "a")] ++ Act.calls 1 7 ++
    [.podReady "tenants" (podName "a") "10.0.0.1", .run 1 true]

/-- The commit of a wake takes an Idle record straight to Running. -/
theorem wake_skips_provisioning :
    ¬ ∀ (cfg : Config) (acts : List Act) (a : Act) (T : String),
      ((Sys.init cfg).run (acts ++ [a])).isSome →
      statusOf (Sys.runFrom cfg acts).reg T ≠ statusOf (Sys.runFrom cfg (acts ++ [a])).reg T →
      specEdge (statusOf (Sys.runFrom cfg acts).reg T) (statusOf (Sys.runFrom cfg (acts ++ [a])).reg T) =
        true := fun h =>
  absurd (h (Config.orchestrator "tenants" false) idleWakeRun (.run 1 true) "a" (by decide) (by decide))
    (by decide)

end Tenancy

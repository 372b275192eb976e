import Tenancy.Invariant.Basic

/-!
What one move can write to the registry table, stated once for every kind of process, so
that properties of the stored records need not open the step functions again.

* `RegStep`: a move leaves the table alone, or makes one write: a `CreateTenant` of an Idle
  or Provisioning record stamped with the clock, an `UpdateStatus` to Running or Idle, an
  `UpdateActivity`, a conditional `UpdateBotToken` or `UpdateIdleTimeout`, or a
  `DeleteTenant`;
* `ItemStep`, `RegStep.item`: what such a write does to the item of each key;
* `Sys.step_reg`: **every move is a `RegStep` at the clock reading it starts from**.
-/

namespace Tenancy

/-- What one move can write to the registry table `t` at clock reading `now`. -/
inductive RegStep (now : Int) (t : Table) : Table → Prop
  | keep : RegStep now t t
  | create {r : TenantRecord} {t' : Table} (h : DynamoClient.createTenant t r = some t')
      (hla : r.lastActiveAt = now) (hst : r.status = statusIdle ∨ r.status = statusProvisioning) :
      RegStep now t t'
  | status (id : String) {st : TenantStatus} (pn pi : String)
      (hst : st = statusRunning ∨ st = statusIdle) :
      RegStep now t (DynamoClient.updateStatus t now id st pn pi)
  | activity (id : String) : RegStep now t (DynamoClient.updateActivity t now id)
  | token {id b : String} {t' : Table} (h : DynamoClient.updateBotToken t id b = some t') :
      RegStep now t t'
  | timeout {id : String} {n : Int} {t' : Table} (h : DynamoClient.updateIdleTimeout t id n = some t') :
      RegStep now t t'
  | delete (id : String) : RegStep now t (DynamoClient.deleteTenant t id)

/-- What one write does to the item of one key: nothing; creates it from an Idle or
Provisioning record stamped `now`; sets Running or Idle with the truncated clock; sets the
truncated clock alone; rewrites an existing item's other attributes; or removes it. -/
inductive ItemStep (now : Int) : Option Item → Option Item → Prop
  | keep {o : Option Item} : ItemStep now o o
  | create {r : TenantRecord} (hla : r.lastActiveAt = now)
      (hst : r.status = statusIdle ∨ r.status = statusProvisioning) :
      ItemStep now none (some (Item.ofRecord r))
  | status {o : Option Item} {st : TenantStatus} (pn pi : String)
      (hst : st = statusRunning ∨ st = statusIdle) :
      ItemStep now o (some { o.getD Item.blank with
        status := some st, podName := pn, podIP := pi, lastActiveAt := truncSec now })
  | activity {o : Option Item} :
      ItemStep now o (some { o.getD Item.blank with lastActiveAt := truncSec now })
  | update {it it' : Item} (hs : it'.status = it.status) (hla : it'.lastActiveAt = it.lastActiveAt) :
      ItemStep now (some it) (some it')
  | delete {o : Option Item} : ItemStep now o none

namespace RegStep

variable {now : Int} {t t' : Table}

/-- **What a move does to each key's item.** -/
lemma item (h : RegStep now t t') (key : String) : ItemStep now (t.lookup key) (t'.lookup key) := by
  have hup : ∀ id set, key ≠ id → (DynamoClient.upsert t id set).lookup key = t.lookup key :=
    fun _ _ hk => by rw [DynamoClient.lookup_upsert, if_neg hk]
  cases h with
  | keep => exact .keep
  | @create r _ h hla hst =>
    obtain ⟨hm, rfl⟩ := DynamoClient.createTenant_eq_some h
    by_cases hk : key = r.tenantID
    · subst hk
      rw [AList.lookup_insert, AList.lookup_eq_none.2 hm]
      exact .create hla hst
    · rw [AList.lookup_insert_ne hk]; exact .keep
  | status id pn pi hst =>
    by_cases hk : key = id
    · subst hk
      rw [DynamoClient.updateStatus, DynamoClient.lookup_upsert, if_pos rfl]
      exact .status pn pi hst
    · rw [DynamoClient.updateStatus, hup _ _ hk]; exact .keep
  | activity id =>
    by_cases hk : key = id
    · subst hk
      rw [DynamoClient.updateActivity, DynamoClient.lookup_upsert, if_pos rfl]
      exact .activity
    · rw [DynamoClient.updateActivity, hup _ _ hk]; exact .keep
  | @token id _ _ h => exact existing (DynamoClient.updateExisting_eq_some h) (fun _ => rfl) fun _ => rfl
  | @timeout id _ _ h => exact existing (DynamoClient.updateExisting_eq_some h) (fun _ => rfl) fun _ => rfl
  | delete id =>
    by_cases hk : key = id
    · subst hk; rw [DynamoClient.lookup_deleteTenant, if_pos rfl]; exact .delete
    · rw [DynamoClient.lookup_deleteTenant, if_neg hk]; exact .keep
where
  /-- A conditional update keeps the status and the activity stamp of the item it rewrites. -/
  existing {id : String} {set : Item → Item} {t' : Table}
      (h : id ∈ t ∧ t' = DynamoClient.upsert t id set)
      (hs : ∀ it, (set it).status = it.status) (hla : ∀ it, (set it).lastActiveAt = it.lastActiveAt) :
      ItemStep now (t.lookup key) (t'.lookup key) := by
    obtain ⟨hm, rfl⟩ := h
    rw [DynamoClient.lookup_upsert]
    split_ifs with hk
    · subst hk
      obtain ⟨it, hit⟩ := Option.isSome_iff_exists.1 (AList.lookup_isSome.2 hm)
      rw [hit, Option.getD_some]
      exact .update (hs it) (hla it)
    · exact .keep

end RegStep

/-- A write made only when its call reaches the table. -/
lemma RegStep.of_ok {now : Int} {t t' : Table} (ok : Bool) (h : RegStep now t t') :
    RegStep now t (if ok = true then t' else t) := by
  cases ok
  · exact .keep
  · exact h

namespace Sys

variable {s s' : Sys} {i : Nat} {ok : Bool}

lemma wakeStep_reg {t : String} {lu : Option Int} {pc : WakePc}
    (hs : s.wakeStep i ok t lu pc = some s') : RegStep s.now s.reg s'.reg := by
  cases pc <;> simp only [wakeStep] at hs
  case autoCreate =>
    cases hs
    refine RegStep.of_ok ok ?_
    cases hc : DynamoClient.createTenant s.reg (provisioningRecord s.cfg s.now t)
    · exact .keep
    · exact .create hc rfl (.inr rfl)
  case commit pod seen ip =>
    split at hs <;> cases hs
    · exact .status t _ _ (.inl rfl)
    · exact .keep
  case waitReady ns pod =>
    split at hs
    · obtain ⟨p, -, rfl⟩ := Option.map_eq_some'.1 hs
      exact .keep
    · cases hs; exact .keep
  all_goals (repeat' split at hs) <;> (try cases hs) <;> exact .keep

lemma routerStep_reg {t text : String} {pc : RouterPc}
    (hs : s.routerStep i ok t text pc = some s') : RegStep s.now s.reg s'.reg := by
  cases pc <;> simp only [routerStep] at hs
  case updateActivity =>
    cases hs
    exact RegStep.of_ok ok (.activity t)
  all_goals (repeat' split at hs) <;> (try cases hs) <;> exact .keep

lemma idleStep_reg {pc : IdlePc} (hs : s.idleStep i ok pc = some s') :
    RegStep s.now s.reg s'.reg := by
  cases pc <;> simp only [idleStep] at hs
  case check ts =>
    cases ts with
    | nil => cases hs; exact .keep
    | cons t ts =>
      simp only at hs
      (repeat' split at hs) <;> cases hs <;> exact .keep
  case demote t ts =>
    cases hs
    exact RegStep.of_ok ok (.status _ _ _ (.inr rfl))
  all_goals (repeat' split at hs) <;> (try cases hs) <;> exact .keep

lemma reconcileStep_reg {pc : ReconPc} (hs : s.reconcileStep i ok pc = some s') :
    RegStep s.now s.reg s'.reg := by
  cases pc <;> simp only [reconcileStep] at hs
  case check ts =>
    cases ts with
    | nil => cases hs; exact .keep
    | cons t ts =>
      simp only at hs
      split at hs <;> cases hs <;> exact .keep
  case demote t ts =>
    split at hs <;> cases hs
    · exact .status _ _ _ (.inr rfl)
    · exact .keep
  all_goals (repeat' split at hs) <;> (try cases hs) <;> exact .keep

lemma procStep_reg {p : Proc} (hs : s.procStep i ok p = some s') : RegStep s.now s.reg s'.reg := by
  cases p with
  | wake => exact wakeStep_reg hs
  | router => exact routerStep_reg hs
  | idle => exact idleStep_reg hs
  | reconcile => exact reconcileStep_reg hs
  | createTenant t tok n pc =>
    cases pc <;> simp only [procStep, createTenantStep] at hs
    case create =>
      split at hs
      · cases hs; exact .keep
      · split at hs
        · rename_i reg hc
          cases hs
          exact .create ((call_eq_some hc).2) rfl (.inl rfl)
        · cases hs; exact .keep
    all_goals (repeat' split at hs) <;> (try cases hs) <;> exact .keep
  | deleteTenant t clean pc =>
    cases pc <;> simp only [procStep, deleteTenantStep] at hs
    case deleteRecord r =>
      split at hs <;> cases hs
      · exact .delete t
      · exact .keep
    all_goals (repeat' split at hs) <;> (try cases hs) <;> exact .keep
  | updateActivity t fin =>
    cases fin <;> simp only [procStep, updateActivityStep] at hs
    · cases hs
      exact RegStep.of_ok ok (.activity t)
    · cases hs
  | updateTenant t tok n pc =>
    cases pc <;> simp only [procStep, updateTenantStep] at hs
    case token =>
      split at hs
      · cases hs; exact .keep
      · split at hs
        · rename_i reg hu
          cases hs
          exact .token ((call_eq_some hu).2)
        · cases hs; exact .keep
    case timeout =>
      split at hs
      · cases hs; exact .keep
      · split at hs
        · rename_i reg hu
          cases hs
          exact .timeout ((call_eq_some hu).2)
        · cases hs; exact .keep
    all_goals (repeat' split at hs) <;> (try cases hs) <;> exact .keep

/-- **Every move writes the registry as a `RegStep` at the clock reading it starts from.** -/
lemma step_reg {a : Act} (hs : s.step a = some s') : RegStep s.now s.reg s'.reg := by
  cases a with
  | run i ok =>
    obtain ⟨p, -, hp⟩ := Option.bind_eq_some.1 hs
    exact procStep_reg hp
  | request r => cases hs; exact .keep
  | tick d => cases hs; exact .keep
  | podReady | podGone | podLost | warmReplica =>
    obtain ⟨c, -, rfl⟩ := Option.map_eq_some'.1 hs
    exact .keep

end Sys

end Tenancy

import Tenancy.Registry.Refinement

/-!
Which tenant ids have an item in the `DynamoClient` table after a sequence of calls
(`CreateTenant`, `UpdateStatus`, `UpdateActivity` and `DeleteTenant` of
`internal/registry/registry.go`).

`UpdateStatus` and `UpdateActivity` carry no condition expression, so DynamoDB applies them
as upserts: on an absent key they create an item holding the key and the attributes they
set.

* `Call.itemWrite`: whether a call leaves `id` with an item (`CreateTenant`, which fails only
  where one exists, and the two upserts) or without one (`DeleteTenant`), if it decides it;
* `mem_exec_iff`: **after any sequence of calls, `id` has an item exactly when the last call
  that decides it is a `CreateTenant`, an `UpdateStatus` or an `UpdateActivity` of `id`,
  or, with none, when it had one to begin with**;
* `upsert_blocks_create`: `UpdateActivity` of an absent id creates an item, and the
  `CreateTenant` of that id that follows fails its condition.
-/

namespace Tenancy

/-- Whether a call leaves `id` with an item (`some true`) or without one (`some false`),
whatever the table, or keeps the answer as it was (`none`). -/
def Call.itemWrite (id : String) : Call → Option Bool
  | .createTenant r => if r.tenantID = id then some true else none
  | .updateStatus i .. | .updateActivity i => if i = id then some true else none
  | .deleteTenant i => if i = id then some false else none
  | _ => none

namespace DynamoClient

/-- One call: `id` has an item afterwards as `itemWrite` says, or as before. -/
lemma mem_call_iff (t : Table) (now : Int) (c : Call) (id : String) :
    id ∈ (call t now c).2 ↔ (c.itemWrite id).getD (decide (id ∈ t)) = true := by
  cases c with
  | createTenant r =>
    by_cases hr : r.tenantID = id
    · subst hr
      simp only [call, Call.itemWrite, if_true, Option.getD_some, iff_true]
      unfold createTenant
      split_ifs with hm
      · exact hm
      · exact (AList.mem_insert _).2 (.inl rfl)
    · simp only [call, Call.itemWrite, hr, if_false, Option.getD_none, decide_eq_true_eq]
      unfold createTenant Reply.ofWrite
      split_ifs
      · rfl
      · exact (AList.mem_insert _).trans (or_iff_right (Ne.symm hr))
  | updateStatus i st pn pi | updateActivity i =>
    by_cases hi : i = id
    · subst hi; simp [call, Call.itemWrite, updateStatus, updateActivity]
    · simp [call, Call.itemWrite, updateStatus, updateActivity, hi, Ne.symm hi]
  | updateBotToken i b | updateIdleTimeout i n =>
    simp only [call, Call.itemWrite, Option.getD_none, decide_eq_true_eq, Reply.ofWrite,
      updateBotToken, updateIdleTimeout, updateExisting]
    split_ifs with hm
    · exact (mem_upsert _ _ _ _).trans ⟨fun h => h.elim (fun h' => h' ▸ hm) fun h' => h', .inr⟩
    · rfl
  | deleteTenant i =>
    by_cases hi : i = id
    · subst hi; simp [call, Call.itemWrite, deleteTenant]
    · simp [call, Call.itemWrite, deleteTenant, AList.mem_erase, Ne.symm hi, hi]
  | getTenant | listAll | listByStatus | listIdleTenants => simp [call, Call.itemWrite]

/-- **Which ids have an item after a sequence of calls.** -/
theorem mem_exec_iff (id : String) :
    ∀ (t : Table) (calls : List (Int × Call)), id ∈ (exec t calls).2 ↔
      ((calls.filterMap fun c => c.2.itemWrite id).getLast?).getD (decide (id ∈ t)) = true
  | t, [] => by simp [exec]
  | t, (now, c) :: cs => by
    rw [exec, mem_exec_iff id (call t now c).2 cs, List.filterMap_cons]
    cases hl : (cs.filterMap fun c => c.2.itemWrite id).getLast? with
    | some b =>
      have hne : cs.filterMap (fun c => c.2.itemWrite id) ≠ [] := fun h => by simp [h] at hl
      cases c.itemWrite id <;> simp [List.getLast?_cons, hl, hne]
    | none =>
      have he : cs.filterMap (fun c => c.2.itemWrite id) = [] := List.getLast?_eq_none_iff.1 hl
      rw [he, Option.getD_none, Bool.decide_iff, mem_call_iff]
      cases c.itemWrite id <;> simp

end DynamoClient

/-- `a` never created: `UpdateActivity(a)`, then `CreateTenant` of `a`'s record. -/
def touchThenCreate : List (Int × Call) :=
  [(0, .updateActivity "a"), (0, .createTenant ⟨"a", statusIdle, "", "", "tenants", "tenants/a/", "", 0, 0, 300⟩)]

/-- `UpdateActivity` on an absent id leaves an item, and the `CreateTenant` that follows
fails its condition. -/
theorem upsert_blocks_create :
    "a" ∉ (∅ : Table) ∧ "a" ∈ (DynamoClient.exec ∅ (touchThenCreate.take 1)).2 ∧
      (DynamoClient.exec ∅ touchThenCreate).1 = [.ok, .err] := by
  decide

end Tenancy

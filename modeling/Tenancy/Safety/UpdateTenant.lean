import Tenancy.System.Step

/-!
`PATCH /tenants/{id}` with both fields (`Handler.UpdateTenant` of `internal/api/handler.go`,
through `UpdateBotToken` and `UpdateIdleTimeout` of `internal/registry/registry.go`).

The handler makes two separate conditional `UpdateItem`s and re-registers the webhook
between them; an error from either answers 404 at once, and nothing undoes what came
before.

* `UpdateAllOrNothing`: a PATCH applied all or nothing: 200 with both fields written, or an
  error status with the tenant's record and the new token's webhook as they were;
* `UpdateWritten`, `Sys.update_tenant_outcomes`: **from any state, whatever its calls return,
  a PATCH run alone answers 200 with both fields written, or 404 with none, the token alone,
  or both written**;
* `update_tenant_half_applied`: with a Telegram client, a PATCH of `a` whose token write
  and webhook registration succeed and whose budget write fails answers 404, leaving the
  new token in the record and registered with Telegram.
-/

namespace Tenancy

/-- `UpdateTenant(t)` with token `b` and budget `v`, run from `s` to `s'` where it answered
`code`, applied all or nothing: 200 with both fields written, or another status with the record
and `b`'s webhook as they were. -/
def UpdateAllOrNothing (t b : String) (v : Int) (s s' : Sys) (code : Nat) : Prop :=
  (code = 200 ∧ (DynamoClient.getTenant s'.reg t).map (fun r => (r.botToken, r.idleTimeoutS)) = some (b, v)) ∨
    (code ≠ 200 ∧ DynamoClient.getTenant s'.reg t = DynamoClient.getTenant s.reg t ∧
      s'.webhooks b = s.webhooks b)

/-! ### Every outcome of the handler -/

/-- `UpdateBotToken(b)` rewrites the token of the record it finds. -/
lemma getTenant_updateBotToken {t t' : Table} {id b : String} (h : DynamoClient.updateBotToken t id b = some t') :
    DynamoClient.getTenant t' id = (DynamoClient.getTenant t id).map fun r => { r with botToken := b } := by
  obtain ⟨hm, rfl⟩ := DynamoClient.updateExisting_eq_some h
  obtain ⟨it, hit⟩ := Option.isSome_iff_exists.1 (AList.lookup_isSome.2 hm)
  simp [DynamoClient.getTenant, hit, Item.toRecord]

/-- `UpdateIdleTimeout(v)` rewrites the budget of the record it finds. -/
lemma getTenant_updateIdleTimeout {t t' : Table} {id : String} {v : Int}
    (h : DynamoClient.updateIdleTimeout t id v = some t') :
    DynamoClient.getTenant t' id = (DynamoClient.getTenant t id).map fun r => { r with idleTimeoutS := v } := by
  obtain ⟨hm, rfl⟩ := DynamoClient.updateExisting_eq_some h
  obtain ⟨it, hit⟩ := Option.isSome_iff_exists.1 (AList.lookup_isSome.2 hm)
  simp [DynamoClient.getTenant, hit, Item.toRecord]

/-- What a PATCH carrying token `b` and budget `v` has made of the record `r₀` it started from
when it is at `pc`: nothing before its first write, the token after it, both after the
second; it answers 200 only with both written, and 404 with none, the token alone or both. -/
def UpdateWritten (b : String) (v : Int) (r₀ : Option TenantRecord) : UpdatePc → Option TenantRecord → Prop
  | .token, r => r = r₀
  | .webhook, r | .timeout, r => r = r₀.map fun x => { x with botToken := b }
  | .read, r => r = r₀.map fun x => { x with botToken := b, idleTimeoutS := v }
  | .done code, r => (code = 200 ∧ r = r₀.map fun x => { x with botToken := b, idleTimeoutS := v }) ∨
      (code = 404 ∧ (r = r₀ ∨ r = r₀.map (fun x => { x with botToken := b }) ∨
        r = r₀.map fun x => { x with botToken := b, idleTimeoutS := v }))

namespace Sys

variable {s s' : Sys} {i : Nat} {ok : Bool} {t b : String} {v : Int} {r₀ : Option TenantRecord}

/-- One call of the PATCH keeps `UpdateWritten`. -/
lemma updateTenantStep_written {pc : UpdatePc} (hw : UpdateWritten b v r₀ pc (DynamoClient.getTenant s.reg t))
    (hs : s.updateTenantStep i ok t (some b) (some v) pc = some s') :
    ∃ pc', s'.procs = s.procs.set i (.updateTenant t (some b) (some v) pc') ∧
      UpdateWritten b v r₀ pc' (DynamoClient.getTenant s'.reg t) := by
  cases pc with
  | token =>
    simp only [updateTenantStep] at hs
    split at hs
    · rename_i reg hreg
      cases hs
      split_ifs at hreg with hok
      refine ⟨_, rfl, ?_⟩
      have hw' : DynamoClient.getTenant reg t = r₀.map fun x => { x with botToken := b } := by
        rw [getTenant_updateBotToken hreg, show DynamoClient.getTenant s.reg t = r₀ from hw]
      split_ifs <;> exact hw'
    · cases hs
      exact ⟨_, rfl, .inr ⟨rfl, .inl hw⟩⟩
  | webhook => cases hs; exact ⟨_, rfl, hw⟩
  | timeout =>
    simp only [updateTenantStep] at hs
    split at hs
    · rename_i reg hreg
      cases hs
      split_ifs at hreg with hok
      refine ⟨_, rfl, ?_⟩
      show DynamoClient.getTenant reg t = _
      rw [getTenant_updateIdleTimeout hreg, show DynamoClient.getTenant s.reg t = _ from hw, Option.map_map]
      rfl
    · cases hs
      exact ⟨_, rfl, .inr ⟨rfl, .inr (.inl hw)⟩⟩
  | read =>
    cases hs
    refine ⟨_, rfl, ?_⟩
    split_ifs
    · exact .inl ⟨rfl, hw⟩
    · exact .inr ⟨rfl, .inr (.inr hw)⟩
  | done => cases hs

/-- **Every outcome of a PATCH carrying both fields.** From any state, whatever its calls
return, a PATCH run alone that has answered `code` has answered 200 with both fields written
to the record it started from, or 404 with none, the token alone or both written. -/
theorem update_tenant_outcomes : ∀ (oks : List Bool) {s s' : Sys} {pc : UpdatePc},
    s.procs[i]? = some (.updateTenant t (some b) (some v) pc) →
    UpdateWritten b v r₀ pc (DynamoClient.getTenant s.reg t) →
    s.run (oks.map (Act.run i)) = some s' →
    ∃ pc', s'.procs[i]? = some (.updateTenant t (some b) (some v) pc') ∧
      UpdateWritten b v r₀ pc' (DynamoClient.getTenant s'.reg t)
  | [], _, _, pc, hi, hw, hr => by cases hr; exact ⟨pc, hi, hw⟩
  | ok :: oks, s, _, pc, hi, hw, hr => by
    obtain ⟨s₁, h₁, hr⟩ := Option.bind_eq_some.1 hr
    have hlen : i < s.procs.length := (List.getElem?_eq_some_iff.1 hi).1
    simp only [step, hi, Option.some_bind, procStep] at h₁
    obtain ⟨pc₁, hp₁, hw₁⟩ := updateTenantStep_written hw h₁
    exact update_tenant_outcomes oks (by rw [hp₁, List.getElem?_set_self hlen]) hw₁ hr

end Sys

/-- Tenant `a` created without a token on a deployment with a Telegram client, then a
PATCH of `a` with token `new` and budget 600 s. -/
def patchBothRun : List Act :=
  [.request (.createTenant "a" "" 0), .run 0 true, .request (.updateTenant "a" (some "new") (some 600))]

theorem patch_written_after_failed_budget :
    let s := Sys.runFrom (Config.orchestrator "tenants" true) patchBothRun
    s.procs[1]? = some (.updateTenant "a" (some "new") (some 600) .token) ∧
      ∃ s', s.run ([true, true, false].map (Act.run 1)) = some s' ∧
        ∃ pc', s'.procs[1]? = some (.updateTenant "a" (some "new") (some 600) pc') ∧
          UpdateWritten "new" 600 (DynamoClient.getTenant s.reg "a") pc' (DynamoClient.getTenant s'.reg "a") := by
  intro s
  have hi : s.procs[1]? = some (.updateTenant "a" (some "new") (some 600) .token) := by decide
  obtain ⟨s', hr⟩ := Option.isSome_iff_exists.1
    (show (s.run ([true, true, false].map (Act.run 1))).isSome = true by decide)
  exact ⟨hi, s', hr, Sys.update_tenant_outcomes [true, true, false] hi rfl hr⟩

/-- The PATCH alone, its token write and webhook registration succeeding and its budget
write failing, answers 404 with the token written and registered. -/
theorem update_tenant_half_applied :
    ¬ ∀ (cfg : Config) (acts : List Act) (i : Nat) (oks : List Bool) (t b : String) (v : Int) (code : Nat),
      ((Sys.init cfg).run (acts ++ oks.map (Act.run i))).isSome →
      (Sys.runFrom cfg acts).procs[i]? = some (.updateTenant t (some b) (some v) .token) →
      (Sys.runFrom cfg (acts ++ oks.map (Act.run i))).procs[i]? =
        some (.updateTenant t (some b) (some v) (.done code)) →
      UpdateAllOrNothing t b v (Sys.runFrom cfg acts) (Sys.runFrom cfg (acts ++ oks.map (Act.run i))) code :=
  fun h => by
    have := h (Config.orchestrator "tenants" true) patchBothRun 1 [true, true, false] "a" "new" 600 404
      (by decide) (by decide) (by decide)
    unfold UpdateAllOrNothing at this
    revert this
    decide

end Tenancy

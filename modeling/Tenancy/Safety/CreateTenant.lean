import Tenancy.System.Step

/-!
`POST /tenants` (`Handler.CreateTenant` of `internal/api/handler.go`, through `CreateTenant`
of `internal/registry/registry.go` and the Telegram client's `RegisterWebhook`).

The handler makes one conditional `PutItem`, and, with a Telegram client and a token, one
`RegisterWebhook` whose error it only logs.

* `CreateOutcome`: the answers the handler can give from a state `s`: 400 for an empty
  id, 409 with the registry and the webhooks as they were, or 201 with the record
  `createdRecord` put where the id had no item, and the token's webhook registered with
  the tenant or left as it was;
* `CreateWritten`, `Sys.createTenantStep_written`: what a `CreateTenant` has written at each
  point of its run, kept by each of its calls;
* `create_tenant_outcomes`: **from any state, whatever its calls return, a
  `CreateTenant` run alone that has answered has given one of the answers of
  `CreateOutcome`**;
* `Sys.create_tenant_created`: with a nonempty id that has no item and every call
  succeeding, it answers 201 and, with a Telegram client and a token, registers the
  webhook.
-/

namespace Tenancy

/-- The answers `CreateTenant` of `t` with token `tok` and budget `n`, started in `s`, can
have given with the registry at `reg` and the webhooks at `hooks`. -/
def CreateOutcome (s : Sys) (t tok : String) (n : Int) (code : Nat) (reg : Table)
    (hooks : String → Option String) : Prop :=
  (code = 400 ∧ t = "" ∧ reg = s.reg ∧ hooks = s.webhooks) ∨
    (code = 409 ∧ t ≠ "" ∧ reg = s.reg ∧ hooks = s.webhooks) ∨
    (code = 201 ∧ DynamoClient.createTenant s.reg (createdRecord s.cfg s.now t tok n) = some reg ∧
      (hooks = s.webhooks ∨ (s.cfg.telegram = true ∧ tok ≠ "") ∧ hooks = Function.update s.webhooks tok (some t)))

/-- What `CreateTenant` of `t`, started in `s`, has written when it is at `pc`: nothing
before its `PutItem`, the new record once it goes on to `RegisterWebhook`, and an answer of
`CreateOutcome` once it has answered. -/
def CreateWritten (s : Sys) (t tok : String) (n : Int) : CreatePc → Table → (String → Option String) → Prop
  | .create, reg, hooks => reg = s.reg ∧ hooks = s.webhooks
  | .webhook, reg, hooks =>
    DynamoClient.createTenant s.reg (createdRecord s.cfg s.now t tok n) = some reg ∧ hooks = s.webhooks ∧
      s.cfg.telegram = true ∧ tok ≠ ""
  | .done code, reg, hooks => CreateOutcome s t tok n code reg hooks

namespace Sys

variable {s₀ s s' : Sys} {i : Nat} {ok : Bool} {t tok : String} {n : Int}

/-- One call of `CreateTenant` keeps `CreateWritten`, the configuration and the clock. -/
lemma createTenantStep_written {pc : CreatePc} (hw : CreateWritten s₀ t tok n pc s.reg s.webhooks)
    (hcfg : s.cfg = s₀.cfg) (hnow : s.now = s₀.now) (hs : s.createTenantStep i ok t tok n pc = some s') :
    ∃ pc', s'.procs = s.procs.set i (.createTenant t tok n pc') ∧ s'.cfg = s.cfg ∧ s'.now = s.now ∧
      CreateWritten s₀ t tok n pc' s'.reg s'.webhooks := by
  cases pc with
  | create =>
    obtain ⟨hreg, hhooks⟩ := hw
    simp only [createTenantStep] at hs
    by_cases ht : t = ""
    · rw [if_pos ht] at hs
      cases hs
      exact ⟨_, rfl, rfl, rfl, .inl ⟨rfl, ht, hreg, hhooks⟩⟩
    rw [if_neg ht] at hs
    split at hs
    · rename_i reg hc
      cases hs
      split_ifs at hc
      rw [hreg, hcfg, hnow] at hc
      refine ⟨_, rfl, rfl, rfl, ?_⟩
      by_cases htg : s.cfg.telegram = true ∧ tok ≠ ""
      · rw [if_pos htg]
        exact ⟨hc, hhooks, hcfg ▸ htg⟩
      · rw [if_neg htg]
        exact .inr (.inr ⟨rfl, hc, .inl hhooks⟩)
    · cases hs
      exact ⟨_, rfl, rfl, rfl, .inr (.inl ⟨rfl, ht, hreg, hhooks⟩)⟩
  | webhook =>
    obtain ⟨hc, hhooks, htg, htok⟩ := hw
    cases hs
    refine ⟨_, rfl, rfl, rfl, .inr (.inr ⟨rfl, hc, ?_⟩)⟩
    split_ifs
    · exact .inr ⟨⟨htg, htok⟩, by rw [← hhooks]; rfl⟩
    · exact .inl hhooks
  | done => cases hs

/-- A `CreateTenant` run alone keeps `CreateWritten`. -/
lemma createTenant_run_written : ∀ (oks : List Bool) {s s' : Sys} {pc : CreatePc},
    s.procs[i]? = some (.createTenant t tok n pc) → CreateWritten s₀ t tok n pc s.reg s.webhooks →
    s.cfg = s₀.cfg → s.now = s₀.now → s.run (oks.map (Act.run i)) = some s' →
    ∃ pc', s'.procs[i]? = some (.createTenant t tok n pc') ∧ CreateWritten s₀ t tok n pc' s'.reg s'.webhooks
  | [], _, _, pc, hi, hw, _, _, hr => by cases hr; exact ⟨pc, hi, hw⟩
  | ok :: oks, s, _, pc, hi, hw, hcfg, hnow, hr => by
    obtain ⟨s₁, h₁, hr⟩ := Option.bind_eq_some.1 hr
    have hlen : i < s.procs.length := (List.getElem?_eq_some_iff.1 hi).1
    simp only [step, hi, Option.some_bind, procStep] at h₁
    obtain ⟨pc₁, hp₁, hcfg₁, hnow₁, hw₁⟩ := createTenantStep_written hw hcfg hnow h₁
    exact createTenant_run_written oks (by rw [hp₁, List.getElem?_set_self hlen]) hw₁
      (hcfg₁.trans hcfg) (hnow₁.trans hnow) hr

/-- With a nonempty id that has no item, `CreateTenant` with every call succeeding answers
201, registering the webhook with a Telegram client and a token. -/
lemma create_tenant_created (hi : s.procs[i]? = some (.createTenant t tok n .create)) (ht : t ≠ "")
    (hfree : t ∉ s.reg) :
    ∃ s', s.run (Act.calls i (if s.cfg.telegram = true ∧ tok ≠ "" then 2 else 1)) = some s' ∧
      s'.procs[i]? = some (.createTenant t tok n (.done 201)) ∧
      (s.cfg.telegram = true → tok ≠ "" → s'.webhooks tok = some t) := by
  have hlen : i < s.procs.length := (List.getElem?_eq_some_iff.1 hi).1
  by_cases htg : s.cfg.telegram = true ∧ tok ≠ "" <;>
    simp [Act.calls, run_cons, step, hi, procStep, createTenantStep, ht, DynamoClient.createTenant,
      createdRecord, hfree, htg, createTo, hlen]
  exact fun h₁ h₂ => absurd ⟨h₁, h₂⟩ htg

end Sys

/-- **Every answer of `POST /tenants`.** From any state in which process `i` is a
`CreateTenant` of `t` with token `tok` and budget `n`, whatever its calls return, once it has
answered `code` on its own it has answered 400 for an empty id, 409 with the registry and
the webhooks as they were, or 201 having put the record `createdRecord` (Idle, in the
handler's namespace, under `tenants/<id>/`, budget 300 s for 0) where `t` had no item, with
`tok`'s webhook registered with `t` only with a Telegram client and a nonempty token. -/
theorem create_tenant_outcomes (s : Sys) {i : Nat} {t tok : String} {n : Int} {code : Nat}
    (hi : s.procs[i]? = some (.createTenant t tok n .create)) {oks : List Bool} {s' : Sys}
    (hr : s.run (oks.map (Act.run i)) = some s')
    (hdone : s'.procs[i]? = some (.createTenant t tok n (.done code))) :
    CreateOutcome s t tok n code s'.reg s'.webhooks := by
  obtain ⟨pc, hpc, hw⟩ := Sys.createTenant_run_written oks hi ⟨rfl, rfl⟩ rfl rfl hr
  rw [hdone, Option.some_inj, Proc.createTenant.injEq] at hpc
  rw [← hpc.2.2.2] at hw
  exact hw

/-- Tenant `a` with token `tok` requested on a deployment with a Telegram client. -/
def createWithTokenRun : List Act := [.request (.createTenant "a" "tok" 0)]

theorem create_tenant_registers_webhook :
    let s := Sys.runFrom (Config.orchestrator "tenants" true) createWithTokenRun
    ∃ s', s.procs[0]? = some (.createTenant "a" "tok" 0 .create) ∧ s.run ([true, true].map (Act.run 0)) = some s' ∧
      s'.procs[0]? = some (.createTenant "a" "tok" 0 (.done 201)) ∧ CreateOutcome s "a" "tok" 0 201 s'.reg s'.webhooks := by
  intro s
  have hi : s.procs[0]? = some (.createTenant "a" "tok" 0 .create) := by decide
  obtain ⟨s', hr, hd, -⟩ := Sys.create_tenant_created hi (by decide) (by decide)
  rw [if_pos (by decide)] at hr
  change s.run ([true, true].map (Act.run 0)) = some s' at hr
  exact ⟨s', hi, hr, hd, create_tenant_outcomes s hi hr hd⟩

end Tenancy

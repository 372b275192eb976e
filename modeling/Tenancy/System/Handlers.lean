import Tenancy.System.State

/-!
The administrative handlers of `internal/api/handler.go`, one call a step.

* `CreateTenant` (`createTenantStep`): the conditional `CreateTenant` of an Idle record
  (budget 300 s in place of 0; any error answers 409), then, with a Telegram client and a
  token, `RegisterWebhook`, its error only logged.
* `DeleteTenant` (`deleteTenantStep`): `GetTenant`; `DeletePod(PodName, Namespace, 30)` only
  when the record names a pod; `DeletePVC` (the PVC, then the PV); the record's
  `DeleteTenant`; `DEL router:endpoint:<id>`; `DeleteWebhook` of the record's token. Every
  error but the read's and the record delete's is logged and the handler goes on to 204.
* `UpdateActivity`: the registry's `UpdateActivity`.
* `UpdateTenant` (PATCH): `UpdateBotToken`, `RegisterWebhook` with the new token,
  `UpdateIdleTimeout`, and a `GetTenant` for the reply; a failed write answers 404 at once.

The Telegram client is package `telegram` of the sources (after the integration test
script in `unnamed/part_007`). `Client.RegisterWebhook(token, id)` calls `setWebhook` with the
router's `/tg/<id>`, so that Telegram pushes the bot's updates to tenant `id`: the model's
`webhooks` maps `token` to `id`. `Client.DeleteWebhook(token)` calls `deleteWebhook`, which
removes the entry; it returns `nil` at once for an empty token, but the handlers call it,
and `RegisterWebhook`, only with a nonempty one.
-/

namespace Tenancy

/-- The record `CreateTenant` writes. The handler reads `time.Now()` once for `CreatedAt` and
once more for `LastActiveAt`; both are the step's one clock reading `now` here, the model's
clock moving only between calls. -/
def createdRecord (cfg : Config) (now : Int) (tenantID botToken : String) (idleTimeoutS : Int) :
    TenantRecord :=
  ⟨tenantID, statusIdle, "", "", cfg.ns, "tenants/" ++ tenantID ++ "/", botToken, now, now,
    if idleTimeoutS = 0 then 300 else idleTimeoutS⟩

namespace Sys

/-- Process `i`, a `CreateTenant` request, moves to `pc`. -/
def createTo (s : Sys) (i : Nat) (t tok : String) (n : Int) (pc : CreatePc) : Sys :=
  s.setProc i (.createTenant t tok n pc)

/-- The next call of process `i`, `CreateTenant` of `t` with token `tok` and budget `n`. -/
def createTenantStep (s : Sys) (i : Nat) (ok : Bool) (t tok : String) (n : Int) :
    CreatePc → Option Sys
  | .create =>
    if t = "" then some (s.createTo i t tok n (.done 400))
    else
      match (if ok then DynamoClient.createTenant s.reg (createdRecord s.cfg s.now t tok n) else none) with
      | some reg =>
        some ({ s with reg := reg }.createTo i t tok n
          (if s.cfg.telegram ∧ tok ≠ "" then .webhook else .done 201))
      | none => some (s.createTo i t tok n (.done 409))
  | .webhook =>
    let hooks := if ok then Function.update s.webhooks tok (some t) else s.webhooks
    some ({ s with webhooks := hooks }.createTo i t tok n (.done 201))
  | .done _ => none

/-- Process `i`, a `DeleteTenant` request, moves to `pc`. -/
def deleteTo (s : Sys) (i : Nat) (t : String) (clean : Bool) (pc : DeletePc) : Sys :=
  s.setProc i (.deleteTenant t clean pc)

/-- The next call of process `i`, `DeleteTenant` of `t`; `clean` records (ghost) whether
every cleanup call so far succeeded, the `DeleteWebhook` included. -/
def deleteTenantStep (s : Sys) (i : Nat) (ok : Bool) (t : String) (clean : Bool) :
    DeletePc → Option Sys
  | .get =>
    if ok then
      match DynamoClient.getTenant s.reg t with
      | none => some ((s.deleteTo i t clean (.done 204)).emit (.tenantDeleted i t))
      | some r => some (s.deleteTo i t clean (if r.podName ≠ "" then .deletePod r else .deletePVC r))
    else some (s.deleteTo i t clean (.done 500))
  | .deletePod r =>
    if ok then
      some ({ s with cluster := s.cluster.deletePod r.ns r.podName 30 }.deleteTo i t clean
        (.deletePVC r))
    else some (s.deleteTo i t false (.deletePVC r))
  | .deletePVC r =>
    if ok then some ({ s with cluster := s.cluster.deletePVC t r.ns }.deleteTo i t clean (.deletePV r))
    else some (s.deleteTo i t false (.deleteRecord r))
  | .deletePV r =>
    if ok then some ({ s with cluster := s.cluster.deletePV t }.deleteTo i t clean (.deleteRecord r))
    else some (s.deleteTo i t false (.deleteRecord r))
  | .deleteRecord r =>
    if ok then some ({ s with reg := DynamoClient.deleteTenant s.reg t }.deleteTo i t clean (.clearCache r))
    else some (s.deleteTo i t clean (.done 500))
  | .clearCache r =>
    if ok then some ({ s with cache := Function.update s.cache t none }.deleteTo i t clean (.deleteWebhook r))
    else some (s.deleteTo i t false (.deleteWebhook r))
  | .deleteWebhook r =>
    if s.cfg.telegram ∧ r.botToken ≠ "" then
      if ok then
        some (({ s with webhooks := Function.update s.webhooks r.botToken none }.deleteTo i t clean
          (.done 204)).emit (.tenantDeleted i t))
      else some ((s.deleteTo i t false (.done 204)).emit (.tenantDeleted i t))
    else some ((s.deleteTo i t clean (.done 204)).emit (.tenantDeleted i t))
  | .done _ => none

/-- The next call of process `i`, the activity endpoint for `t`. -/
def updateActivityStep (s : Sys) (i : Nat) (ok : Bool) (t : String) : Bool → Option Sys
  | false =>
    some ({ s with reg := if ok then DynamoClient.updateActivity s.reg s.now t else s.reg }.setProc i
      (.updateActivity t true))
  | true => none

/-- Process `i`, an `UpdateTenant` request, moves to `pc`. -/
def updateTo (s : Sys) (i : Nat) (t : String) (tok : Option String) (n : Option Int)
    (pc : UpdatePc) : Sys :=
  s.setProc i (.updateTenant t tok n pc)

/-- The next call of process `i`, `UpdateTenant` of `t` with the body's optional token and
budget. -/
def updateTenantStep (s : Sys) (i : Nat) (ok : Bool) (t : String) (tok : Option String)
    (n : Option Int) : UpdatePc → Option Sys
  | .token =>
    match tok with
    | none => some (s.updateTo i t tok n .timeout)
    | some b =>
      match (if ok then DynamoClient.updateBotToken s.reg t b else none) with
      | some reg =>
        some ({ s with reg := reg }.updateTo i t tok n
          (if s.cfg.telegram ∧ b ≠ "" then .webhook else .timeout))
      | none => some (s.updateTo i t tok n (.done 404))
  | .webhook =>
    let hooks := match tok with
      | some b => if ok then Function.update s.webhooks b (some t) else s.webhooks
      | none => s.webhooks
    some ({ s with webhooks := hooks }.updateTo i t tok n .timeout)
  | .timeout =>
    match n with
    | none => some (s.updateTo i t tok n .read)
    | some v =>
      match (if ok then DynamoClient.updateIdleTimeout s.reg t v else none) with
      | some reg => some ({ s with reg := reg }.updateTo i t tok n .read)
      | none => some (s.updateTo i t tok n (.done 404))
  | .read =>
    some (s.updateTo i t tok n
      (.done (if ok ∧ (DynamoClient.getTenant s.reg t).isSome then 200 else 404)))
  | .done _ => none

end Sys

end Tenancy

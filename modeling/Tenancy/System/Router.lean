import Tenancy.System.State

/-!
`Router.handleTelegramUpdate` and `forwardToPod` of `cmd/router` (`main.go`), one call a
step. The router acknowledged the update before this goroutine started.

* `lookup`: `GET router:endpoint:<id>`; an error or a miss calls the orchestrator's
  `/wake`, served by a new `wakeOrGet` process (`awaitWake`). The "starting up" message and
  its `getBotToken` read go to Telegram and are left out.
* `setCache`: `SET router:endpoint:<id> <ip> EX 5m` with the address `/wake` returned.
* `forward`: the POST to `http://<ip>:3000/webhook` of an update with text. It reaches
  whatever pod holds the address at that moment (`delivered`, with that pod); when no pod
  answers, the cache entry is deleted. The reply relayed to Telegram is left out.
* `updateActivity`: `PUT /tenants/<id>/activity`, the orchestrator's `UpdateActivity`.

The router never checks which pod answers at the address it forwards to.
-/

namespace Tenancy

namespace Sys

/-- Process `i`, the router goroutine for an update of `t` with text `text`, moves to `pc`. -/
def routerTo (s : Sys) (i : Nat) (t text : String) (pc : RouterPc) : Sys :=
  s.setProc i (.router t text pc)

/-- The next call of process `i`, a `handleTelegramUpdate` for tenant `t`. -/
def routerStep (s : Sys) (i : Nat) (ok : Bool) (t text : String) : RouterPc → Option Sys
  | .lookup =>
    let miss := (s.spawn (.wake t none .start)).routerTo i t text (.awaitWake s.procs.length)
    match (if ok then s.cacheGet t else none) with
    | some ip => some (if ip ≠ "" then s.routerTo i t text (.forward ip) else miss)
    | none => some miss
  | .awaitWake j =>
    match s.procs[j]? with
    | some (.wake _ _ (.done r)) =>
      match (if ok then r else none) with
      | some ip => some (s.routerTo i t text (.setCache ip))
      | none => some (s.routerTo i t text .done)
    | _ => if ok then none else some (s.routerTo i t text .done)
  | .setCache ip =>
    let cache := if ok then Function.update s.cache t (some ⟨ip, s.now + endpointCacheTTL⟩)
      else s.cache
    some ({ s with cache := cache }.routerTo i t text (.forward ip))
  | .forward ip =>
    if text = "" then some (s.routerTo i t text .updateActivity)
    else
      match (if ok then s.cluster.podAt ip else none) with
      | some p => some ((s.routerTo i t text .updateActivity).emit (.delivered t ip p))
      | none => some ({ s with cache := Function.update s.cache t none }.routerTo i t text
          .updateActivity)
  | .updateActivity =>
    let reg := if ok then DynamoClient.updateActivity s.reg s.now t else s.reg
    some ({ s with reg := reg }.routerTo i t text .done)
  | .done => none

end Sys

end Tenancy

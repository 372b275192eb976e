import Tenancy.System.Wake
import Tenancy.System.Router
import Tenancy.System.Idle
import Tenancy.System.Reconciler
import Tenancy.System.Handlers

/-!
The deployment as one transition system: any request may arrive, any process in flight may
make its next call (successfully or not), the clock may advance and the cluster may move,
in any order.

* `Sys.procStep`: the next call of a process, by kind;
* `Sys.step`: one move; `none` when it cannot happen (a finished process, a pod not yet
  ready, a cluster move whose object is missing);
* `Sys.run`, `Reachable`, `Sys.runFrom`: runs from the empty deployment;
* `Sys.runGuarded`: a run whose every move a predicate allows, so that a property of runs
  can assume what the environment does not do; `Sys.run_induct`, `Sys.runGuarded_induct`:
  what every move keeps, every run keeps.
-/

namespace Tenancy

namespace Sys

/-- The next call of process `i`, whatever it runs. -/
def procStep (s : Sys) (i : Nat) (ok : Bool) : Proc → Option Sys
  | .wake t lu pc => s.wakeStep i ok t lu pc
  | .router t text pc => s.routerStep i ok t text pc
  | .idle pc => s.idleStep i ok pc
  | .reconcile pc => s.reconcileStep i ok pc
  | .createTenant t tok n pc => s.createTenantStep i ok t tok n pc
  | .deleteTenant t clean pc => s.deleteTenantStep i ok t clean pc
  | .updateActivity t fin => s.updateActivityStep i ok t fin
  | .updateTenant t tok n pc => s.updateTenantStep i ok t tok n pc

/-- One move of the deployment. -/
def step (s : Sys) : Act → Option Sys
  | .request r => some (s.spawn r.proc)
  | .run i ok => s.procs[i]?.bind (s.procStep i ok)
  | .tick d => some { s with now := s.now + d }
  | .podReady ns name ip =>
    (s.cluster.podReady ns name ip).map fun c => { s with cluster := c }.emit (.podReady ns name ip)
  | .podGone ns name => (s.cluster.podGone ns name).map fun c => { s with cluster := c }
  | .podLost ns name => (s.cluster.podLost ns name).map fun c => { s with cluster := c }
  | .warmReplica suffix node =>
    (s.cluster.warmReplica s.cfg.ns suffix node).map fun c => { s with cluster := c }

/-- The moves `acts`, one after another. -/
def run (s : Sys) : List Act → Option Sys
  | [] => some s
  | a :: acts => (s.step a).bind (·.run acts)

/-- The moves `acts`, one after another, each allowed by `allow` in the state it is made
from; `none` as soon as one cannot happen or is not allowed. -/
def runGuarded (allow : Sys → Act → Bool) (s : Sys) : List Act → Option Sys
  | [] => some s
  | a :: acts => if allow s a then (s.step a).bind (·.runGuarded allow acts) else none

@[simp] lemma run_nil (s : Sys) : s.run [] = some s := rfl

lemma run_cons (s : Sys) (a : Act) (acts : List Act) :
    s.run (a :: acts) = (s.step a).bind (·.run acts) := rfl

lemma run_append (s : Sys) (xs ys : List Act) :
    s.run (xs ++ ys) = (s.run xs).bind (·.run ys) := by
  induction xs generalizing s with
  | nil => rfl
  | cons a xs ih => cases h : s.step a <;> simp [run_cons, h, ih]

end Sys

/-- `s` is a state the deployment reaches from its start under configuration `cfg`. -/
def Reachable (cfg : Config) (s : Sys) : Prop := ∃ acts, (Sys.init cfg).run acts = some s

lemma Reachable.init (cfg : Config) : Reachable cfg (Sys.init cfg) := ⟨[], rfl⟩

lemma Reachable.step {cfg : Config} {s s' : Sys} {a : Act} (hs : Reachable cfg s)
    (h : s.step a = some s') : Reachable cfg s' := by
  obtain ⟨acts, hr⟩ := hs
  exact ⟨acts ++ [a], by simp [Sys.run_append, hr, Sys.run_cons, h]⟩

lemma Reachable.run {cfg : Config} {s s' : Sys} {acts : List Act} (hs : Reachable cfg s)
    (h : s.run acts = some s') : Reachable cfg s' := by
  obtain ⟨xs, hr⟩ := hs
  exact ⟨xs ++ acts, by simp [Sys.run_append, hr, h]⟩

/-- Process `i` makes `n` calls in a row, each reaching its service. -/
def Act.calls (i n : Nat) : List Act := List.replicate n (.run i true)

/-- The happy path of a tenant on a deployment in namespace `ns`: `CreateTenant` of `t` as
process `i`, then a `wakeOrGet` of `t` as process `i + 1` that finds no warm pod, creates
the tenant pod, sees it Running at `ip`, commits and releases the lock. -/
def Act.createAndWake (i : Nat) (ns t ip : String) : List Act :=
  [.request (.createTenant t "" 0), .run i true, .request (.wake t)] ++ Act.calls (i + 1) 7 ++
    [.podReady ns (podName t) ip] ++ Act.calls (i + 1) 3

/-- The state a run from the empty deployment ends in (the empty deployment if a move of it
cannot happen). -/
def Sys.runFrom (cfg : Config) (acts : List Act) : Sys :=
  ((Sys.init cfg).run acts).getD (Sys.init cfg)

lemma Reachable.runFrom {cfg : Config} {acts : List Act}
    (h : ((Sys.init cfg).run acts).isSome = true) : Reachable cfg (Sys.runFrom cfg acts) := by
  obtain ⟨s, hs⟩ := Option.isSome_iff_exists.1 h
  exact ⟨acts, by rw [Sys.runFrom, hs]; rfl⟩

/-- A property every move keeps holds all along a run. -/
lemma Sys.run_induct (P : Sys → Prop) (hP : ∀ s a s', P s → s.step a = some s' → P s')
    {s s' : Sys} {acts : List Act} (hs : P s) (h : s.run acts = some s') : P s' := by
  induction acts generalizing s with
  | nil => cases h; exact hs
  | cons a acts ih =>
    rw [Sys.run_cons, Option.bind_eq_some] at h
    obtain ⟨s₁, h₁, h₂⟩ := h
    exact ih (hP s a s₁ hs h₁) h₂

/-- A guarded run is a run. -/
lemma Sys.runGuarded_run {allow : Sys → Act → Bool} {s s' : Sys} {acts : List Act}
    (h : s.runGuarded allow acts = some s') : s.run acts = some s' := by
  induction acts generalizing s with
  | nil => exact h
  | cons a acts ih =>
    simp only [Sys.runGuarded] at h
    split_ifs at h
    obtain ⟨s₁, h₁, h₂⟩ := Option.bind_eq_some.1 h
    simp only [Sys.run_cons, h₁, Option.some_bind]
    exact ih h₂

/-- A property every allowed move keeps holds all along a guarded run. -/
lemma Sys.runGuarded_induct {allow : Sys → Act → Bool} (P : Sys → Prop)
    (hP : ∀ s a s', P s → allow s a = true → s.step a = some s' → P s')
    {s s' : Sys} {acts : List Act} (hs : P s) (h : s.runGuarded allow acts = some s') : P s' := by
  induction acts generalizing s with
  | nil => cases h; exact hs
  | cons a acts ih =>
    simp only [Sys.runGuarded] at h
    split_ifs at h with ha
    obtain ⟨s₁, h₁, h₂⟩ := Option.bind_eq_some.1 h
    exact ih (hP s a s₁ hs ha h₁) h₂

/-- A guarded run from a state reached from the start ends where the whole run does. -/
lemma Sys.runGuarded_runFrom {cfg : Config} {allow : Sys → Act → Bool} {pre acts : List Act}
    (hpre : ((Sys.init cfg).run pre).isSome = true)
    (h : ((Sys.runFrom cfg pre).runGuarded allow acts).isSome = true) :
    (Sys.runFrom cfg pre).runGuarded allow acts = some (Sys.runFrom cfg (pre ++ acts)) := by
  obtain ⟨s₀, h₀⟩ := Option.isSome_iff_exists.1 hpre
  obtain ⟨s', hs'⟩ := Option.isSome_iff_exists.1 h
  have hr : Sys.runFrom cfg pre = s₀ := by rw [Sys.runFrom, h₀]; rfl
  rw [hr] at hs' ⊢
  rw [hs', Sys.runFrom, Sys.run_append, h₀, Option.some_bind, Sys.runGuarded_run hs']
  rfl

end Tenancy

import Tenancy.Invariant.Basic

/-!
What the processes in flight remember, and the invariant of the whole deployment.

* `WakePc.Wf`, `RouterPc.Wf`, `IdlePc.Wf`, `DeletePc.Wf`: a process's locals are well
  formed: a `wakeOrGet` works in the handler's namespace, waits on and commits its tenant's
  pod, and returns only an address the kubelet gave that pod; a router forwards only such
  an address; an idle pass demotes only Running records past their budget; a
  `DeleteTenant` works on its tenant's record;
* `Proc.Waits`: a router waiting on `/wake` waits on a `wakeOrGet` of its own tenant;
* `SeenReady`, `LogSound`: every logged delivery went to a well-formed pod at an address of
  the tenant's, every logged commit was of the address `WaitPodReady` saw the tenant's own
  pod Running at, and every logged idle eviction was of a Running record past its budget;
* `Sys.Inv`: all of the above, with `RegWf`, `PodsOK` and the address cache;
* `Sys.Inv.emit`, `Sys.Inv.setProc`, `Sys.Inv.spawn`, ...: what each kind of update of the
  state needs to keep it.
-/

namespace Tenancy

/-- `WaitPodReady` read `seen`: a pod named after `t`, `t`'s own, Running at `ip`. -/
def SeenReady (log : List Event) (t : String) (seen : Pod) (ip : String) : Prop :=
  seen.name = podName t ∧ seen.phase = .running ∧ seen.podIP = ip ∧ ip ≠ "" ∧ PodOK log seen

/-- The locals of a `wakeOrGet` call of tenant `t`. -/
def WakePc.Wf (cfg : Config) (log : List Event) (t : String) : WakePc → Prop
  | .acquire r => ∀ r', r = some r' → r'.Wf cfg log
  | .createPV _ ns | .createPVC _ ns | .listWarm _ ns | .createPod _ ns _ | .getPod ns => ns = cfg.ns
  | .claimWarm _ ns cands => ns = cfg.ns ∧ ∀ p ∈ cands, PodOK log p ∧ p.app = "warm-pool"
  | .deleteWarm _ ns w => ns = cfg.ns ∧ PodOK log w ∧ w.app = "warm-pool"
  | .waitReady ns pod => ns = cfg.ns ∧ pod.name = podName t
  | .commit pod seen ip => pod.name = podName t ∧ ReadyAddr log t ip ∧ SeenReady log t seen ip
  | .release r | .done r => ∀ ip, r = some ip → ReadyAddr log t ip
  | .start | .poll | .autoCreate => True

/-- The locals of a router goroutine for tenant `t`. -/
def RouterPc.Wf (log : List Event) (t : String) : RouterPc → Prop
  | .setCache ip | .forward ip => ReadyAddr log t ip
  | .lookup | .awaitWake _ | .updateActivity | .done => True

/-- A scanned record an idle pass may still act on. -/
def IdleCandidate (cfg : Config) (log : List Event) (r : TenantRecord) : Prop :=
  r.Wf cfg log ∧ r.status = statusRunning

/-- The locals of a `checkIdleTenants` pass at clock `now`. -/
def IdlePc.Wf (cfg : Config) (log : List Event) (now : Int) : IdlePc → Prop
  | .check ts => ∀ r ∈ ts, IdleCandidate cfg log r
  | .demote t ts => (IdleCandidate cfg log t ∧ idleThreshold t.idleTimeoutS ≤ now - t.lastActiveAt) ∧
      ∀ r ∈ ts, IdleCandidate cfg log r
  | .scan | .done => True

/-- The locals of a `DeleteTenant` of tenant `t`. -/
def DeletePc.Wf (cfg : Config) (log : List Event) (t : String) : DeletePc → Prop
  | .deletePod r | .deletePVC r | .deletePV r | .deleteRecord r | .clearCache r
  | .deleteWebhook r => r.tenantID = t ∧ r.Wf cfg log
  | .get | .done _ => True

/-- The locals of a process in flight. -/
def Proc.Wf (cfg : Config) (log : List Event) (now : Int) : Proc → Prop
  | .wake t _ pc => WakePc.Wf cfg log t pc
  | .router t _ pc => RouterPc.Wf log t pc
  | .idle pc => IdlePc.Wf cfg log now pc
  | .deleteTenant t _ pc => DeletePc.Wf cfg log t pc
  | .reconcile _ | .createTenant .. | .updateActivity .. | .updateTenant .. => True

/-- The tenant of a `wakeOrGet` call. -/
def Proc.wakeOf : Proc → Option String
  | .wake t _ _ => some t
  | _ => none

/-- A router waiting on `/wake` waits on a `wakeOrGet` of its own tenant. -/
def Proc.Waits (procs : List Proc) : Proc → Prop
  | .router t _ (.awaitWake j) => ∃ lu pc, procs[j]? = some (.wake t lu pc)
  | _ => True

/-- What a logged event says about the events before it. -/
def Event.Sound (old : List Event) : Event → Prop
  | .delivered t a holder => ReadyAddr old t a ∧ PodOK old holder ∧ holder.podIP = a ∧ a ≠ ""
  | .committed _ t ip seen => SeenReady old t seen ip
  | .idleDeletedPod t snap _ now | .idleDemoted t snap _ now =>
      snap.tenantID = t ∧ snap.status = statusRunning ∧
        idleThreshold snap.idleTimeoutS ≤ now - snap.lastActiveAt
  | _ => True

/-- Every event of the log is sound with respect to the events before it. -/
def LogSound : List Event → Prop
  | [] => True
  | e :: old => e.Sound old ∧ LogSound old

/-! ### Monotonicity in the log and the clock -/

section Mono

variable {cfg : Config} {log log' : List Event} {now now' : Int}

lemma SeenReady.mono {t ip : String} {seen : Pod} (h : SeenReady log t seen ip) (hl : log ⊆ log') :
    SeenReady log' t seen ip :=
  ⟨h.1, h.2.1, h.2.2.1, h.2.2.2.1, h.2.2.2.2.mono hl⟩

lemma WakePc.Wf.mono {t : String} {pc : WakePc} (h : pc.Wf cfg log t) (hl : log ⊆ log') :
    pc.Wf cfg log' t := by
  cases pc <;> simp only [WakePc.Wf] at h ⊢
  case acquire => exact fun r hr => (h r hr).mono hl
  case claimWarm => exact ⟨h.1, fun p hp => ⟨(h.2 p hp).1.mono hl, (h.2 p hp).2⟩⟩
  case deleteWarm => exact ⟨h.1, h.2.1.mono hl, h.2.2⟩
  case commit => exact ⟨h.1, h.2.1.mono hl, h.2.2.mono hl⟩
  case release => exact fun ip hip => (h ip hip).mono hl
  case done => exact fun ip hip => (h ip hip).mono hl
  all_goals exact h

lemma IdleCandidate.mono {r : TenantRecord} (h : IdleCandidate cfg log r) (hl : log ⊆ log') :
    IdleCandidate cfg log' r :=
  ⟨h.1.mono hl, h.2⟩

lemma Proc.Wf.mono {p : Proc} (h : p.Wf cfg log now) (hl : log ⊆ log') (hn : now ≤ now') :
    p.Wf cfg log' now' := by
  cases p with
  | wake t lu pc => exact WakePc.Wf.mono h hl
  | router t text pc => cases pc <;> simp only [Proc.Wf, RouterPc.Wf] at h ⊢ <;> exact h.mono hl
  | idle pc =>
    cases pc <;> simp only [Proc.Wf, IdlePc.Wf] at h ⊢
    · exact fun r hr => (h r hr).mono hl
    · exact ⟨⟨h.1.1.mono hl, by omega⟩, fun r hr => (h.2 r hr).mono hl⟩
  | deleteTenant t clean pc =>
    cases pc <;> simp only [Proc.Wf, DeletePc.Wf] at h ⊢ <;> exact ⟨h.1, h.2.mono hl⟩
  | _ => trivial

lemma LogSound.cons {e : Event} (h : LogSound log) (he : e.Sound log) : LogSound (e :: log) :=
  ⟨he, h⟩

/-- A sound log's event is sound with respect to a part of the log. -/
lemma LogSound.of_mem (h : LogSound log) {e : Event} (he : e ∈ log) :
    ∃ old, old ⊆ log ∧ e.Sound old := by
  induction log with
  | nil => cases he
  | cons e' log ih =>
    rcases List.mem_cons.1 he with rfl | he
    · exact ⟨log, List.subset_cons_self _ _, h.1⟩
    · obtain ⟨old, hs, ho⟩ := ih h.2 he
      exact ⟨old, hs.trans (List.subset_cons_self _ _), ho⟩

end Mono

/-! ### The invariant -/

/-- The invariant of every reachable deployment. -/
structure Sys.Inv (s : Sys) : Prop where
  reg : RegWf s.cfg s.log s.reg
  pods : PodsOK s.log s.cluster
  cache : ∀ t e, s.cache t = some e → ReadyAddr s.log t e.ip
  procs : ∀ p ∈ s.procs, p.Wf s.cfg s.log s.now
  waits : ∀ p ∈ s.procs, p.Waits s.procs
  log : LogSound s.log

lemma Proc.Waits.set {procs : List Proc} {i : Nat} {p p' q : Proc} (hi : procs[i]? = some p)
    (hk : p'.wakeOf = p.wakeOf) (h : q.Waits procs) : q.Waits (procs.set i p') := by
  match q, h with
  | .router t _ (.awaitWake j), ⟨lu, pc, hj⟩ =>
    show ∃ lu pc, (procs.set i p')[j]? = some (.wake t lu pc)
    by_cases hij : i = j
    · subst hij
      rw [hj] at hi
      cases hi
      cases p' <;> simp only [Proc.wakeOf, Option.some.injEq, reduceCtorEq] at hk
      subst hk
      exact ⟨_, _, List.getElem?_set_self (List.getElem?_eq_some_iff.1 hj).1⟩
    · exact ⟨lu, pc, by rw [List.getElem?_set_ne hij]; exact hj⟩
  | .wake .., _ | .router _ _ .lookup, _ | .router _ _ (.setCache _), _
  | .router _ _ (.forward _), _ | .router _ _ .updateActivity, _ | .router _ _ .done, _
  | .idle _, _ | .reconcile _, _ | .createTenant .., _ | .deleteTenant .., _
  | .updateActivity .., _ | .updateTenant .., _ => trivial

lemma Proc.Waits.append {procs : List Proc} {q p : Proc} (h : q.Waits procs) :
    q.Waits (procs ++ [p]) := by
  match q, h with
  | .router t _ (.awaitWake j), ⟨lu, pc, hj⟩ =>
    exact ⟨lu, pc, by rw [List.getElem?_append_left (List.getElem?_eq_some_iff.1 hj).1, hj]⟩
  | .wake .., _ | .router _ _ .lookup, _ | .router _ _ (.setCache _), _
  | .router _ _ (.forward _), _ | .router _ _ .updateActivity, _ | .router _ _ .done, _
  | .idle _, _ | .reconcile _, _ | .createTenant .., _ | .deleteTenant .., _
  | .updateActivity .., _ | .updateTenant .., _ => trivial

namespace Sys.Inv

variable {s : Sys}

lemma emit (h : s.Inv) {e : Event} (he : e.Sound s.log) : (s.emit e).Inv where
  reg := h.reg.mono (List.subset_cons_self _ _)
  pods := h.pods.mono (List.subset_cons_self _ _)
  cache t e' he' := (h.cache t e' he').mono (List.subset_cons_self _ _)
  procs p hp := (h.procs p hp).mono (List.subset_cons_self _ _) le_rfl
  waits := h.waits
  log := h.log.cons he

lemma setProc (h : s.Inv) {i : Nat} {p p' : Proc} (hi : s.procs[i]? = some p)
    (hk : p'.wakeOf = p.wakeOf) (hw : p'.Wf s.cfg s.log s.now)
    (hv : p'.Waits (s.procs.set i p')) : (s.setProc i p').Inv where
  reg := h.reg
  pods := h.pods
  cache := h.cache
  procs q hq := by
    rcases List.mem_or_eq_of_mem_set hq with hq | rfl
    · exact h.procs q hq
    · exact hw
  waits q hq := by
    rcases List.mem_or_eq_of_mem_set hq with hq | rfl
    · exact (h.waits q hq).set hi hk
    · exact hv
  log := h.log

lemma spawn (h : s.Inv) {p : Proc} (hw : p.Wf s.cfg s.log s.now) (hv : p.Waits (s.procs ++ [p])) :
    (s.spawn p).Inv where
  reg := h.reg
  pods := h.pods
  cache := h.cache
  procs q hq := by
    rcases List.mem_append.1 hq with hq | hq
    · exact h.procs q hq
    · rw [List.mem_singleton.1 hq]; exact hw
  waits q hq := by
    rcases List.mem_append.1 hq with hq | hq
    · exact (h.waits q hq).append
    · rw [List.mem_singleton.1 hq]; exact hv
  log := h.log

lemma withReg (h : s.Inv) {reg : Table} (hr : RegWf s.cfg s.log reg) : { s with reg := reg }.Inv :=
  { h with reg := hr }

lemma withCluster (h : s.Inv) {c : Cluster} (hc : PodsOK s.log c) : { s with cluster := c }.Inv :=
  { h with pods := hc }

lemma withCache (h : s.Inv) {cache : String → Option CacheEntry}
    (hc : ∀ t e, cache t = some e → ReadyAddr s.log t e.ip) : { s with cache := cache }.Inv :=
  { h with cache := hc }

lemma withLocks (h : s.Inv) (locks : LockStore) : { s with locks := locks }.Inv :=
  { h with }

lemma withWebhooks (h : s.Inv) (hooks : String → Option String) :
    { s with webhooks := hooks }.Inv :=
  { h with }

/-- Dropping a tenant's cache entry keeps the invariant. -/
lemma dropCache (h : s.Inv) (t : String) :
    { s with cache := Function.update s.cache t none }.Inv := by
  refine h.withCache fun t' e he => ?_
  by_cases ht : t' = t
  · subst ht; simp at he
  · rw [Function.update_noteq ht] at he; exact h.cache t' e he

/-- Caching an address of the tenant's keeps the invariant. -/
lemma putCache (h : s.Inv) {t ip : String} (ha : ReadyAddr s.log t ip) (exp : Int) :
    { s with cache := Function.update s.cache t (some ⟨ip, exp⟩) }.Inv := by
  refine h.withCache fun t' e he => ?_
  by_cases ht : t' = t
  · subst ht; simp only [Function.update_same, Option.some.injEq] at he; rw [← he]; exact ha
  · rw [Function.update_noteq ht] at he; exact h.cache t' e he

lemma tick (h : s.Inv) (d : Nat) : { s with now := s.now + d }.Inv :=
  { h with procs := fun p hp => (h.procs p hp).mono (List.Subset.refl _) (by show s.now ≤ s.now + d; omega) }

lemma init (cfg : Config) : (Sys.init cfg).Inv where
  reg := RegWf.empty
  pods _ hp := by cases hp
  cache _ _ h := by cases h
  procs _ hp := by cases hp
  waits _ hp := by cases hp
  log := trivial

end Sys.Inv

end Tenancy

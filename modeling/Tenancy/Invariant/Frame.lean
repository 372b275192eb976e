import Tenancy.Invariant.Step

/-!
What one move can do to the log and to which pods exist, stated once for every kind of
process, so that the properties of whole runs need not open the step functions again.

* `Event.actor`: the process an event is logged by, if any;
* `Cluster.Has`: a pod of that namespace and name exists; `getPod_isSome_iff`;
* `Event.source`, `Proc.tag`: which kind of process logs an event, and runs what;
* `Sys.step_log`: a move logs at most one event, by the process that moved, of that
  process's kind, or by none;
* `Sys.step_has`: a move makes a pod exist only by `CreateTenantPod`, which logs
  `podCreated`, or by the warm pool's ReplicaSet, whose pods are named `warm-pool-*`;
* `Sys.step_cfg`, `Sys.step_others`, `Sys.step_self`, `Sys.step_fresh`: a move keeps the
  configuration, does not turn the clock back, leaves the other processes where they are,
  keeps the kind of the process that moved and starts only processes a request starts.
-/

namespace Tenancy

/-- The process that logs an event, if any. -/
def Event.actor : Event → Option Nat
  | .podCreated _ _ j | .claimStarted j _ | .committed j _ _ _ | .wakeReturned j _ _
  | .reconChecked j _ _ | .reconDemoted j _ _ _ | .tenantDeleted j _ => some j
  | .podReady .. | .delivered .. | .idleDeletedPod .. | .idleDemoted .. => none

/-- The kind of process (`Proc.tag`) that logs an event, if a process does. -/
def Event.source : Event → Option Nat
  | .podCreated .. | .claimStarted .. | .committed .. | .wakeReturned .. => some 0
  | .delivered .. => some 1
  | .idleDeletedPod .. | .idleDemoted .. => some 2
  | .reconChecked .. | .reconDemoted .. => some 3
  | .tenantDeleted .. => some 5
  | .podReady .. => none

/-- Which source function a process runs. -/
def Proc.tag : Proc → Nat
  | .wake .. => 0
  | .router .. => 1
  | .idle _ => 2
  | .reconcile _ => 3
  | .createTenant .. => 4
  | .deleteTenant .. => 5
  | .updateActivity .. => 6
  | .updateTenant .. => 7

/-- A pod `ns/name` exists. -/
def Cluster.Has (c : Cluster) (ns name : String) : Prop := ∃ p ∈ c.pods, p.ns = ns ∧ p.name = name

namespace Cluster

variable {c c' : Cluster} {ns name : String}

lemma getPod_isSome_iff : (c.getPod ns name).isSome ↔ c.Has ns name := by
  simp only [getPod, List.find?_isSome, Pod.is, Bool.and_eq_true, beq_iff_eq, Has]

/-- Pods only go away: every pod of `c'` has a pod of `c` of the same namespace and name. -/
def Shrinks (c c' : Cluster) : Prop := ∀ ns name, c'.Has ns name → c.Has ns name

lemma Shrinks.of_pods_eq (h : c'.pods = c.pods) : Shrinks c c' :=
  fun _ _ ⟨q, hq, hn⟩ => ⟨q, h ▸ hq, hn⟩

lemma Shrinks.modifyPod {f : Pod → Pod} (hf : ∀ p, p.is ns name → (f p).ns = p.ns ∧ (f p).name = p.name) :
    Shrinks c (c.modifyPod ns name f) := by
  rintro ns' name' ⟨q, hq, rfl, rfl⟩
  simp only [Cluster.modifyPod, List.mem_map] at hq
  obtain ⟨p, hp, rfl⟩ := hq
  split_ifs with hi
  · exact ⟨p, hp, (hf p hi).1.symm, (hf p hi).2.symm⟩
  · exact ⟨p, hp, rfl, rfl⟩

lemma Shrinks.erasePod : Shrinks c (c.erasePod ns name) :=
  fun _ _ ⟨q, hq, h⟩ => ⟨q, (List.mem_filter.1 hq).1, h⟩

lemma Shrinks.deletePod (grace : Nat) : Shrinks c (c.deletePod ns name grace) := by
  unfold Cluster.deletePod
  split_ifs
  · exact .erasePod
  · exact .modifyPod fun _ _ => ⟨rfl, rfl⟩

lemma Shrinks.claimWarmPod {p p' : Pod} (h : c.claimWarmPod p = some (p', c')) : Shrinks c c' := by
  unfold Cluster.claimWarmPod at h
  split at h
  · rename_i cur hcur
    split_ifs at h
    cases h
    refine .modifyPod fun q hq => ?_
    simp only [Pod.is, Bool.and_eq_true, beq_iff_eq] at hq
    exact ⟨hq.1.symm, hq.2.symm⟩
  · cases h

lemma Shrinks.podReady {ip : String} (h : c.podReady ns name ip = some c') : Shrinks c c' := by
  unfold Cluster.podReady at h
  split at h
  · split_ifs at h
    cases h
    exact .modifyPod fun _ _ => ⟨rfl, rfl⟩
  · cases h

lemma Shrinks.podGone (h : c.podGone ns name = some c') : Shrinks c c' := by
  unfold Cluster.podGone at h
  split at h
  · split_ifs at h
    cases h
    exact .erasePod
  · cases h

lemma Shrinks.podLost (h : c.podLost ns name = some c') : Shrinks c c' := by
  obtain ⟨_, _, rfl⟩ := Option.map_eq_some'.1 h
  exact .erasePod

lemma has_of_createPod {p : Pod} (h : c.createPod p = some c') {ns' name' : String}
    (hc : c'.Has ns' name') : c.Has ns' name' ∨ (ns' = p.ns ∧ name' = p.name) := by
  unfold Cluster.createPod at h
  split_ifs at h
  cases h
  obtain ⟨q, hq, rfl, rfl⟩ := hc
  rcases List.mem_cons.1 hq with rfl | hq
  · exact .inr ⟨rfl, rfl⟩
  · exact .inl ⟨q, hq, rfl, rfl⟩

lemma has_of_warmReplica {suffix node : String} (h : c.warmReplica ns suffix node = some c')
    {ns' name' : String} (hc : c'.Has ns' name') :
    c.Has ns' name' ∨ name' = warmPoolPrefix ++ suffix := by
  dsimp only [Cluster.warmReplica] at h
  split_ifs at h
  cases h
  obtain ⟨q, hq, rfl, rfl⟩ := hc
  rcases List.mem_cons.1 hq with rfl | hq
  · exact .inr rfl
  · exact .inl ⟨q, hq, rfl, rfl⟩

end Cluster

namespace Sys

variable {s s' : Sys} {i : Nat} {ok : Bool}

/-- What a call of process `i`, running `p`, may log: one event at most, its own or no
process's, of the kind `p` logs. -/
def LogMove (i : Nat) (p : Proc) (s s' : Sys) : Prop :=
  s'.log = s.log ∨
    ∃ e, s'.log = e :: s.log ∧ (e.actor = none ∨ e.actor = some i) ∧ e.source = some p.tag

/-- What a call of a process `i` of tenant `t` may do to which pods exist. -/
def PodsMove (i : Nat) (t : Option String) (s s' : Sys) : Prop :=
  Cluster.Shrinks s.cluster s'.cluster ∨
    ∃ tn ns, t = some tn ∧ s'.log = .podCreated ns (podName tn) i :: s.log ∧
      ∀ ns' name', s'.cluster.Has ns' name' → s.cluster.Has ns' name' ∨ (ns' = ns ∧ name' = podName tn)

/-- A call of process `i`, running `p`, leaves every other process where it was, process
`i` runs the same source function, and a process it starts is one a request starts. -/
def ProcsMove (i : Nat) (p : Proc) (s s' : Sys) : Prop :=
  (∀ k, k ≠ i → k < s.procs.length → s'.procs[k]? = s.procs[k]?) ∧
    (∀ q, s'.procs[i]? = some q → q.tag = p.tag) ∧
    ∀ k, s.procs.length ≤ k → ∀ q, s'.procs[k]? = some q → ∃ r : Request, q = r.proc

/-- What a call of process `i`, running `p`, may do: it keeps the configuration and the
clock, and moves the log, the pods and the processes as above. -/
def CallMove (i : Nat) (p : Proc) (s s' : Sys) : Prop :=
  (s'.cfg, s'.now) = (s.cfg, s.now) ∧ LogMove i p s s' ∧ PodsMove i p.wakeOf s s' ∧ ProcsMove i p s s'

lemma LogMove.refl {p : Proc} : LogMove i p s s := .inl rfl

lemma ProcsMove.set {p p' : Proc} (h : s'.procs = s.procs.set i p') (ht : p'.tag = p.tag) :
    ProcsMove i p s s' := by
  refine ⟨fun k hk _ => by rw [h, List.getElem?_set_ne (Ne.symm hk)], fun q hq => ?_,
    fun k hk q hq => ?_⟩
  · rw [h, List.getElem?_set, if_pos rfl] at hq
    split_ifs at hq
    cases hq
    exact ht
  · rw [h, List.getElem?_set] at hq
    split_ifs at hq with h₁ h₂
    · omega
    · rw [List.getElem?_eq_none hk] at hq; cases hq

lemma ProcsMove.refl {p : Proc} (hi : s.procs[i]? = some p) : ProcsMove i p s s :=
  ⟨fun _ _ _ => rfl, fun q hq => by rw [hi] at hq; cases hq; rfl,
    fun _ hk _ hq => by simp [List.getElem?_eq_none hk] at hq⟩

lemma ProcsMove.spawn_set {p p' : Proc} {r : Request} (hi : i < s.procs.length)
    (h : s'.procs = (s.procs ++ [r.proc]).set i p') (ht : p'.tag = p.tag) : ProcsMove i p s s' := by
  refine ⟨fun k hk hl => by rw [h, List.getElem?_set_ne (Ne.symm hk), List.getElem?_append_left hl],
    fun q' hq => ?_, fun k hk q' hq => ?_⟩
  · rw [h, List.getElem?_set, if_pos rfl] at hq
    split_ifs at hq
    cases hq
    exact ht
  · rw [h, List.getElem?_set_ne (by omega), List.getElem?_append_right hk] at hq
    rcases Nat.lt_or_ge (k - s.procs.length) 1 with h₁ | h₁
    · rw [show k - s.procs.length = 0 by omega] at hq
      cases hq
      exact ⟨r, rfl⟩
    · simp [List.getElem?_eq_none (show [r.proc].length ≤ k - s.procs.length by simpa using h₁)] at hq

/-- A call that keeps the log and the pods. -/
lemma CallMove.quiet {p p' : Proc} (hl : s'.log = s.log) (hc : s'.cluster.pods = s.cluster.pods)
    (hp : s'.procs = s.procs.set i p') (ht : p'.tag = p.tag) (hn : (s'.cfg, s'.now) = (s.cfg, s.now)) :
    CallMove i p s s' :=
  ⟨hn, .inl hl, .inl (.of_pods_eq hc), .set hp ht⟩

/-- A call that logs one event of its own, or of no process, and keeps the pods. -/
lemma CallMove.logs {p p' : Proc} {e : Event} (hl : s'.log = e :: s.log)
    (he : e.actor = none ∨ e.actor = some i) (hr : e.source = some p.tag)
    (hc : s'.cluster.pods = s.cluster.pods)
    (hp : s'.procs = s.procs.set i p') (ht : p'.tag = p.tag) (hn : (s'.cfg, s'.now) = (s.cfg, s.now)) :
    CallMove i p s s' :=
  ⟨hn, .inr ⟨e, hl, he, hr⟩, .inl (.of_pods_eq hc), .set hp ht⟩

/-- A call that removes or rewrites pods, logging nothing. -/
lemma CallMove.shrinks {p p' : Proc} (hl : s'.log = s.log)
    (hc : Cluster.Shrinks s.cluster s'.cluster) (hp : s'.procs = s.procs.set i p')
    (ht : p'.tag = p.tag) (hn : (s'.cfg, s'.now) = (s.cfg, s.now)) : CallMove i p s s' :=
  ⟨hn, .inl hl, .inl hc, .set hp ht⟩

lemma wakeStep_move {t : String} {lu : Option Int} {pc : WakePc}
    (hi : s.procs[i]? = some (.wake t lu pc)) (hs : s.wakeStep i ok t lu pc = some s') :
    CallMove i (.wake t lu pc) s s' := by
  cases pc <;> simp only [wakeStep] at hs
  case claimWarm r ns cands =>
    split at hs
    · cases hs; exact .quiet rfl rfl rfl rfl rfl
    · split at hs
      · rename_i c hc
        cases hs
        exact .shrinks rfl (.claimWarmPod (call_eq_some hc).2) rfl rfl rfl
      · cases hs; exact .quiet rfl rfl rfl rfl rfl
  case createPod r ns node =>
    split at hs
    · split at hs
      · rename_i c hc
        cases hs
        exact ⟨rfl, .inr ⟨_, rfl, .inr rfl, rfl⟩,
          .inr ⟨t, ns, rfl, rfl, fun _ _ h => Cluster.has_of_createPod hc h⟩,
          .set rfl rfl⟩
      · cases hs; exact .quiet rfl rfl rfl rfl rfl
    · cases hs; exact .quiet rfl rfl rfl rfl rfl
  case waitReady ns pod =>
    split at hs
    · obtain ⟨p, -, rfl⟩ := Option.map_eq_some'.1 hs
      exact .quiet rfl rfl rfl rfl rfl
    · cases hs; exact .quiet rfl rfl rfl rfl rfl
  case deleteWarm r ns warm =>
    cases hs
    refine .shrinks rfl ?_ rfl rfl rfl
    split
    · exact .deletePod 0
    · exact .of_pods_eq rfl
  case poll =>
    split at hs
    · split at hs
      · split at hs
        · cases hs; exact .logs rfl (.inr rfl) rfl rfl rfl rfl rfl
        · cases hs; exact ⟨rfl, .refl, .inl (.of_pods_eq rfl), .refl hi⟩
      · cases hs; exact ⟨rfl, .refl, .inl (.of_pods_eq rfl), .refl hi⟩
    · cases hs; exact .quiet rfl rfl rfl rfl rfl
  all_goals
    (repeat' split at hs) <;> (try cases hs) <;>
      first
      | exact .quiet rfl rfl rfl rfl rfl
      | exact .quiet rfl (Cluster.createPV_pods _) rfl rfl rfl
      | exact .quiet rfl (Cluster.createPVC_pods _) rfl rfl rfl
      | exact .logs rfl (.inr rfl) rfl rfl rfl rfl rfl

lemma routerStep_move {t text : String} {pc : RouterPc} (hi : i < s.procs.length)
    (hs : s.routerStep i ok t text pc = some s') : CallMove i (.router t text pc) s s' := by
  cases pc <;> simp only [routerStep] at hs
  case lookup =>
    have hm : CallMove i (.router t text .lookup) s ((s.spawn (.wake t none .start)).routerTo i t text
        (.awaitWake s.procs.length)) :=
      ⟨rfl, .refl, .inl (.of_pods_eq rfl), .spawn_set (r := .wake t) hi rfl rfl⟩
    split at hs <;> cases hs
    · split_ifs
      · exact .quiet rfl rfl rfl rfl rfl
      · exact hm
    · exact hm
  all_goals
    (repeat' split at hs) <;> (try cases hs) <;>
      first
      | exact .quiet rfl rfl rfl rfl rfl
      | exact .logs rfl (.inl rfl) rfl rfl rfl rfl rfl

lemma idleStep_move {pc : IdlePc} (hs : s.idleStep i ok pc = some s') :
    CallMove i (.idle pc) s s' := by
  cases pc <;> simp only [idleStep] at hs
  case check ts =>
    cases ts with
    | nil => cases hs; exact .quiet rfl rfl rfl rfl rfl
    | cons t ts =>
      simp only at hs
      split at hs
      · cases hs; exact .quiet rfl rfl rfl rfl rfl
      · split at hs <;> cases hs
        · exact ⟨rfl, .inr ⟨_, rfl, .inl rfl, rfl⟩, .inl (.deletePod 30), .set rfl rfl⟩
        · exact .logs rfl (.inl rfl) rfl rfl rfl rfl rfl
  all_goals
    (repeat' split at hs) <;> (try cases hs) <;>
      first
      | exact .quiet rfl rfl rfl rfl rfl
      | exact .logs rfl (.inl rfl) rfl rfl rfl rfl rfl

lemma reconcileStep_move {pc : ReconPc} (hs : s.reconcileStep i ok pc = some s') :
    CallMove i (.reconcile pc) s s' := by
  cases pc <;> simp only [reconcileStep] at hs
  case check ts =>
    cases ts with
    | nil => cases hs; exact .quiet rfl rfl rfl rfl rfl
    | cons t ts =>
      simp only at hs
      split at hs <;> cases hs
      · exact .logs rfl (.inr rfl) rfl rfl rfl rfl rfl
      · exact .quiet rfl rfl rfl rfl rfl
  all_goals
    (repeat' split at hs) <;> (try cases hs) <;>
      first
      | exact .quiet rfl rfl rfl rfl rfl
      | exact .logs rfl (.inr rfl) rfl rfl rfl rfl rfl

lemma deleteTenantStep_move {t : String} {clean : Bool} {pc : DeletePc}
    (hs : s.deleteTenantStep i ok t clean pc = some s') : CallMove i (.deleteTenant t clean pc) s s' := by
  cases pc <;> simp only [deleteTenantStep] at hs
  case deletePod r =>
    split at hs <;> cases hs
    · exact .shrinks rfl (.deletePod 30) rfl rfl rfl
    · exact .quiet rfl rfl rfl rfl rfl
  all_goals
    (repeat' split at hs) <;> (try cases hs) <;>
      first
      | exact .quiet rfl rfl rfl rfl rfl
      | exact .quiet rfl (Cluster.deletePVC_pods _) rfl rfl rfl
      | exact .quiet rfl (Cluster.deletePV_pods _) rfl rfl rfl
      | exact .logs rfl (.inr rfl) rfl rfl rfl rfl rfl

lemma procStep_move {p : Proc} (hi : s.procs[i]? = some p) (hs : s.procStep i ok p = some s') :
    CallMove i p s s' := by
  cases p with
  | wake => exact wakeStep_move hi hs
  | router => exact routerStep_move (List.getElem?_eq_some_iff.1 hi).1 hs
  | idle => exact idleStep_move hs
  | reconcile => exact reconcileStep_move hs
  | deleteTenant => exact deleteTenantStep_move hs
  | createTenant t tok n pc =>
    cases pc <;> simp only [procStep, createTenantStep] at hs <;> (repeat' split at hs) <;>
      (try cases hs) <;> exact .quiet rfl rfl rfl rfl rfl
  | updateActivity t fin =>
    cases fin
    · simp only [procStep, updateActivityStep] at hs; cases hs; exact .quiet rfl rfl rfl rfl rfl
    · simp [procStep, updateActivityStep] at hs
  | updateTenant t tok n pc =>
    cases pc <;> simp only [procStep, updateTenantStep] at hs <;> (repeat' split at hs) <;>
      (try cases hs) <;> exact .quiet rfl rfl rfl rfl rfl

/-! ### Any move -/

variable {a : Act}

lemma step_cfg (hs : s.step a = some s') : s'.cfg = s.cfg ∧ s.now ≤ s'.now := by
  cases a with
  | run i ok =>
    obtain ⟨p, hi, hp⟩ := Option.bind_eq_some.1 hs
    have h := (procStep_move hi hp).1
    simp only [Prod.mk.injEq] at h
    exact ⟨h.1, h.2.ge⟩
  | request r => cases hs; exact ⟨rfl, le_rfl⟩
  | tick d => cases hs; exact ⟨rfl, by show s.now ≤ s.now + d; omega⟩
  | podReady | podGone | podLost | warmReplica =>
    obtain ⟨c, -, rfl⟩ := Option.map_eq_some'.1 hs
    exact ⟨rfl, le_rfl⟩

/-- A move logs at most one event: by no process, or by the process that moved, which is
of the kind that logs it. -/
lemma step_log (hs : s.step a = some s') :
    s'.log = s.log ∨ ∃ e, s'.log = e :: s.log ∧ ∀ k, e.actor = some k →
      ∃ ok p, a = .run k ok ∧ s.procs[k]? = some p ∧ e.source = some p.tag := by
  cases a with
  | run i ok =>
    obtain ⟨p, hi, hp⟩ := Option.bind_eq_some.1 hs
    rcases (procStep_move hi hp).2.1 with h | ⟨e, he, ha, hr⟩
    · exact .inl h
    · refine .inr ⟨e, he, fun k hk => ?_⟩
      have hki : k = i := by rcases ha with ha | ha <;> rw [ha] at hk <;> cases hk; rfl
      subst hki
      exact ⟨ok, p, rfl, hi, hr⟩
  | podReady ns name ip =>
    obtain ⟨c, -, rfl⟩ := Option.map_eq_some'.1 hs
    exact .inr ⟨_, rfl, fun k hk => by cases hk⟩
  | request r => cases hs; exact .inl rfl
  | tick d => cases hs; exact .inl rfl
  | podGone | podLost | warmReplica =>
    obtain ⟨c, -, rfl⟩ := Option.map_eq_some'.1 hs
    exact .inl rfl

/-- A pod comes to exist only by `CreateTenantPod`, logged, or as a warm-pool replica. -/
lemma step_has (hs : s.step a = some s') {ns name : String} (hc : s'.cluster.Has ns name) :
    s.cluster.Has ns name ∨ (∃ j, s'.log = .podCreated ns name j :: s.log) ∨
      ∃ suffix, name = warmPoolPrefix ++ suffix := by
  cases a with
  | run i ok =>
    obtain ⟨p, hi, hp⟩ := Option.bind_eq_some.1 hs
    rcases (procStep_move hi hp).2.2.1 with h | ⟨t, ns', -, hl, hn⟩
    · exact .inl (h ns name hc)
    · rcases hn ns name hc with h | ⟨rfl, rfl⟩
      · exact .inl h
      · exact .inr (.inl ⟨i, hl⟩)
  | request r => cases hs; exact .inl hc
  | tick d => cases hs; exact .inl hc
  | podReady ns' name' ip =>
    obtain ⟨c, h, rfl⟩ := Option.map_eq_some'.1 hs
    exact .inl (Cluster.Shrinks.podReady h ns name hc)
  | podGone ns' name' =>
    obtain ⟨c, h, rfl⟩ := Option.map_eq_some'.1 hs
    exact .inl (Cluster.Shrinks.podGone h ns name hc)
  | podLost ns' name' =>
    obtain ⟨c, h, rfl⟩ := Option.map_eq_some'.1 hs
    exact .inl (Cluster.Shrinks.podLost h ns name hc)
  | warmReplica suffix node =>
    obtain ⟨c, h, rfl⟩ := Option.map_eq_some'.1 hs
    rcases Cluster.has_of_warmReplica h hc with h | h
    · exact .inl h
    · exact .inr (.inr ⟨suffix, h⟩)

/-- A move leaves every process that does not move where it was. -/
lemma step_others (hs : s.step a = some s') {k : Nat} (hk : ∀ ok, a ≠ .run k ok)
    (hl : k < s.procs.length) : s'.procs[k]? = s.procs[k]? := by
  cases a with
  | run i ok =>
    obtain ⟨p, hi, hp⟩ := Option.bind_eq_some.1 hs
    exact (procStep_move hi hp).2.2.2.1 k (fun h => hk ok (h ▸ rfl)) hl
  | request r => cases hs; exact List.getElem?_append_left hl
  | tick d => cases hs; rfl
  | podReady | podGone | podLost | warmReplica =>
    obtain ⟨c, -, rfl⟩ := Option.map_eq_some'.1 hs
    rfl

/-- A process that moves keeps running the same source function. -/
lemma step_self {k : Nat} {ok : Bool} (hs : s.step (.run k ok) = some s') {q : Proc}
    (hq : s'.procs[k]? = some q) : ∃ p, s.procs[k]? = some p ∧ q.tag = p.tag := by
  obtain ⟨p, hi, hp⟩ := Option.bind_eq_some.1 hs
  exact ⟨p, hi, (procStep_move hi hp).2.2.2.2.1 q hq⟩

/-- A process a move starts is one a request starts. -/
lemma step_fresh (hs : s.step a = some s') {k : Nat} (hk : s.procs.length ≤ k) {q : Proc}
    (hq : s'.procs[k]? = some q) : ∃ r : Request, q = r.proc := by
  cases a with
  | run i ok =>
    obtain ⟨p, hi, hp⟩ := Option.bind_eq_some.1 hs
    exact (procStep_move hi hp).2.2.2.2.2 k hk q hq
  | request r =>
    cases hs
    rw [Sys.spawn, List.getElem?_append_right hk] at hq
    rcases Nat.lt_or_ge (k - s.procs.length) 1 with h₁ | h₁
    · rw [show k - s.procs.length = 0 by omega] at hq
      cases hq
      exact ⟨r, rfl⟩
    · simp [List.getElem?_eq_none (show [r.proc].length ≤ k - s.procs.length by simpa using h₁)] at hq
  | tick d => cases hs; simp [List.getElem?_eq_none hk] at hq
  | podReady | podGone | podLost | warmReplica =>
    obtain ⟨c, -, rfl⟩ := Option.map_eq_some'.1 hs
    simp [List.getElem?_eq_none hk] at hq

end Sys

/-- A reachable deployment keeps the configuration it started with. -/
lemma Reachable.cfg_eq {cfg : Config} {s : Sys} (hs : Reachable cfg s) : s.cfg = cfg :=
  let ⟨_, hr⟩ := hs
  Sys.run_induct (fun s => s.cfg = cfg) (fun _ _ _ h hs => (Sys.step_cfg hs).1.trans h) rfl hr

end Tenancy

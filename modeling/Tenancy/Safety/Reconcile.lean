import Tenancy.Invariant.Frame

/-!
When the reconciler demotes (`Reconciler.reconcile`), against wakes that commit and other
replicas' passes that demote too. A pass checks `PodExists` once per record and writes
`UpdateStatus(Idle)` later, without looking again.

* `reconciler_demotes_live_tenant`: a run in which a pass finds `a`'s pod gone, another
  pass demotes `a`, a wake creates and commits a new pod, and the first pass then writes
  `a` Idle: the record is Running, the pod exists, and afterwards the pod runs with an
  Idle record.
* `recon_demotion_follows_check`: **a pass demotes a tenant only after its own check of
  that tenant found no pod, with no other call of the pass between the check and the
  write; if the tenant's pod exists at the write, a `CreateTenantPod` of it lies between
  the two.**
-/

namespace Tenancy

/-- Every demotion of a Running record is made when its pod does not exist (the
reconciler's row of `docs/cli-migration.md`: running → idle if the pod doesn't exist). -/
def DemotesOnlyDeadPods (log : List Event) : Prop :=
  ∀ i T cur found, Event.reconDemoted i T cur found ∈ log →
    ∀ r, cur = some r → r.status = statusRunning → found = false

/-- Tenant `a` woken; its node fails; one pass finds no pod and pauses; a second pass
demotes `a`; a wake creates a new pod and commits; the first pass writes `a` Idle. -/
def reconRaceRun : List Act :=
  Act.createAndWake 0 "tenants" "a" "10.0.0.1" ++
    [.podLost "tenants" "zeroclaw-a", .request .reconcilePass, .run 2 true, .run 2 true,
     .request .reconcilePass, .run 3 true, .run 3 true, .run 3 true, .run 3 true,
     .request (.wake "a")] ++ Act.calls 4 7 ++ [.podReady "tenants" "zeroclaw-a" "10.0.0.2"] ++
    Act.calls 4 3 ++ [.run 2 true]

/-- The pass demotes a Running tenant whose new pod exists. -/
theorem reconciler_demotes_live_tenant :
    ¬ ∀ cfg s, Reachable cfg s → DemotesOnlyDeadPods s.log := by
  intro h
  have := h _ _ (Reachable.runFrom (by decide)) 2 "a"
    (some ⟨"a", statusRunning, "zeroclaw-a", "10.0.0.2", "tenants", "tenants/a/", "", 0, 0, 300⟩)
    true (show _ ∈ (Sys.runFrom (Config.orchestrator "tenants" false) reconRaceRun).log by decide)
    _ rfl rfl
  exact absurd this (by decide)

/-! ### The reconciler's own steps -/

section Steps

variable {s s' : Sys} {i : Nat} {ok : Bool} {pc : ReconPc}

/-- A pass reaches `demote` only from a check that found no pod, logged. -/
lemma reconcileStep_to_demote (hi : i < s.procs.length) (hs : s.reconcileStep i ok pc = some s')
    {t : TenantRecord} {ts : List TenantRecord}
    (hq : s'.procs[i]? = some (.reconcile (.demote t ts))) :
    s'.log = .reconChecked i t.tenantID false :: s.log ∧
      ¬ s.cluster.Has s.cfg.ns (podName t.tenantID) ∧ s'.cluster = s.cluster ∧ s'.cfg = s.cfg := by
  cases pc <;> simp only [Sys.reconcileStep] at hs
  case check ts' =>
    cases ts' with
    | nil => cases hs; simp [List.getElem?_set_self hi] at hq
    | cons t' ts' =>
      simp only at hs
      split at hs <;> cases hs
      · simp only [Sys.emit, Sys.setProc, List.getElem?_set_self hi, Option.some.injEq] at hq
        split at hq
        · cases hq
        · rename_i hf
          cases hq
          have hf' : (s.cluster.getPod s.cfg.ns (podName t.tenantID)).isSome = false := by simpa using hf
          exact ⟨by simp [hf'], fun h => hf (Cluster.getPod_isSome_iff.2 h), rfl, rfl⟩
      · simp [Sys.setProc, List.getElem?_set_self hi] at hq
  all_goals (repeat' split at hs) <;> (try cases hs) <;>
    simp [Sys.emit, Sys.setProc, List.getElem?_set_self hi] at hq

/-- Only the `demote` step logs a demotion, with the record and whether the pod exists. -/
lemma reconcileStep_demoted (hs : s.reconcileStep i ok pc = some s') {j : Nat} {T : String}
    {cur : Option TenantRecord} {found : Bool}
    (hl : s'.log = .reconDemoted j T cur found :: s.log) :
    ∃ t ts, pc = .demote t ts ∧ T = t.tenantID ∧
      (found = true ↔ s.cluster.Has s.cfg.ns (podName T)) := by
  cases pc <;> simp only [Sys.reconcileStep] at hs
  case demote t ts =>
    refine ⟨t, ts, rfl, ?_⟩
    split at hs <;> cases hs <;> simp only [Sys.emit, Sys.setProc, List.cons.injEq,
      Event.reconDemoted.injEq] at hl <;> obtain ⟨⟨-, rfl, -, rfl⟩, -⟩ := hl <;>
      exact ⟨rfl, Cluster.getPod_isSome_iff⟩
  case check ts' =>
    cases ts' with
    | nil => cases hs; exact absurd hl.symm (List.cons_ne_self _ _)
    | cons t' ts' =>
      simp only at hs
      split at hs <;> cases hs
      · simp [Sys.emit, Sys.setProc] at hl
      · exact absurd hl.symm (List.cons_ne_self _ _)
  all_goals (repeat' split at hs) <;> (try cases hs) <;> exact absurd hl.symm (List.cons_ne_self _ _)

end Steps

/-! ### The invariant -/

/-- Since process `i` logged, in `log`, that it found no pod named after `T`, it has
logged nothing else, and if `has` holds a `CreateTenantPod` of that pod lies since. -/
def CheckedSince (cfg : Config) (i : Nat) (T : String) (has : Prop) (log : List Event) : Prop :=
  ∃ mid older, log = mid ++ .reconChecked i T false :: older ∧ (∀ e ∈ mid, e.actor ≠ some i) ∧
    (has → ∃ j, Event.podCreated cfg.ns (podName T) j ∈ mid)

lemma CheckedSince.extend {cfg : Config} {i : Nat} {T : String} {has has' : Prop}
    {log log' : List Event} (h : CheckedSince cfg i T has log)
    (hl : log' = log ∨ ∃ e, log' = e :: log ∧ e.actor ≠ some i)
    (hh : has' → has ∨ ∃ j, log' = .podCreated cfg.ns (podName T) j :: log) :
    CheckedSince cfg i T has' log' := by
  obtain ⟨mid, older, rfl, ha, hp⟩ := h
  rcases hl with rfl | ⟨e, rfl, he⟩
  · refine ⟨mid, older, rfl, ha, fun h' => ?_⟩
    rcases hh h' with h' | ⟨j, hj⟩
    · exact hp h'
    · exact absurd hj.symm (List.cons_ne_self _ _)
  · refine ⟨e :: mid, older, rfl, fun e' he' => ?_, fun h' => ?_⟩
    · rcases List.mem_cons.1 he' with rfl | he'
      exacts [he, ha e' he']
    · rcases hh h' with h' | ⟨j, hj⟩
      · obtain ⟨j, hj⟩ := hp h'
        exact ⟨j, List.mem_cons_of_mem _ hj⟩
      · exact ⟨j, (List.cons.inj hj).1 ▸ List.mem_cons_self _ _⟩

/-- Every pass waiting to demote a tenant has checked it, and every demotion was preceded by
its pass's check. -/
structure Sys.ReconInv (s : Sys) : Prop where
  watching : ∀ i t ts, s.procs[i]? = some (.reconcile (.demote t ts)) →
    CheckedSince s.cfg i t.tenantID (s.cluster.Has s.cfg.ns (podName t.tenantID)) s.log
  demoted : ∀ newer i T cur found old, s.log = newer ++ .reconDemoted i T cur found :: old →
    CheckedSince s.cfg i T (found = true) old

namespace Sys.ReconInv

lemma init (cfg : Config) : (Sys.init cfg).ReconInv :=
  ⟨fun _ _ _ h => by simp [Sys.init] at h, fun _ _ _ _ _ _ h => by simp [Sys.init] at h⟩

/-- The reconcile pass that moved is the process at `i`. -/
lemma reconcileStep_of_step {s s' : Sys} {i : Nat} {ok : Bool} {pc : ReconPc}
    (hi : s.procs[i]? = some (.reconcile pc)) (hs : s.step (.run i ok) = some s') :
    s.reconcileStep i ok pc = some s' := by
  simpa [Sys.step, hi, Sys.procStep] using hs

lemma step {s s' : Sys} {a : Act} (h : s.ReconInv) (hs : s.step a = some s') : s'.ReconInv := by
  have hcfg := (Sys.step_cfg hs).1
  constructor
  · intro i t ts hq
    rw [hcfg]
    by_cases hrun : ∃ ok, a = .run i ok
    · obtain ⟨ok, rfl⟩ := hrun
      obtain ⟨p, hi, htag⟩ := Sys.step_self hs hq
      cases p with
      | reconcile pc =>
        obtain ⟨hl, hno, hc, -⟩ := reconcileStep_to_demote (List.getElem?_eq_some_iff.1 hi).1
          (reconcileStep_of_step hi hs) hq
        exact ⟨[], s.log, by simp [hl], by simp, fun h' => absurd (hc ▸ h') hno⟩
      | _ => cases htag
    · push_neg at hrun
      have hlt : i < s.procs.length := by
        by_contra hge
        obtain ⟨r, hr⟩ := Sys.step_fresh hs (not_lt.1 hge) hq
        cases r <;> cases hr
      rw [Sys.step_others hs hrun hlt] at hq
      refine (h.watching i t ts hq).extend ?_ fun hh => ?_
      · rcases Sys.step_log hs with hl | ⟨e, hl, he⟩
        · exact .inl hl
        · refine .inr ⟨e, hl, fun ha => ?_⟩
          obtain ⟨ok, -, rfl, -⟩ := he i ha
          exact hrun ok rfl
      · rcases Sys.step_has hs hh with hh | hh | ⟨suffix, hn⟩
        · exact .inl hh
        · exact .inr hh
        · exact absurd hn.symm (warmPool_ne_podName _ _)
  · intro newer i T cur found old hl
    rw [hcfg]
    rcases Sys.step_log hs with hl' | ⟨e, hl', he⟩
    · exact h.demoted newer i T cur found old (hl' ▸ hl)
    · cases newer with
      | nil =>
        rw [hl'] at hl
        simp only [List.nil_append, List.cons.injEq] at hl
        obtain ⟨rfl, rfl⟩ := hl
        obtain ⟨ok, p, rfl, hi, hrec⟩ := he i rfl
        cases p with
        | reconcile pc =>
          obtain ⟨t, ts, rfl, rfl, hf⟩ := reconcileStep_demoted (reconcileStep_of_step hi hs) hl'
          obtain ⟨mid, older, h₁, h₂, h₃⟩ := h.watching i t ts hi
          exact ⟨mid, older, h₁, h₂, fun hfound => h₃ (hf.1 hfound)⟩
        | _ => cases hrec
      | cons e' newer =>
        rw [hl'] at hl
        simp only [List.cons_append, List.cons.injEq] at hl
        exact h.demoted newer i T cur found old hl.2

end Sys.ReconInv

lemma Reachable.reconInv {cfg : Config} {s : Sys} (hs : Reachable cfg s) : s.ReconInv :=
  let ⟨_, hr⟩ := hs
  Sys.run_induct _ (fun _ _ _ h hs => h.step hs) (Sys.ReconInv.init cfg) hr

/-- **A demotion follows its pass's own check, and a live pod at the write was created
after that check.** -/
theorem recon_demotion_follows_check {cfg : Config} {s : Sys} (hs : Reachable cfg s)
    {newer old : List Event} {i : Nat} {T : String} {cur : Option TenantRecord} {found : Bool}
    (hl : s.log = newer ++ .reconDemoted i T cur found :: old) :
    ∃ mid older, old = mid ++ .reconChecked i T false :: older ∧ (∀ e ∈ mid, e.actor ≠ some i) ∧
      (found = true → ∃ j, Event.podCreated cfg.ns (podName T) j ∈ mid) := by
  have h := hs.reconInv.demoted newer i T cur found old hl
  rwa [hs.cfg_eq] at h

theorem recon_demotion_follows_check_sample :
    Reachable (Config.orchestrator "tenants" false)
        (Sys.runFrom (Config.orchestrator "tenants" false) reconRaceRun) ∧
      (Sys.runFrom (Config.orchestrator "tenants" false) reconRaceRun).log =
        [] ++ .reconDemoted 2 "a"
          (some ⟨"a", statusRunning, "zeroclaw-a", "10.0.0.2", "tenants", "tenants/a/", "", 0, 0, 300⟩)
          true :: (Sys.runFrom (Config.orchestrator "tenants" false) reconRaceRun).log.tail ∧
      ∃ mid older, (Sys.runFrom (Config.orchestrator "tenants" false) reconRaceRun).log.tail =
          mid ++ .reconChecked 2 "a" false :: older ∧ (∀ e ∈ mid, e.actor ≠ some 2) ∧
        (true = true → ∃ j, Event.podCreated (Config.orchestrator "tenants" false).ns
          (podName "a") j ∈ mid) :=
  have hs := Reachable.runFrom (by decide)
  have hl := by decide
  ⟨hs, hl, recon_demotion_follows_check hs hl⟩

end Tenancy

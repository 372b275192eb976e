import Tenancy.Invariant.Procs

/-!
Every move keeps `Sys.Inv`, so every reachable deployment satisfies it.

* `Sys.Inv.wakeStep`, `routerStep`, `idleStep`, `reconcileStep`, `createTenantStep`,
  `deleteTenantStep`, `updateActivityStep`, `updateTenantStep`: one lemma per kind of
  process, one case per program counter;
* `Sys.Inv.step`: any move, the cluster's and the clock's included;
* `Reachable.inv`: **the invariant of every reachable deployment**.
-/

namespace Tenancy

namespace Sys.Inv

variable {s s' : Sys} {i : Nat} {ok : Bool}

lemma wakeTo (h : s.Inv) {t : String} {lu : Option Int} {pc : WakePc}
    (hi : s.procs[i]? = some (.wake t lu pc)) {lu' : Option Int} {pc' : WakePc}
    (hw : pc'.Wf s.cfg s.log t) : (s.wakeTo i t lu' pc').Inv :=
  h.setProc hi rfl hw trivial

lemma wakeStep (h : s.Inv) {t : String} {lu : Option Int} {pc : WakePc}
    (hi : s.procs[i]? = some (.wake t lu pc)) (hs : s.wakeStep i ok t lu pc = some s') :
    s'.Inv := by
  have hw : pc.Wf s.cfg s.log t := h.procs _ (List.getElem?_mem hi)
  cases pc <;> simp only [Sys.wakeStep] at hs
  case start | poll =>
    split at hs
    · split at hs
      · rename_i r hr
        split at hs
        · rename_i hrun
          cases hs
          refine Inv.emit ?_ trivial
          exact h.wakeTo hi fun _ hip => by cases hip; exact h.reg.readyAddr hr hrun.2
        · cases hs
          first | exact h | exact h.wakeTo hi fun _ hr' => by cases hr'; exact h.reg t r hr
      · cases hs
        first | exact h | exact h.wakeTo hi fun _ hr' => by cases hr'
    · cases hs; exact h.wakeTo hi fun _ hip => by cases hip
  case acquire r =>
    split at hs
    · split at hs
      · rename_i locks _
        cases hs
        apply (h.withLocks locks).wakeTo hi
        cases r with
        | some r => exact (hw r rfl).wakeNamespace
        | none => trivial
      · cases hs; exact h.wakeTo hi trivial
    · cases hs; exact h.wakeTo hi fun _ hip => by cases hip
  case autoCreate =>
    cases hs
    have hp := provisioningRecord_wf s.cfg s.log s.now t
    have hr : RegWf s.cfg s.log (if ok = true then
        (DynamoClient.createTenant s.reg (provisioningRecord s.cfg s.now t)).getD s.reg else s.reg) := by
      split
      · exact h.reg.createTenant_getD hp
      · exact h.reg
    exact (h.withReg hr).wakeTo hi hp.wakeNamespace
  case createPV r ns =>
    split at hs
    · cases hs
      exact (h.withCluster (h.pods.of_pods_eq (Cluster.createPV_pods t))).wakeTo hi hw
    · cases hs; exact h.wakeTo hi fun _ hip => by cases hip
  case createPVC r ns =>
    split at hs
    · cases hs
      exact (h.withCluster (h.pods.of_pods_eq (Cluster.createPVC_pods t))).wakeTo hi hw
    · cases hs; exact h.wakeTo hi fun _ hip => by cases hip
  case listWarm r ns =>
    split at hs
    · cases hs
      refine Inv.emit ?_ trivial
      refine h.wakeTo hi ⟨hw, fun p hp => ?_⟩
      obtain ⟨hm, happ⟩ := Cluster.mem_listWarmPods hp
      exact ⟨h.pods p hm, happ⟩
    · cases hs
      refine Inv.emit ?_ trivial
      exact h.wakeTo hi hw
  case claimWarm r ns cands =>
    split at hs
    · cases hs; exact h.wakeTo hi hw.1
    · rename_i p rest hd
      have hsub : p :: rest ⊆ cands := hd ▸ (List.dropWhile_suffix _).subset
      have hp := hw.2 p (hsub (List.mem_cons_self _ _))
      split at hs
      · rename_i p' c hc
        cases hs
        obtain ⟨hc', hp', happ⟩ := h.pods.claimWarmPod hp.1 (call_eq_some hc).2
        exact (h.withCluster hc').wakeTo hi ⟨hw.1, hp', happ.trans hp.2⟩
      · cases hs
        exact h.wakeTo hi ⟨hw.1, fun q hq => hw.2 q (hsub (List.mem_cons_of_mem _ hq))⟩
  case deleteWarm r ns warm =>
    cases hs
    have hc : PodsOK s.log (if ok = true then s.cluster.deletePod ns warm.name 0 else s.cluster) := by
      split
      · exact h.pods.deletePod 0
      · exact h.pods
    exact (h.withCluster hc).wakeTo hi hw.1
  case createPod r ns node =>
    split at hs
    · split at hs
      · rename_i c hc
        cases hs
        refine Inv.emit ?_ trivial
        exact (h.withCluster (h.pods.createPod (PodsOK.tenantPod ..) hc)).wakeTo hi ⟨hw, rfl⟩
      · cases hs; exact h.wakeTo hi hw
    · cases hs; exact h.wakeTo hi fun _ hip => by cases hip
  case getPod ns =>
    split at hs
    · rename_i p hp
      cases hs
      exact h.wakeTo hi ⟨hw, (Cluster.mem_of_getPod (call_eq_some hp).2).2.2⟩
    · cases hs; exact h.wakeTo hi fun _ hip => by cases hip
  case waitReady ns pod =>
    split at hs
    · obtain ⟨p, hp, rfl⟩ := Option.map_eq_some'.1 hs
      obtain ⟨⟨hm, -, hn⟩, hph, hip⟩ := Cluster.mem_of_readyPod hp
      exact h.wakeTo hi ⟨hw.2, ⟨p.ns, hn ▸ (h.pods p hm).addr.resolve_left hip⟩, hn, hph, rfl, hip,
        h.pods p hm⟩
    · cases hs; exact h.wakeTo hi fun _ hip => by cases hip
  case commit pod seen ip =>
    split at hs
    · cases hs
      have hr : RegWf s.cfg s.log (DynamoClient.updateStatus s.reg s.now t statusRunning pod.name ip) :=
        h.reg.updateStatus (.inr hw.1) (fun _ => ⟨hw.1, hw.2.2.2.2.2.1⟩) (fun hs => absurd hs (by decide))
          (.inr hw.2.1)
      refine Inv.emit ?_ hw.2.2
      exact (h.withReg hr).wakeTo hi fun _ hip => by cases hip; exact hw.2.1
    · cases hs; exact h.wakeTo hi fun _ hip => by cases hip
  case release result =>
    have h' : ({ s with locks := if ok = true then releaseWakeLock s.locks t else s.locks }.wakeTo i t
        none (.done result)).Inv := by
      apply (h.withLocks (if ok = true then releaseWakeLock s.locks t else s.locks)).wakeTo hi
      exact hw
    split at hs <;> cases hs
    · exact h'.emit trivial
    · exact h'
  case done => cases hs

lemma routerStep (h : s.Inv) {t text : String} {pc : RouterPc}
    (hi : s.procs[i]? = some (.router t text pc)) (hs : s.routerStep i ok t text pc = some s') :
    s'.Inv := by
  have hw : pc.Wf s.log t := h.procs _ (List.getElem?_mem hi)
  cases pc <;> simp only [Sys.routerStep] at hs
  case lookup =>
    have hlen : i < s.procs.length := (List.getElem?_eq_some_iff.1 hi).1
    have hmiss : ((s.spawn (.wake t none .start)).routerTo i t text
        (.awaitWake s.procs.length)).Inv := by
      have hsp : (s.spawn (.wake t none .start)).Inv := h.spawn trivial trivial
      have hi' : (s.spawn (.wake t none .start)).procs[i]? = some (.router t text .lookup) := by
        rw [Sys.spawn, List.getElem?_append_left hlen]; exact hi
      refine hsp.setProc hi' rfl trivial ?_
      exact ⟨none, .start, by simp [Sys.spawn, List.getElem?_set_ne (Nat.ne_of_lt hlen)]⟩
    split at hs
    · rename_i ip hip
      cases hs
      split_ifs
      · obtain ⟨e, he, rfl⟩ := Sys.cacheGet_eq_some (call_eq_some hip).2
        exact h.setProc hi rfl (h.cache t e he) trivial
      · exact hmiss
    · cases hs; exact hmiss
  case awaitWake j =>
    split at hs
    · rename_i r hj
      obtain ⟨lu', pc', hj'⟩ : ∃ lu pc, s.procs[j]? = some (.wake t lu pc) :=
        h.waits _ (List.getElem?_mem hi)
      rw [hj] at hj'
      cases hj'
      split at hs
      · rename_i ip hip
        cases hs
        exact h.setProc hi rfl (h.procs _ (List.getElem?_mem hj) ip (call_eq_some hip).2) trivial
      · cases hs; exact h.setProc hi rfl trivial trivial
    · split at hs
      · cases hs
      · cases hs; exact h.setProc hi rfl trivial trivial
  case setCache ip =>
    cases hs
    refine Inv.setProc ?_ hi rfl hw trivial
    split
    · exact h.putCache hw _
    · exact h
  case forward ip =>
    split at hs
    · cases hs; exact h.setProc hi rfl trivial trivial
    · split at hs
      · rename_i p hp
        cases hs
        obtain ⟨hm, hip, hne⟩ := Cluster.mem_of_podAt (call_eq_some hp).2
        refine Inv.emit ?_ ⟨hw, h.pods p hm, hip, hne⟩
        exact h.setProc hi rfl trivial trivial
      · cases hs; exact (h.dropCache t).setProc hi rfl trivial trivial
  case updateActivity =>
    cases hs
    refine Inv.setProc (h.withReg ?_) hi rfl trivial trivial
    split
    · exact h.reg.updateActivity _ _
    · exact h.reg
  case done => cases hs

lemma idleStep (h : s.Inv) {pc : IdlePc} (hi : s.procs[i]? = some (.idle pc))
    (hs : s.idleStep i ok pc = some s') : s'.Inv := by
  have hw : pc.Wf s.cfg s.log s.now := h.procs _ (List.getElem?_mem hi)
  cases pc with
  | scan =>
    simp only [Sys.idleStep] at hs
    cases hs
    refine h.setProc hi rfl ?_ trivial
    split
    · intro r hr
      obtain ⟨it, hl, hk, hrec⟩ := DynamoClient.mem_scan hr
      simp only [Bool.and_eq_true, beq_iff_eq] at hk
      exact ⟨h.reg.of_scan hr, by rw [hrec]; simp [Item.toRecord, hk.1]⟩
    · trivial
  | check ts =>
    cases ts with
    | nil => simp only [Sys.idleStep] at hs; cases hs; exact h.setProc hi rfl trivial trivial
    | cons t ts =>
      simp only [Sys.idleStep] at hs
      have ht := hw t (List.mem_cons_self _ _)
      have hts : ∀ r ∈ ts, IdleCandidate s.cfg s.log r := fun r hr => hw r (List.mem_cons_of_mem _ hr)
      split at hs
      · cases hs; exact h.setProc hi rfl hts trivial
      · rename_i hlt
        let e := Event.idleDeletedPod t.tenantID t (DynamoClient.getTenant s.reg t.tenantID) s.now
        have he : (s.emit e).Inv := h.emit ⟨rfl, ht.2, by omega⟩
        have hts' : ∀ r ∈ ts, IdleCandidate s.cfg (e :: s.log) r :=
          fun r hr => (hts r hr).mono (List.subset_cons_self _ _)
        split at hs
        · cases hs
          exact (he.withCluster (he.pods.deletePod 30)).setProc hi rfl
            ⟨⟨ht.mono (List.subset_cons_self _ _),
              by show idleThreshold t.idleTimeoutS ≤ s.now - t.lastActiveAt; omega⟩, hts'⟩ trivial
        · cases hs; exact he.setProc hi rfl hts' trivial
  | demote t ts =>
    simp only [Sys.idleStep] at hs
    cases hs
    have he : (s.emit (.idleDemoted t.tenantID t (DynamoClient.getTenant s.reg t.tenantID)
      s.now)).Inv := h.emit ⟨rfl, hw.1.1.2, hw.1.2⟩
    refine Inv.setProc (he.withReg ?_) hi rfl
      (fun r hr => (hw.2 r hr).mono (List.subset_cons_self _ _)) trivial
    split
    · exact he.reg.updateStatus_idle _ _
    · exact he.reg
  | done => simp [Sys.idleStep] at hs

lemma reconcileStep (h : s.Inv) {pc : ReconPc} (hi : s.procs[i]? = some (.reconcile pc))
    (hs : s.reconcileStep i ok pc = some s') : s'.Inv := by
  cases pc with
  | list => simp only [Sys.reconcileStep] at hs; cases hs; exact h.setProc hi rfl trivial trivial
  | check ts =>
    cases ts with
    | nil => simp only [Sys.reconcileStep] at hs; cases hs; exact h.setProc hi rfl trivial trivial
    | cons t ts =>
      simp only [Sys.reconcileStep] at hs
      split at hs <;> cases hs
      · refine Inv.emit ?_ trivial
        exact h.setProc hi rfl trivial trivial
      · exact h.setProc hi rfl trivial trivial
  | demote t ts =>
    simp only [Sys.reconcileStep] at hs
    have he : (s.emit (.reconDemoted i t.tenantID (DynamoClient.getTenant s.reg t.tenantID)
      (s.cluster.getPod s.cfg.ns (podName t.tenantID)).isSome)).Inv := h.emit trivial
    split at hs <;> cases hs
    · exact (he.withReg (he.reg.updateStatus_idle _ _)).setProc hi rfl trivial trivial
    · exact he.setProc hi rfl trivial trivial
  | clearCache t ts =>
    simp only [Sys.reconcileStep] at hs
    cases hs
    refine Inv.setProc ?_ hi rfl trivial trivial
    split
    · exact h.dropCache _
    · exact h
  | done => simp [Sys.reconcileStep] at hs

lemma createTenantStep (h : s.Inv) {t tok : String} {n : Int} {pc : CreatePc}
    (hi : s.procs[i]? = some (.createTenant t tok n pc))
    (hs : s.createTenantStep i ok t tok n pc = some s') : s'.Inv := by
  cases pc <;> simp only [Sys.createTenantStep] at hs
  case create =>
    split at hs
    · cases hs; exact h.setProc hi rfl trivial trivial
    · split at hs
      · rename_i reg hc
        cases hs
        exact (h.withReg (h.reg.createTenant (createdRecord_wf ..) (call_eq_some hc).2)).setProc hi
          rfl trivial trivial
      · cases hs; exact h.setProc hi rfl trivial trivial
  case webhook =>
    cases hs
    exact (h.withWebhooks _).setProc hi rfl trivial trivial
  case done => cases hs

lemma deleteTenantStep (h : s.Inv) {t : String} {clean : Bool} {pc : DeletePc}
    (hi : s.procs[i]? = some (.deleteTenant t clean pc))
    (hs : s.deleteTenantStep i ok t clean pc = some s') : s'.Inv := by
  have hw : pc.Wf s.cfg s.log t := h.procs _ (List.getElem?_mem hi)
  cases pc <;> simp only [Sys.deleteTenantStep] at hs
  case get =>
    split at hs
    · split at hs
      · cases hs
        refine Inv.emit ?_ trivial
        exact h.setProc hi rfl trivial trivial
      · rename_i r hr
        cases hs
        have hw' : r.tenantID = t ∧ r.Wf s.cfg s.log := ⟨RegWf.tenantID_eq hr, h.reg t r hr⟩
        refine h.setProc hi rfl ?_ trivial
        split_ifs <;> exact hw'
    · cases hs; exact h.setProc hi rfl trivial trivial
  case deletePod r =>
    split at hs <;> cases hs
    · exact (h.withCluster (h.pods.deletePod 30)).setProc hi rfl hw trivial
    · exact h.setProc hi rfl hw trivial
  case deletePVC r | deletePV r =>
    split at hs <;> cases hs
    · exact (h.withCluster (h.pods.of_pods_eq (by simp))).setProc hi rfl hw trivial
    · exact h.setProc hi rfl hw trivial
  case deleteRecord r =>
    split at hs <;> cases hs
    · exact (h.withReg (h.reg.deleteTenant t)).setProc hi rfl hw trivial
    · exact h.setProc hi rfl trivial trivial
  case clearCache r =>
    split at hs <;> cases hs
    · exact (h.dropCache t).setProc hi rfl hw trivial
    · exact h.setProc hi rfl hw trivial
  case deleteWebhook r =>
    (repeat' split at hs) <;> cases hs <;> refine Inv.emit ?_ trivial
    · exact (h.withWebhooks _).setProc hi rfl trivial trivial
    all_goals exact h.setProc hi rfl trivial trivial
  case done => cases hs

lemma updateActivityStep (h : s.Inv) {t : String} {fin : Bool}
    (hi : s.procs[i]? = some (.updateActivity t fin))
    (hs : s.updateActivityStep i ok t fin = some s') : s'.Inv := by
  cases fin with
  | false =>
    simp only [Sys.updateActivityStep] at hs
    cases hs
    refine Inv.setProc (h.withReg ?_) hi rfl trivial trivial
    split
    · exact h.reg.updateActivity _ _
    · exact h.reg
  | true => simp [Sys.updateActivityStep] at hs

lemma updateTenantStep (h : s.Inv) {t : String} {tok : Option String} {n : Option Int}
    {pc : UpdatePc} (hi : s.procs[i]? = some (.updateTenant t tok n pc))
    (hs : s.updateTenantStep i ok t tok n pc = some s') : s'.Inv := by
  cases pc <;> simp only [Sys.updateTenantStep] at hs
  case token =>
    split at hs
    · cases hs; exact h.setProc hi rfl trivial trivial
    · split at hs
      · rename_i reg hu
        cases hs
        exact (h.withReg (h.reg.updateBotToken (call_eq_some hu).2)).setProc hi rfl trivial trivial
      · cases hs; exact h.setProc hi rfl trivial trivial
  case webhook =>
    cases hs
    exact (h.withWebhooks _).setProc hi rfl trivial trivial
  case timeout =>
    split at hs
    · cases hs; exact h.setProc hi rfl trivial trivial
    · split at hs
      · rename_i reg hu
        cases hs
        exact (h.withReg (h.reg.updateIdleTimeout (call_eq_some hu).2)).setProc hi rfl trivial
          trivial
      · cases hs; exact h.setProc hi rfl trivial trivial
  case read =>
    cases hs
    exact h.setProc hi rfl trivial trivial
  case done => cases hs

lemma procStep (h : s.Inv) {p : Proc} (hi : s.procs[i]? = some p)
    (hs : s.procStep i ok p = some s') : s'.Inv := by
  cases p with
  | wake => exact h.wakeStep hi hs
  | router => exact h.routerStep hi hs
  | idle => exact h.idleStep hi hs
  | reconcile => exact h.reconcileStep hi hs
  | createTenant => exact h.createTenantStep hi hs
  | deleteTenant => exact h.deleteTenantStep hi hs
  | updateActivity => exact h.updateActivityStep hi hs
  | updateTenant => exact h.updateTenantStep hi hs

lemma step (h : s.Inv) {a : Act} (hs : s.step a = some s') : s'.Inv := by
  cases a with
  | request r => cases hs; exact h.spawn (by cases r <;> trivial) (by cases r <;> trivial)
  | run i ok =>
    obtain ⟨p, hi, hp⟩ := Option.bind_eq_some.1 hs
    exact h.procStep hi hp
  | tick d => cases hs; exact h.tick d
  | podReady ns name ip =>
    obtain ⟨c, hc, rfl⟩ := Option.map_eq_some'.1 hs
    have he : (s.emit (.podReady ns name ip)).Inv := h.emit trivial
    exact he.withCluster (h.pods.podReady hc)
  | podGone ns name =>
    obtain ⟨c, hc, rfl⟩ := Option.map_eq_some'.1 hs
    exact h.withCluster (h.pods.podGone hc)
  | podLost ns name =>
    obtain ⟨c, hc, rfl⟩ := Option.map_eq_some'.1 hs
    exact h.withCluster (h.pods.podLost hc)
  | warmReplica suffix node =>
    obtain ⟨c, hc, rfl⟩ := Option.map_eq_some'.1 hs
    exact h.withCluster (h.pods.warmReplica hc)

end Sys.Inv

/-- **The invariant of every reachable deployment.** -/
lemma Reachable.inv {cfg : Config} {s : Sys} (hs : Reachable cfg s) : s.Inv :=
  let ⟨_, hr⟩ := hs
  Sys.run_induct _ (fun _ _ _ h hs => h.step hs) (Sys.Inv.init cfg) hr

end Tenancy

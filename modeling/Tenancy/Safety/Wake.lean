import Tenancy.Invariant.Footprint

/-!
What concurrent `wakeOrGet` calls of one tenant return (`Handler.wakeOrGet` and
`pollUntilRunning` of `internal/api/handler.go`).

* `WakePc.held`, `Sys.Holds`: the addresses the calls of `T` can still hand out: a Running
  record's, or one a call is about to commit or return;
* `Sys.wakeStep_held`, `Sys.wakeStep_logs`: a call holds or reports only an address it held
  before, a Running record's, or the one `WaitPodReady` has just seen `T`'s pod at;
* `Sys.Holds.step`, `Sys.Holds.of_log`: the same for every move;
* `wake_calls_agree`: **from a state where `T` is not Running and no call of `T` holds an
  address, in every interleaving (lock expiry, idle eviction, demotion and `DeleteTenant`
  included) in which `T`'s pod is not removed while it is ready, every call of `T` that
  succeeds returns, and every commit writes, the address `T`'s pod is ready at, which is
  also the address of `T`'s record whenever it is Running**;
* `second_wake_repeats_slow_path`: the record read before the lock is not read again, so a
  second call that read it before the first committed runs the whole slow path again;
* `committed_pod_ready`: a commit writes the address `WaitPodReady` saw `T`'s own pod
  Running at; `wake_commits_terminating_pod`: that pod may be one the idle controller is
  deleting, which `CreateTenantPod`'s AlreadyExists branch hands back;
* `wake_pod_misses_token`: a wake that found no record keeps its own Provisioning record
  after its `CreateTenant` loses to `POST /tenants`, and creates the pod with that record's
  empty token.
-/

namespace Tenancy

/-- The address a `wakeOrGet` call holds for its caller: the one it is about to commit, or
the one it returns once the lock is released. -/
def WakePc.held : WakePc → Option String
  | .commit _ _ ip => some ip
  | .release r => r
  | _ => none

/-- The address a wake event of `T` reports: the one a call returned or committed. -/
def Event.wakeAddr (T : String) : Event → Option String
  | .wakeReturned _ t ip | .committed _ t ip _ => if t = T then some ip else none
  | _ => none

namespace Sys

variable {s s' : Sys} {i : Nat} {ok : Bool} {T : String}

/-- An address the calls of `T` can still hand out: a Running record's, or one a call
holds. -/
def Holds (s : Sys) (T a : String) : Prop :=
  DynamoClient.runningIP s.reg T = some a ∨
    ∃ (i : Nat) (lu : Option Int) (pc : WakePc), s.procs[i]? = some (.wake T lu pc) ∧ pc.held = some a

/-- After a call of a `wakeOrGet`, the address it holds it held before, or `WaitPodReady`
has just seen its tenant's pod ready there. -/
lemma wakeStep_held (h : s.Inv) {t : String} {lu : Option Int} {pc : WakePc}
    (hi : s.procs[i]? = some (.wake t lu pc)) (hs : s.wakeStep i ok t lu pc = some s')
    {lu' : Option Int} {pc' : WakePc} (hq : s'.procs[i]? = some (.wake T lu' pc')) {b : String}
    (hb : pc'.held = some b) :
    t = T ∧ (pc.held = some b ∨ s'.cluster.readyIP s.cfg.ns (podName T) = some b) := by
  have hlen : i < s.procs.length := (List.getElem?_eq_some_iff.1 hi).1
  have hw : pc.Wf s.cfg s.log t := h.procs _ (List.getElem?_mem hi)
  cases pc <;> simp only [wakeStep] at hs
  case waitReady ns pod =>
    split at hs
    · obtain ⟨p, hp, rfl⟩ := Option.map_eq_some'.1 hs
      simp only [wakeTo, setProc_procs, List.getElem?_set_self hlen, Option.some.injEq,
        Proc.wake.injEq] at hq
      obtain ⟨rfl, -, rfl⟩ := hq
      refine ⟨rfl, .inr ?_⟩
      show (s.cluster.readyPod s.cfg.ns (podName t)).map Pod.podIP = some b
      rw [← hw.1, hp]
      exact hb
    · cases hs
      simp only [wakeTo, setProc_procs, List.getElem?_set_self hlen, Option.some.injEq,
        Proc.wake.injEq] at hq
      obtain ⟨rfl, -, rfl⟩ := hq
      cases hb
  all_goals
    (repeat' split at hs) <;> (try cases hs) <;>
      first
      | (rw [hi] at hq; obtain ⟨rfl, -, rfl⟩ := Proc.wake.inj (Option.some.inj hq); exact ⟨rfl, .inl hb⟩)
      | (simp only [wakeTo, setProc_procs, emit_procs, List.getElem?_set_self hlen, Option.some.injEq,
          Proc.wake.injEq] at hq
         obtain ⟨rfl, -, rfl⟩ := hq
         first | exact ⟨rfl, .inl hb⟩ | cases hb)

/-- A wake event a call logs reports the address of a Running record or one the call
held. -/
lemma wakeStep_logs {t : String} {lu : Option Int} {pc : WakePc}
    (hs : s.wakeStep i ok t lu pc = some s') {e : Event} (he : s'.log = e :: s.log) {b : String}
    (hb : e.wakeAddr T = some b) :
    DynamoClient.runningIP s.reg T = some b ∨ (t = T ∧ pc.held = some b) := by
  cases pc <;> simp only [wakeStep] at hs
  case start | poll =>
    split at hs
    · split at hs
      · rename_i r hr
        split at hs
        · rename_i hrun
          cases hs
          obtain rfl := (List.cons.inj he).1
          simp only [Event.wakeAddr] at hb
          split_ifs at hb with htT
          cases hb
          subst htT
          left
          simp [DynamoClient.runningIP, hr, hrun.1]
        · cases hs; exact absurd he.symm (List.cons_ne_self _ _)
      · cases hs; exact absurd he.symm (List.cons_ne_self _ _)
    · cases hs; exact absurd he.symm (List.cons_ne_self _ _)
  case commit pod seen ip =>
    split at hs <;> cases hs
    · obtain rfl := (List.cons.inj he).1
      simp only [Event.wakeAddr] at hb
      split_ifs at hb with htT
      cases hb
      exact .inr ⟨htT, rfl⟩
    · exact absurd he.symm (List.cons_ne_self _ _)
  case waitReady ns pod =>
    split at hs
    · obtain ⟨p, -, rfl⟩ := Option.map_eq_some'.1 hs
      exact absurd he.symm (List.cons_ne_self _ _)
    · cases hs; exact absurd he.symm (List.cons_ne_self _ _)
  case release r =>
    split at hs <;> cases hs
    · obtain rfl := (List.cons.inj he).1
      simp only [Event.wakeAddr] at hb
      split_ifs at hb with htT
      cases hb
      exact .inr ⟨htT, rfl⟩
    · exact absurd he.symm (List.cons_ne_self _ _)
  all_goals
    (repeat' split at hs) <;> (try cases hs) <;>
      first
      | exact absurd he.symm (List.cons_ne_self _ _)
      | (obtain rfl := (List.cons.inj he).1; cases hb)

/-- The events reporting an address are logged by a `wakeOrGet` call. -/
lemma wakeAddr_source {e : Event} {b : String} (hb : e.wakeAddr T = some b) :
    ∃ j, e.actor = some j ∧ e.source = some 0 := by
  cases e <;> simp only [Event.wakeAddr, reduceCtorEq] at hb <;> exact ⟨_, rfl, rfl⟩

variable {a : Act}

/-- After a move, what the calls of `T` can hand out they could hand out before, or it is
where `T`'s pod is now ready. -/
lemma Holds.step (h : s.Inv) (hs : s.step a = some s') {b : String} (hb : s'.Holds T b) :
    s.Holds T b ∨ s'.cluster.readyIP s.cfg.ns (podName T) = some b := by
  rcases hb with hr | ⟨j, lu, pc, hj, hh⟩
  · rcases step_running h hs hr with hr | ⟨k, ok, lu, pod, seen, -, hk⟩
    · exact .inl (.inl hr)
    · exact .inl (.inr ⟨k, lu, _, hk, rfl⟩)
  · by_cases hrun : ∃ ok, a = .run j ok
    · obtain ⟨ok, rfl⟩ := hrun
      obtain ⟨p, hi, hp⟩ := Option.bind_eq_some.1 hs
      obtain ⟨q, hq, htag⟩ := step_self hs hj
      rw [hi] at hq
      cases hq
      cases p with
      | wake t lu₀ pc₀ =>
        obtain ⟨rfl, hh' | hr⟩ := wakeStep_held h hi hp hj hh
        · exact .inl (.inr ⟨j, lu₀, pc₀, hi, hh'⟩)
        · exact .inr hr
      | _ => cases htag
    · push_neg at hrun
      by_cases hlt : j < s.procs.length
      · rw [step_others hs hrun hlt] at hj
        exact .inl (.inr ⟨j, lu, pc, hj, hh⟩)
      · obtain ⟨r, hr⟩ := step_fresh hs (not_lt.1 hlt) hj
        cases r <;> cases hr
        cases hh

/-- A wake event of `T` a move logs reports an address the calls of `T` could hand out. -/
lemma Holds.of_log (hs : s.step a = some s') {e : Event} (he : s'.log = e :: s.log) {b : String}
    (hb : e.wakeAddr T = some b) : s.Holds T b := by
  rcases step_log hs with hl | ⟨e', hl, hact⟩
  · exact absurd (hl.symm.trans he) (List.cons_ne_self _ _).symm
  · obtain rfl := (List.cons.inj (hl.symm.trans he)).1
    obtain ⟨j, hj, h0⟩ := wakeAddr_source hb
    obtain ⟨ok, p, rfl, hi, hsrc⟩ := hact j hj
    obtain ⟨p', hi', hp⟩ := Option.bind_eq_some.1 hs
    rw [hi] at hi'
    cases hi'
    rw [h0] at hsrc
    cases p with
    | wake t lu pc =>
      rcases wakeStep_logs hp he hb with hr | ⟨rfl, hh⟩
      · exact .inl hr
      · exact .inr ⟨j, lu, pc, hi, hh⟩
    | _ => cases hsrc

/-- The calls of `T` agree with the address `T`'s pod is ready at: every address they can
hand out, and every address a wake event of `T` logged since `old` reported. -/
def WakesAgree (s : Sys) (T : String) (old : List Event) : Prop :=
  (∀ b, s.Holds T b → s.cluster.readyIP s.cfg.ns (podName T) = some b) ∧
    ∃ new, s.log = new ++ old ∧
      ∀ e ∈ new, ∀ b, e.wakeAddr T = some b → s.cluster.readyIP s.cfg.ns (podName T) = some b

lemma WakesAgree.step {old : List Event} (h : s.Inv) (hw : s.WakesAgree T old)
    (hs : s.step a = some s') (hk : keepsReadyPod T s a = true) : s'.WakesAgree T old := by
  have hcfg := (step_cfg hs).1
  have hkeep : ∀ b, s.cluster.readyIP s.cfg.ns (podName T) = some b →
      s'.cluster.readyIP s'.cfg.ns (podName T) = some b :=
    fun b hb => hcfg ▸ step_ready h hs hk _ b hb
  obtain ⟨hh, new, hl, hn⟩ := hw
  refine ⟨fun b hb => ?_, ?_⟩
  · rcases Holds.step h hs hb with hb | hb
    · exact hkeep b (hh b hb)
    · rw [hcfg]; exact hb
  · rcases step_log hs with hl' | ⟨e, hl', -⟩
    · exact ⟨new, hl'.trans hl, fun e he b hb => hkeep b (hn e he b hb)⟩
    · refine ⟨e :: new, by rw [hl', hl]; rfl, fun e' he' b hb => ?_⟩
      rcases List.mem_cons.1 he' with rfl | he'
      · exact hkeep b (hh b (Holds.of_log hs hl' hb))
      · exact hkeep b (hn e' he' b hb)

end Sys

/-- Two warm pods ready; tenant `a` created; two wakes of `a` read its record; the first
runs to the end, then the second. -/
def concurrentWakeRun : List Act :=
  [.warmReplica "x" "node-1", .podReady "tenants" "warm-pool-x" "10.0.1.1",
   .warmReplica "y" "node-2", .podReady "tenants" "warm-pool-y" "10.0.1.2",
   .request (.createTenant "a" "" 0), .run 0 true, .request (.wake "a"), .request (.wake "a"),
   .run 1 true, .run 2 true] ++ Act.calls 1 7 ++ [.podReady "tenants" "zeroclaw-a" "10.0.0.1"] ++
    Act.calls 1 3 ++ Act.calls 2 11

/-- Where `concurrentWakeRun` ends. -/
def concurrentWakeState : Sys := Sys.runFrom (Config.orchestrator "tenants" false) concurrentWakeRun

/-- **The slow path runs twice.** `wakeOrGet` does not read the record again once it holds
the lock: both wakes read the Idle record, the first claims `warm-pool-y`, creates `a`'s
pod, commits and releases; the second then takes the lock and runs the slow path again,
claims and deletes the other warm pod, gets the existing pod from `CreateTenantPod`, waits
and commits. The clock never moves, so both pipelines end well within the lock TTL. -/
theorem second_wake_repeats_slow_path :
    Reachable (Config.orchestrator "tenants" false) concurrentWakeState ∧
      concurrentWakeState.now = 0 ∧
      Event.claimStarted 1 "a" ∈ concurrentWakeState.log ∧
      Event.claimStarted 2 "a" ∈ concurrentWakeState.log ∧
      concurrentWakeState.cluster.listWarmPods "tenants" = [] ∧
      concurrentWakeState.procs[2]? = some (.wake "a" none (.done (some "10.0.0.1"))) :=
  ⟨Reachable.runFrom (by decide), by decide, by decide, by decide, by decide, by decide⟩

/-! ### The pod a commit is of -/

/-- **A commit of `T` writes the address at which `WaitPodReady` saw `T`'s own pod
Running**: a pod named after `T`, labelled `tenant=T` and `app=zeroclaw`, at an address the
kubelet gave it. Whether the pod is being deleted is not among what it checks. -/
theorem committed_pod_ready {cfg : Config} {s : Sys} (hs : Reachable cfg s) {i : Nat}
    {T ip : String} {seen : Pod} (hc : Event.committed i T ip seen ∈ s.log) :
    seen.name = podName T ∧ seen.tenant = T ∧ seen.app = "zeroclaw" ∧ seen.phase = .running ∧
      seen.podIP = ip ∧ ip ≠ "" ∧ Event.podReady seen.ns (podName T) ip ∈ s.log := by
  obtain ⟨old, hsub, hn, hph, hip, hne, hok⟩ := hs.inv.log.of_mem hc
  have hr := hok.addr.resolve_left (by rw [hip]; exact hne)
  rw [hn, hip] at hr
  exact ⟨hn, (hok.named T hn).1, (hok.named T hn).2, hph, hip, hne, hsub hr⟩

/-- Tenant `a` woken, evicted five minutes later, and woken again during the grace
period. -/
def reattachRun : List Act :=
  Act.createAndWake 0 "tenants" "a" "10.0.0.1" ++
    [.tick 301000000000, .request .idlePass, .run 2 true, .run 2 true, .run 2 true,
     .request (.wake "a")] ++ Act.calls 3 11

/-- Where `reattachRun` ends. -/
def reattachState : Sys := Sys.runFrom (Config.orchestrator "tenants" false) reattachRun

/-- **A wake commits a terminating pod.** Tenant `a` is evicted (its pod marked for deletion,
its record Idle); a new `wake(a)` gets the terminating pod from `CreateTenantPod`'s
AlreadyExists branch, sees it Running, commits its address and returns it. `GetWarmPod`
skips pods with a deletion timestamp; this path does not. -/
theorem wake_commits_terminating_pod :
    Reachable (Config.orchestrator "tenants" false) reattachState ∧
      Event.committed 3 "a" "10.0.0.1"
          ⟨"tenants", "zeroclaw-a", "zeroclaw", "a", "", "", "", .running, "10.0.0.1", true, 3⟩ ∈
        reattachState.log ∧
      Event.wakeReturned 3 "a" "10.0.0.1" ∈ reattachState.log ∧
      DynamoClient.getTenant reattachState.reg "a" =
        some ⟨"a", statusRunning, "zeroclaw-a", "10.0.0.1", "tenants", "tenants/a/", "", 0,
          301000000000, 300⟩ :=
  ⟨Reachable.runFrom (by decide), by decide, by decide, by decide⟩

/-! ### The token a woken pod gets -/

/-- Every `CreateTenantPod` of a wake creates a pod carrying the token the tenant's record
holds at that call. -/
def PodGetsRecordToken (s : Sys) : Prop :=
  ∀ i t lu record ns node p r, s.procs[i]? = some (.wake t lu (.createPod record ns node)) →
    s.cluster.getPod ns (podName t) = none →
    ((s.step (.run i true)).bind fun s' => s'.cluster.getPod ns (podName t)) = some p →
    DynamoClient.getTenant s.reg t = some r → p.botToken = r.botToken

/-- `wake(a)` finds no record and takes the lock; `POST /tenants` creates `a` with token
`tok`; the wake's own `CreateTenant` fails its condition, and the wake goes on to
`CreateTenantPod`. -/
def adminCreateWinsRun : List Act :=
  [.request (.wake "a"), .run 0 true, .run 0 true, .request (.createTenant "a" "tok" 0), .run 1 true] ++
    Act.calls 0 5

/-- The wake creates `a`'s pod with the empty token of its discarded Provisioning record,
while `a`'s record holds `tok`. -/
theorem wake_pod_misses_token :
    ¬ ∀ cfg s, Reachable cfg s → PodGetsRecordToken s := fun h =>
  absurd (h _ _ (@Reachable.runFrom (Config.orchestrator "tenants" false) adminCreateWinsRun (by decide)) 0 "a"
      (some 240000000000) ⟨"a", statusProvisioning, "", "", "tenants", "tenants/a/", "", 0, 0, 300⟩ "tenants" ""
      ⟨"tenants", "zeroclaw-a", "zeroclaw", "a", "", "", "", .pending, "", false, 1⟩
      ⟨"a", statusIdle, "", "", "tenants", "tenants/a/", "tok", 0, 0, 300⟩
      (by decide) (by decide) (by decide) (by decide))
    (by decide)

end Tenancy

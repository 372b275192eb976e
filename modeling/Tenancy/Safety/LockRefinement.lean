import Tenancy.Invariant.Frame

/-!
The wake lock in the deployment against `LockRun`, the model of pipelines on one tenant's
lock (`RedisLocker` of `internal/lock/lock.go`, as `Handler.wakeOrGet` uses it).

* `WakePc.locking`, `WakePc.locked`: a call before its `SetNX`, and a call holding the lock
  it set, up to its `ReleaseWakeLock`; `Sys.wakeStep_lock`: what one call of a wake does to
  the lock, its clock reading `lockUntil` and these two;
* `Sys.releasesInTime`: the runs in which every `ReleaseWakeLock` of a wake of `T` that
  reaches Redis comes before the acquisition it releases expires;
* `LockRun.Stands`, `LockRun.Abstracts`: a `LockRun` stands for the wakes of `T` in a
  deployment: the same clock and key; every wake of `T` holding an acquisition a holder of it
  in the `LockRun`, every holder a wake of `T` past its `SetNX`, and every wake in its locked
  stretch with its expiry at hand; `Abstracts.of_step`: the processes that do not move keep
  standing for their pipelines;
* `Sys.coupled_of_wake`, `Sys.coupled_of_other`, `Sys.LockCoupled.step`: **every move of
  the deployment allowed in such a run is a `LockRun` event, or none**: a wake's `SetNX`
  is an acquire, its `ReleaseWakeLock` that reaches Redis a release, a tick a tick; so
  `LockRun.Inv` holds all along;
* `deployment_wake_lock_exclusive`: **in every run of the deployment, any interleaving of
  every process, the clock and the cluster, in which the wakes of `T` release in time, at
  most one wake of `T` holds an unexpired acquisition of `T`'s lock at every moment**:
  `LockRun.inv_step` carried over to the deployment, with no second proof.
-/

namespace Tenancy

/-- A `wakeOrGet` call that has not made its `SetNX` yet. -/
def WakePc.locking : WakePc → Bool
  | .start | .acquire _ => true
  | _ => false

/-- A `wakeOrGet` call holding the lock its `SetNX` set, up to its `ReleaseWakeLock`. -/
def WakePc.locked : WakePc → Bool
  | .start | .acquire _ | .poll | .done _ => false
  | _ => true

/-! ### The lock of one key -/

variable {store store' : LockStore} {t T k : String}

/-- `SetNX` reads and writes its own key only. -/
lemma acquireWakeLock_congr (now ttl : Int) (o : Nat) (h : store (keyPrefix ++ t) = store' (keyPrefix ++ t)) :
    (acquireWakeLock store now t ttl o).1 = (acquireWakeLock store' now t ttl o).1 ∧
      (acquireWakeLock store now t ttl o).2 (keyPrefix ++ t) = (acquireWakeLock store' now t ttl o).2 (keyPrefix ++ t) := by
  unfold acquireWakeLock LockStore.get
  rw [h]
  split <;> simp [h]

/-- `AcquireWakeLock` of another key leaves `k` alone. -/
lemma acquireWakeLock_other {now ttl : Int} {o : Nat} (hk : k ≠ keyPrefix ++ t) :
    (acquireWakeLock store now t ttl o).2 k = store k := by
  unfold acquireWakeLock
  split <;> simp [Function.update_noteq hk]

/-- A `SetNX` that fails writes nothing. -/
lemma acquireWakeLock_snd_of_fst {now ttl : Int} {o : Nat} (h : (acquireWakeLock store now t ttl o).1 = false) :
    (acquireWakeLock store now t ttl o).2 = store := by
  unfold acquireWakeLock at *
  split at h
  · rfl
  · cases h

/-- `ReleaseWakeLock` of another key leaves `k` alone. -/
lemma releaseWakeLock_other (hk : k ≠ keyPrefix ++ t) : releaseWakeLock store t k = store k :=
  Function.update_noteq hk _ _

/-! ### One call of a wake -/

namespace Sys

variable {s s' : Sys} {i : Nat} {ok : Bool} {lu : Option Int} {pc : WakePc}

/-- A wake moved to `pc` is at `pc`. -/
lemma getElem?_wakeTo (h : i < s.procs.length) : (s.wakeTo i t lu pc).procs[i]? = some (.wake t lu pc) :=
  List.getElem?_set_self h

/-- One call of a wake: it leaves the lock alone, keeps its `lockUntil` and never goes back
before its `SetNX` or into the locked stretch; or it is the `SetNX`, which on success
records the expiry it set; or it is the `ReleaseWakeLock`, which forgets the expiry whether
or not the `DEL` reaches Redis. -/
lemma wakeStep_lock (hi : s.procs[i]? = some (.wake t lu pc)) (hs : s.wakeStep i ok t lu pc = some s') :
    ∃ lu' pc', s'.procs[i]? = some (.wake t lu' pc') ∧ s'.now = s.now ∧
      ((s'.locks = s.locks ∧ lu' = lu ∧ (pc.locking = false → pc'.locking = false) ∧
          (pc'.locked = true → pc.locked = true)) ∨
        (∃ r, pc = .acquire r ∧ ok = true ∧ s'.locks = (acquireWakeLock s.locks s.now t s.cfg.wakeLockTTL i).2 ∧
          pc'.locking = false ∧ pc'.locked = (acquireWakeLock s.locks s.now t s.cfg.wakeLockTTL i).1 ∧
          lu' = if (acquireWakeLock s.locks s.now t s.cfg.wakeLockTTL i).1 then
            some (s.now + s.cfg.wakeLockTTL) else lu) ∨
        (∃ r, pc = .release r ∧ lu' = none ∧ pc' = .done r ∧
          s'.locks = if ok then releaseWakeLock s.locks t else s.locks)) := by
  have hlen : i < s.procs.length := (List.getElem?_eq_some_iff.1 hi).1
  cases pc <;> simp only [wakeStep] at hs
  case acquire r =>
    split at hs
    · rename_i hok
      split at hs
      · next locks hacq =>
        cases hs
        refine ⟨_, _, getElem?_wakeTo hlen, rfl,
          .inr (.inl ⟨r, rfl, hok, by rw [hacq]; rfl, ?_, by rw [hacq]; cases r <;> rfl, by rw [hacq]; rfl⟩)⟩
        cases r <;> rfl
      · next hacq =>
        cases hs
        have hf : (acquireWakeLock s.locks s.now t s.cfg.wakeLockTTL i).1 = false := by rw [hacq]
        exact ⟨_, _, getElem?_wakeTo hlen, rfl, .inr (.inl ⟨r, rfl, hok, (acquireWakeLock_snd_of_fst hf).symm,
          rfl, hf.symm, by rw [hf]; rfl⟩)⟩
    · cases hs
      exact ⟨_, _, getElem?_wakeTo hlen, rfl, .inl ⟨rfl, rfl, fun _ => rfl, fun h => absurd h Bool.false_ne_true⟩⟩
  case release r =>
    split at hs <;> cases hs <;> exact ⟨_, _, getElem?_wakeTo hlen, rfl, .inr (.inr ⟨_, rfl, rfl, rfl, rfl⟩)⟩
  case waitReady =>
    split at hs
    · obtain ⟨p, -, rfl⟩ := Option.map_eq_some'.1 hs
      exact ⟨_, _, getElem?_wakeTo hlen, rfl, .inl ⟨rfl, rfl, fun _ => rfl, fun _ => rfl⟩⟩
    · cases hs
      exact ⟨_, _, getElem?_wakeTo hlen, rfl, .inl ⟨rfl, rfl, fun _ => rfl, fun _ => rfl⟩⟩
  all_goals (repeat' split at hs) <;> (try cases hs) <;>
    first
    | exact ⟨_, _, getElem?_wakeTo hlen, rfl, .inl ⟨rfl, rfl, fun h => h, fun h => h⟩⟩
    | exact ⟨_, _, getElem?_wakeTo hlen, rfl, .inl ⟨rfl, rfl, fun _ => rfl, fun h => h⟩⟩
    | exact ⟨_, _, hi, rfl, .inl ⟨rfl, rfl, fun h => h, fun h => h⟩⟩

/-- A call of a process other than a wake leaves the lock and the clock alone. -/
lemma procStep_locks {p : Proc} (hp : p.tag ≠ 0) (hs : s.procStep i ok p = some s') :
    s'.locks = s.locks ∧ s'.now = s.now := by
  cases p with
  | wake => exact absurd rfl hp
  | router t text pc =>
    cases pc <;> simp only [procStep, routerStep] at hs
    all_goals (repeat' split at hs) <;> (try cases hs) <;> exact ⟨rfl, rfl⟩
  | idle pc =>
    cases pc <;> simp only [procStep, idleStep] at hs
    case check ts => cases ts <;> simp only at hs <;> (repeat' split at hs) <;> cases hs <;> exact ⟨rfl, rfl⟩
    all_goals (repeat' split at hs) <;> (try cases hs) <;> exact ⟨rfl, rfl⟩
  | reconcile pc =>
    cases pc <;> simp only [procStep, reconcileStep] at hs
    case check ts => cases ts <;> simp only at hs <;> (repeat' split at hs) <;> cases hs <;> exact ⟨rfl, rfl⟩
    all_goals (repeat' split at hs) <;> (try cases hs) <;> exact ⟨rfl, rfl⟩
  | createTenant t tok n pc =>
    cases pc <;> simp only [procStep, createTenantStep] at hs
    all_goals (repeat' split at hs) <;> (try cases hs) <;> exact ⟨rfl, rfl⟩
  | deleteTenant t clean pc =>
    cases pc <;> simp only [procStep, deleteTenantStep] at hs
    all_goals (repeat' split at hs) <;> (try cases hs) <;> exact ⟨rfl, rfl⟩
  | updateActivity t fin =>
    cases fin <;> simp only [procStep, updateActivityStep] at hs <;> cases hs
    exact ⟨rfl, rfl⟩
  | updateTenant t tok n pc =>
    cases pc <;> simp only [procStep, updateTenantStep] at hs
    all_goals (repeat' split at hs) <;> (try cases hs) <;> exact ⟨rfl, rfl⟩

/-- The runs in which every `ReleaseWakeLock` of a wake of `T` that reaches Redis comes
before the acquisition it releases expires. -/
def releasesInTime (T : String) (s : Sys) : Act → Bool
  | .run i true => match s.procs[i]? with
    | some (.wake t (some e) (.release _)) => t != T || decide (s.now < e)
    | _ => true
  | _ => true

end Sys

/-! ### The lock of `T` as a `LockRun` -/

namespace LockRun

/-- The expiry `h` that pipeline `j` of a `LockRun` holds stands for process `j` of the
deployment, `o`: a wake of `T` holding an acquisition holds it in the `LockRun`; a holder
of the `LockRun` is a wake of `T` past its `SetNX`; a wake in its locked stretch has its
expiry at hand. Any other process holds nothing. -/
def Stands (T : String) (h : Option Int) : Option Proc → Prop
  | some (.wake t lu pc) =>
    if t = T then (lu.isSome → h = lu) ∧ (h.isSome → pc.locking = false) ∧ (pc.locked → lu.isSome)
    else h = none
  | _ => h = none

variable {T : String} {h : Option Int}

/-- What `Stands` asks of a wake of `T`. -/
@[simp] lemma stands_wake {lu : Option Int} {pc : WakePc} :
    Stands T h (some (.wake T lu pc)) ↔
      (lu.isSome → h = lu) ∧ (h.isSome → pc.locking = false) ∧ (pc.locked → lu.isSome) := by
  simp [Stands]

/-- Any process but a wake of `T` stands for a pipeline holding nothing. -/
lemma stands_iff_none {o : Option Proc} (ho : ∀ lu pc, o ≠ some (.wake T lu pc)) : Stands T h o ↔ h = none := by
  rcases o with _ | ⟨t, lu, pc⟩ | _ | _ | _ | _ | _ | _ | _ <;> simp only [Stands]
  split_ifs with ht
  · exact absurd (ht ▸ rfl) (ho lu pc)
  · rfl

/-- A process a request starts holds nothing. -/
lemma stands_proc (r : Request) : Stands T none (some r.proc) := by
  cases r <;> simp [Request.proc, Stands, WakePc.locked]

/-- `l` stands for the wakes of `T` in `s`: the same clock, `T`'s key, and every process. -/
structure Abstracts (T : String) (s : Sys) (l : LockRun) : Prop where
  now : l.now = s.now
  key : l.store (keyPrefix ++ T) = s.locks (keyPrefix ++ T)
  stands : ∀ j, Stands T (l.held j) s.procs[j]?

variable {s s' : Sys} {l l' : LockRun} {a : Act}

/-- The empty deployment stands for the `LockRun` that has seen nothing. -/
lemma Abstracts.init (cfg : Config) : LockRun.init.Abstracts T (Sys.init cfg) :=
  ⟨rfl, rfl, fun _ => rfl⟩

/-- A wake of `T` holding an acquisition holds it in the `LockRun`. -/
lemma Abstracts.held_of_wake (ha : l.Abstracts T s) {j : Nat} {e : Int} {pc : WakePc}
    (hj : s.procs[j]? = some (.wake T (some e) pc)) : l.held j = some e := by
  have h := ha.stands j
  rw [hj, stands_wake] at h
  exact h.1 rfl

/-- What holds after a move for the processes that did not move carries over; the process
that moved, if any, must be shown to stand for its pipeline again. -/
lemma Abstracts.of_step (ha : l.Abstracts T s) (hs : s.step a = some s') (hnow : l'.now = s'.now)
    (hkey : l'.store (keyPrefix ++ T) = s'.locks (keyPrefix ++ T))
    (hheld : ∀ j, (∀ ok, a ≠ .run j ok) → l'.held j = l.held j)
    (hmove : ∀ i ok, a = .run i ok → Stands T (l'.held i) s'.procs[i]?) :
    l'.Abstracts T s' := by
  refine ⟨hnow, hkey, fun j => ?_⟩
  by_cases hm : ∃ ok, a = .run j ok
  · obtain ⟨ok, rfl⟩ := hm
    exact hmove j ok rfl
  push_neg at hm
  rw [hheld j hm]
  by_cases hl : j < s.procs.length
  · rw [Sys.step_others hs hm hl]
    exact ha.stands j
  · have hn : l.held j = none := by
      simpa [List.getElem?_eq_none (Nat.le_of_not_lt hl), Stands] using ha.stands j
    rw [hn]
    rcases hq : s'.procs[j]? with _ | q
    · rfl
    · obtain ⟨r, rfl⟩ := Sys.step_fresh hs (Nat.le_of_not_lt hl) hq
      exact stands_proc r

/-- A move that runs no process and leaves the clock and `T`'s key alone. -/
lemma Abstracts.quiet (ha : l.Abstracts T s) (hs : s.step a = some s') (hnow : s'.now = s.now)
    (hkey : s'.locks (keyPrefix ++ T) = s.locks (keyPrefix ++ T)) (hrun : ∀ i ok, a ≠ .run i ok) :
    l.Abstracts T s' :=
  ha.of_step hs (ha.now.trans hnow.symm) (ha.key.trans hkey.symm) (fun _ _ => rfl)
    (fun i ok h => absurd h (hrun i ok))

/-- After a call of process `i`, the other processes keep standing for their pipelines, and
`i` stands for what its pipeline now holds, `x`. -/
lemma Abstracts.of_run (ha : l.Abstracts T s) {i : Nat} {ok : Bool} (hs : s.step (.run i ok) = some s')
    {x : Option Int} (hnow : l'.now = s'.now) (hkey : l'.store (keyPrefix ++ T) = s'.locks (keyPrefix ++ T))
    (hheld : l'.held = Function.update l.held i x) (hmove : Stands T x s'.procs[i]?) : l'.Abstracts T s' :=
  ha.of_step hs hnow hkey (fun j hj => by rw [hheld, Function.update_noteq fun e => hj ok (by rw [e])])
    fun _ _ he => by cases he; rwa [hheld, Function.update_same]

/-- A `SetNX` of a pipeline holding nothing. -/
lemma step_acquire_of_none (ttl : Int) {i : Nat} (hn : l.held i = none) :
    (l.step T ttl (.acquire i)).now = l.now ∧
      (l.step T ttl (.acquire i)).store = (acquireWakeLock l.store l.now T ttl i).2 ∧
      (l.step T ttl (.acquire i)).held = Function.update l.held i
        (if (acquireWakeLock l.store l.now T ttl i).1 then some (l.now + ttl) else none) := by
  simp only [step, hn, Option.isSome_none, Bool.false_eq_true, if_false]
  rcases hacq : acquireWakeLock l.store l.now T ttl i with ⟨_ | _, st⟩
  · have hf : (acquireWakeLock l.store l.now T ttl i).1 = false := by rw [hacq]
    have hst := acquireWakeLock_snd_of_fst hf
    rw [hacq] at hst
    exact ⟨rfl, hst.symm, by rw [if_neg Bool.false_ne_true, ← hn, Function.update_eq_self]⟩
  · exact ⟨rfl, rfl, rfl⟩

/-- A `ReleaseWakeLock` of a holder. -/
lemma step_release_of_some (ttl : Int) {i : Nat} {e : Int} (he : l.held i = some e) :
    (l.step T ttl (.release i)).now = l.now ∧ (l.step T ttl (.release i)).store = releaseWakeLock l.store T ∧
      (l.step T ttl (.release i)).held = Function.update l.held i none := by
  simp [step, he]

end LockRun

namespace Sys

variable {T : String} {s s' : Sys} {a : Act}

/-- The wakes of `T` in `s` have a `LockRun` standing for them in which the key holds the
entry of every live holder. -/
def LockCoupled (T : String) (s : Sys) : Prop := ∃ l : LockRun, l.Abstracts T s ∧ LockRun.Inv T l

variable {l : LockRun} {i : Nat} {ok : Bool}

/-- A call of a process other than a wake of `T` that leaves `T`'s key and the clock alone
is no event. -/
lemma coupled_of_other (ha : l.Abstracts T s) (hi : LockRun.Inv T l) {p : Proc}
    (hs : s.step (.run i ok) = some s') (hp : s.procs[i]? = some p) (hpT : ∀ lu pc, p ≠ .wake T lu pc)
    (hnow : s'.now = s.now) (hkey : s'.locks (keyPrefix ++ T) = s.locks (keyPrefix ++ T))
    (hq : ∀ q, s'.procs[i]? = some q → ∀ lu pc, q ≠ .wake T lu pc) : s'.LockCoupled T := by
  have hn : l.held i = none :=
    (LockRun.stands_iff_none fun lu pc h => hpT lu pc (Option.some_inj.1 (hp.symm.trans h))).1 (ha.stands i)
  exact ⟨l, ha.of_run hs (ha.now.trans hnow.symm) (ha.key.trans hkey.symm)
    (by rw [← hn, Function.update_eq_self]) ((LockRun.stands_iff_none fun lu pc h => hq _ h lu pc rfl).2 rfl), hi⟩

/-- A call of a wake of `T`: its `SetNX` is the `LockRun`'s acquire, its `ReleaseWakeLock`
that reaches Redis in time the release, and any other call no event. -/
lemma coupled_of_wake (ha : l.Abstracts T s) (hi : LockRun.Inv T l) {lu : Option Int} {pc : WakePc}
    (hg : s.releasesInTime T (.run i ok) = true) (hs : s.step (.run i ok) = some s')
    (hp : s.procs[i]? = some (.wake T lu pc)) (hps : s.wakeStep i ok T lu pc = some s') : s'.LockCoupled T := by
  have hst := ha.stands i
  rw [hp, LockRun.stands_wake] at hst
  obtain ⟨hlu, hlock, hlocked⟩ := hst
  obtain ⟨lu', pc', hi', hnow, hlk⟩ := wakeStep_lock hp hps
  rcases hlk with ⟨hkeep, rfl, hpc, hpc'⟩ | ⟨r, rfl, rfl, hkey, hpc, hpc', hlu'⟩ | ⟨r, rfl, rfl, rfl, hkey⟩
  · -- a call that leaves the lock alone
    refine ⟨l, ha.of_run hs (ha.now.trans hnow.symm) (by rw [hkeep]; exact ha.key)
      (Function.update_eq_self i l.held).symm ?_, hi⟩
    rw [hi', LockRun.stands_wake]
    exact ⟨hlu, fun h => hpc (hlock h), fun h => hlocked (hpc' h)⟩
  · -- the `SetNX`: the pipeline held nothing, and holds what the wake records
    have hn : l.held i = none :=
      Option.not_isSome_iff_eq_none.1 fun h => by simpa [WakePc.locking] using hlock h
    have hlu₀ : lu = none := Option.not_isSome_iff_eq_none.1 fun h => by
      have e := hlu h
      rw [hn] at e
      subst e
      cases h
    obtain ⟨hb, hk⟩ := acquireWakeLock_congr s.now s.cfg.wakeLockTTL i ha.key
    obtain ⟨hnow', hstore', hheld'⟩ := LockRun.step_acquire_of_none (T := T) s.cfg.wakeLockTTL hn
    rw [ha.now] at hstore' hheld'
    refine ⟨l.step T s.cfg.wakeLockTTL (.acquire i), ha.of_run hs (hnow'.trans (ha.now.trans hnow.symm))
      (by rw [hstore', hkey, hk]) hheld' ?_, LockRun.inv_step hi rfl⟩
    rw [hi', LockRun.stands_wake, hlu', hlu₀, hb]
    refine ⟨fun _ => rfl, fun _ => hpc, fun h => ?_⟩
    rw [hpc'] at h
    simp [h]
  · -- the `ReleaseWakeLock`: the pipeline held the wake's acquisition
    obtain ⟨e, rfl⟩ := Option.isSome_iff_exists.1 (hlocked rfl)
    have he : l.held i = some e := hlu rfl
    cases ok
    · refine ⟨l, ha.of_run hs (ha.now.trans hnow.symm) (by rw [hkey]; exact ha.key)
        ((Function.update_eq_self i l.held).symm.trans (congrArg _ he)) ?_, hi⟩
      rw [hi', LockRun.stands_wake]
      exact ⟨fun h => absurd h Bool.false_ne_true, fun _ => rfl, fun h => absurd h Bool.false_ne_true⟩
    · have hlt : s.now < e := by simpa [releasesInTime, hp] using hg
      obtain ⟨hnow', hstore', hheld'⟩ := LockRun.step_release_of_some (T := T) 0 he
      refine ⟨l.step T 0 (.release i), ha.of_run hs (hnow'.trans (ha.now.trans hnow.symm))
        (by simp [hstore', hkey, releaseWakeLock]) hheld' ?_,
        LockRun.inv_step hi (by simp [LockRun.inTime, he, ha.now, hlt])⟩
      rw [hi', LockRun.stands_wake]
      exact ⟨fun _ => rfl, fun h => absurd h Bool.false_ne_true, fun h => absurd h Bool.false_ne_true⟩

/-- **Every allowed move of the deployment is a `LockRun` event, or none.** -/
lemma LockCoupled.step (h : s.LockCoupled T) (hg : s.releasesInTime T a = true) (hs : s.step a = some s') :
    s'.LockCoupled T := by
  obtain ⟨l, ha, hi⟩ := h
  cases a with
  | request r => exact ⟨l, ha.quiet hs (by cases hs; rfl) (by cases hs; rfl) (fun _ _ h => nomatch h), hi⟩
  | tick d =>
    cases hs
    exact ⟨l.step T 0 (.tick d), ⟨by simp [LockRun.step, ha.now], ha.key, ha.stands⟩, LockRun.inv_step hi rfl⟩
  | podReady | podGone | podLost | warmReplica =>
    obtain ⟨c, -, rfl⟩ := Option.map_eq_some'.1 hs
    exact ⟨l, ha.quiet hs rfl rfl (fun _ _ h => nomatch h), hi⟩
  | run i ok =>
    obtain ⟨p, hp, hps⟩ := Option.bind_eq_some.1 hs
    cases p with
    | wake t lu pc =>
      by_cases htT : t = T
      · subst t
        exact coupled_of_wake ha hi hg hs hp hps
      -- a wake of another tenant: `T`'s key is not its own
      have hne : keyPrefix ++ T ≠ keyPrefix ++ t := fun h => htT (prefixed_inj h).symm
      obtain ⟨lu', pc', hi', hnow, hlk⟩ := wakeStep_lock hp hps
      refine coupled_of_other ha hi hs hp (fun _ _ h => htT (Proc.wake.inj h).1) hnow ?_ fun q hq _ _ h => ?_
      · rcases hlk with ⟨hkeep, -⟩ | ⟨-, -, -, hkey, -⟩ | ⟨-, -, -, -, hkey⟩
        · rw [hkeep]
        · rw [hkey, acquireWakeLock_other hne]
        · rw [hkey]; split <;> simp [releaseWakeLock_other hne]
      · rw [hi', Option.some_inj] at hq
        subst hq
        exact htT (Proc.wake.inj h).1
    | _ =>
      obtain ⟨hlk, hnow⟩ := procStep_locks (by simp [Proc.tag]) hps
      exact coupled_of_other ha hi hs hp (fun _ _ h => nomatch h) hnow (by rw [hlk]) fun q hq _ _ h => by
        obtain ⟨p', hp', ht⟩ := step_self hs hq
        rw [hp, Option.some_inj] at hp'
        subst hp' h
        cases ht

end Sys

/-- **The wake lock of `T` is exclusive in the deployment when its wakes release in time.**
In every run of the deployment, any interleaving of requests, calls of every process (each
succeeding or failing), clock ticks and cluster moves, in which each `ReleaseWakeLock` of a
wake of `T` that reaches Redis comes before the acquisition it releases expires, two wakes of
`T` holding unexpired acquisitions of `T`'s lock are the same process. -/
theorem deployment_wake_lock_exclusive {cfg : Config} {T : String} {acts : List Act} {s : Sys}
    (hr : (Sys.init cfg).runGuarded (Sys.releasesInTime T) acts = some s) {p q : Nat} {e e' : Int}
    {pc pc' : WakePc} (hp : s.procs[p]? = some (.wake T (some e) pc))
    (hq : s.procs[q]? = some (.wake T (some e') pc')) (he : s.now < e) (he' : s.now < e') : p = q := by
  obtain ⟨l, ha, hi⟩ := Sys.runGuarded_induct (Sys.LockCoupled T) (fun _ _ _ h hg hs => h.step hg hs)
    ⟨LockRun.init, LockRun.Abstracts.init cfg, LockRun.inv_init⟩ hr
  have h₁ := hi p e (ha.held_of_wake hp) (ha.now ▸ he)
  rw [hi q e' (ha.held_of_wake hq) (ha.now ▸ he'), Option.some_inj] at h₁
  exact (LockEntry.mk.inj h₁).2.2.symm

/-- Two wakes of tenant `a`: the first takes the lock, the second's `SetNX` fails. -/
def contendedWakeRun : List Act :=
  [.request (.wake "a"), .request (.wake "a"), .run 0 true, .run 0 true, .run 1 true, .run 1 true]

/-- After the contended run, wake 0 holds the lock of `a` unexpired, and every wake of `a`
that holds an unexpired acquisition is wake 0. -/
theorem contended_wake_holds_alone :
    let s := Sys.runFrom (Config.orchestrator "tenants" false) contendedWakeRun
    (Sys.init (Config.orchestrator "tenants" false)).runGuarded (Sys.releasesInTime "a") contendedWakeRun =
        some s ∧ s.procs[0]? = some (.wake "a" (some (240 * nsPerSec)) .autoCreate) ∧
      s.now < 240 * nsPerSec ∧
      ∀ q e pc, s.procs[q]? = some (.wake "a" (some e) pc) → s.now < e → q = 0 := by
  intro s
  have hr : (Sys.init (Config.orchestrator "tenants" false)).runGuarded (Sys.releasesInTime "a")
      contendedWakeRun = some s :=
    @Sys.runGuarded_runFrom _ (Sys.releasesInTime "a") [] contendedWakeRun rfl (by decide)
  have hp : s.procs[0]? = some (.wake "a" (some (240 * nsPerSec)) .autoCreate) := by decide
  have hlt : s.now < 240 * nsPerSec := by decide
  exact ⟨hr, hp, hlt, fun q e pc hq he => deployment_wake_lock_exclusive hr hq hp he hlt⟩

end Tenancy

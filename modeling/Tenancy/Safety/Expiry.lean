import Tenancy.Invariant.Frame

/-!
How long the deployment's two Redis entries with a TTL can outlive the moment they were
written: the wake lock `tenant:waking:<id>` (`AcquireWakeLock` of `internal/lock/lock.go`,
`SetNX` with `WakeLockTTL`) and the router's endpoint `router:endpoint:<id>` (`SET … EX 5m`
of `handleTelegramUpdate`, `cmd/router`).

* `Sys.Renews`: what one move can do to them: it keeps the configuration, does not turn the
  clock back, and every entry it leaves is one that was there or one written at the clock
  of the move with its full TTL;
* `Sys.Expiring`: every lock expires within `wakeLockTTL` of the clock, and every endpoint
  within `endpointCacheTTL`; `Sys.Renews.expiring`: every move keeps it;
* `Sys.step_renews`: every move is a `Renews`, the writes being `AcquireWakeLock` and
  `ReleaseWakeLock`, the router's `SET` and `DEL`, `DeleteTenant`'s and the reconciler's
  `DEL`;
* `stale_entries_expire`: **in every reachable deployment, once the clock has advanced by
  `wakeLockTTL`, Redis serves no wake lock written before, and once it has advanced by
  `endpointCacheTTL`, no endpoint cached before**: a pipeline that never releases its lock
  blocks the tenant's wakes for at most `wakeLockTTL`, and an address the router cached
  is served for at most five minutes, whatever happened to the pod.
-/

namespace Tenancy

namespace Sys

/-- What one move can do to the wake locks and the cached endpoints. -/
structure Renews (s s' : Sys) : Prop where
  cfg : s'.cfg = s.cfg
  now : s.now ≤ s'.now
  locks : ∀ key e, s'.locks key = some e → s.locks key = some e ∨ e.expiresAt = s.now + s.cfg.wakeLockTTL
  cache : ∀ t e, s'.cache t = some e → s.cache t = some e ∨ e.expiresAt = s.now + endpointCacheTTL

/-- Every wake lock expires within `wakeLockTTL` of the clock, and every cached endpoint
within `endpointCacheTTL`. -/
structure Expiring (s : Sys) : Prop where
  locks : ∀ key e, s.locks key = some e → e.expiresAt ≤ s.now + s.cfg.wakeLockTTL
  cache : ∀ t e, s.cache t = some e → e.expiresAt ≤ s.now + endpointCacheTTL

variable {s s' : Sys}

lemma Renews.expiring (hr : s.Renews s') (h : s.Expiring) : s'.Expiring := by
  have hn := hr.now
  refine ⟨fun key e he => ?_, fun t e he => ?_⟩
  · rw [hr.cfg]
    rcases hr.locks key e he with he | he
    · have := h.locks key e he; omega
    · omega
  · rcases hr.cache t e he with he | he
    · have := h.cache t e he; omega
    · omega

/-! ### The moves that write them -/

/-- A move that writes neither. -/
lemma Renews.of_eq (hl : s'.locks = s.locks) (hc : s'.cache = s.cache) (hn : s'.now = s.now)
    (hcfg : s'.cfg = s.cfg) : s.Renews s' :=
  ⟨hcfg, hn.ge, fun _ _ he => .inl (hl ▸ he), fun _ _ he => .inl (hc ▸ he)⟩

/-- `AcquireWakeLock` with the configured TTL. -/
lemma Renews.acquire {t : String} {o : Nat} {b : Bool} {locks : LockStore}
    (heq : acquireWakeLock s.locks s.now t s.cfg.wakeLockTTL o = (b, locks)) (hl : s'.locks = locks)
    (hc : s'.cache = s.cache) (hn : s'.now = s.now) (hcfg : s'.cfg = s.cfg) : s.Renews s' := by
  refine ⟨hcfg, hn.ge, fun key e he => ?_, fun _ _ he => .inl (hc ▸ he)⟩
  rw [hl] at he
  unfold acquireWakeLock at heq
  split at heq <;> cases heq
  · exact .inl he
  · by_cases hk : key = keyPrefix ++ t
    · subst hk
      rw [Function.update_same] at he
      cases he
      exact .inr rfl
    · exact .inl (by rwa [Function.update_noteq hk] at he)

/-- `ReleaseWakeLock`. -/
lemma Renews.release {t : String} (hl : s'.locks = releaseWakeLock s.locks t) (hc : s'.cache = s.cache)
    (hn : s'.now = s.now) (hcfg : s'.cfg = s.cfg) : s.Renews s' := by
  refine ⟨hcfg, hn.ge, fun key e he => .inl ?_, fun _ _ he => .inl (hc ▸ he)⟩
  rw [hl, releaseWakeLock] at he
  by_cases hk : key = keyPrefix ++ t
  · subst hk; rw [Function.update_same] at he; cases he
  · rwa [Function.update_noteq hk] at he

/-- Writing or dropping one cached endpoint, a written one with the full TTL. -/
lemma Renews.update_cache {t : String} {v : Option CacheEntry}
    (hv : ∀ e, v = some e → e.expiresAt = s.now + endpointCacheTTL) (hl : s'.locks = s.locks)
    (hc : s'.cache = Function.update s.cache t v) (hn : s'.now = s.now) (hcfg : s'.cfg = s.cfg) :
    s.Renews s' := by
  refine ⟨hcfg, hn.ge, fun _ _ he => .inl (hl ▸ he), fun t' e he => ?_⟩
  rw [hc] at he
  by_cases ht : t' = t
  · subst ht; rw [Function.update_same] at he; exact .inr (hv e he)
  · exact .inl (by rwa [Function.update_noteq ht] at he)

/-- Dropping one cached endpoint. -/
lemma Renews.drop_cache {t : String} (hl : s'.locks = s.locks) (hc : s'.cache = Function.update s.cache t none)
    (hn : s'.now = s.now) (hcfg : s'.cfg = s.cfg) : s.Renews s' :=
  .update_cache (v := none) (fun _ h => nomatch h) hl hc hn hcfg

/-- Caching `ip` with the full TTL. -/
lemma Renews.put_cache {t ip : String} (hl : s'.locks = s.locks)
    (hc : s'.cache = Function.update s.cache t (some ⟨ip, s.now + endpointCacheTTL⟩)) (hn : s'.now = s.now)
    (hcfg : s'.cfg = s.cfg) : s.Renews s' :=
  .update_cache (fun _ h => by cases h; rfl) hl hc hn hcfg

/-! ### Every move -/

variable {i : Nat} {ok : Bool}

lemma procStep_renews {p : Proc} (hs : s.procStep i ok p = some s') : s.Renews s' := by
  cases p with
  | wake t lu pc =>
    cases pc <;> simp only [procStep, wakeStep] at hs
    case acquire =>
      split at hs
      · split at hs <;> cases hs
        · exact .acquire ‹_› rfl rfl rfl rfl
        · exact .of_eq rfl rfl rfl rfl
      · cases hs; exact .of_eq rfl rfl rfl rfl
    case release r =>
      split at hs <;> cases hs <;> split
      all_goals first | exact .release rfl rfl rfl rfl | exact .of_eq rfl rfl rfl rfl
    case waitReady =>
      split at hs
      · obtain ⟨p, -, rfl⟩ := Option.map_eq_some'.1 hs
        exact .of_eq rfl rfl rfl rfl
      · cases hs; exact .of_eq rfl rfl rfl rfl
    all_goals (repeat' split at hs) <;> (try cases hs) <;> exact .of_eq rfl rfl rfl rfl
  | router t text pc =>
    cases pc <;> simp only [procStep, routerStep] at hs
    case setCache ip =>
      cases hs
      split
      · exact .put_cache rfl rfl rfl rfl
      · exact .of_eq rfl rfl rfl rfl
    case forward ip =>
      (repeat' split at hs) <;> cases hs
      all_goals first | exact .drop_cache rfl rfl rfl rfl | exact .of_eq rfl rfl rfl rfl
    all_goals (repeat' split at hs) <;> (try cases hs) <;> exact .of_eq rfl rfl rfl rfl
  | idle pc =>
    cases pc <;> simp only [procStep, idleStep] at hs
    case check ts => cases ts <;> simp only at hs <;> (repeat' split at hs) <;> cases hs <;> exact .of_eq rfl rfl rfl rfl
    all_goals (repeat' split at hs) <;> (try cases hs) <;> exact .of_eq rfl rfl rfl rfl
  | reconcile pc =>
    cases pc <;> simp only [procStep, reconcileStep] at hs
    case check ts => cases ts <;> simp only at hs <;> (repeat' split at hs) <;> cases hs <;> exact .of_eq rfl rfl rfl rfl
    case clearCache =>
      cases hs
      split
      · exact .drop_cache rfl rfl rfl rfl
      · exact .of_eq rfl rfl rfl rfl
    all_goals (repeat' split at hs) <;> (try cases hs) <;> exact .of_eq rfl rfl rfl rfl
  | createTenant t tok n pc | updateTenant t tok n pc =>
    cases pc <;> simp only [procStep, createTenantStep, updateTenantStep] at hs
    all_goals (repeat' split at hs) <;> (try cases hs) <;> exact .of_eq rfl rfl rfl rfl
  | deleteTenant t clean pc =>
    cases pc <;> simp only [procStep, deleteTenantStep] at hs
    case clearCache =>
      split at hs <;> cases hs
      · exact .drop_cache rfl rfl rfl rfl
      · exact .of_eq rfl rfl rfl rfl
    all_goals (repeat' split at hs) <;> (try cases hs) <;> exact .of_eq rfl rfl rfl rfl
  | updateActivity t fin =>
    cases fin <;> simp only [procStep, updateActivityStep] at hs <;> cases hs
    exact .of_eq rfl rfl rfl rfl

/-- **Every move is a `Renews`.** -/
lemma step_renews {a : Act} (hs : s.step a = some s') : s.Renews s' := by
  cases a with
  | run i ok =>
    obtain ⟨p, -, hp⟩ := Option.bind_eq_some.1 hs
    exact procStep_renews hp
  | request r => cases hs; exact .of_eq rfl rfl rfl rfl
  | tick d => cases hs; exact ⟨rfl, by simp, fun _ _ he => .inl he, fun _ _ he => .inl he⟩
  | podReady | podGone | podLost | warmReplica =>
    obtain ⟨c, -, rfl⟩ := Option.map_eq_some'.1 hs
    exact .of_eq rfl rfl rfl rfl

end Sys

/-- In every reachable deployment, every wake lock expires within `wakeLockTTL` of the
clock, and every cached endpoint within `endpointCacheTTL`. -/
lemma Reachable.expiring {cfg : Config} {s : Sys} (hs : Reachable cfg s) : s.Expiring :=
  let ⟨_, hr⟩ := hs
  Sys.run_induct _ (fun _ _ _ h hs => (Sys.step_renews hs).expiring h)
    (s := Sys.init cfg) ⟨fun _ _ h => (nomatch h), fun _ _ h => (nomatch h)⟩ hr

/-- **Stale locks and endpoints expire.** In every reachable deployment, after the clock
advances by `d`: if `d` is at least `wakeLockTTL`, Redis serves no wake lock; if `d` is at
least `endpointCacheTTL`, the router's cache serves no endpoint. -/
theorem stale_entries_expire {cfg : Config} {s s' : Sys} (hs : Reachable cfg s) {d : Nat}
    (htick : s.step (.tick d) = some s') (t : String) :
    (cfg.wakeLockTTL ≤ d → s'.locks.get s'.now (keyPrefix ++ t) = none) ∧
      (endpointCacheTTL ≤ d → s'.cacheGet t = none) := by
  cases htick
  have h := hs.expiring
  obtain rfl := hs.cfg_eq
  refine ⟨fun hd => ?_, fun hd => ?_⟩
  · cases he : s.locks (keyPrefix ++ t) with
    | none => simp [LockStore.get, he]
    | some e =>
      have := h.locks _ e he
      simp [LockStore.get, he, Option.filter]
      omega
  · cases he : s.cache t with
    | none => simp [Sys.cacheGet, he]
    | some e =>
      have := h.cache t e he
      simp [Sys.cacheGet, he, Option.filter]
      omega

/-- A wake of the unknown tenant `a` whose `CreatePVC` fails and whose `ReleaseWakeLock`
fails too: it returns with the lock still set. -/
def leakedLockRun : List Act :=
  [.request (.wake "a"), .run 0 true, .run 0 true, .run 0 true, .run 0 false, .run 0 false]

theorem leaked_lock_expires :
    let s := Sys.runFrom (Config.orchestrator "tenants" false) leakedLockRun
    Reachable (Config.orchestrator "tenants" false) s ∧ s.procs[0]? = some (.wake "a" none (.done none)) ∧
      (s.locks.get s.now (keyPrefix ++ "a")).isSome ∧
      ({ s with now := s.now + 240000000000 } : Sys).locks.get (s.now + 240000000000) (keyPrefix ++ "a") = none := by
  intro s
  have hs : Reachable (Config.orchestrator "tenants" false) s := Reachable.runFrom (by decide)
  exact ⟨hs, by decide, by decide, (stale_entries_expire hs (d := 240000000000) rfl "a").1 (by decide)⟩

end Tenancy

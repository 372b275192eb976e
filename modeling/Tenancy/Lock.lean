import Mathlib.Logic.Function.Basic
import Tenancy.Registry.Record

/-!
The wake lock of `internal/lock/lock.go`.

* `acquireWakeLock`, `releaseWakeLock`: `RedisLocker`'s `SET tenant:waking:<id> "1" NX` with
  a TTL, and its unconditional `DEL`. A key past its TTL reads as absent (`LockStore.get`).
  `LockEntry.owner` is ghost state, the pipeline whose `SET` wrote the entry: Redis holds
  the constant `"1"`, so `DEL` cannot tell whose lock it removes.
* `LockRun`: the pipelines acquiring and releasing one tenant's lock while the clock runs
  past TTLs. `Live p` says that `p` holds an acquisition that has neither expired nor been
  released by `p`.
* `release_drops_another_holders_lock`: a pipeline that outlives its TTL deletes the lock
  a second pipeline acquired meanwhile, and a third acquires it too: two live holders.
* `wake_lock_exclusive_of_timely_release`: in every run in which each pipeline releases
  the lock before its own acquisition expires, at most one pipeline is a live holder at
  every moment. The invariant (`LockRun.Inv`) is that the key holds the entry of every
  live holder.
-/

namespace Tenancy

/-- `keyPrefix`. -/
def keyPrefix : String := "tenant:waking:"

/-- Names built from one prefix are equal only for equal suffixes. -/
lemma prefixed_inj {pre t x : String} (h : pre ++ t = pre ++ x) : t = x := by
  have := congrArg String.data h
  simp only [String.data_append, List.append_cancel_left_eq] at this
  exact String.ext this

/-- A Redis string value with its expiry, and (ghost) the pipeline that wrote it. -/
structure LockEntry where
  value : String
  expiresAt : Int
  owner : Nat
  deriving DecidableEq, Repr

/-- The Redis keyspace of the wake locks. -/
abbrev LockStore := String → Option LockEntry

/-- The value of `key` as Redis serves it at `now`: none past its TTL. -/
def LockStore.get (store : LockStore) (now : Int) (key : String) : Option LockEntry :=
  (store key).filter fun e => decide (now < e.expiresAt)

/-- `AcquireWakeLock`: `SetNX(key, "1", ttl)`, true when the key was free. -/
def acquireWakeLock (store : LockStore) (now : Int) (tenantID : String) (ttl : Int)
    (owner : Nat) : Bool × LockStore :=
  match store.get now (keyPrefix ++ tenantID) with
  | some _ => (false, store)
  | none => (true, Function.update store (keyPrefix ++ tenantID) (some ⟨"1", now + ttl, owner⟩))

/-- `ReleaseWakeLock`: `Del(key)`, whoever wrote it. -/
def releaseWakeLock (store : LockStore) (tenantID : String) : LockStore :=
  Function.update store (keyPrefix ++ tenantID) none

/-! ### Pipelines on one tenant's lock -/

/-- The clock, the keyspace, and for each pipeline the expiry of the acquisition it holds,
from its successful `AcquireWakeLock` to its `ReleaseWakeLock`. -/
structure LockRun where
  now : Int
  store : LockStore
  held : Nat → Option Int

/-- A pipeline's call on the lock, or the clock moving on. -/
inductive LockEv
  | acquire (p : Nat)
  | release (p : Nat)
  | tick (d : Nat)
  deriving DecidableEq, Repr

namespace LockRun

variable (tenantID : String) (ttl : Int)

/-- No lock taken, the clock at zero. -/
def init : LockRun := ⟨0, fun _ => none, fun _ => none⟩

/-- One event: a pipeline acquires once, and releases (deferred) only what it acquired. -/
def step (s : LockRun) : LockEv → LockRun
  | .acquire p =>
    if (s.held p).isSome then s else
    match acquireWakeLock s.store s.now tenantID ttl p with
    | (true, store) => { s with store := store, held := Function.update s.held p (some (s.now + ttl)) }
    | (false, _) => s
  | .release p =>
    if (s.held p).isSome then
      { s with store := releaseWakeLock s.store tenantID, held := Function.update s.held p none }
    else s
  | .tick d => { s with now := s.now + d }

/-- A run of events. -/
def run (s : LockRun) (evs : List LockEv) : LockRun := evs.foldl (step tenantID ttl) s

/-- `p` holds an acquisition that has not expired and that it has not released. -/
def Live (s : LockRun) (p : Nat) : Prop := ∃ e, s.held p = some e ∧ s.now < e

/-- A release made before the releasing pipeline's own acquisition expired. -/
def inTime (s : LockRun) : LockEv → Bool
  | .release p => match s.held p with
    | some e => decide (s.now < e)
    | none => true
  | _ => true

/-- Every release of the run is made in time. -/
def releasesInTime : LockRun → List LockEv → Bool
  | _, [] => true
  | s, e :: es => inTime s e && releasesInTime (step tenantID ttl s e) es

end LockRun

/-- The lock with its default TTL, `WakeLockTTL = 240 * time.Second`. -/
def defaultWakeLockTTL : Int := 240 * nsPerSec

/-- **Two live holders.** Pipeline 0 acquires and outlives its TTL; pipeline 1 acquires;
pipeline 0's deferred `DEL` removes pipeline 1's lock; pipeline 2 acquires. Pipelines 1 and
2 then both hold unexpired, unreleased acquisitions. -/
theorem release_drops_another_holders_lock :
    ¬ ∀ evs p q, LockRun.Live (LockRun.run "a" defaultWakeLockTTL LockRun.init evs) p →
      LockRun.Live (LockRun.run "a" defaultWakeLockTTL LockRun.init evs) q → p = q := by
  intro h
  have := h [.acquire 0, .tick (240 * 1000000000), .acquire 1, .release 0, .acquire 2] 1 2
    ⟨480 * 1000000000, by decide⟩ ⟨480 * 1000000000, by decide⟩
  exact absurd this (by decide)

namespace LockRun

variable {tenantID : String} {ttl : Int}

/-- The key holds the entry of every live holder. -/
def Inv (tenantID : String) (s : LockRun) : Prop :=
  ∀ p e, s.held p = some e → s.now < e → s.store (keyPrefix ++ tenantID) = some ⟨"1", e, p⟩

lemma inv_init : Inv tenantID init := fun _ _ h => by simp [init] at h

/-- A live holder's entry makes every other `SET NX` fail. -/
lemma acquire_fails_of_live (ttl : Int) {s : LockRun} (hi : Inv tenantID s) {p : Nat}
    (hp : Live s p) (q : Nat) : (acquireWakeLock s.store s.now tenantID ttl q).1 = false := by
  obtain ⟨e, he, hlt⟩ := hp
  simp [acquireWakeLock, LockStore.get, hi p e he hlt, hlt, Option.filter]

lemma inv_step {s : LockRun} (hi : Inv tenantID s) {ev : LockEv} (ht : inTime s ev = true) :
    Inv tenantID (step tenantID ttl s ev) := by
  cases ev with
  | acquire q =>
    simp only [step]
    split_ifs with hq
    · exact hi
    · split
      · next store hacq =>
        have hfree : ∀ p, ¬ Live s p := fun p hp => by
          have := acquire_fails_of_live ttl hi hp q
          rw [hacq] at this
          cases this
        intro p e he hlt
        simp only at he hlt ⊢
        unfold acquireWakeLock at hacq
        split at hacq
        · cases hacq
        · cases hacq
          by_cases hpq : p = q
          · subst hpq; simp at he; subst he; simp
          · rw [Function.update_noteq hpq] at he
            exact absurd ⟨e, he, hlt⟩ (hfree p)
      · exact hi
  | release q =>
    simp only [step]
    split_ifs with hq
    · obtain ⟨e, he⟩ := Option.isSome_iff_exists.1 hq
      have hqe : s.now < e := by simpa [inTime, he] using ht
      intro p e' he' hlt
      simp only at he' hlt
      by_cases hpq : p = q
      · subst hpq; simp at he'
      · rw [Function.update_noteq hpq] at he'
        have h1 := hi p e' he' hlt
        have h2 := hi q e he hqe
        rw [h1] at h2
        cases h2; exact absurd rfl hpq
    · exact hi
  | tick d =>
    intro p e he hlt
    exact hi p e he (by simp only [step] at hlt; omega)

lemma inv_run : ∀ (s : LockRun) (evs : List LockEv), Inv tenantID s →
    releasesInTime tenantID ttl s evs = true → Inv tenantID (run tenantID ttl s evs)
  | _, [], hi, _ => hi
  | s, ev :: evs, hi, ht => by
    simp only [releasesInTime, Bool.and_eq_true] at ht
    exact inv_run _ evs (inv_step hi ht.1) ht.2

/-- **The wake lock is exclusive when pipelines release in time.** In every run in which
each pipeline's `ReleaseWakeLock` comes before its own acquisition expires, at most one
pipeline holds an unexpired, unreleased acquisition. -/
theorem wake_lock_exclusive_of_timely_release (evs : List LockEv)
    (ht : releasesInTime tenantID ttl init evs = true) (p q : Nat)
    (hp : Live (run tenantID ttl init evs) p) (hq : Live (run tenantID ttl init evs) q) :
    p = q := by
  have hi := inv_run init evs inv_init ht
  obtain ⟨e, he, hlt⟩ := hp
  obtain ⟨e', he', hlt'⟩ := hq
  have := (hi p e he hlt).symm.trans (hi q e' he' hlt')
  cases this
  rfl

end LockRun

/-- Pipeline 0 takes the lock and releases it in time; pipeline 1 then takes it, and every
pipeline holding it unexpired is pipeline 1. -/
theorem wake_lock_exclusive_sample :
    LockRun.releasesInTime "a" defaultWakeLockTTL LockRun.init
        [.acquire 0, .tick 1000000000, .release 0, .acquire 1] = true ∧
      LockRun.Live (LockRun.run "a" defaultWakeLockTTL LockRun.init
        [.acquire 0, .tick 1000000000, .release 0, .acquire 1]) 1 ∧
      ∀ q, LockRun.Live (LockRun.run "a" defaultWakeLockTTL LockRun.init
        [.acquire 0, .tick 1000000000, .release 0, .acquire 1]) q → q = 1 :=
  ⟨by decide, ⟨241 * 1000000000, by decide⟩, fun q hq =>
    LockRun.wake_lock_exclusive_of_timely_release _ (by decide) q 1 hq ⟨241 * 1000000000, by decide⟩⟩

end Tenancy

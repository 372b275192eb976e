import Tenancy.Lock

/-!
`MockLocker` against `RedisLocker` (`internal/lock/lock.go`): how far the tests' wake lock
stands for production. The handler's tests run `wakeOrGet` over `lock.NewMock()`.

* `MockLocker.acquireWakeLock`, `MockLocker.releaseWakeLock`: the mock's map of taken locks,
  one call at a time behind its channel mutex; the TTL is not looked at;
* `LockCall`, `RedisLocker.exec`, `MockLocker.exec`: a sequence of calls, each at a clock
  reading, on Redis and on the mock;
* `MockStands`: the mock's map holds exactly the tenants whose key Redis holds unexpired;
* `LockCallsInTime`: the clock never goes back, every acquire asks for a positive TTL, and no
  key Redis holds expires before the next call; `lockCallsInTime_of_same_reading`: calls
  within one clock reading, as in `lock_test.go`, are in time;
* `lockers_agree_in_time`: **on every such sequence of calls, the mock answers every call as
  Redis does, and afterwards holds exactly the tenants whose key Redis holds unexpired**. The
  condition is what the mock leaves out: Redis frees a key whose TTL has run out, the mock
  keeps the entry until it is released.
-/

namespace Tenancy

/-- `MockLocker.locks`: whether each tenant's entry is set; a deleted entry reads `false`,
Go's zero value. -/
abbrev MockLocks := String → Bool

namespace MockLocker

/-- `MockLocker.AcquireWakeLock`: false when the tenant's entry is set, otherwise set it and
true. -/
def acquireWakeLock (locks : MockLocks) (tenantID : String) : Bool × MockLocks :=
  if locks tenantID then (false, locks) else (true, Function.update locks tenantID true)

/-- `MockLocker.ReleaseWakeLock`: `delete(m.locks, tenantID)`. -/
def releaseWakeLock (locks : MockLocks) (tenantID : String) : MockLocks :=
  Function.update locks tenantID false

end MockLocker

/-- One call of the `Locker` interface. -/
inductive LockCall
  | acquire (tenantID : String) (ttl : Int)
  | release (tenantID : String)
  deriving DecidableEq, Repr

/-- One call on Redis at clock reading `now`: `true` for an acquired lock, and for a release,
which returns no error. The ghost owner is `0`. -/
def RedisLocker.call (store : LockStore) (now : Int) : LockCall → Bool × LockStore
  | .acquire t ttl => acquireWakeLock store now t ttl 0
  | .release t => (true, releaseWakeLock store t)

/-- One call on the mock, which reads no clock. -/
def MockLocker.call (locks : MockLocks) : LockCall → Bool × MockLocks
  | .acquire t _ => MockLocker.acquireWakeLock locks t
  | .release t => (true, MockLocker.releaseWakeLock locks t)

/-- A sequence of calls, each with its clock reading, on Redis. -/
def RedisLocker.exec (store : LockStore) : List (Int × LockCall) → List Bool × LockStore
  | [] => ([], store)
  | (now, c) :: cs =>
    let p := RedisLocker.call store now c
    let q := RedisLocker.exec p.2 cs
    (p.1 :: q.1, q.2)

/-- A sequence of calls on the mock. -/
def MockLocker.exec (locks : MockLocks) : List (Int × LockCall) → List Bool × MockLocks
  | [] => ([], locks)
  | (_, c) :: cs =>
    let p := MockLocker.call locks c
    let q := MockLocker.exec p.2 cs
    (p.1 :: q.1, q.2)

/-- The mock's map holds exactly the tenants whose key Redis holds unexpired at `now`. -/
def MockStands (locks : MockLocks) (store : LockStore) (now : Int) : Prop :=
  ∀ t, locks t = (store.get now (keyPrefix ++ t)).isSome

/-- The calls come at clock readings that never go back, each before any key Redis holds
unexpired at the reading before expires, and every acquire asks for a positive TTL. -/
def LockCallsInTime : LockStore → Int → List (Int × LockCall) → Prop
  | _, _, [] => True
  | store, prev, (now, c) :: cs =>
    prev ≤ now ∧ (∀ key e, store.get prev key = some e → now < e.expiresAt) ∧
      (∀ t ttl, c = .acquire t ttl → 0 < ttl) ∧ LockCallsInTime (RedisLocker.call store now c).2 now cs

/-- Redis serves only a key whose TTL has not run out. -/
lemma LockStore.lt_of_get {store : LockStore} {now : Int} {key : String} {e : LockEntry}
    (h : store.get now key = some e) : now < e.expiresAt := by
  unfold LockStore.get at h
  cases hk : store key with
  | none => rw [hk] at h; cases h
  | some e' =>
    rw [hk, Option.filter] at h
    split_ifs at h with hlt
    cases h
    exact of_decide_eq_true hlt

/-- Calls made at one clock reading with positive TTLs are in time. -/
lemma lockCallsInTime_of_same_reading : ∀ (calls : List (Int × LockCall)) (store : LockStore) (now : Int),
    (∀ c ∈ calls, c.1 = now ∧ ∀ t ttl, c.2 = .acquire t ttl → 0 < ttl) → LockCallsInTime store now calls
  | [], _, _, _ => trivial
  | (_, c) :: cs, store, now, h => by
    obtain ⟨rfl, hc⟩ := h _ (List.mem_cons_self _ _)
    exact ⟨le_rfl, fun _ _ he => LockStore.lt_of_get he, hc,
      lockCallsInTime_of_same_reading cs _ _ fun c hc => h c (List.mem_cons_of_mem _ hc)⟩

section Agree

variable {locks : MockLocks} {store : LockStore} {prev now : Int}

/-- A clock moving on before any unexpired key expires keeps what Redis holds. -/
lemma MockStands.later (hs : MockStands locks store prev) (hle : prev ≤ now)
    (hlive : ∀ key e, store.get prev key = some e → now < e.expiresAt) : MockStands locks store now := by
  intro t
  rw [hs t]
  cases he : store (keyPrefix ++ t) with
  | none => simp [LockStore.get, he]
  | some e =>
    by_cases hp : prev < e.expiresAt
    · have hn := hlive (keyPrefix ++ t) e (by simp [LockStore.get, he, Option.filter, hp])
      simp [LockStore.get, he, Option.filter, hp, hn]
    · simp [LockStore.get, he, Option.filter, hp, show ¬ now < e.expiresAt by omega]

/-- One call: the same answer, and the mock still holds what Redis holds. -/
lemma lockCall_agree (hs : MockStands locks store now) {c : LockCall} (hc : ∀ t ttl, c = .acquire t ttl → 0 < ttl) :
    (MockLocker.call locks c).1 = (RedisLocker.call store now c).1 ∧
      MockStands (MockLocker.call locks c).2 (RedisLocker.call store now c).2 now := by
  have hne : ∀ t t', t' ≠ t → keyPrefix ++ t' ≠ keyPrefix ++ t := fun _ _ h h' => h (prefixed_inj h')
  cases c with
  | acquire t ttl =>
    have hl := hs t
    simp only [MockLocker.call, RedisLocker.call, MockLocker.acquireWakeLock, acquireWakeLock]
    cases hg : store.get now (keyPrefix ++ t) with
    | some e =>
      rw [hg] at hl
      simp only [hl, if_true, Option.isSome_some]
      exact ⟨by trivial, hs⟩
    | none =>
      rw [hg] at hl
      simp only [hl, Option.isSome_none, Bool.false_eq_true, if_false]
      refine ⟨by trivial, fun t' => ?_⟩
      by_cases ht : t' = t
      · subst ht
        simp [LockStore.get, Option.filter, hc t' ttl rfl]
      · simp only [Function.update_noteq ht, hs t', LockStore.get, Function.update_noteq (hne t t' ht)]
  | release t =>
    refine ⟨rfl, fun t' => ?_⟩
    by_cases ht : t' = t
    · subst ht
      simp [MockLocker.call, RedisLocker.call, MockLocker.releaseWakeLock, releaseWakeLock, LockStore.get]
    · simp only [MockLocker.call, RedisLocker.call, MockLocker.releaseWakeLock, releaseWakeLock,
        Function.update_noteq ht, hs t', LockStore.get, Function.update_noteq (hne t t' ht)]

/-- **`MockLocker` stands for `RedisLocker` while no lock outlives its TTL.** From a mock
map holding exactly the tenants whose key Redis holds unexpired, every sequence of calls at
clock readings that never go back, with positive TTLs and no key expiring before the next
call, gets the same answers from both lockers, and leaves the mock holding exactly the
tenants whose key Redis holds unexpired at the last reading. -/
theorem lockers_agree_in_time : ∀ (calls : List (Int × LockCall)) (locks : MockLocks) (store : LockStore)
    (now : Int), MockStands locks store now → LockCallsInTime store now calls →
    (MockLocker.exec locks calls).1 = (RedisLocker.exec store calls).1 ∧
      MockStands (MockLocker.exec locks calls).2 (RedisLocker.exec store calls).2
        ((calls.map Prod.fst).getLastD now)
  | [], _, _, _, hs, _ => ⟨rfl, hs⟩
  | (now', c) :: cs, locks, store, now, hs, ⟨hle, hlive, hc, hcs⟩ => by
    obtain ⟨h₁, h₂⟩ := lockCall_agree (hs.later hle hlive) hc
    obtain ⟨ih₁, ih₂⟩ := lockers_agree_in_time cs _ _ now' h₂ hcs
    refine ⟨by simp only [MockLocker.exec, RedisLocker.exec, h₁, ih₁], ?_⟩
    rw [List.map_cons, List.getLastD_cons]
    exact ih₂

end Agree

/-- `TestMockLocker_AcquireAndRelease` of `lock_test.go`: `tenant-1` taken, refused,
`tenant-2` taken, `tenant-1` released and taken again, with a one-minute TTL, within one
clock reading. -/
def mockLockerTestCalls : List (Int × LockCall) :=
  [(0, .acquire "tenant-1" (60 * nsPerSec)), (0, .acquire "tenant-1" (60 * nsPerSec)),
   (0, .acquire "tenant-2" (60 * nsPerSec)), (0, .release "tenant-1"), (0, .acquire "tenant-1" (60 * nsPerSec))]

theorem mock_locker_test_agrees :
    MockStands (fun _ => false) (fun _ => none) 0 ∧ LockCallsInTime (fun _ => none) 0 mockLockerTestCalls ∧
      (MockLocker.exec (fun _ => false) mockLockerTestCalls).1 =
        (RedisLocker.exec (fun _ => none) mockLockerTestCalls).1 :=
  have hs : MockStands (fun _ => false) (fun _ => none) 0 := fun _ => rfl
  have hc : LockCallsInTime (fun _ => none) 0 mockLockerTestCalls :=
    lockCallsInTime_of_same_reading _ _ _ (by simp [mockLockerTestCalls, nsPerSec])
  ⟨hs, hc, (lockers_agree_in_time mockLockerTestCalls _ _ 0 hs hc).1⟩

end Tenancy

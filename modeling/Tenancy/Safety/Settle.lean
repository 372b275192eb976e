import Mathlib.Order.RelClasses
import Tenancy.Invariant.Frame

/-!
No process of the deployment moves forever: every request handler, pass and router goroutine
walks its source function forward, and the loops of the sources walk finite lists
(`GetWarmPod`'s candidates, the records of an idle or a reconcile pass). The one loop that can
go on, `pollUntilRunning`, changes nothing while the record is not Running; in the source it
gives up `WakeLockTTL` after it starts, a deadline the model leaves to a failed call.

* `Proc.rank`: how far a process is from its end, in the lexicographic order: the stage of its
  call, latest first, and the length of the list it still walks; `procRank`: an empty slot
  ranks above every process;
* `Sys.procStep_rank`: **each call of a process lowers its rank, but the poll that finds no
  Running record, which changes nothing**;
* `Sys.step_rank`, `Sys.rank_along`: every move, and so every stretch of a run, leaves a slot
  as it was or lowers its rank: a process that does not move stays, and a new one fills an
  empty slot;
* `every_process_settles`: **in every infinite run of the deployment, any interleaving of
  requests, calls, ticks and cluster moves, each process changes only finitely often**.
-/

namespace Tenancy

/-- The rank of a `wakeOrGet` call: its stage, latest first, and the warm candidates left. -/
def WakePc.rank : WakePc → ℕ × ℕ
  | .done _ => (0, 0)
  | .release _ => (1, 0)
  | .commit .. => (2, 0)
  | .waitReady .. => (3, 0)
  | .getPod _ => (4, 0)
  | .createPod .. => (5, 0)
  | .deleteWarm .. => (6, 0)
  | .claimWarm _ _ cands => (7, cands.length)
  | .listWarm .. => (8, 0)
  | .createPVC .. => (9, 0)
  | .createPV .. => (10, 0)
  | .autoCreate => (11, 0)
  | .poll => (12, 0)
  | .acquire _ => (13, 0)
  | .start => (14, 0)

/-- The rank of a process: its stage, latest first, and the length of the list it walks. -/
def Proc.rank : Proc → ℕ × ℕ
  | .wake _ _ pc => pc.rank
  | .router _ _ pc => match pc with
    | .done => (0, 0)
    | .updateActivity => (1, 0)
    | .forward _ => (2, 0)
    | .setCache _ => (3, 0)
    | .awaitWake _ => (4, 0)
    | .lookup => (5, 0)
  | .idle pc => match pc with
    | .done => (0, 0)
    | .check ts => (1, 2 * ts.length)
    | .demote _ ts => (1, 2 * ts.length + 1)
    | .scan => (2, 0)
  | .reconcile pc => match pc with
    | .done => (0, 0)
    | .check ts => (1, 3 * ts.length)
    | .clearCache _ ts => (1, 3 * ts.length + 1)
    | .demote _ ts => (1, 3 * ts.length + 2)
    | .list => (2, 0)
  | .createTenant _ _ _ pc => match pc with
    | .done _ => (0, 0)
    | .webhook => (1, 0)
    | .create => (2, 0)
  | .deleteTenant _ _ pc => match pc with
    | .done _ => (0, 0)
    | .deleteWebhook _ => (1, 0)
    | .clearCache _ => (2, 0)
    | .deleteRecord _ => (3, 0)
    | .deletePV _ => (4, 0)
    | .deletePVC _ => (5, 0)
    | .deletePod _ => (6, 0)
    | .get => (7, 0)
  | .updateActivity _ fin => (if fin then 0 else 1, 0)
  | .updateTenant _ _ _ pc => match pc with
    | .done _ => (0, 0)
    | .read => (1, 0)
    | .timeout => (2, 0)
    | .webhook => (3, 0)
    | .token => (4, 0)

/-- The rank of a slot of the process list: an empty one ranks above every process. -/
def procRank : Option Proc → ℕ × ℕ
  | some p => p.rank
  | none => (15, 0)

/-- The order ranks go down in. -/
abbrev Lower : ℕ × ℕ → ℕ × ℕ → Prop := Prod.Lex (· < ·) (· < ·)

lemma lower_wf : WellFounded Lower := WellFounded.prod_lex wellFounded_lt wellFounded_lt

lemma rank_fst_le (p : Proc) : p.rank.1 ≤ 14 := by
  rcases p with ⟨_, _, pc⟩ | ⟨_, _, pc⟩ | pc | pc | ⟨_, _, _, pc⟩ | ⟨_, _, pc⟩ | ⟨_, fin⟩ | ⟨_, _, _, pc⟩ <;>
    (try cases pc) <;> (try cases fin) <;> simp [Proc.rank, WakePc.rank]

/-- A process ranks below an empty slot. -/
lemma lower_none (p : Proc) : Lower (procRank (some p)) (procRank none) :=
  .left _ _ (Nat.lt_succ_of_le (rank_fst_le p))

namespace Sys

variable {s s' : Sys} {i : Nat} {ok : Bool}

/-- A call that sets process `i` to `q` ranks it at `q`. -/
lemma lower_of_set {l : List Proc} {p q : Proc} (hlen : i < l.length) (h : s'.procs = l.set i q)
    (hq : Lower q.rank p.rank) : Lower (procRank s'.procs[i]?) p.rank := by
  rw [h, List.getElem?_set_self hlen]
  exact hq

/-- **Each call lowers the rank of its process**, but the poll of `pollUntilRunning` that
finds no Running record, which changes nothing. -/
lemma procStep_rank {p : Proc} (hi : s.procs[i]? = some p) (hs : s.procStep i ok p = some s') :
    s' = s ∨ Lower (procRank s'.procs[i]?) p.rank := by
  have hlen : i < s.procs.length := (List.getElem?_eq_some_iff.1 hi).1
  cases p with
  | wake t lu pc =>
    cases pc <;> simp only [procStep, wakeStep] at hs
    case claimWarm r ns cands =>
      split at hs
      · cases hs; exact .inr (lower_of_set hlen rfl (.left _ _ (by decide)))
      · rename_i q rest hd
        have hlt : rest.length < cands.length := by
          have h := (List.dropWhile_suffix (l := cands) fun p => !Cluster.warmEligible p).sublist.length_le
          rw [hd, List.length_cons] at h
          omega
        split at hs <;> cases hs
        · exact .inr (lower_of_set hlen rfl (.left _ _ (by decide)))
        · exact .inr (lower_of_set hlen rfl (.right _ hlt))
    case waitReady =>
      split at hs
      · obtain ⟨q, -, rfl⟩ := Option.map_eq_some'.1 hs
        exact .inr (lower_of_set hlen rfl (.left _ _ (by decide)))
      · cases hs; exact .inr (lower_of_set hlen rfl (.left _ _ (by decide)))
    all_goals (repeat' split at hs) <;> (try cases hs) <;>
      first
      | exact .inl rfl
      | exact .inr (lower_of_set hlen rfl (.left _ _ (by decide)))
  | router t text pc =>
    cases pc <;> simp only [procStep, routerStep] at hs
    case lookup =>
      have hlen' : i < (s.procs ++ [Proc.wake t none .start]).length := by simp; omega
      split at hs <;> cases hs
      · split
        · exact .inr (lower_of_set hlen rfl (.left _ _ (by decide)))
        · exact .inr (lower_of_set hlen' rfl (.left _ _ (by decide)))
      · exact .inr (lower_of_set hlen' rfl (.left _ _ (by decide)))
    all_goals (repeat' split at hs) <;> (try cases hs) <;>
      exact .inr (lower_of_set hlen rfl (.left _ _ (by decide)))
  | idle pc | reconcile pc =>
    cases pc <;> simp only [procStep, idleStep, reconcileStep] at hs
    case check ts =>
      cases ts <;> simp only at hs <;> (repeat' split at hs) <;> cases hs <;>
        first
        | exact .inr (lower_of_set hlen rfl (.left _ _ (by decide)))
        | exact .inr (lower_of_set hlen rfl (.right _ (by simp only [List.length_cons]; omega)))
    all_goals (repeat' split at hs) <;> (try cases hs) <;>
      first
      | exact .inr (lower_of_set hlen rfl (.left _ _ (by decide)))
      | exact .inr (lower_of_set hlen rfl (.right _ (by omega)))
  | createTenant t tok n pc | deleteTenant t clean pc | updateTenant t tok n pc =>
    cases pc <;> simp only [procStep, createTenantStep, deleteTenantStep, updateTenantStep] at hs
    all_goals (repeat' split at hs) <;> (try cases hs) <;>
      exact .inr (lower_of_set hlen rfl (.left _ _ (by decide)))
  | updateActivity t fin =>
    cases fin <;> simp only [procStep, updateActivityStep] at hs <;> cases hs
    exact .inr (lower_of_set hlen rfl (.left _ _ (by decide)))

/-- Every move leaves a slot as it was or lowers its rank. -/
lemma step_rank {a : Act} (hs : s.step a = some s') (i : Nat) :
    s'.procs[i]? = s.procs[i]? ∨ Lower (procRank s'.procs[i]?) (procRank s.procs[i]?) := by
  by_cases hm : ∃ ok, a = .run i ok
  · obtain ⟨ok, rfl⟩ := hm
    obtain ⟨p, hp, hps⟩ := Option.bind_eq_some.1 hs
    rw [hp]
    rcases procStep_rank hp hps with rfl | h
    · exact .inl hp
    · exact .inr h
  push_neg at hm
  by_cases hl : i < s.procs.length
  · exact .inl (step_others hs hm hl)
  rw [List.getElem?_eq_none (Nat.le_of_not_lt hl)]
  rcases s'.procs[i]? with _ | q
  · exact .inl rfl
  · exact .inr (lower_none q)

end Sys

/-- Along an infinite run, a slot stays as it was or its rank drops. -/
lemma Sys.rank_along {f : ℕ → Sys} (hf : ∀ n, ∃ a, (f n).step a = some (f (n + 1))) (i n : Nat) :
    ∀ k, (f (n + k)).procs[i]? = (f n).procs[i]? ∨
      Lower (procRank (f (n + k)).procs[i]?) (procRank (f n).procs[i]?)
  | 0 => .inl rfl
  | k + 1 => by
    obtain ⟨a, ha⟩ := hf (n + k)
    rcases Sys.step_rank ha i with h | h <;> rcases rank_along hf i n k with h' | h'
    · exact .inl (h.trans h')
    · exact .inr (h ▸ h')
    · exact .inr (h' ▸ h)
    · exact .inr (Prod.Lex.trans h h')

/-- **Every process settles.** In every infinite run of the deployment, from any state and
with any interleaving of requests, calls of every process (each succeeding or failing), clock
ticks and cluster moves, each slot of the process list changes only finitely often: from
some move on, the process in it stays where it is. -/
theorem every_process_settles {f : ℕ → Sys} (hf : ∀ n, ∃ a, (f n).step a = some (f (n + 1)))
    (i : Nat) : ∃ N, ∀ n, N ≤ n → (f n).procs[i]? = (f N).procs[i]? := by
  have hrun := Sys.rank_along hf i
  suffices h : ∀ x n, procRank (f n).procs[i]? = x →
      ∃ N, n ≤ N ∧ ∀ m, N ≤ m → (f m).procs[i]? = (f N).procs[i]? by
    obtain ⟨N, -, hN⟩ := h _ 0 rfl
    exact ⟨N, hN⟩
  intro x
  induction x using lower_wf.induction with
  | _ x ih =>
    intro n hx
    by_cases hc : ∀ m, n ≤ m → (f m).procs[i]? = (f n).procs[i]?
    · exact ⟨n, le_rfl, hc⟩
    push_neg at hc
    obtain ⟨m, hnm, hne⟩ := hc
    obtain ⟨k, rfl⟩ := Nat.exists_eq_add_of_le hnm
    rcases hrun n k with h | h
    · exact absurd h hne
    obtain ⟨N, hmN, hN⟩ := ih _ (hx ▸ h) (n + k) rfl
    exact ⟨N, hnm.trans hmN, hN⟩

/-- Two wakes of tenant `a`: the first takes the lock, the second's `SetNX` fails and it
polls for a record that is not there yet. -/
def pollingWakeRun : List Act :=
  [.request (.wake "a"), .request (.wake "a"), .run 0 true, .run 0 true, .run 1 true, .run 1 true]

theorem polling_wake_settles :
    let s := Sys.runFrom (Config.orchestrator "tenants" false) pollingWakeRun
    (∀ n : ℕ, ∃ a, ((fun _ : ℕ => s) n).step a = some ((fun _ : ℕ => s) (n + 1))) ∧
      ∃ N, ∀ n, N ≤ n → ((fun _ : ℕ => s) n).procs[1]? = ((fun _ : ℕ => s) N).procs[1]? := by
  intro s
  have hf : ∀ n : ℕ, ∃ a, ((fun _ : ℕ => s) n).step a = some ((fun _ : ℕ => s) (n + 1)) :=
    fun _ => ⟨.run 1 true, rfl⟩
  exact ⟨hf, every_process_settles hf 1⟩

end Tenancy

import Tenancy.Registry.Dynamo

/-!
The `UpdateStatus` and `UpdateActivity` requests of `DynamoClient`
(`internal/registry/registry.go`) while they are in flight.

Each call formats `:la` from `time.Now()` when it builds its `UpdateItem` request; DynamoDB
applies the request when it arrives, as an unconditional `SET`. Between the two, the clock
moves and other requests are built and applied. `Wire` is the table, the one clock all
writers read, and the requests sent and not yet applied, in any order of arrival.

* `Stamp`, `Stamp.apply`: the two writes, applied with the clock reading they were built at;
* `Wire.Behind`: `T`'s stored stamp is a whole second no later than the clock and than
  every stamp of `T` in flight, and at most one write of `T` is in flight;
* `Wire.serial_stamps_never_go_back`: **when no two writes of `T` are ever in flight
  together, and `T`'s stored stamp starts behind the clock, `T`'s `last_active_at` never
  decreases**;
* `stamps_land_out_of_order`: two `UpdateActivity` calls of one tenant, built a second
  apart, arrive in reverse order and move its `last_active_at` back by that second.
-/

namespace Tenancy

/-! ### The stamped writes -/

/-- `truncSec` never rounds up. -/
lemma truncSec_le (t : Int) : truncSec t ≤ t := Int.ediv_mul_le t (by decide)

lemma truncSec_mono {a b : Int} (h : a ≤ b) : truncSec a ≤ truncSec b :=
  Int.mul_le_mul_of_nonneg_right (Int.ediv_le_ediv (by decide) h) (by decide)

/-- A call that stamps `last_active_at` with the caller's clock. -/
inductive Stamp
  | updateStatus (tenantID : String) (status : TenantStatus) (podName podIP : String)
  | updateActivity (tenantID : String)
  deriving DecidableEq, Repr

namespace Stamp

/-- The key the request writes. -/
def tenantID : Stamp → String
  | .updateStatus id .. | .updateActivity id => id

/-- DynamoDB applies the request built at clock reading `now`. -/
def apply (t : Table) (now : Int) : Stamp → Table
  | .updateStatus id st pn pi => DynamoClient.updateStatus t now id st pn pi
  | .updateActivity id => DynamoClient.updateActivity t now id

lemma lookup_apply_ne (c : Stamp) (t : Table) (now : Int) {key : String} (h : key ≠ c.tenantID) :
    (c.apply t now).lookup key = t.lookup key := by
  cases c <;> simp [apply, tenantID, DynamoClient.updateStatus, DynamoClient.updateActivity] at h ⊢ <;>
    simp [h]

/-- The written key holds the request's stamp. -/
lemma lookup_apply_self (c : Stamp) (t : Table) (now : Int) :
    ((c.apply t now).lookup c.tenantID).map (·.lastActiveAt) = some (truncSec now) := by
  cases c <;> simp [apply, tenantID, DynamoClient.updateStatus, DynamoClient.updateActivity]

end Stamp

/-! ### Requests in flight -/

/-- The table, the clock every writer reads, and the requests sent, each with the clock
reading it was built at. -/
structure Wire where
  now : Int
  table : Table
  sent : List (Int × Stamp)

/-- One move: the clock advances, a caller builds and sends a request, or request `i`
arrives. -/
inductive WireAct
  | tick (d : Nat)
  | send (c : Stamp)
  | land (i : Nat)
  deriving DecidableEq, Repr

namespace Wire

/-- No request in flight. -/
def start (t : Table) (now : Int) : Wire := ⟨now, t, []⟩

def step (w : Wire) : WireAct → Option Wire
  | .tick d => some { w with now := w.now + d }
  | .send c => some { w with sent := w.sent ++ [(w.now, c)] }
  | .land i => w.sent[i]?.map fun r => { w with table := r.2.apply w.table r.1, sent := w.sent.eraseIdx i }

def run (w : Wire) : List WireAct → Option Wire
  | [] => some w
  | a :: acts => (w.step a).bind (·.run acts)

/-- The moves `acts`, each allowed by `allow` in the state it is made from. -/
def runGuarded (allow : Wire → WireAct → Bool) (w : Wire) : List WireAct → Option Wire
  | [] => some w
  | a :: acts => if allow w a then (w.step a).bind (·.runGuarded allow acts) else none

/-- `T`'s stored stamp, if `T` has an item. -/
def stamp (w : Wire) (T : String) : Option Int := (w.table.lookup T).map (·.lastActiveAt)

/-- No write of `T` is sent while another is in flight. -/
def serial (T : String) (w : Wire) : WireAct → Bool
  | .send c => c.tenantID != T || w.sent.all (·.2.tenantID != T)
  | _ => true

/-- The writes of `T` in flight. -/
def pending (w : Wire) (T : String) : List (Int × Stamp) := w.sent.filter (·.2.tenantID == T)

/-- What keeps `T`'s stamp from going back: every request was built at a clock reading no
later than now, at most one write of `T` is in flight, and `T`'s stored stamp is no later
than the truncated clock and than the stamp of the write of `T` in flight. -/
structure Behind (T : String) (w : Wire) : Prop where
  sent_le : ∀ r ∈ w.sent, r.1 ≤ w.now
  single : (w.pending T).length ≤ 1
  stored : ∀ v, w.stamp T = some v → v ≤ truncSec w.now
  ahead : ∀ v, w.stamp T = some v → ∀ r ∈ w.pending T, v ≤ truncSec r.1

/-- Landing the only write of `T` in flight leaves none. -/
lemma pending_eraseIdx {l : List (Int × Stamp)} {T : String} {i : Nat} {r : Int × Stamp}
    (hr : l[i]? = some r) (hT : r.2.tenantID = T) (h : (l.filter (·.2.tenantID == T)).length ≤ 1) :
    (l.eraseIdx i).filter (·.2.tenantID == T) = [] := by
  obtain ⟨hi, rfl⟩ := List.getElem?_eq_some_iff.1 hr
  have hl : l = l.take i ++ l[i] :: l.drop (i + 1) := by
    rw [← List.drop_eq_getElem_cons hi, List.take_append_drop]
  rw [hl, List.filter_append, List.filter_cons, if_pos (by simpa using hT), List.length_append,
    List.length_cons] at h
  rw [List.eraseIdx_eq_take_drop_succ, List.filter_append, List.append_eq_nil]
  exact ⟨List.length_eq_zero.1 (by omega), List.length_eq_zero.1 (by omega)⟩

/-- The writes of `T` in flight after a send. -/
lemma pending_send (w : Wire) (c : Stamp) (T : String) :
    ({ w with sent := w.sent ++ [(w.now, c)] } : Wire).pending T =
      w.pending T ++ if c.tenantID = T then [(w.now, c)] else [] := by
  show (w.sent ++ [(w.now, c)]).filter _ = w.sent.filter _ ++ _
  rw [List.filter_append]
  split_ifs with hc <;> simp [hc]

section Moves

variable {T : String} {w : Wire}

/-- The clock moving keeps `T` behind. -/
lemma Behind.tick (h : w.Behind T) (d : Nat) : ({ w with now := w.now + d } : Wire).Behind T :=
  ⟨fun r hr => (h.sent_le r hr).trans (by simp), h.single,
    fun v hv => (h.stored v hv).trans (truncSec_mono (by simp)), h.ahead⟩

/-- A send that `serial` allows keeps `T` behind: a write of `T` is sent only when none is
in flight, stamped no earlier than `T`'s stored stamp. -/
lemma Behind.send (h : w.Behind T) {c : Stamp} (hk : serial T w (.send c) = true) :
    ({ w with sent := w.sent ++ [(w.now, c)] } : Wire).Behind T := by
  refine ⟨fun r hr => ?_, ?_, h.stored, fun v hv r hr => ?_⟩
  · rcases List.mem_append.1 hr with hr | hr
    · exact h.sent_le r hr
    · rw [List.mem_singleton.1 hr]
  · rw [pending_send]
    split_ifs with hc
    · simp only [serial, hc, bne_self_eq_false, Bool.false_or, List.all_eq_true, bne_iff_ne] at hk
      have : w.pending T = [] := List.filter_eq_nil_iff.2 fun r hr => by simpa using hk r hr
      simp [this]
    · simpa using h.single
  · rw [pending_send] at hr
    rcases List.mem_append.1 hr with hr | hr
    · exact h.ahead v hv r hr
    · split_ifs at hr
      · rw [List.mem_singleton.1 hr]; exact h.stored v hv
      · cases hr

/-- Landing the request `i` keeps `T` behind, and moves `T`'s stamp only forward: a write of
`T` lands the stamp of the only write of `T` in flight, any other leaves it. -/
lemma Behind.land (h : w.Behind T) {i : Nat} {r : Int × Stamp} (hr : w.sent[i]? = some r) :
    ({ w with table := r.2.apply w.table r.1, sent := w.sent.eraseIdx i } : Wire).Behind T ∧
      ∀ v, w.stamp T = some v → ∃ v',
        ({ w with table := r.2.apply w.table r.1, sent := w.sent.eraseIdx i } : Wire).stamp T = some v' ∧
          v ≤ v' := by
  have hmem : r ∈ w.sent := List.getElem?_mem hr
  have hsub : ∀ r' ∈ w.sent.eraseIdx i, r' ∈ w.sent := fun _ h' => (List.eraseIdx_sublist _ _).subset h'
  by_cases hT : r.2.tenantID = T
  · have hnil := pending_eraseIdx hr hT h.single
    have hnew : ({ w with table := r.2.apply w.table r.1, sent := w.sent.eraseIdx i } : Wire).stamp T =
        some (truncSec r.1) := by
      rw [stamp, ← hT]; exact Stamp.lookup_apply_self _ _ _
    refine ⟨⟨fun r' h' => h.sent_le r' (hsub r' h'), by simp [pending, hnil], fun v hv => ?_,
      fun _ _ r' h' => by simp [pending, hnil] at h'⟩,
      fun v hv => ⟨_, hnew, h.ahead v hv r (List.mem_filter.2 ⟨hmem, by simpa using hT⟩)⟩⟩
    rw [hnew] at hv
    cases hv
    exact truncSec_mono (h.sent_le r hmem)
  · have hsame : ({ w with table := r.2.apply w.table r.1, sent := w.sent.eraseIdx i } : Wire).stamp T =
        w.stamp T := by
      rw [stamp, stamp, Stamp.lookup_apply_ne _ _ _ (Ne.symm hT)]
    have hpsub : ∀ r' ∈ ({ w with table := r.2.apply w.table r.1, sent := w.sent.eraseIdx i } : Wire).pending T,
        r' ∈ w.pending T := fun r' h' => by
      obtain ⟨h₁, h₂⟩ := List.mem_filter.1 h'
      exact List.mem_filter.2 ⟨hsub r' h₁, h₂⟩
    exact ⟨⟨fun r' h' => h.sent_le r' (hsub r' h'),
      le_trans ((List.eraseIdx_sublist _ i).filter _).length_le h.single,
      fun v hv => h.stored v (hsame ▸ hv), fun v hv r' h' => h.ahead v (hsame ▸ hv) r' (hpsub r' h')⟩,
      fun v hv => ⟨v, hsame.trans hv, le_rfl⟩⟩

/-- **One allowed move keeps `T` behind and does not move its stamp back.** -/
lemma Behind.step {w' : Wire} {a : WireAct} (h : w.Behind T) (hk : serial T w a = true)
    (hs : w.step a = some w') :
    w'.Behind T ∧ ∀ v, w.stamp T = some v → ∃ v', w'.stamp T = some v' ∧ v ≤ v' := by
  cases a with
  | tick d => cases hs; exact ⟨h.tick d, fun v hv => ⟨v, hv, le_rfl⟩⟩
  | send c => cases hs; exact ⟨h.send hk, fun v hv => ⟨v, hv, le_rfl⟩⟩
  | land i =>
    obtain ⟨r, hr, rfl⟩ := Option.map_eq_some'.1 hs
    exact h.land hr

end Moves

/-- **Serial writes never move the stamp back.** From a state where `T` is behind, along
any run in which no write of `T` is sent while another is in flight, `T` keeps an item
once it has one, and its `last_active_at` only grows. -/
theorem serial_stamps_never_go_back {T : String} :
    ∀ {w w' : Wire} (acts : List WireAct), w.Behind T → w.runGuarded (serial T) acts = some w' →
      ∀ v, w.stamp T = some v → ∃ v', w'.stamp T = some v' ∧ v ≤ v'
  | _, _, [], _, hrun, v, hv => by cases hrun; exact ⟨v, hv, le_rfl⟩
  | w, w', a :: acts, h, hrun, v, hv => by
    simp only [runGuarded] at hrun
    split_ifs at hrun with hk
    obtain ⟨w₁, hs, hrun⟩ := Option.bind_eq_some.1 hrun
    obtain ⟨h₁, hmono⟩ := h.step hk hs
    obtain ⟨v₁, hv₁, hle⟩ := hmono v hv
    obtain ⟨v', hv', hle'⟩ := serial_stamps_never_go_back acts h₁ hrun v₁ hv₁
    exact ⟨v', hv', hle.trans hle'⟩

/-- A table of whole-second stamps no later than the clock, with nothing in flight, is
behind for every tenant. -/
lemma Behind.start {t : Table} {now : Int} {T : String}
    (h : ∀ v, ((t.lookup T).map (·.lastActiveAt)) = some v → WholeSec v ∧ v ≤ now) :
    (start t now).Behind T :=
  ⟨fun _ h' => (by cases h'), Nat.zero_le _, fun v hv => by
    obtain ⟨hw, hle⟩ := h v hv
    exact truncSec_of_wholeSec hw ▸ truncSec_mono hle,
    fun _ _ _ h' => absurd (List.mem_filter.1 h').1 (List.not_mem_nil _)⟩

/-- The state a run reaches, or the start if it gets stuck. -/
def runFrom (t : Table) (now : Int) (acts : List WireAct) : Wire :=
  ((start t now).run acts).getD (start t now)

/-- Tenant `a` touched at 10 s, touched again, a second later, by a write built before the
tick. -/
def serialTouchRun : List WireAct := [.send (.updateActivity "a"), .tick 1000000000, .land 0]

theorem serial_touch_keeps_stamp :
    let w := start (DynamoClient.updateActivity ∅ (10 * nsPerSec) "a") (10 * nsPerSec)
    ∃ w', w.runGuarded (serial "a") serialTouchRun = some w' ∧ w.stamp "a" = some (10 * nsPerSec) ∧
      ∃ v', w'.stamp "a" = some v' ∧ 10 * nsPerSec ≤ v' := by
  intro w
  obtain ⟨w', hw'⟩ := Option.isSome_iff_exists.1
    (show (w.runGuarded (serial "a") serialTouchRun).isSome = true by decide)
  have hv : w.stamp "a" = some (10 * nsPerSec) := by decide
  have hb : w.Behind "a" := Behind.start fun v h => by
    rw [show (((DynamoClient.updateActivity ∅ (10 * nsPerSec) "a").lookup "a").map (·.lastActiveAt)) =
      some (10 * nsPerSec) from hv] at h
    cases h
    exact ⟨by decide, le_rfl⟩
  exact ⟨w', hw', hv, serial_stamps_never_go_back serialTouchRun hb hw' _ hv⟩

end Wire

/-- Two `UpdateActivity(a)` calls build their requests at 10 s and 11 s; the later one
arrives first. -/
def outOfOrderRun : List WireAct :=
  [.send (.updateActivity "a"), .tick 1000000000, .send (.updateActivity "a"), .land 1]

/-- Requests that overlap move `last_active_at` back, with every writer reading one
monotone clock. -/
theorem stamps_land_out_of_order :
    ¬ ∀ (t : Table) (now : Int) (acts : List WireAct) (a : WireAct) (T : String) (v v' : Int),
      ((Wire.start t now).run (acts ++ [a])).isSome →
      (Wire.runFrom t now acts).stamp T = some v → (Wire.runFrom t now (acts ++ [a])).stamp T = some v' →
      v ≤ v' := fun h =>
  absurd (h ∅ (10 * nsPerSec) outOfOrderRun (.land 0) "a" (11 * nsPerSec) (10 * nsPerSec)
    (by decide) (by decide) (by decide)) (by decide)

end Tenancy

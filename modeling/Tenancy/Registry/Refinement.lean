import Tenancy.Registry.Dynamo
import Tenancy.Registry.Mock

/-!
`MockClient` against `DynamoClient`: how far the tests' registry stands for production.

* `Call`, `Reply`: one call of the `registry.Client` interface and what it returns, an
  error kept only as present or absent; `Reply.same` compares lists up to order, since
  neither a Go map nor a DynamoDB scan fixes one.
* `marshal`: the DynamoDB table holding the records of a mock table.
* `updateStatus_absent_diverges`: on an absent id the mock fails `UpdateStatus` while
  DynamoDB creates the item, so the two do not agree on every sequence of calls.
* `registry_clients_agree_whole_seconds`: they agree, reply by reply and on the table
  reached, on every sequence in which `UpdateStatus` and `UpdateActivity` only touch
  existing ids, no record is stored under `warm-pool-meta`, and every instant the two
  compare or store (`last_active_at`, the clock, the idle threshold) is a whole second.
  Each of the three conditions removes one difference of `registry.go` from `mock.go`.
-/

namespace Tenancy

/-- One call of `registry.Client`. -/
inductive Call
  | getTenant (tenantID : String)
  | createTenant (record : TenantRecord)
  | updateStatus (tenantID : String) (status : TenantStatus) (podName podIP : String)
  | updateActivity (tenantID : String)
  | updateBotToken (tenantID botToken : String)
  | updateIdleTimeout (tenantID : String) (timeoutS : Int)
  | listAll
  | listByStatus (status : TenantStatus)
  | listIdleTenants (olderThan : Int)
  | deleteTenant (tenantID : String)
  deriving DecidableEq, Repr

/-- What a call returns: `ok` and `err` for the methods returning only an `error`. -/
inductive Reply
  | ok
  | err
  | record (r : Option TenantRecord)
  | records (rs : List TenantRecord)
  deriving DecidableEq, Repr

/-- Two replies agree: lists of records up to order, everything else exactly. -/
def Reply.same : Reply → Reply → Bool
  | .records a, .records b => decide (a.Perm b)
  | a, b => a == b

/-- The reply of a write: `ok` with the new table, or `err` with the old one. -/
def Reply.ofWrite {σ : Type} (old : σ) : Option σ → Reply × σ
  | some t => (.ok, t)
  | none => (.err, old)

/-- One call on the DynamoDB table at clock reading `now`. -/
def DynamoClient.call (t : Table) (now : Int) : Call → Reply × Table
  | .getTenant id => (.record (DynamoClient.getTenant t id), t)
  | .createTenant r => Reply.ofWrite t (DynamoClient.createTenant t r)
  | .updateStatus id s pn pi => (.ok, DynamoClient.updateStatus t now id s pn pi)
  | .updateActivity id => (.ok, DynamoClient.updateActivity t now id)
  | .updateBotToken id tok => Reply.ofWrite t (DynamoClient.updateBotToken t id tok)
  | .updateIdleTimeout id s => Reply.ofWrite t (DynamoClient.updateIdleTimeout t id s)
  | .listAll => (.records (DynamoClient.listAll t), t)
  | .listByStatus s => (.records (DynamoClient.listByStatus t s), t)
  | .listIdleTenants d => (.records (DynamoClient.listIdleTenants t now d), t)
  | .deleteTenant id => (.ok, DynamoClient.deleteTenant t id)

/-- One call on the mock's map at clock reading `now`. -/
def MockClient.call (m : MockTable) (now : Int) : Call → Reply × MockTable
  | .getTenant id => (.record (MockClient.getTenant m id), m)
  | .createTenant r => Reply.ofWrite m (MockClient.createTenant m r)
  | .updateStatus id s pn pi => Reply.ofWrite m (MockClient.updateStatus m now id s pn pi)
  | .updateActivity id => (.ok, MockClient.updateActivity m now id)
  | .updateBotToken id tok => Reply.ofWrite m (MockClient.updateBotToken m id tok)
  | .updateIdleTimeout id s => Reply.ofWrite m (MockClient.updateIdleTimeout m id s)
  | .listAll => (.records (MockClient.listAll m), m)
  | .listByStatus s => (.records (MockClient.listByStatus m s), m)
  | .listIdleTenants d => (.records (MockClient.listIdleTenants m now d), m)
  | .deleteTenant id => (.ok, MockClient.deleteTenant m id)

/-- A sequence of calls, each with its clock reading, on the DynamoDB table. -/
def DynamoClient.exec (t : Table) : List (Int × Call) → List Reply × Table
  | [] => ([], t)
  | (now, c) :: cs =>
    let p := DynamoClient.call t now c
    let q := DynamoClient.exec p.2 cs
    (p.1 :: q.1, q.2)

/-- A sequence of calls on the mock. -/
def MockClient.exec (m : MockTable) : List (Int × Call) → List Reply × MockTable
  | [] => ([], m)
  | (now, c) :: cs =>
    let p := MockClient.call m now c
    let q := MockClient.exec p.2 cs
    (p.1 :: q.1, q.2)

/-! ### The table a mock table stands for -/

/-- Marshalling every entry keeps the keys. -/
lemma kerase_map_ofRecord (a : String) (l : List (Σ _ : String, TenantRecord)) :
    (l.map fun e => (⟨e.1, Item.ofRecord e.2⟩ : Σ _ : String, Item)).kerase a =
      (l.kerase a).map fun e => ⟨e.1, Item.ofRecord e.2⟩ := by
  induction l with
  | nil => rfl
  | cons e l ih =>
    by_cases h : a = e.1
    · have h' : a = (⟨e.1, Item.ofRecord e.2⟩ : Σ _ : String, Item).1 := h
      rw [List.map_cons, List.kerase_cons_eq h', List.kerase_cons_eq h]
    · have h' : a ≠ (⟨e.1, Item.ofRecord e.2⟩ : Σ _ : String, Item).1 := h
      rw [List.map_cons, List.kerase_cons_ne h', List.kerase_cons_ne h, ih, List.map_cons]

/-- The DynamoDB table holding the mock's records, each marshalled under its key. -/
def marshal (m : MockTable) : Table :=
  ⟨m.entries.map fun e => ⟨e.1, Item.ofRecord e.2⟩, by
    simpa [List.NodupKeys, List.keys, Function.comp_def] using m.nodupKeys⟩

@[simp] lemma lookup_marshal (m : MockTable) (a : String) :
    (marshal m).lookup a = (m.lookup a).map Item.ofRecord := by
  simp only [AList.lookup, marshal]
  exact List.dlookup_map₂ (f := fun _ => Item.ofRecord) a

@[simp] lemma mem_marshal (m : MockTable) (a : String) : a ∈ marshal m ↔ a ∈ m := by
  simp [← AList.lookup_isSome]

lemma marshal_insert (m : MockTable) (a : String) (r : TenantRecord) :
    marshal (m.insert a r) = (marshal m).insert a (Item.ofRecord r) :=
  AList.ext (by simp [marshal, AList.insert, List.kinsert_def, kerase_map_ofRecord])

lemma marshal_erase (m : MockTable) (a : String) :
    marshal (m.erase a) = (marshal m).erase a :=
  AList.ext (kerase_map_ofRecord a m.entries).symm

/-! ### The divergence -/

/-- `MockClient` stands for `DynamoClient` on `m` and `calls`: the sequence gets the same
replies from both clients and leaves the same records. -/
def ClientsAgree (m : MockTable) (calls : List (Int × Call)) : Prop :=
  List.Forall₂ (fun a b => a.same b) (MockClient.exec m calls).1 (DynamoClient.exec (marshal m) calls).1 ∧
    ∀ id, MockClient.getTenant (MockClient.exec m calls).2 id =
      DynamoClient.getTenant (DynamoClient.exec (marshal m) calls).2 id

/-- `UpdateStatus` on an absent id: the mock answers `tenant ... not found`, DynamoDB
creates the item and answers `nil`. -/
theorem updateStatus_absent_diverges :
    ¬ ∀ m calls, ClientsAgree m calls := by
  intro h
  have := (h ∅ [(0, .updateStatus "a" statusRunning "zeroclaw-a" "10.0.0.1")]).1
  simp [MockClient.exec, DynamoClient.exec, MockClient.call, DynamoClient.call,
    MockClient.updateStatus, MockClient.update, Reply.ofWrite, Reply.same] at this

/-! ### Agreement on whole seconds -/

/-- A mock table as `mock.go` builds it: each record under its own id, none under
`warm-pool-meta`, and (the whole-second condition) every activity stamp whole. -/
structure MockTable.Wf (m : MockTable) : Prop where
  keys : ∀ id r, m.lookup id = some r → r.tenantID = id
  whole : ∀ id r, m.lookup id = some r → WholeSec r.lastActiveAt
  noMeta : DynamoClient.warmPoolMetaID ∉ m

/-- A call within the three conditions, made on the mock table `m` at clock `now`. -/
def Call.Fits (m : MockTable) (now : Int) : Call → Prop
  | .createTenant r => r.tenantID ≠ DynamoClient.warmPoolMetaID ∧ WholeSec r.lastActiveAt
  | .updateStatus id _ _ _ => id ∈ m ∧ WholeSec now
  | .updateActivity id => id ∈ m ∧ WholeSec now
  | .listIdleTenants olderThan => WholeSec now ∧ WholeSec olderThan
  | _ => True

instance Call.decFits (m : MockTable) (now : Int) : (c : Call) → Decidable (c.Fits m now)
  | .createTenant _ | .updateStatus .. | .updateActivity _ | .listIdleTenants _ =>
    inferInstanceAs (Decidable (_ ∧ _))
  | .getTenant _ | .updateBotToken .. | .updateIdleTimeout .. | .listAll | .listByStatus _
  | .deleteTenant _ => inferInstanceAs (Decidable True)

/-- Every call of a sequence fits the table the calls before it leave. -/
def CallsFit : MockTable → List (Int × Call) → Prop
  | _, [] => True
  | m, (now, c) :: cs => c.Fits m now ∧ CallsFit (MockClient.call m now c).2 cs

instance decCallsFit : (m : MockTable) → (calls : List (Int × Call)) → Decidable (CallsFit m calls)
  | _, [] => inferInstanceAs (Decidable True)
  | m, (now, c) :: cs =>
    @instDecidableAnd _ _ (Call.decFits m now c) (decCallsFit (MockClient.call m now c).2 cs)

lemma toRecord_ofRecord_of_eq {r : TenantRecord} {id : String} (h : r.tenantID = id) :
    Item.toRecord id (Item.ofRecord r) = r := h ▸ Item.toRecord_ofRecord r

lemma MockTable.Wf.insert {m : MockTable} (hm : m.Wf) {id : String} {r : TenantRecord}
    (hid : r.tenantID = id) (hw : WholeSec r.lastActiveAt)
    (hmeta : id ≠ DynamoClient.warmPoolMetaID) : MockTable.Wf (m.insert id r) := by
  refine ⟨fun k r' h => ?_, fun k r' h => ?_, ?_⟩
  · by_cases hk : k = id
    · subst hk; rw [AList.lookup_insert] at h; cases h; exact hid
    · rw [AList.lookup_insert_ne hk] at h; exact hm.keys k r' h
  · by_cases hk : k = id
    · subst hk; rw [AList.lookup_insert] at h; cases h; exact hw
    · rw [AList.lookup_insert_ne hk] at h; exact hm.whole k r' h
  · rw [AList.mem_insert]
    exact fun h => h.elim (fun h => hmeta h.symm) hm.noMeta

lemma MockTable.Wf.erase {m : MockTable} (hm : m.Wf) (id : String) :
    MockTable.Wf (m.erase id) := by
  refine ⟨fun k r h => ?_, fun k r h => ?_, fun h => hm.noMeta (AList.mem_erase.1 h).2⟩
  · by_cases hk : k = id
    · subst hk; simp [AList.lookup_erase] at h
    · rw [AList.lookup_erase_ne hk] at h; exact hm.keys k r h
  · by_cases hk : k = id
    · subst hk; simp [AList.lookup_erase] at h
    · rw [AList.lookup_erase_ne hk] at h; exact hm.whole k r h

/-- A write the mock applies to an existing record, seen on both sides: the DynamoDB
upsert of the marshalled item is the marshalled mock write. -/
lemma update_agree {m : MockTable} (hm : m.Wf) {id : String} {r : TenantRecord}
    (hr : m.lookup id = some r) (set : TenantRecord → TenantRecord) (set' : Item → Item)
    (hset : set' (Item.ofRecord r) = Item.ofRecord (set r)) (hid : (set r).tenantID = r.tenantID)
    (hw : WholeSec (set r).lastActiveAt) :
    MockClient.update m id set = some (m.insert id (set r)) ∧
      DynamoClient.upsert (marshal m) id set' = marshal (m.insert id (set r)) ∧
      MockTable.Wf (m.insert id (set r)) := by
  refine ⟨by simp [MockClient.update, hr], ?_, hm.insert (hid.trans (hm.keys id r hr)) hw ?_⟩
  · simp [DynamoClient.upsert, hr, hset, marshal_insert]
  · rintro rfl; exact hm.noMeta (AList.lookup_isSome.1 (by simp [hr]))

/-- A conditional update of attributes other than the key and the activity stamp
(`UpdateBotToken`, `UpdateIdleTimeout`): both clients fail on an absent id and otherwise
write the same record. -/
lemma updateExisting_agree {m : MockTable} (hm : m.Wf) (id : String)
    (set : TenantRecord → TenantRecord) (set' : Item → Item)
    (hset : ∀ r, set' (Item.ofRecord r) = Item.ofRecord (set r))
    (hid : ∀ r, (set r).tenantID = r.tenantID) (hla : ∀ r, (set r).lastActiveAt = r.lastActiveAt) :
    (Reply.ofWrite m (MockClient.update m id set)).1.same
        (Reply.ofWrite (marshal m) (DynamoClient.updateExisting (marshal m) id set')).1 = true ∧
      (Reply.ofWrite (marshal m) (DynamoClient.updateExisting (marshal m) id set')).2 =
        marshal (Reply.ofWrite m (MockClient.update m id set)).2 ∧
      MockTable.Wf (Reply.ofWrite m (MockClient.update m id set)).2 := by
  cases hr : m.lookup id with
  | none =>
    have : id ∉ m := AList.lookup_eq_none.1 hr
    simp [MockClient.update, DynamoClient.updateExisting, hr, this, Reply.ofWrite, Reply.same, hm]
  | some r =>
    obtain ⟨h1, h2, h3⟩ := update_agree hm hr set set' (hset r) (hid r) (hla r ▸ hm.whole id r hr)
    have : id ∈ m := AList.lookup_isSome.1 (by simp [hr])
    simp only [DynamoClient.updateExisting, mem_marshal, this, if_true, h1, h2, Reply.ofWrite]
    exact ⟨by simp [Reply.same], by simp, h3⟩

/-- The scan of marshalled entries stored under their own ids filters their records. -/
lemma filterMap_marshal (keep : String → Item → Bool) :
    ∀ l : List (Σ _ : String, TenantRecord), (∀ e ∈ l, e.2.tenantID = e.1) →
      (l.map fun e => (⟨e.1, Item.ofRecord e.2⟩ : Σ _ : String, Item)).filterMap
          (fun e => if keep e.1 e.2 then some (e.2.toRecord e.1) else none) =
        (l.map (·.2)).filter fun r => keep r.tenantID (Item.ofRecord r)
  | [], _ => rfl
  | e :: l, hk => by
    have he := hk e (List.mem_cons_self _ _)
    rw [List.map_cons, List.filterMap_cons, List.map_cons, List.filter_cons,
      filterMap_marshal keep l fun e' h => hk e' (List.mem_cons_of_mem _ h)]
    simp only [he, toRecord_ofRecord_of_eq he]
    split_ifs <;> rfl

/-- A scan of the marshalled table filters the mock's records with the scan's filter. -/
lemma scan_marshal {m : MockTable} (hm : m.Wf) (keep : String → Item → Bool) :
    DynamoClient.scan (marshal m) keep =
      (MockClient.listAll m).filter fun r => keep r.tenantID (Item.ofRecord r) :=
  filterMap_marshal keep m.entries fun e he => hm.keys e.1 e.2 (AList.mem_lookup_iff.2 he)

lemma wholeSec_sub {a b : Int} (ha : WholeSec a) (hb : WholeSec b) : WholeSec (a - b) := by
  unfold WholeSec at *
  rw [Int.sub_emod, ha, hb]
  rfl

/-- **One call**: within the conditions, both clients give the same reply and keep the
DynamoDB table the marshalled mock table. -/
theorem call_agree {m : MockTable} (hm : m.Wf) {now : Int} {c : Call} (hc : c.Fits m now) :
    (MockClient.call m now c).1.same (DynamoClient.call (marshal m) now c).1 = true ∧
      (DynamoClient.call (marshal m) now c).2 = marshal (MockClient.call m now c).2 ∧
      MockTable.Wf (MockClient.call m now c).2 := by
  cases c with
  | getTenant id =>
    refine ⟨?_, rfl, hm⟩
    cases hr : m.lookup id with
    | none => simp [MockClient.call, DynamoClient.call, MockClient.getTenant,
        DynamoClient.getTenant, hr, Reply.same]
    | some r => simp [MockClient.call, DynamoClient.call, MockClient.getTenant,
        DynamoClient.getTenant, hr, Reply.same, toRecord_ofRecord_of_eq (hm.keys id r hr)]
  | createTenant r =>
    by_cases hmem : r.tenantID ∈ m
    · simp [MockClient.call, DynamoClient.call, MockClient.createTenant,
        DynamoClient.createTenant, hmem, Reply.ofWrite, Reply.same, hm]
    · simp only [MockClient.call, DynamoClient.call, MockClient.createTenant,
        DynamoClient.createTenant, mem_marshal, hmem, if_false, Reply.ofWrite, marshal_insert]
      exact ⟨by simp [Reply.same], by simp, hm.insert rfl hc.2 hc.1⟩
  | updateStatus id st name ip =>
    obtain ⟨r, hr⟩ := Option.isSome_iff_exists.1 (AList.lookup_isSome.2 hc.1)
    obtain ⟨h1, h2, h3⟩ := update_agree hm hr
      (fun r => { r with status := st, podName := name, podIP := ip, lastActiveAt := now })
      (fun it => { it with status := some st, podName := name, podIP := ip,
                           lastActiveAt := truncSec now })
      (by simp [Item.ofRecord, truncSec_of_wholeSec hc.2]) rfl hc.2
    simp only [MockClient.call, DynamoClient.call, MockClient.updateStatus,
      DynamoClient.updateStatus, h1, h2, Reply.ofWrite]
    exact ⟨by simp [Reply.same], by simp, h3⟩
  | updateActivity id =>
    obtain ⟨r, hr⟩ := Option.isSome_iff_exists.1 (AList.lookup_isSome.2 hc.1)
    obtain ⟨h1, h2, h3⟩ := update_agree hm hr (fun r => { r with lastActiveAt := now })
      (fun it => { it with lastActiveAt := truncSec now })
      (by simp [Item.ofRecord, truncSec_of_wholeSec hc.2]) rfl hc.2
    simp only [MockClient.call, DynamoClient.call, MockClient.updateActivity,
      DynamoClient.updateActivity, h1, h2, Option.getD_some]
    exact ⟨by simp [Reply.same], by simp, h3⟩
  | updateBotToken id tok =>
    exact updateExisting_agree hm id (fun r => { r with botToken := tok })
      (fun it => { it with botToken := tok }) (fun _ => rfl) (fun _ => rfl) (fun _ => rfl)
  | updateIdleTimeout id t =>
    exact updateExisting_agree hm id (fun r => { r with idleTimeoutS := t })
      (fun it => { it with idleTimeoutS := t }) (fun _ => rfl) (fun _ => rfl) (fun _ => rfl)
  | listAll =>
    refine ⟨?_, rfl, hm⟩
    have hmeta : ∀ r ∈ MockClient.listAll m, r.tenantID ≠ DynamoClient.warmPoolMetaID := by
      intro r hr h
      obtain ⟨e, he, rfl⟩ := List.mem_map.1 hr
      have hl := AList.mem_lookup_iff.2 he
      rw [hm.keys e.1 e.2 hl] at h
      exact hm.noMeta (h ▸ AList.lookup_isSome.1 (by rw [hl]; rfl))
    simp only [MockClient.call, DynamoClient.call, DynamoClient.listAll, scan_marshal hm,
      Item.ofRecord_status, Option.isSome_some, Bool.true_and, Reply.same,
      List.filter_eq_self.2 fun r hr => bne_iff_ne.2 (hmeta r hr)]
    simp
  | listByStatus st =>
    refine ⟨?_, rfl, hm⟩
    simp [MockClient.call, DynamoClient.call, DynamoClient.listByStatus, MockClient.listByStatus,
      scan_marshal hm, Reply.same]
  | listIdleTenants d =>
    refine ⟨?_, rfl, hm⟩
    have hcut := wholeSec_sub hc.1 hc.2
    have hfilter : (MockClient.listAll m).filter (fun r => r.status == statusRunning &&
          rfc3339Before (Item.ofRecord r).lastActiveAt (truncSec (now - d))) =
        MockClient.listIdleTenants m now d := by
      refine List.filter_congr fun r hr => ?_
      obtain ⟨e, he, rfl⟩ := List.mem_map.1 hr
      have hw := hm.whole e.1 e.2 (AList.mem_lookup_iff.2 he)
      rw [Item.ofRecord_lastActiveAt, truncSec_of_wholeSec hcut]
      congr 1
      rw [Bool.eq_iff_iff, rfc3339Before_iff hw hcut, decide_eq_true_iff]
    simp only [MockClient.call, DynamoClient.call, DynamoClient.listIdleTenants, scan_marshal hm,
      Item.ofRecord_status, Option.some_beq_some, hfilter, Reply.same]
    simp
  | deleteTenant id =>
    exact ⟨rfl, (marshal_erase m id).symm, hm.erase id⟩

/-- Any sequence of fitting calls: the replies agree one by one, and the DynamoDB table
stays the marshalled mock table. -/
lemma exec_agree : ∀ (m : MockTable) (calls : List (Int × Call)), m.Wf → CallsFit m calls →
    List.Forall₂ (fun a b => a.same b) (MockClient.exec m calls).1
        (DynamoClient.exec (marshal m) calls).1 ∧
      (DynamoClient.exec (marshal m) calls).2 = marshal (MockClient.exec m calls).2 ∧
      MockTable.Wf (MockClient.exec m calls).2
  | m, [], hm, _ => ⟨.nil, rfl, hm⟩
  | m, (now, c) :: cs, hm, ⟨hc, hcs⟩ => by
    obtain ⟨h1, h2, h3⟩ := call_agree hm hc
    obtain ⟨ih1, ih2, ih3⟩ := exec_agree _ cs h3 hcs
    simp only [MockClient.exec, DynamoClient.exec, h2]
    exact ⟨.cons h1 ih1, ih2, ih3⟩

/-- **`MockClient` stands for `DynamoClient` on whole seconds.** From a mock table as
`mock.go` builds it, every sequence of calls in which `UpdateStatus` and `UpdateActivity`
only touch existing ids, no record is created under `warm-pool-meta`, and every clock
reading, idle threshold and stored activity stamp is a whole second, gets the same replies
from both clients and leaves the same records. -/
theorem registry_clients_agree_whole_seconds (m : MockTable) (calls : List (Int × Call))
    (hm : m.Wf) (hc : CallsFit m calls) : ClientsAgree m calls := by
  obtain ⟨h1, h2, h3⟩ := exec_agree m calls hm hc
  refine ⟨h1, fun id => ?_⟩
  rw [h2]
  cases hr : (MockClient.exec m calls).2.lookup id with
  | none => simp [MockClient.getTenant, DynamoClient.getTenant, hr]
  | some r => simp [MockClient.getTenant, DynamoClient.getTenant, hr,
      toRecord_ofRecord_of_eq (h3.keys id r hr)]

lemma wf_empty : MockTable.Wf ∅ :=
  ⟨fun _ _ h => by simp at h, fun _ _ h => by simp at h, AList.not_mem_empty _⟩

/-- A tenant created, woken, touched and listed at whole seconds. -/
def sampleCalls : List (Int × Call) :=
  [(0, .createTenant ⟨"a", statusIdle, "", "", "tenants", "tenants/a/", "", 0, 0, 300⟩),
   (nsPerSec, .updateStatus "a" statusRunning "zeroclaw-a" "10.0.0.1"),
   (2 * nsPerSec, .updateActivity "a"),
   (400 * nsPerSec, .listIdleTenants (300 * nsPerSec))]

theorem sample_calls_agree :
    MockTable.Wf ∅ ∧ CallsFit ∅ sampleCalls ∧ ClientsAgree ∅ sampleCalls :=
  ⟨wf_empty, by decide, registry_clients_agree_whole_seconds ∅ sampleCalls wf_empty (by decide)⟩

end Tenancy

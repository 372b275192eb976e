import Mathlib.Data.List.AList
import Mathlib.Tactic.Linarith

/-!
The tenant record of `internal/registry/registry.go` and its DynamoDB item.

* `TenantRecord`: the Go struct `registry.TenantRecord`. A `time.Time` is an `Int`, the
  instant in nanoseconds from Go's zero time `0001-01-01T00:00:00Z`, and an `int64` an
  `Int`; `Namespace` is `ns`, `namespace` being a Lean keyword.
* `Item`: an item of the `tenant-registry` table, its key `tenant_id` left out. Its
  `status` is `none` when the item has no `status` attribute, which happens when an
  unconditional `UpdateItem` creates the item; an absent string attribute reads as `""`
  and an absent time as the zero instant, which is what `attributevalue.UnmarshalMap`
  gives back for them.
* `Item.ofRecord` and `Item.toRecord`: `attributevalue.MarshalMap` and `UnmarshalMap`;
  `toRecord_ofRecord` is their round trip. Marshalling stores a `time.Time` as its
  RFC 3339 text with nanoseconds, so the round trip is exact.
* `truncSec`, `rfc3339Before`: what `Format(time.RFC3339)` keeps of an instant (whole
  seconds), and the order DynamoDB's `<` applies to the stored strings when the right
  side is such a whole-second text: a stored text with a fraction, `...:05.5Z`, sorts
  below `...:05Z` because `.` sorts below `Z`. Years are taken to have four digits, so
  that the seconds part of the texts orders as the instants do.
-/

namespace Tenancy

/-- Nanoseconds in a second: `time.Second`. -/
def nsPerSec : Int := 1000000000

/-- `t.Format(time.RFC3339)` read back: the instant truncated to whole seconds. -/
def truncSec (t : Int) : Int := t / nsPerSec * nsPerSec

/-- An instant with no fraction of a second, whose RFC 3339 texts with and without
nanoseconds coincide. -/
def WholeSec (t : Int) : Prop := t % nsPerSec = 0

instance (t : Int) : Decidable (WholeSec t) := inferInstanceAs (Decidable (_ = _))

/-- DynamoDB's `a < c` on the string attributes holding the RFC 3339 texts of `a` (with
nanoseconds, as stored) and of the whole-second cutoff `c`. -/
def rfc3339Before (a c : Int) : Bool :=
  a / nsPerSec < c / nsPerSec || (a / nsPerSec == c / nsPerSec && a % nsPerSec != 0)

lemma truncSec_of_wholeSec {t : Int} (h : WholeSec t) : truncSec t = t := by
  unfold WholeSec at h
  unfold truncSec
  linarith [Int.ediv_add_emod t nsPerSec, mul_comm nsPerSec (t / nsPerSec)]

/-- On whole-second instants the string order is the order of the instants. -/
lemma rfc3339Before_iff {a c : Int} (ha : WholeSec a) (hc : WholeSec c) :
    rfc3339Before a c = true ↔ a < c := by
  unfold WholeSec at ha hc
  have ea : a = nsPerSec * (a / nsPerSec) := by linarith [Int.ediv_add_emod a nsPerSec]
  have ec : c = nsPerSec * (c / nsPerSec) := by linarith [Int.ediv_add_emod c nsPerSec]
  simp only [rfc3339Before, ha, bne_self_eq_false, Bool.and_false, Bool.or_false,
    decide_eq_true_eq]
  conv_rhs => rw [ea, ec]
  exact (mul_lt_mul_left (by decide)).symm

/-- `registry.TenantStatus`, a Go string type. -/
abbrev TenantStatus := String

/-- `StatusProvisioning`. -/
def statusProvisioning : TenantStatus := "provisioning"
/-- `StatusRunning`. -/
def statusRunning : TenantStatus := "running"
/-- `StatusIdle`. -/
def statusIdle : TenantStatus := "idle"
/-- `StatusTerminated`. -/
def statusTerminated : TenantStatus := "terminated"

/-- `registry.TenantRecord`. -/
structure TenantRecord where
  tenantID : String
  status : TenantStatus
  podName : String
  podIP : String
  ns : String
  s3Prefix : String
  botToken : String
  createdAt : Int
  lastActiveAt : Int
  idleTimeoutS : Int
  deriving DecidableEq, Repr

/-- An item of the registry table, without its key `tenant_id`. -/
structure Item where
  status : Option TenantStatus
  podName : String
  podIP : String
  ns : String
  s3Prefix : String
  botToken : String
  createdAt : Int
  lastActiveAt : Int
  idleTimeoutS : Int
  deriving DecidableEq, Repr

namespace Item

/-- The item an unconditional `UpdateItem` starts from when the key is absent: no
attribute but the key. -/
def blank : Item :=
  ⟨none, "", "", "", "", "", 0, 0, 0⟩

/-- `attributevalue.MarshalMap`: every field is stored; `status` has no `omitempty`. -/
def ofRecord (r : TenantRecord) : Item :=
  ⟨some r.status, r.podName, r.podIP, r.ns, r.s3Prefix, r.botToken, r.createdAt,
    r.lastActiveAt, r.idleTimeoutS⟩

/-- `attributevalue.UnmarshalMap` of the item stored under `tenantID`. -/
def toRecord (tenantID : String) (it : Item) : TenantRecord :=
  ⟨tenantID, it.status.getD "", it.podName, it.podIP, it.ns, it.s3Prefix, it.botToken,
    it.createdAt, it.lastActiveAt, it.idleTimeoutS⟩

lemma toRecord_ofRecord (r : TenantRecord) : toRecord r.tenantID (ofRecord r) = r := rfl

@[simp] lemma ofRecord_status (r : TenantRecord) : (ofRecord r).status = some r.status := rfl

@[simp] lemma ofRecord_lastActiveAt (r : TenantRecord) :
    (ofRecord r).lastActiveAt = r.lastActiveAt := rfl

end Item

/-- The registry table: DynamoDB items by `tenant_id`. -/
abbrev Table := AList (fun _ : String => Item)

end Tenancy

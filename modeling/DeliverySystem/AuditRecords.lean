import DeliverySystem.PythonValues

/-!
# Audit and approval records

An audit binds a result to one sealed Preview revision; its status only moves
from `Active` over `Stale` to `Invalid`. An approval repeats the digests of the
audit it was given for, and is current only while that audit is.
-/
namespace DeliverySystem.AuditRecords
open PythonValues
set_option autoImplicit false

/-- A parsed timestamp; the offset is there when the text names a time zone. -/
structure ParsedDatetime where
  wall : Instant
  offset : Option Int
deriving Repr, DecidableEq

/-- The timestamp parser of Python's library. -/
class DatetimeLibrary where
  /-- `datetime.fromisoformat`, `none` where it raises. -/
  fromisoformat : String → Option ParsedDatetime

/-- `datetime.fromisoformat(text.replace("Z", "+00:00"))`. -/
def parseTimestamp [DatetimeLibrary] (text : String) : Option ParsedDatetime :=
  DatetimeLibrary.fromisoformat (text.replace "Z" "+00:00")

inductive AuditResult where
  | passed
  | needsInformation
  | changesRequired
  | blocked
deriving Repr, DecidableEq

def AuditResult.text : AuditResult → String
  | .passed => "Passed"
  | .needsInformation => "NeedsInformation"
  | .changesRequired => "ChangesRequired"
  | .blocked => "Blocked"

inductive AuditStatus where
  | active
  | stale
  | invalid
deriving Repr, DecidableEq

def AuditStatus.text : AuditStatus → String
  | .active => "Active"
  | .stale => "Stale"
  | .invalid => "Invalid"

/-- The statuses that a transition may reach. -/
def AuditStatus.allowed : AuditStatus → List AuditStatus
  | .active => [.stale, .invalid]
  | .stale => [.invalid]
  | .invalid => []

/-- How far a status has moved; no transition goes back. -/
def AuditStatus.rank : AuditStatus → Nat
  | .active => 0
  | .stale => 1
  | .invalid => 2

theorem AuditStatus.mem_allowed {s t : AuditStatus} : t ∈ s.allowed ↔ s.rank < t.rank := by
  cases s <;> cases t <;> decide

/-! ## Audits -/

structure AuditFields where
  auditId : String
  previewId : String
  revision : Int
  planDigest : String
  remoteSnapshotDigest : Option String
  auditDigest : String
  result : AuditResult
  operationSetDigest : String
  status : AuditStatus
  sealedPreviewDigest : String
  workspaceIdentity : String
  auditScope : String
  auditPayloadDigest : String
  auditContextDigest : String
  ruleRegistryVersion : Option String
  ruleRegistryDigest : Option String
  ruleEvaluations : List Dict
  findings : List Dict
  evidenceRefs : List String
  createdAt : String
deriving DecidableEq

section
variable [DatetimeLibrary]

/-- `not value` of an optional text. -/
def absentText (text : Option String) : Bool := text = none || text = some ""

/-- What a formal audit must say besides its nine first fields. -/
structure AuditFields.Formal (f : AuditFields) : Prop where
  bound : f.sealedPreviewDigest ≠ "" ∧ f.workspaceIdentity ≠ "" ∧ f.auditContextDigest ≠ ""
  registry : absentText f.ruleRegistryVersion = false ∧ absentText f.ruleRegistryDigest = false
  created : f.createdAt ≠ "" ∧ (parseTimestamp f.createdAt).bind ParsedDatetime.offset = some 0

/-- `AuditRecord.__post_init__`. -/
structure AuditFields.Valid (f : AuditFields) : Prop where
  revision : 1 ≤ f.revision
  present : ∀ text ∈ [f.auditId, f.previewId, f.planDigest, f.auditDigest, f.operationSetDigest],
    text ≠ ""
  remote : f.remoteSnapshotDigest ≠ some ""
  formal : f.auditPayloadDigest ≠ "" → f.Formal

structure AuditRecord extends AuditFields where
  valid : toAuditFields.Valid

theorem AuditRecord.ext_fields {a b : AuditRecord} (h : a.toAuditFields = b.toAuditFields) :
    a = b := by
  cases a
  cases b
  cases h
  rfl

instance : DecidableEq AuditRecord := fun a b =>
  decidable_of_iff (a.toAuditFields = b.toAuditFields)
    ⟨AuditRecord.ext_fields, fun h => h ▸ rfl⟩

variable [PythonLibrary]

def AuditFields.payload (f : AuditFields) : Value :=
  .dict [("audit_id", .str f.auditId), ("preview_id", .str f.previewId),
    ("revision", .int f.revision), ("plan_digest", .str f.planDigest),
    ("remote_snapshot_digest", Value.textOrNone f.remoteSnapshotDigest),
    ("operation_set_digest", .str f.operationSetDigest),
    ("sealed_preview_digest", .str f.sealedPreviewDigest), ("result", .str f.result.text),
    ("status", .str f.status.text), ("workspace_identity", .str f.workspaceIdentity),
    ("audit_scope", .str f.auditScope), ("audit_payload_digest", .str f.auditPayloadDigest),
    ("audit_context_digest", .str f.auditContextDigest),
    ("rule_registry_version", Value.textOrNone f.ruleRegistryVersion),
    ("rule_registry_digest", Value.textOrNone f.ruleRegistryDigest)]

/-- `_computed_digest`. The evaluations, findings, references, and the time of
creation are not part of it. -/
def AuditFields.computedDigest (f : AuditFields) : String := digest f.payload

def AuditRecord.verifyDigest (a : AuditRecord) : Bool :=
  a.auditDigest ≠ "" && a.auditDigest = a.computedDigest

/-- The record under another status, with the digest computed anew. -/
def AuditRecord.restamp (a : AuditRecord) (status : AuditStatus) : AuditRecord where
  toAuditFields := { a.toAuditFields with
    status := status
    auditDigest := { a.toAuditFields with status := status }.computedDigest }
  valid :=
    { revision := a.valid.revision
      present := by
        have hpresent := a.valid.present
        simp only [List.forall_mem_cons, List.not_mem_nil, false_implies, implies_true,
          and_true] at hpresent ⊢
        exact ⟨hpresent.1, hpresent.2.1, hpresent.2.2.1, digest_ne_empty _, hpresent.2.2.2.2⟩
      remote := a.valid.remote
      formal := fun h =>
        have hformal := a.valid.formal h
        ⟨hformal.bound, hformal.registry, hformal.created⟩ }

/-- A transition to the same status returns the record as it is. -/
def AuditRecord.transition (a : AuditRecord) (status : AuditStatus) : Py AuditRecord :=
  if status = a.status then .ok a
  else if status ∈ a.status.allowed then .ok (a.restamp status)
  else .error (.valueError "invalid audit status transition")

theorem transition_eq_ok {a b : AuditRecord} {status : AuditStatus} :
    a.transition status = .ok b ↔
      (status = a.status ∧ b = a) ∨ (a.status.rank < status.rank ∧ b = a.restamp status) := by
  unfold AuditRecord.transition
  simp only [AuditStatus.mem_allowed]
  split_ifs with hsame hless
  · subst hsame
    simp [eq_comm]
  · simp [hsame, hless, eq_comm]
  · simp [hsame, hless]

def AuditRecord.approvalEligible (a : AuditRecord) : Bool :=
  a.auditScope = "WriteEligible" && a.status = .active && a.result = .passed

/-! ## Approvals -/

structure ApprovalRecord where
  approvalId : String
  auditId : String
  auditDigest : String
  auditResult : AuditResult
  previewId : String
  revision : Int
  planDigest : String
  remoteSnapshotDigest : String
  operationSetDigest : String
  repositoryIdentity : Option String
  approvalCommand : String
  approverClaim : String
  approvedAt : String
  status : String
deriving Repr, DecidableEq

def ApprovalRecord.isStructurallyValid (a : ApprovalRecord) : Bool :=
  let aware := (parseTimestamp a.approvedAt).bind ParsedDatetime.offset
  a.auditResult = .passed && aware.isSome &&
    a.approvalCommand = "批准写入 " ++ a.previewId ++ " " ++ toString a.revision &&
    a.repositoryIdentity.any (PythonLibrary.strip · ≠ "") && a.status = "valid" &&
    [a.approvalId, a.auditId, a.auditDigest, a.previewId, a.planDigest, a.remoteSnapshotDigest,
      a.operationSetDigest, a.approvalCommand, a.approverClaim, a.approvedAt].all (· ≠ "")

def ApprovalRecord.validateAgainst (a : ApprovalRecord) (audit : AuditRecord) : Bool :=
  a.isStructurallyValid && a.auditResult = .passed && audit.result = .passed &&
    audit.status = .active && audit.verifyDigest && a.auditId = audit.auditId &&
    a.auditDigest = audit.auditDigest && a.previewId = audit.previewId &&
    a.revision = audit.revision && a.planDigest = audit.planDigest &&
    some a.remoteSnapshotDigest = audit.remoteSnapshotDigest &&
    a.operationSetDigest = audit.operationSetDigest

end
end DeliverySystem.AuditRecords

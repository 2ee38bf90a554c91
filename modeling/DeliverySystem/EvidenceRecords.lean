import DeliverySystem.CanonicalValues
import DeliverySystem.IssueCommands

/-!
# Evidence records

A piece of evidence names its source, carries what the source said, and is
identified by digests of both. Declared evidence repeats the plan; verified
evidence can only come from the runtime or a driver. What is read back is
checked against its digests.
-/
namespace DeliverySystem.EvidenceRecords
open PythonValues CanonicalValues IssueCommands
set_option autoImplicit false

/-- `int` of values that are not integers. -/
class IntegerLibrary where
  /-- `int(text)`, `none` where it raises `ValueError`. -/
  ofText : String → Option Int
  /-- `int` of a finite float, by its written form. -/
  ofFloat : String → Int

/-- `int(value)` -/
def Value.toInteger [IntegerLibrary] : Value → Py Int
  | .int n => .ok n
  | .bool b => .ok (if b then 1 else 0)
  | .float written => .ok (IntegerLibrary.ofFloat written)
  | .str s => orRaise (IntegerLibrary.ofText s) (.valueError "invalid literal for int()")
  | _ => .error .typeError

inductive DeclaredSource where
  | userAsserted
  | modelProposed
  | modelAssumption
deriving Repr, DecidableEq

def DeclaredSource.text : DeclaredSource → String
  | .userAsserted => "user_asserted"
  | .modelProposed => "model_proposed"
  | .modelAssumption => "model_assumption"

/-- `DeclaredSource(value)` -/
def DeclaredSource.parse (value : Value) : Py DeclaredSource :=
  orRaise ([.userAsserted, .modelProposed, .modelAssumption].find? fun source =>
    value = .str source.text) (.valueError "declared_source_invalid")

/-- `DeclaredSource(value) if value is not None else None` -/
def DeclaredSource.parseOptional (value : Value) : Py (Option DeclaredSource) :=
  if value = .null then .ok none else some <$> DeclaredSource.parse value

/-- `SourcedValue(value, source).to_dict()` -/
def sourcedValue (value : Value) (source : DeclaredSource) : Dict :=
  [("value", value), ("declared_source", .str source.text),
    ("provenance_status", .str "declared_unverified")]

structure EvidenceRecord where
  evidenceId : String
  workspaceIdentity : String
  previewId : String
  revision : Int
  evidenceType : String
  sourceKind : String
  declaredSource : Option DeclaredSource
  verificationStatus : String
  sourceIdentity : String
  repositoryIdentity : Value
  queryScope : Value
  schemaVersion : String
  subjectRef : String
  payload : Value
  evidenceDigest : String
  createdAt : Value
deriving DecidableEq

def DeclaredSource.value (source : Option DeclaredSource) : Value :=
  Value.textOrNone (source.map DeclaredSource.text)

def EvidenceRecord.toDict (r : EvidenceRecord) : Dict :=
  [("evidence_id", .str r.evidenceId), ("workspace_identity", .str r.workspaceIdentity),
    ("preview_id", .str r.previewId), ("revision", .int r.revision),
    ("evidence_type", .str r.evidenceType), ("source_kind", .str r.sourceKind),
    ("declared_source", DeclaredSource.value r.declaredSource),
    ("verification_status", .str r.verificationStatus),
    ("source_identity", .str r.sourceIdentity), ("repository_identity", r.repositoryIdentity),
    ("query_scope", r.queryScope), ("schema_version", .str r.schemaVersion),
    ("subject_ref", .str r.subjectRef), ("payload", r.payload),
    ("evidence_digest", .str r.evidenceDigest), ("created_at", r.createdAt)]

section
variable [PythonLibrary] [UnicodeLibrary]

/-- The payload under `evidence_digest`. -/
def evidencePayload (evidenceType sourceKind : String) (declaredSource : Option DeclaredSource)
    (subjectRef sourceIdentity : String) (repositoryIdentity queryScope : Value)
    (schemaVersion : String) (payload : Value) : Value :=
  .dict [("evidence_type", .str evidenceType), ("source_kind", .str sourceKind),
    ("declared_source", DeclaredSource.value declaredSource), ("subject_ref", .str subjectRef),
    ("source_identity", .str sourceIdentity), ("repository_identity", repositoryIdentity),
    ("query_scope", queryScope), ("schema_version", .str schemaVersion), ("payload", payload)]

/-- `"ev_"` and the digest of what identifies the evidence. -/
def evidenceIdentity (workspaceIdentity previewId : String) (revision : Int)
    (evidenceType subjectRef evidenceDigest : String) : Py String := do
  let value ← CanonicalValues.normalize (.dict
    [("domain", .str "delivery-system:evidence-id:v1"),
      ("workspace_identity", .str workspaceIdentity), ("preview_id", .str previewId),
      ("revision", .int revision), ("evidence_type", .str evidenceType),
      ("subject_ref", .str subjectRef), ("evidence_digest", .str evidenceDigest)])
  pure ("ev_" ++ PythonLibrary.hexdigest value)

/-- `_create_controlled` -/
def EvidenceRecord.createControlled (workspaceIdentity previewId : String) (revision : Int)
    (evidenceType sourceKind : String) (declaredSource : Option DeclaredSource)
    (subjectRef : String) (payload createdAt : Value) (sourceIdentity : String)
    (repositoryIdentity queryScope : Value) (schemaVersion : String) (verified : Bool) :
    Py EvidenceRecord := do
  raiseIf (sourceKind ∉ ["declared", "runtime", "driver"]) "invalid_evidence_source_kind"
  raiseIf (verified = false ∧ sourceKind ≠ "declared") "controlled_evidence_source"
  raiseIf (verified = true ∧ (sourceKind ∉ ["runtime", "driver"] ∨ declaredSource ≠ none))
    "verified_evidence_source_invalid"
  raiseIf (verified = false ∧ declaredSource = none) "declared_source_required"
  let status := if verified then sourceKind ++ "_verified" else "declared_unverified"
  let evidenceDigest ← canonicalDigest (evidencePayload evidenceType sourceKind declaredSource
    subjectRef sourceIdentity repositoryIdentity queryScope schemaVersion payload)
  let evidenceId ← evidenceIdentity workspaceIdentity previewId revision evidenceType subjectRef
    evidenceDigest
  let queryScope ← CanonicalValues.normalize queryScope
  let payload ← CanonicalValues.normalize payload
  pure
    { evidenceId, workspaceIdentity, previewId, revision, evidenceType, sourceKind, declaredSource
      verificationStatus := status
      sourceIdentity, repositoryIdentity, queryScope, schemaVersion, subjectRef, payload
      evidenceDigest, createdAt }

variable [IntegerLibrary]

/-- `str(data[key])` -/
def requireText (data : Dict) (key : String) : Py String := do
  let value ← Dict.require data key
  pure (Value.toText value)

def requireInteger (data : Dict) (key : String) : Py Int := do
  let value ← Dict.require data key
  Value.toInteger value

/-- The branch of `from_dict` for verified evidence. -/
def EvidenceRecord.verifiedFromDict (data : Dict) (sourceKind : String) : Py EvidenceRecord := do
  raiseIf (sourceKind ∉ ["runtime", "driver"] ∨ data.get "declared_source" ≠ .null)
    "evidence_source_invalid"
  let status := if sourceKind = "runtime" then "runtime_verified" else "driver_verified"
  raiseIf (data.get "verification_status" ≠ .str status) "evidence_verification_status_invalid"
  let evidenceId ← requireText data "evidence_id"
  let workspaceIdentity ← requireText data "workspace_identity"
  let previewId ← requireText data "preview_id"
  let revision ← requireInteger data "revision"
  let evidenceType ← requireText data "evidence_type"
  let sourceIdentity ← requireText data "source_identity"
  let queryScope ← CanonicalValues.normalize (data.get "query_scope")
  let schemaVersion ← requireText data "schema_version"
  let subjectRef ← requireText data "subject_ref"
  let payload ← Dict.require data "payload"
  let payload ← CanonicalValues.normalize payload
  let evidenceDigest ← requireText data "evidence_digest"
  let repositoryIdentity := data.get "repository_identity"
  let expectedDigest ← canonicalDigest (evidencePayload evidenceType sourceKind none subjectRef
    sourceIdentity repositoryIdentity queryScope schemaVersion payload)
  raiseIf (evidenceDigest ≠ expectedDigest) "evidence_digest_mismatch"
  let expectedId ← evidenceIdentity workspaceIdentity previewId revision evidenceType subjectRef
    evidenceDigest
  raiseIf (evidenceId ≠ expectedId) "evidence_id_mismatch"
  pure
    { evidenceId, workspaceIdentity, previewId, revision, evidenceType, sourceKind
      declaredSource := none
      verificationStatus := status
      sourceIdentity, repositoryIdentity, queryScope, schemaVersion, subjectRef, payload
      evidenceDigest
      createdAt := data.get "created_at" }

/-- The branch of `from_dict` for declared evidence, which is made again. -/
def EvidenceRecord.declaredFromDict (data : Dict) : Py EvidenceRecord := do
  let workspaceIdentity ← requireText data "workspace_identity"
  let previewId ← requireText data "preview_id"
  let revision ← requireInteger data "revision"
  let evidenceType ← requireText data "evidence_type"
  let sourceKind ← requireText data "source_kind"
  let declaredSource ← DeclaredSource.parseOptional (data.get "declared_source")
  let subjectRef ← requireText data "subject_ref"
  let payload ← Dict.require data "payload"
  let sourceIdentity ← requireText data "source_identity"
  let schemaVersion ← requireText data "schema_version"
  let record ← EvidenceRecord.createControlled workspaceIdentity previewId revision evidenceType
    sourceKind declaredSource subjectRef payload (data.get "created_at") sourceIdentity
    (data.get "repository_identity") (data.get "query_scope") schemaVersion false
  raiseIf (data.get "evidence_id" ≠ .str record.evidenceId ∨
    data.get "evidence_digest" ≠ .str record.evidenceDigest) "evidence_digest_mismatch"
  pure record

def EvidenceRecord.fromDict (data : Dict) : Py EvidenceRecord := do
  let sourceKind ← requireText data "source_kind"
  if sourceKind = "declared" then EvidenceRecord.declaredFromDict data
  else EvidenceRecord.verifiedFromDict data sourceKind

end
end DeliverySystem.EvidenceRecords

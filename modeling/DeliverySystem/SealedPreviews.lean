import DeliverySystem.RemoteSnapshots

/-!
# Sealed Previews

A Preview is sealed as one canonical mapping. Before it is stored it is checked
against everything that the runtime knows about it, and its level is decided
anew from the sealed content alone; approval decides the same question a third
time.
-/
namespace DeliverySystem.SealedPreviews
open PythonValues CanonicalValues WriteOperations IssueCommands ExecutionContexts
open AuditRecords EvidenceRecords RemoteSnapshots
set_option autoImplicit false

inductive PreviewLevel where
  | conceptual
  | repositoryAware
  | writeEligible
deriving Repr, DecidableEq

def PreviewLevel.text : PreviewLevel → String
  | .conceptual => "Conceptual"
  | .repositoryAware => "RepositoryAware"
  | .writeEligible => "WriteEligible"

def previewLevelTexts : List String := ["Conceptual", "RepositoryAware", "WriteEligible"]

/-- `DriverTrustContext` -/
structure TrustContext where
  trustedDriverIdentity : String
  origin : String
  contractVersion : String
deriving DecidableEq

def TrustContext.remoteAuthority [PythonLibrary] [UnicodeLibrary] (t : TrustContext) : Py String :=
  canonicalDigest (.dict
    [("domain", .str "delivery-system:remote-authority:v1"),
      ("trusted_driver_identity", .str t.trustedDriverIdentity), ("origin", .str t.origin),
      ("contract_version", .str t.contractVersion)])

/-- `RuntimePromotion`: what a validated driver read entitles a Preview to, once. -/
structure RuntimePromotion where
  trustContext : TrustContext
  evidenceRecord : EvidenceRecord
  remoteContentDigest : String
  remoteSnapshotDigest : String
  used : Bool
deriving DecidableEq

/-! ## The record -/

structure SealedPreview where
  workspaceIdentity : String
  requestId : String
  previewId : String
  revision : Int
  previewLevel : String
  provenanceStatus : String
  repositoryIdentity : Option String
  remoteAuthority : Option String
  semanticPayload : Dict
  operationIntents : List Dict
  planDigest : String
  operationSetDigest : String
  remoteSnapshot : Option Dict
  remoteSnapshotDigest : Option String
  items : List Dict
  evidenceIds : List String
  blockers : List String
  plannerObservations : List Dict
  sealedPreviewDigest : String
  /-- `existing_endpoint_bindings`, of a Preview in version 2. -/
  endpointBindings : Option (List Dict)

def sealedPreviewFields : List String :=
  ["workspace_identity", "request_id", "preview_id", "revision", "preview_level",
    "provenance_status", "repository_identity", "remote_authority", "semantic_payload",
    "operation_intents", "plan_digest", "operation_set_digest", "remote_snapshot",
    "remote_snapshot_digest", "items", "evidence_ids", "blockers", "planner_observations",
    "sealed_preview_digest"]

def versionFields : List String := ["canonical_version", "existing_endpoint_bindings"]

/-- A list whose members are all mappings. -/
def mappingList? (value : Value) : Option (List Dict) :=
  value.list?.bind (·.mapM Value.mapping?)

/-- `None`, or what is read of any other value. -/
def optional? {α : Type} (read : Value → Option α) : Value → Option (Option α)
  | .null => some none
  | value => (read value).map some

def Value.dictOrNone : Option Dict → Value
  | some d => .dict d
  | none => .null

def Value.dicts (items : List Dict) : Value := .list (items.map .dict)

section
variable [PythonLibrary]

/-- The `canonical_version` and the fields it goes with. -/
def sealedPreviewVersion (payload : Dict) : Py (Option (List Dict)) :=
  match payload.get "canonical_version" with
  | .null => do
      raiseIf (payload.hasExactly sealedPreviewFields = false) "sealed_preview_schema_invalid"
      pure none
  | .str "2" => do
      raiseIf (payload.hasExactly (sealedPreviewFields ++ versionFields) = false)
        "sealed_preview_schema_invalid"
      let bindings ← orRaise (mappingList? (payload.get "existing_endpoint_bindings"))
        (.valueError "sealed_preview_endpoint_bindings_invalid")
      pure (some bindings)
  | _ => .error (.valueError "sealed_preview_version_invalid")

/-- The version of the remote snapshot is that of the Preview. -/
def checkSnapshotVersion (endpointBindings : Option (List Dict)) (remote : Option Dict)
    (remoteSnapshotDigest : Value) : Py Unit := do
  let version := (remote.map (Dict.get · "schema_version")).getD .null
  raiseIf (remote.isSome ∧ endpointBindings.isNone ∧ version = .str "remote-snapshot-v2")
    "sealed_preview_v1_v2_hybrid"
  raiseIf (remote.isSome ∧ endpointBindings.isSome ∧ version ≠ .str "remote-snapshot-v2")
    "sealed_preview_v2_snapshot_invalid"
  raiseIf (endpointBindings.any (· ≠ []) ∧
      (version ≠ .str "remote-snapshot-v2" ∨ remoteSnapshotDigest.nonEmptyText?.isNone))
    "sealed_preview_v2_snapshot_required"

def SealedPreview.fromDict (payload : Dict) : Py SealedPreview := do
  let endpointBindings ← sealedPreviewVersion payload
  let identity := Raised.valueError "sealed_preview_identity_invalid"
  let workspaceIdentity ← orRaise (payload.get "workspace_identity").nonEmptyText? identity
  let requestId ← orRaise (payload.get "request_id").nonEmptyText? identity
  let previewId ← orRaise (payload.get "preview_id").nonEmptyText? identity
  let revision ← orRaise (positiveInt? (payload.get "revision"))
    (.valueError "sealed_preview_revision_invalid")
  let known ← inTexts (payload.get "preview_level") previewLevelTexts
  raiseIf (known = false) "sealed_preview_level_invalid"
  raiseIf (payload.get "provenance_status" ≠ .str "declared_unverified")
    "preview_provenance_invalid"
  let incomplete := Raised.valueError "sealed_preview_payload_invalid"
  let semanticPayload ← orRaise (payload.get "semantic_payload").mapping? incomplete
  let operationIntents ← orRaise (mappingList? (payload.get "operation_intents")) incomplete
  let items ← orRaise (mappingList? (payload.get "items")) incomplete
  let evidenceIds ← orRaise (textList? (payload.get "evidence_ids")) incomplete
  let blockers ← orRaise ((payload.get "blockers").list?.bind allTexts) incomplete
  let plannerObservations ← orRaise (mappingList? (payload.get "planner_observations")) incomplete
  let field := Raised.valueError "sealed_preview_digest_field_invalid"
  let planDigest ← orRaise (payload.get "plan_digest").nonEmptyText? field
  let operationSetDigest ← orRaise (payload.get "operation_set_digest").nonEmptyText? field
  let sealedPreviewDigest ← orRaise (payload.get "sealed_preview_digest").nonEmptyText? field
  let repositoryIdentity ← orRaise (optional? presentText? (payload.get "repository_identity"))
    (.valueError "sealed_preview_repository_invalid")
  let remoteAuthority ← orRaise (optional? Value.text? (payload.get "remote_authority"))
    (.valueError "sealed_preview_authority_invalid")
  let remoteSnapshot ← orRaise (optional? Value.mapping? (payload.get "remote_snapshot"))
    (.valueError "sealed_preview_remote_invalid")
  checkSnapshotVersion endpointBindings remoteSnapshot (payload.get "remote_snapshot_digest")
  let remoteSnapshotDigest ← orRaise
    (optional? Value.nonEmptyText? (payload.get "remote_snapshot_digest"))
    (.valueError "sealed_preview_remote_digest_invalid")
  pure
    { workspaceIdentity, requestId, previewId, revision
      previewLevel := Value.toText (payload.get "preview_level")
      provenanceStatus := "declared_unverified"
      repositoryIdentity, remoteAuthority, semanticPayload, operationIntents, planDigest
      operationSetDigest, remoteSnapshot, remoteSnapshotDigest, items, evidenceIds, blockers
      plannerObservations, sealedPreviewDigest, endpointBindings }

/-- The entries that `to_dict` normalizes. -/
def SealedPreview.entries (p : SealedPreview) : Dict :=
  [("workspace_identity", .str p.workspaceIdentity), ("request_id", .str p.requestId),
    ("preview_id", .str p.previewId), ("revision", .int p.revision),
    ("preview_level", .str p.previewLevel), ("provenance_status", .str p.provenanceStatus),
    ("repository_identity", Value.textOrNone p.repositoryIdentity),
    ("remote_authority", Value.textOrNone p.remoteAuthority),
    ("semantic_payload", .dict p.semanticPayload),
    ("operation_intents", Value.dicts p.operationIntents), ("plan_digest", .str p.planDigest),
    ("operation_set_digest", .str p.operationSetDigest),
    ("remote_snapshot", Value.dictOrNone p.remoteSnapshot),
    ("remote_snapshot_digest", Value.textOrNone p.remoteSnapshotDigest),
    ("items", Value.dicts p.items), ("evidence_ids", Value.texts p.evidenceIds),
    ("blockers", Value.texts p.blockers),
    ("planner_observations", Value.dicts p.plannerObservations),
    ("sealed_preview_digest", .str p.sealedPreviewDigest)] ++
  match p.endpointBindings with
  | none => []
  | some bindings =>
      [("canonical_version", .str "2"), ("existing_endpoint_bindings", Value.dicts bindings)]

variable [UnicodeLibrary]

def SealedPreview.toDict (p : SealedPreview) : Py Dict := do
  let value ← CanonicalValues.normalize (.dict p.entries)
  orRaise value.mapping? .typeError

/-! ## The level of a Preview -/

def isVersion2 (canonical : Dict) : Prop := canonical.get "canonical_version" = .str "2"

instance (canonical : Dict) : Decidable (isVersion2 canonical) :=
  inferInstanceAs (Decidable (_ = _))

/-- The write-operation evaluation of the version: the operations as they are
written in the digest, and whether they are eligible. -/
structure Evaluated where
  operations : List Value
  eligible : Bool

def Endpoint.toDict (e : Endpoint) : Value :=
  match e.endpointType with
  | .workItem => .dict [("endpoint_type", .str "work_item"), ("client_ref", .str e.ref)]
  | .existingIssue => .dict [("endpoint_type", .str "existing_issue"), ("endpoint_ref", .str e.ref)]

def WriteOperationV2.toDict : WriteOperationV2 → Value
  | .createIssue endpoint dependsOn =>
      .dict [("operation_kind", .str "create_issue"), ("endpoint", Endpoint.toDict endpoint),
        ("depends_on", Value.texts dependsOn)]
  | .relationship kind first second dependsOn =>
      .dict [("operation_kind", .str kind.operationKind),
        ("operands", .list [Endpoint.toDict first, Endpoint.toDict second]),
        ("depends_on", Value.texts dependsOn)]

/-- A list argument that the code measures and walks. -/
def Value.items (value : Value) : Py (List Value) := orRaise value.list? .typeError

/-- `value or {}`, read as a mapping. -/
def Value.orEmptyDict (value : Value) : Py Dict :=
  if Value.truthy value then orRaise value.mapping? .attributeError else .ok []

/-- `evaluate_write_operations(_v2)` on what a canonical mapping holds. -/
def evaluateCanonical (canonical : Dict) : Py Evaluated := do
  let items ← Value.items (getOr canonical "items" (.list []))
  let semantic ← orRaise (getOr canonical "semantic_payload" (.dict [])).mapping? .attributeError
  let intents := getOr canonical "operation_intents" (.list [])
  if isVersion2 canonical then
    let remote ← Value.orEmptyDict (canonical.get "remote_snapshot")
    let bindings ← Value.items (getOr canonical "existing_endpoint_bindings" (.list []))
    let records ← Value.iterate (getOr remote "relationship_records" (.list []))
    let evaluation ← evaluateWriteOperationsV2 intents items semantic bindings records
    pure { operations := evaluation.operations.map WriteOperationV2.toDict,
           eligible := evaluation.eligible }
  else
    let evaluation ← evaluateWriteOperations intents items semantic
    pure { operations := evaluation.operations.map WriteOperation.toDict,
           eligible := evaluation.eligible }

/-- `_runtime_preview_level` -/
def runtimePreviewLevel (canonical : Dict) : Py PreviewLevel :=
  match canonical.get "remote_snapshot" with
  | .dict remote =>
      if canonical.get "remote_snapshot_digest" = .null then .ok .conceptual
      else if Dict.get remote "query_complete" = .bool true ∧
          Dict.get remote "pagination_complete" = .bool true then
        match evaluateCanonical canonical with
        | .ok evaluation =>
            if evaluation.eligible = true ∧ Value.truthy (canonical.get "blockers") = false then
              .ok .writeEligible
            else .ok .repositoryAware
        | .error (.valueError _) => .ok .repositoryAware
        | .error .typeError => .ok .repositoryAware
        | .error e => .error e
      else .ok .conceptual
  | _ => .ok .conceptual

/-- `operation_set_digest_payload`, in the payload of the version. -/
def operationSetDigestPayload (version2 : Prop) [Decidable version2] (operations : List Value) :
    Py Value := do
  let entries ← orRaise (operations.mapM Value.mapping?)
    (.valueError "write_operation_shape_invalid")
  if version2 then
    pure (.dict [("canonical_version", .str "2"), ("operation_intents", Value.dicts entries)])
  else
    pure (.dict [("operation_intents", Value.dicts (entries.map fun operation =>
      operation.filter fun entry => entry.1 ∉ ["id", "operation_id"]))])

def operationSetDigest (version2 : Prop) [Decidable version2] (operations : List Value) :
    Py String := do
  let payload ← operationSetDigestPayload version2 operations
  canonicalDigest payload

def planDigestOf (version2 : Prop) [Decidable version2] (semantic : Value) : Py String :=
  if version2 then
    canonicalDigest (.dict [("canonical_version", .str "2"), ("semantic_payload", semantic)])
  else canonicalDigest semantic

def unsealed (canonical : Dict) : Dict :=
  canonical.filter fun entry => entry.1 ≠ "sealed_preview_digest"

/-- The comparisons of `_preview_is_approval_eligible`, before its handler. -/
def approvalComparisons (canonical : Dict) : Py Bool := do
  ["operation_intents", "items", "semantic_payload"].forM fun key => do
    let _ ← Dict.require canonical key
  let evaluation ← evaluateCanonical canonical
  let operationDigest ← operationSetDigest (isVersion2 canonical) evaluation.operations
  let planDigest ← planDigestOf (isVersion2 canonical) (canonical.get "semantic_payload")
  let sealedDigest ← canonicalDigest (.dict (unsealed canonical))
  pure (evaluation.eligible && canonical.get "operation_set_digest" = .str operationDigest &&
    canonical.get "plan_digest" = .str planDigest &&
    canonical.get "sealed_preview_digest" = .str sealedDigest)

/-- `_preview_is_approval_eligible`, of the canonical payload. -/
def previewIsApprovalEligible (canonical : Dict) : Py Bool :=
  if canonical.get "preview_level" ≠ .str "WriteEligible" then .ok false
  else if (canonical.get "workspace_identity").text?.isNone ∨
      (canonical.get "repository_identity").text?.isNone ∨
      (canonical.get "remote_snapshot_digest").text?.isNone ∨
      canonical.get "blockers" ≠ .list [] then .ok false
  else
    match approvalComparisons canonical with
    | .error (.valueError _) => .ok false
    | .error .typeError => .ok false
    | .error .keyError => .ok false
    | result => result

/-! ## Validation before a save -/

/-- The references of endpoint declarations or of bindings, none of them twice. -/
def endpointReferences (entries : Value) (listInvalid entryInvalid duplicate : String) :
    Py (List String) := do
  let entries ← orRaise entries.list? (.valueError listInvalid)
  let refs ← entries.mapM fun entry => do
    let fields ← orRaise entry.mapping? (.valueError entryInvalid)
    orRaise (presentText? (fields.get "endpoint_ref")) (.valueError entryInvalid)
  raiseIf (¬refs.Nodup) duplicate
  pure refs

/-- `_validate_v2_endpoint_authority` -/
def validateV2EndpointAuthority (canonical : Dict) : Py Unit :=
  if isVersion2 canonical then do
    let semantic ← orRaise (canonical.get "semantic_payload").mapping?
      (.valueError "sealed_preview_endpoint_declarations_invalid")
    let declared ← endpointReferences (semantic.get "existing_issue_endpoints")
      "sealed_preview_endpoint_declarations_invalid"
      "sealed_preview_endpoint_declaration_invalid"
      "sealed_preview_endpoint_declaration_duplicate"
    let bound ← endpointReferences (canonical.get "existing_endpoint_bindings")
      "sealed_preview_endpoint_bindings_invalid" "sealed_preview_endpoint_binding_invalid"
      "sealed_preview_endpoint_binding_duplicate"
    raiseIf (∃ ref ∈ bound, ref ∉ declared) "sealed_preview_endpoint_binding_undeclared"
    raiseIf ((canonical.get "preview_level" = .str "RepositoryAware" ∨
        canonical.get "preview_level" = .str "WriteEligible") ∧ ∃ ref ∈ declared, ref ∉ bound)
      "sealed_preview_endpoint_binding_coverage_invalid"
  else .ok ()

/-- `validate_sealed_preview_invariants` -/
def validateSealedPreviewInvariants (canonical : Dict) (expectedWorkspaceIdentity : String)
    (promotion : Option RuntimePromotion) : Py Unit := do
  raiseIf (canonical.get "provenance_status" ≠ .str "declared_unverified")
    "preview_provenance_invalid"
  raiseIf (canonical.get "workspace_identity" ≠ .str expectedWorkspaceIdentity)
    "workspace_identity_mismatch"
  let known ← inTexts (canonical.get "preview_level") previewLevelTexts
  raiseIf (known = false) "preview_level_unverified"
  if canonical.get "preview_level" = .str "Conceptual" then
    raiseIf (canonical.get "repository_identity" ≠ .null ∨ canonical.get "remote_snapshot" ≠ .null ∨
        canonical.get "remote_snapshot_digest" ≠ .null ∨ canonical.get "remote_authority" ≠ .null)
      "conceptual_repository_forbidden"
  else do
    let mismatch := Raised.valueError "repository_identity_mismatch"
    let repository ← orRaise (presentText? (canonical.get "repository_identity")) mismatch
    let remote ← orRaise (canonical.get "remote_snapshot").mapping? mismatch
    let remoteDigest ← orRaise (canonical.get "remote_snapshot_digest").nonEmptyText? mismatch
    raiseIf (remote.get "repository_identity" ≠ .str repository) "repository_identity_mismatch"
    let issues ← Value.iterate (getOr remote "issue_records" (.list []))
    issues.forM fun issue => do
      let issue ← orRaise issue.mapping? .attributeError
      raiseIf (issue.get "repository_identity" ≠ .str repository) "repository_identity_mismatch"
    let promotion ← orRaise promotion (.valueError "preview_level_unverified")
    let authority ← promotion.trustContext.remoteAuthority
    raiseIf (canonical.get "remote_authority" ≠ .str authority) "driver_trust_context_mismatch"
    raiseIf (remoteDigest ≠ promotion.remoteSnapshotDigest) "remote_snapshot_digest_mismatch"

/-- The arguments of a save that the canonical payload must repeat. -/
structure PreviewBinding where
  requestId : String
  previewId : String
  revision : Int
  planDigest : String
  remoteSnapshotDigest : Option String
  operationSetDigest : String
  repositoryIdentity : Option String
deriving DecidableEq

def PreviewBinding.wellFormed (b : PreviewBinding) : Prop :=
  b.requestId ≠ "" ∧ b.previewId ≠ "" ∧ 1 ≤ b.revision ∧ b.planDigest ≠ "" ∧
    b.operationSetDigest ≠ "" ∧ b.remoteSnapshotDigest ≠ some "" ∧
    ∀ repository, b.repositoryIdentity = some repository → PythonLibrary.strip repository ≠ ""

instance (b : PreviewBinding) : Decidable b.wellFormed :=
  decidable_of_iff (b.requestId ≠ "" ∧ b.previewId ≠ "" ∧ 1 ≤ b.revision ∧ b.planDigest ≠ "" ∧
      b.operationSetDigest ≠ "" ∧ b.remoteSnapshotDigest ≠ some "" ∧
      b.repositoryIdentity.all (PythonLibrary.strip · ≠ "") = true) (by
    unfold PreviewBinding.wellFormed
    cases b.repositoryIdentity <;> simp)

variable [IntegerLibrary] [DatetimeLibrary] [CasefoldLibrary]

/-- The records that a sealed remote snapshot is built from again. -/
def sealedSnapshotRecords (remote : Dict) : SnapshotRecords where
  repositoryIdentity := .str (Value.toText (getOr remote "repository_identity" (.str "")))
  queryScope := getOr remote "query_scope" (.dict [])
  queryComplete := remote.get "query_complete"
  paginationComplete := remote.get "pagination_complete"
  issueRecords := getOr remote "issue_records" (.list [])
  permissions := getOr remote "permissions" (.dict [])
  capabilities := getOr remote "capabilities" (.list [])
  relationshipRecords := getOr remote "relationship_records" (.list [])
  evidenceIds := getOr remote "evidence_ids" (.list [])
  observedAt := remote.get "observed_at"

def endpointBindingFields : List String :=
  ["endpoint_ref", "selector_digest", "issue_id", "remote_record_digest", "identity_digest",
    "write_address_digest", "semantic_digest"]

/-- A binding repeats the digests of the issue record that it names. -/
def checkEndpointBinding (records : List Dict) (binding : Value) : Py Unit := do
  let invalid := Raised.valueError "sealed_preview_endpoint_binding_invalid"
  let fields ← orRaise binding.mapping? invalid
  raiseIf (fields.hasExactly endpointBindingFields = false)
    "sealed_preview_endpoint_binding_invalid"
  let _ ← orRaise (if Value.hashable (fields.get "issue_id") then some () else none) .typeError
  let record ← orRaise (records.reverse.find? fun record =>
    Dict.get record "issue_id" = fields.get "issue_id") invalid
  let recordDigest ← canonicalDigest (.dict record)
  raiseIf (fields.get "remote_record_digest" ≠ .str recordDigest)
    "sealed_preview_endpoint_binding_invalid"
  let identity ← identityDigest record
  raiseIf (fields.get "identity_digest" ≠ .str identity) "sealed_preview_endpoint_binding_invalid"
  let address ← writeAddressDigest record
  raiseIf (fields.get "write_address_digest" ≠ .str address)
    "sealed_preview_endpoint_binding_invalid"
  let semantic ← semanticDigest record
  raiseIf (fields.get "semantic_digest" ≠ .str semantic) "sealed_preview_endpoint_binding_invalid"

/-- The sealed snapshot makes the digest it is sealed under. -/
def checkRemoteSnapshot (canonical : Dict) (remoteSnapshotDigest : Option String) : Py Unit :=
  match canonical.get "remote_snapshot" with
  | .null => .ok ()
  | .dict remote => do
      raiseIf ((Value.bool? (Dict.get remote "query_complete")).isNone ∨
          (Value.bool? (Dict.get remote "pagination_complete")).isNone)
        "remote_snapshot_invalid"
      let made ← snapshotDigest (Dict.get remote "schema_version") (sealedSnapshotRecords remote)
      raiseIf (some made ≠ remoteSnapshotDigest) "remote_snapshot_digest_mismatch"
      if isVersion2 canonical then do
        let bindings ← orRaise (canonical.get "existing_endpoint_bindings").list?
          (.valueError "sealed_preview_endpoint_bindings_invalid")
        let records ← Value.iterate (getOr remote "issue_records" (.list []))
        bindings.forM (checkEndpointBinding (records.filterMap Value.mapping?))
      else .ok ()
  | _ => .error (.valueError "remote_snapshot_invalid")

/-- One record of evidence, against the Preview and the promotion. -/
def checkEvidence (b : PreviewBinding) (expectedWorkspaceIdentity : String)
    (promotion : Option RuntimePromotion) (record : Dict) : Py Unit := do
  let known ← inTexts (record.get "source_kind") ["declared", "driver"]
  raiseIf (known = false) "controlled_evidence_source"
  let parsed ← EvidenceRecord.fromDict record
  raiseIf (parsed.workspaceIdentity ≠ expectedWorkspaceIdentity ∨ parsed.previewId ≠ b.previewId ∨
    parsed.revision ≠ b.revision) "evidence_scope_mismatch"
  if record.get "source_kind" = .str "driver" then do
    let promotion ← orRaise promotion (.valueError "repository_aware_promotion_required")
    raiseIf (parsed.evidenceId ≠ promotion.evidenceRecord.evidenceId)
      "repository_aware_promotion_required"
    raiseIf (parsed.sourceIdentity ≠ promotion.trustContext.trustedDriverIdentity)
      "driver_trust_context_mismatch"
    raiseIf (parsed.payload = .null) "remote_content_digest_mismatch"
    let contentDigest ← canonicalDigest parsed.payload
    raiseIf (contentDigest ≠ promotion.remoteContentDigest) "remote_content_digest_mismatch"
  else .ok ()

/-- The canonical payload names the evidence that is saved with it. -/
def checkEvidenceRecords (canonical : Dict) (b : PreviewBinding) (evidence : List Dict)
    (expectedWorkspaceIdentity : String) (promotion : Option RuntimePromotion) : Py Unit := do
  let ids := evidence.map fun record => Value.toText (Dict.get record "evidence_id")
  raiseIf (¬ids.Nodup) "duplicate_evidence_id"
  let named ← Value.iterate (getOr canonical "evidence_ids" (.list []))
  let canonicalIds := named.map Value.toText
  raiseIf (¬canonicalIds.Nodup) "duplicate_evidence_id"
  raiseIf (canonicalIds.insertionSort (· ≤ ·) ≠ ids.insertionSort (· ≤ ·))
    "evidence_reference_mismatch"
  evidence.forM (checkEvidence b expectedWorkspaceIdentity promotion)

/-- `_validate_preview_payload` -/
def validatePreviewPayload (given : Dict) (b : PreviewBinding) (evidence : List Dict)
    (expectedWorkspaceIdentity : String) (promotion : Option RuntimePromotion) : Py Dict := do
  raiseIf (¬b.wellFormed) "sealed_preview_argument_invalid"
  let parsed ← SealedPreview.fromDict given
  let canonical ← parsed.toDict
  raiseIf (sortKeys (.dict canonical) ≠ sortKeys (.dict given)) "sealed_preview_not_canonical"
  raiseIf (canonical.get "request_id" ≠ .str b.requestId ∨
    canonical.get "preview_id" ≠ .str b.previewId ∨ canonical.get "revision" ≠ .int b.revision)
    "preview_identity_mismatch"
  raiseIf (canonical.get "workspace_identity" ≠ .str expectedWorkspaceIdentity)
    "workspace_identity_mismatch"
  validateSealedPreviewInvariants canonical expectedWorkspaceIdentity promotion
  validateV2EndpointAuthority canonical
  let incomplete := Raised.valueError "sealed_preview_incomplete"
  let semantic ← orRaise (canonical.get "semantic_payload").mapping? incomplete
  let operations ← orRaise (canonical.get "operation_intents").list? incomplete
  let planDigest ← planDigestOf (isVersion2 canonical) (.dict semantic)
  raiseIf (planDigest ≠ b.planDigest ∨ canonical.get "plan_digest" ≠ .str b.planDigest)
    "plan_digest_mismatch"
  let operationDigest ← operationSetDigest (isVersion2 canonical) operations
  raiseIf (operationDigest ≠ b.operationSetDigest ∨
    canonical.get "operation_set_digest" ≠ .str b.operationSetDigest)
    "operation_set_digest_mismatch"
  raiseIf (canonical.get "remote_snapshot_digest" ≠ Value.textOrNone b.remoteSnapshotDigest)
    "remote_snapshot_digest_mismatch"
  raiseIf (canonical.get "repository_identity" ≠ Value.textOrNone b.repositoryIdentity)
    "repository_identity_mismatch"
  checkRemoteSnapshot canonical b.remoteSnapshotDigest
  checkEvidenceRecords canonical b evidence expectedWorkspaceIdentity promotion
  let sealedDigest ← canonicalDigest (.dict (unsealed canonical))
  raiseIf (canonical.get "sealed_preview_digest" ≠ .str sealedDigest)
    "sealed_preview_digest_mismatch"
  pure canonical

end
end DeliverySystem.SealedPreviews

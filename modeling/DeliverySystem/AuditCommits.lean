import DeliverySystem.PreviewStore

/-!
# Reading Previews, committing audits, recording approvals

A formal audit enters its history only through the commit boundary: the commit
reads the latest revision of the Preview and its evidence in its own
transaction, validates them again, and makes every other active audit of the
revision stale. An approval is recorded, and stays current, only against such
an audit.
-/
namespace DeliverySystem.AuditCommits
open PythonValues CanonicalValues IssueCommands ExecutionContexts KeyedRows EventHistory
open AuditRecords EvidenceRecords RemoteSnapshots SealedPreviews PreviewStore
set_option autoImplicit false

section
variable [DatetimeLibrary] [PythonLibrary] [UnicodeLibrary] [IntegerLibrary] [CasefoldLibrary]

/-! ## Reading back -/

/-- `read_sqlite_evidence_records`, of the latest or of one revision. -/
def readEvidenceRecords (s : PreviewTables) (evidenceIds : List String) (revision : Option Int) :
    Py (List Dict) :=
  evidenceIds.mapM fun evidenceId =>
    orRaise (match revision with
      | none => s.evidence.latestRecord evidenceId
      | some revision => s.evidence.lookup (evidenceId, revision))
      (.valueError "evidence_not_found")

/-- The evidence that a canonical payload names. -/
def namedEvidence (canonical : Dict) : Py (List String) := do
  let named ← Value.iterate (getOr canonical "evidence_ids" (.list []))
  pure (named.map Value.toText)

/-- The records that a stored remote snapshot is built from again. -/
def reloadedRecords (remote : Dict) : SnapshotRecords :=
  { sealedSnapshotRecords remote with
    repositoryIdentity := .str (Value.toText (remote.get "repository_identity"))
    queryComplete := remote.get "query_complete"
    paginationComplete := remote.get "pagination_complete" }

def repositoryLevel (canonical : Dict) : Prop :=
  canonical.get "preview_level" = .str "RepositoryAware" ∨
    canonical.get "preview_level" = .str "WriteEligible"

instance (canonical : Dict) : Decidable (repositoryLevel canonical) :=
  inferInstanceAs (Decidable (_ ∨ _))

/-- The sorted evidence ids of a snapshot, and its digest. -/
def reloadedSnapshot {issue : Type} (version : SnapshotVersion issue) (remote : Dict)
    (record : EvidenceRecord) : Py String := do
  let snapshot ← Snapshot.fromRecords version (reloadedRecords remote)
  let evidenceIds ← sortedItems snapshot.evidenceIds
  raiseIf (evidenceIds ≠ [.str record.evidenceId]) "snapshot_evidence_mismatch"
  snapshot.digest version

/-- The evidence of the driver, the only one of its kind. -/
def driverEvidence (evidence : List Dict) (missing : Raised) : Py Dict :=
  match evidence.filter fun record => Dict.get record "source_kind" = .str "driver" with
  | [record] => .ok record
  | _ => .error missing

/-- A Preview in version 1 names the evidence of the driver. -/
def checkNamedEvidence (canonical : Dict) (record : EvidenceRecord) : Py Unit :=
  if isVersion2 canonical then .ok ()
  else do
    let named ← Value.iterate (getOr canonical "evidence_ids" (.list []))
    raiseIf (.str record.evidenceId ∉ named) "evidence_reference_mismatch"

/-- The digest of the snapshot that a canonical payload holds, in its version. -/
def reloadedSnapshotDigest (canonical remote : Dict) (record : EvidenceRecord) : Py String :=
  if isVersion2 canonical then reloadedSnapshot typedRemoteSnapshotV2 remote record
  else reloadedSnapshot typedRemoteSnapshot remote record

/-- `_reload_promotion`, in both versions. -/
def reloadPromotion (trustContext : Option TrustContext) (canonical : Dict)
    (evidence : List Dict) : Py (Option RuntimePromotion) :=
  if repositoryLevel canonical then do
    let required := Raised.valueError "repository_aware_promotion_required"
    let trust ← orRaise trustContext
      (if isVersion2 canonical then required else .valueError "driver_trust_context_required")
    let driver ← driverEvidence evidence required
    let record ← EvidenceRecord.fromDict driver
    raiseIf (record.sourceIdentity ≠ trust.trustedDriverIdentity) "driver_trust_context_mismatch"
    let remote ← orRaise (canonical.get "remote_snapshot").mapping?
      (.valueError "remote_snapshot_invalid")
    let snapshotDigest ← reloadedSnapshotDigest canonical remote record
    checkNamedEvidence canonical record
    let contentDigest ← canonicalDigest record.payload
    let authority ← trust.remoteAuthority
    raiseIf (canonical.get "remote_authority" ≠ .str authority ∨
      canonical.get "remote_snapshot_digest" ≠ .str snapshotDigest) "driver_trust_context_mismatch"
    pure (some
      { trustContext := trust, evidenceRecord := record, remoteContentDigest := contentDigest
        remoteSnapshotDigest := snapshotDigest, used := false })
  else .ok none

/-- `get_preview_revision` -/
def getPreviewRevision (context : StoreContext) (s : PreviewTables) (workspace previewId : String)
    (revision : Option Int) : Py SavedPreview := do
  raiseIf (workspace ≠ context.workspaceIdentity) "preview crosses Workspace boundary"
  let result ← orRaise (match revision with
    | none => s.previews.latestRecord previewId
    | some revision => s.previews.lookup (previewId, revision)) (.valueError "preview_not_found")
  if Dict.get result.canonicalPayload "preview_level" = .str "RepositoryAware" then do
    raiseIf (context.trustContext = none) "driver_trust_context_required"
    let named ← namedEvidence result.canonicalPayload
    let evidence ← readEvidenceRecords s named none
    let _ ← reloadPromotion context.trustContext result.canonicalPayload evidence
    pure result
  else pure result

def getPreview (context : StoreContext) (s : PreviewTables) (workspace previewId : String) :
    Py SavedPreview :=
  getPreviewRevision context s workspace previewId none

def resolveItemId [SqliteLibrary] (context : StoreContext) (s : PreviewTables)
    (workspace previousPreviewId : String) (clientRef : Value) (revision : Option Int) :
    Py String := do
  raiseIf (workspace ≠ context.workspaceIdentity) "previous_client_ref crosses Workspace boundary"
  let missing := Raised.valueError "lineage_not_found"
  let revision ← orRaise (revision.or (s.previews.latestRevision previousPreviewId)) missing
  raiseIf (clientRef = .null) "lineage_not_found"
  let column ← orRaise (columnText? clientRef) .otherError
  orRaise (s.lineage.lookup (previousPreviewId, revision, column)) missing

/-! ## The commit of an audit -/

/-- `AuditCommitAuthority`: only the auditor mints one. -/
structure AuditCommitAuthority where
  auditBackendScope : String
  workspaceIdentity : String
  auditId : String
  auditPayloadDigest : String
  previewId : String
  revision : Int
  auditScope : String
  sealedPreviewDigest : String
  planDigest : String
  operationSetDigest : String
  remoteSnapshotDigest : Option String
  auditContextDigest : String
  ruleRegistryVersion : Option String
  ruleRegistryDigest : Option String
  evidenceBindings : List (String × String)
  repositoryIdentity : Value
  remoteAuthority : Value
deriving DecidableEq

/-- `_evidence_bindings` -/
def evidenceBindings (records : List Dict) : Py (List (String × String)) := do
  let pairs ← records.mapM fun record => do
    let evidenceId ← Dict.require record "evidence_id"
    let evidenceDigest ← Dict.require record "evidence_digest"
    pure (Value.toText evidenceId, Value.toText evidenceDigest)
  pure (pairs.insertionSort fun a b => a.1 < b.1 ∨ a.1 = b.1 ∧ a.2 ≤ b.2)

def mintAuditCommitAuthority (a : AuditRecord) (canonical : Dict) (evidence : List Dict)
    (backendScope : String) : Py AuditCommitAuthority := do
  let bindings ← evidenceBindings evidence
  pure
    { auditBackendScope := backendScope, workspaceIdentity := a.workspaceIdentity
      auditId := a.auditId, auditPayloadDigest := a.auditPayloadDigest, previewId := a.previewId
      revision := a.revision, auditScope := a.auditScope
      sealedPreviewDigest := a.sealedPreviewDigest, planDigest := a.planDigest
      operationSetDigest := a.operationSetDigest, remoteSnapshotDigest := a.remoteSnapshotDigest
      auditContextDigest := a.auditContextDigest, ruleRegistryVersion := a.ruleRegistryVersion
      ruleRegistryDigest := a.ruleRegistryDigest, evidenceBindings := bindings
      repositoryIdentity := canonical.get "repository_identity"
      remoteAuthority := canonical.get "remote_authority" }

/-- `_audit_projection` -/
def auditProjection (a : AuditRecord) : Value :=
  .dict [("workspace_identity", .str a.workspaceIdentity), ("preview_id", .str a.previewId),
    ("revision", .int a.revision), ("audit_scope", .str a.auditScope),
    ("sealed_preview_digest", .str a.sealedPreviewDigest), ("plan_digest", .str a.planDigest),
    ("operation_set_digest", .str a.operationSetDigest),
    ("remote_snapshot_digest", Value.textOrNone a.remoteSnapshotDigest),
    ("audit_context_digest", .str a.auditContextDigest),
    ("rule_registry_version", Value.textOrNone a.ruleRegistryVersion),
    ("rule_registry_digest", Value.textOrNone a.ruleRegistryDigest),
    ("semantic_evaluations", Value.dicts a.ruleEvaluations),
    ("findings", Value.dicts a.findings), ("result", .str a.result.text)]

/-- The canonical payload repeats what the audit is bound to. -/
def boundTo (a : AuditRecord) (canonical : Dict) : Prop :=
  canonical.get "workspace_identity" = .str a.workspaceIdentity ∧
    canonical.get "preview_id" = .str a.previewId ∧ canonical.get "revision" = .int a.revision ∧
    canonical.get "preview_level" = .str a.auditScope ∧
    canonical.get "sealed_preview_digest" = .str a.sealedPreviewDigest ∧
    canonical.get "plan_digest" = .str a.planDigest ∧
    canonical.get "operation_set_digest" = .str a.operationSetDigest ∧
    canonical.get "remote_snapshot_digest" = Value.textOrNone a.remoteSnapshotDigest

instance (a : AuditRecord) (canonical : Dict) : Decidable (boundTo a canonical) :=
  inferInstanceAs (Decidable (_ ∧ _ ∧ _ ∧ _ ∧ _ ∧ _ ∧ _ ∧ _))

/-- `_verify_candidate` -/
def verifyCandidate (a : AuditRecord) (authority : AuditCommitAuthority) (canonical : Dict)
    (evidence : List Dict) (backendScope : String) : Py Unit := do
  raiseIf (a.status ≠ .active) "audit_commit_boundary_required"
  let projected ← canonicalDigest (auditProjection a)
  raiseIf (a.auditPayloadDigest ≠ projected ∨ a.verifyDigest = false)
    "audit_commit_boundary_required"
  let expected ← mintAuditCommitAuthority a canonical evidence backendScope
  raiseIf (authority ≠ expected) "audit_commit_boundary_required"
  raiseIf (¬boundTo a canonical) "audit_commit_boundary_required"

/-- `compute_audit_context_digest` -/
def computeAuditContextDigest (workspace previewId : String) (revision : Int)
    (sealedPreviewDigest : Value) (evidence : List Dict)
    (ruleRegistryVersion ruleRegistryDigest : Option String) (auditScope : Value) :
    Py String := do
  let pairs ← evidence.mapM fun record => do
    let evidenceId ← Dict.require record "evidence_id"
    let evidenceDigest ← Dict.require record "evidence_digest"
    pure (Value.toText evidenceId, Value.toText evidenceDigest)
  canonicalDigest (.dict
    ([("workspace_identity", .str workspace), ("preview_id", .str previewId),
      ("revision", .int revision), ("sealed_preview_digest", sealedPreviewDigest),
      ("rule_registry_version", Value.textOrNone ruleRegistryVersion),
      ("rule_registry_digest", Value.textOrNone ruleRegistryDigest),
      ("evidence", .list ((pairs.insertionSort fun a b => a.1 ≤ b.1).map fun pair =>
        .tuple [.str pair.1, .str pair.2]))] ++
    if auditScope = .null then [] else [("audit_scope", auditScope)]))

/-- `_validate_current_audit_context` -/
def validateCurrentAuditContext (a : AuditRecord) (authority : AuditCommitAuthority)
    (preview : SavedPreview) (evidence : List Dict) (promotion : Option RuntimePromotion)
    (workspace : String) : Py Unit := do
  let canonical := preview.canonicalPayload
  raiseIf (preview.previewId ≠ a.previewId ∨ preview.revision ≠ a.revision)
    "preview_identity_mismatch"
  raiseIf (canonical.get "preview_id" ≠ .str a.previewId ∨
    canonical.get "revision" ≠ .int a.revision ∨
    canonical.get "workspace_identity" ≠ .str workspace) "preview_identity_mismatch"
  let repositoryIdentity ← orRaise (optional? Value.text? (canonical.get "repository_identity"))
    (.valueError "repository_identity_mismatch")
  let normalized ← validatePreviewPayload canonical
    { requestId := preview.requestId, previewId := a.previewId, revision := a.revision
      planDigest := a.planDigest, remoteSnapshotDigest := a.remoteSnapshotDigest
      operationSetDigest := a.operationSetDigest, repositoryIdentity } evidence workspace promotion
  let contextDigest ← computeAuditContextDigest workspace a.previewId a.revision
    (normalized.get "sealed_preview_digest") evidence a.ruleRegistryVersion a.ruleRegistryDigest
    (normalized.get "preview_level")
  raiseIf (contextDigest ≠ a.auditContextDigest ∨ contextDigest ≠ authority.auditContextDigest)
    "audit_context_stale"

/-- The latest event of each audit, in the order of the audits' ids. -/
def latestAudits (h : History String AuditRecord) : List AuditRecord :=
  (h.states.insertionSort fun a b => a.1 ≤ b.1).map Prod.snd

/-- An active audit of the same revision. -/
def activeBeside (a prior : AuditRecord) : Prop :=
  prior.previewId = a.previewId ∧ prior.revision = a.revision ∧ prior.status = .active

instance (a prior : AuditRecord) : Decidable (activeBeside a prior) :=
  inferInstanceAs (Decidable (_ ∧ _ ∧ _))

/-- The event that a commit appends to the history of another audit. -/
def staleBeside (a prior : AuditRecord) : Option AuditRecord :=
  if activeBeside a prior then (prior.transition .stale).toOption else none

/-- The rows of a commit once the audit is verified, and the audit it answers. -/
def commitVerified (a : AuditRecord) (s : PreviewTables) : Py (PreviewTables × AuditRecord) :=
  match (latestAudits s.audits).find? fun prior =>
      activeBeside a prior ∧ prior.auditPayloadDigest = a.auditPayloadDigest with
  | some existing => .ok (s, existing)
  | none => do
      let audits := s.audits.supersede (staleBeside a)
      raiseIf ((s.audits.latest a.auditId).isSome = true) "audit_persistence_failed"
      pure ({ s with audits := audits.append a.auditId a }, a)

/-- `_apply_audit_commit_atomic` -/
def applyAuditCommitAtomic (context : StoreContext) (a : AuditRecord)
    (authority : AuditCommitAuthority) (s : PreviewTables) : Py (PreviewTables × AuditRecord) := do
  let missing := Raised.valueError "preview_not_found"
  let latest ← orRaise (s.previews.latestRevision a.previewId) missing
  raiseIf (latest ≠ a.revision) "audit_context_stale"
  let preview ← orRaise (s.previews.lookup (a.previewId, a.revision)) missing
  let named ← namedEvidence preview.canonicalPayload
  let evidence ← readEvidenceRecords s named (some a.revision)
  let promotion ← reloadPromotion context.trustContext preview.canonicalPayload evidence
  validateCurrentAuditContext a authority preview evidence promotion context.workspaceIdentity
  verifyCandidate a authority preview.canonicalPayload evidence context.auditBackendScope
  commitVerified a s

/-! ## Other audit events -/

/-- `record_audit`, for audits that are not formal. -/
def recordAudit (a : AuditRecord) (s : PreviewTables) : Py PreviewTables := do
  raiseIf (a.auditPayloadDigest ≠ "") "audit_commit_boundary_required"
  raiseIf (a.status ≠ .active ∨ a.verifyDigest = false) "audit_record_invalid"
  if (s.audits.latest a.auditId).isSome then .error .integrityError
  else pure { s with audits := s.audits.append a.auditId a }

def getAudit (context : StoreContext) (s : PreviewTables) (workspace auditId : String) :
    Py AuditRecord := do
  raiseIf (workspace ≠ context.workspaceIdentity) "audit_workspace_mismatch"
  orRaise (s.audits.latest auditId) (.valueError "audit_not_found")

def transitionAuditStatus (auditId : String) (status : AuditStatus) (s : PreviewTables) :
    Py (PreviewTables × AuditRecord) := do
  let current ← orRaise (s.audits.latest auditId) (.valueError "audit_not_found")
  let updated ← current.transition status
  pure ({ s with audits := s.audits.append auditId updated }, updated)

/-! ## Approvals -/

/-- `_validate_approval_against_current_preview` -/
def validateApprovalAgainstCurrentPreview (approval : ApprovalRecord) (a : AuditRecord)
    (canonical : Dict) (workspace : String) : Py Bool :=
  if approval.validateAgainst a = true ∧ a.verifyDigest = true ∧ a.approvalEligible = true ∧
      a.status = .active ∧ a.result = .passed ∧ a.auditScope = "WriteEligible" ∧
      a.workspaceIdentity = workspace ∧ canonical.get "workspace_identity" = .str workspace ∧
      canonical.get "preview_id" = .str a.previewId ∧ canonical.get "revision" = .int a.revision ∧
      canonical.get "sealed_preview_digest" = .str a.sealedPreviewDigest ∧
      canonical.get "plan_digest" = .str a.planDigest ∧
      canonical.get "operation_set_digest" = .str a.operationSetDigest ∧
      canonical.get "remote_snapshot_digest" = Value.textOrNone a.remoteSnapshotDigest ∧
      canonical.get "repository_identity" = Value.textOrNone approval.repositoryIdentity then
    previewIsApprovalEligible canonical
  else .ok false

/-- `record_approval` -/
def recordApproval (context : StoreContext) (approval : ApprovalRecord) (s : PreviewTables) :
    Py PreviewTables := do
  raiseIf (approval.isStructurallyValid = false) "approval_invalid"
  let a ← orRaise (s.audits.latest approval.auditId) (.valueError "audit_not_found")
  raiseIf (a.verifyDigest = false ∨ a.status ≠ .active) "approval_stale"
  let preview ← orRaise (s.previews.lookup (approval.previewId, approval.revision))
    (.valueError "preview_not_found")
  let current ← validateApprovalAgainstCurrentPreview approval a preview.canonicalPayload
    context.workspaceIdentity
  raiseIf (current = false) "approval_binding_mismatch"
  raiseIf (s.previews.latestRevision approval.previewId ≠ some approval.revision) "approval_stale"
  match s.approvals.latestRecord approval.approvalId with
  | some existing => do
      raiseIf (existing ≠ approval) "approval_binding_conflict"
      pure s
  | none => do
      let approvals ← orRaise (s.approvals.insert (approval.approvalId, approval.revision) approval)
        (.valueError "approval_invalid")
      pure { s with approvals }

def getApproval (context : StoreContext) (s : PreviewTables) (workspace approvalId : String) :
    Py ApprovalRecord := do
  raiseIf (workspace ≠ context.workspaceIdentity) "approval_workspace_mismatch"
  orRaise (s.approvals.latestRecord approvalId) (.valueError "approval_not_found")

/-- The reads and the decision of `validate_approval_current`, before its handler. -/
def approvalCurrentReads (context : StoreContext) (approval : ApprovalRecord)
    (s : PreviewTables) : Py Bool := do
  let a ← getAudit context s context.workspaceIdentity approval.auditId
  let preview ← getPreview context s context.workspaceIdentity approval.previewId
  if preview.revision ≠ approval.revision then pure false
  else
    validateApprovalAgainstCurrentPreview approval a preview.canonicalPayload
      context.workspaceIdentity

/-- `validate_approval_current` -/
def validateApprovalCurrent (context : StoreContext) (approval : ApprovalRecord)
    (s : PreviewTables) : Py Bool :=
  if approval.isStructurallyValid = false then .ok false
  else match approvalCurrentReads context approval s with
    | .error (.valueError _) => .ok false
    | result => result

end
end DeliverySystem.AuditCommits

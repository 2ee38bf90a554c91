import DeliverySystem.AuditCommits

/-!
# The Preview store in memory

The store of the tests keeps a latest Preview beside the history of revisions,
and its audits in the order in which they came. It makes the checks of the
database, but decides from its latest Preview alone what a save may do, and
looks for an audit of the same payload without asking for its status.
-/
namespace DeliverySystem.MemoryPreviewStore
open PythonValues CanonicalValues IssueCommands ExecutionContexts KeyedRows
open ApplicationStatus AuditRecords EvidenceRecords RemoteSnapshots SealedPreviews
open PreviewStore AuditCommits
set_option autoImplicit false

/-- `_ItemRecord` -/
structure ItemRecord where
  workspaceIdentity : String
  previewId : String
  clientRef : String
  itemId : String
  tombstone : Bool
  revision : Int
deriving Repr, DecidableEq

structure InMemoryPreviewStore [DatetimeLibrary] where
  workspaceIdentity : Option String
  trustContext : Option TrustContext
  auditBackendScope : String
  items : List ItemRecord
  previews : Rows (String × String) SavedPreview
  previewHistory : Rows (String × String × Int) SavedPreview
  evidence : Rows (String × String) EvidenceRecord
  audits : Rows (String × String) AuditRecord
  approvals : Rows (String × String) ApprovalRecord

namespace InMemoryPreviewStore
variable [DatetimeLibrary]

/-- The store as it is opened. -/
def opened (workspaceIdentity : Option String) (trustContext : Option TrustContext)
    (auditBackendScope : String) : InMemoryPreviewStore where
  workspaceIdentity := workspaceIdentity
  trustContext := trustContext
  auditBackendScope := auditBackendScope
  items := []
  previews := .empty
  previewHistory := .empty
  evidence := .empty
  audits := .empty
  approvals := .empty

/-- `a or b` on optional texts. -/
def orText (a b : Option String) : Option String := if absentText a then b else a

/-- `workspace_identity or self.workspace_identity or ""` -/
def scope (m : InMemoryPreviewStore) (workspaceIdentity : Option String) : String :=
  (orText workspaceIdentity m.workspaceIdentity).getD ""

section
variable [PythonLibrary] [UnicodeLibrary] [IntegerLibrary] [CasefoldLibrary]

/-! ## Saving -/

def candidateItem (scope : String) (b : PreviewBinding) (item : Dict) : Py ItemRecord := do
  let clientRef ← Dict.require item "client_ref"
  let itemId ← Dict.require item "item_id"
  let failed := Raised.valueError "preview_revision_write_failed"
  let clientRef ← orRaise clientRef.text? failed
  let itemId ← orRaise itemId.text? failed
  pure
    { workspaceIdentity := scope, previewId := b.previewId, clientRef, itemId, tombstone := false
      revision := b.revision }

/-- The audit as a save of `b` leaves it. -/
def replacedAudit (scope : String) (b : PreviewBinding) (key : String × String)
    (a : AuditRecord) : AuditRecord :=
  if key.1 = scope ∧ replacedBy b a then ((a.transition .stale).toOption).getD a else a

/-- `_save_preview_revision` -/
def savePreviewRevisionImpl (promotion : Option RuntimePromotion) (a : SaveArguments)
    (m : InMemoryPreviewStore) : Py InMemoryPreviewStore := do
  raiseIf (a.workspaceIdentity.isSome ∧ m.workspaceIdentity.isSome ∧
    a.workspaceIdentity ≠ m.workspaceIdentity) "workspace_identity_mismatch"
  let b := a.binding
  let scope := m.scope a.workspaceIdentity
  let canonical ← acceptPreview scope promotion a
  let items ← a.items.mapM (candidateItem scope b)
  raiseIf (¬(items.map ItemRecord.clientRef).Nodup) "preview_revision_conflict"
  let payload : SavedPreview :=
    { requestId := b.requestId, previewId := b.previewId, revision := b.revision
      canonicalPayload := canonical }
  let prior := m.previews.lookup (scope, b.previewId)
  if prior = some payload then pure m
  else do
    raiseIf (∃ saved ∈ prior, b.revision ≤ saved.revision) "preview_revision_conflict"
    let records ← a.evidenceRecords.mapM EvidenceRecord.fromDict
    pure { m with
      workspaceIdentity := orText m.workspaceIdentity a.workspaceIdentity
      previews := m.previews.put (scope, b.previewId) payload
      previewHistory := m.previewHistory.put (scope, b.previewId, b.revision) payload
      audits := m.audits.mapRecords (replacedAudit scope b)
      items := m.items ++ items
      evidence := records.foldl (fun evidence record =>
        evidence.put (scope, record.evidenceId) record) m.evidence }

def savePreviewRevision (a : SaveArguments) (m : InMemoryPreviewStore) :
    Py InMemoryPreviewStore :=
  m.savePreviewRevisionImpl none a

/-- `_validate_promotion` -/
def validatePromotion (m : InMemoryPreviewStore) (promotion : RuntimePromotion)
    (a : SaveArguments) : Py Unit := do
  raiseIf (a.workspaceIdentity ≠ m.workspaceIdentity) "workspace_identity_mismatch"
  raiseIf (a.binding.previewId ≠ promotion.evidenceRecord.previewId ∨
    a.binding.revision ≠ promotion.evidenceRecord.revision) "repository_aware_promotion_required"
  raiseIf (a.binding.remoteSnapshotDigest ≠ some promotion.remoteSnapshotDigest)
    "remote_snapshot_digest_mismatch"
  let mismatch := Raised.valueError "driver_trust_context_mismatch"
  let canonical ← orRaise a.canonicalPayload mismatch
  let authority ← promotion.trustContext.remoteAuthority
  raiseIf (Dict.get canonical "remote_authority" ≠ .str authority) "driver_trust_context_mismatch"

/-- `_bind_and_save_repository_aware_preview` -/
def bindAndSaveRepositoryAwarePreview (promotion : RuntimePromotion) (a : SaveArguments)
    (m : InMemoryPreviewStore) : Py InMemoryPreviewStore := do
  let trust ← orRaise m.trustContext (.valueError "driver_trust_context_required")
  raiseIf (trust ≠ promotion.trustContext) "driver_trust_context_mismatch"
  m.validatePromotion promotion a
  raiseIf (promotion.used = true) "repository_aware_promotion_reused"
  m.savePreviewRevisionImpl (some promotion) a

/-! ## Reading back -/

/-- `_validate_loaded_trust` -/
def validateLoadedTrust (m : InMemoryPreviewStore) (preview : SavedPreview) : Py Unit := do
  let canonical := preview.canonicalPayload
  if canonical.get "preview_level" = .str "RepositoryAware" then do
    raiseIf (m.trustContext = none) "driver_trust_context_required"
    let evidence := m.evidence.entries.filter fun row =>
      .str row.2.previewId = canonical.get "preview_id" ∧
        .int row.2.revision = canonical.get "revision"
    let _ ← reloadPromotion m.trustContext canonical (evidence.map fun row => row.2.toDict)
    pure ()
  else pure ()

def getPreview (m : InMemoryPreviewStore) (workspace previewId : String) : Py SavedPreview := do
  let result ← orRaise (m.previews.lookup (workspace, previewId))
    (.valueError "preview_not_found")
  m.validateLoadedTrust result
  pure result

def getPreviewRevision (m : InMemoryPreviewStore) (workspace previewId : String)
    (revision : Option Int) : Py SavedPreview := do
  raiseIf (some workspace ≠ orText m.workspaceIdentity (some workspace))
    "preview crosses Workspace boundary"
  match revision with
  | none => m.getPreview workspace previewId
  | some revision => do
      let result ← orRaise (m.previewHistory.lookup (workspace, previewId, revision))
        (.valueError "preview_not_found")
      m.validateLoadedTrust result
      pure result

/-- `read_inmemory_evidence_records` -/
def readEvidenceRecords (m : InMemoryPreviewStore) (workspace : String)
    (evidenceIds : List String) : Py (List Dict) :=
  evidenceIds.mapM fun evidenceId => do
    let record ← orRaise (m.evidence.lookup (workspace, evidenceId))
      (.valueError "evidence_not_found")
    pure record.toDict

/-! ## The commit of an audit -/

/-- An audit of the payload of `a`, on its revision. -/
def samePayload (a : AuditRecord) (row : (String × String) × AuditRecord) : Prop :=
  row.1.1 = a.workspaceIdentity ∧ row.2.previewId = a.previewId ∧ row.2.revision = a.revision ∧
    row.2.auditPayloadDigest = a.auditPayloadDigest

instance (a : AuditRecord) (row : (String × String) × AuditRecord) :
    Decidable (samePayload a row) :=
  inferInstanceAs (Decidable (_ ∧ _ ∧ _ ∧ _))

/-- `find_audit_by_payload`, of the payload of `a`: the first one, of any status. -/
def findAuditByPayload (m : InMemoryPreviewStore) (a : AuditRecord) : Option AuditRecord :=
  (m.audits.entries.find? fun row => samePayload a row).map Prod.snd

/-- `list_active_audits` of the revision of `a`. -/
def listActiveAudits (m : InMemoryPreviewStore) (a : AuditRecord) : List AuditRecord :=
  (m.audits.entries.filter fun row =>
    row.1.1 = a.workspaceIdentity ∧ activeBeside a row.2).map Prod.snd

/-- The promotion of a Preview names its remote authority, or neither is there. -/
def checkRemoteAuthority (canonical : Dict) (promotion : Option RuntimePromotion) : Py Unit :=
  match promotion with
  | some promotion => do
      let authority ← promotion.trustContext.remoteAuthority
      raiseIf (canonical.get "remote_authority" ≠ .str authority) "audit_commit_boundary_required"
  | none => raiseIf (canonical.get "remote_authority" ≠ .null) "audit_commit_boundary_required"

/-- What a commit checks before it looks for an audit of the same payload. -/
def checkCommit (m : InMemoryPreviewStore) (a : AuditRecord) (authority : AuditCommitAuthority) :
    Py Unit := do
  let missing := Raised.valueError "preview_not_found"
  let preview ← orRaise (m.previewHistory.lookup (a.workspaceIdentity, a.previewId, a.revision))
    missing
  m.validateLoadedTrust preview
  let latest ← orRaise (m.previews.lookup (a.workspaceIdentity, a.previewId)) missing
  m.validateLoadedTrust latest
  raiseIf (latest.revision ≠ a.revision) "audit_context_stale"
  let canonical := preview.canonicalPayload
  let named ← namedEvidence canonical
  let evidence ← m.readEvidenceRecords a.workspaceIdentity named
  let promotion ← reloadPromotion m.trustContext canonical evidence
  let workspace := (orText m.workspaceIdentity (some a.workspaceIdentity)).getD ""
  validateCurrentAuditContext a authority preview evidence promotion workspace
  verifyCandidate a authority canonical evidence m.auditBackendScope
  checkRemoteAuthority canonical promotion

/-- Every active audit of the revision is made stale, and `a` is added. -/
def replaceActive (m : InMemoryPreviewStore) (a : AuditRecord) :
    Py (InMemoryPreviewStore × AuditRecord) :=
  recode (fun _ => "audit_persistence_failed") do
    let audits ← (m.listActiveAudits a).foldlM (fun audits active => do
      let stale ← active.transition .stale
      pure (Rows.put audits (a.workspaceIdentity, active.auditId) stale)) m.audits
    raiseIf (∃ row ∈ audits.entries, row.1.2 = a.auditId) "audit_persistence_failed"
    pure ({ m with audits := audits.put (a.workspaceIdentity, a.auditId) a }, a)

/-- `_apply_audit_commit_atomic` -/
def applyAuditCommitAtomic (a : AuditRecord) (authority : AuditCommitAuthority)
    (m : InMemoryPreviewStore) : Py (InMemoryPreviewStore × AuditRecord) := do
  m.checkCommit a authority
  match m.findAuditByPayload a with
  | some existing =>
      if existing.status = .active then pure (m, existing) else m.replaceActive a
  | none => m.replaceActive a

end
end InMemoryPreviewStore
end DeliverySystem.MemoryPreviewStore

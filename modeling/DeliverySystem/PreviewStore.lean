import DeliverySystem.KeyedRevisions
import DeliverySystem.EventHistory
import DeliverySystem.SealedPreviews

/-!
# The Preview store

One database keeps the Previews of a workspace with their items and evidence,
the histories of their audits, and their approvals. Every operation is one
immediate transaction: it reads the tables, decides, and either commits all of
its rows or none.
-/
namespace DeliverySystem.PreviewStore
open PythonValues CanonicalValues IssueCommands ExecutionContexts KeyedRows EventHistory
open AuditRecords EvidenceRecords RemoteSnapshots SealedPreviews
set_option autoImplicit false

class SqliteLibrary where
  /-- The text that a column with text affinity keeps of a float, by its written form. -/
  realText : String → String

/-- `2 ** 63 - 1` -/
def maxInteger : Int := 9223372036854775807

/-- What a `TEXT NOT NULL` column keeps of a value, `none` where it takes none. -/
def columnText? [SqliteLibrary] : Value → Option String
  | .str s => some s
  | .int n => if -maxInteger - 1 ≤ n ∧ n ≤ maxInteger then some (toString n) else none
  | .bool b => some (if b then "1" else "0")
  | .float written => some (SqliteLibrary.realText written)
  | _ => none

/-! ## The tables -/

/-- The payload of a `preview` record. -/
structure SavedPreview where
  requestId : String
  previewId : String
  revision : Int
  canonicalPayload : Dict
deriving DecidableEq

/-- What a store is opened with. -/
structure StoreContext where
  workspaceIdentity : String
  trustContext : Option TrustContext
  auditBackendScope : String

/-- The tables of one workspace. A row of `lineage` gives the item of a client
reference; no operation sets its tombstone. -/
structure PreviewTables [DatetimeLibrary] where
  previews : Rows (String × Int) SavedPreview
  lineage : Rows (String × Int × String) String
  evidence : Rows (String × Int) Dict
  approvals : Rows (String × Int) ApprovalRecord
  audits : History String AuditRecord

/-- The arguments of a save. -/
structure SaveArguments where
  binding : PreviewBinding
  items : List Dict
  workspaceIdentity : Option String
  canonicalPayload : Option Dict
  previewLevel : Option String
  evidenceRecords : List Dict

section
variable [DatetimeLibrary]

def PreviewTables.empty : PreviewTables where
  previews := .empty
  lineage := .empty
  evidence := .empty
  approvals := .empty
  audits := .empty

variable [PythonLibrary]

/-! ## Replacing a Preview -/

/-- The record that a save builds from nine fields of an audit. -/
def rebuilt (a : AuditRecord) : AuditRecord where
  toAuditFields := { a.toAuditFields with
    sealedPreviewDigest := "", workspaceIdentity := "", auditScope := "Conceptual"
    auditPayloadDigest := "", auditContextDigest := "", ruleRegistryVersion := none
    ruleRegistryDigest := none, ruleEvaluations := [], findings := [], evidenceRefs := []
    createdAt := "" }
  valid :=
    { revision := a.valid.revision
      present := a.valid.present
      remote := a.valid.remote
      formal := fun h => absurd rfl h }

/-- An audit that a save of `b` makes stale. -/
def replacedBy (b : PreviewBinding) (a : AuditRecord) : Prop :=
  a.status = .active ∧ a.previewId = b.previewId ∧
    (a.revision ≠ b.revision ∨ a.planDigest ≠ b.planDigest ∨
      a.remoteSnapshotDigest ≠ b.remoteSnapshotDigest ∨
      a.operationSetDigest ≠ b.operationSetDigest)

instance (b : PreviewBinding) (a : AuditRecord) : Decidable (replacedBy b a) :=
  inferInstanceAs (Decidable (_ ∧ _ ∧ (_ ∨ _ ∨ _ ∨ _)))

/-- The event that a save appends to the history of an audit. -/
def staleEvent (b : PreviewBinding) (a : AuditRecord) : Option AuditRecord :=
  if replacedBy b a then ((rebuilt a).transition .stale).toOption else none

variable [UnicodeLibrary] [IntegerLibrary] [CasefoldLibrary]

/-- What a save demands before it opens a transaction: the canonical payload
that it will store. -/
def acceptPreview (workspace : String) (promotion : Option RuntimePromotion) (a : SaveArguments) :
    Py Dict := do
  let given ← orRaise a.canonicalPayload (.valueError "sealed_preview_required")
  raiseIf (a.previewLevel ≠ none) "preview_level_runtime_owned"
  let canonical ← validatePreviewPayload given a.binding a.evidenceRecords workspace promotion
  let level ← runtimePreviewLevel canonical
  raiseIf (canonical.get "preview_level" ≠ .str level.text) "preview_level_runtime_owned"
  raiseIf (sortKeys (canonical.get "items") ≠ sortKeys (Value.dicts a.items))
    "canonical_projection_mismatch"
  pure canonical

def evidenceKey (revision : Int) (record : Dict) : String × Int :=
  (Value.toText (record.get "evidence_id"), revision)

variable [SqliteLibrary]

/-- The `item_lineage` row of an item. -/
def lineageRow (b : PreviewBinding) (item : Dict) : Option ((String × Int × String) × String) := do
  let clientRef ← columnText? (item.get "client_ref")
  let itemId ← columnText? (item.get "item_id")
  pure ((b.previewId, b.revision, clientRef), itemId)

/-- The transaction of a save. -/
def commitPreview (canonical : Dict) (a : SaveArguments) (s : PreviewTables) :
    Py PreviewTables := do
  let b := a.binding
  let failed := Raised.valueError "preview_revision_write_failed"
  let saved : SavedPreview :=
    { requestId := b.requestId, previewId := b.previewId, revision := b.revision
      canonicalPayload := canonical }
  match s.previews.lookup (b.previewId, b.revision) with
  | some existing => do
      raiseIf (existing ≠ saved) "preview_revision_conflict"
      pure s
  | none => do
      raiseIf (∃ latest ∈ s.previews.latestRevision b.previewId, b.revision ≤ latest)
        "preview_revision_conflict"
      let rows ← orRaise (a.items.mapM (lineageRow b)) failed
      let lineage ← orRaise (s.lineage.insertAll rows) failed
      let previews ← orRaise (s.previews.insert (b.previewId, b.revision) saved) failed
      let evidence ← orRaise (s.evidence.insertAll
        (a.evidenceRecords.map fun record => (evidenceKey b.revision record, record))) failed
      pure { s with
        previews, lineage, evidence
        audits := s.audits.supersede (staleEvent b) }

/-- `_save_preview_revision_impl` -/
def savePreviewRevisionImpl (context : StoreContext) (promotion : Option RuntimePromotion)
    (a : SaveArguments) (s : PreviewTables) : Py PreviewTables := do
  raiseIf (a.workspaceIdentity.any (· ≠ context.workspaceIdentity) = true)
    "workspace_identity_mismatch"
  let canonical ← acceptPreview context.workspaceIdentity promotion a
  let distinct ← distinctItems (a.items.map (Dict.get · "client_ref"))
  raiseIf (distinct = false) "preview_revision_write_failed"
  raiseIf (maxInteger < a.binding.revision) "preview_revision_write_failed"
  commitPreview canonical a s

def savePreviewRevision (context : StoreContext) (a : SaveArguments) (s : PreviewTables) :
    Py PreviewTables :=
  savePreviewRevisionImpl context none a s

/-- `_validate_promotion` -/
def validatePromotion (workspace : String) (promotion : RuntimePromotion) (a : SaveArguments) :
    Py Unit := do
  raiseIf (a.workspaceIdentity ≠ some workspace) "workspace_identity_mismatch"
  raiseIf (a.binding.previewId ≠ promotion.evidenceRecord.previewId ∨
    a.binding.revision ≠ promotion.evidenceRecord.revision) "repository_aware_promotion_required"
  raiseIf (a.binding.remoteSnapshotDigest ≠ some promotion.remoteSnapshotDigest)
    "remote_snapshot_digest_mismatch"
  let mismatch := Raised.valueError "driver_trust_context_mismatch"
  let canonical ← orRaise a.canonicalPayload mismatch
  let authority ← promotion.trustContext.remoteAuthority
  raiseIf (Dict.get canonical "remote_authority" ≠ .str authority) "driver_trust_context_mismatch"

/-- What a store demands of a promotion before it saves with it, once. -/
def checkPromotion (workspace : String) (trustContext : Option TrustContext)
    (promotion : RuntimePromotion) (a : SaveArguments) : Py Unit := do
  let trust ← orRaise trustContext (.valueError "driver_trust_context_required")
  raiseIf (trust ≠ promotion.trustContext) "driver_trust_context_mismatch"
  validatePromotion workspace promotion a
  raiseIf (promotion.used = true) "repository_aware_promotion_reused"

/-- `_bind_and_save_repository_aware_preview` -/
def bindAndSaveRepositoryAwarePreview (context : StoreContext) (promotion : RuntimePromotion)
    (a : SaveArguments) (s : PreviewTables) : Py PreviewTables := do
  checkPromotion context.workspaceIdentity context.trustContext promotion a
  savePreviewRevisionImpl context (some promotion) a s

end
end DeliverySystem.PreviewStore

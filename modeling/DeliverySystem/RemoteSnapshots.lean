import DeliverySystem.AuditRecords
import DeliverySystem.EvidenceRecords

/-!
# Remote snapshots

What one read of a repository found: its issues, the relations between them,
permissions and capabilities, and whether the read was complete. A snapshot is
built from records and written back in one canonical form, whose digest leaves
out the time of observation.
-/
namespace DeliverySystem.RemoteSnapshots
open PythonValues CanonicalValues AuditRecords IssueCommands EvidenceRecords ExecutionContexts
set_option autoImplicit false

class CasefoldLibrary where
  /-- `str.casefold` -/
  casefold : String → String

/-! ## Containers -/

/-- `bool(value)` -/
def Value.truthy : Value → Bool
  | .null => false
  | .bool b => b
  | .int n => n ≠ 0
  | .float written => written ∉ ["0.0", "-0.0"]
  | .str s => s ≠ ""
  | .list items => items ≠ []
  | .tuple items => items ≠ []
  | .dict entries => entries ≠ []

/-- `dict[key] = value` -/
def Dict.set (d : Dict) (key : String) (value : Value) : Dict :=
  if (d.lookup key).isSome then d.map fun e => if e.1 = key then (key, value) else e
  else d ++ [(key, value)]

/-- A pair of a sequence given to `dict`; keys that are not text are no keys here. -/
def pairOf (item : Value) : Py (String × Value) := do
  let members ← Value.iterate item
  match members with
  | [.str key, value] => pure (key, value)
  | [_, _] => .error .typeError
  | _ => .error (.valueError "dictionary update sequence element has the wrong length")

/-- `dict(value)` -/
def Value.toDict : Value → Py Dict
  | .dict d => .ok d
  | value => do
      let items ← Value.iterate value
      let pairs ← items.mapM pairOf
      pure (pairs.foldl (fun d pair => Dict.set d pair.1 pair.2) [])

def allTexts (items : List Value) : Option (List String) := items.mapM Value.text?

/-- `sorted(items)`, of texts or of at most one item. -/
def sortedItems (items : List Value) : Py (List Value) :=
  match allTexts items with
  | some texts => .ok ((texts.insertionSort (· ≤ ·)).map .str)
  | none => if items.length ≤ 1 then .ok items else .error .typeError

/-- `len(items) == len(set(items))` -/
def distinctItems (items : List Value) : Py Bool :=
  if items.all Value.hashable then .ok (decide items.Nodup) else .error .typeError

/-- `value in texts`, for a set of texts. -/
def inTexts (value : Value) (texts : List String) : Py Bool :=
  if value.hashable then .ok (texts.any fun text => value = .str text) else .error .typeError

/-- `str(value)` of a `str` or an `int`. -/
def textOrInteger? : Value → Option String
  | .str s => some s
  | .int n => some (toString n)
  | .bool b => some (if b then "True" else "False")
  | _ => none

/-! ## Records -/

section
variable [PythonLibrary] [DatetimeLibrary] [CasefoldLibrary]

def isTimezoneAwareTimestamp (text : String) : Bool :=
  ((parseTimestamp text).bind ParsedDatetime.offset).isSome

structure RemoteIssueRecord where
  issueId : String
  itemType : String
  title : String
  updatedAt : String
  repositoryIdentity : String
deriving DecidableEq

def RemoteIssueRecord.fromDict (record : Value) : Py RemoteIssueRecord := do
  let value ← orRaise record.mapping? .attributeError
  let issueId ← orRaise (textOrInteger? (value.get "issue_id"))
    (.valueError "remote_issue_identity_incomplete")
  raiseIf (issueId = "") "remote_issue_identity_incomplete"
  let known ← inTexts (value.get "item_type") ["issue", "pull_request"]
  raiseIf (known = false) "remote_item_type_required"
  let title ← orRaise (presentText? (value.get "title")) (.valueError "remote_issue_title_required")
  let updatedAt ← orRaise (presentText? (value.get "updated_at"))
    (.valueError "remote_issue_updated_at_required")
  let repositoryIdentity ← orRaise (presentText? (value.get "repository_identity"))
    (.valueError "remote_issue_repository_identity_required")
  raiseIf (isTimezoneAwareTimestamp updatedAt = false) "remote_issue_updated_at_timezone_required"
  pure { issueId, itemType := Value.toText (value.get "item_type"), title, updatedAt,
         repositoryIdentity }

def RemoteIssueRecord.toDict (r : RemoteIssueRecord) : Value :=
  .dict [("issue_id", .str r.issueId), ("item_type", .str r.itemType), ("title", .str r.title),
    ("updated_at", .str r.updatedAt), ("repository_identity", .str r.repositoryIdentity)]

structure RemoteIssueRecordV2 where
  issueId : String
  numericIssueId : String
  issueNumber : Int
  itemType : String
  title : String
  body : String
  state : String
  updatedAt : String
  repositoryIdentity : String
deriving DecidableEq

def issueFieldsV2 : List String :=
  ["issue_id", "numeric_issue_id", "issue_number", "item_type", "title", "body", "state",
    "updated_at", "repository_identity"]

/-- The body of an issue, `None` read as empty. -/
def issueBody? : Value → Option String
  | .null => some ""
  | .str s => some s
  | _ => none

def RemoteIssueRecordV2.fromDict (record : Value) : Py RemoteIssueRecordV2 := do
  let value ← orRaise record.mapping? .typeError
  raiseIf (value.hasExactly issueFieldsV2 = false) "remote_snapshot_v2_issue_schema_invalid"
  let issueId ← orRaise (presentText? (value.get "issue_id"))
    (.valueError "remote_issue_identity_incomplete")
  let numericIssueId ← orRaise (value.get "numeric_issue_id").text?
    (.valueError "remote_issue_identity_incomplete")
  raiseIf (numericIdText numericIssueId = false) "remote_issue_identity_incomplete"
  let issueNumber ← orRaise (positiveInt? (value.get "issue_number"))
    (.valueError "remote_issue_number_invalid")
  raiseIf (value.get "item_type" ≠ .str "issue") "pull_request_not_issue_candidate"
  let title ← orRaise (presentText? (value.get "title")) (.valueError "remote_issue_title_required")
  let body ← orRaise (issueBody? (value.get "body")) (.valueError "remote_issue_body_invalid")
  let rawState ← orRaise (value.get "state").text? (.valueError "remote_issue_state_invalid")
  let state := CasefoldLibrary.casefold rawState
  raiseIf (state ∉ ["open", "closed"]) "remote_issue_state_invalid"
  let updatedAt ← orRaise (value.get "updated_at").text?
    (.valueError "remote_issue_updated_at_timezone_required")
  raiseIf (isTimezoneAwareTimestamp updatedAt = false) "remote_issue_updated_at_timezone_required"
  let repositoryIdentity ← orRaise (presentText? (value.get "repository_identity"))
    (.valueError "remote_issue_repository_identity_required")
  pure { issueId, numericIssueId, issueNumber, itemType := "issue", title, body, state, updatedAt,
         repositoryIdentity }

def RemoteIssueRecordV2.toDict [UnicodeLibrary] (r : RemoteIssueRecordV2) : Py Value :=
  CanonicalValues.normalize (.dict
    [("issue_id", .str r.issueId), ("numeric_issue_id", .str r.numericIssueId),
      ("issue_number", .int r.issueNumber), ("item_type", .str r.itemType), ("title", .str r.title),
      ("body", .str r.body), ("state", .str r.state), ("updated_at", .str r.updatedAt),
      ("repository_identity", .str r.repositoryIdentity)])

structure RemoteRelationshipRecord where
  relationshipType : String
  sourceIssueId : String
  targetIssueId : String
deriving DecidableEq

def remoteRelationshipTypes : List String :=
  ["existing_dependency", "existing_parent", "proposed_dependency_candidate",
    "proposed_parent_candidate"]

def RemoteRelationshipRecord.fromDict (record : Value) : Py RemoteRelationshipRecord := do
  let value ← orRaise record.mapping? .attributeError
  let known ← inTexts (value.get "kind") remoteRelationshipTypes
  raiseIf (known = false) "remote_relationship_type_required"
  let source ← orRaise (textOrInteger? (value.get "from"))
    (.valueError "remote_relationship_reference_required")
  let target ← orRaise (textOrInteger? (value.get "to"))
    (.valueError "remote_relationship_reference_required")
  pure { relationshipType := Value.toText (value.get "kind"), sourceIssueId := source,
         targetIssueId := target }

def RemoteRelationshipRecord.toDict (r : RemoteRelationshipRecord) : Value :=
  .dict [("kind", .str r.relationshipType), ("from", .str r.sourceIssueId),
    ("to", .str r.targetIssueId)]

/-- The order of `(relationship_type, source_issue_id, target_issue_id)`. -/
def RemoteRelationshipRecord.before (a b : RemoteRelationshipRecord) : Prop :=
  a.relationshipType < b.relationshipType ∨ a.relationshipType = b.relationshipType ∧
    (a.sourceIssueId < b.sourceIssueId ∨ a.sourceIssueId = b.sourceIssueId ∧
      a.targetIssueId ≤ b.targetIssueId)

instance (a b : RemoteRelationshipRecord) : Decidable (a.before b) :=
  inferInstanceAs (Decidable (_ ∨ _ ∧ (_ ∨ _ ∧ _)))

/-! ## Snapshots -/

/-- A snapshot over one kind of issue record. -/
structure Snapshot (issue : Type) where
  repositoryIdentity : String
  queryScope : Value
  queryComplete : Bool
  paginationComplete : Bool
  issueRecords : List issue
  permissions : Dict
  capabilities : List String
  relationshipRecords : List RemoteRelationshipRecord
  evidenceIds : List Value
  schemaVersion : String
  observedAt : Value

/-- What the two versions of a snapshot differ in. -/
structure SnapshotVersion (issue : Type) where
  fromDict : Value → Py issue
  toDict : issue → Py Value
  issueId : issue → String
  repositoryIdentity : issue → String
  pullRequest : issue → Bool
  schemaVersion : String

/-- The arguments of `from_records`. -/
structure SnapshotRecords where
  repositoryIdentity : Value
  queryScope : Value
  queryComplete : Value
  paginationComplete : Value
  issueRecords : Value
  permissions : Value
  capabilities : Value
  relationshipRecords : Value
  evidenceIds : Value
  observedAt : Value

def Value.bool? : Value → Option Bool
  | .bool b => some b
  | _ => none

/-- `RemoteCapabilitySet.__post_init__` -/
def capabilitySet (capabilities : Value) : Py (List String) := do
  let items ← Value.iterate capabilities
  let texts ← orRaise (items.mapM Value.nonEmptyText?)
    (.valueError "remote_capability_set_invalid")
  raiseIf (¬texts.Nodup) "remote_capability_set_invalid"
  pure texts

/-- `tuple(value or ())` -/
def Value.orEmptyTuple (value : Value) : Py (List Value) :=
  if Value.truthy value then Value.iterate value else .ok []

/-- The evidence ids of a snapshot, none of them twice. -/
def snapshotEvidence (evidenceIds : Value) : Py (List Value) := do
  let items ← Value.orEmptyTuple evidenceIds
  let distinct ← distinctItems items
  raiseIf (distinct = false) "duplicate_remote_evidence_id"
  pure items

variable [UnicodeLibrary]

section
variable {issue : Type}

def Snapshot.fromRecords (version : SnapshotVersion issue) (r : SnapshotRecords) :
    Py (Snapshot issue) := do
  let repositoryIdentity ← orRaise (presentText? r.repositoryIdentity)
    (.valueError "remote_repository_identity_required")
  let incomplete := Raised.valueError "remote_query_completeness_boolean_required"
  let queryComplete ← orRaise (Value.bool? r.queryComplete) incomplete
  let paginationComplete ← orRaise (Value.bool? r.paginationComplete) incomplete
  let records ← Value.iterate r.issueRecords
  let issues ← records.mapM version.fromDict
  raiseIf (∃ issue ∈ issues, version.repositoryIdentity issue ≠ repositoryIdentity)
    "remote_issue_repository_identity_mismatch"
  raiseIf (∃ issue ∈ issues, version.pullRequest issue = true) "pull_request_not_issue_candidate"
  let ids := issues.map version.issueId
  raiseIf (¬ids.Nodup) "duplicate_remote_issue_id"
  let relationRecords ← Value.iterate r.relationshipRecords
  let relationships ← relationRecords.mapM RemoteRelationshipRecord.fromDict
  raiseIf (∃ record ∈ relationships, record.sourceIssueId ∉ ids ∨ record.targetIssueId ∉ ids)
    "remote_relationship_reference_required"
  let evidence ← snapshotEvidence r.evidenceIds
  let scope ← Value.toDict r.queryScope
  let queryScope ← CanonicalValues.normalize (.dict scope)
  let permissions ← Value.toDict r.permissions
  let capabilities ← capabilitySet r.capabilities
  let evidenceIds ← sortedItems evidence
  pure
    { repositoryIdentity, queryScope, queryComplete, paginationComplete, issueRecords := issues
      permissions, capabilities, relationshipRecords := relationships, evidenceIds
      schemaVersion := version.schemaVersion
      observedAt := r.observedAt }

/-- The entries that `to_dict` normalizes. -/
def Snapshot.entries (version : SnapshotVersion issue) (s : Snapshot issue) : Py Dict := do
  let queryScope ← CanonicalValues.normalize s.queryScope
  let issues ← (s.issueRecords.insertionSort
    fun a b => version.issueId a ≤ version.issueId b).mapM version.toDict
  raiseIf (∃ entry ∈ s.permissions, (Value.bool? entry.2).isNone)
    "remote_permission_boolean_required"
  pure
    [("repository_identity", .str s.repositoryIdentity), ("query_scope", queryScope),
      ("query_complete", .bool s.queryComplete), ("pagination_complete", .bool s.paginationComplete),
      ("issue_records", .list issues), ("permissions", .dict (sortEntries s.permissions)),
      ("capabilities", Value.texts (s.capabilities.insertionSort (· ≤ ·))),
      ("relationship_records", .list ((s.relationshipRecords.insertionSort
        RemoteRelationshipRecord.before).map RemoteRelationshipRecord.toDict)),
      ("evidence_ids", .list s.evidenceIds), ("schema_version", .str s.schemaVersion),
      ("observed_at", s.observedAt)]

def Snapshot.toDict (version : SnapshotVersion issue) (s : Snapshot issue) : Py Value := do
  let entries ← s.entries version
  CanonicalValues.normalize (.dict entries)

/-- The time of observation is not part of the digest. -/
def Snapshot.digest (version : SnapshotVersion issue) (s : Snapshot issue) : Py String := do
  let value ← s.toDict version
  let payload ← orRaise value.mapping? .attributeError
  canonicalDigest (.dict (payload.filter fun entry => entry.1 ≠ "observed_at"))

end

/-- `TypedRemoteSnapshot` -/
def typedRemoteSnapshot : SnapshotVersion RemoteIssueRecord where
  fromDict := RemoteIssueRecord.fromDict
  toDict r := .ok r.toDict
  issueId := RemoteIssueRecord.issueId
  repositoryIdentity := RemoteIssueRecord.repositoryIdentity
  pullRequest r := r.itemType = "pull_request"
  schemaVersion := "remote-snapshot-v1"

/-- `TypedRemoteSnapshotV2` -/
def typedRemoteSnapshotV2 : SnapshotVersion RemoteIssueRecordV2 where
  fromDict := RemoteIssueRecordV2.fromDict
  toDict := RemoteIssueRecordV2.toDict
  issueId := RemoteIssueRecordV2.issueId
  repositoryIdentity := RemoteIssueRecordV2.repositoryIdentity
  pullRequest _ := false
  schemaVersion := "remote-snapshot-v2"

/-- The digest of the snapshot that the records make, under either version. -/
def snapshotDigest (schemaVersion : Value) (r : SnapshotRecords) : Py String :=
  if schemaVersion = .str "remote-snapshot-v2" then do
    let snapshot ← Snapshot.fromRecords typedRemoteSnapshotV2 r
    snapshot.digest typedRemoteSnapshotV2
  else do
    let snapshot ← Snapshot.fromRecords typedRemoteSnapshot r
    snapshot.digest typedRemoteSnapshot

/-! ## Digests of an issue -/

/-- `_text` of the endpoint contracts. -/
def endpointFieldText : Value → Py String
  | .null => .ok ""
  | .str s => .ok (UnicodeLibrary.nfc (String.ofList (unifyBreaks s.toList)))
  | _ => .error (.valueError "existing_endpoint_text_invalid")

def normalizeTitle (value : Value) : Py String := do
  let text ← endpointFieldText value
  raiseIf (PythonLibrary.strip text = "") "existing_endpoint_title_required"
  pure (PythonLibrary.strip text)

def normalizeBody (value : Value) : Py String := do
  let text ← endpointFieldText value
  pure (PythonLibrary.strip text)

def normalizeState (value : Value) : Py String := do
  let text ← orRaise value.text? (.valueError "existing_endpoint_state_invalid")
  let state := CasefoldLibrary.casefold (PythonLibrary.strip text)
  raiseIf (state ∉ ["open", "closed"]) "existing_endpoint_state_invalid"
  pure state

def semanticDigest (record : Dict) : Py String := do
  let itemType ← Dict.require record "item_type"
  let rawTitle ← Dict.require record "title"
  let title ← normalizeTitle rawTitle
  let body ← normalizeBody (record.get "body")
  let rawState ← Dict.require record "state"
  let state ← normalizeState rawState
  canonicalDigest (.dict
    [("domain", .str "delivery-system:existing-issue-semantics:v1"), ("item_type", itemType),
      ("title", .str title), ("body", .str body), ("state", .str state)])

def identityDigest (record : Dict) : Py String := do
  let repositoryIdentity ← Dict.require record "repository_identity"
  let nodeId ← Dict.require record "issue_id"
  canonicalDigest (.dict
    [("domain", .str "delivery-system:existing-issue-identity:v1"),
      ("repository_identity", repositoryIdentity), ("node_id", nodeId)])

def writeAddressDigest (record : Dict) : Py String := do
  let repositoryIdentity ← Dict.require record "repository_identity"
  let nodeId ← Dict.require record "issue_id"
  let issueNumber ← Dict.require record "issue_number"
  let numericIssueId ← Dict.require record "numeric_issue_id"
  canonicalDigest (.dict
    [("domain", .str "delivery-system:existing-issue-address:v1"),
      ("repository_identity", repositoryIdentity), ("node_id", nodeId),
      ("issue_number", issueNumber), ("numeric_issue_id", numericIssueId)])

end
end DeliverySystem.RemoteSnapshots

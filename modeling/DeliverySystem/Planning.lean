import DeliverySystem.RemoteReads
import DeliverySystem.SharedStates
import DeliverySystem.StoredPreviews

/-!
# Planning a Preview

A plan is sealed as a Preview. Its items are given identities, or keep those of
the revision that it continues; what the driver reads of the repository is bound
to it; and it is saved as a first revision or after the latest one. Every call
of the store is a transaction of its own, and others may work between them.
-/
namespace DeliverySystem.Planning
open PythonValues CanonicalValues IssueCommands ExecutionContexts WriteOperations KeyedRows
open AuditRecords EvidenceRecords RemoteSnapshots SealedPreviews PreviewStore AuditCommits RemoteReads
open FallibleRuns SharedStates
set_option autoImplicit false

/-! ## The planner -/

/-- The driver is trusted in the context that the store was opened with. -/
structure RuntimePlanner where
  context : StoreContext
  driver : Option (TrustContext × (String → Value → ReadOutcome))
  ruleRegistryVersion : String
  ruleRegistryDigest : String
  trusted : ∀ d ∈ driver, context.trustContext = some d.1

/-- What `uuid4` gives to one call. -/
structure Tokens where
  request : String
  preview : String
  item : ℕ → String

def RuntimePlanner.workspace (p : RuntimePlanner) : String := p.context.workspaceIdentity

def RuntimePlanner.queryScope (p : RuntimePlanner) : Value :=
  .dict [("api_origin", .str ((p.driver.map fun d => d.1.origin).getD "offline://driver")),
    ("api_version", .str "2026-03-10"), ("issue_state", .str "all"),
    ("pull_request_filter", .str "pull_request_field_excluded"),
    ("relationships", Value.texts ["sub_issues", "parent", "blocked_by", "blocking"]),
    ("pagination_protocol", .str "link-header"), ("budget_profile", .str "github-rest-offline-v1")]

section
variable [PythonLibrary] [UnicodeLibrary]

/-! ## The plan -/

/-- What a plan says, before anything is asked of a store or a driver. -/
structure Draft where
  items : List Dict
  workItems : List Dict
  semantic : Dict
  operationIntents : List Dict
  planDigest : String
  operationSetDigest : String
  repositoryName : Option String

def itemFields : List String :=
  ["role", "title", "context_problem", "outcome", "scope", "non_goals", "acceptance_criteria",
    "verification", "required_capabilities", "write_metadata"]

/-- `_sourced(item[field])` -/
def sourced (item : Dict) (field : String) : Py (String × Value) := do
  let given ← Dict.require item field
  let given ← orRaise given.mapping? .typeError
  let value ← Dict.require given "value"
  let source ← Dict.require given "declared_source"
  let source ← DeclaredSource.parse source
  pure (field, .dict (sourcedValue value source))

def workItem (item : Dict) : Py Dict := do
  let clientRef ← Dict.require item "client_ref"
  let fields ← itemFields.mapM (sourced item)
  pure ([("client_ref", clientRef), ("previous_client_ref", item.get "previous_client_ref")] ++
    fields)

/-- `list(plan.get(key, ()))` -/
def listed (plan : Dict) (key : String) : Py (List Value) :=
  Value.iterate (getOr plan key (.tuple []))

/-- The repository that a plan claims, if it names one. -/
def claimedRepository (plan : Dict) : Option String := do
  let claim ← (plan.get "repository_claim").mapping?
  let owner ← presentText? (claim.get "owner")
  let name ← presentText? (claim.get "name")
  pure (PythonLibrary.strip owner ++ "/" ++ PythonLibrary.strip name)

def draft (plan : Dict) : Py Draft := do
  let given ← listed plan "work_items"
  let items ← given.mapM fun item => do
    let item ← orRaise item.mapping? .typeError
    let _ ← Dict.require item "client_ref"
    pure item
  let distinct ← distinctItems (items.map (Dict.get · "client_ref"))
  raiseIf (distinct = false) "client_ref must be unique within a Draft"
  let claims ← listed plan "existing_issue_claims"
  let workItems ← items.mapM workItem
  let relationships ← listed plan "planned_relationships"
  let semantic := [("repository_claim", plan.get "repository_claim"),
    ("existing_issue_claims", .list claims), ("work_items", Value.dicts workItems),
    ("planned_relationships", .list relationships)]
  let candidates ← listed plan "operation_intents"
  let operationIntents ← orRaise (candidates.mapM Value.mapping?) (.valueError "invalid_input")
  let planDigest ← canonicalDigest (.dict semantic)
  let operationSetDigest ← SealedPreviews.operationSetDigest False (operationIntents.map .dict)
  pure { items, workItems, semantic, operationIntents, planDigest, operationSetDigest,
         repositoryName := claimedRepository plan }

/-! ## The repository -/

/-- What the driver reads of the repository that a plan names, if there is a driver. -/
def RuntimePlanner.observed (p : RuntimePlanner) (name : Option String) :
    Option DriverReadResponse × List PreflightFailure :=
  match name, p.driver with
  | some name, some (trust, read) =>
      match validateDriverFacts (read name p.queryScope) name p.queryScope
          trust.trustedDriverIdentity with
      | .ok response => (some response, [])
      | .error failures => (none, failures)
  | _, _ => (none, [])

/-- `sorted({failure.code for failure in failures})` -/
def failureCodes (failures : List PreflightFailure) : List String :=
  (failures.map PreflightFailure.code).dedup.insertionSort (· ≤ ·)

def RuntimePlanner.failureFingerprint (p : RuntimePlanner) (name : Option String)
    (codes : List String) : Py (Option String) :=
  if codes = [] then pure none
  else some <$> canonicalDigest (.dict
    [("domain", .str "delivery-system:driver-preflight-failure:v1"),
      ("repository", Value.textOrNone name), ("query_scope", p.queryScope),
      ("failure_codes", Value.texts codes)])

/-- What a plan finds of its repository: the facts, or why there are none. -/
structure Observation where
  facts : Option DriverReadResponse
  failureCodes : List String
  failureFingerprint : Option String

def RuntimePlanner.observe (p : RuntimePlanner) (name : Option String) : Py Observation := do
  let (facts, failures) := p.observed name
  let failureFingerprint ← p.failureFingerprint name (failureCodes failures)
  pure { facts, failureCodes := failureCodes failures, failureFingerprint }

def Observation.contentDigest (o : Observation) : Option String :=
  o.facts.bind fun response => response.remoteContentDigest.text?

/-- `RuntimeEvidenceBindingResult`, of a snapshot in version 1. -/
structure BoundFacts where
  repositoryIdentity : String
  snapshot : Value
  promotion : RuntimePromotion

/-- `create_verified_driver` -/
def createVerifiedDriver (workspaceIdentity previewId : String) (revision : Int)
    (evidenceType subjectRef : String) (payload : Value) (sourceIdentity repositoryIdentity : String)
    (queryScope : Value) : Py EvidenceRecord := do
  raiseIf (PythonLibrary.strip workspaceIdentity = "" ∨ PythonLibrary.strip previewId = "" ∨
    revision < 1 ∨ PythonLibrary.strip sourceIdentity = "" ∨
    PythonLibrary.strip repositoryIdentity = "" ∨ queryScope.mapping?.isNone)
    "driver_evidence_binding_invalid"
  EvidenceRecord.createControlled workspaceIdentity previewId revision evidenceType "driver" none
    subjectRef payload .null sourceIdentity (.str repositoryIdentity) queryScope "evidence-v1" true

variable [DatetimeLibrary] [CasefoldLibrary] [IntegerLibrary]

/-- The records of a response, bound to a piece of evidence. -/
def boundRecords (response : DriverReadResponse) (evidence : EvidenceRecord) : SnapshotRecords where
  repositoryIdentity := response.canonicalRepository
  queryScope := response.queryScope
  queryComplete := response.queryComplete
  paginationComplete := response.paginationComplete
  issueRecords := .list (response.issueRecords.sequence?.getD [])
  permissions := .dict ((response.permissions.mapping?.getD []).filter fun e =>
    (Value.bool? e.2).isSome)
  capabilities := Value.texts (((response.capabilities.mapping?.getD []).filter fun e =>
    e.2 = .bool true).map Prod.fst)
  relationshipRecords := .list (response.relationshipRecords.sequence?.getD [])
  evidenceIds := Value.texts [evidence.evidenceId]
  observedAt := .null

/-- `bind_validated_facts`, of facts that were just validated. -/
def bindValidatedFacts (response : DriverReadResponse) (workspace previewId : String)
    (revision : Int) (trust : TrustContext) : Py BoundFacts := do
  let repository ← orRaise response.canonicalRepository.text? .typeError
  let canonical ← normalizeRepositoryIdentity response.canonicalRepository
  let payload := Value.dict (remoteContentPayload response canonical trust.trustedDriverIdentity)
  let expected := Value.dict (remoteContentPayload response repository trust.trustedDriverIdentity)
  let expectedDigest ← canonicalDigest expected
  raiseIf (sameValue payload expected = false ∨ response.remoteContentDigest ≠ .str expectedDigest)
    "validated_remote_facts_mismatch"
  raiseIf (response.sourceIdentity ≠ .str trust.trustedDriverIdentity) "driver_identity_untrusted"
  let evidence ← createVerifiedDriver workspace previewId revision "driver_remote_read"
    ("repository:" ++ repository) payload trust.trustedDriverIdentity repository response.queryScope
  let snapshot ← Snapshot.fromRecords typedRemoteSnapshot (boundRecords response evidence)
  let remoteSnapshotDigest ← snapshot.digest typedRemoteSnapshot
  let written ← snapshot.toDict typedRemoteSnapshot
  pure
    { repositoryIdentity := repository, snapshot := written
      promotion :=
        { trustContext := trust, evidenceRecord := evidence, remoteContentDigest := expectedDigest
          remoteSnapshotDigest, used := false } }

/-! ## The revision that is continued -/

/-- The Preview that a plan continues, with the digest of its remote content and the fingerprint
of the failure that it was planned with. -/
structure Prior where
  saved : SavedPreview
  remote : Option String
  fallback : Value

/-- The fingerprint of the failure that a Preview was planned with. -/
def preflightFallback (canonical : Dict) : Py Value := do
  let observations ← Value.iterate (getOr canonical "planner_observations" (.list []))
  let found ← firstEntry "kind" (.str "driver_preflight_failure") observations
  pure ((found.map (Dict.get · "failure_fingerprint")).getD .null)

/-- The digest of what the driver said, if it is the only one of its kind. -/
def remoteDigest (evidence : List Dict) : Py (Option String) :=
  match evidence.filter fun record => Dict.get record "source_kind" = .str "driver" with
  | [record] => some <$> canonicalDigest (record.get "payload")
  | _ => pure none

abbrev PlannerRun := Run (Shared PreviewTables) Raised

/-- `get_evidence_records`, of what a canonical payload names. -/
def evidenceOf (canonical : Dict) : PlannerRun (List Dict) := do
  let named ← Run.ofExcept (namedEvidence canonical)
  if named = [] then pure [] else SharedStates.observe fun s => readEvidenceRecords s named none

def RuntimePlanner.prior (p : RuntimePlanner) (previewId : String) : PlannerRun Prior := do
  let saved ← SharedStates.observe fun s => getPreview p.context s p.workspace previewId
  let fallback ← Run.ofExcept (preflightFallback saved.canonicalPayload)
  let evidence ← evidenceOf saved.canonicalPayload
  let remote ← Run.ofExcept (remoteDigest evidence)
  pure { saved, remote, fallback }

/-- The plan, and what was found of its repository, are those of the prior Preview. -/
def Prior.unchanged (prior : Prior) (d : Draft) (o : Observation) : Prop :=
  Dict.get prior.saved.canonicalPayload "plan_digest" = .str d.planDigest ∧
    Dict.get prior.saved.canonicalPayload "operation_set_digest" = .str d.operationSetDigest ∧
    prior.remote = o.contentDigest ∧ prior.fallback = Value.textOrNone o.failureFingerprint

instance (prior : Prior) (d : Draft) (o : Observation) : Decidable (prior.unchanged d o) :=
  inferInstanceAs (Decidable (_ ∧ _ ∧ _ ∧ _))

def Prior.revision (prior : Prior) (d : Draft) (o : Observation) : Int :=
  if prior.unchanged d o then prior.saved.revision else prior.saved.revision + 1

/-! ## The items -/

/-- The items of a canonical payload under their references. -/
def itemsByRef (canonical : Dict) : Py (List (Value × Dict)) := do
  let items ← Value.iterate (getOr canonical "items" (.tuple []))
  items.mapM fun item => do
    let item ← orRaise item.mapping? .typeError
    let clientRef ← Dict.require item "client_ref"
    let _ ← orRaise (if clientRef.hashable then some () else none) .typeError
    pure (clientRef, item)

/-- The item of a reference; the last one counts. -/
def itemNamed (items : List (Value × Dict)) (clientRef : Value) : Option Dict :=
  (items.reverse.find? fun e => e.1 = clientRef).map Prod.snd

variable [SqliteLibrary]

/-- The identity of an item: the one it had, the one of the item that it renames, or a new one. -/
def RuntimePlanner.itemId (p : RuntimePlanner) (prior : Option (String × Prior))
    (priorItems : List (Value × Dict)) (token : String) (item : Dict) : PlannerRun Value :=
  match itemNamed priorItems (item.get "client_ref") with
  | some old => Run.ofExcept (Dict.require old "item_id")
  | none =>
      if item.get "previous_client_ref" ≠ .null then
        Value.str <$> SharedStates.observe fun s => resolveItemId p.context s p.workspace
          ((prior.map Prod.fst).getD "") (item.get "previous_client_ref")
          (prior.map fun e => e.2.saved.revision)
      else pure (.str ("item-" ++ token))

def RuntimePlanner.sealedItem (p : RuntimePlanner) (prior : Option (String × Prior))
    (priorItems : List (Value × Dict)) (tokens : Tokens) (e : Dict × ℕ) : PlannerRun Dict := do
  let itemId ← p.itemId prior priorItems (tokens.item e.2) e.1
  pure [("client_ref", e.1.get "client_ref"),
    ("previous_client_ref", e.1.get "previous_client_ref"), ("item_id", itemId)]

def RuntimePlanner.sealedItems (p : RuntimePlanner) (prior : Option (String × Prior))
    (tokens : Tokens) (d : Draft) : PlannerRun (List Dict) := do
  let priorItems ← Run.ofExcept (match prior with
    | some (_, prior) => itemsByRef prior.saved.canonicalPayload
    | none => pure [])
  d.items.zipIdx.mapM (p.sealedItem prior priorItems tokens)

/-! ## The seal -/

/-- What identifies the Preview that is planned. -/
structure Lifecycle where
  requestId : String
  previewId : String
  revision : Int

def lifecycle (tokens : Tokens) (prior : Option (String × Prior)) (d : Draft) (o : Observation) :
    Lifecycle :=
  match prior with
  | none => ⟨"request-" ++ tokens.request, "preview-" ++ tokens.preview, 1⟩
  | some (previewId, prior) => ⟨prior.saved.requestId, previewId, prior.revision d o⟩

/-- `evaluate_write_operations`, where an error is a blocker. -/
def operationEvaluation (d : Draft) (items : List Dict) :
    Py (WriteOperationEvaluation WriteOperation) :=
  match evaluateWriteOperations (Value.dicts d.operationIntents) (items.map .dict) d.semantic with
  | .error (.valueError _) | .error .typeError =>
      .ok ⟨[], false, ["write_operation_contract_invalid"]⟩
  | result => result

def RuntimePlanner.bound (p : RuntimePlanner) (l : Lifecycle) (o : Observation) :
    Py (Option BoundFacts) :=
  match o.facts, p.driver with
  | some response, some (trust, _) =>
      some <$> bindValidatedFacts response p.workspace l.previewId l.revision trust
  | _, _ => pure none

def previewLevel (bound : Option BoundFacts) (eligible : Bool) : PreviewLevel :=
  match bound with
  | none => .conceptual
  | some _ => if eligible then .writeEligible else .repositoryAware

def RuntimePlanner.blockers (p : RuntimePlanner) (d : Draft) (o : Observation)
    (bound : Option BoundFacts) (evaluation : WriteOperationEvaluation WriteOperation) :
    List String :=
  match bound with
  | some _ => if evaluation.eligible then [] else evaluation.blockers
  | none =>
      if d.repositoryName = none then []
      else if p.driver.isNone ∧ o.failureCodes = [] then ["driver_unavailable"]
      else o.failureCodes

def observations (o : Observation) : List Value :=
  if o.failureCodes = [] then []
  else [.dict [("kind", .str "driver_preflight_failure"),
    ("failure_codes", Value.texts o.failureCodes),
    ("failure_fingerprint", Value.textOrNone o.failureFingerprint)]]

/-- One record of evidence for each field of each item. -/
def declaredEvidence (workspace : String) (l : Lifecycle) (d : Draft) : Py (List EvidenceRecord) :=
  (d.workItems.flatMap fun item => itemFields.map (item, ·)).mapM fun e => do
    let payload ← Dict.require e.1 e.2
    let fields ← orRaise payload.mapping? .typeError
    let source ← DeclaredSource.parse (fields.get "declared_source")
    EvidenceRecord.createControlled workspace l.previewId l.revision "declared_field" "declared"
      (some source) (Value.toText (e.1.get "client_ref") ++ "." ++ e.2) payload .null
      "runtime-planner" .null .null "evidence-v1" false

/-- The content of a Preview, before it names its evidence and is sealed. -/
def RuntimePlanner.content (p : RuntimePlanner) (l : Lifecycle) (d : Draft) (o : Observation)
    (items : List Dict) (bound : Option BoundFacts) (authority : Option String)
    (evaluation : WriteOperationEvaluation WriteOperation) : Dict :=
  [("workspace_identity", .str p.workspace), ("request_id", .str l.requestId),
    ("preview_id", .str l.previewId), ("revision", .int l.revision),
    ("preview_level", .str (previewLevel bound evaluation.eligible).text),
    ("provenance_status", .str "declared_unverified"), ("semantic_payload", .dict d.semantic),
    ("operation_intents", Value.dicts d.operationIntents), ("plan_digest", .str d.planDigest),
    ("operation_set_digest", .str d.operationSetDigest),
    ("repository_identity", Value.textOrNone (bound.map BoundFacts.repositoryIdentity)),
    ("remote_authority", Value.textOrNone authority),
    ("remote_snapshot", (bound.map BoundFacts.snapshot).getD .null),
    ("remote_snapshot_digest",
      Value.textOrNone (bound.map fun b => b.promotion.remoteSnapshotDigest)),
    ("blockers", Value.texts (p.blockers d o bound evaluation)),
    ("planner_observations", .list (observations o)), ("items", Value.dicts items)]

/-- What a Preview is saved with, and the promotion that entitles it to its level. -/
structure Candidate where
  canonical : Dict
  arguments : SaveArguments
  promotion : Option RuntimePromotion

def RuntimePlanner.candidate (p : RuntimePlanner) (l : Lifecycle) (d : Draft) (o : Observation)
    (items : List Dict) : Py Candidate := do
  let evaluation ← operationEvaluation d items
  let bound ← p.bound l o
  let authority ← bound.mapM fun b => b.promotion.trustContext.remoteAuthority
  let content := p.content l d o items bound authority evaluation
  let _ ← canonicalDigest (.dict content)
  let declared ← declaredEvidence p.workspace l d
  let evidence := declared ++ (bound.map fun b => b.promotion.evidenceRecord).toList
  let named := content ++ [("evidence_ids", Value.texts (evidence.map EvidenceRecord.evidenceId))]
  let sealedDigest ← canonicalDigest (.dict named)
  let preview ← SealedPreview.fromDict (named ++ [("sealed_preview_digest", .str sealedDigest)])
  let canonical ← preview.toDict
  pure
    { canonical
      arguments :=
        { binding :=
            { requestId := l.requestId, previewId := l.previewId, revision := l.revision
              planDigest := d.planDigest, operationSetDigest := d.operationSetDigest
              remoteSnapshotDigest := bound.map fun b => b.promotion.remoteSnapshotDigest
              repositoryIdentity := bound.map BoundFacts.repositoryIdentity }
          items := items, workspaceIdentity := some p.workspace, canonicalPayload := some canonical
          previewLevel := none
          evidenceRecords := evidence.map EvidenceRecord.toDict }
      promotion := bound.map BoundFacts.promotion }

/-! ## What a call returns -/

/-- `_audit_context_digest` -/
def RuntimePlanner.auditContextDigest (p : RuntimePlanner) (canonical : Dict)
    (evidence : List Dict) : Py String := do
  let previewId ← Dict.require canonical "preview_id"
  let previewId ← orRaise previewId.text? .typeError
  let revision ← Dict.require canonical "revision"
  let revision ← Value.toInteger revision
  let sealedDigest ← Dict.require canonical "sealed_preview_digest"
  let level ← Dict.require canonical "preview_level"
  computeAuditContextDigest p.workspace previewId revision sealedDigest evidence
    (some p.ruleRegistryVersion) (some p.ruleRegistryDigest) level

/-- The canonical payload as it is reported. -/
def report (canonical : Dict) (writeEligible : Bool) (auditContextDigest : String) : Dict :=
  [("remote_snapshot", Value.null), ("findings", .list []), ("stale", .bool false),
    ("write_eligible", .bool writeEligible),
    ("audit_context_digest", .str auditContextDigest)].foldl
      (fun d e => RemoteSnapshots.Dict.set d e.1 e.2) canonical

/-- `_state_fingerprint` -/
def stateFingerprint (canonical : Dict) (evidence : List Dict) :
    Py (Value × Value × Option String × Value) := do
  let remote ← remoteDigest evidence
  let fallback ← preflightFallback canonical
  pure (canonical.get "plan_digest", canonical.get "operation_set_digest", remote, fallback)

/-- `_return_existing_candidate` -/
def RuntimePlanner.returnExistingCandidate (p : RuntimePlanner) (winner : SavedPreview) :
    PlannerRun Dict := do
  let evidence ← evidenceOf winner.canonicalPayload
  let auditContextDigest ← Run.ofExcept (p.auditContextDigest winner.canonicalPayload evidence)
  let eligible ← Run.ofExcept (previewIsApprovalEligible winner.canonicalPayload)
  pure (report winner.canonicalPayload eligible auditContextDigest)

/-- The save of a candidate. -/
def RuntimePlanner.save (p : RuntimePlanner) (c : Candidate) : PlannerRun Unit :=
  SharedStates.transaction fun s => ((), ·) <$> match c.promotion with
    | some promotion => bindAndSaveRepositoryAwarePreview p.context promotion c.arguments s
    | none => savePreviewRevision p.context c.arguments s

/-- What is returned in place of a candidate that came too late: the Preview that was there first,
if it says the same. -/
def RuntimePlanner.yielded (p : RuntimePlanner) (l : Lifecycle) (c : Candidate) :
    PlannerRun Dict := do
  let winner ← SharedStates.observe fun s => getPreview p.context s p.workspace l.previewId
  let evidence ← evidenceOf winner.canonicalPayload
  let ours ← Run.ofExcept (stateFingerprint c.canonical c.arguments.evidenceRecords)
  let theirs ← Run.ofExcept (stateFingerprint winner.canonicalPayload evidence)
  if ours ≠ theirs then throw (.valueError "preview_revision_conflict")
  p.returnExistingCandidate winner

def RuntimePlanner.finish (p : RuntimePlanner) (l : Lifecycle) (c : Candidate) :
    PlannerRun Dict := do
  let saved ← (p.save c).attempt
  match saved with
  | .ok () => do
      let auditContextDigest ←
        Run.ofExcept (p.auditContextDigest c.canonical c.arguments.evidenceRecords)
      pure (report c.canonical (c.canonical.get "preview_level" = .str "WriteEligible")
        auditContextDigest)
  | .error e =>
      if e = .valueError "preview_revision_conflict" then p.yielded l c else throw e

/-- `preview`, of a plan in version 1. -/
def RuntimePlanner.preview (p : RuntimePlanner) (tokens : Tokens) (plan : Dict)
    (previousPreviewId : Option String) : PlannerRun Dict := do
  let d ← Run.ofExcept (draft plan)
  let o ← Run.ofExcept (p.observe d.repositoryName)
  let prior ← previousPreviewId.mapM fun previewId => (previewId, ·) <$> p.prior previewId
  let items ← p.sealedItems prior tokens d
  let l := lifecycle tokens prior d o
  let candidate ← Run.ofExcept (p.candidate l d o items)
  p.finish l candidate

end
end DeliverySystem.Planning

import DeliverySystem.ApplicationStatus

/-!
# Commands to the remote and the evidence they return

A claimed attempt is turned into one typed command. Creating an issue renders
the approved item; a relationship first resolves both of its operands to remote
issues, a new issue from the stored receipt of its creation and an existing one
from the sealed endpoint binding. What the remote answers to a command becomes
durable only after its shape was checked again.
-/
namespace DeliverySystem.IssueCommands
open PythonValues WriteOperations ApplicationIdentity ExecutionRecords ExecutionContexts
open KeyedRows ExecutionStore ApplicationStatus
set_option autoImplicit false

/-- `type(value) is int and value >= 1`, which no `bool` is. -/
def positiveInt? : Value → Option Int
  | .int n => if 1 ≤ n then some n else none
  | _ => none

theorem positiveInt?_eq_some {v : Value} {n : Int} :
    positiveInt? v = some n ↔ v = .int n ∧ 1 ≤ n := by
  cases v <;> simp only [positiveInt?, reduceCtorEq, false_and]
  split_ifs with h
  · simp only [Option.some.injEq, Value.int.injEq]
    exact ⟨by rintro rfl; exact ⟨rfl, h⟩, And.left⟩
  · simp only [Value.int.injEq, false_iff, not_and]
    rintro rfl
    exact h

/-- The values a `for` loop visits. -/
def Value.iterate : Value → Py (List Value)
  | .list items => .ok items
  | .tuple items => .ok items
  | .dict entries => .ok (entries.map fun entry => .str entry.1)
  | .str s => .ok (s.toList.map fun c => .str (String.singleton c))
  | _ => .error .typeError

/-- `next((m for m in entries if m.get(key) == wanted), None)`, on mappings. -/
def firstEntry (key : String) (wanted : Value) : List Value → Py (Option Dict)
  | [] => .ok none
  | .dict entry :: rest =>
      if Dict.get entry key = wanted then .ok (some entry) else firstEntry key wanted rest
  | _ :: _ => .error .attributeError

/-- `payload[key]`. -/
def Dict.require (d : Dict) (key : String) : Py Value := orRaise (d.lookup key) .keyError

section
variable [PythonLibrary]

/-! ## Repositories and issue references -/

/-- The stripped parts of `repository.split("/")`. -/
def repositoryParts (repository : String) : List String :=
  (repository.toList.splitOn '/').map fun part => PythonLibrary.strip (String.ofList part)

def normalizeRepositoryIdentity (repository : Value) : Py String := do
  let invalid := Raised.valueError "repository_identity_invalid"
  let text ← orRaise repository.text? invalid
  match repositoryParts text with
  | [owner, name] =>
      raiseIf (owner = "" ∨ name = "") "repository_identity_invalid"
      pure (PythonLibrary.lower owner ++ "/" ++ PythonLibrary.lower name)
  | _ => .error invalid

/-- `type(value) is str and value.strip()`. -/
def presentText? : Value → Option String
  | .str s => if PythonLibrary.strip s = "" then none else some s
  | _ => none

theorem presentText?_eq_some {v : Value} {s : String} :
    presentText? v = some s ↔ v = .str s ∧ PythonLibrary.strip s ≠ "" := by
  cases v <;> simp only [presentText?, reduceCtorEq, false_and]
  split_ifs with h
  · simp only [Value.str.injEq, false_iff, not_and, not_not]
    rintro rfl
    exact h
  · simp only [Option.some.injEq, Value.str.injEq]
    exact ⟨by rintro rfl; exact ⟨rfl, h⟩, And.left⟩

structure RemoteIssueReference where
  repositoryIdentity : String
  issueNumber : Int
  numericIssueId : String
  nodeId : String
deriving Repr, DecidableEq

def RemoteIssueReference.make (repository issueNumber numericIssueId nodeId : Value) :
    Py RemoteIssueReference := do
  let invalid := Raised.valueError "write_reference_invalid"
  let repositoryIdentity ← normalizeRepositoryIdentity repository
  let issueNumber ← orRaise (positiveInt? issueNumber) invalid
  let numericIssueId ← orRaise (presentText? numericIssueId) invalid
  let nodeId ← orRaise (presentText? nodeId) invalid
  pure { repositoryIdentity, issueNumber, numericIssueId, nodeId }

structure CreateIssueCommand where
  repositoryIdentity : String
  clientRef : String
  title : String
  body : String
  requestIdentity : String
deriving Repr, DecidableEq

def CreateIssueCommand.make (repository clientRef title body requestIdentity : String) :
    Py CreateIssueCommand := do
  let repositoryIdentity ← normalizeRepositoryIdentity (.str repository)
  raiseIf (∃ text ∈ [clientRef, title, body, requestIdentity], PythonLibrary.strip text = "")
    "write_command_invalid"
  pure { repositoryIdentity, clientRef, title, body, requestIdentity }

structure RelationshipCommand where
  repositoryIdentity : String
  first : RemoteIssueReference
  second : RemoteIssueReference
deriving Repr, DecidableEq

def RelationshipCommand.make (repository : String) (first second : RemoteIssueReference) :
    Py RelationshipCommand := do
  let repositoryIdentity ← normalizeRepositoryIdentity (.str repository)
  raiseIf (first.repositoryIdentity ≠ repositoryIdentity ∨
    second.repositoryIdentity ≠ repositoryIdentity ∨ first = second) "write_command_invalid"
  pure { repositoryIdentity, first, second }

inductive IssueCommand where
  | createIssue (command : CreateIssueCommand)
  | relationship (command : RelationshipCommand)
deriving Repr, DecidableEq

/-! ## Rendering an approved item -/

/-- The value of a sourced field, `_source`. -/
def source (item : Dict) (field : String) : Py Value := do
  let invalid := Raised.valueError "sealed_item_field_invalid"
  let value ← orRaise (Value.mapping? (Dict.get item field)) invalid
  raiseIf (value.hasExactly ["value", "declared_source", "provenance_status"] = false)
    "sealed_item_field_invalid"
  raiseIf (value.get "provenance_status" ≠ .str "declared_unverified" ∨
    (value.get "declared_source").nonEmptyText? = none) "sealed_item_provenance_invalid"
  pure (value.get "value")

/-- A control character, which no title may contain. -/
def controlChar (c : Char) : Bool := c.toNat < 0x20 || c.toNat = 0x7f

def bodySection (heading : String) (value : Value) : String :=
  "## " ++ heading ++ "\n\n    " ++ PythonLibrary.jsonDumps value

/-- The title and body of an approved item. -/
def renderCreateIssue (item : Dict) : Py (String × String) := do
  let invalid := Raised.valueError "sealed_item_field_invalid"
  let clientRef ← orRaise (Value.nonEmptyText? (Dict.get item "client_ref")) invalid
  let role ← source item "role"
  let title ← source item "title"
  let contextProblem ← source item "context_problem"
  let outcome ← source item "outcome"
  let scope ← source item "scope"
  let nonGoals ← source item "non_goals"
  let acceptanceCriteria ← source item "acceptance_criteria"
  let verification ← source item "verification"
  let requiredCapabilities ← source item "required_capabilities"
  let writeMetadata ← source item "write_metadata"
  let title ← orRaise title.nonEmptyText? invalid
  raiseIf (title.toList.any controlChar = true) "sealed_item_field_invalid"
  raiseIf (∃ value ∈ [nonGoals, acceptanceCriteria, requiredCapabilities],
    value.sequence? = none) "sealed_item_field_invalid"
  let sections :=
    [bodySection "Client reference" (.str clientRef), bodySection "Role" role,
      bodySection "Context / Problem" contextProblem, bodySection "Outcome" outcome,
      bodySection "Scope" scope, bodySection "Non-goals" nonGoals,
      bodySection "Acceptance criteria" acceptanceCriteria,
      bodySection "Verification" verification,
      bodySection "Required capabilities" requiredCapabilities,
      bodySection "Write metadata (informational only)" writeMetadata]
  pure (title, "\n\n".intercalate sections)

/-! ## Resolving operands -/

/-- `operation["operation_kind"] == "create_issue" and operation["client_refs"] == [ref]`. -/
def createsRef (clientRef : String) (operation : WriteOperation) : Bool :=
  operation.operationKind = "create_issue" && operation.clientRefs = [clientRef]

/-- The issue that the stored receipt of a creation names. -/
def referenceFromReceipt (workspace : String) (context : ExecutionContext) (t : Tables)
    (clientRef : String) : Py RemoteIssueReference := do
  let (operation, index) ← orRaise
    (context.expectedOperations.zipIdx.find? fun entry => createsRef clientRef entry.1)
    (.valueError "write_reference_unavailable")
  let receipt ← getOperationReceipt workspace context.applicationId
    (operationIdentity context.applicationId index operation) t
  let payload := receipt.remoteResult.resultPayload
  raiseIf (receipt.remoteResult.resultKind ≠ "github.create_issue.v1" ∨
    Dict.get payload "repository_identity" ≠ .str context.authority.repositoryIdentity)
    "write_reference_unavailable"
  let repository ← Dict.require payload "repository_identity"
  let issueNumber ← Dict.require payload "issue_number"
  let numericIssueId ← Dict.require payload "numeric_issue_id"
  let nodeId ← Dict.require payload "node_id"
  RemoteIssueReference.make repository issueNumber numericIssueId nodeId

/-- `str(value)` -/
def Value.toText : Value → String
  | .str s => s
  | v => PythonLibrary.textOf v

/-- The issue that a sealed endpoint binding names. -/
def referenceFromExistingBinding (context : ExecutionContext) (endpointRef : String) :
    Py RemoteIssueReference := do
  let unavailable := Raised.valueError "write_reference_unavailable"
  raiseIf (context.canonicalVersion ≠ .str "2") "write_reference_unavailable"
  let binding ← firstEntry "endpoint_ref" (.str endpointRef) context.existingEndpointBindings
  let binding ← orRaise binding unavailable
  let snapshot ← orRaise context.remoteSnapshot.mapping? unavailable
  let entries ← Value.iterate (getOr snapshot "issue_records" (.list []))
  let record ← firstEntry "issue_id" (Dict.get binding "issue_id") entries
  let record ← orRaise record unavailable
  raiseIf (Dict.get binding "remote_record_digest" ≠ .str (digest (.dict record)))
    "write_reference_unavailable"
  raiseIf (Dict.get record "repository_identity" ≠ .str context.authority.repositoryIdentity ∨
    Dict.get record "item_type" ≠ .str "issue") "write_reference_unavailable"
  let made : Py RemoteIssueReference := do
    let issueNumber ← Dict.require record "issue_number"
    let numericIssueId ← Dict.require record "numeric_issue_id"
    let issueId ← Dict.require record "issue_id"
    RemoteIssueReference.make (.str context.authority.repositoryIdentity) issueNumber
      (.str (Value.toText numericIssueId)) issueId
  match made with
  | .error _ => .error unavailable
  | .ok reference => pure reference

/-- The text after a tag; the first colon of a tagged reference ends the tag. -/
def untagged? (tag ref : String) : Option String :=
  if tag.toList.isPrefixOf ref.toList then
    some (String.ofList (ref.toList.drop tag.toList.length))
  else none

/-- The endpoint a tagged V2 reference stands for. -/
def taggedEndpoint? (ref : String) : Option Endpoint :=
  match untagged? "work_item:" ref with
  | some name => some { endpointType := .workItem, ref := name }
  | none => (untagged? "existing_issue:" ref).map fun name =>
      { endpointType := .existingIssue, ref := name }

def referenceFromEndpoint (workspace : String) (context : ExecutionContext) (t : Tables)
    (endpoint : Endpoint) : Py RemoteIssueReference :=
  match endpoint.endpointType with
  | .workItem => referenceFromReceipt workspace context t endpoint.ref
  | .existingIssue => referenceFromExistingBinding context endpoint.ref

def existingRefs (endpoints : List Endpoint) : List String :=
  (endpoints.filter (·.endpointType = .existingIssue)).map Endpoint.ref

/-- `references[0]` and `references[1]`. -/
def firstTwo {α : Type} (items : List α) : Py (α × α) := do
  let first ← orRaise items[0]? .indexError
  let second ← orRaise items[1]? .indexError
  pure (first, second)

/-- A V2 relationship, whose references carry their endpoint type as a tag. -/
def materializeTagged (workspace : String) (context : ExecutionContext) (refs : List String)
    (read : Nat → Tables) (revalidate : String → Py Unit) : Py RelationshipCommand := do
  let unavailable := Raised.valueError "write_reference_unavailable"
  let endpoints ← orRaise (refs.mapM taggedEndpoint?) unavailable
  let references ← endpoints.zipIdx.mapM fun entry =>
    referenceFromEndpoint workspace context (read entry.2) entry.1
  let (first, second) ← firstTwo references
  raiseIf (first = second) "write_reference_unavailable"
  (existingRefs endpoints).forM revalidate
  RelationshipCommand.make context.authority.repositoryIdentity first second

/-- A V1 relationship, whose references are the `client_ref`s of approved items. -/
def materializeUntagged (workspace : String) (context : ExecutionContext) (refs : List String)
    (read : Nat → Tables) : Py RelationshipCommand := do
  raiseIf (∃ ref ∈ refs, ∀ item ∈ context.items, Dict.get item "client_ref" ≠ .str ref)
    "write_reference_unavailable"
  let references ← refs.zipIdx.mapM fun entry =>
    referenceFromReceipt workspace context (read entry.2) entry.1
  let (first, second) ← firstTwo references
  RelationshipCommand.make context.authority.repositoryIdentity first second

/-- The command of a claimed attempt. Receipts are read on separate connections:
the tables that the read for operand `i` sees are `read i`. An endpoint that
exists already is revalidated against the remote. -/
def materialize (workspace : String) (context : ExecutionContext) (attempt : OperationAttemptState)
    (read : Nat → Tables) (revalidate : String → Py Unit) : Py IssueCommand := do
  let kind := attempt.operation.operationKind
  let refs := attempt.operation.clientRefs
  if kind = "create_issue" then
    let ref ← orRaise refs[0]? .indexError
    -- the map from references to items keeps the last item of a reference
    let item ← orRaise (context.items.reverse.find? fun item =>
      Dict.get item "client_ref" = .str ref) .keyError
    let (title, body) ← renderCreateIssue item
    .createIssue <$> CreateIssueCommand.make context.authority.repositoryIdentity ref title body
      attempt.requestIdentity
  else if (relationshipKinds kind).isSome then
    if context.canonicalVersion = .str "2" then
      .relationship <$> materializeTagged workspace context refs read revalidate
    else .relationship <$> materializeUntagged workspace context refs read
  else .error (.valueError "write_operation_kind_invalid")

/-! ## Observations of the remote -/

inductive WriteObservationKind where
  | definitiveSuccess
  | definitiveRejected
  | ambiguous
deriving Repr, DecidableEq

/-- What a dispatch returned. An absent identity or code is the empty text. -/
structure WriteObservation where
  kind : WriteObservationKind
  resultIdentity : String
  resultPayload : Option Dict
  code : String
deriving Repr, DecidableEq

def writeExecutorIdentity : String := "delivery-system:github-rest-write-v1"

/-- `value == 201`; a float of that value is equal to it. -/
def isCreatedStatus (value : Value) : Bool := value = .int 201 || value = .float "201.0"

/-- One to twenty decimal digits without a leading zero. -/
def numericIdText (text : String) : Bool :=
  let chars := text.toList
  1 ≤ chars.length && chars.length ≤ 20 && chars.head? ≠ some '0' &&
    chars.all fun c => '0' ≤ c && c ≤ '9'

def createdPayloadFields : List String :=
  ["repository_identity", "issue_number", "numeric_issue_id", "node_id", "executor_identity",
    "contract_version", "response_status"]

/-- What every successful payload names: the executor, its contract, the status. -/
def executorFields (payload : Dict) : Bool :=
  Dict.get payload "executor_identity" = .str writeExecutorIdentity &&
    (Dict.get payload "contract_version").text?.isSome &&
    isCreatedStatus (Dict.get payload "response_status")

/-- The payload of a successful creation. -/
def createdPayload (repository : String) (payload : Dict) : Bool :=
  Dict.hasExactly payload createdPayloadFields &&
    Dict.get payload "repository_identity" = .str repository &&
    (positiveInt? (Dict.get payload "issue_number")).isSome &&
    (Dict.get payload "numeric_issue_id").text?.any numericIdText &&
    (Dict.get payload "node_id").nonEmptyText?.isSome && executorFields payload

def relationshipPayload (repository : String) (payload : Dict) : Bool :=
  Dict.get payload "repository_identity" = .str repository && executorFields payload

/-- Re-validate the evidence of a success before it becomes a durable receipt. -/
def trustedSuccessResult (context : ExecutionContext) (attempt : OperationAttemptState)
    (observation : WriteObservation) : Py RemoteResult := do
  let payload ← orRaise observation.resultPayload (.valueError "write_observation_invalid")
  let kind := attempt.operation.operationKind
  let repository := context.authority.repositoryIdentity
  if kind = "create_issue" then
    raiseIf (createdPayload repository payload = false) "write_observation_invalid"
  else if (relationshipKinds kind).isSome then
    raiseIf (relationshipPayload repository payload = false) "write_observation_invalid"
  else .error (.valueError "write_operation_kind_invalid")
  raiseIf (observation.resultIdentity = "") "write_observation_invalid"
  pure
    { resultKind := "github." ++ kind ++ ".v1"
      resultIdentity := observation.resultIdentity
      resultDigest := digest (.dict payload)
      resultPayload := payload }

/-- A trusted result carries the payload and the identity that were observed. -/
theorem trustedSuccessResult_spec {context : ExecutionContext} {attempt : OperationAttemptState}
    {observation : WriteObservation} {remote : RemoteResult}
    (h : trustedSuccessResult context attempt observation = .ok remote) :
    observation.resultPayload = some remote.resultPayload ∧
      remote.resultIdentity = observation.resultIdentity ∧
      remote.resultKind = "github." ++ attempt.operation.operationKind ++ ".v1" := by
  simp only [trustedSuccessResult, bind_eq_ok, orRaise_eq_ok] at h
  obtain ⟨payload, hpayload, h⟩ := h
  split_ifs at h
  · simp only [bind_eq_ok, pure_eq_ok] at h
    obtain ⟨_, -, _, -, rfl⟩ := h
    exact ⟨hpayload, rfl, rfl⟩
  · simp only [bind_eq_ok, pure_eq_ok] at h
    obtain ⟨_, -, _, -, rfl⟩ := h
    exact ⟨hpayload, rfl, rfl⟩
  · simp at h

/-- The trusted result of a creation has the payload of one. -/
theorem trustedSuccessResult_created {context : ExecutionContext} {attempt : OperationAttemptState}
    {observation : WriteObservation} {remote : RemoteResult}
    (h : trustedSuccessResult context attempt observation = .ok remote)
    (hkind : attempt.operation.operationKind = "create_issue") :
    createdPayload context.authority.repositoryIdentity remote.resultPayload = true := by
  simp only [trustedSuccessResult, if_pos hkind, bind_eq_ok, orRaise_eq_ok, raiseIf_eq_ok,
    pure_eq_ok, Bool.not_eq_false] at h
  obtain ⟨payload, -, _, hcreated, _, -, rfl⟩ := h
  exact hcreated

end
end DeliverySystem.IssueCommands

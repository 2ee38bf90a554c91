import DeliverySystem.ExecutionRecords

/-!
# The live execution context of an authority

A context is built from an authority and the sealed Preview it approves. It is
the only way to make execution evidence: every state, attempt, and receipt is
new evidence of the context or continues a historical record that agrees with
it on identity and credential continuity.

Before each such step the runtime asks whether the authority is still valid.
The answer depends on clocks and on other stores, so it is an input here.
-/
namespace DeliverySystem.ExecutionContexts
open PythonValues WriteOperations ApplicationIdentity ExecutionRecords
set_option autoImplicit false

/-! ## The sealed projection -/

def EndpointType.prefixText : EndpointType → String
  | .workItem => "work_item:"
  | .existingIssue => "existing_issue:"

def endpointText (endpoint : Endpoint) : String :=
  EndpointType.prefixText endpoint.endpointType ++ endpoint.ref

/-- A V2 operation in the receipt-safe V1 envelope, endpoints as tagged text. -/
def encodeOperation : WriteOperationV2 → WriteOperation
  | .createIssue endpoint _ =>
      { operationKind := "create_issue", clientRefs := [endpoint.ref], dependsOn := [] }
  | .relationship kind first second _ =>
      { operationKind := kind.operationKind
        clientRefs := [endpointText first, endpointText second]
        dependsOn := [] }

/-- A mapping's value when the key is present, else the given default. -/
def getOr (d : Dict) (key : String) (default : Value) : Value := (d.lookup key).getD default

def executionOperations (canonical : Dict) : Py (List WriteOperation) := do
  let intents := getOr canonical "operation_intents" (.list [])
  if canonical.get "canonical_version" = .str "2" then
    let operations ← normalizeWriteOperationsV2 intents
    pure (operations.map encodeOperation)
  else normalizeWriteOperations intents

theorem endpointText_injective : Function.Injective endpointText := by
  rintro ⟨s, a⟩ ⟨t, b⟩ h
  have hlist := congrArg String.toList h
  simp only [endpointText, String.toList_append] at hlist
  cases s <;> cases t
  · rw [List.append_cancel_left_eq, String.toList_inj] at hlist
    rw [hlist]
  · simp [EndpointType.prefixText] at hlist
  · simp [EndpointType.prefixText] at hlist
  · rw [List.append_cancel_left_eq, String.toList_inj] at hlist
    rw [hlist]

theorem prefixText_ne_empty (t : EndpointType) : EndpointType.prefixText t ≠ "" := by
  cases t <;> decide

theorem endpointText_ne_empty (endpoint : Endpoint) : endpointText endpoint ≠ "" :=
  append_ne_empty (prefixText_ne_empty _)

theorem v2Endpoint_ref_ne_empty {value : Value} {endpoint : Endpoint}
    (h : v2Endpoint value = .ok endpoint) : endpoint.ref ≠ "" := by
  simp only [v2Endpoint, bind_eq_ok, orRaise_eq_ok, pure_eq_ok] at h
  obtain ⟨fields, -, ⟨t, raw⟩, -, ref, href, rfl⟩ := h
  exact (Value.nonEmptyText?_eq_some.mp href).2

theorem encodeOperation_canonical {value : Value} {operation : WriteOperationV2}
    (h : normalizeWriteOperationV2 value = .ok operation) :
    (encodeOperation operation).Canonical := by
  simp only [normalizeWriteOperationV2, bind_eq_ok, orRaise_eq_ok] at h
  obtain ⟨fields, -, kind, -, deps, -, h⟩ := h
  split_ifs at h with hkind
  · simp only [bind_eq_ok, raiseIf_eq_ok, pure_eq_ok] at h
    obtain ⟨_, -, endpoint, hendpoint, _, -, rfl⟩ := h
    have href := v2Endpoint_ref_ne_empty hendpoint
    simp [encodeOperation, WriteOperation.Canonical, href]
  · simp only [bind_eq_ok, orRaise_eq_ok, raiseIf_eq_ok] at h
    obtain ⟨k, -, _, -, h⟩ := h
    split at h
    · simp only [bind_eq_ok, raiseIf_eq_ok, pure_eq_ok] at h
      obtain ⟨first, -, second, -, _, hne, rfl⟩ := h
      have hkind : k.operationKind ≠ "" := by cases k <;> decide
      have htext : endpointText first ≠ endpointText second := fun heq =>
        hne (endpointText_injective heq)
      simp [encodeOperation, WriteOperation.Canonical, hkind, htext, endpointText_ne_empty]
    · cases h

theorem executionOperations_canonical {canonical : Dict} {operations : List WriteOperation}
    (h : executionOperations canonical = .ok operations) :
    ∀ operation ∈ operations, operation.Canonical := by
  simp only [executionOperations] at h
  split_ifs at h
  · simp only [bind_eq_ok, pure_eq_ok, normalizeWriteOperationsV2, orRaise_eq_ok] at h
    obtain ⟨v2, ⟨entries, -, hmap⟩, rfl⟩ := h
    intro operation hmem
    obtain ⟨source, hsource, rfl⟩ := List.mem_map.mp hmem
    obtain ⟨entry, -, hentry⟩ := exists_of_mem_mapM hmap hsource
    exact encodeOperation_canonical hentry
  · exact normalizeWriteOperations_canonical h

/-- The approved work items, which must project onto the sealed item index. -/
def sealedItems (canonical : Dict) : Py (List Dict) := do
  let invalid := Raised.valueError "sealed_item_projection_invalid"
  let workItems := match canonical.get "semantic_payload" with
    | .dict semantic => getOr semantic "work_items" (.list [])
    | _ => .list []
  let items ← orRaise (workItems.list?.bind (·.mapM Value.mapping?)) invalid
  let refs ← orRaise (distinctTexts (items.map (Dict.get · "client_ref"))) invalid
  let sealedEntries ← orRaise (getOr canonical "items" (.list [])).list? invalid
  let sealed ← orRaise (sealedEntries.mapM Value.mapping?) .attributeError
  raiseIf (sealed.map (Dict.get · "client_ref") ≠ refs.map Value.str)
    "sealed_item_projection_invalid"
  raiseIf (∃ entry ∈ sealed, (Dict.get entry "item_id").nonEmptyText? = none)
    "sealed_item_projection_invalid"
  pure items

section
variable [PythonLibrary]

structure ExecutionContext where
  authority : ApplicationAuthority
  identity : LogicalApplicationIdentity
  continuityAnchor : CredentialContinuityAnchor
  provenance : AuthorityProvenance
  expectedOperations : List WriteOperation
  canonicalVersion : Value
  existingEndpointBindings : List Value
  remoteSnapshot : Value
  items : List Dict
  identity_eq : LogicalApplicationIdentity.fromAuthority authority = .ok identity
  anchor_eq : CredentialContinuityAnchor.fromAuthority authority = .ok continuityAnchor
  provenance_eq : AuthorityProvenance.fromLiveAuthority authority identity = .ok provenance
  canonical : ∀ operation ∈ expectedOperations, operation.Canonical

/-- An `Except` value together with the equation that names it. -/
def attach {ε α : Type} (x : Except ε α) : Except ε {a : α // x = .ok a} :=
  match x with
  | .ok a => .ok ⟨a, rfl⟩
  | .error e => .error e

/-- Build the context of a resolved authority from its stored sealed Preview. -/
def createExecutionContext (authority : ApplicationAuthority) (canonicalPreview : Value) :
    Py ExecutionContext := do
  let canonicalPreview ← orRaise canonicalPreview.mapping? (.valueError "operation_set_mismatch")
  let ⟨operations, operations_eq⟩ ← attach (executionOperations canonicalPreview)
  let ⟨identity, identity_eq⟩ ← attach (LogicalApplicationIdentity.fromAuthority authority)
  raiseIf (canonicalPreview.get "operation_set_digest" ≠ .str identity.values.operationSetDigest)
    "operation_set_mismatch"
  let ⟨continuityAnchor, anchor_eq⟩ ← attach (CredentialContinuityAnchor.fromAuthority authority)
  let bindings ← orRaise
    (getOr canonicalPreview "existing_endpoint_bindings" (.list [])).sequence? .typeError
  let items ← sealedItems canonicalPreview
  let ⟨provenance, provenance_eq⟩ ←
    attach (AuthorityProvenance.fromLiveAuthority authority identity)
  pure
    { authority, identity, continuityAnchor, provenance, expectedOperations := operations
      canonicalVersion := canonicalPreview.get "canonical_version"
      existingEndpointBindings := bindings
      remoteSnapshot := canonicalPreview.get "remote_snapshot"
      items, identity_eq, anchor_eq, provenance_eq
      canonical := executionOperations_canonical operations_eq }

/-! ## New and continued evidence -/

/-- The runtime's answer to whether a context's authority is still valid. -/
def validateExecutionContext (current : Bool) : Py Unit :=
  raiseIf (current = false) "runtime_authority_invalid"

namespace ExecutionContext

def applicationId (context : ExecutionContext) : String := context.identity.applicationId

def operationSetDigest (context : ExecutionContext) : String :=
  context.identity.values.operationSetDigest

/-- The starting point of an application. -/
def initialProgress (now : Instant) : ExecutionProgress where
  state := .pending
  nextOperationIndex := 0
  ownerId := none
  currentAttemptId := none
  recoveryCode := none
  operationReceiptRefs := []
  updatedAt := now
  completedAt := none

/-- A state of this application that no earlier state constrains. -/
def newExecutionState (context : ExecutionContext) (current : Bool) (values : ExecutionProgress)
    (startedAt : Instant) (orchestrationPolicy : Option String) :
    Py ApplicationExecutionState := do
  validateExecutionContext current
  ApplicationExecutionState.make
    { values with
      applicationId := context.identity.applicationId
      identity := context.identity
      startedAt, orchestrationPolicy, stateDigest := ""
      continuityAnchor := context.continuityAnchor }

/-- Continue a stored state: identity, anchor, start, and policy cannot change. -/
def continueExecutionState (context : ExecutionContext) (current : Bool)
    (historical : ApplicationExecutionState) (values : ExecutionProgress) :
    Py ApplicationExecutionState := do
  validateExecutionContext current
  raiseIf (historical.verifyIntegrity = false) "historical_execution_invalid"
  raiseIf (historical.identity ≠ context.identity ∨
    historical.applicationId ≠ context.identity.applicationId ∨
    historical.continuityAnchor ≠ context.continuityAnchor) "credential_continuity_mismatch"
  ApplicationExecutionState.make
    { values with
      applicationId := historical.applicationId
      identity := context.identity
      startedAt := historical.startedAt
      continuityAnchor := context.continuityAnchor
      orchestrationPolicy := historical.orchestrationPolicy
      stateDigest := "" }

def newAttempt (context : ExecutionContext) (current : Bool) (index : Nat)
    (values : AttemptProgress) (startedAt : Instant) : Py OperationAttemptState := do
  validateExecutionContext current
  let operation ← orRaise context.expectedOperations[index]? .indexError
  let opId := operationIdentity context.identity.applicationId index operation
  OperationAttemptState.make
    { values with
      applicationId := context.identity.applicationId
      operationIdentity := opId
      operationIndex := index
      operation, startedAt
      authorityBinding := context.provenance
      driverIdentity := context.authority.driverIdentity
      remoteAuthority := context.authority.remoteAuthority
      requestIdentity := requestIdentity opId
      identity := context.identity
      attemptDigest := "" }

/-- Continue a stored attempt, whose own authority must have this anchor. -/
def continueAttempt (context : ExecutionContext) (current : Bool)
    (historical : OperationAttemptState) (values : AttemptProgress) :
    Py OperationAttemptState := do
  validateExecutionContext current
  raiseIf (historical.verifyIntegrity = false) "historical_attempt_invalid"
  raiseIf (historical.identity ≠ context.identity ∨
    historical.applicationId ≠ context.identity.applicationId ∨
    context.expectedOperations[historical.operationIndex]? ≠ some historical.operation ∨
    historical.operationIdentity ≠ operationIdentity context.identity.applicationId
      historical.operationIndex historical.operation ∨
    historical.requestIdentity ≠ requestIdentity historical.operationIdentity)
    "operation_attempt_binding_invalid"
  let old := historical.authorityBinding
  let oldAnchor ← CredentialContinuityAnchor.ofCredential old.credentialPrincipalIdentity
    old.issuerId old.credentialInstanceId
  raiseIf (oldAnchor ≠ context.continuityAnchor ∨
    historical.driverIdentity ≠ context.authority.driverIdentity ∨
    historical.remoteAuthority ≠ context.authority.remoteAuthority)
    "credential_continuity_mismatch"
  OperationAttemptState.make
    { historical.toAttemptFields with
      toAttemptProgress := values, identity := context.identity, attemptDigest := "" }

def newReceipt (context : ExecutionContext) (current : Bool) (index : Nat)
    (remoteResult : RemoteResult) (startedAt completedAt : Instant) : Py OperationReceipt := do
  validateExecutionContext current
  let operation ← orRaise context.expectedOperations[index]? .indexError
  let opId := operationIdentity context.identity.applicationId index operation
  let receipt ← OperationReceipt.make
    { operationReceiptId := operationReceiptId opId
      applicationId := context.identity.applicationId
      identity := context.identity
      operationIdentity := opId
      operationIndex := index
      canonicalOperation := operation
      requestIdentity := requestIdentity opId
      authorityBinding := context.provenance
      remoteResult, startedAt, completedAt, receiptDigest := "" }
  pure receipt.withDigest

def newApplicationReceiptFromRefs (context : ExecutionContext) (current : Bool)
    (refs : List OperationReceiptRef) (startedAt completedAt : Instant) :
    Py ApplicationReceipt := do
  validateExecutionContext current
  let receipt ← ApplicationReceipt.make
    { applicationReceiptId := applicationReceiptId context.identity.applicationId
      applicationId := context.identity.applicationId
      identity := context.identity
      operationSetDigest := context.operationSetDigest
      operationReceiptRefs := refs
      status := "Applied"
      startedAt, completedAt, receiptDigest := "" }
  pure receipt.withDigest

end ExecutionContext

/-! ## Whose authority a record may carry -/

/-- `_authority_binding_matches_execution`. -/
def authorityBindingMatchesExecution (binding : AuthorityProvenance)
    (identity : LogicalApplicationIdentity) (anchor : CredentialContinuityAnchor)
    (applicationId : String) : Bool :=
  binding.applicationId = applicationId &&
    binding.githubSubjectIdentity = identity.values.githubSubjectIdentity &&
    binding.driverIdentity = identity.values.driverIdentity &&
    binding.remoteAuthority = identity.values.remoteAuthority &&
    match anchor with
    | .principal p => binding.credentialPrincipalIdentity = p
    | .legacyInstance issuer inst =>
        binding.issuerId = issuer && binding.credentialInstanceId = inst

theorem provenance_fields (context : ExecutionContext) :
    context.provenance =
      { authorityId := context.authority.authorityId
        credentialBindingId := context.authority.credentialBindingId
        credentialInstanceId := context.authority.credentialInstanceId
        issuerId := context.authority.issuerId
        credentialPrincipalIdentity := context.authority.credentialPrincipalIdentity
        githubSubjectIdentity := context.authority.githubSubjectIdentity
        issuedAt := context.authority.issuedAt
        expiresAt := context.authority.expiresAt
        driverIdentity := context.authority.driverIdentity
        remoteAuthority := context.authority.remoteAuthority
        applicationId := context.identity.applicationId } := by
  have hprovenance := context.provenance_eq
  simp only [AuthorityProvenance.fromLiveAuthority] at hprovenance
  split_ifs at hprovenance
  exact (Except.ok.inj hprovenance).symm

/-- A context's provenance is one its own identity and anchor accept. -/
theorem provenance_matches (context : ExecutionContext) :
    authorityBindingMatchesExecution context.provenance context.identity
      context.continuityAnchor context.identity.applicationId = true := by
  have hvalues := fromAuthority_values context.identity_eq
  have hanchor := context.anchor_eq
  rw [provenance_fields]
  simp only [CredentialContinuityAnchor.fromAuthority,
    CredentialContinuityAnchor.ofCredential] at hanchor
  split_ifs at hanchor <;> rw [← Except.ok.inj hanchor] <;>
    simp [authorityBindingMatchesExecution, hvalues, ApplicationAuthority.binding]

/-- A context's provenance has the context's own anchor. -/
theorem provenance_anchor (context : ExecutionContext) :
    CredentialContinuityAnchor.ofCredential context.provenance.credentialPrincipalIdentity
      context.provenance.issuerId context.provenance.credentialInstanceId =
      .ok context.continuityAnchor := by
  rw [provenance_fields]
  exact context.anchor_eq

/-- A created context runs the operations of the Preview it was created from. -/
theorem createExecutionContext_operations {authority : ApplicationAuthority}
    {canonicalPreview : Value} {context : ExecutionContext}
    (h : createExecutionContext authority canonicalPreview = .ok context) :
    ∃ canonical, canonicalPreview = .dict canonical ∧
      executionOperations canonical = .ok context.expectedOperations ∧
      context.authority = authority := by
  simp only [createExecutionContext, bind_eq_ok, orRaise_eq_ok, raiseIf_eq_ok, pure_eq_ok] at h
  obtain ⟨canonical, hcanonical, ⟨operations, hoperations⟩, -, ⟨identity, _⟩, -, _, -,
    ⟨anchor, _⟩, -, bindings, -, items, -, ⟨provenance, _⟩, -, rfl⟩ := h
  cases canonicalPreview <;> simp [Value.mapping?] at hcanonical
  exact ⟨_, rfl, hcanonical ▸ hoperations, rfl⟩

/-- A created context holds the version, bindings, and snapshot of its Preview. -/
theorem createExecutionContext_spec {authority : ApplicationAuthority} {canonical : Dict}
    {context : ExecutionContext}
    (h : createExecutionContext authority (.dict canonical) = .ok context) :
    executionOperations canonical = .ok context.expectedOperations ∧
      context.canonicalVersion = canonical.get "canonical_version" ∧
      (getOr canonical "existing_endpoint_bindings" (.list [])).sequence? =
        some context.existingEndpointBindings ∧
      context.remoteSnapshot = canonical.get "remote_snapshot" := by
  simp only [createExecutionContext, bind_eq_ok, orRaise_eq_ok, raiseIf_eq_ok, pure_eq_ok,
    Value.mapping?, Option.some.injEq] at h
  obtain ⟨_, rfl, ⟨operations, hoperations⟩, -, ⟨identity, _⟩, -, _, -, ⟨anchor, _⟩, -, bindings,
    hbindings, items, -, ⟨provenance, _⟩, -, rfl⟩ := h
  exact ⟨hoperations, rfl, hbindings, rfl⟩

/-! ## A small application

One work item and its creation, for concrete runs. -/

def sampleAuthority : ApplicationAuthority where
  authorityId := "application-authority-1"
  workspaceIdentity := "workspace-1"
  repositoryIdentity := "acme/widgets"
  previewId := "preview-1"
  revision := 1
  sealedPreviewDigest := "sha256:sealed"
  planDigest := "sha256:plan"
  operationSetDigest := "sha256:operations"
  remoteSnapshotDigest := "sha256:snapshot"
  auditId := "audit-1"
  auditDigest := "sha256:audit"
  approvalId := "approval-1"
  approvalDigest := "sha256:approval"
  credentialBindingId := "binding-1"
  credentialInstanceId := "instance-1"
  issuerId := "issuer-1"
  credentialPrincipalIdentity := "principal-1"
  githubSubjectIdentity := "subject-1"
  driverIdentity := "driver-1"
  remoteAuthority := "https://api.github.com"
  requiredCapabilities := ["issues:write"]
  grantedCapabilities := ["issues:write"]
  issuedAt := "2026-01-01T00:00:00Z"
  expiresAt := "2026-01-02T00:00:00Z"

def sampleIdentity : LogicalApplicationIdentity := ⟨sampleAuthority.binding, by decide⟩

def sourcedField (value : Value) : Value :=
  .dict [("value", value), ("declared_source", .str "plan"),
    ("provenance_status", .str "declared_unverified")]

def sampleItem : Dict :=
  [("client_ref", .str "A"), ("role", sourcedField (.str "task")),
    ("title", sourcedField (.str "First")), ("context_problem", sourcedField (.str "c")),
    ("outcome", sourcedField (.str "o")), ("scope", sourcedField (.str "s")),
    ("non_goals", sourcedField (.list [])), ("acceptance_criteria", sourcedField (.list [])),
    ("verification", sourcedField (.str "v")), ("required_capabilities", sourcedField (.list [])),
    ("write_metadata", sourcedField (.dict []))]

def sampleContext : ExecutionContext where
  authority := sampleAuthority
  identity := sampleIdentity
  continuityAnchor := .principal "principal-1"
  provenance :=
    { authorityId := "application-authority-1"
      credentialBindingId := "binding-1"
      credentialInstanceId := "instance-1"
      issuerId := "issuer-1"
      credentialPrincipalIdentity := "principal-1"
      githubSubjectIdentity := "subject-1"
      issuedAt := "2026-01-01T00:00:00Z"
      expiresAt := "2026-01-02T00:00:00Z"
      driverIdentity := "driver-1"
      remoteAuthority := "https://api.github.com"
      applicationId := sampleIdentity.applicationId }
  expectedOperations := [createOperation "A"]
  canonicalVersion := .null
  existingEndpointBindings := []
  remoteSnapshot := .null
  items := [sampleItem]
  identity_eq := by decide
  anchor_eq := by decide
  provenance_eq := by
    have hid : sampleIdentity.applicationId ≠ "" := append_ne_empty (by decide)
    unfold AuthorityProvenance.fromLiveAuthority
    rw [if_pos]
    · rfl
    · simp [AuthorityProvenance.Valid, sampleAuthority, hid]
  canonical := by decide

end
end DeliverySystem.ExecutionContexts

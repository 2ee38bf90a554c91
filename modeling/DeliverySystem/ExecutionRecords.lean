import DeliverySystem.ApplicationIdentity

/-!
# Durable execution records

The execution state of an application, the attempt of one operation, and the
receipts that close them. Each record is a structure of fields together with
the checks its constructor makes, so that a value of the type has passed them;
`make` runs the checks in the source's order and raises its codes. A record
read back from a row is the record that was written.

Every record carries a digest of its payload. Digests are recomputed, never
trusted: `verifyIntegrity` compares the stored one with a fresh one.
-/
namespace DeliverySystem.ExecutionRecords
open PythonValues WriteOperations ApplicationIdentity
set_option autoImplicit false

/-- State names of applications and attempts; an attempt is never `PartiallyApplied`. -/
inductive StateName where
  | pending
  | applying
  | partiallyApplied
  | failed
  | blocked
  | outcomeUnknown
  | applied
deriving Repr, DecidableEq

def StateName.text : StateName → String
  | .pending => "Pending"
  | .applying => "Applying"
  | .partiallyApplied => "PartiallyApplied"
  | .failed => "Failed"
  | .blocked => "Blocked"
  | .outcomeUnknown => "OutcomeUnknown"
  | .applied => "Applied"

/-- The states a claimed operation is settled into without a receipt. -/
def StateName.Settled (s : StateName) : Prop := s = .failed ∨ s = .blocked ∨ s = .outcomeUnknown

instance (s : StateName) : Decidable s.Settled := inferInstanceAs (Decidable (_ ∨ _ ∨ _))

/-- The states in which the operation at the next index has an attempt row. -/
def StateName.Attempting (s : StateName) : Prop := s = .applying ∨ s.Settled

instance (s : StateName) : Decidable s.Attempting := inferInstanceAs (Decidable (_ ∨ _))

def applierOrchestrationPolicy : String := "delivery-system:applier-orchestration-v1"

structure AuthorityProvenance where
  authorityId : String
  credentialBindingId : String
  credentialInstanceId : String
  issuerId : String
  credentialPrincipalIdentity : String
  githubSubjectIdentity : String
  issuedAt : String
  expiresAt : String
  driverIdentity : String
  remoteAuthority : String
  applicationId : String
deriving Repr, DecidableEq

def AuthorityProvenance.toDict (p : AuthorityProvenance) : Value :=
  .dict [("domain", .str "delivery-system:authority-provenance:v1"),
    ("authority_id", .str p.authorityId), ("credential_binding_id", .str p.credentialBindingId),
    ("credential_instance_id", .str p.credentialInstanceId), ("issuer_id", .str p.issuerId),
    ("credential_principal_identity", .str p.credentialPrincipalIdentity),
    ("github_subject_identity", .str p.githubSubjectIdentity), ("issued_at", .str p.issuedAt),
    ("expires_at", .str p.expiresAt), ("driver_identity", .str p.driverIdentity),
    ("remote_authority", .str p.remoteAuthority), ("application_id", .str p.applicationId)]

/-- `_from_source` lets only the principal be empty. -/
def AuthorityProvenance.Valid (p : AuthorityProvenance) : Prop :=
  ∀ text ∈ [p.authorityId, p.credentialBindingId, p.credentialInstanceId, p.issuerId,
    p.githubSubjectIdentity, p.issuedAt, p.expiresAt, p.driverIdentity, p.remoteAuthority,
    p.applicationId], text ≠ ""

instance (p : AuthorityProvenance) : Decidable p.Valid :=
  inferInstanceAs (Decidable (∀ _ ∈ _, _))

section
variable [PythonLibrary]

def AuthorityProvenance.fromLiveAuthority (a : ApplicationAuthority)
    (identity : LogicalApplicationIdentity) : Py AuthorityProvenance :=
  let p : AuthorityProvenance :=
    { authorityId := a.authorityId
      credentialBindingId := a.credentialBindingId
      credentialInstanceId := a.credentialInstanceId
      issuerId := a.issuerId
      credentialPrincipalIdentity := a.credentialPrincipalIdentity
      githubSubjectIdentity := a.githubSubjectIdentity
      issuedAt := a.issuedAt
      expiresAt := a.expiresAt
      driverIdentity := a.driverIdentity
      remoteAuthority := a.remoteAuthority
      applicationId := identity.applicationId }
  if p.Valid then .ok p else .error (.valueError "authority_provenance_invalid")

/-! ## The execution state of an application -/

/-- The fields a later state may change. -/
structure ExecutionProgress where
  state : StateName
  nextOperationIndex : Nat
  ownerId : Option String
  currentAttemptId : Option String
  recoveryCode : Option String
  operationReceiptRefs : List String
  updatedAt : Instant
  completedAt : Option Instant
deriving Repr, DecidableEq

structure ExecutionFields extends ExecutionProgress where
  applicationId : String
  identity : LogicalApplicationIdentity
  startedAt : Instant
  continuityAnchor : CredentialContinuityAnchor
  orchestrationPolicy : Option String
  stateDigest : String
deriving Repr, DecidableEq

structure ExecutionFields.Valid (f : ExecutionFields) : Prop where
  application : f.applicationId = f.identity.applicationId
  policy : f.orchestrationPolicy = none ∨
    f.orchestrationPolicy = some applierOrchestrationPolicy
  refs : (∀ ref ∈ f.operationReceiptRefs, ref ≠ "") ∧ f.operationReceiptRefs.Nodup
  coordination : f.state = .pending ∨ f.state = .partiallyApplied →
    f.ownerId = none ∧ f.currentAttemptId = none

structure ApplicationExecutionState extends ExecutionFields where
  valid : toExecutionFields.Valid
deriving Repr, DecidableEq

/-- The constructor's checks, `__post_init__`. -/
def ApplicationExecutionState.make (f : ExecutionFields) : Py ApplicationExecutionState :=
  if application : f.applicationId = f.identity.applicationId then
    if policy : f.orchestrationPolicy = none ∨
        f.orchestrationPolicy = some applierOrchestrationPolicy then
      if refs : (∀ ref ∈ f.operationReceiptRefs, ref ≠ "") ∧ f.operationReceiptRefs.Nodup then
        if coordination : f.state = .pending ∨ f.state = .partiallyApplied →
            f.ownerId = none ∧ f.currentAttemptId = none then
          .ok ⟨f, application, policy, refs, coordination⟩
        else .error (.valueError "application_coordination_invalid")
      else .error (.valueError "application_state_invalid")
    else .error (.valueError "application_orchestration_policy_invalid")
  else .error (.valueError "application_state_invalid")

theorem make_execution_eq_ok {f : ExecutionFields} {s : ApplicationExecutionState}
    (h : ApplicationExecutionState.make f = .ok s) : s.toExecutionFields = f := by
  unfold ApplicationExecutionState.make at h
  split_ifs at h
  rw [← Except.ok.inj h]

theorem make_execution_of_valid {f : ExecutionFields} (h : f.Valid) :
    ApplicationExecutionState.make f = .ok ⟨f, h⟩ := by
  unfold ApplicationExecutionState.make
  rw [dif_pos h.application, dif_pos h.policy, dif_pos h.refs, dif_pos h.coordination]

def ExecutionFields.payload (f : ExecutionFields) : Value :=
  .dict ([("application_id", .str f.applicationId), ("identity", f.identity.toDict),
    ("state", .str f.state.text), ("next_operation_index", .int f.nextOperationIndex),
    ("owner_id", Value.textOrNone f.ownerId),
    ("current_attempt_id", Value.textOrNone f.currentAttemptId),
    ("recovery_code", Value.textOrNone f.recoveryCode),
    ("operation_receipt_refs", Value.texts f.operationReceiptRefs),
    ("started_at", .timestamp f.startedAt), ("updated_at", .timestamp f.updatedAt),
    ("completed_at", f.completedAt.elim .null .timestamp),
    ("continuity_anchor", f.continuityAnchor.toDict)] ++
    f.orchestrationPolicy.elim [] fun policy => [("orchestration_policy", .str policy)])

namespace ApplicationExecutionState

def withDigest (s : ApplicationExecutionState) : ApplicationExecutionState :=
  { s with
    stateDigest := digest s.payload
    valid := ⟨s.valid.application, s.valid.policy, s.valid.refs, s.valid.coordination⟩ }

def verifyIntegrity (s : ApplicationExecutionState) : Bool :=
  s.stateDigest ≠ "" && s.stateDigest = digest s.payload

@[simp] theorem payload_withDigest (s : ApplicationExecutionState) :
    s.withDigest.payload = s.payload := rfl

@[simp] theorem verifyIntegrity_withDigest (s : ApplicationExecutionState) :
    s.withDigest.verifyIntegrity = true := by
  have hdigest : s.withDigest.stateDigest = digest s.payload := rfl
  simp [verifyIntegrity, hdigest, digest_ne_empty]

end ApplicationExecutionState

/-! ## The attempt of one operation -/

structure AttemptProgress where
  state : StateName
  updatedAt : Instant
  failureCode : Option String
deriving Repr, DecidableEq

structure AttemptFields extends AttemptProgress where
  applicationId : String
  operationIdentity : String
  operationIndex : Nat
  operation : WriteOperation
  authorityBinding : AuthorityProvenance
  driverIdentity : String
  remoteAuthority : String
  requestIdentity : String
  startedAt : Instant
  identity : LogicalApplicationIdentity
  attemptDigest : String
deriving Repr, DecidableEq

structure AttemptFields.Valid (f : AttemptFields) : Prop where
  canonical : f.operation.Canonical
  binding : f.applicationId = f.identity.applicationId ∧
    f.operationIdentity =
      ApplicationIdentity.operationIdentity f.applicationId f.operationIndex f.operation ∧
    f.requestIdentity = ApplicationIdentity.requestIdentity f.operationIdentity
  driver : f.driverIdentity = f.authorityBinding.driverIdentity ∧
    f.remoteAuthority = f.authorityBinding.remoteAuthority
  state : f.state ≠ .partiallyApplied

structure OperationAttemptState extends AttemptFields where
  valid : toAttemptFields.Valid
deriving Repr, DecidableEq

def OperationAttemptState.make (f : AttemptFields) : Py OperationAttemptState :=
  if canonical : f.operation.Canonical then
    if binding : f.applicationId = f.identity.applicationId ∧
        f.operationIdentity = operationIdentity f.applicationId f.operationIndex f.operation ∧
        f.requestIdentity = requestIdentity f.operationIdentity then
      if driver : f.driverIdentity = f.authorityBinding.driverIdentity ∧
          f.remoteAuthority = f.authorityBinding.remoteAuthority then
        if state : f.state ≠ .partiallyApplied then
          .ok ⟨f, canonical, binding, driver, state⟩
        else .error (.valueError "operation_attempt_invalid")
      else .error (.valueError "operation_attempt_binding_invalid")
    else .error (.valueError "operation_attempt_binding_invalid")
  else .error (.valueError "write_operation_shape_invalid")

theorem make_attempt_eq_ok {f : AttemptFields} {a : OperationAttemptState}
    (h : OperationAttemptState.make f = .ok a) : a.toAttemptFields = f := by
  unfold OperationAttemptState.make at h
  split_ifs at h
  rw [← Except.ok.inj h]

theorem make_attempt_of_valid {f : AttemptFields} (h : f.Valid) :
    OperationAttemptState.make f = .ok ⟨f, h⟩ := by
  unfold OperationAttemptState.make
  rw [dif_pos h.canonical, dif_pos h.binding, dif_pos h.driver, dif_pos h.state]

def AttemptFields.payload (f : AttemptFields) : Value :=
  .dict [("application_id", .str f.applicationId),
    ("operation_identity", .str f.operationIdentity), ("operation_index", .int f.operationIndex),
    ("operation", f.operation.toDict), ("authority_binding", f.authorityBinding.toDict),
    ("driver_identity", .str f.driverIdentity), ("remote_authority", .str f.remoteAuthority),
    ("request_identity", .str f.requestIdentity), ("state", .str f.state.text),
    ("started_at", .timestamp f.startedAt), ("updated_at", .timestamp f.updatedAt),
    ("identity", f.identity.toDict), ("failure_code", Value.textOrNone f.failureCode)]

namespace OperationAttemptState

def withDigest (a : OperationAttemptState) : OperationAttemptState :=
  { a with
    attemptDigest := digest a.payload
    valid := ⟨a.valid.canonical, a.valid.binding, a.valid.driver, a.valid.state⟩ }

def verifyIntegrity (a : OperationAttemptState) : Bool :=
  a.attemptDigest ≠ "" && a.attemptDigest = digest a.payload

@[simp] theorem verifyIntegrity_withDigest (a : OperationAttemptState) :
    a.withDigest.verifyIntegrity = true := by
  have hdigest : a.withDigest.attemptDigest = digest a.payload := rfl
  have hpayload : a.withDigest.payload = a.payload := rfl
  simp [verifyIntegrity, hdigest, hpayload, digest_ne_empty]

end OperationAttemptState

/-! ## Receipts -/

structure RemoteResult where
  resultKind : String
  resultIdentity : String
  resultDigest : String
  resultPayload : Dict
deriving Repr, DecidableEq

/-- The digest of the payload is recomputed when the result is accepted. -/
def RemoteResult.Valid (r : RemoteResult) : Prop :=
  (r.resultKind ≠ "" ∧ r.resultIdentity ≠ "" ∧ r.resultDigest ≠ "") ∧
    r.resultDigest = digest (.dict r.resultPayload)

instance (r : RemoteResult) : Decidable r.Valid := inferInstanceAs (Decidable (_ ∧ _))

def RemoteResult.toDict (r : RemoteResult) : Value :=
  .dict [("result_kind", .str r.resultKind), ("result_identity", .str r.resultIdentity),
    ("result_digest", .str r.resultDigest), ("result_payload", .dict r.resultPayload)]

def operationReceiptId (operationIdentity : String) : String :=
  "operation-receipt-" ++ PythonLibrary.hexdigest
    (.dict [("domain", .str "delivery-system:operation-receipt-id:v1"),
      ("operation_identity", .str operationIdentity)])

structure ReceiptFields where
  operationReceiptId : String
  applicationId : String
  identity : LogicalApplicationIdentity
  operationIdentity : String
  operationIndex : Nat
  canonicalOperation : WriteOperation
  requestIdentity : String
  authorityBinding : AuthorityProvenance
  remoteResult : RemoteResult
  startedAt : Instant
  completedAt : Instant
  receiptDigest : String
deriving Repr, DecidableEq

structure ReceiptFields.Valid (f : ReceiptFields) : Prop where
  canonical : f.canonicalOperation.Canonical
  result : f.remoteResult.Valid
  binding : f.applicationId = f.identity.applicationId ∧
    f.authorityBinding.applicationId = f.identity.applicationId ∧
    f.operationIdentity = ApplicationIdentity.operationIdentity f.applicationId f.operationIndex
      f.canonicalOperation
  request : f.requestIdentity = ApplicationIdentity.requestIdentity f.operationIdentity
  receiptId : f.operationReceiptId = ExecutionRecords.operationReceiptId f.operationIdentity

structure OperationReceipt extends ReceiptFields where
  valid : toReceiptFields.Valid
deriving Repr, DecidableEq

def OperationReceipt.make (f : ReceiptFields) : Py OperationReceipt :=
  if canonical : f.canonicalOperation.Canonical then
    if result : f.remoteResult.Valid then
      if binding : f.applicationId = f.identity.applicationId ∧
          f.authorityBinding.applicationId = f.identity.applicationId ∧
          f.operationIdentity =
            operationIdentity f.applicationId f.operationIndex f.canonicalOperation then
        if request : f.requestIdentity = requestIdentity f.operationIdentity then
          if receiptId : f.operationReceiptId = operationReceiptId f.operationIdentity then
            .ok ⟨f, canonical, result, binding, request, receiptId⟩
          else .error (.valueError "operation_receipt_invalid")
        else .error (.valueError "operation_receipt_binding_invalid")
      else .error (.valueError "operation_receipt_binding_invalid")
    else .error (.valueError "remote_result_invalid")
  else .error (.valueError "write_operation_shape_invalid")

theorem make_receipt_eq_ok {f : ReceiptFields} {r : OperationReceipt}
    (h : OperationReceipt.make f = .ok r) : r.toReceiptFields = f := by
  unfold OperationReceipt.make at h
  split_ifs at h
  rw [← Except.ok.inj h]

theorem make_receipt_of_valid {f : ReceiptFields} (h : f.Valid) :
    OperationReceipt.make f = .ok ⟨f, h⟩ := by
  unfold OperationReceipt.make
  rw [dif_pos h.canonical, dif_pos h.result, dif_pos h.binding, dif_pos h.request,
    dif_pos h.receiptId]

def ReceiptFields.payload (f : ReceiptFields) : Value :=
  .dict [("operation_receipt_id", .str f.operationReceiptId),
    ("application_id", .str f.applicationId), ("identity", f.identity.toDict),
    ("operation_identity", .str f.operationIdentity), ("operation_index", .int f.operationIndex),
    ("canonical_operation", f.canonicalOperation.toDict),
    ("request_identity", .str f.requestIdentity),
    ("authority_binding", f.authorityBinding.toDict), ("remote_result", f.remoteResult.toDict),
    ("started_at", .timestamp f.startedAt), ("completed_at", .timestamp f.completedAt)]

namespace OperationReceipt

def withDigest (r : OperationReceipt) : OperationReceipt :=
  { r with
    receiptDigest := digest r.payload
    valid := ⟨r.valid.canonical, r.valid.result, r.valid.binding, r.valid.request,
      r.valid.receiptId⟩ }

def verifyIntegrity (r : OperationReceipt) : Bool :=
  r.receiptDigest ≠ "" && r.receiptDigest = digest r.payload

@[simp] theorem verifyIntegrity_withDigest (r : OperationReceipt) :
    r.withDigest.verifyIntegrity = true := by
  have hdigest : r.withDigest.receiptDigest = digest r.payload := rfl
  have hpayload : r.withDigest.payload = r.payload := rfl
  simp [verifyIntegrity, hdigest, hpayload, digest_ne_empty]

theorem operationReceiptId_ne_empty (r : OperationReceipt) : r.operationReceiptId ≠ "" := by
  rw [r.valid.receiptId]
  exact append_ne_empty (by decide)

end OperationReceipt

/-- How an application receipt names one operation receipt. -/
structure OperationReceiptRef where
  operationReceiptId : String
  operationReceiptDigest : String
deriving Repr, DecidableEq

def OperationReceipt.ref (r : OperationReceipt) : OperationReceiptRef :=
  { operationReceiptId := r.operationReceiptId, operationReceiptDigest := r.receiptDigest }

def OperationReceiptRef.toDict (r : OperationReceiptRef) : Value :=
  .dict [("operation_receipt_id", .str r.operationReceiptId),
    ("operation_receipt_digest", .str r.operationReceiptDigest)]

def applicationReceiptId (applicationId : String) : String :=
  "application-receipt-" ++ PythonLibrary.hexdigest
    (.dict [("domain", .str "delivery-system:application-receipt-id:v1"),
      ("application_id", .str applicationId)])

structure ApplicationReceiptFields where
  applicationReceiptId : String
  applicationId : String
  identity : LogicalApplicationIdentity
  operationSetDigest : String
  operationReceiptRefs : List OperationReceiptRef
  status : String
  startedAt : Instant
  completedAt : Instant
  receiptDigest : String
deriving Repr, DecidableEq

structure ApplicationReceiptFields.Valid (f : ApplicationReceiptFields) : Prop where
  binding : f.applicationId = f.identity.applicationId ∧ f.operationSetDigest ≠ ""
  receipt : f.applicationReceiptId = ExecutionRecords.applicationReceiptId f.applicationId ∧
    f.status = "Applied" ∧ f.operationReceiptRefs ≠ []
  refs : f.operationReceiptRefs.Nodup ∧ ∀ ref ∈ f.operationReceiptRefs,
    ref.operationReceiptId ≠ "" ∧ ref.operationReceiptDigest ≠ ""

structure ApplicationReceipt extends ApplicationReceiptFields where
  valid : toApplicationReceiptFields.Valid
deriving Repr, DecidableEq

def ApplicationReceipt.make (f : ApplicationReceiptFields) : Py ApplicationReceipt :=
  if binding : f.applicationId = f.identity.applicationId ∧ f.operationSetDigest ≠ "" then
    if receipt : f.applicationReceiptId = applicationReceiptId f.applicationId ∧
        f.status = "Applied" ∧ f.operationReceiptRefs ≠ [] then
      if refs : f.operationReceiptRefs.Nodup ∧ ∀ ref ∈ f.operationReceiptRefs,
          ref.operationReceiptId ≠ "" ∧ ref.operationReceiptDigest ≠ "" then
        .ok ⟨f, binding, receipt, refs⟩
      else .error (.valueError "application_receipt_invalid")
    else .error (.valueError "application_receipt_invalid")
  else .error (.valueError "application_receipt_binding_invalid")

theorem make_applicationReceipt_eq_ok {f : ApplicationReceiptFields} {r : ApplicationReceipt}
    (h : ApplicationReceipt.make f = .ok r) : r.toApplicationReceiptFields = f := by
  unfold ApplicationReceipt.make at h
  split_ifs at h
  rw [← Except.ok.inj h]

theorem make_applicationReceipt_of_valid {f : ApplicationReceiptFields} (h : f.Valid) :
    ApplicationReceipt.make f = .ok ⟨f, h⟩ := by
  unfold ApplicationReceipt.make
  rw [dif_pos h.binding, dif_pos h.receipt, dif_pos h.refs]

def ApplicationReceiptFields.payload (f : ApplicationReceiptFields) : Value :=
  .dict [("application_receipt_id", .str f.applicationReceiptId),
    ("application_id", .str f.applicationId), ("identity", f.identity.toDict),
    ("operation_set_digest", .str f.operationSetDigest),
    ("operation_receipt_refs", .list (f.operationReceiptRefs.map OperationReceiptRef.toDict)),
    ("status", .str f.status), ("started_at", .timestamp f.startedAt),
    ("completed_at", .timestamp f.completedAt)]

namespace ApplicationReceipt

def withDigest (r : ApplicationReceipt) : ApplicationReceipt :=
  { r with
    receiptDigest := digest r.payload
    valid := ⟨r.valid.binding, r.valid.receipt, r.valid.refs⟩ }

def verifyIntegrity (r : ApplicationReceipt) : Bool :=
  r.status = "Applied" && r.receiptDigest ≠ "" && r.receiptDigest = digest r.payload

@[simp] theorem verifyIntegrity_withDigest (r : ApplicationReceipt) :
    r.withDigest.verifyIntegrity = true := by
  have hdigest : r.withDigest.receiptDigest = digest r.payload := rfl
  have hpayload : r.withDigest.payload = r.payload := rfl
  have hstatus : r.withDigest.status = "Applied" := r.valid.receipt.2.1
  simp [verifyIntegrity, hdigest, hpayload, hstatus, digest_ne_empty]

end ApplicationReceipt
end
end DeliverySystem.ExecutionRecords

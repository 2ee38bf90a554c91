import DeliverySystem.IssueCommands
import DeliverySystem.WriteOperationRepeats

/-!
# Operands of a postcondition observation

When the outcome of a relationship is unknown, the observer asks the remote
whether the relationship exists now. It first resolves the two operands again,
from the stored Preview and the stored receipts. It has no command to look at,
and it does not use the code that made the command.

The observer takes a reference for a tagged V2 endpoint when its text says so,
and it wants the identity of a result to be spelled from its node.
-/
namespace DeliverySystem.PostconditionObservation
open PythonValues WriteOperations ApplicationIdentity ExecutionRecords ExecutionContexts
open KeyedRows ExecutionStore ApplicationStatus IssueCommands
set_option autoImplicit false

/-- One to twenty digits of which the first is not zero: `[1-9][0-9]{0,19}`. -/
def numericIdPattern (text : String) : Bool :=
  match text.toList with
  | [] => false
  | c :: rest => '1' ≤ c && c ≤ '9' && rest.length ≤ 19 && rest.all fun d => '0' ≤ d && d ≤ '9'

/-- The creations of `clientRef` among the operations, with their indices. -/
def createMatches (operations : List WriteOperation) (clientRef : String) :
    List (WriteOperation × Nat) :=
  operations.zipIdx.filter fun entry => createsRef clientRef entry.1

section
variable [PythonLibrary]

/-! ## What the observer computes -/

def loadReceiptCode (code : String) : String :=
  if code = "operation_receipt_not_found" then code
  else if code ∈ ["receipt_binding_conflict", "application_binding_conflict"] then
    "reconciliation_correlation_invalid"
  else "receipt_integrity_invalid"

def loadOperationReceipt (workspace applicationId operationId : String) (t : Tables) :
    Py OperationReceipt :=
  recode loadReceiptCode (getOperationReceipt workspace applicationId operationId t)

/-- `"github-issue:" + payload["node_id"]` is the identity of the result. -/
def identityNamesNode (remote : RemoteResult) : Bool :=
  match Dict.get remote.resultPayload "node_id" with
  | .str node => remote.resultIdentity = "github-issue:" ++ node
  | _ => false

/-- The issue a receipt names by the four fields of its payload. -/
def issueOf (receipt : OperationReceipt) : Py RemoteIssueReference :=
  let payload := receipt.remoteResult.resultPayload
  RemoteIssueReference.make (Dict.get payload "repository_identity")
    (Dict.get payload "issue_number") (Dict.get payload "numeric_issue_id")
    (Dict.get payload "node_id")

/-- The issue that a stored receipt of a creation names. -/
def receiptOperand (receipt : OperationReceipt) (identity : LogicalApplicationIdentity)
    (operationId : String) (operationIndex : Nat) (operation : WriteOperation) :
    Py RemoteIssueReference := do
  let remote := receipt.remoteResult
  let payload := remote.resultPayload
  raiseIf (receipt.applicationId ≠ identity.applicationId ∨ receipt.identity ≠ identity ∨
    receipt.operationIdentity ≠ operationId ∨ receipt.operationIndex ≠ operationIndex ∨
    receipt.canonicalOperation ≠ operation ∨
    receipt.authorityBinding.applicationId ≠ identity.applicationId ∨
    receipt.authorityBinding.driverIdentity ≠ identity.values.driverIdentity ∨
    receipt.authorityBinding.remoteAuthority ≠ identity.values.remoteAuthority)
    "reconciliation_correlation_invalid"
  raiseIf (Dict.get payload "repository_identity" ≠ .str identity.values.repositoryIdentity)
    "repository_identity_mismatch"
  raiseIf (remote.resultKind ≠ "github.create_issue.v1") "reconciliation_correlation_invalid"
  raiseIf (Dict.hasExactly payload createdPayloadFields = false ∨
    positiveInt? (Dict.get payload "issue_number") = none ∨
    (Dict.get payload "numeric_issue_id").text?.any numericIdPattern = false ∨
    presentText? (Dict.get payload "node_id") = none ∨ executorFields payload = false ∨
    identityNamesNode remote = false ∨ remote.resultDigest ≠ digest (.dict payload))
    "receipt_integrity_invalid"
  match issueOf receipt with
  | .error _ => .error (.valueError "receipt_integrity_invalid")
  | .ok reference => pure reference

/-- The issue of the one creation of `clientRef` before the relationship. -/
def observedCreation (identity : LogicalApplicationIdentity) (operations : List WriteOperation)
    (operationIndex : Nat) (t : Tables) (ambiguous clientRef : String) :
    Py RemoteIssueReference :=
  match createMatches (operations.take operationIndex) clientRef with
  | [] => .error (.valueError "operation_receipt_not_found")
  | [(operation, index)] => do
      let operationId := operationIdentity identity.applicationId index operation
      let receipt ← loadOperationReceipt identity.values.workspaceIdentity identity.applicationId
        operationId t
      receiptOperand receipt identity operationId index operation
  | _ => .error (.valueError ambiguous)

/-- The issue of a sealed endpoint binding of the stored Preview. -/
def observedBinding (canonical : Dict) (identity : LogicalApplicationIdentity)
    (endpointRef : String) : Py RemoteIssueReference := do
  let invalid := Raised.valueError "reconciliation_correlation_invalid"
  let bindings ← Value.iterate (getOr canonical "existing_endpoint_bindings" (.list []))
  let binding ← firstEntry "endpoint_ref" (.str endpointRef) bindings
  let snapshot ← orRaise (getOr canonical "remote_snapshot" (.dict [])).mapping? .attributeError
  let entries ← Value.iterate (getOr snapshot "issue_records" (.list []))
  let binding ← orRaise binding invalid
  let record ← firstEntry "issue_id" (Dict.get binding "issue_id") entries
  let record ← orRaise record invalid
  raiseIf (Dict.get binding "remote_record_digest" ≠ .str (digest (.dict record)))
    "reconciliation_correlation_invalid"
  let issueNumber ← Dict.require record "issue_number"
  let numericIssueId ← Dict.require record "numeric_issue_id"
  let issueId ← Dict.require record "issue_id"
  RemoteIssueReference.make (.str identity.values.repositoryIdentity) issueNumber
    (.str (Value.toText numericIssueId)) issueId

def observedEndpoint (canonical : Dict) (identity : LogicalApplicationIdentity)
    (operations : List WriteOperation) (operationIndex : Nat) (t : Tables) (endpoint : Endpoint) :
    Py RemoteIssueReference :=
  match endpoint.endpointType with
  | .workItem => observedCreation identity operations operationIndex t
      "operation_receipt_not_found" endpoint.ref
  | .existingIssue => observedBinding canonical identity endpoint.ref

/-- `resolved[0]` and `resolved[1]`, which must be two issues. -/
def distinctPair (resolved : List RemoteIssueReference) :
    Py (RemoteIssueReference × RemoteIssueReference) := do
  let (first, second) ← firstTwo resolved
  raiseIf (first = second) "reconciliation_correlation_invalid"
  pure (first, second)

/-- `_resolve_operands`, for an operation of the receipt-safe envelope. One
tagged reference is enough to drop the references that carry no tag. -/
def resolveOperands (canonical : Dict) (identity : LogicalApplicationIdentity)
    (operations : List WriteOperation) (operationIndex : Nat) (operation : WriteOperation)
    (t : Tables) : Py (RemoteIssueReference × RemoteIssueReference) := do
  let refs := operation.clientRefs
  if refs.any fun ref => (taggedEndpoint? ref).isSome then
    let operands := refs.filterMap taggedEndpoint?
    raiseIf (relationshipKinds operation.operationKind = none ∨ operands.length ≠ 2)
      "reconciliation_correlation_invalid"
    let resolved ← operands.mapM
      (observedEndpoint canonical identity operations operationIndex t)
    distinctPair resolved
  else
    raiseIf (relationshipKinds operation.operationKind = none ∨ refs.length ≠ 2 ∨
      refs[0]? = refs[1]?) "reconciliation_correlation_invalid"
    let resolved ← refs.mapM (observedCreation identity operations operationIndex t
      "reconciliation_correlation_invalid")
    distinctPair resolved

end
end DeliverySystem.PostconditionObservation

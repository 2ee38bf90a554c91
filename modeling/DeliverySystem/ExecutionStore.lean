import DeliverySystem.ExecutionContexts
import DeliverySystem.KeyedRows

/-!
# Execution tables and their orchestrated transactions

`Tables` are the rows one application has in the four execution tables of its
workspace. Each transaction runs under `BEGIN IMMEDIATE`: it is a function that
either yields the committed tables or raises, and a raise rolls back.

Inside a transaction the runtime validates the authority several times. The
answers are inputs, numbered in the order in which they are asked for; the
capability check is one more.
-/
namespace DeliverySystem.ExecutionStore
open PythonValues WriteOperations ApplicationIdentity ExecutionRecords ExecutionContexts KeyedRows
set_option autoImplicit false

/-- `_require_clock_not_before`. -/
def requireClockNotBefore (candidate : Instant) (prior : List Instant) : Py Unit :=
  raiseIf (∃ value ∈ prior, candidate < value) "execution_clock_invalid"

/-- The owner tokens `execution-owner-` followed by 32 further characters. -/
def ownerToken (ownerId : String) : Bool :=
  "execution-owner-".toList.isPrefixOf ownerId.toList && ownerId.toList.length = 48

def requireOrchestrationCapability (capability : Bool) : Py Unit :=
  raiseIf (capability = false) "applier_orchestration_required"

section
variable [PythonLibrary]

structure Tables where
  execution : Option ApplicationExecutionState
  attempts : Rows String OperationAttemptState
  operationReceipts : Rows String OperationReceipt
  applicationReceipt : Option ApplicationReceipt
deriving DecidableEq

def Tables.empty : Tables :=
  { execution := none, attempts := .empty, operationReceipts := .empty
    applicationReceipt := none }

/-- A receipt minted by a context. One of another context raises
`receipt_binding_conflict` before anything is written. -/
def LiveReceipt (context : ExecutionContext) : Type :=
  { receipt : OperationReceipt // ∃ index remoteResult startedAt completedAt,
    context.newReceipt true index remoteResult startedAt completedAt = .ok receipt }

def requireManaged (state : ApplicationExecutionState) : Py Unit :=
  raiseIf (state.orchestrationPolicy ≠ some applierOrchestrationPolicy)
    "application_orchestration_policy_mismatch"

/-- Create only the pending starting point, or return the state that is there. -/
def createExecutionIfAbsent (capability current : Bool) (tables : Tables)
    (state : ApplicationExecutionState) : Py (Tables × ApplicationExecutionState) := do
  requireOrchestrationCapability capability
  raiseIf (state.state ≠ .pending ∨ state.nextOperationIndex ≠ 0 ∨ state.ownerId ≠ none ∨
    state.currentAttemptId ≠ none ∨ state.recoveryCode ≠ none ∨
    state.operationReceiptRefs ≠ [] ∨ state.completedAt ≠ none)
    "application_initial_state_invalid"
  validateExecutionContext current
  match tables.execution with
  | some existing =>
      raiseIf (existing.verifyIntegrity = false ∨ existing.identity ≠ state.identity ∨
        existing.continuityAnchor ≠ state.continuityAnchor) "application_binding_conflict"
      requireManaged existing
      pure (tables, existing)
  | none => pure ({ tables with execution := some state.withDigest }, state.withDigest)

/-- Claim the next operation together with its durable attempt. -/
def claimNextOperation (capability : Bool) (current : Nat → Bool) (tables : Tables)
    (applicationId expectedDigest : String) (context : ExecutionContext) (ownerId : String)
    (now : Instant) : Py (Tables × ApplicationExecutionState × OperationAttemptState) := do
  requireOrchestrationCapability capability
  raiseIf (ownerToken ownerId = false) "application_coordination_invalid"
  validateExecutionContext (current 0)
  raiseIf (applicationId ≠ context.identity.applicationId) "application_binding_conflict"
  let previous ← orRaise tables.execution (.valueError "application_not_found")
  requireManaged previous
  raiseIf (previous.verifyIntegrity = false ∨ previous.stateDigest ≠ expectedDigest)
    "application_state_stale"
  raiseIf (¬(previous.state = .pending ∨ previous.state = .partiallyApplied) ∨
    previous.ownerId ≠ none ∨ previous.currentAttemptId ≠ none) "application_claim_unavailable"
  raiseIf (context.expectedOperations.length ≤ previous.nextOperationIndex)
    "application_already_complete"
  requireClockNotBefore now [previous.startedAt, previous.updatedAt]
  let attempt ← context.newAttempt (current 1) previous.nextOperationIndex
    { state := .applying, updatedAt := now, failureCode := none } now
  requireClockNotBefore attempt.updatedAt [attempt.startedAt]
  let candidate ← context.continueExecutionState (current 2) previous
    { previous.toExecutionProgress with
      state := .applying
      ownerId := some ownerId
      currentAttemptId := some attempt.operationIdentity
      updatedAt := now }
  validateExecutionContext (current 3)
  validateExecutionContext (current 4)
  let attempts ← orRaise (tables.attempts.insert attempt.operationIdentity attempt.withDigest)
    .integrityError
  pure ({ tables with attempts, execution := some candidate.withDigest },
    candidate.withDigest, attempt.withDigest)

/-- The claim a run must still hold to complete or settle its operation. -/
def requireClaim (previous : ApplicationExecutionState) (attempt : OperationAttemptState)
    (stateDigest attemptId attemptDigest ownerId : String) : Py Unit := do
  requireManaged previous
  raiseIf (previous.verifyIntegrity = false ∨ previous.stateDigest ≠ stateDigest ∨
    previous.state ≠ .applying ∨ previous.ownerId ≠ some ownerId ∨
    previous.currentAttemptId ≠ some attemptId ∨ attempt.verifyIntegrity = false ∨
    attempt.attemptDigest ≠ attemptDigest ∨ attempt.state ≠ .applying)
    "application_claim_stale"

/-- Store the receipt, close the attempt, and advance the application. -/
def completeOperationSuccess (capability : Bool) (current : Nat → Bool) (tables : Tables)
    (applicationId stateDigest attemptId attemptDigest ownerId : String)
    (context : ExecutionContext) (receipt : LiveReceipt context) (now : Instant) :
    Py (Tables × ApplicationExecutionState) := do
  requireOrchestrationCapability capability
  validateExecutionContext (current 0)
  let previous ← orRaise tables.execution (.valueError "application_claim_stale")
  let attempt ← orRaise (tables.attempts.lookup attemptId) (.valueError "application_claim_stale")
  requireClaim previous attempt stateDigest attemptId attemptDigest ownerId
  raiseIf (receipt.val.applicationId ≠ applicationId ∨
    receipt.val.operationIndex ≠ attempt.operationIndex ∨
    receipt.val.operationIdentity ≠ attempt.operationIdentity) "receipt_binding_conflict"
  requireClockNotBefore now
    [previous.startedAt, previous.updatedAt, attempt.startedAt, attempt.updatedAt]
  requireClockNotBefore now [receipt.val.startedAt, receipt.val.completedAt]
  validateExecutionContext (current 1)
  let storedReceipt := receipt.val.withDigest
  let nextAttempt ← context.continueAttempt (current 2) attempt
    { attempt.toAttemptProgress with state := .applied, updatedAt := now }
  let nextState ← context.continueExecutionState (current 3) previous
    { previous.toExecutionProgress with
      state := .partiallyApplied
      nextOperationIndex := previous.nextOperationIndex + 1
      operationReceiptRefs := previous.operationReceiptRefs ++ [storedReceipt.operationReceiptId]
      ownerId := none
      currentAttemptId := none
      updatedAt := now }
  validateExecutionContext (current 4)
  validateExecutionContext (current 5)
  let operationReceipts ← orRaise
    (tables.operationReceipts.insert storedReceipt.operationIdentity storedReceipt) .integrityError
  pure ({ tables with
      operationReceipts
      attempts := tables.attempts.update attemptId nextAttempt.withDigest
      execution := some nextState.withDigest },
    nextState.withDigest)

/-- Close the attempt without a receipt. No clock is compared here. -/
def settleOperation (capability : Bool) (current : Nat → Bool) (tables : Tables)
    (stateDigest attemptId attemptDigest ownerId : String) (context : ExecutionContext)
    (stateName : StateName) (code : String) (now : Instant) :
    Py (Tables × ApplicationExecutionState) := do
  requireOrchestrationCapability capability
  raiseIf (¬stateName.Settled) "application_state_transition_invalid"
  validateExecutionContext (current 0)
  let previous ← orRaise tables.execution (.valueError "application_claim_stale")
  let attempt ← orRaise (tables.attempts.lookup attemptId) (.valueError "application_claim_stale")
  requireClaim previous attempt stateDigest attemptId attemptDigest ownerId
  let nextAttempt ← context.continueAttempt (current 1) attempt
    { state := stateName, updatedAt := now, failureCode := some code }
  let nextState ← context.continueExecutionState (current 2) previous
    { previous.toExecutionProgress with
      state := stateName, ownerId := none, recoveryCode := some code, updatedAt := now }
  validateExecutionContext (current 3)
  validateExecutionContext (current 4)
  pure ({ tables with
      attempts := tables.attempts.update attemptId nextAttempt.withDigest
      execution := some nextState.withDigest },
    nextState.withDigest)

/-- The stored receipt of one operation, as finalization accepts it. -/
def finalReceipt (tables : Tables) (applicationId : String) (now : Instant)
    (entry : WriteOperation × Nat) : Py OperationReceipt := do
  let receipt ← orRaise
    (tables.operationReceipts.lookup (operationIdentity applicationId entry.2 entry.1))
    (.valueError "application_receipt_incomplete")
  raiseIf (receipt.verifyIntegrity = false ∨ receipt.operationIndex ≠ entry.2)
    "application_receipt_integrity_invalid"
  requireClockNotBefore now [receipt.completedAt]
  pure receipt

/-- Close an application all of whose operations have a receipt. -/
def finalizeApplication (capability : Bool) (current : Nat → Bool) (tables : Tables)
    (applicationId stateDigest : String) (context : ExecutionContext) (now : Instant) :
    Py (Tables × ApplicationExecutionState) := do
  requireOrchestrationCapability capability
  validateExecutionContext (current 0)
  let previous ← orRaise tables.execution (.valueError "application_not_found")
  requireManaged previous
  raiseIf (previous.verifyIntegrity = false ∨ previous.stateDigest ≠ stateDigest ∨
    previous.state ≠ .partiallyApplied ∨
    previous.nextOperationIndex ≠ context.expectedOperations.length ∨
    previous.ownerId ≠ none ∨ previous.currentAttemptId ≠ none) "application_finalization_invalid"
  let receipts ← context.expectedOperations.zipIdx.mapM (finalReceipt tables applicationId now)
  requireClockNotBefore now [previous.startedAt, previous.updatedAt]
  let applicationReceipt ← context.newApplicationReceiptFromRefs (current 1)
    (receipts.map OperationReceipt.ref) now now
  validateExecutionContext (current 2)
  let nextState ← context.continueExecutionState (current 3) previous
    { previous.toExecutionProgress with
      state := .applied, completedAt := some now, updatedAt := now }
  validateExecutionContext (current 4)
  match tables.applicationReceipt with
  | some _ => .error .integrityError
  | none =>
      pure ({ tables with
          applicationReceipt := some applicationReceipt
          execution := some nextState.withDigest },
        nextState.withDigest)

end
end DeliverySystem.ExecutionStore

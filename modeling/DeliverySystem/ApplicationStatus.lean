import DeliverySystem.ExecutionStore

/-!
# The application status projection

A status request reads the execution row of an application, its application
receipt, and the receipt and attempt of each operation, every row on its own
connection. A schedule gives the committed tables that each of these reads
sees. Whatever does not fit together is reported as corruption.

The sealed Preview is another read. No execution transaction writes it, and its
validated operations are an input here.
-/
namespace DeliverySystem.ApplicationStatus
open PythonValues WriteOperations ApplicationIdentity ExecutionRecords ExecutionContexts
open KeyedRows ExecutionStore
set_option autoImplicit false

/-- `raise ValueError(f(code))` in an `except ValueError` clause around one call. -/
def recode {α : Type} (f : String → String) : Py α → Py α
  | .error (.valueError code) => .error (.valueError (f code))
  | x => x

@[simp] theorem recode_eq_ok {α : Type} {f : String → String} {x : Py α} {a : α} :
    recode f x = .ok a ↔ x = .ok a := by
  rcases x with (_ | _) | _ <;> simp [recode]

/-- The code stays when it is one of `kept`, else it becomes `other`. -/
def keepOr (kept : List String) (other code : String) : String :=
  if code ∈ kept then code else other

/-- `application-` and sixty-four lowercase hexadecimal digits. -/
def applicationIdText (applicationId : String) : Bool :=
  let text := applicationId.toList
  "application-".toList.isPrefixOf text && text.length = 76 &&
    (text.drop 12).all fun c => c.isDigit || ('a' ≤ c && c ≤ 'f')

section
variable [PythonLibrary]

/-! ## Store reads -/

def loadExecutionState (workspace applicationId : String) (t : Tables) :
    Py ApplicationExecutionState := do
  let state ← orRaise t.execution (.valueError "application_not_found")
  raiseIf (state.applicationId ≠ applicationId ∨
    state.identity.values.workspaceIdentity ≠ workspace) "application_binding_conflict"
  raiseIf (state.verifyIntegrity = false) "state_integrity_invalid"
  pure state

def getAttempt (workspace applicationId operationIdentity : String) (t : Tables) :
    Py OperationAttemptState := do
  let attempt ← orRaise (t.attempts.lookup operationIdentity)
    (.valueError "operation_attempt_not_found")
  raiseIf (attempt.applicationId ≠ applicationId ∨
    attempt.operationIdentity ≠ operationIdentity) "operation_attempt_binding_conflict"
  raiseIf (attempt.identity.values.workspaceIdentity ≠ workspace)
    "operation_attempt_binding_conflict"
  raiseIf (attempt.verifyIntegrity = false) "attempt_integrity_invalid"
  pure attempt

def getOperationReceipt (workspace applicationId operationIdentity : String) (t : Tables) :
    Py OperationReceipt := do
  let receipt ← orRaise (t.operationReceipts.lookup operationIdentity)
    (.valueError "operation_receipt_not_found")
  raiseIf (receipt.applicationId ≠ applicationId ∨
    receipt.operationIdentity ≠ operationIdentity) "receipt_binding_conflict"
  raiseIf (receipt.identity.values.workspaceIdentity ≠ workspace) "workspace_mismatch"
  raiseIf (receipt.verifyIntegrity = false) "receipt_integrity_invalid"
  pure receipt

def getApplicationReceipt (workspace applicationId : String) (t : Tables) :
    Py ApplicationReceipt := do
  let receipt ← orRaise t.applicationReceipt (.valueError "application_receipt_not_found")
  raiseIf (receipt.applicationId ≠ applicationId) "application_binding_conflict"
  raiseIf (receipt.identity.values.workspaceIdentity ≠ workspace) "workspace_mismatch"
  raiseIf (receipt.verifyIntegrity = false) "application_receipt_integrity_invalid"
  pure receipt

/-! ## Reads of one request -/

/-- The reads of the execution tables, in program order. The two replay reads
are made only for an applied application. -/
inductive ReadPoint where
  | bootstrap
  | execution
  | replayApplicationReceipt
  | replayOperationReceipt (index : Nat)
  | applicationReceipt
  | operationReceipt (index : Nat)
  | attempt (index : Nat)
deriving Repr, DecidableEq

/-- The committed tables each read sees. -/
abbrev Schedule := ReadPoint → Tables

/-- The receipts an application receipt must agree with, `validate_against`. -/
def validateAgainst (receipt : ApplicationReceipt) (expected : List WriteOperation)
    (receipts : List OperationReceipt) : Bool :=
  (∀ operation ∈ expected, operation.Canonical) &&
    receipt.operationSetDigest = receipt.identity.values.operationSetDigest &&
    expected.length = receipts.length &&
    receipts.length = receipt.operationReceiptRefs.length &&
    ((expected.zip receipts).zip receipt.operationReceiptRefs).zipIdx.all fun entry =>
      let operation := entry.1.1.1
      let actual := entry.1.1.2
      actual.verifyIntegrity && actual.applicationId = receipt.applicationId &&
        actual.operationIndex = entry.2 &&
        actual.operationIdentity = operationIdentity receipt.applicationId entry.2 operation &&
        actual.canonicalOperation = operation && actual.ref = entry.1.2

/-- One operation receipt of an applied application, as replay accepts it. -/
def replayReceipt (workspace applicationId : String) (read : Schedule)
    (entry : (WriteOperation × OperationReceiptRef) × Nat) : Py OperationReceipt := do
  let receipt ← recode (keepOr ["operation_receipt_not_found"] "receipt_integrity_invalid")
    (getOperationReceipt workspace applicationId
      (operationIdentity applicationId entry.2 entry.1.1)
      (read (.replayOperationReceipt entry.2)))
  raiseIf (receipt.receiptDigest ≠ entry.1.2.operationReceiptDigest ∨
    receipt.verifyIntegrity = false) "application_receipt_integrity_invalid"
  pure receipt

/-- The closure of an applied application must agree with every receipt. -/
def validateReplay (workspace applicationId : String) (read : Schedule)
    (state : ApplicationExecutionState) (expected : List WriteOperation) : Py Unit := do
  let receipt ← getApplicationReceipt workspace applicationId (read .replayApplicationReceipt)
  raiseIf (receipt.verifyIntegrity = false ∨ receipt.applicationId ≠ state.applicationId ∨
    receipt.identity ≠ state.identity) "application_receipt_integrity_invalid"
  raiseIf (receipt.operationReceiptRefs.map (·.operationReceiptId) ≠ state.operationReceiptRefs)
    "application_receipt_integrity_invalid"
  raiseIf (expected.length ≠ receipt.operationReceiptRefs.length)
    "application_receipt_integrity_invalid"
  let receipts ← (expected.zip receipt.operationReceiptRefs).zipIdx.mapM
    (replayReceipt workspace applicationId read)
  raiseIf (receipts.map (·.operationIndex) ≠ List.range receipts.length)
    "application_receipt_integrity_invalid"
  raiseIf (validateAgainst receipt expected receipts = false) "application_replay_binding_invalid"

/-- `get_execution`; without the operations an applied state cannot be replayed. -/
def getExecution (workspace applicationId : String) (read : Schedule)
    (expectedOperations : Option (List WriteOperation)) : Py ApplicationExecutionState := do
  let state ← loadExecutionState workspace applicationId (read .execution)
  if state.state = .applied then
    let expected ← orRaise expectedOperations (.valueError "application_replay_validation_required")
    validateReplay workspace applicationId read state expected
  pure state

/-! ## State invariants -/

/-- Which coordination fields each state name requires. -/
def stateShape (total : Nat) (s : ApplicationExecutionState) : Bool :=
  let completed := s.nextOperationIndex
  match s.state with
  | .pending => completed = 0 && s.ownerId = none && s.currentAttemptId = none &&
      s.recoveryCode = none && s.completedAt = none
  | .applying => completed < total && s.ownerId.getD "" ≠ "" && s.currentAttemptId.getD "" ≠ "" &&
      s.recoveryCode = none && s.completedAt = none
  | .partiallyApplied => 0 < completed && s.ownerId = none && s.currentAttemptId = none &&
      s.recoveryCode = none && s.completedAt = none
  | .failed | .blocked | .outcomeUnknown => completed < total && s.ownerId = none &&
      s.currentAttemptId.getD "" ≠ "" && s.recoveryCode.getD "" ≠ "" && s.completedAt = none
  | .applied => completed = total && s.ownerId = none && s.currentAttemptId = none &&
      s.recoveryCode = none && s.completedAt ≠ none

def validateExecutionStateInvariants (s : ApplicationExecutionState)
    (operations : List WriteOperation) : Py Unit := do
  raiseIf (s.updatedAt < s.startedAt) "state_integrity_invalid"
  raiseIf (s.completedAt.any (· < s.updatedAt)) "state_integrity_invalid"
  raiseIf (operations.length < s.nextOperationIndex ∨
    s.operationReceiptRefs.length ≠ s.nextOperationIndex) "state_integrity_invalid"
  raiseIf (stateShape operations.length s = false) "state_integrity_invalid"

/-! ## Projections -/

structure AttemptProjection where
  operationIdentity : String
  operationIndex : Nat
  state : StateName
  attemptDigest : String
  startedAt : Instant
  updatedAt : Instant
  failureCode : Option String
deriving Repr, DecidableEq

def AttemptProjection.ofAttempt (a : OperationAttemptState) : AttemptProjection where
  operationIdentity := a.operationIdentity
  operationIndex := a.operationIndex
  state := a.state
  attemptDigest := a.attemptDigest
  startedAt := a.startedAt
  updatedAt := a.updatedAt
  failureCode := a.failureCode

def attemptCode (code : String) : String :=
  if code ∈ ["operation_attempt_invalid", "operation_attempt_binding_invalid",
      "operation_attempt_binding_conflict", "attempt_integrity_invalid"] then
    "attempt_integrity_invalid"
  else code

/-- The checks of a stored attempt against the state read before it. -/
def checkAttempt (applicationId : String) (state : ApplicationExecutionState)
    (operation : WriteOperation) (index : Nat) (attempt : OperationAttemptState) :
    Py AttemptProjection := do
  let completed := state.nextOperationIndex
  let operationId := operationIdentity applicationId index operation
  raiseIf (completed < index ∨ attempt.applicationId ≠ applicationId ∨
    attempt.identity ≠ state.identity ∨ attempt.operationIdentity ≠ operationId ∨
    attempt.operation ≠ operation ∨ attempt.requestIdentity ≠ requestIdentity operationId ∨
    attempt.driverIdentity ≠ state.identity.values.driverIdentity ∨
    attempt.remoteAuthority ≠ state.identity.values.remoteAuthority ∨
    authorityBindingMatchesExecution attempt.authorityBinding state.identity
      state.continuityAnchor applicationId = false) "attempt_integrity_invalid"
  raiseIf (state.state = .pending) "state_integrity_invalid"
  raiseIf (completed < index) "state_integrity_invalid"
  raiseIf (attempt.state ≠ (if index < completed then .applied else state.state) ∨
    attempt.operationIndex ≠ index) "state_integrity_invalid"
  raiseIf (index = completed ∧ state.state.Attempting ∧
    state.currentAttemptId ≠ some operationId) "state_integrity_invalid"
  raiseIf (attempt.updatedAt < attempt.startedAt ∨ attempt.startedAt < state.startedAt ∨
    state.updatedAt < attempt.updatedAt) "attempt_integrity_invalid"
  raiseIf (if attempt.state.Settled then attempt.failureCode.getD "" = ""
    else attempt.failureCode ≠ none) "attempt_integrity_invalid"
  pure (.ofAttempt attempt)

/-- The attempt of one operation; only beyond the progress may there be none. -/
def projectAttempt (workspace applicationId : String) (state : ApplicationExecutionState)
    (read : Schedule) (entry : WriteOperation × Nat) : Py (Option AttemptProjection) :=
  let completed := state.nextOperationIndex
  let index := entry.2
  match recode attemptCode (getAttempt workspace applicationId
      (operationIdentity applicationId index entry.1) (read (.attempt index))) with
  | .error e =>
      if e ≠ .valueError "operation_attempt_not_found" ∨ index < completed ∨
          index = completed ∧ state.state.Attempting then .error e
      else pure none
  | .ok attempt => some <$> checkAttempt applicationId state entry.1 index attempt

def projectAttempts (workspace applicationId : String) (state : ApplicationExecutionState)
    (operations : List WriteOperation) (read : Schedule) : Py (List AttemptProjection) := do
  let completed := state.nextOperationIndex
  let total := operations.length
  raiseIf (total < completed ∨ state.operationReceiptRefs.length ≠ completed)
    "state_integrity_invalid"
  raiseIf (state.state.Attempting ∧ total ≤ completed) "state_integrity_invalid"
  raiseIf (¬state.state.Attempting ∧ state.currentAttemptId ≠ none) "state_integrity_invalid"
  let attempts ← operations.zipIdx.mapM (projectAttempt workspace applicationId state read)
  pure attempts.reduceOption

structure OperationReceiptProjection where
  operationReceiptId : String
  receiptDigest : String
  operationIndex : Nat
  startedAt : Instant
  completedAt : Instant
deriving Repr, DecidableEq

def OperationReceiptProjection.ofReceipt (r : OperationReceipt) : OperationReceiptProjection where
  operationReceiptId := r.operationReceiptId
  receiptDigest := r.receiptDigest
  operationIndex := r.operationIndex
  startedAt := r.startedAt
  completedAt := r.completedAt

def receiptCode (code : String) : String :=
  if code ∈ ["operation_receipt_invalid", "operation_receipt_binding_invalid",
      "receipt_binding_conflict", "workspace_mismatch"] then "receipt_integrity_invalid"
  else code

/-- The receipt of a completed operation. -/
def projectOperationReceipt (workspace applicationId : String)
    (state : ApplicationExecutionState) (operations : List WriteOperation) (read : Schedule)
    (index : Nat) : Py OperationReceiptProjection := do
  let operation ← orRaise operations[index]? .indexError
  let operationId := operationIdentity applicationId index operation
  let receipt ← recode receiptCode (getOperationReceipt workspace applicationId operationId
    (read (.operationReceipt index)))
  let ref ← orRaise state.operationReceiptRefs[index]? .indexError
  raiseIf (receipt.applicationId ≠ applicationId ∨ receipt.identity ≠ state.identity ∨
    receipt.operationIdentity ≠ operationId ∨ receipt.canonicalOperation ≠ operation ∨
    receipt.operationIndex ≠ index ∨ receipt.operationReceiptId ≠ ref ∨
    receipt.requestIdentity ≠ requestIdentity operationId ∨
    authorityBindingMatchesExecution receipt.authorityBinding state.identity
      state.continuityAnchor applicationId = false) "receipt_integrity_invalid"
  raiseIf (receipt.completedAt < receipt.startedAt ∨ receipt.startedAt < state.startedAt ∨
    state.updatedAt < receipt.completedAt) "receipt_integrity_invalid"
  pure (.ofReceipt receipt)

/-- Beyond the progress there must be no receipt at all. -/
def requireNoReceipt (workspace applicationId : String) (operations : List WriteOperation)
    (read : Schedule) (index : Nat) : Py Unit := do
  let operation ← orRaise operations[index]? .indexError
  match getOperationReceipt workspace applicationId
      (operationIdentity applicationId index operation) (read (.operationReceipt index)) with
  | .error (.valueError "operation_receipt_not_found") => pure ()
  | _ => .error (.valueError "receipt_integrity_invalid")

def projectOperationReceipts (workspace applicationId : String)
    (state : ApplicationExecutionState) (operations : List WriteOperation) (read : Schedule) :
    Py (List OperationReceiptProjection) := do
  let receipts ← (List.range state.nextOperationIndex).mapM
    (projectOperationReceipt workspace applicationId state operations read)
  (List.range' state.nextOperationIndex (operations.length - state.nextOperationIndex)).forM
    (requireNoReceipt workspace applicationId operations read)
  pure receipts

structure ApplicationReceiptProjection where
  applicationReceiptId : String
  receiptDigest : String
  status : String
  operationReceiptCount : Nat
  startedAt : Instant
  completedAt : Instant
deriving Repr, DecidableEq

def projectApplicationReceipt (receipt : ApplicationReceipt) (state : ApplicationExecutionState) :
    Py ApplicationReceiptProjection := do
  let completedAt ← orRaise state.completedAt (.valueError "application_receipt_integrity_invalid")
  raiseIf (receipt.completedAt < receipt.startedAt ∨ receipt.startedAt < state.startedAt ∨
    completedAt < receipt.completedAt) "application_receipt_integrity_invalid"
  pure
    { applicationReceiptId := receipt.applicationReceiptId
      receiptDigest := receipt.receiptDigest
      status := receipt.status
      operationReceiptCount := receipt.operationReceiptRefs.length
      startedAt := receipt.startedAt
      completedAt := receipt.completedAt }

/-- A missing application receipt is no error here. -/
def loadApplicationReceipt (workspace applicationId : String) (read : Schedule) :
    Py (Option ApplicationReceipt) :=
  match getApplicationReceipt workspace applicationId (read .applicationReceipt) with
  | .ok receipt => pure (some receipt)
  | .error (.valueError "application_receipt_not_found") => pure none
  | .error (.valueError code) => .error (.valueError
      (keepOr ["application_binding_conflict"] "application_receipt_integrity_invalid" code))
  | .error _ => .error (.valueError "application_receipt_integrity_invalid")

/-! ## The request -/

structure StatusProjection where
  applicationId : String
  previewId : String
  revision : Int
  operationSetDigest : String
  state : StateName
  nextOperationIndex : Nat
  completedOperationCount : Nat
  totalOperationCount : Nat
  attemptCount : Nat
  recoveryCode : Option String
  applicationReceipt : Option ApplicationReceiptProjection
  operationReceipts : List OperationReceiptProjection
  attempts : List AttemptProjection
  startedAt : Instant
  updatedAt : Instant
  completedAt : Option Instant
deriving Repr, DecidableEq

def initialCode (code : String) : String :=
  keepOr ["application_not_found", "application_binding_conflict", "state_integrity_invalid",
    "application_replay_validation_required", "application_receipt_not_found"]
    "state_integrity_invalid" code

def executionCode (code : String) : String :=
  if code = "application_replay_binding_invalid" then "application_receipt_integrity_invalid"
  else code

/-- `_load_preview_operations`: the operations of the stored sealed revision. -/
abbrev PreviewOperations := LogicalApplicationIdentity → Py (List WriteOperation)

/-- The receipt belongs to the applied state and to no other. -/
def projectClosure (receipt : Option ApplicationReceipt) (state : ApplicationExecutionState) :
    Py (Option ApplicationReceiptProjection) :=
  if state.state = .applied then do
    let receipt ← orRaise receipt (.valueError "application_receipt_not_found")
    some <$> projectApplicationReceipt receipt state
  else do
    raiseIf (receipt.isSome) "application_receipt_integrity_invalid"
    pure none

def getStatus (workspace : String) (loadPreviewOperations : PreviewOperations)
    (applicationId : String) (read : Schedule) : Py StatusProjection := do
  raiseIf (applicationIdText applicationId = false) "application_id_invalid"
  let bootstrap ← recode initialCode
    (loadExecutionState workspace applicationId (read .bootstrap))
  let identity := bootstrap.identity
  raiseIf (identity.applicationId ≠ applicationId) "application_binding_conflict"
  let operations ← loadPreviewOperations identity
  let state ← recode executionCode
    (getExecution workspace applicationId read (some operations))
  raiseIf (state.applicationId ≠ applicationId ∨ state.identity ≠ identity)
    "application_binding_conflict"
  validateExecutionStateInvariants state operations
  let applicationReceipt ← loadApplicationReceipt workspace applicationId read
  let operationReceipts ←
    projectOperationReceipts workspace applicationId state operations read
  let attempts ← projectAttempts workspace applicationId state operations read
  let closure ← projectClosure applicationReceipt state
  pure
    { applicationId
      previewId := identity.values.previewId
      revision := identity.values.revision
      operationSetDigest := identity.values.operationSetDigest
      state := state.state
      nextOperationIndex := state.nextOperationIndex
      completedOperationCount := operationReceipts.length
      totalOperationCount := operations.length
      attemptCount := attempts.length
      recoveryCode := state.recoveryCode
      applicationReceipt := closure
      operationReceipts
      attempts
      startedAt := state.startedAt
      updatedAt := state.updatedAt
      completedAt := state.completedAt }

/-! ## What a request accepts -/

variable {workspace applicationId : String} {s : ApplicationExecutionState} {t : Tables}
  {read : Schedule}

theorem loadExecutionState_eq_ok :
    loadExecutionState workspace applicationId t = .ok s ↔
      t.execution = some s ∧ s.applicationId = applicationId ∧
        s.identity.values.workspaceIdentity = workspace ∧ s.verifyIntegrity = true := by
  simp only [loadExecutionState, bind_eq_ok, orRaise_eq_ok, raiseIf_eq_ok, pure_eq_ok, not_or,
    ne_eq, not_not, Bool.not_eq_false]
  constructor
  · rintro ⟨_, hs, _, ⟨happ, hworkspace⟩, _, hintact, rfl⟩
    exact ⟨hs, happ, hworkspace, hintact⟩
  · rintro ⟨hs, happ, hworkspace, hintact⟩
    exact ⟨s, hs, (), ⟨happ, hworkspace⟩, (), hintact, rfl⟩

theorem getAttempt_eq_ok {opId : String} {a : OperationAttemptState} :
    getAttempt workspace applicationId opId t = .ok a ↔
      t.attempts.lookup opId = some a ∧ a.applicationId = applicationId ∧
        a.operationIdentity = opId ∧ a.identity.values.workspaceIdentity = workspace ∧
        a.verifyIntegrity = true := by
  simp only [getAttempt, bind_eq_ok, orRaise_eq_ok, raiseIf_eq_ok, pure_eq_ok, not_or, ne_eq,
    not_not, Bool.not_eq_false]
  constructor
  · rintro ⟨_, ha, _, ⟨happ, hid⟩, _, hworkspace, _, hintact, rfl⟩
    exact ⟨ha, happ, hid, hworkspace, hintact⟩
  · rintro ⟨ha, happ, hid, hworkspace, hintact⟩
    exact ⟨a, ha, (), ⟨happ, hid⟩, (), hworkspace, (), hintact, rfl⟩

theorem getOperationReceipt_eq_ok {opId : String} {r : OperationReceipt} :
    getOperationReceipt workspace applicationId opId t = .ok r ↔
      t.operationReceipts.lookup opId = some r ∧ r.applicationId = applicationId ∧
        r.operationIdentity = opId ∧ r.identity.values.workspaceIdentity = workspace ∧
        r.verifyIntegrity = true := by
  simp only [getOperationReceipt, bind_eq_ok, orRaise_eq_ok, raiseIf_eq_ok, pure_eq_ok, not_or,
    ne_eq, not_not, Bool.not_eq_false]
  constructor
  · rintro ⟨_, hr, _, ⟨happ, hid⟩, _, hworkspace, _, hintact, rfl⟩
    exact ⟨hr, happ, hid, hworkspace, hintact⟩
  · rintro ⟨hr, happ, hid, hworkspace, hintact⟩
    exact ⟨r, hr, (), ⟨happ, hid⟩, (), hworkspace, (), hintact, rfl⟩

theorem getApplicationReceipt_eq_ok {r : ApplicationReceipt} :
    getApplicationReceipt workspace applicationId t = .ok r ↔
      t.applicationReceipt = some r ∧ r.applicationId = applicationId ∧
        r.identity.values.workspaceIdentity = workspace ∧ r.verifyIntegrity = true := by
  simp only [getApplicationReceipt, bind_eq_ok, orRaise_eq_ok, raiseIf_eq_ok, pure_eq_ok, ne_eq,
    not_not, Bool.not_eq_false]
  constructor
  · rintro ⟨_, hr, _, happ, _, hworkspace, _, hintact, rfl⟩
    exact ⟨hr, happ, hworkspace, hintact⟩
  · rintro ⟨hr, happ, hworkspace, hintact⟩
    exact ⟨r, hr, (), happ, (), hworkspace, (), hintact, rfl⟩

/-- An attempt row that fits the state at its index. -/
structure AttemptFits (applicationId : String) (s : ApplicationExecutionState)
    (operation : WriteOperation) (index : Nat) (a : OperationAttemptState) : Prop where
  bound : index ≤ s.nextOperationIndex
  identity : a.applicationId = applicationId ∧ a.identity = s.identity
  canonical : a.operationIdentity = operationIdentity applicationId index operation ∧
    a.operation = operation
  request : a.requestIdentity = requestIdentity (operationIdentity applicationId index operation)
  driver : a.driverIdentity = s.identity.values.driverIdentity ∧
    a.remoteAuthority = s.identity.values.remoteAuthority
  authority : authorityBindingMatchesExecution a.authorityBinding s.identity s.continuityAnchor
    applicationId = true
  begun : s.state ≠ .pending
  state : a.state = if index < s.nextOperationIndex then .applied else s.state
  position : a.operationIndex = index
  current : index = s.nextOperationIndex → s.state.Attempting →
    s.currentAttemptId = some (operationIdentity applicationId index operation)
  clock : a.startedAt ≤ a.updatedAt ∧ s.startedAt ≤ a.startedAt ∧ a.updatedAt ≤ s.updatedAt
  failure : if a.state.Settled then a.failureCode.getD "" ≠ "" else a.failureCode = none

theorem checkAttempt_eq_ok {operation : WriteOperation} {index : Nat}
    {a : OperationAttemptState} {p : AttemptProjection} :
    checkAttempt applicationId s operation index a = .ok p ↔
      AttemptFits applicationId s operation index a ∧ p = .ofAttempt a := by
  simp only [checkAttempt, bind_eq_ok, raiseIf_eq_ok, pure_eq_ok]
  constructor
  · rintro ⟨_, hbinding, _, hbegun, _, -, _, hstate, _, hcurrent, _, hclock, _, hfailure, rfl⟩
    push Not at hbinding hstate hcurrent hclock
    obtain ⟨hbound, happ, hidentity, hid, hoperation, hrequest, hdriver, hremote, hauthority⟩ :=
      hbinding
    refine ⟨⟨hbound, ⟨happ, hidentity⟩, ⟨hid, hoperation⟩, hrequest, ⟨hdriver, hremote⟩,
      by simpa using hauthority, hbegun, hstate.1, hstate.2, hcurrent, hclock, ?_⟩, rfl⟩
    split_ifs at hfailure ⊢ with hsettled
    · exact hfailure
    · exact not_not.mp hfailure
  · rintro ⟨h, rfl⟩
    have hfailure := h.failure
    refine ⟨(), ?_, (), h.begun, (), by simpa using h.bound, (), ?_, (), ?_, (), ?_, (), ?_, rfl⟩
    · simp [h.bound, h.identity, h.canonical, h.request, h.driver, h.authority]
    · simp [h.state, h.position]
    · rintro ⟨hindex, hattempting, hne⟩
      exact hne (h.current hindex hattempting)
    · push Not
      exact h.clock
    · split_ifs at hfailure ⊢ with hsettled
      · exact hfailure
      · exact not_not.mpr hfailure

/-- What an unfitting row is reported as. -/
def attemptIntegrityCodes : List String := ["attempt_integrity_invalid", "state_integrity_invalid"]

theorem checkAttempt_raisesOnly {operation : WriteOperation} {index : Nat}
    {a : OperationAttemptState} :
    RaisesOnly attemptIntegrityCodes (checkAttempt applicationId s operation index a) := by
  have hattempt : "attempt_integrity_invalid" ∈ attemptIntegrityCodes := .head _
  have hstate : "state_integrity_invalid" ∈ attemptIntegrityCodes := .tail _ (.head _)
  unfold checkAttempt
  refine bind_raisesOnly (raiseIf_raisesOnly hattempt) fun _ => ?_
  refine bind_raisesOnly (raiseIf_raisesOnly hstate) fun _ => ?_
  refine bind_raisesOnly (raiseIf_raisesOnly hstate) fun _ => ?_
  refine bind_raisesOnly (raiseIf_raisesOnly hstate) fun _ => ?_
  refine bind_raisesOnly (raiseIf_raisesOnly hstate) fun _ => ?_
  refine bind_raisesOnly (raiseIf_raisesOnly hattempt) fun _ => ?_
  exact bind_raisesOnly (raiseIf_raisesOnly hattempt) fun _ => pure_raisesOnly _

/-- A row that does not fit is reported as corruption. -/
theorem checkAttempt_raises {operation : WriteOperation} {index : Nat}
    {a : OperationAttemptState} (h : ¬AttemptFits applicationId s operation index a) :
    ∃ code ∈ attemptIntegrityCodes,
      checkAttempt applicationId s operation index a = .error (.valueError code) := by
  cases hcheck : checkAttempt applicationId s operation index a with
  | ok p => exact absurd (checkAttempt_eq_ok.mp hcheck).1 h
  | error e =>
      obtain ⟨code, hcode, rfl⟩ := checkAttempt_raisesOnly e hcheck
      exact ⟨code, hcode, rfl⟩

/-- Only a missing row is reported as not found. -/
theorem getAttempt_not_found {opId : String} :
    recode attemptCode (getAttempt workspace applicationId opId t) =
      .error (.valueError "operation_attempt_not_found") ↔ t.attempts.lookup opId = none := by
  cases hrow : t.attempts.lookup opId with
  | none => simp [getAttempt, hrow, orRaise, bind, Except.bind, recode, attemptCode]
  | some a =>
      simp only [getAttempt, hrow, orRaise, bind, Except.bind, raiseIf, reduceCtorEq, iff_false]
      split_ifs <;> simp [recode, attemptCode, pure, Except.pure]

/-- At each index the reader accepts a fitting row, or no row where none is due. -/
theorem projectAttempt_eq_ok {entry : WriteOperation × Nat} {x : Option AttemptProjection} :
    projectAttempt workspace applicationId s read entry = .ok x ↔
      ((read (.attempt entry.2)).attempts.lookup
          (operationIdentity applicationId entry.2 entry.1) = none ∧
        ¬(entry.2 < s.nextOperationIndex ∨
          entry.2 = s.nextOperationIndex ∧ s.state.Attempting) ∧ x = none) ∨
      ∃ a, getAttempt workspace applicationId (operationIdentity applicationId entry.2 entry.1)
          (read (.attempt entry.2)) = .ok a ∧
        AttemptFits applicationId s entry.1 entry.2 a ∧ x = some (.ofAttempt a) := by
  rw [← getAttempt_not_found]
  cases hx : recode attemptCode (getAttempt workspace applicationId
      (operationIdentity applicationId entry.2 entry.1) (read (.attempt entry.2))) with
  | error e =>
      have hnot : ∀ a, getAttempt workspace applicationId
          (operationIdentity applicationId entry.2 entry.1) (read (.attempt entry.2)) ≠ .ok a := by
        intro a ha
        rw [← recode_eq_ok, hx] at ha
        cases ha
      simp only [projectAttempt, hx, Except.error.injEq, hnot, false_and, exists_false, or_false]
      split_ifs with hdue
      · rcases hdue with hne | hdue
        · simp [hne]
        · simp [hdue]
      · push Not at hdue
        simp only [pure_eq_ok, hdue.1, true_and, not_or, not_lt, not_and]
        exact ⟨fun h => ⟨hdue.2, h.symm⟩, fun h => h.2.symm⟩
  | ok a =>
      simp only [projectAttempt, hx]
      rw [recode_eq_ok] at hx
      simp only [reduceCtorEq, false_and, false_or, hx, Except.ok.injEq]
      constructor
      · intro h
        simp only [Functor.map, Except.map] at h
        split at h
        · cases h
        · rename_i p hp
          obtain ⟨hfits, rfl⟩ := checkAttempt_eq_ok.mp hp
          exact ⟨a, rfl, hfits, (Except.ok.inj h).symm⟩
      · rintro ⟨_, rfl, hfits, rfl⟩
        have hcheck := checkAttempt_eq_ok.mpr ⟨hfits, rfl⟩
        simp [hcheck]

/-- A receipt row that fits the state at its index. -/
structure ReceiptFits (applicationId : String) (s : ApplicationExecutionState)
    (operation : WriteOperation) (index : Nat) (r : OperationReceipt) : Prop where
  identity : r.applicationId = applicationId ∧ r.identity = s.identity
  canonical : r.operationIdentity = operationIdentity applicationId index operation ∧
    r.canonicalOperation = operation
  position : r.operationIndex = index
  ref : s.operationReceiptRefs[index]? = some r.operationReceiptId
  request : r.requestIdentity = requestIdentity (operationIdentity applicationId index operation)
  authority : authorityBindingMatchesExecution r.authorityBinding s.identity s.continuityAnchor
    applicationId = true
  clock : r.startedAt ≤ r.completedAt ∧ s.startedAt ≤ r.startedAt ∧ r.completedAt ≤ s.updatedAt

theorem projectOperationReceipt_eq_ok {operations : List WriteOperation} {index : Nat}
    {p : OperationReceiptProjection} :
    projectOperationReceipt workspace applicationId s operations read index = .ok p ↔
      ∃ operation r, operations[index]? = some operation ∧
        getOperationReceipt workspace applicationId
          (operationIdentity applicationId index operation) (read (.operationReceipt index)) =
          .ok r ∧
        ReceiptFits applicationId s operation index r ∧ p = .ofReceipt r := by
  simp only [projectOperationReceipt, bind_eq_ok, orRaise_eq_ok, recode_eq_ok, raiseIf_eq_ok,
    pure_eq_ok]
  constructor
  · rintro ⟨operation, hoperation, r, hr, ref, href, _, hbinding, _, hclock, rfl⟩
    push Not at hbinding hclock
    obtain ⟨happ, hidentity, hid, hcanonical, hindex, hrefId, hrequest, hauthority⟩ := hbinding
    exact ⟨operation, r, hoperation, hr, ⟨⟨happ, hidentity⟩, ⟨hid, hcanonical⟩, hindex,
      hrefId ▸ href, hrequest, by simpa using hauthority, hclock⟩, rfl⟩
  · rintro ⟨operation, r, hoperation, hr, h, rfl⟩
    refine ⟨operation, hoperation, r, hr, r.operationReceiptId, h.ref, (), ?_, (), ?_, rfl⟩
    · simp [h.identity, h.canonical, h.position, h.request, h.authority]
    · push Not
      exact h.clock

theorem requireNoReceipt_eq_ok {operations : List WriteOperation} {index : Nat} :
    requireNoReceipt workspace applicationId operations read index = .ok () ↔
      ∃ operation, operations[index]? = some operation ∧
        (read (.operationReceipt index)).operationReceipts.lookup
          (operationIdentity applicationId index operation) = none := by
  simp only [requireNoReceipt, bind_eq_ok, orRaise_eq_ok]
  refine exists_congr fun operation => and_congr_right fun _ => ?_
  cases hrow : (read (.operationReceipt index)).operationReceipts.lookup
      (operationIdentity applicationId index operation) with
  | none => simp [getOperationReceipt, hrow, orRaise, bind, Except.bind]
  | some r =>
      simp only [getOperationReceipt, hrow, orRaise, bind, Except.bind, raiseIf, reduceCtorEq,
        iff_false]
      split_ifs <;> simp [pure, Except.pure]

theorem loadApplicationReceipt_eq_ok {x : Option ApplicationReceipt} :
    loadApplicationReceipt workspace applicationId read = .ok x ↔
      ((read .applicationReceipt).applicationReceipt = none ∧ x = none) ∨
      ∃ r, getApplicationReceipt workspace applicationId (read .applicationReceipt) = .ok r ∧
        x = some r := by
  unfold loadApplicationReceipt
  cases hrow : (read .applicationReceipt).applicationReceipt with
  | none =>
      simp [getApplicationReceipt, hrow, orRaise, bind, Except.bind, pure, Except.pure, eq_comm]
  | some r =>
      simp only [reduceCtorEq, false_and, false_or]
      simp only [getApplicationReceipt, hrow, orRaise, bind, Except.bind, raiseIf]
      split_ifs <;> simp [pure, Except.pure, eq_comm]

end
end DeliverySystem.ApplicationStatus

import DeliverySystem.IssueCommands
import DeliverySystem.ExecutionInvariant

/-!
# Applier runs

A run of `_apply` is cut at its store transactions and at its remote calls.
`Phase` is where a run stands and holds its local variables; `advance` executes
the code up to the next cut. Everything a run asks the outside for is in an
`Environment`: clocks, the owner token, whether its authority is current, what
its reads see, and what the remote answers.

Any number of runs share the tables of one application. They advance in any
order, and a run may crash wherever it stands.
-/
namespace DeliverySystem.Applier
open PythonValues WriteOperations ApplicationIdentity ExecutionRecords ExecutionContexts
open KeyedRows ExecutionStore ExecutionTransactions ExecutionInvariant ApplicationStatus
open IssueCommands
set_option autoImplicit false

structure ApplyResult where
  applicationId : String
  state : StateName
  nextOperationIndex : Nat
  applicationReceiptId : Option String
  recoveryCode : Option String
deriving Repr, DecidableEq

section
variable [PythonLibrary]

/-- The answers a run gets while it executes one piece of code. Its reads may see
any tables, so that no order of reads and commits is left out. -/
structure Environment where
  capability : Bool
  current : Nat → Bool
  now : Instant
  completedAt : Instant
  owner : String
  read : Schedule
  operandRead : Nat → Tables
  revalidate : String → Py Unit
  dispatch : Py WriteObservation

/-- The local variables of a run between its claim and the end of the claim. -/
structure Claim where
  context : ExecutionContext
  state : ApplicationExecutionState
  attempt : OperationAttemptState
  owner : String

inductive Phase where
  | idle
  | opening (context : ExecutionContext)
  | replaying (context : ExecutionContext) (state : ApplicationExecutionState)
  | looping (context : ExecutionContext) (state : ApplicationExecutionState)
  | overtaken (context : ExecutionContext) (state : ApplicationExecutionState)
      (refusal : Raised)
  | claimed (claim : Claim)
  | ready (claim : Claim) (command : IssueCommand)
  | dispatching (claim : Claim) (command : IssueCommand)
  | dispatched (claim : Claim) (observation : WriteObservation)
  | observed (claim : Claim) (observation : WriteObservation)
  | settling (claim : Claim) (target : StateName) (code : String) (guarded : Bool)
  | closing (context : ExecutionContext) (state : ApplicationExecutionState)
  | finished (result : Py ApplyResult)
  | crashed

/-- What a run did that others can see: a committed claim, with the tables it
left, and a call of the remote, with the tables at the time of the call. -/
inductive Event where
  | claimed (run : Nat) (attempt : OperationAttemptState) (tables : Tables)
  | dispatched (run : Nat) (attempt : OperationAttemptState) (command : IssueCommand)
      (outcome : Py WriteObservation) (tables : Tables)

/-- Whether an event is a call of the remote for the operation at `index`. -/
def Event.dispatches (index : Nat) : Event → Bool
  | .claimed .. => false
  | .dispatched _ attempt _ _ _ => attempt.operationIndex = index

def applyResult (context : ExecutionContext) (state : ApplicationExecutionState)
    (receiptId recoveryCode : Option String) : ApplyResult :=
  { applicationId := context.applicationId
    state := state.state
    nextOperationIndex := state.nextOperationIndex
    applicationReceiptId := receiptId
    recoveryCode }

/-- The result of a run that leaves a claimed operation to recovery. -/
def recoveryRequired (context : ExecutionContext) (state : ApplicationExecutionState) : Phase :=
  .finished (.ok (applyResult context state none (some "application_recovery_required")))

/-! ## Opening -/

/-- Where a run goes with the state it found or created. -/
def entered (context : ExecutionContext) (state : ApplicationExecutionState) : Phase :=
  match state.state with
  | .applied => .replaying context state
  | .applying => recoveryRequired context state
  | .failed | .blocked | .outcomeUnknown =>
      .finished (.ok (applyResult context state none state.recoveryCode))
  | .pending | .partiallyApplied => .looping context state

def openExecution (env : Environment) (tables : Tables) (context : ExecutionContext) :
    Py (Tables × ApplicationExecutionState) := do
  let initial ← context.newExecutionState (env.current 0)
    (ExecutionContext.initialProgress env.now) env.now (some applierOrchestrationPolicy)
  createExecutionIfAbsent env.capability (env.current 1) tables initial

/-- An applied application is read again, closure and all. -/
def replay (env : Environment) (context : ExecutionContext) : Py ApplyResult := do
  let workspace := context.identity.values.workspaceIdentity
  let state ← getExecution workspace context.applicationId env.read
    (some context.expectedOperations)
  let receipt ← getApplicationReceipt workspace context.applicationId
    (env.read .applicationReceipt)
  pure (applyResult context state (some receipt.applicationReceiptId) none)

/-! ## Claiming -/

/-- The refusals of a claim that another run may have caused. -/
def overtakenCodes : List String := ["application_claim_unavailable", "application_state_stale"]

/-- The result of a run whose claim was refused: the state must have moved. -/
def overtakenResult (env : Environment) (context : ExecutionContext)
    (state : ApplicationExecutionState) (refusal : Raised) : Py ApplyResult := do
  let workspace := context.identity.values.workspaceIdentity
  let current ← getExecution workspace context.applicationId env.read
    (some context.expectedOperations)
  if current.stateDigest = state.stateDigest ∧ current.state = state.state ∧
      current.nextOperationIndex = state.nextOperationIndex ∧ current.ownerId = state.ownerId ∧
      current.currentAttemptId = state.currentAttemptId then .error refusal
  else if current.state = .applied then
    let receipt ← getApplicationReceipt workspace context.applicationId
      (env.read .applicationReceipt)
    pure (applyResult context current (some receipt.applicationReceiptId) none)
  else if current.state = .applying ∨ current.state = .partiallyApplied then
    pure (applyResult context current none (some "application_recovery_required"))
  else pure (applyResult context current none current.recoveryCode)

/-! ## Before the call -/

def validateClaim (env : Environment) (claim : Claim) : Py Unit := do
  let workspace := claim.context.identity.values.workspaceIdentity
  let applicationId := claim.context.applicationId
  requireOrchestrationCapability env.capability
  validateExecutionContext (env.current 0)
  let state ← getExecution workspace applicationId env.read none
  let attempt ← getAttempt workspace applicationId claim.attempt.operationIdentity
    (env.read (.attempt 0))
  requireManaged state
  raiseIf (state.state ≠ .applying ∨ state.stateDigest ≠ claim.state.stateDigest ∨
    state.ownerId ≠ some claim.owner ∨
    state.currentAttemptId ≠ some claim.attempt.operationIdentity ∨ attempt.state ≠ .applying ∨
    attempt.attemptDigest ≠ claim.attempt.attemptDigest) "application_claim_stale"

/-- A run that holds its claim, and reads the rows of the claim, passes. -/
theorem validateClaim_ok {env : Environment} {claim : Claim} {t : Tables}
    (h : HeldClaim claim.state.stateDigest claim.attempt.operationIdentity
      claim.attempt.attemptDigest claim.owner t claim.state claim.attempt)
    (hstate : claim.state.identity = claim.context.identity)
    (hattempt : claim.attempt.identity = claim.context.identity)
    (hread : ∀ point, env.read point = t) (hcapability : env.capability = true)
    (hcurrent : env.current 0 = true) : validateClaim env claim = .ok () := by
  have hload : loadExecutionState claim.context.identity.values.workspaceIdentity
      claim.context.applicationId t = .ok claim.state :=
    loadExecutionState_eq_ok.mpr ⟨h.found, by rw [claim.state.valid.application, hstate]; rfl,
      by rw [hstate], h.intact.1⟩
  have hexecution : getExecution claim.context.identity.values.workspaceIdentity
      claim.context.applicationId env.read none = .ok claim.state := by
    simp [getExecution, hread, hload, h.applying, bind, Except.bind, pure, Except.pure]
  have hrow : getAttempt claim.context.identity.values.workspaceIdentity
      claim.context.applicationId claim.attempt.operationIdentity t = .ok claim.attempt :=
    getAttempt_eq_ok.mpr ⟨h.row, by rw [claim.attempt.valid.binding.1, hattempt]; rfl, rfl,
      by rw [hattempt], h.attemptIntact.1⟩
  simp only [validateClaim, bind_eq_ok, requireOrchestrationCapability, validateExecutionContext,
    requireManaged, raiseIf_eq_ok, hread]
  exact ⟨(), by simp [hcapability], (), by simp [hcurrent], claim.state, hexecution, claim.attempt,
    hrow, (), by simp [h.managed], by simp [h.applying, h.owner, h.currentAttempt,
      h.attemptApplying]⟩

def prepare (env : Environment) (claim : Claim) : Py IssueCommand := do
  validateClaim env claim
  materialize claim.context.identity.values.workspaceIdentity claim.context claim.attempt
    env.operandRead env.revalidate

/-- The codes of a claim that cannot be materialized now; others are failures. -/
def blockingCodes : List String :=
  ["existing_endpoint_not_found", "existing_endpoint_repository_mismatch",
    "existing_endpoint_identity_mismatch", "existing_endpoint_write_address_invalid",
    "existing_endpoint_semantic_stale", "relationship_already_exists",
    "remote_observation_unavailable", "write_reference_unavailable", "write_executor_invalid",
    "runtime_authority_required"]

def prepareTarget (code : String) : StateName :=
  if code ∈ blockingCodes then .blocked else .failed

/-! ## After the call -/

/-- The refusals of a call whose credential is not the approved one. -/
def credentialCodes : List String :=
  ["credential_capability_unregistered", "credential_principal_mismatch",
    "credential_instance_mismatch", "credential_repository_mismatch",
    "credential_scope_mismatch", "credential_capability_mismatch",
    "credential_currentness_mismatch", "credential_expired"]

def rejectionCodes : List String :=
  ["github_write_authority_rejected", "github_write_target_unavailable", "github_write_conflict",
    "github_write_rate_limited", "github_write_redirect_rejected"]

/-- The code an unsuccessful observation settles its operation with. -/
def observationCode (observation : WriteObservation) : String :=
  if observation.code ≠ "" then observation.code
  else if observation.kind = .definitiveRejected then "github_write_rejected"
  else "github_write_transport_ambiguous"

def observationTarget (observation : WriteObservation) : StateName :=
  if observation.kind = .ambiguous then .outcomeUnknown
  else if observationCode observation ∈ rejectionCodes then .blocked
  else .failed

/-- An expired authority is no failure of the operation: its claim stays. -/
def expiredOr (claim : Claim) (e : Raised) : Phase :=
  if e = .valueError "runtime_authority_invalid" then recoveryRequired claim.context claim.state
  else .finished (.error e)

/-- A receipt that `new_receipt` returned, with the proof that it did. -/
def mintReceipt (context : ExecutionContext) (current : Bool) (index : Nat)
    (remote : RemoteResult) (startedAt completedAt : Instant) : Py (LiveReceipt context) :=
  if current then
    match h : context.newReceipt true index remote startedAt completedAt with
    | .ok receipt => .ok ⟨receipt, index, remote, startedAt, completedAt, h⟩
    | .error e => .error e
  else .error (.valueError "runtime_authority_invalid")

/-- Store the receipt of a trusted success and advance the application. -/
def completeObserved (env : Environment) (tables : Tables) (claim : Claim)
    (observation : WriteObservation) : Py (Tables × ApplicationExecutionState) := do
  let remote ← trustedSuccessResult claim.context claim.attempt observation
  let receipt ← mintReceipt claim.context (env.current 0) claim.attempt.operationIndex remote
    claim.attempt.startedAt env.completedAt
  completeOperationSuccess env.capability (fun i => env.current (i + 1)) tables
    claim.context.applicationId claim.state.stateDigest claim.attempt.operationIdentity
    claim.attempt.attemptDigest claim.owner claim.context receipt env.now

theorem mintReceipt_ok {context : ExecutionContext} {index : Nat} {remote : RemoteResult}
    {startedAt completedAt : Instant} {receipt : OperationReceipt}
    (h : context.newReceipt true index remote startedAt completedAt = .ok receipt) :
    ∃ minted, mintReceipt context true index remote startedAt completedAt = .ok minted ∧
      minted.val = receipt := by
  unfold mintReceipt
  rw [if_pos rfl]
  split
  · rename_i made hmade
    exact ⟨_, rfl, Except.ok.inj (hmade.symm.trans h)⟩
  · rename_i hmade
    rw [h] at hmade
    cases hmade

/-! ## One piece of a run -/

/-- Execute a run up to its next cut. A transaction that raises leaves the
tables alone; a finished run has nothing left to do. -/
def advance (env : Environment) (run : Nat) (tables : Tables) :
    Phase → Tables × Phase × List Event
  | .opening context =>
      match openExecution env tables context with
      | .error e => (tables, .finished (.error e), [])
      | .ok (tables', state) => (tables', entered context state, [])
  | .replaying context _ => (tables, .finished (replay env context), [])
  | .looping context state =>
      if state.nextOperationIndex < context.expectedOperations.length then
        match claimNextOperation env.capability env.current tables context.applicationId
          state.stateDigest context env.owner env.now with
        | .ok (tables', state', attempt) =>
            (tables', .claimed { context, state := state', attempt, owner := env.owner },
              [.claimed run attempt tables'])
        | .error (.valueError code) =>
            if code ∈ overtakenCodes then
              (tables, .overtaken context state (.valueError code), [])
            else (tables, .finished (.error (.valueError code)), [])
        | .error e => (tables, .finished (.error e), [])
      else
        match finalizeApplication env.capability env.current tables context.applicationId
          state.stateDigest context env.now with
        | .ok (tables', state') => (tables', .closing context state', [])
        | .error e => (tables, .finished (.error e), [])
  | .overtaken context state refusal =>
      (tables, .finished (overtakenResult env context state refusal), [])
  | .claimed claim =>
      match prepare env claim with
      | .ok command => (tables, .ready claim command, [])
      | .error (.valueError code) =>
          (tables, .settling claim (prepareTarget code) code false, [])
      | .error e => (tables, .finished (.error e), [])
  | .ready claim command =>
      if env.current 0 then (tables, .dispatching claim command, [])
      else (tables, recoveryRequired claim.context claim.state, [])
  | .dispatching claim command =>
      let event := .dispatched run claim.attempt command env.dispatch tables
      match env.dispatch with
      | .ok observation => (tables, .dispatched claim observation, [event])
      | .error (.valueError code) =>
          if code ∈ credentialCodes then (tables, .settling claim .blocked code false, [event])
          else (tables, .finished (.error (.valueError code)), [event])
      | .error e => (tables, .finished (.error e), [event])
  | .dispatched claim observation =>
      if env.current 0 then (tables, .observed claim observation, [])
      else (tables, recoveryRequired claim.context claim.state, [])
  | .observed claim observation =>
      if observation.kind = .definitiveSuccess then
        match completeObserved env tables claim observation with
        | .ok (tables', state') => (tables', .looping claim.context state', [])
        | .error e => (tables, expiredOr claim e, [])
      else
        (tables, .settling claim (observationTarget observation) (observationCode observation)
          true, [])
  | .settling claim target code guarded =>
      match settleOperation env.capability env.current tables claim.state.stateDigest
        claim.attempt.operationIdentity claim.attempt.attemptDigest claim.owner claim.context
        target code env.now with
      | .ok (tables', state') =>
          (tables', .finished (.ok (applyResult claim.context state' none (some code))), [])
      | .error e =>
          (tables, if guarded then expiredOr claim e else .finished (.error e), [])
  | .closing context state =>
      (tables, .finished (do
        let receipt ← getApplicationReceipt context.identity.values.workspaceIdentity
          context.applicationId (env.read .applicationReceipt)
        pure (applyResult context state (some receipt.applicationReceiptId) none)), [])
  | .idle => (tables, .idle, [])
  | .finished result => (tables, .finished result, [])
  | .crashed => (tables, .crashed, [])

/-! ## All runs of one application -/

/-- The shared tables, where each run stands, and what happened. -/
structure Config where
  tables : Tables
  phases : Nat → Phase
  trace : List Event

def Config.initial : Config := { tables := .empty, phases := fun _ => .idle, trace := [] }

def Config.setPhase (c : Config) (run : Nat) (phase : Phase) : Config :=
  { c with phases := Function.update c.phases run phase }

/-- Let one run execute up to its next cut. -/
def Config.advance (c : Config) (env : Environment) (run : Nat) : Config :=
  let (tables, phase, events) := Applier.advance env run c.tables (c.phases run)
  { tables, phases := Function.update c.phases run phase, trace := c.trace ++ events }

/-- A context of the application that `identity` names, over its operations. -/
structure ContextOf (operations : SealedOperations) (identity : LogicalApplicationIdentity)
    (context : ExecutionContext) : Prop where
  sealed : ExecutionContext.Sealed operations context
  identity_eq : context.identity = identity

/-- One step of the system. Calling `apply` once more is another run. -/
inductive Step (operations : SealedOperations) (identity : LogicalApplicationIdentity)
    (c : Config) : Config → Prop
  | start {run : Nat} {context : ExecutionContext} (fresh : c.phases run = .idle)
      (application : ContextOf operations identity context) :
      Step operations identity c (c.setPhase run (.opening context))
  | run (env : Environment) (run : Nat) : Step operations identity c (c.advance env run)
  | crash (run : Nat) : Step operations identity c (c.setPhase run .crashed)

def Reachable (operations : SealedOperations) (identity : LogicalApplicationIdentity) :
    Config → Prop :=
  Relation.ReflTransGen (Step operations identity) .initial

end
end DeliverySystem.Applier

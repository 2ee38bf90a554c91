import DeliverySystem.ExecutionStore

/-!
# What each execution transaction does

One structure for each transaction says everything a committed run of it found
and wrote: the guards it passed, the records it built, and the rows it left.
The results about runs use these structures and never unfold a transaction.
-/
namespace DeliverySystem.ExecutionTransactions
open PythonValues WriteOperations ApplicationIdentity ExecutionRecords ExecutionContexts
open KeyedRows ExecutionStore
set_option autoImplicit false

section
variable [PythonLibrary]

/-! ## Records a context builds -/

/-- `next` continues `previous` under `context` with the given progress. -/
structure Continues (context : ExecutionContext) (previous next : ApplicationExecutionState)
    (values : ExecutionProgress) : Prop where
  owned : previous.identity = context.identity ∧
    previous.continuityAnchor = context.continuityAnchor
  progress : next.toExecutionProgress = values
  applicationId : next.applicationId = previous.applicationId
  identity : next.identity = previous.identity
  startedAt : next.startedAt = previous.startedAt
  continuityAnchor : next.continuityAnchor = previous.continuityAnchor
  orchestrationPolicy : next.orchestrationPolicy = previous.orchestrationPolicy
  intact : next.verifyIntegrity = true

/-- `attempt` is a new attempt of `context` at `index`. -/
structure NewAttempt (context : ExecutionContext) (index : Nat) (now : Instant)
    (attempt : OperationAttemptState) : Prop where
  operation : context.expectedOperations[index]? = some attempt.operation
  operationIndex : attempt.operationIndex = index
  identity : attempt.identity = context.identity
  authority : attempt.authorityBinding = context.provenance
  progress : attempt.toAttemptProgress = { state := .applying, updatedAt := now, failureCode := none }
  startedAt : attempt.startedAt = now
  intact : attempt.verifyIntegrity = true

/-- `next` continues `previous` under `context` with the given progress. -/
structure ContinuesAttempt (context : ExecutionContext) (previous next : OperationAttemptState)
    (values : AttemptProgress) : Prop where
  owned : previous.identity = context.identity ∧
    context.expectedOperations[previous.operationIndex]? = some previous.operation
  progress : next.toAttemptProgress = values
  operationIdentity : next.operationIdentity = previous.operationIdentity
  operationIndex : next.operationIndex = previous.operationIndex
  operation : next.operation = previous.operation
  authorityBinding : next.authorityBinding = previous.authorityBinding
  startedAt : next.startedAt = previous.startedAt
  identity : next.identity = previous.identity
  intact : next.verifyIntegrity = true

/-- A receipt of `context` for the operation at `index`. -/
structure NewReceipt (context : ExecutionContext) (index : Nat) (remoteResult : RemoteResult)
    (startedAt completedAt : Instant) (receipt : OperationReceipt) : Prop where
  operation : context.expectedOperations[index]? = some receipt.canonicalOperation
  operationIndex : receipt.operationIndex = index
  identity : receipt.identity = context.identity
  authority : receipt.authorityBinding = context.provenance
  remoteResult : receipt.remoteResult = remoteResult
  startedAt : receipt.startedAt = startedAt
  completedAt : receipt.completedAt = completedAt
  intact : receipt.verifyIntegrity = true

theorem continueExecutionState_spec {context : ExecutionContext} {current : Bool}
    {previous next : ApplicationExecutionState} {values : ExecutionProgress}
    (h : context.continueExecutionState current previous values = .ok next) :
    Continues context previous next.withDigest values := by
  simp only [ExecutionContext.continueExecutionState, bind_eq_ok, validateExecutionContext,
    raiseIf_eq_ok] at h
  obtain ⟨_, -, _, -, _, howned, hmake⟩ := h
  push Not at howned
  have hfields := make_execution_eq_ok hmake
  have hlast : next.withDigest.toExecutionFields =
      { next.toExecutionFields with stateDigest := digest next.payload } := rfl
  rw [hfields] at hlast
  refine ⟨⟨howned.1, howned.2.2⟩, ?_, ?_, ?_, ?_, ?_, ?_, next.verifyIntegrity_withDigest⟩
  all_goals rw [hlast]
  · exact howned.1.symm
  · exact howned.2.2.symm

theorem newAttempt_spec {context : ExecutionContext} {current : Bool} {index : Nat}
    {now : Instant} {attempt : OperationAttemptState}
    (h : context.newAttempt current index
      { state := .applying, updatedAt := now, failureCode := none } now = .ok attempt) :
    NewAttempt context index now attempt.withDigest := by
  simp only [ExecutionContext.newAttempt, bind_eq_ok, validateExecutionContext, raiseIf_eq_ok,
    orRaise_eq_ok] at h
  obtain ⟨_, -, operation, hoperation, hmake⟩ := h
  have hfields := make_attempt_eq_ok hmake
  have hlast : attempt.withDigest.toAttemptFields =
      { attempt.toAttemptFields with attemptDigest := digest attempt.payload } := rfl
  rw [hfields] at hlast
  refine ⟨?_, ?_, ?_, ?_, ?_, ?_, attempt.verifyIntegrity_withDigest⟩
  all_goals rw [hlast]
  exact hoperation

theorem continueAttempt_spec {context : ExecutionContext} {current : Bool}
    {previous next : OperationAttemptState} {values : AttemptProgress}
    (h : context.continueAttempt current previous values = .ok next) :
    ContinuesAttempt context previous next.withDigest values := by
  simp only [ExecutionContext.continueAttempt, bind_eq_ok, validateExecutionContext,
    raiseIf_eq_ok] at h
  obtain ⟨_, -, _, -, _, howned, _, -, _, -, hmake⟩ := h
  push Not at howned
  have hfields := make_attempt_eq_ok hmake
  have hlast : next.withDigest.toAttemptFields =
      { next.toAttemptFields with attemptDigest := digest next.payload } := rfl
  rw [hfields] at hlast
  refine ⟨⟨howned.1, howned.2.2.1⟩, ?_, ?_, ?_, ?_, ?_, ?_, ?_, next.verifyIntegrity_withDigest⟩
  all_goals rw [hlast]
  exact howned.1.symm

theorem newReceipt_spec {context : ExecutionContext} {current : Bool} {index : Nat}
    {remoteResult : RemoteResult} {startedAt completedAt : Instant} {receipt : OperationReceipt}
    (h : context.newReceipt current index remoteResult startedAt completedAt = .ok receipt) :
    NewReceipt context index remoteResult startedAt completedAt receipt := by
  simp only [ExecutionContext.newReceipt, bind_eq_ok, validateExecutionContext, raiseIf_eq_ok,
    orRaise_eq_ok, pure_eq_ok] at h
  obtain ⟨_, -, operation, hoperation, made, hmake, rfl⟩ := h
  have hfields := make_receipt_eq_ok hmake
  have hlast : made.withDigest.toReceiptFields =
      { made.toReceiptFields with receiptDigest := digest made.payload } := rfl
  rw [hfields] at hlast
  refine ⟨?_, ?_, ?_, ?_, ?_, ?_, ?_, made.verifyIntegrity_withDigest⟩
  all_goals rw [hlast]
  exact hoperation

omit [PythonLibrary] in
theorem requireClockNotBefore_eq_ok {candidate : Instant} {prior : List Instant} {u : Unit} :
    requireClockNotBefore candidate prior = .ok u ↔ ∀ value ∈ prior, value ≤ candidate := by
  simp [requireClockNotBefore]

/-! ## Creation -/

/-- Creation inserts the pending state, or finds one and changes nothing. -/
structure Created (tables : Tables) (state result : ApplicationExecutionState)
    (tables' : Tables) : Prop where
  pending : state.state = .pending ∧ state.nextOperationIndex = 0 ∧ state.ownerId = none ∧
    state.currentAttemptId = none ∧ state.recoveryCode = none ∧
    state.operationReceiptRefs = [] ∧ state.completedAt = none
  outcome : (tables.execution = none ∧ result = state.withDigest ∧
      tables' = { tables with execution := some state.withDigest }) ∨
    (tables.execution = some result ∧ tables' = tables ∧ result.verifyIntegrity = true ∧
      result.identity = state.identity ∧ result.continuityAnchor = state.continuityAnchor ∧
      result.orchestrationPolicy = some applierOrchestrationPolicy)

theorem createExecutionIfAbsent_spec {capability current : Bool} {tables tables' : Tables}
    {state result : ApplicationExecutionState}
    (h : createExecutionIfAbsent capability current tables state = .ok (tables', result)) :
    Created tables state result tables' := by
  simp only [createExecutionIfAbsent, bind_eq_ok, raiseIf_eq_ok] at h
  obtain ⟨_, -, _, hpending, _, -, h⟩ := h
  push Not at hpending
  refine ⟨hpending, ?_⟩
  split at h
  · rename_i existing hexisting
    simp only [requireManaged, bind_eq_ok, raiseIf_eq_ok, pure_eq_ok, Prod.mk.injEq] at h
    obtain ⟨_, hsame, _, hpolicy, htables, hresult⟩ := h
    push Not at hsame hpolicy
    subst hresult
    exact .inr ⟨hexisting, htables.symm, by simpa using hsame.1, hsame.2.1, hsame.2.2, hpolicy⟩
  · rename_i hnone
    simp only [pure_eq_ok, Prod.mk.injEq] at h
    exact .inl ⟨hnone, h.2.symm, h.1.symm⟩

/-! ## Claims -/

/-- A claim found `previous` open and wrote `state` and the row of `attempt`. -/
structure Claimed (context : ExecutionContext) (expectedDigest ownerId : String) (now : Instant)
    (tables : Tables) (previous state : ApplicationExecutionState)
    (attempt : OperationAttemptState) (tables' : Tables) : Prop where
  found : tables.execution = some previous
  managed : previous.orchestrationPolicy = some applierOrchestrationPolicy
  intact : previous.verifyIntegrity = true ∧ previous.stateDigest = expectedDigest
  idle : previous.state = .pending ∨ previous.state = .partiallyApplied
  unowned : previous.ownerId = none ∧ previous.currentAttemptId = none
  clock : previous.startedAt ≤ now ∧ previous.updatedAt ≤ now
  token : ownerToken ownerId = true
  made : NewAttempt context previous.nextOperationIndex now attempt
  continued : Continues context previous state
    { previous.toExecutionProgress with
      state := .applying
      ownerId := some ownerId
      currentAttemptId := some attempt.operationIdentity
      updatedAt := now }
  inserted : ∃ attempts, tables.attempts.insert attempt.operationIdentity attempt = some attempts ∧
    tables' = { tables with attempts, execution := some state }

theorem claimNextOperation_spec {capability : Bool} {current : Nat → Bool}
    {tables tables' : Tables} {applicationId expectedDigest : String}
    {context : ExecutionContext} {ownerId : String} {now : Instant}
    {state : ApplicationExecutionState} {attempt : OperationAttemptState}
    (h : claimNextOperation capability current tables applicationId expectedDigest context ownerId
      now = .ok (tables', state, attempt)) :
    ∃ previous, Claimed context expectedDigest ownerId now tables previous state attempt
      tables' := by
  simp only [claimNextOperation, bind_eq_ok, raiseIf_eq_ok, orRaise_eq_ok, requireManaged,
    requireClockNotBefore_eq_ok, pure_eq_ok, Prod.mk.injEq] at h
  obtain ⟨_, -, _, htoken, _, -, _, -, previous, hfound, _, hpolicy, _, hintact, _, hidle, _, -, _,
    hclock, newAttempt, hattempt, _, -, candidate, hcandidate, _, -, _, -, attempts, hinsert,
    htables, hstate, hattempt'⟩ := h
  push Not at hpolicy hintact hidle
  have attempt_spec := newAttempt_spec hattempt
  have state_spec := continueExecutionState_spec hcandidate
  subst htables hstate hattempt'
  exact ⟨previous,
    { found := hfound
      managed := hpolicy
      intact := ⟨by simpa using hintact.1, hintact.2⟩
      idle := hidle.1
      unowned := hidle.2
      clock := by simpa using hclock
      token := by simpa using htoken
      made := attempt_spec
      continued := state_spec
      inserted := ⟨attempts, hinsert, rfl⟩ }⟩

/-! ## Completion and settlement -/

/-- The claim that `requireClaim` accepts. -/
structure HeldClaim (stateDigest attemptId attemptDigest ownerId : String) (tables : Tables)
    (previous : ApplicationExecutionState) (attempt : OperationAttemptState) : Prop where
  found : tables.execution = some previous
  row : tables.attempts.lookup attemptId = some attempt
  managed : previous.orchestrationPolicy = some applierOrchestrationPolicy
  intact : previous.verifyIntegrity = true ∧ previous.stateDigest = stateDigest
  applying : previous.state = .applying
  owner : previous.ownerId = some ownerId
  currentAttempt : previous.currentAttemptId = some attemptId
  attemptIntact : attempt.verifyIntegrity = true ∧ attempt.attemptDigest = attemptDigest
  attemptApplying : attempt.state = .applying

theorem requireClaim_spec {stateDigest attemptId attemptDigest ownerId : String} {tables : Tables}
    {previous : ApplicationExecutionState} {attempt : OperationAttemptState} {u : Unit}
    (hfound : tables.execution = some previous)
    (hrow : tables.attempts.lookup attemptId = some attempt)
    (h : requireClaim previous attempt stateDigest attemptId attemptDigest ownerId = .ok u) :
    HeldClaim stateDigest attemptId attemptDigest ownerId tables previous attempt := by
  simp only [requireClaim, requireManaged, bind_eq_ok, raiseIf_eq_ok] at h
  obtain ⟨_, hpolicy, hclaim⟩ := h
  push Not at hpolicy hclaim
  obtain ⟨hint, hdig, happlying, howner, hcurrent, haint, hadig, haapplying⟩ := hclaim
  exact ⟨hfound, hrow, hpolicy, ⟨by simpa using hint, hdig⟩, happlying, howner, hcurrent,
    ⟨by simpa using haint, hadig⟩, haapplying⟩

/-- The run that committed a claim holds it. -/
theorem claimed_heldClaim {context : ExecutionContext} {expectedDigest ownerId : String}
    {now : Instant} {tables tables' : Tables} {previous state : ApplicationExecutionState}
    {attempt : OperationAttemptState}
    (h : Claimed context expectedDigest ownerId now tables previous state attempt tables') :
    HeldClaim state.stateDigest attempt.operationIdentity attempt.attemptDigest ownerId tables'
      state attempt := by
  obtain ⟨attempts, hinsert, rfl⟩ := h.inserted
  have hc := h.continued
  exact
    { found := rfl
      row := by rw [Rows.lookup_insert hinsert, if_pos rfl]
      managed := hc.orchestrationPolicy.trans h.managed
      intact := ⟨hc.intact, rfl⟩
      applying := by rw [hc.progress]
      owner := by rw [hc.progress]
      currentAttempt := by rw [hc.progress]
      attemptIntact := ⟨h.made.intact, rfl⟩
      attemptApplying := by rw [h.made.progress] }

/-- A completion stored `receipt` and moved the claimed attempt to `Applied`. -/
structure Completed (context : ExecutionContext)
    (stateDigest attemptId attemptDigest ownerId : String) (receipt : OperationReceipt)
    (now : Instant) (tables : Tables) (previous state : ApplicationExecutionState)
    (attempt nextAttempt : OperationAttemptState) (tables' : Tables) : Prop where
  claim : HeldClaim stateDigest attemptId attemptDigest ownerId tables previous attempt
  receiptIndex : receipt.operationIndex = attempt.operationIndex
  receiptIdentity : receipt.operationIdentity = attempt.operationIdentity
  receiptClock : receipt.startedAt ≤ now ∧ receipt.completedAt ≤ now
  clock : (previous.startedAt ≤ now ∧ previous.updatedAt ≤ now) ∧
    attempt.startedAt ≤ now ∧ attempt.updatedAt ≤ now
  closed : ContinuesAttempt context attempt nextAttempt
    { attempt.toAttemptProgress with state := .applied, updatedAt := now }
  continued : Continues context previous state
    { previous.toExecutionProgress with
      state := .partiallyApplied
      nextOperationIndex := previous.nextOperationIndex + 1
      operationReceiptRefs := previous.operationReceiptRefs ++ [receipt.operationReceiptId]
      ownerId := none
      currentAttemptId := none
      updatedAt := now }
  inserted : ∃ operationReceipts,
    tables.operationReceipts.insert receipt.operationIdentity receipt = some operationReceipts ∧
    tables' =
      { tables with
        operationReceipts
        attempts := tables.attempts.update attemptId nextAttempt
        execution := some state }

/-- A minted receipt already carries its digest. -/
theorem liveReceipt_withDigest {context : ExecutionContext} (receipt : LiveReceipt context) :
    receipt.val.withDigest = receipt.val := by
  obtain ⟨r, index, remoteResult, startedAt, completedAt, hmint⟩ := receipt
  simp only [ExecutionContext.newReceipt, bind_eq_ok, pure_eq_ok] at hmint
  obtain ⟨_, -, _, -, made, -, rfl⟩ := hmint
  rfl

theorem completeOperationSuccess_spec {capability : Bool} {current : Nat → Bool}
    {tables tables' : Tables} {applicationId stateDigest attemptId attemptDigest ownerId : String}
    {context : ExecutionContext} {receipt : LiveReceipt context} {now : Instant}
    {state : ApplicationExecutionState}
    (h : completeOperationSuccess capability current tables applicationId stateDigest attemptId
      attemptDigest ownerId context receipt now = .ok (tables', state)) :
    ∃ previous attempt nextAttempt, Completed context stateDigest attemptId attemptDigest ownerId
      receipt.val now tables previous state attempt nextAttempt tables' := by
  simp only [completeOperationSuccess, bind_eq_ok, raiseIf_eq_ok, orRaise_eq_ok,
    requireClockNotBefore_eq_ok, pure_eq_ok, Prod.mk.injEq, liveReceipt_withDigest receipt] at h
  obtain ⟨_, -, _, -, previous, hfound, attempt, hrow, _, hclaim, _, hbinding, _, hclock, _,
    hreceiptClock, _, -, nextAttempt, hattempt, nextState, hstate, _, -, _, -, receipts, hinsert,
    htables, hresult⟩ := h
  push Not at hbinding
  have attempt_spec := continueAttempt_spec hattempt
  have state_spec := continueExecutionState_spec hstate
  subst htables hresult
  exact ⟨previous, attempt, nextAttempt.withDigest,
    { claim := requireClaim_spec hfound hrow hclaim
      receiptIndex := hbinding.2.1
      receiptIdentity := hbinding.2.2
      receiptClock := by simpa using hreceiptClock
      clock := by simpa [and_assoc] using hclock
      closed := attempt_spec
      continued := state_spec
      inserted := ⟨receipts, hinsert, rfl⟩ }⟩

/-- A settlement closed the claimed attempt without a receipt. -/
structure Settled (context : ExecutionContext)
    (stateDigest attemptId attemptDigest ownerId : String) (stateName : StateName) (code : String)
    (now : Instant) (tables : Tables) (previous state : ApplicationExecutionState)
    (attempt nextAttempt : OperationAttemptState) (tables' : Tables) : Prop where
  claim : HeldClaim stateDigest attemptId attemptDigest ownerId tables previous attempt
  name : stateName.Settled
  closed : ContinuesAttempt context attempt nextAttempt
    { state := stateName, updatedAt := now, failureCode := some code }
  continued : Continues context previous state
    { previous.toExecutionProgress with
      state := stateName, ownerId := none, recoveryCode := some code, updatedAt := now }
  written : tables' =
    { tables with
      attempts := tables.attempts.update attemptId nextAttempt
      execution := some state }

theorem settleOperation_spec {capability : Bool} {current : Nat → Bool} {tables tables' : Tables}
    {stateDigest attemptId attemptDigest ownerId : String} {context : ExecutionContext}
    {stateName : StateName} {code : String} {now : Instant} {state : ApplicationExecutionState}
    (h : settleOperation capability current tables stateDigest attemptId attemptDigest ownerId
      context stateName code now = .ok (tables', state)) :
    ∃ previous attempt nextAttempt, Settled context stateDigest attemptId attemptDigest ownerId
      stateName code now tables previous state attempt nextAttempt tables' := by
  simp only [settleOperation, bind_eq_ok, raiseIf_eq_ok, orRaise_eq_ok, pure_eq_ok,
    Prod.mk.injEq, not_not] at h
  obtain ⟨_, -, _, hname, _, -, previous, hfound, attempt, hrow, _, hclaim, nextAttempt, hattempt,
    nextState, hstate, _, -, _, -, htables, hresult⟩ := h
  have attempt_spec := continueAttempt_spec hattempt
  have state_spec := continueExecutionState_spec hstate
  subst htables hresult
  exact ⟨previous, attempt, nextAttempt.withDigest,
    { claim := requireClaim_spec hfound hrow hclaim
      name := hname
      closed := attempt_spec
      continued := state_spec
      written := rfl }⟩

/-! ## Finalization -/

/-- Finalization found one receipt for each operation and stored their closure. -/
structure Finalized (applicationId : String) (context : ExecutionContext) (stateDigest : String)
    (now : Instant) (tables : Tables) (previous state : ApplicationExecutionState)
    (receipts : List OperationReceipt) (applicationReceipt : ApplicationReceipt)
    (tables' : Tables) : Prop where
  found : tables.execution = some previous
  managed : previous.orchestrationPolicy = some applierOrchestrationPolicy
  intact : previous.verifyIntegrity = true ∧ previous.stateDigest = stateDigest
  partly : previous.state = .partiallyApplied
  complete : previous.nextOperationIndex = context.expectedOperations.length
  unowned : previous.ownerId = none ∧ previous.currentAttemptId = none
  stored : List.Forall₂ (fun entry receipt => finalReceipt tables applicationId now entry =
    .ok receipt) context.expectedOperations.zipIdx receipts
  clock : previous.startedAt ≤ now ∧ previous.updatedAt ≤ now
  closing : context.newApplicationReceiptFromRefs true (receipts.map OperationReceipt.ref) now now =
    .ok applicationReceipt
  absent : tables.applicationReceipt = none
  continued : Continues context previous state
    { previous.toExecutionProgress with
      state := .applied, completedAt := some now, updatedAt := now }
  written : tables' =
    { tables with applicationReceipt := some applicationReceipt, execution := some state }

theorem newApplicationReceipt_current {context : ExecutionContext} {current : Bool}
    {refs : List OperationReceiptRef} {startedAt completedAt : Instant}
    {receipt : ApplicationReceipt}
    (h : context.newApplicationReceiptFromRefs current refs startedAt completedAt = .ok receipt) :
    context.newApplicationReceiptFromRefs true refs startedAt completedAt = .ok receipt := by
  cases current with
  | true => exact h
  | false => simp [ExecutionContext.newApplicationReceiptFromRefs, validateExecutionContext] at h

theorem finalizeApplication_spec {capability : Bool} {current : Nat → Bool}
    {tables tables' : Tables} {applicationId stateDigest : String} {context : ExecutionContext}
    {now : Instant} {state : ApplicationExecutionState}
    (h : finalizeApplication capability current tables applicationId stateDigest context now =
      .ok (tables', state)) :
    ∃ previous receipts applicationReceipt, Finalized applicationId context stateDigest now tables
      previous state receipts applicationReceipt tables' := by
  simp only [finalizeApplication, bind_eq_ok, raiseIf_eq_ok, orRaise_eq_ok, requireManaged,
    requireClockNotBefore_eq_ok] at h
  obtain ⟨_, -, _, -, previous, hfound, _, hpolicy, _, hready, receipts, hreceipts, _, hclock,
    applicationReceipt, hreceipt, _, -, nextState, hstate, _, -, h⟩ := h
  push Not at hpolicy hready
  obtain ⟨hint, hdig, hpartly, hcomplete, howner, hattempt⟩ := hready
  have state_spec := continueExecutionState_spec hstate
  split at h
  · cases h
  · rename_i habsent
    simp only [pure_eq_ok, Prod.mk.injEq] at h
    obtain ⟨htables, hresult⟩ := h
    subst htables hresult
    exact ⟨previous, receipts, applicationReceipt,
      { found := hfound
        managed := hpolicy
        intact := ⟨by simpa using hint, hdig⟩
        partly := hpartly
        complete := hcomplete
        unowned := ⟨howner, hattempt⟩
        stored := mapM_eq_ok.mp hreceipts
        clock := by simpa using hclock
        closing := newApplicationReceipt_current hreceipt
        absent := habsent
        continued := state_spec
        written := rfl }⟩

/-! ## When a transaction commits

The other direction: under valid authority, each transaction commits when the
rows and clocks are as its guards ask. -/

theorem continueExecutionState_ok {context : ExecutionContext}
    {previous : ApplicationExecutionState} (values : ExecutionProgress)
    (howned : previous.identity = context.identity ∧
      previous.continuityAnchor = context.continuityAnchor)
    (hintact : previous.verifyIntegrity = true)
    (hrefs : (∀ ref ∈ values.operationReceiptRefs, ref ≠ "") ∧ values.operationReceiptRefs.Nodup)
    (hcoordination : values.state = .pending ∨ values.state = .partiallyApplied →
      values.ownerId = none ∧ values.currentAttemptId = none) :
    ∃ next, context.continueExecutionState true previous values = .ok next := by
  have happlication : previous.applicationId = context.identity.applicationId := by
    rw [previous.valid.application, howned.1]
  have hmake := make_execution_of_valid (f :=
    { values with
      applicationId := previous.applicationId
      identity := context.identity
      startedAt := previous.startedAt
      continuityAnchor := context.continuityAnchor
      orchestrationPolicy := previous.orchestrationPolicy
      stateDigest := "" }) ⟨happlication, previous.valid.policy, hrefs, hcoordination⟩
  simp only [ExecutionContext.continueExecutionState, bind_eq_ok, validateExecutionContext,
    raiseIf_eq_ok]
  exact ⟨_, (), by simp, (), by simp [hintact], (), by simp [howned, happlication], hmake⟩

theorem newAttempt_ok {context : ExecutionContext} {index : Nat} {operation : WriteOperation}
    (h : context.expectedOperations[index]? = some operation) (now : Instant) :
    ∃ attempt, context.newAttempt true index
      { state := .applying, updatedAt := now, failureCode := none } now = .ok attempt := by
  have hdriver : context.authority.driverIdentity = context.provenance.driverIdentity ∧
      context.authority.remoteAuthority = context.provenance.remoteAuthority := by
    rw [provenance_fields]
    exact ⟨rfl, rfl⟩
  have hcanonical := context.canonical operation (List.mem_of_getElem? h)
  have hmake := make_attempt_of_valid (f :=
    { state := .applying
      updatedAt := now
      failureCode := none
      applicationId := context.identity.applicationId
      operationIdentity := operationIdentity context.identity.applicationId index operation
      operationIndex := index
      operation
      authorityBinding := context.provenance
      driverIdentity := context.authority.driverIdentity
      remoteAuthority := context.authority.remoteAuthority
      requestIdentity :=
        requestIdentity (operationIdentity context.identity.applicationId index operation)
      startedAt := now
      identity := context.identity
      attemptDigest := "" }) ⟨hcanonical, ⟨rfl, rfl, rfl⟩, hdriver, by simp⟩
  simp only [ExecutionContext.newAttempt, bind_eq_ok, validateExecutionContext, raiseIf_eq_ok,
    orRaise_eq_ok]
  exact ⟨_, (), by simp, operation, h, hmake⟩

theorem newReceipt_ok {context : ExecutionContext} {index : Nat} {operation : WriteOperation}
    (h : context.expectedOperations[index]? = some operation) {remoteResult : RemoteResult}
    (hremote : remoteResult.Valid) (startedAt completedAt : Instant) :
    ∃ receipt, context.newReceipt true index remoteResult startedAt completedAt = .ok receipt := by
  have hauthority : context.provenance.applicationId = context.identity.applicationId := by
    rw [provenance_fields]
  have hcanonical := context.canonical operation (List.mem_of_getElem? h)
  have hmake := make_receipt_of_valid (f :=
    { operationReceiptId :=
        operationReceiptId (operationIdentity context.identity.applicationId index operation)
      applicationId := context.identity.applicationId
      identity := context.identity
      operationIdentity := operationIdentity context.identity.applicationId index operation
      operationIndex := index
      canonicalOperation := operation
      requestIdentity :=
        requestIdentity (operationIdentity context.identity.applicationId index operation)
      authorityBinding := context.provenance
      remoteResult, startedAt, completedAt, receiptDigest := "" })
    ⟨hcanonical, hremote, ⟨rfl, hauthority, rfl⟩, rfl, rfl⟩
  simp only [ExecutionContext.newReceipt, bind_eq_ok, validateExecutionContext, raiseIf_eq_ok,
    orRaise_eq_ok, pure_eq_ok]
  exact ⟨_, (), by simp, operation, h, _, hmake, rfl⟩

/-- An attempt made under this context can be continued under it. -/
theorem continueAttempt_ok {context : ExecutionContext} {previous : OperationAttemptState}
    (values : AttemptProgress)
    (howned : previous.identity = context.identity ∧
      context.expectedOperations[previous.operationIndex]? = some previous.operation)
    (hauthority : previous.authorityBinding = context.provenance)
    (hintact : previous.verifyIntegrity = true) (hstate : values.state ≠ .partiallyApplied) :
    ∃ next, context.continueAttempt true previous values = .ok next := by
  have happlication : previous.applicationId = context.identity.applicationId := by
    rw [previous.valid.binding.1, howned.1]
  have hidentity : previous.operationIdentity = operationIdentity context.identity.applicationId
      previous.operationIndex previous.operation := by
    rw [previous.valid.binding.2.1, happlication]
  have hdriver : previous.driverIdentity = context.authority.driverIdentity ∧
      previous.remoteAuthority = context.authority.remoteAuthority := by
    rw [previous.valid.driver.1, previous.valid.driver.2, hauthority, provenance_fields]
    exact ⟨rfl, rfl⟩
  have hanchor : CredentialContinuityAnchor.ofCredential
      previous.authorityBinding.credentialPrincipalIdentity previous.authorityBinding.issuerId
      previous.authorityBinding.credentialInstanceId = .ok context.continuityAnchor := by
    rw [hauthority]
    exact provenance_anchor context
  have hmake := make_attempt_of_valid (f :=
    { previous.toAttemptFields with
      toAttemptProgress := values, identity := context.identity, attemptDigest := "" })
    ⟨previous.valid.canonical,
      ⟨happlication, previous.valid.binding.2.1, previous.valid.binding.2.2⟩,
      previous.valid.driver, hstate⟩
  simp only [ExecutionContext.continueAttempt, bind_eq_ok, validateExecutionContext,
    raiseIf_eq_ok]
  exact ⟨_, (), by simp, (), by simp [hintact], (),
    by simp [howned, happlication, hidentity.symm, previous.valid.binding.2.2.symm],
    context.continuityAnchor, hanchor, (), by simp [hdriver], hmake⟩

/-- The initial state an applier proposes is always well formed. -/
theorem newExecutionState_ok (context : ExecutionContext) (now : Instant) :
    ∃ state, context.newExecutionState true (ExecutionContext.initialProgress now) now
      (some applierOrchestrationPolicy) = .ok state ∧
      state.toExecutionProgress = ExecutionContext.initialProgress now ∧
      state.startedAt = now ∧ state.identity = context.identity ∧
      state.continuityAnchor = context.continuityAnchor ∧
      state.orchestrationPolicy = some applierOrchestrationPolicy := by
  have hmake := make_execution_of_valid (f :=
    { ExecutionContext.initialProgress now with
      applicationId := context.identity.applicationId
      identity := context.identity
      startedAt := now
      continuityAnchor := context.continuityAnchor
      orchestrationPolicy := some applierOrchestrationPolicy
      stateDigest := "" })
    ⟨rfl, .inr rfl, by simp [ExecutionContext.initialProgress], fun _ => ⟨rfl, rfl⟩⟩
  simp only [ExecutionContext.newExecutionState, bind_eq_ok, validateExecutionContext,
    raiseIf_eq_ok]
  exact ⟨_, ⟨(), by simp, hmake⟩, rfl, rfl, rfl, rfl, rfl⟩

/-- On empty tables a proposed initial state is inserted. -/
theorem createExecutionIfAbsent_ok {tables : Tables} {state : ApplicationExecutionState}
    {now : Instant} (hnone : tables.execution = none)
    (hinitial : state.toExecutionProgress = ExecutionContext.initialProgress now) :
    createExecutionIfAbsent true true tables state =
      .ok ({ tables with execution := some state.withDigest }, state.withDigest) := by
  simp only [createExecutionIfAbsent, bind_eq_ok, requireOrchestrationCapability, raiseIf_eq_ok,
    validateExecutionContext, hnone]
  exact ⟨(), by simp, (), by simp [hinitial, ExecutionContext.initialProgress], (), by simp, rfl⟩

/-- Every validity question of a transaction is answered yes. -/
def alwaysCurrent : Nat → Bool := fun _ => true

theorem claimNextOperation_ok {tables : Tables} {previous : ApplicationExecutionState}
    {context : ExecutionContext} {operation : WriteOperation} {ownerId : String} {now : Instant}
    (hfound : tables.execution = some previous)
    (hmanaged : previous.orchestrationPolicy = some applierOrchestrationPolicy)
    (hintact : previous.verifyIntegrity = true)
    (hidle : previous.state = .pending ∨ previous.state = .partiallyApplied)
    (hunowned : previous.ownerId = none ∧ previous.currentAttemptId = none)
    (howned : previous.identity = context.identity ∧
      previous.continuityAnchor = context.continuityAnchor)
    (htoken : ownerToken ownerId = true)
    (hoperation : context.expectedOperations[previous.nextOperationIndex]? = some operation)
    (hclock : previous.startedAt ≤ now ∧ previous.updatedAt ≤ now)
    (hfresh : tables.attempts.lookup (operationIdentity context.identity.applicationId
      previous.nextOperationIndex operation) = none) :
    ∃ tables' state attempt, claimNextOperation true alwaysCurrent tables
      context.identity.applicationId previous.stateDigest context ownerId now =
        .ok (tables', state, attempt) := by
  obtain ⟨attempt, hattempt⟩ := newAttempt_ok hoperation now
  have made := newAttempt_spec hattempt
  have hid : attempt.operationIdentity = operationIdentity context.identity.applicationId
      previous.nextOperationIndex operation := by
    have hop : operation = attempt.operation :=
      Option.some.inj (hoperation.symm.trans made.operation)
    have hindex : attempt.operationIndex = previous.nextOperationIndex := made.operationIndex
    have happ : attempt.applicationId = context.identity.applicationId := by
      rw [attempt.valid.binding.1]
      exact congrArg _ made.identity
    rw [attempt.valid.binding.2.1, happ, hindex, hop]
  have hprogress : attempt.toAttemptProgress =
      { state := .applying, updatedAt := now, failureCode := none } := made.progress
  have hstarted : attempt.startedAt = now := made.startedAt
  obtain ⟨candidate, hcandidate⟩ := continueExecutionState_ok
    { previous.toExecutionProgress with
      state := .applying
      ownerId := some ownerId
      currentAttemptId := some attempt.operationIdentity
      updatedAt := now } howned hintact previous.valid.refs (by simp)
  obtain ⟨attempts, hinsert⟩ := Rows.insert_isSome attempt.withDigest (hid ▸ hfresh)
  have hlength := (List.getElem?_eq_some_iff.mp hoperation).1
  simp only [claimNextOperation, bind_eq_ok, requireOrchestrationCapability, raiseIf_eq_ok,
    validateExecutionContext, orRaise_eq_ok, requireManaged, requireClockNotBefore_eq_ok]
  exact ⟨_, _, _, (), by simp, (), by simp [htoken], (), by simp [alwaysCurrent], (), by simp,
    previous, hfound, (), by simp [hmanaged], (), by simp [hintact], (),
    by simp [hidle, hunowned], (), by simpa using hlength, (), by simp [hclock], attempt, hattempt,
    (), by simp [hprogress, hstarted], candidate, hcandidate, (), by simp [alwaysCurrent], (),
    by simp [alwaysCurrent], attempts, hinsert, rfl⟩

theorem requireClaim_ok {stateDigest attemptId attemptDigest ownerId : String} {tables : Tables}
    {previous : ApplicationExecutionState} {attempt : OperationAttemptState}
    (h : HeldClaim stateDigest attemptId attemptDigest ownerId tables previous attempt) :
    requireClaim previous attempt stateDigest attemptId attemptDigest ownerId = .ok () := by
  simp only [requireClaim, requireManaged, bind_eq_ok, raiseIf_eq_ok]
  exact ⟨(), by simp [h.managed], by simp [h.intact, h.applying, h.owner, h.currentAttempt,
    h.attemptIntact, h.attemptApplying]⟩

theorem settleOperation_ok {tables : Tables} {previous : ApplicationExecutionState}
    {attempt : OperationAttemptState} {context : ExecutionContext}
    {stateDigest attemptId attemptDigest ownerId : String} {stateName : StateName}
    (hclaim : HeldClaim stateDigest attemptId attemptDigest ownerId tables previous attempt)
    (howned : previous.identity = context.identity ∧
      previous.continuityAnchor = context.continuityAnchor)
    (hattempt : attempt.identity = context.identity ∧
      context.expectedOperations[attempt.operationIndex]? = some attempt.operation)
    (hauthority : attempt.authorityBinding = context.provenance) (hname : stateName.Settled)
    (code : String) (now : Instant) :
    ∃ tables' state, settleOperation true alwaysCurrent tables stateDigest attemptId attemptDigest
      ownerId context stateName code now = .ok (tables', state) := by
  have hstate : stateName ≠ .pending ∧ stateName ≠ .partiallyApplied := by
    rcases hname with h | h | h <;> rw [h] <;> decide
  obtain ⟨nextAttempt, hnextAttempt⟩ := continueAttempt_ok
    { state := stateName, updatedAt := now, failureCode := some code } hattempt hauthority
    hclaim.attemptIntact.1 hstate.2
  obtain ⟨nextState, hnextState⟩ := continueExecutionState_ok
    { previous.toExecutionProgress with
      state := stateName, ownerId := none, recoveryCode := some code, updatedAt := now } howned
    hclaim.intact.1 previous.valid.refs (by simp [hstate])
  simp only [settleOperation, bind_eq_ok, requireOrchestrationCapability, raiseIf_eq_ok,
    validateExecutionContext, orRaise_eq_ok]
  exact ⟨_, _, (), by simp, (), by simp [hname], (), by simp [alwaysCurrent], previous,
    hclaim.found, attempt, hclaim.row, (), requireClaim_ok hclaim, nextAttempt, hnextAttempt,
    nextState, hnextState, (), by simp [alwaysCurrent], (), by simp [alwaysCurrent], rfl⟩

theorem completeOperationSuccess_ok {tables : Tables} {previous : ApplicationExecutionState}
    {attempt : OperationAttemptState} {context : ExecutionContext}
    {stateDigest attemptId attemptDigest ownerId : String} {receipt : LiveReceipt context}
    {now : Instant}
    (hclaim : HeldClaim stateDigest attemptId attemptDigest ownerId tables previous attempt)
    (howned : previous.identity = context.identity ∧
      previous.continuityAnchor = context.continuityAnchor)
    (hattempt : attempt.identity = context.identity ∧
      context.expectedOperations[attempt.operationIndex]? = some attempt.operation)
    (hauthority : attempt.authorityBinding = context.provenance)
    (hindex : receipt.val.operationIndex = attempt.operationIndex)
    (hclock : previous.startedAt ≤ now ∧ previous.updatedAt ≤ now ∧ attempt.startedAt ≤ now ∧
      attempt.updatedAt ≤ now)
    (hreceiptClock : receipt.val.startedAt ≤ now ∧ receipt.val.completedAt ≤ now)
    (hrefs : receipt.val.operationReceiptId ∉ previous.operationReceiptRefs)
    (hfresh : tables.operationReceipts.lookup receipt.val.operationIdentity = none) :
    ∃ tables' state, completeOperationSuccess true alwaysCurrent tables
      context.identity.applicationId stateDigest attemptId attemptDigest ownerId context receipt
      now = .ok (tables', state) := by
  obtain ⟨index, remoteResult, startedAt, completedAt, hmint⟩ := receipt.property
  have hr := newReceipt_spec hmint
  have happ : receipt.val.applicationId = context.identity.applicationId := by
    rw [receipt.val.valid.binding.1, hr.identity]
  have hidentity : receipt.val.operationIdentity = attempt.operationIdentity := by
    have happ' : attempt.applicationId = context.identity.applicationId := by
      rw [attempt.valid.binding.1, hattempt.1]
    have hop : receipt.val.canonicalOperation = attempt.operation := by
      have hs := hr.operation
      rw [← hr.operationIndex, hindex, hattempt.2] at hs
      exact (Option.some.inj hs).symm
    rw [receipt.val.valid.binding.2.2, attempt.valid.binding.2.1, happ, happ', hindex, hop]
  have hreceiptId := receipt.val.operationReceiptId_ne_empty
  obtain ⟨nextAttempt, hnextAttempt⟩ := continueAttempt_ok
    { attempt.toAttemptProgress with state := .applied, updatedAt := now } hattempt hauthority
    hclaim.attemptIntact.1 (by simp)
  obtain ⟨nextState, hnextState⟩ := continueExecutionState_ok
    { previous.toExecutionProgress with
      state := .partiallyApplied
      nextOperationIndex := previous.nextOperationIndex + 1
      operationReceiptRefs := previous.operationReceiptRefs ++ [receipt.val.operationReceiptId]
      ownerId := none
      currentAttemptId := none
      updatedAt := now } howned hclaim.intact.1
    ⟨by simpa [or_imp, forall_and, hreceiptId] using previous.valid.refs.1,
      previous.valid.refs.2.append (List.nodup_singleton _) (by simpa using hrefs)⟩ (by simp)
  obtain ⟨receipts, hinsert⟩ := Rows.insert_isSome receipt.val hfresh
  have hbinding : ¬(receipt.val.applicationId ≠ context.identity.applicationId ∨
      receipt.val.operationIndex ≠ attempt.operationIndex ∨
      receipt.val.operationIdentity ≠ attempt.operationIdentity) := by
    rw [not_or, not_or, not_ne_iff, not_ne_iff, not_ne_iff]
    exact ⟨happ, hindex, hidentity⟩
  have hclocks : ∀ value ∈ [previous.startedAt, previous.updatedAt, attempt.startedAt,
      attempt.updatedAt], value ≤ now := by
    simpa using hclock
  have hreceiptClocks : ∀ value ∈ [receipt.val.startedAt, receipt.val.completedAt],
      value ≤ now := by
    simpa using hreceiptClock
  have hcurrent : ∀ n, ¬alwaysCurrent n = false := by simp [alwaysCurrent]
  simp only [completeOperationSuccess, bind_eq_ok, requireOrchestrationCapability, raiseIf_eq_ok,
    validateExecutionContext, orRaise_eq_ok, requireClockNotBefore_eq_ok,
    liveReceipt_withDigest receipt]
  exact ⟨_, _, (), by simp, (), hcurrent 0, previous, hclaim.found, attempt, hclaim.row, (),
    requireClaim_ok hclaim, (), hbinding, (), hclocks, (), hreceiptClocks, (), hcurrent 1,
    nextAttempt, hnextAttempt, nextState, hnextState, (), hcurrent 4, (), hcurrent 5, receipts,
    hinsert, rfl⟩

theorem newApplicationReceipt_ok (context : ExecutionContext)
    {receipts : List OperationReceipt} (now : Instant) (hnonempty : receipts ≠ [])
    (hdistinct : (receipts.map OperationReceipt.ref).Nodup)
    (hintact : ∀ r ∈ receipts, r.verifyIntegrity = true) :
    ∃ receipt, context.newApplicationReceiptFromRefs true (receipts.map OperationReceipt.ref) now
      now = .ok receipt := by
  have hset : context.operationSetDigest ≠ "" :=
    context.identity.valid.1 _ (by simp [ApplicationBinding.texts, ExecutionContext.operationSetDigest])
  have hrefs : ∀ ref ∈ receipts.map OperationReceipt.ref,
      ref.operationReceiptId ≠ "" ∧ ref.operationReceiptDigest ≠ "" := by
    intro ref href
    obtain ⟨r, hr, rfl⟩ := List.mem_map.mp href
    have hdigest := hintact r hr
    simp only [OperationReceipt.verifyIntegrity, Bool.and_eq_true, decide_eq_true_eq] at hdigest
    exact ⟨r.operationReceiptId_ne_empty, hdigest.1⟩
  have hmake := make_applicationReceipt_of_valid (f :=
    { applicationReceiptId := applicationReceiptId context.identity.applicationId
      applicationId := context.identity.applicationId
      identity := context.identity
      operationSetDigest := context.operationSetDigest
      operationReceiptRefs := receipts.map OperationReceipt.ref
      status := "Applied"
      startedAt := now
      completedAt := now
      receiptDigest := "" })
    ⟨⟨rfl, hset⟩, ⟨rfl, rfl, by simpa using hnonempty⟩, hdistinct, hrefs⟩
  simp only [ExecutionContext.newApplicationReceiptFromRefs, bind_eq_ok, validateExecutionContext,
    raiseIf_eq_ok]
  exact ⟨_, (), by simp, _, hmake, rfl⟩

theorem finalizeApplication_ok {tables : Tables} {previous : ApplicationExecutionState}
    {context : ExecutionContext} {receipts : List OperationReceipt} {now : Instant}
    (hfound : tables.execution = some previous)
    (hmanaged : previous.orchestrationPolicy = some applierOrchestrationPolicy)
    (hintact : previous.verifyIntegrity = true) (hpartly : previous.state = .partiallyApplied)
    (hcomplete : previous.nextOperationIndex = context.expectedOperations.length)
    (hunowned : previous.ownerId = none ∧ previous.currentAttemptId = none)
    (howned : previous.identity = context.identity ∧
      previous.continuityAnchor = context.continuityAnchor)
    (hreceipts : List.Forall₂ (fun entry receipt => finalReceipt tables
      context.identity.applicationId now entry = .ok receipt) context.expectedOperations.zipIdx
      receipts)
    (hnonempty : receipts ≠ []) (hdistinct : (receipts.map OperationReceipt.ref).Nodup)
    (hreceiptsIntact : ∀ r ∈ receipts, r.verifyIntegrity = true)
    (hclock : previous.startedAt ≤ now ∧ previous.updatedAt ≤ now)
    (habsent : tables.applicationReceipt = none) :
    ∃ tables' state, finalizeApplication true alwaysCurrent tables context.identity.applicationId
      previous.stateDigest context now = .ok (tables', state) := by
  obtain ⟨receipt, hreceipt⟩ := newApplicationReceipt_ok context now hnonempty
    hdistinct hreceiptsIntact
  obtain ⟨nextState, hnextState⟩ := continueExecutionState_ok
    { previous.toExecutionProgress with
      state := .applied, completedAt := some now, updatedAt := now } howned hintact
    previous.valid.refs (by simp)
  have hcurrent : ∀ n, ¬alwaysCurrent n = false := by simp [alwaysCurrent]
  have hclocks : ∀ value ∈ [previous.startedAt, previous.updatedAt], value ≤ now := by
    simpa using hclock
  simp only [finalizeApplication, bind_eq_ok, requireOrchestrationCapability, raiseIf_eq_ok,
    validateExecutionContext, orRaise_eq_ok, requireManaged, requireClockNotBefore_eq_ok, habsent]
  exact ⟨_, _, (), by simp, (), hcurrent 0, previous, hfound, (), by simp [hmanaged], (),
    by simp [hintact, hpartly, hcomplete, hunowned], receipts, mapM_eq_ok.mpr hreceipts, (),
    hclocks, receipt, hreceipt, (), hcurrent 2, nextState, hnextState, (), hcurrent 4, rfl⟩

end
end DeliverySystem.ExecutionTransactions

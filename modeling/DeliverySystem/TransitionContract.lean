import DeliverySystem.ExecutionInvariant

/-!
# The generic transition contract

The generic store functions check every new state and attempt against a table of
transitions and against what may change with them. The orchestrated transactions
never call those checks; in a reachable database what they commit passes them,
because of their own guards and of what earlier transactions left.
-/
namespace DeliverySystem.TransitionContract
open PythonValues WriteOperations ApplicationIdentity ExecutionRecords ExecutionContexts
open KeyedRows ExecutionStore ExecutionTransactions ExecutionInvariant
set_option autoImplicit false

/-! ## The contract -/

/-- `_ATTEMPT_TRANSITIONS`; an attempt is never `PartiallyApplied`. -/
def attemptTransitions : StateName → List StateName
  | .pending => [.applying, .failed, .blocked]
  | .applying => [.applied, .failed, .blocked, .outcomeUnknown]
  | .partiallyApplied | .failed | .blocked | .outcomeUnknown | .applied => []

/-- `_APPLICATION_TRANSITIONS`. -/
def applicationTransitions : StateName → List StateName
  | .pending => [.applying, .failed, .blocked]
  | .applying => [.partiallyApplied, .failed, .blocked, .outcomeUnknown]
  | .partiallyApplied => [.applying, .failed, .blocked]
  | .failed | .blocked | .outcomeUnknown | .applied => []

/-- `not value`, of an optional text. -/
def absentText (value : Option String) : Bool := value.getD "" = ""

section
variable [PythonLibrary]

def validateAttemptTransition (previous candidate : OperationAttemptState) : Py Unit :=
  raiseIf (candidate.state ∉ attemptTransitions previous.state) "attempt_state_transition_invalid"

/-- Progress moves by at most one receipt, and only when an operation completes. -/
def validateProgress (previous candidate : ApplicationExecutionState) : Py Unit := do
  raiseIf (previous.nextOperationIndex ≠ previous.operationReceiptRefs.length ∨
    candidate.nextOperationIndex ≠ candidate.operationReceiptRefs.length)
    "application_progress_invalid"
  let progressDelta : Int := candidate.nextOperationIndex - previous.nextOperationIndex
  raiseIf (progressDelta ∉ ([0, 1] : List Int)) "application_progress_invalid"
  raiseIf ((previous.state ≠ .applying ∨ candidate.state ≠ .partiallyApplied) ∧
    (progressDelta ≠ 0 ∨ candidate.operationReceiptRefs ≠ previous.operationReceiptRefs))
    "application_progress_invalid"
  raiseIf (progressDelta = 0 ∧ candidate.operationReceiptRefs ≠ previous.operationReceiptRefs)
    "application_progress_invalid"
  raiseIf (progressDelta = 1 ∧
    candidate.operationReceiptRefs.dropLast ≠ previous.operationReceiptRefs)
    "application_progress_invalid"

/-- Who owns the application, and which attempt is current, before and after. -/
def validateCoordination (previous candidate : ApplicationExecutionState) : Py Unit := do
  let progressDelta : Int := candidate.nextOperationIndex - previous.nextOperationIndex
  if previous.state = .pending ∨ previous.state = .partiallyApplied then
    raiseIf (previous.ownerId ≠ none ∨ previous.currentAttemptId ≠ none)
      "application_coordination_invalid"
    raiseIf (candidate.state = .applying ∧
      (absentText candidate.ownerId = true ∨ absentText candidate.currentAttemptId = true))
      "application_coordination_invalid"
    raiseIf ((candidate.state = .failed ∨ candidate.state = .blocked) ∧
      (candidate.ownerId ≠ none ∨ candidate.currentAttemptId ≠ none))
      "application_coordination_invalid"
  else if previous.state = .applying then
    if candidate.state = .partiallyApplied then
      raiseIf (progressDelta ≠ 1 ∨ candidate.ownerId ≠ none ∨ candidate.currentAttemptId ≠ none)
        "application_coordination_invalid"
    else
      raiseIf ((candidate.state = .failed ∨ candidate.state = .blocked ∨
          candidate.state = .outcomeUnknown) ∧
        (progressDelta ≠ 0 ∨ candidate.operationReceiptRefs ≠ previous.operationReceiptRefs ∨
          candidate.currentAttemptId ≠ previous.currentAttemptId ∨
          candidate.ownerId ∉ [none, previous.ownerId])) "application_coordination_invalid"
  else pure ()

def validateApplicationTransition (previous candidate : ApplicationExecutionState) : Py Unit := do
  raiseIf (candidate.state ∉ applicationTransitions previous.state)
    "application_state_transition_invalid"
  raiseIf (previous.applicationId ≠ candidate.applicationId ∨
    previous.identity ≠ candidate.identity ∨
    previous.continuityAnchor ≠ candidate.continuityAnchor ∨
    previous.startedAt ≠ candidate.startedAt) "application_binding_conflict"
  raiseIf (previous.orchestrationPolicy ≠ candidate.orchestrationPolicy)
    "application_orchestration_policy_invalid"
  raiseIf (previous.completedAt ≠ none ∧ candidate.completedAt ≠ previous.completedAt)
    "application_coordination_invalid"
  validateProgress previous candidate
  validateCoordination previous candidate

/-! ## What passes it -/

/-- What no transaction changes. -/
structure KeepsBinding (previous candidate : ApplicationExecutionState) : Prop where
  applicationId : candidate.applicationId = previous.applicationId
  identity : candidate.identity = previous.identity
  continuityAnchor : candidate.continuityAnchor = previous.continuityAnchor
  startedAt : candidate.startedAt = previous.startedAt
  orchestrationPolicy : candidate.orchestrationPolicy = previous.orchestrationPolicy

theorem Continues.keepsBinding {context : ExecutionContext}
    {previous next : ApplicationExecutionState} {values : ExecutionProgress}
    (h : Continues context previous next values) : KeepsBinding previous next :=
  ⟨h.applicationId, h.identity, h.continuityAnchor, h.startedAt, h.orchestrationPolicy⟩

/-- The parts of the contract that are left to a transaction. -/
theorem validateApplicationTransition_ok {previous candidate : ApplicationExecutionState}
    (hbinding : KeepsBinding previous candidate)
    (htransition : candidate.state ∈ applicationTransitions previous.state)
    (hcompleted : candidate.completedAt = previous.completedAt)
    (hprogress : validateProgress previous candidate = .ok ())
    (hcoordination : validateCoordination previous candidate = .ok ()) :
    validateApplicationTransition previous candidate = .ok () := by
  simp only [validateApplicationTransition, bind_eq_ok, raiseIf_eq_ok]
  refine ⟨(), not_not.mpr htransition, (), ?_, (), ?_, (), ?_, (), hprogress, hcoordination⟩
  · rw [hbinding.applicationId, hbinding.identity, hbinding.continuityAnchor, hbinding.startedAt]
    simp
  · rw [hbinding.orchestrationPolicy]
    simp
  · rw [hcompleted]
    simp

/-- Without a new receipt, progress is what it was. -/
theorem validateProgress_same {previous candidate : ApplicationExecutionState}
    (hcount : previous.nextOperationIndex = previous.operationReceiptRefs.length)
    (hnext : candidate.nextOperationIndex = previous.nextOperationIndex)
    (hrefs : candidate.operationReceiptRefs = previous.operationReceiptRefs) :
    validateProgress previous candidate = .ok () := by
  have hdelta : ((candidate.nextOperationIndex : Int) - previous.nextOperationIndex) = 0 := by
    rw [hnext]
    omega
  simp only [validateProgress, bind_eq_ok, raiseIf_eq_ok, hdelta]
  rw [hnext, hrefs, hcount]
  exact ⟨(), by simp, (), by simp, (), by simp, (), by simp, by simp⟩

theorem validateProgress_completed {previous candidate : ApplicationExecutionState}
    (hcount : previous.nextOperationIndex = previous.operationReceiptRefs.length)
    (hnext : candidate.nextOperationIndex = previous.nextOperationIndex + 1) {ref : String}
    (hrefs : candidate.operationReceiptRefs = previous.operationReceiptRefs ++ [ref])
    (happlying : previous.state = .applying) (hpartly : candidate.state = .partiallyApplied) :
    validateProgress previous candidate = .ok () := by
  have hdelta : ((candidate.nextOperationIndex : Int) - previous.nextOperationIndex) = 1 := by
    rw [hnext]
    omega
  have hlength : candidate.nextOperationIndex = candidate.operationReceiptRefs.length := by
    rw [hnext, hrefs, hcount, List.length_append, List.length_singleton]
  simp only [validateProgress, bind_eq_ok, raiseIf_eq_ok, hdelta]
  refine ⟨(), ?_, (), by simp, (), ?_, (), by simp, ?_⟩
  · exact not_or.mpr ⟨not_not.mpr hcount, not_not.mpr hlength⟩
  · simp [happlying, hpartly]
  · rw [hrefs, List.dropLast_concat]
    simp

/-! ## The orchestrated transactions -/

variable {operations : SealedOperations} {applicationId : String}
variable {context : ExecutionContext} {t t' : Tables}
variable {previous state : ApplicationExecutionState}

/-- A stored state counts its receipts. -/
theorem Invariant.counted (h : Invariant operations applicationId t)
    (hs : t.execution = some previous) :
    previous.nextOperationIndex = previous.operationReceiptRefs.length := by
  obtain ⟨receipts, closed, opened, hp⟩ := h.progress hs
  have hlength := congrArg List.length hp.receiptIndices
  rw [List.length_map, List.length_range] at hlength
  rw [hp.receiptRefs, List.length_map, hlength]

theorem claimed_transition {expectedDigest ownerId : String} {now : Instant}
    {attempt : OperationAttemptState} (hinv : Invariant operations applicationId t)
    (h : Claimed context expectedDigest ownerId now t previous state attempt t') :
    validateApplicationTransition previous state = .ok () := by
  have hc := h.continued
  have hstate : state.state = .applying := by rw [hc.progress]
  have howner : state.ownerId = some ownerId := by rw [hc.progress]
  have hattempt : state.currentAttemptId = some attempt.operationIdentity := by rw [hc.progress]
  have hnamed : ownerId ≠ "" := by
    have htoken := h.token
    rintro rfl
    revert htoken
    decide
  have hidentity : attempt.operationIdentity ≠ "" := by
    rw [attempt.valid.binding.2.1]
    exact operationIdentity_ne_empty _ _ _
  apply validateApplicationTransition_ok (Continues.keepsBinding hc)
  · rw [hstate]
    rcases h.idle with hidle | hidle <;> simp [hidle, applicationTransitions]
  · rw [hc.progress]
  · exact validateProgress_same (Invariant.counted hinv h.found) (by rw [hc.progress])
      (by rw [hc.progress])
  · simp [validateCoordination, h.idle, h.unowned, hstate, howner, hattempt, absentText, hnamed,
      hidentity]

theorem completed_transition {stateDigest attemptId attemptDigest ownerId : String}
    {receipt : OperationReceipt} {now : Instant} {attempt nextAttempt : OperationAttemptState}
    (hinv : Invariant operations applicationId t)
    (h : Completed context stateDigest attemptId attemptDigest ownerId receipt now t previous
      state attempt nextAttempt t') :
    validateApplicationTransition previous state = .ok () ∧
      validateAttemptTransition attempt nextAttempt = .ok () := by
  have hc := h.continued
  have hstate : state.state = .partiallyApplied := by rw [hc.progress]
  have hnext : state.nextOperationIndex = previous.nextOperationIndex + 1 := by rw [hc.progress]
  have hunowned : state.ownerId = none ∧ state.currentAttemptId = none := by
    rw [hc.progress]
    exact ⟨rfl, rfl⟩
  have hdelta : ((state.nextOperationIndex : Int) - previous.nextOperationIndex) = 1 := by
    rw [hnext]
    omega
  have happlying := h.claim.applying
  constructor
  · apply validateApplicationTransition_ok (Continues.keepsBinding hc)
    · rw [hstate, happlying]
      decide
    · rw [hc.progress]
    · exact validateProgress_completed (Invariant.counted hinv h.claim.found) hnext
        (by rw [hc.progress]) happlying hstate
    · simp [validateCoordination, happlying, hstate, hdelta, hunowned]
  · have hclosed : nextAttempt.state = .applied := by rw [h.closed.progress]
    rw [validateAttemptTransition, raiseIf_eq_ok, hclosed, h.claim.attemptApplying]
    decide

theorem settled_transition {stateDigest attemptId attemptDigest ownerId : String}
    {stateName : StateName} {code : String} {now : Instant}
    {attempt nextAttempt : OperationAttemptState} (hinv : Invariant operations applicationId t)
    (h : Settled context stateDigest attemptId attemptDigest ownerId stateName code now t previous
      state attempt nextAttempt t') :
    validateApplicationTransition previous state = .ok () ∧
      validateAttemptTransition attempt nextAttempt = .ok () := by
  have hc := h.continued
  have hstate : state.state = stateName := by rw [hc.progress]
  have hnext : state.nextOperationIndex = previous.nextOperationIndex := by rw [hc.progress]
  have hrefs : state.operationReceiptRefs = previous.operationReceiptRefs := by rw [hc.progress]
  have howner : state.ownerId = none := by rw [hc.progress]
  have hcurrent : state.currentAttemptId = previous.currentAttemptId := by rw [hc.progress]
  have hpartly : stateName ≠ .partiallyApplied := by
    rintro rfl
    exact absurd h.name (by decide)
  have happlying := h.claim.applying
  constructor
  · apply validateApplicationTransition_ok (Continues.keepsBinding hc)
    · rw [hstate, happlying]
      rcases h.name with hname | hname | hname <;> simp [hname, applicationTransitions]
    · rw [hc.progress]
    · exact validateProgress_same (Invariant.counted hinv h.claim.found) hnext hrefs
    · simp [validateCoordination, happlying, hstate, hpartly, hnext, hrefs, howner, hcurrent]
  · have hclosed : nextAttempt.state = stateName := by rw [h.closed.progress]
    rw [validateAttemptTransition, raiseIf_eq_ok, hclosed, h.claim.attemptApplying]
    rcases h.name with hname | hname | hname <;> simp [hname, attemptTransitions]

/-- What finalization commits: the last state, over a receipt for each operation. -/
structure FinalStep (context : ExecutionContext) (applicationId : String) (t : Tables)
    (previous state : ApplicationExecutionState) : Prop where
  partly : previous.state = .partiallyApplied
  applied : state.state = .applied
  binding : KeepsBinding previous state
  refs : state.operationReceiptRefs = previous.operationReceiptRefs ∧
    state.nextOperationIndex = previous.nextOperationIndex
  receipted : previous.nextOperationIndex = context.expectedOperations.length ∧
    ∀ i operation, context.expectedOperations[i]? = some operation →
      ∃ r, t.operationReceipts.lookup (operationIdentity applicationId i operation) = some r ∧
        r.operationIndex = i ∧ r.verifyIntegrity = true

theorem finalized_step {stateDigest : String} {now : Instant} {receipts : List OperationReceipt}
    {applicationReceipt : ApplicationReceipt}
    (h : Finalized applicationId context stateDigest now t previous state receipts
      applicationReceipt t') : FinalStep context applicationId t previous state := by
  have hc := h.continued
  refine ⟨h.partly, by rw [hc.progress], Continues.keepsBinding hc, by rw [hc.progress]; simp,
    h.complete, ?_⟩
  intro i operation hoperation
  have hentry : context.expectedOperations.zipIdx[i]? = some (operation, i) := by
    rw [List.getElem?_zipIdx, hoperation, Option.map_some, Nat.zero_add]
  obtain ⟨hi, hat⟩ := List.getElem?_eq_some_iff.mp hentry
  have hj : i < receipts.length := h.stored.length_eq ▸ hi
  have hreceipt := List.forall₂_iff_get.mp h.stored
  have hfound := hreceipt.2 i hi hj
  rw [List.get_eq_getElem, hat] at hfound
  simp only [finalReceipt, bind_eq_ok, orRaise_eq_ok, raiseIf_eq_ok, pure_eq_ok, not_or,
    Bool.not_eq_false, ne_eq, not_not] at hfound
  obtain ⟨r, hrow, _, ⟨hintact, hindex⟩, _, -, -⟩ := hfound
  exact ⟨r, hrow, hindex, hintact⟩

/-- The orchestrated transactions refine the contract: whatever they commit in a
reachable database passes the checks that they never call. -/
theorem orchestrated_refines_contract {db : Database} (h : Reachable operations db)
    (applicationId : String) :
    (∀ {capability : Bool} {current : Nat → Bool} {expectedDigest ownerId : String}
        {context : ExecutionContext} {now : Instant} {tables : Tables}
        {state : ApplicationExecutionState} {attempt : OperationAttemptState},
      claimNextOperation capability current (db applicationId) applicationId expectedDigest context
          ownerId now = .ok (tables, state, attempt) →
      ∃ previous, (db applicationId).execution = some previous ∧
        tables.execution = some state ∧
        (db applicationId).attempts.lookup attempt.operationIdentity = none ∧
        validateApplicationTransition previous state = .ok ()) ∧
    (∀ {capability : Bool} {current : Nat → Bool}
        {stateDigest attemptId attemptDigest ownerId : String} {context : ExecutionContext}
        {receipt : LiveReceipt context} {now : Instant} {tables : Tables}
        {state : ApplicationExecutionState},
      completeOperationSuccess capability current (db applicationId) applicationId stateDigest
          attemptId attemptDigest ownerId context receipt now = .ok (tables, state) →
      ∃ previous attempt nextAttempt, (db applicationId).execution = some previous ∧
        (db applicationId).attempts.lookup attemptId = some attempt ∧
        tables.execution = some state ∧
        tables.attempts = (db applicationId).attempts.update attemptId nextAttempt ∧
        validateApplicationTransition previous state = .ok () ∧
        validateAttemptTransition attempt nextAttempt = .ok ()) ∧
    (∀ {capability : Bool} {current : Nat → Bool}
        {stateDigest attemptId attemptDigest ownerId : String} {context : ExecutionContext}
        {stateName : StateName} {code : String} {now : Instant} {tables : Tables}
        {state : ApplicationExecutionState},
      settleOperation capability current (db applicationId) stateDigest attemptId attemptDigest
          ownerId context stateName code now = .ok (tables, state) →
      ∃ previous attempt nextAttempt, (db applicationId).execution = some previous ∧
        (db applicationId).attempts.lookup attemptId = some attempt ∧
        tables.execution = some state ∧
        tables.attempts = (db applicationId).attempts.update attemptId nextAttempt ∧
        validateApplicationTransition previous state = .ok () ∧
        validateAttemptTransition attempt nextAttempt = .ok ()) ∧
    ∀ {capability : Bool} {current : Nat → Bool} {stateDigest : String}
        {context : ExecutionContext} {now : Instant} {tables : Tables}
        {state : ApplicationExecutionState},
      finalizeApplication capability current (db applicationId) applicationId stateDigest context
          now = .ok (tables, state) →
      ∃ previous, (db applicationId).execution = some previous ∧
        tables.execution = some state ∧
        FinalStep context applicationId (db applicationId) previous state := by
  have hinv := reachable_invariant h applicationId
  refine ⟨?_, ?_, ?_, ?_⟩
  · intro _ _ _ _ context _ tables state attempt hclaim
    obtain ⟨previous, hclaimed⟩ := claimNextOperation_spec hclaim
    obtain ⟨attempts, hinsert, rfl⟩ := hclaimed.inserted
    exact ⟨previous, hclaimed.found, rfl, (Rows.insert_eq_some hinsert).1,
      claimed_transition hinv hclaimed⟩
  · intro _ _ _ _ _ _ context _ _ tables state hcomplete
    obtain ⟨previous, attempt, nextAttempt, hcompleted⟩ := completeOperationSuccess_spec hcomplete
    obtain ⟨rows, -, htables⟩ := hcompleted.inserted
    refine ⟨previous, attempt, nextAttempt, hcompleted.claim.found, hcompleted.claim.row,
      by rw [htables], by rw [htables], completed_transition hinv hcompleted⟩
  · intro _ _ _ _ _ _ context _ _ _ tables state hsettle
    obtain ⟨previous, attempt, nextAttempt, hsettled⟩ := settleOperation_spec hsettle
    refine ⟨previous, attempt, nextAttempt, hsettled.claim.found, hsettled.claim.row,
      by rw [hsettled.written], by rw [hsettled.written], settled_transition hinv hsettled⟩
  · intro _ _ _ context _ tables state hfinalize
    obtain ⟨previous, receipts, applicationReceipt, hfinalized⟩ :=
      finalizeApplication_spec hfinalize
    exact ⟨previous, hfinalized.found, by rw [hfinalized.written], finalized_step hfinalized⟩

end

/-- The claim of the sample run, over the reference library. -/
theorem sample_claim_refines : ∃ (_ : PythonLibrary) (db : Database)
    (previous state : ApplicationExecutionState), Reachable sampleOperations db ∧
      (db sampleApplication).execution = some previous ∧
      validateApplicationTransition previous state = .ok () ∧ state.state = .applying := by
  let library := ReferenceLibrary.referenceLibrary
  obtain ⟨s, hcreated, hcreate⟩ := sample_created 0
  obtain ⟨tables, s', a, hclaim⟩ := sample_claim_ok hcreated (by decide : (0 : Instant) ≤ 10)
  obtain ⟨db, hdb, htables⟩ := Orchestrated.reachable .refl hcreate
  rw [← htables] at hclaim
  obtain ⟨previous, hfound, -, -, hvalid⟩ :=
    (orchestrated_refines_contract hdb sampleApplication).1 hclaim
  obtain ⟨previous', hclaimed⟩ := claimNextOperation_spec hclaim
  exact ⟨library, db, previous, s', hdb, hfound, hvalid, by rw [hclaimed.continued.progress]⟩

end DeliverySystem.TransitionContract

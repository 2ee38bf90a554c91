import DeliverySystem.Applier
import DeliverySystem.SequentialLedger

/-!
# Applier runs keep a ledger

The runs of one application work through its operations as through the items of
a ledger: a committed claim takes the next operation, a call of the remote
performs it, and a stored receipt finishes it. Every step of the system is
matched by steps of the ledger. What carries the argument is that a run between
its claim and the end of the claim is the holder of the ledger, and that its
local variables are then the current rows.
-/
namespace DeliverySystem.ApplierLedger
open PythonValues WriteOperations ApplicationIdentity ExecutionRecords ExecutionContexts
open KeyedRows ExecutionStore ExecutionTransactions ExecutionInvariant ApplicationStatus
open IssueCommands Applier SequentialLedger
set_option autoImplicit false

section
variable [PythonLibrary]

/-! ## The ledger of an application -/

abbrev OperationLedger := Ledger Nat (Py WriteObservation) RemoteResult

abbrev OperationStatus := Status Nat (Py WriteObservation)

/-- The outcomes that a receipt may be stored for: a definitive success whose
evidence was trusted. -/
def Accepted (operations : SealedOperations) (identity : LogicalApplicationIdentity) (index : Nat)
    (outcome : Py WriteObservation) (remote : RemoteResult) : Prop :=
  ∃ (context : ExecutionContext) (attempt : OperationAttemptState) (observation : WriteObservation),
    ContextOf operations identity context ∧
      (operations identity)[index]? = some attempt.operation ∧ attempt.operationIndex = index ∧
      outcome = .ok observation ∧ observation.kind = .definitiveSuccess ∧
      trustedSuccessResult context attempt observation = .ok remote

abbrev LedgerStep (operations : SealedOperations) (identity : LogicalApplicationIdentity) :
    OperationLedger → OperationLedger → Prop :=
  SequentialLedger.Step (operations identity).length (Accepted operations identity)

def Event.entry : Event → Entry Nat (Py WriteObservation)
  | .claimed run attempt _ => .took run attempt.operationIndex
  | .dispatched run attempt _ outcome _ => .performed run attempt.operationIndex outcome

def Owned (status : OperationStatus) (run : Nat) : Prop :=
  status = .held run ∨ ∃ outcome, status = .performed run outcome

/-- The ledger status that the state of an application stands for. -/
def Agrees (state : Option StateName) (status : OperationStatus) : Prop :=
  match state with
  | none | some .pending | some .partiallyApplied => status = .vacant
  | some .applying => ∃ run, Owned status run
  | some .failed | some .blocked | some .outcomeUnknown => status = .stopped
  | some .applied => status = .closed

/-- A claim whose variables are the current rows of the application. -/
structure ClaimHeld (operations : SealedOperations) (identity : LogicalApplicationIdentity)
    (t : Tables) (claim : Claim) : Prop where
  application : ContextOf operations identity claim.context
  rows : HeldClaim claim.state.stateDigest claim.attempt.operationIdentity
    claim.attempt.attemptDigest claim.owner t claim.state claim.attempt
  operation : (operations identity)[claim.attempt.operationIndex]? = some claim.attempt.operation
  index : claim.attempt.operationIndex = claim.state.nextOperationIndex

/-- What holds of a run by where it stands. -/
def PhaseHolds (operations : SealedOperations) (identity : LogicalApplicationIdentity)
    (run : Nat) (t : Tables) (status : OperationStatus) : Phase → Prop
  | .idle | .finished _ | .crashed => True
  | .opening context | .replaying context _ | .looping context _ | .overtaken context _ _ |
      .closing context _ => ContextOf operations identity context
  | .claimed claim | .ready claim _ | .dispatching claim _ =>
      ClaimHeld operations identity t claim ∧ status = .held run
  | .dispatched claim observation | .observed claim observation =>
      ClaimHeld operations identity t claim ∧ status = .performed run (.ok observation)
  | .settling claim _ _ _ => ClaimHeld operations identity t claim ∧ Owned status run

/-- What an event shows of the tables it carries. -/
def EventShows (operations : SealedOperations) (identity : LogicalApplicationIdentity) :
    Event → Prop
  | .claimed _ attempt t =>
      t.attempts.lookup attempt.operationIdentity = some attempt ∧ attempt.state = .applying
  | .dispatched _ attempt _ _ t =>
      (operations identity)[attempt.operationIndex]? = some attempt.operation ∧
        ∀ j < attempt.operationIndex, ∃ operation receipt,
          (operations identity)[j]? = some operation ∧
            t.operationReceipts.lookup (operationIdentity identity.applicationId j operation) =
              some receipt ∧ receipt.operationIndex = j

/-- The ledger that a configuration of the system stands for. -/
structure Represents (operations : SealedOperations) (identity : LogicalApplicationIdentity)
    (c : Config) (l : OperationLedger) : Prop where
  history : l.history = c.trace.map Event.entry
  invariant : Invariant operations identity.applicationId c.tables
  named : ∀ s, c.tables.execution = some s → s.identity = identity
  status : Agrees (c.tables.execution.map (·.state)) l.status
  finished : l.finished = c.tables.operationReceipts.entries.map (·.2.remoteResult)
  phases : ∀ run, PhaseHolds operations identity run c.tables l.status (c.phases run)
  events : ∀ event ∈ c.trace, EventShows operations identity event

variable {operations : SealedOperations} {identity : LogicalApplicationIdentity}
variable {c c' : Config} {l : OperationLedger} {run : Nat}

theorem initial_represents : Represents operations identity Config.initial Ledger.empty where
  history := rfl
  invariant := rfl
  named := by simp [Config.initial, Tables.empty]
  status := rfl
  finished := rfl
  phases := fun _ => trivial
  events := by simp [Config.initial]

/-! ## What a representation says -/

/-- A run that owns nothing keeps what holds of it whatever happens to the rows. -/
theorem PhaseHolds.of_not_owned {t t' : Tables} {status status' : OperationStatus} {phase : Phase}
    (h : PhaseHolds operations identity run t status phase) (hfree : ¬Owned status run) :
    PhaseHolds operations identity run t' status' phase := by
  cases phase with
  | idle | finished | crashed => trivial
  | opening | replaying | looping | overtaken | closing => exact h
  | claimed | ready | dispatching => exact absurd (.inl h.2) hfree
  | dispatched | observed => exact absurd (.inr ⟨_, h.2⟩) hfree
  | settling => exact absurd h.2 hfree

omit [PythonLibrary] in
theorem not_owned_of_vacant {status : OperationStatus} (h : status = .vacant) (run : Nat) :
    ¬Owned status run := by
  simp [Owned, h]

omit [PythonLibrary] in
/-- Two runs never own a ledger together. -/
theorem Owned.unique {status : OperationStatus} {run' : Nat} (h : Owned status run)
    (h' : Owned status run') : run' = run := by
  rcases h with h | ⟨o, h⟩ <;> rcases h' with h' | ⟨o', h'⟩ <;> rw [h] at h' <;> simp at h'
  · exact h'.symm
  · exact h'.1.symm

theorem Represents.at_phase (h : Represents operations identity c l) {phase : Phase}
    (hphase : c.phases run = phase) :
    PhaseHolds operations identity run c.tables l.status phase :=
  hphase ▸ h.phases run

theorem Represents.finished_length (h : Represents operations identity c l)
    {s : ApplicationExecutionState} (hs : c.tables.execution = some s) :
    l.finished.length = s.nextOperationIndex := by
  obtain ⟨receipts, closed, opened, hp⟩ := h.invariant.progress hs
  rw [h.finished, List.length_map, hp.durable.receiptCount]

theorem Represents.vacant (h : Represents operations identity c l)
    {s : ApplicationExecutionState} (hs : c.tables.execution = some s)
    (hidle : s.state = .pending ∨ s.state = .partiallyApplied) : l.status = .vacant := by
  have hagrees := h.status
  rw [hs, Option.map_some] at hagrees
  rcases hidle with hstate | hstate <;> rw [hstate] at hagrees <;> exact hagrees

/-! ## Building the next representation -/

theorem phases_update {phases : Nat → Phase} {t : Tables} {status : OperationStatus} {phase : Phase}
    (hrun : PhaseHolds operations identity run t status phase)
    (hothers : ∀ run', run' ≠ run → PhaseHolds operations identity run' t status (phases run'))
    (run' : Nat) :
    PhaseHolds operations identity run' t status (Function.update phases run phase run') := by
  by_cases hrun' : run' = run
  · subst hrun'
    rw [Function.update_self]
    exact hrun
  · rw [Function.update_of_ne hrun']
    exact hothers run' hrun'

/-- A run moves on and nothing else changes. -/
theorem Represents.setPhase (h : Represents operations identity c l) {phase : Phase}
    (hphase : PhaseHolds operations identity run c.tables l.status phase) :
    Represents operations identity (c.setPhase run phase) l :=
  ⟨h.history, h.invariant, h.named, h.status, h.finished,
    phases_update hphase fun run' _ => h.phases run', h.events⟩

/-- A run commits or calls while no other run owns the ledger. -/
theorem Represents.commit (h : Represents operations identity c l)
    (hfree : ∀ run', run' ≠ run → ¬Owned l.status run') {t' : Tables} {phase : Phase}
    {events : List Event} {l' : OperationLedger}
    (history : l'.history = l.history ++ events.map Event.entry)
    (invariant : Invariant operations identity.applicationId t')
    (named : ∀ s, t'.execution = some s → s.identity = identity)
    (status : Agrees (t'.execution.map (·.state)) l'.status)
    (finished : l'.finished = t'.operationReceipts.entries.map (·.2.remoteResult))
    (hphase : PhaseHolds operations identity run t' l'.status phase)
    (shown : ∀ event ∈ events, EventShows operations identity event) :
    Represents operations identity
      { tables := t', phases := Function.update c.phases run phase, trace := c.trace ++ events }
      l' := by
  refine ⟨?_, invariant, named, status, finished,
    phases_update hphase fun run' hne => (h.phases run').of_not_owned (hfree run' hne), ?_⟩
  · rw [history, h.history, List.map_append]
  · intro event hevent
    rcases List.mem_append.mp hevent with hevent | hevent
    · exact h.events event hevent
    · exact shown event hevent

/-! ## Transactions -/

theorem openExecution_spec {env : Environment} {t t' : Tables} {context : ExecutionContext}
    {state : ApplicationExecutionState} (h : openExecution env t context = .ok (t', state)) :
    ∃ initial, initial.applicationId = context.identity.applicationId ∧
      initial.identity = context.identity ∧ Created t initial state t' := by
  simp only [openExecution, ExecutionContext.newExecutionState, bind_eq_ok] at h
  obtain ⟨initial, ⟨_, -, hmake⟩, h⟩ := h
  have hfields := make_execution_eq_ok hmake
  exact ⟨initial, by rw [hfields], by rw [hfields], createExecutionIfAbsent_spec h⟩

/-- Creation leaves a vacant ledger vacant. -/
theorem Represents.created (h : Represents operations identity c l) {context : ExecutionContext}
    (hcontext : ContextOf operations identity context) {env : Environment} {t' : Tables}
    {state : ApplicationExecutionState} {phase : Phase}
    (hopen : openExecution env c.tables context = .ok (t', state))
    (hphase : ∀ t status, PhaseHolds operations identity run t status phase) :
    Represents operations identity
      { tables := t', phases := Function.update c.phases run phase, trace := c.trace ++ [] } l := by
  obtain ⟨initial, hnamed, hidentity, hcreated⟩ := openExecution_spec hopen
  rw [hcontext.identity_eq] at hnamed hidentity
  have hinvariant := created_invariant hnamed hcreated h.invariant
  rcases hcreated.outcome with ⟨hnone, -, rfl⟩ | ⟨-, rfl, -⟩
  · have hvacant : l.status = .vacant := by
      have hagrees := h.status
      rw [hnone, Option.map_none] at hagrees
      exact hagrees
    refine h.commit (fun run' _ => not_owned_of_vacant hvacant run') (by simp) hinvariant ?_ ?_
      h.finished (hphase _ _) (by simp)
    · intro s hs
      obtain rfl := Option.some.inj hs
      exact hidentity
    · have hpending : initial.withDigest.state = .pending := hcreated.pending.1
      rw [Option.map_some, hpending]
      exact hvacant
  · rw [List.append_nil]
    exact h.setPhase (hphase _ _)

/-- A committed claim takes the next operation. -/
theorem Represents.claimed (h : Represents operations identity c l) {context : ExecutionContext}
    (hcontext : ContextOf operations identity context) {expectedDigest owner : String}
    {now : Instant} {t' : Tables} {previous state : ApplicationExecutionState}
    {attempt : OperationAttemptState}
    (hclaim : Claimed context expectedDigest owner now c.tables previous state attempt t') :
    ∃ l', LedgerStep operations identity l l' ∧
      Represents operations identity
        { tables := t'
          phases := Function.update c.phases run (.claimed { context, state, attempt, owner })
          trace := c.trace ++ [.claimed run attempt t'] } l' := by
  have hvacant := h.vacant hclaim.found hclaim.idle
  have hlength := h.finished_length hclaim.found
  have hnext : attempt.operationIndex = previous.nextOperationIndex := hclaim.made.operationIndex
  have hstate : state.state = .applying := by rw [hclaim.continued.progress]
  have hstateNext : state.nextOperationIndex = previous.nextOperationIndex := by
    rw [hclaim.continued.progress]
  have hoperation := hclaim.made.operation
  rw [← hnext, hcontext.sealed, hcontext.identity_eq] at hoperation
  obtain ⟨receipts, closed, opened, hp⟩ := h.invariant.progress hclaim.found
  have hheld := claimed_heldClaim hclaim
  have hinvariant := Invariant.of_progress hheld.found
    (claimed_progress hcontext.sealed hclaim hp)
  obtain ⟨attempts, -, rfl⟩ := hclaim.inserted
  have hleft : l.finished.length < (operations identity).length := by
    rw [hlength, ← hnext]
    exact (List.getElem?_eq_some_iff.mp hoperation).1
  refine ⟨_, .take (r := run) hvacant hleft,
    h.commit (fun run' _ => not_owned_of_vacant hvacant run') ?_ hinvariant ?_ ?_ h.finished
      ⟨⟨hcontext, hheld, hoperation, ?_⟩, rfl⟩ ?_⟩
  · simp only [List.map_cons, List.map_nil, Event.entry]
    rw [hlength, hnext]
  · intro s hs
    obtain rfl := Option.some.inj hs
    exact hclaim.continued.identity.trans (h.named previous hclaim.found)
  · rw [Option.map_some, hstate]
    exact ⟨run, .inl rfl⟩
  · rw [hnext, hstateNext]
  · intro event hevent
    obtain rfl := List.mem_singleton.mp hevent
    exact ⟨hheld.row, hheld.attemptApplying⟩

/-- A call of the remote performs the operation that the run holds. -/
theorem Represents.called (h : Represents operations identity c l) {claim : Claim}
    (hclaim : ClaimHeld operations identity c.tables claim) (hheld : l.status = .held run)
    (command : IssueCommand) (outcome : Py WriteObservation) {phase : Phase}
    (hphase : PhaseHolds operations identity run c.tables (.performed run outcome) phase) :
    ∃ l', LedgerStep operations identity l l' ∧
      Represents operations identity
        { tables := c.tables
          phases := Function.update c.phases run phase
          trace := c.trace ++ [.dispatched run claim.attempt command outcome c.tables] } l' := by
  have hlength := h.finished_length hclaim.rows.found
  have hfree : ∀ run', run' ≠ run → ¬Owned l.status run' :=
    fun run' hne howned => hne (Owned.unique (.inl hheld) howned)
  obtain ⟨receipts, closed, opened, hp⟩ := h.invariant.progress hclaim.rows.found
  have hnamed := h.named _ hclaim.rows.found
  refine ⟨_, .perform outcome hheld, h.commit hfree ?_ h.invariant h.named ?_ h.finished hphase ?_⟩
  · simp only [List.map_cons, List.map_nil, Event.entry]
    rw [hlength, hclaim.index]
  · rw [hclaim.rows.found, Option.map_some, hclaim.rows.applying]
    exact ⟨run, .inr ⟨outcome, rfl⟩⟩
  · intro event hevent
    obtain rfl := List.mem_singleton.mp hevent
    refine ⟨hclaim.operation, fun j hj => ?_⟩
    have hbound := (List.getElem?_eq_some_iff.mp hclaim.operation).1
    obtain ⟨operation, hoperation⟩ : ∃ operation, (operations identity)[j]? = some operation :=
      ⟨_, List.getElem?_eq_getElem (lt_trans hj hbound)⟩
    obtain ⟨receipt, hreceipt, hindex, -⟩ :=
      hp.durable.receiptRef j operation (hclaim.index ▸ hj) (hnamed.symm ▸ hoperation)
    exact ⟨operation, receipt, hoperation, hreceipt, hindex⟩

/-- A stored receipt finishes the operation that the run performed. -/
theorem Represents.completed (h : Represents operations identity c l) {claim : Claim}
    {observation : WriteObservation} (hclaim : ClaimHeld operations identity c.tables claim)
    (hperformed : l.status = .performed run (.ok observation))
    (hsuccess : observation.kind = .definitiveSuccess) {env : Environment} {t' : Tables}
    {state : ApplicationExecutionState}
    (hcomplete : completeObserved env c.tables claim observation = .ok (t', state)) :
    ∃ l', LedgerStep operations identity l l' ∧
      Represents operations identity
        { tables := t'
          phases := Function.update c.phases run (.looping claim.context state)
          trace := c.trace ++ [] } l' := by
  simp only [completeObserved, bind_eq_ok] at hcomplete
  obtain ⟨remote, hremote, receipt, hmint, hcomplete⟩ := hcomplete
  have happlication : claim.context.applicationId = identity.applicationId :=
    congrArg _ hclaim.application.identity_eq
  rw [happlication] at hcomplete
  obtain ⟨previous, attempt, nextAttempt, hdone⟩ := completeOperationSuccess_spec hcomplete
  obtain rfl : claim.state = previous :=
    Option.some.inj (hclaim.rows.found.symm.trans hdone.claim.found)
  have hresult : receipt.val.remoteResult = remote := by
    unfold mintReceipt at hmint
    split_ifs at hmint
    split at hmint
    · obtain rfl := Except.ok.inj hmint
      rename_i made hmade
      exact (newReceipt_spec hmade).remoteResult
    · cases hmint
  have hfree : ∀ run', run' ≠ run → ¬Owned l.status run' :=
    fun run' hne howned => hne (Owned.unique (.inr ⟨_, hperformed⟩) howned)
  have hlength := h.finished_length hclaim.rows.found
  have hstate : state.state = .partiallyApplied := by rw [hdone.continued.progress]
  have hinvariant : Invariant operations identity.applicationId t' :=
    (Orchestrated.complete hclaim.application.sealed hcomplete).invariant h.invariant
  obtain ⟨operationReceipts, hinsert, rfl⟩ := hdone.inserted
  have haccepted : Accepted operations identity l.finished.length (.ok observation) remote := by
    refine ⟨claim.context, claim.attempt, observation, hclaim.application, ?_, ?_, rfl, hsuccess,
      hremote⟩
    · rw [hlength, ← hclaim.index]
      exact hclaim.operation
    · rw [hlength, hclaim.index]
  refine ⟨_, .finish hperformed haccepted, h.commit hfree (by simp) hinvariant ?_ ?_ ?_
    hclaim.application (by simp)⟩
  · intro s hs
    obtain rfl := Option.some.inj hs
    exact hdone.continued.identity.trans (h.named _ hclaim.rows.found)
  · rw [Option.map_some, hstate]
    rfl
  · rw [(Rows.insert_eq_some hinsert).2, List.map_append, h.finished, List.map_singleton, hresult]

/-- A settlement stops the ledger. -/
theorem Represents.settled (h : Represents operations identity c l) {claim : Claim}
    (hclaim : ClaimHeld operations identity c.tables claim) (howned : Owned l.status run)
    {capability : Bool} {current : Nat → Bool} {target : StateName} {code : String}
    {now : Instant} {t' : Tables} {state : ApplicationExecutionState} {result : Py ApplyResult}
    (hsettle : settleOperation capability current c.tables claim.state.stateDigest
      claim.attempt.operationIdentity claim.attempt.attemptDigest claim.owner claim.context target
      code now = .ok (t', state)) :
    ∃ l', LedgerStep operations identity l l' ∧
      Represents operations identity
        { tables := t'
          phases := Function.update c.phases run (.finished result)
          trace := c.trace ++ [] } l' := by
  obtain ⟨previous, attempt, nextAttempt, hdone⟩ := settleOperation_spec hsettle
  have hstate : state.state = target := by rw [hdone.continued.progress]
  have hinvariant : Invariant operations identity.applicationId t' :=
    (Orchestrated.settle hclaim.application.sealed hsettle).invariant h.invariant
  have hfree : ∀ run', run' ≠ run → ¬Owned l.status run' :=
    fun run' hne howned' => hne (howned.unique howned')
  obtain rfl := hdone.written
  refine ⟨_, .stop howned, h.commit hfree (by simp) hinvariant ?_ ?_ h.finished trivial (by simp)⟩
  · intro s hs
    obtain rfl := Option.some.inj hs
    exact hdone.continued.identity.trans (h.named previous hdone.claim.found)
  · rw [Option.map_some, hstate]
    rcases hdone.name with rfl | rfl | rfl <;> rfl

/-- Finalization closes the ledger. -/
theorem Represents.finalized (h : Represents operations identity c l) {context : ExecutionContext}
    (hcontext : ContextOf operations identity context) {capability : Bool} {current : Nat → Bool}
    {stateDigest : String} {now : Instant} {t' : Tables} {state : ApplicationExecutionState}
    (hfinalize : finalizeApplication capability current c.tables context.applicationId stateDigest
      context now = .ok (t', state)) :
    ∃ l', LedgerStep operations identity l l' ∧
      Represents operations identity
        { tables := t'
          phases := Function.update c.phases run (.closing context state)
          trace := c.trace ++ [] } l' := by
  have happlication : context.applicationId = identity.applicationId :=
    congrArg _ hcontext.identity_eq
  rw [happlication] at hfinalize
  obtain ⟨previous, receipts, receipt, hdone⟩ := finalizeApplication_spec hfinalize
  have hvacant := h.vacant hdone.found (.inr hdone.partly)
  have hlength := h.finished_length hdone.found
  have hstate : state.state = .applied := by rw [hdone.continued.progress]
  have hinvariant : Invariant operations identity.applicationId t' :=
    (Orchestrated.finalize hcontext.sealed hfinalize).invariant h.invariant
  have hcomplete := hdone.complete
  rw [hcontext.sealed, hcontext.identity_eq] at hcomplete
  obtain rfl := hdone.written
  refine ⟨_, .close hvacant (hlength.trans hcomplete),
    h.commit (fun run' _ => not_owned_of_vacant hvacant run') (by simp) hinvariant ?_ ?_ h.finished
      hcontext (by simp)⟩
  · intro s hs
    obtain rfl := Option.some.inj hs
    exact hdone.continued.identity.trans (h.named previous hdone.found)
  · rw [Option.map_some, hstate]
    rfl

/-! ## Every step is matched -/

/-- A ledger reached from `l` that the next configuration stands for. -/
def Matched (operations : SealedOperations) (identity : LogicalApplicationIdentity)
    (l : OperationLedger) (c' : Config) : Prop :=
  ∃ l', Relation.ReflTransGen (LedgerStep operations identity) l l' ∧
    Represents operations identity c' l'

theorem Matched.single (h : ∃ l', LedgerStep operations identity l l' ∧
    Represents operations identity c' l') : Matched operations identity l c' := by
  obtain ⟨l', hstep, hnext⟩ := h
  exact ⟨l', .single hstep, hnext⟩

theorem Represents.quiet (h : Represents operations identity c l) {phase : Phase}
    (hphase : PhaseHolds operations identity run c.tables l.status phase) :
    Matched operations identity l
      { tables := c.tables
        phases := Function.update c.phases run phase
        trace := c.trace ++ [] } := by
  rw [List.append_nil]
  exact ⟨l, .refl, h.setPhase hphase⟩

theorem entered_holds {context : ExecutionContext} (h : ContextOf operations identity context)
    (state : ApplicationExecutionState) (t : Tables) (status : OperationStatus) :
    PhaseHolds operations identity run t status (entered context state) := by
  unfold entered
  split
  · exact h
  · trivial
  · trivial
  · trivial
  · trivial
  · exact h
  · exact h

theorem expiredOr_holds (claim : Claim) (e : Raised) (t : Tables) (status : OperationStatus) :
    PhaseHolds operations identity run t status (expiredOr claim e) := by
  unfold expiredOr recoveryRequired
  split_ifs <;> trivial

theorem Represents.opening (h : Represents operations identity c l) (env : Environment)
    {context : ExecutionContext} (hphase : c.phases run = .opening context) :
    Matched operations identity l (c.advance env run) := by
  have hcontext : ContextOf operations identity context :=
    h.at_phase hphase
  simp only [Config.advance, hphase, Applier.advance]
  split
  · exact h.quiet trivial
  · rename_i hopen
    exact ⟨l, .refl, h.created hcontext hopen fun t status => entered_holds hcontext _ t status⟩

theorem Represents.looping (h : Represents operations identity c l) (env : Environment)
    {context : ExecutionContext} {state : ApplicationExecutionState}
    (hphase : c.phases run = .looping context state) :
    Matched operations identity l (c.advance env run) := by
  have hcontext : ContextOf operations identity context :=
    h.at_phase hphase
  simp only [Config.advance, hphase, Applier.advance]
  split_ifs
  · split
    · rename_i hclaim
      obtain ⟨previous, hclaimed⟩ := claimNextOperation_spec hclaim
      exact .single (h.claimed hcontext hclaimed)
    · split_ifs
      · exact h.quiet hcontext
      · exact h.quiet trivial
    · exact h.quiet trivial
  · split
    · rename_i hfinalize
      exact .single (h.finalized hcontext hfinalize)
    · exact h.quiet trivial

theorem Represents.dispatching (h : Represents operations identity c l) (env : Environment)
    {claim : Claim} {command : IssueCommand} (hphase : c.phases run = .dispatching claim command) :
    Matched operations identity l (c.advance env run) := by
  obtain ⟨hclaim, hheld⟩ : ClaimHeld operations identity c.tables claim ∧ l.status = .held run :=
    h.at_phase hphase
  simp only [Config.advance, hphase, Applier.advance]
  split
  · rename_i observation houtcome
    exact .single (h.called hclaim hheld command _ ⟨hclaim, by rw [houtcome]⟩)
  · split_ifs
    · exact .single (h.called hclaim hheld command _ ⟨hclaim, .inr ⟨_, rfl⟩⟩)
    · exact .single (h.called hclaim hheld command _ trivial)
  · exact .single (h.called hclaim hheld command _ trivial)

theorem Represents.observed (h : Represents operations identity c l) (env : Environment)
    {claim : Claim} {observation : WriteObservation}
    (hphase : c.phases run = .observed claim observation) :
    Matched operations identity l (c.advance env run) := by
  obtain ⟨hclaim, hperformed⟩ : ClaimHeld operations identity c.tables claim ∧
      l.status = .performed run (.ok observation) :=
    h.at_phase hphase
  simp only [Config.advance, hphase, Applier.advance]
  split_ifs with hsuccess
  · split
    · rename_i hcomplete
      exact .single (h.completed hclaim hperformed hsuccess hcomplete)
    · exact h.quiet (expiredOr_holds claim _ _ _)
  · exact h.quiet ⟨hclaim, .inr ⟨_, hperformed⟩⟩

theorem Represents.settling (h : Represents operations identity c l) (env : Environment)
    {claim : Claim} {target : StateName} {code : String} {guarded : Bool}
    (hphase : c.phases run = .settling claim target code guarded) :
    Matched operations identity l (c.advance env run) := by
  obtain ⟨hclaim, howned⟩ : ClaimHeld operations identity c.tables claim ∧
      Owned l.status run :=
    h.at_phase hphase
  simp only [Config.advance, hphase, Applier.advance]
  split
  · rename_i hsettle
    exact .single (h.settled hclaim howned hsettle)
  · split_ifs
    · exact h.quiet (expiredOr_holds claim _ _ _)
    · exact h.quiet trivial

/-- One piece of a run is matched by steps of the ledger. -/
theorem Represents.advance (h : Represents operations identity c l) (env : Environment)
    (run : Nat) : Matched operations identity l (c.advance env run) := by
  have hrun := h.phases run
  cases hphase : c.phases run with
  | opening context => exact h.opening env hphase
  | looping context state => exact h.looping env hphase
  | dispatching claim command => exact h.dispatching env hphase
  | observed claim observation => exact h.observed env hphase
  | settling claim target code guarded => exact h.settling env hphase
  | idle | finished | crashed | replaying | overtaken | closing =>
      simp only [Config.advance, hphase, Applier.advance]
      exact h.quiet trivial
  | claimed claim =>
      rw [hphase] at hrun
      simp only [Config.advance, hphase, Applier.advance]
      split
      · exact h.quiet hrun
      · exact h.quiet ⟨hrun.1, .inl hrun.2⟩
      · exact h.quiet trivial
  | ready claim command =>
      rw [hphase] at hrun
      simp only [Config.advance, hphase, Applier.advance]
      split_ifs
      · exact h.quiet hrun
      · exact h.quiet trivial
  | dispatched claim observation =>
      rw [hphase] at hrun
      simp only [Config.advance, hphase, Applier.advance]
      split_ifs
      · exact h.quiet hrun
      · exact h.quiet trivial

/-- Every step of the system is matched by steps of the ledger. -/
theorem Represents.step (h : Represents operations identity c l)
    (hstep : Applier.Step operations identity c c') : Matched operations identity l c' := by
  cases hstep with
  | start _ application => exact ⟨l, .refl, h.setPhase application⟩
  | run env run => exact h.advance env run
  | crash run => exact ⟨l, .refl, h.setPhase trivial⟩

theorem Represents.steps (h : Represents operations identity c l)
    (hsteps : Relation.ReflTransGen (Applier.Step operations identity) c c') :
    Matched operations identity l c' := by
  induction hsteps with
  | refl => exact ⟨l, .refl, h⟩
  | tail _ hstep ih =>
      obtain ⟨l', hl', h'⟩ := ih
      obtain ⟨l'', hl'', h''⟩ := h'.step hstep
      exact ⟨l'', hl'.trans hl'', h''⟩

/-- A reachable configuration stands for a reachable ledger. -/
theorem reachable_represents (h : Applier.Reachable operations identity c) :
    ∃ l, SequentialLedger.Reachable (operations identity).length (Accepted operations identity) l ∧
      Represents operations identity c l :=
  initial_represents.steps h

/-! ## What a represented ledger says about the rows and the trace -/

theorem dispatches_eq_performs (i : Nat) (event : Event) :
    event.dispatches i = (Event.entry event).performs i := by
  cases event <;> rfl

theorem Represents.countP (h : Represents operations identity c l) (i : Nat) :
    c.trace.countP (Event.dispatches i) = l.history.countP (Entry.performs i) := by
  rw [h.history, List.countP_map]
  exact List.countP_congr fun event _ => by rw [dispatches_eq_performs, Function.comp_apply]

/-- The claim that a ledger entry stands for. -/
theorem claimed_of_took {trace : List Event} {run i : Nat}
    (h : Entry.took run i ∈ trace.map Event.entry) :
    ∃ attempt t, .claimed run attempt t ∈ trace ∧ attempt.operationIndex = i := by
  obtain ⟨event, hmem, hentry⟩ := List.mem_map.mp h
  cases event with
  | claimed run' attempt t =>
      simp only [Event.entry, Entry.took.injEq] at hentry
      obtain ⟨rfl, rfl⟩ := hentry
      exact ⟨attempt, t, hmem, rfl⟩
  | dispatched => simp [Event.entry] at hentry

theorem dispatched_of_performed {trace : List Event} {run i : Nat} {outcome : Py WriteObservation}
    (h : Entry.performed run i outcome ∈ trace.map Event.entry) :
    ∃ attempt command t, .dispatched run attempt command outcome t ∈ trace ∧
      attempt.operationIndex = i := by
  obtain ⟨event, hmem, hentry⟩ := List.mem_map.mp h
  cases event with
  | claimed => simp [Event.entry] at hentry
  | dispatched run' attempt command outcome' t =>
      simp only [Event.entry, Entry.performed.injEq] at hentry
      obtain ⟨rfl, rfl, rfl⟩ := hentry
      exact ⟨attempt, command, t, hmem, rfl⟩

theorem Represents.applied_iff (h : Represents operations identity c l) :
    c.tables.applicationReceipt.isSome ↔
      ∃ s, c.tables.execution = some s ∧ s.state = .applied := by
  cases hexecution : c.tables.execution with
  | none =>
      have hempty := h.invariant
      rw [ExecutionInvariant.Invariant, hexecution] at hempty
      simp [hempty, Tables.empty]
  | some s =>
      obtain ⟨receipts, closed, opened, hp⟩ := h.invariant.progress hexecution
      simp [hp.receipt]

/-- A settled attempt stops the ledger. -/
theorem Represents.stopped (h : Represents operations identity c l) {id : String}
    {a : OperationAttemptState} (ha : c.tables.attempts.lookup id = some a)
    (hsettled : a.state.Settled) : l.status = .stopped := by
  cases hexecution : c.tables.execution with
  | none =>
      have hempty := h.invariant
      rw [ExecutionInvariant.Invariant, hexecution] at hempty
      rw [hempty] at ha
      cases ha
  | some s =>
      obtain ⟨receipts, closed, opened, hp⟩ := h.invariant.progress hexecution
      have hstate : s.state.Settled := by
        rcases List.mem_append.mp (hp.attempt_of_lookup ha).1 with hclosed | hopened
        · rw [(hp.closedApplied a hclosed).1] at hsettled
          exact absurd hsettled (by decide)
        · rw [Option.mem_toList] at hopened
          obtain rfl := hopened
          cases hp.openAttempt with
          | present _ hstate => exact hstate ▸ hsettled
      have hagrees := h.status
      rw [hexecution, Option.map_some] at hagrees
      rcases hstate with hstate | hstate | hstate <;> rw [hstate] at hagrees <;> exact hagrees

theorem Represents.settled_of_stopped (h : Represents operations identity c l)
    (hstopped : l.status = .stopped) :
    ∃ s, c.tables.execution = some s ∧ s.state.Settled := by
  have hagrees := h.status
  rw [hstopped] at hagrees
  cases hexecution : c.tables.execution with
  | none => simp [hexecution, Agrees] at hagrees
  | some s =>
      refine ⟨s, rfl, ?_⟩
      rw [hexecution, Option.map_some] at hagrees
      cases hstate : s.state <;> rw [hstate] at hagrees <;>
        simp [Agrees, Owned, StateName.Settled] at hagrees ⊢

end
end DeliverySystem.ApplierLedger

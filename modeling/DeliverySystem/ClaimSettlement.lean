import DeliverySystem.CreationReceipts
import DeliverySystem.WriteDriverOutcomes

/-!
# Claims that are settled

A run that does not crash, whose authority stays valid and whose transactions
commit still meets every refusal of the claim validation, of the materializer,
of the credential check and of the driver. Where the Applier answers each of
them with a settlement, the run that claimed an operation ends only after the
operation is out of doubt. The driver also raises what no handler of the loop
catches: such a run ends and leaves its application Applying.
-/
namespace DeliverySystem.ClaimSettlement
open PythonValues WriteOperations ApplicationIdentity ExecutionRecords ExecutionContexts
open KeyedRows ExecutionStore ExecutionTransactions ExecutionInvariant ApplicationStatus
open IssueCommands Applier SequentialLedger ApplierLedger DispatchHistory
open OperandAgreement WriteOperationRepeats RecordedOperands WriteDriver ClaimPreparation
open WriteDriverOutcomes CreationReceipts
set_option autoImplicit false

section
variable [PythonLibrary] [WireLibrary]

/-! ## The guarded dispatch -/

/-- What one dispatch gets from the outside: the outcome of the credential check,
the token, and the exchange with the remote. -/
structure DispatchInput where
  credential : Py Unit
  token : Option String
  exchange : Exchange

/-- `_ApplierCapability.dispatch`. -/
def capabilityDispatch (input : DispatchInput) (kind : String) (command : IssueCommand) :
    Py WriteObservation := do
  raiseIf (kind ∉ writeOperationKinds) "write_operation_kind_invalid"
  input.credential
  WriteDriver.dispatch kind command input.token input.exchange

/-- A dispatch whose local checks refuse it only as the Applier settles: with one
of the credential codes, before the driver, which accepts the command. -/
structure LocallySound (repository kind : String) (command : IssueCommand)
    (input : DispatchInput) : Prop where
  credential : ∀ e, input.credential = .error e → ∃ code ∈ credentialCodes, e = .valueError code
  driver : LocallyAccepted repository kind command input.token input.exchange

theorem capabilityDispatch_outcome {repository kind : String} {command : IssueCommand}
    {input : DispatchInput} (h : LocallySound repository kind command input)
    (hfits : Fits repository kind command) :
    (∃ observation, capabilityDispatch input kind command = .ok observation) ∨
      ∃ code ∈ credentialCodes, capabilityDispatch input kind command = .error (.valueError code) := by
  have hkind : kind ∈ writeOperationKinds := by
    cases hfits with
    | create _ create => exact create ▸ by decide
    | relationship _ _ relates =>
        rcases relationshipKinds_isSome relates with rfl | rfl
        · decide
        · decide
  have hraise : raiseIf (kind ∉ writeOperationKinds) "write_operation_kind_invalid" = .ok () := by
    simp [hkind]
  cases hcredential : input.credential with
  | error e =>
      obtain ⟨code, hcode, rfl⟩ := h.credential e hcredential
      exact .inr ⟨code, hcode, by simp [capabilityDispatch, hraise, hcredential, bind, Except.bind]⟩
  | ok u =>
      obtain ⟨observation, hobservation⟩ := dispatch_answers h.driver hfits
      exact .inl ⟨observation,
        by simp [capabilityDispatch, hraise, hcredential, hobservation, bind, Except.bind]⟩

theorem capabilityDispatch_eq_ok {input : DispatchInput} {kind : String} {command : IssueCommand}
    {observation : WriteObservation} (h : capabilityDispatch input kind command = .ok observation) :
    WriteDriver.dispatch kind command input.token input.exchange = .ok observation := by
  simp only [capabilityDispatch, bind_eq_ok] at h
  obtain ⟨_, -, _, -, h⟩ := h
  exact h

end

/-! ## Undisturbed runs -/

section
variable [PythonLibrary] [WireLibrary]

/-- Whether a run is between its claim and the end of the claim. -/
def HoldsClaim : Phase → Prop
  | .claimed _ | .ready .. | .dispatching .. | .dispatched .. | .observed .. | .settling .. => True
  | .idle | .opening _ | .replaying .. | .looping .. | .overtaken .. | .closing .. | .finished _ |
      .crashed => False

/-- The store commits the end of a claim: the receipt that was minted for a
trusted result, or the settlement. -/
def Commits (env : Environment) (t : Tables) : Phase → Prop
  | .observed claim observation => ∀ remote receipt,
      trustedSuccessResult claim.context claim.attempt observation = .ok remote →
      mintReceipt claim.context true claim.attempt.operationIndex remote claim.attempt.startedAt
        env.completedAt = .ok receipt →
      ∃ done, completeOperationSuccess env.capability (fun i => env.current (i + 1)) t
        claim.context.applicationId claim.state.stateDigest claim.attempt.operationIdentity
        claim.attempt.attemptDigest claim.owner claim.context receipt env.now = .ok done
  | .settling claim target code _ =>
      ∃ done, settleOperation env.capability env.current t claim.state.stateDigest
        claim.attempt.operationIdentity claim.attempt.attemptDigest claim.owner claim.context target
        code env.now = .ok done
  | _ => True

/-- How the dispatches of undisturbed runs may be refused, for the repository and
the kind of the operation and the command that was made for it. -/
abbrev Dispatches := String → String → IssueCommand → DispatchInput → Prop

/-- The next piece of a run goes on under a valid authority and a store that
commits. Its reads before the call see committed rows, and its call is made
through the guarded dispatch. -/
structure Undisturbed (dispatches : Dispatches) (env : Environment) (t : Tables) (phase : Phase) :
    Prop where
  current : ∀ i, env.current i = true
  operandRead : env.operandRead = fun _ => t
  revalidate : ∀ ref, RaisesValueErrors (env.revalidate ref)
  commits : Commits env t phase
  dispatch : ∀ claim command, phase = .dispatching claim command → ∃ input,
    dispatches claim.context.authority.repositoryIdentity claim.attempt.operation.operationKind
      command input ∧
    env.dispatch = capabilityDispatch input claim.attempt.operation.operationKind command

/-- A context of some write-eligible Preview. -/
def Executable (context : ExecutionContext) : Prop :=
  ∃ authority canonical, ExecutablePreview authority canonical context

/-- A step of the system in which no run of `careful` is disturbed. Other runs
may crash, lose their authority, or dispatch as they please. -/
inductive CarefulStep (operations : SealedOperations) (identity : LogicalApplicationIdentity)
    (dispatches : Dispatches) (careful : Nat → Prop) (c : Config) : Config → Prop
  | start {run : Nat} {context : ExecutionContext} (fresh : c.phases run = .idle)
      (application : ContextOf operations identity context)
      (preview : careful run → Executable context) :
      CarefulStep operations identity dispatches careful c (c.setPhase run (.opening context))
  | run (env : Environment) (run : Nat)
      (undisturbed : careful run → Undisturbed dispatches env c.tables (c.phases run)) :
      CarefulStep operations identity dispatches careful c (c.advance env run)
  | crash (run : Nat) (careless : ¬careful run) :
      CarefulStep operations identity dispatches careful c (c.setPhase run .crashed)

def CarefulRuns (operations : SealedOperations) (identity : LogicalApplicationIdentity)
    (dispatches : Dispatches) (careful : Nat → Prop) : Config → Prop :=
  Relation.ReflTransGen (CarefulStep operations identity dispatches careful) .initial

variable {operations : SealedOperations} {identity : LogicalApplicationIdentity}
variable {dispatches : Dispatches} {careful : Nat → Prop} {c c' : Config}

theorem CarefulStep.step (h : CarefulStep operations identity dispatches careful c c') :
    Applier.Step operations identity c c' := by
  cases h with
  | start fresh application => exact .start fresh application
  | run env run => exact .run env run
  | crash run => exact .crash run

theorem CarefulRuns.reachable (h : CarefulRuns operations identity dispatches careful c) :
    Applier.Reachable operations identity c := by
  induction h with
  | refl => exact .refl
  | tail _ hstep ih => exact ih.tail hstep.step

/-! ## Whose claim it is -/

/-- The run committed the claim of the operation the application is at. -/
def Claimer (c : Config) (s : ApplicationExecutionState) (run : Nat) : Prop :=
  ∃ attempt t, Event.claimed run attempt t ∈ c.trace ∧
    attempt.operationIndex = s.nextOperationIndex

omit [WireLibrary] in
theorem took_iff_claimed {trace : List Event} {run i : Nat} :
    Entry.took run i ∈ trace.map Event.entry ↔
      ∃ attempt t, Event.claimed run attempt t ∈ trace ∧ attempt.operationIndex = i := by
  refine ⟨claimed_of_took, ?_⟩
  rintro ⟨attempt, t, hmem, rfl⟩
  exact List.mem_map.mpr ⟨_, hmem, rfl⟩

omit [WireLibrary] in
/-- An operation in doubt was claimed by one run, which owns the ledger. -/
theorem reachable_claimer (h : Applier.Reachable operations identity c)
    {s : ApplicationExecutionState} (hs : c.tables.execution = some s)
    (happlying : s.state = .applying) : ∃ owner, ∀ run, Claimer c s run ↔ run = owner := by
  obtain ⟨l, hl, hrep⟩ := reachable_represents h
  have hagrees := hrep.status
  rw [hs, Option.map_some, happlying] at hagrees
  obtain ⟨owner, howned⟩ := hagrees
  refine ⟨owner, fun run => ?_⟩
  rw [Claimer, ← took_iff_claimed, ← hrep.history, ← hrep.finished_length hs]
  exact hl.invariant.took_iff howned run

omit [WireLibrary] in
theorem HoldsClaim.owned {t : Tables} {status : OperationStatus} {run : Nat} {phase : Phase}
    (h : HoldsClaim phase) (hphase : PhaseHolds operations identity run t status phase) :
    Owned status run := by
  cases phase with
  | idle | opening | replaying | looping | overtaken | closing | finished | crashed => exact h.elim
  | claimed | ready | dispatching => exact .inl hphase.2
  | dispatched | observed => exact .inr ⟨_, hphase.2⟩
  | settling => exact hphase.2

omit [WireLibrary] in
/-- A run that holds a claim is the one that committed it. -/
theorem reachable_holder (h : Applier.Reachable operations identity c)
    {s : ApplicationExecutionState} (hs : c.tables.execution = some s) {holder : Nat}
    (hholds : HoldsClaim (c.phases holder)) {run : Nat} (hclaimer : Claimer c s run) :
    run = holder := by
  obtain ⟨l, hl, hrep⟩ := reachable_represents h
  rw [Claimer, ← took_iff_claimed, ← hrep.history, ← hrep.finished_length hs] at hclaimer
  exact (hl.invariant.took_iff (hholds.owned (hrep.phases holder)) run).mp hclaimer

/-! ## What one piece of a run does to the application -/

/-- An application that is not in doubt. -/
def Decided (t : Tables) : Prop := ∀ s, t.execution = some s → s.state ≠ .applying

/-- A piece of a run changes no row of the application, or commits a claim, or
leaves the application decided. -/
inductive Effect (run : Nat) (t : Tables) : Tables × Phase × List Event → Prop
  | moved {phase : Phase} {events : List Event}
      (unclaimed : ∀ run' attempt t', Event.claimed run' attempt t' ∉ events) :
      Effect run t (t, phase, events)
  | claimed {t' : Tables} (claim : Claim) :
      Effect run t (t', .claimed claim, [.claimed run claim.attempt t'])
  | decided {t' : Tables} {phase : Phase} (decided : Decided t') : Effect run t (t', phase, [])

omit [WireLibrary] in
theorem Effect.quiet {run : Nat} {t : Tables} {phase : Phase} : Effect run t (t, phase, []) :=
  .moved (by simp)

omit [WireLibrary] in
theorem decided_of_state {t : Tables} {s : ApplicationExecutionState}
    (hs : t.execution = some s) (hstate : s.state ≠ .applying) : Decided t := by
  intro s' hs'
  rw [hs, Option.some.injEq] at hs'
  rw [← hs']
  exact hstate

omit [WireLibrary] in
theorem openExecution_effect {env : Environment} {t t' : Tables} {context : ExecutionContext}
    {state : ApplicationExecutionState} (h : openExecution env t context = .ok (t', state)) :
    t' = t ∨ Decided t' := by
  obtain ⟨initial, -, -, hcreated⟩ := openExecution_spec h
  rcases hcreated.outcome with ⟨-, -, rfl⟩ | ⟨-, rfl, -⟩
  · refine .inr (decided_of_state rfl ?_)
    have hpending : initial.withDigest.state = .pending := hcreated.pending.1
    simp [hpending]
  · exact .inl rfl

omit [WireLibrary] in
theorem completeObserved_effect {env : Environment} {t t' : Tables} {claim : Claim}
    {observation : WriteObservation} {state : ApplicationExecutionState}
    (h : completeObserved env t claim observation = .ok (t', state)) : Decided t' := by
  simp only [completeObserved, bind_eq_ok] at h
  obtain ⟨remote, -, receipt, -, h⟩ := h
  obtain ⟨previous, attempt, nextAttempt, hdone⟩ := completeOperationSuccess_spec h
  obtain ⟨operationReceipts, -, rfl⟩ := hdone.inserted
  exact decided_of_state rfl (by simp [hdone.continued.progress])

omit [WireLibrary] in
theorem settleOperation_effect {capability : Bool} {current : Nat → Bool} {t t' : Tables}
    {stateDigest attemptId attemptDigest owner : String} {context : ExecutionContext}
    {target : StateName} {code : String} {now : Instant} {state : ApplicationExecutionState}
    (h : settleOperation capability current t stateDigest attemptId attemptDigest owner context
      target code now = .ok (t', state)) : Decided t' := by
  obtain ⟨previous, attempt, nextAttempt, hdone⟩ := settleOperation_spec h
  rw [hdone.written]
  refine decided_of_state rfl ?_
  rcases hdone.name with rfl | rfl | rfl
  · simp [hdone.continued.progress]
  · simp [hdone.continued.progress]
  · simp [hdone.continued.progress]

omit [WireLibrary] in
theorem finalizeApplication_effect {capability : Bool} {current : Nat → Bool} {t t' : Tables}
    {applicationId stateDigest : String} {context : ExecutionContext} {now : Instant}
    {state : ApplicationExecutionState}
    (h : finalizeApplication capability current t applicationId stateDigest context now =
      .ok (t', state)) : Decided t' := by
  obtain ⟨previous, receipts, receipt, hdone⟩ := finalizeApplication_spec h
  rw [hdone.written]
  exact decided_of_state rfl (by simp [hdone.continued.progress])

omit [WireLibrary] in
theorem advance_effect (env : Environment) (run : Nat) (t : Tables) (phase : Phase) :
    Effect run t (Applier.advance env run t phase) := by
  cases phase with
  | idle | finished | crashed | replaying | overtaken | closing => exact .quiet
  | opening context =>
      simp only [Applier.advance]
      split
      · exact .quiet
      · rename_i hopen
        rcases openExecution_effect hopen with rfl | hdecided
        · exact .quiet
        · exact .decided hdecided
  | looping context state =>
      simp only [Applier.advance]
      split_ifs
      · split
        · exact .claimed ⟨context, _, _, env.owner⟩
        · split_ifs
          · exact .quiet
          · exact .quiet
        · exact .quiet
      · split
        · rename_i hfinalize
          exact .decided (finalizeApplication_effect hfinalize)
        · exact .quiet
  | claimed claim =>
      simp only [Applier.advance]
      split
      · exact .quiet
      · exact .quiet
      · exact .quiet
  | ready claim command =>
      simp only [Applier.advance]
      split_ifs
      · exact .quiet
      · exact .quiet
  | dispatching claim command =>
      simp only [Applier.advance]
      split
      · exact .moved (by simp)
      · split_ifs
        · exact .moved (by simp)
        · exact .moved (by simp)
      · exact .moved (by simp)
  | dispatched claim observation =>
      simp only [Applier.advance]
      split_ifs
      · exact .quiet
      · exact .quiet
  | observed claim observation =>
      simp only [Applier.advance]
      split_ifs
      · split
        · rename_i hcomplete
          exact .decided (completeObserved_effect hcomplete)
        · exact .quiet
      · exact .quiet
  | settling claim target code guarded =>
      simp only [Applier.advance]
      split
      · rename_i hsettle
        exact .decided (settleOperation_effect hsettle)
      · exact .quiet

/-! ## What an undisturbed run carries -/

/-- Its contexts are those of write-eligible Previews, its command fits the
operation, and the success it observed is one that the Applier trusts. -/
def Prepared : Phase → Prop
  | .opening context | .replaying context _ | .looping context _ | .overtaken context _ _ |
      .closing context _ => Executable context
  | .claimed claim | .settling claim _ _ _ => Executable claim.context
  | .ready claim command | .dispatching claim command => Executable claim.context ∧
      Fits claim.context.authority.repositoryIdentity claim.attempt.operation.operationKind command
  | .dispatched claim observation | .observed claim observation => Executable claim.context ∧
      (observation.kind = .definitiveSuccess →
        ∃ remote, trustedSuccessResult claim.context claim.attempt observation = .ok remote)
  | .idle | .finished _ | .crashed => True

/-- The next piece of a run lets go of no claim in doubt. -/
structure Attends (phase : Phase) (next : Tables × Phase × List Event) : Prop where
  prepared : Prepared next.2.1
  holds : HoldsClaim phase → HoldsClaim next.2.1 ∨ Decided next.1

omit [WireLibrary] in
theorem entered_prepared {context : ExecutionContext} (h : Executable context)
    (state : ApplicationExecutionState) : Prepared (entered context state) := by
  unfold entered
  split
  · exact h
  · trivial
  · trivial
  · trivial
  · trivial
  · exact h
  · exact h

omit [WireLibrary] in
theorem reachable_claimHeld (h : Applier.Reachable operations identity c) {run : Nat}
    {claim : Claim} (hphase : ∀ t status, PhaseHolds operations identity run t status (c.phases run) →
      ClaimHeld operations identity t claim) : ClaimHeld operations identity c.tables claim := by
  obtain ⟨l, -, hrep⟩ := reachable_represents h
  exact hphase _ _ (hrep.phases run)

omit [WireLibrary] in
theorem claimHeld_expected {t : Tables} {claim : Claim} (h : ClaimHeld operations identity t claim) :
    claim.context.expectedOperations[claim.attempt.operationIndex]? =
      some claim.attempt.operation := by
  rw [h.application.sealed, h.application.identity_eq]
  exact h.operation

omit [WireLibrary] in
/-- A claim that cannot be prepared is settled. -/
theorem claimed_attends (h : Applier.Reachable operations identity c) {env : Environment}
    {run : Nat} {claim : Claim} (hphase : c.phases run = .claimed claim)
    (hprepared : Executable claim.context) (hread : env.operandRead = fun _ => c.tables)
    (hrevalidate : ∀ ref, RaisesValueErrors (env.revalidate ref)) :
    Attends (.claimed claim) (Applier.advance env run c.tables (.claimed claim)) := by
  have hheld : ClaimHeld operations identity c.tables claim :=
    reachable_claimHeld h fun _ _ hholds => (hphase ▸ hholds).1
  obtain ⟨authority, canonical, hpreview⟩ := hprepared
  obtain ⟨refs, hshape⟩ := hpreview.executable
  have hraises := prepare_raises hshape hpreview.mappings (reachable_storedCreations h) hread
    (List.mem_of_getElem? (claimHeld_expected hheld)) hrevalidate
  cases hprepare : prepare env claim with
  | ok command =>
      simp only [Applier.advance, hprepare]
      exact ⟨⟨⟨authority, canonical, hpreview⟩, prepare_fits hprepare⟩, fun _ => .inl trivial⟩
  | error e =>
      obtain ⟨code, rfl⟩ := hraises e hprepare
      simp only [Applier.advance, hprepare]
      exact ⟨⟨authority, canonical, hpreview⟩, fun _ => .inl trivial⟩

/-- A call that is locally sound is observed, or refused with a credential code. -/
theorem dispatching_attends (hstrip : PythonLibrary.strip "" = "") {env : Environment} {run : Nat}
    {t : Tables} {claim : Claim} {command : IssueCommand}
    (hprepared : Prepared (.dispatching claim command)) {input : DispatchInput}
    (hsound : LocallySound claim.context.authority.repositoryIdentity
      claim.attempt.operation.operationKind command input)
    (hdispatch : env.dispatch =
      capabilityDispatch input claim.attempt.operation.operationKind command) :
    Attends (.dispatching claim command)
      (Applier.advance env run t (.dispatching claim command)) := by
  obtain ⟨hexecutable, hfits⟩ := hprepared
  rcases capabilityDispatch_outcome hsound hfits with ⟨observation, hobserved⟩ | ⟨code, hcode, herror⟩
  · have htrusted := dispatch_trusted hstrip hfits hsound.driver.repository
      (capabilityDispatch_eq_ok hobserved)
    rw [← hdispatch] at hobserved
    simp only [Applier.advance, hobserved]
    exact ⟨⟨hexecutable, htrusted⟩, fun _ => .inl trivial⟩
  · rw [← hdispatch] at herror
    simp only [Applier.advance, herror, if_pos hcode]
    exact ⟨hexecutable, fun _ => .inl trivial⟩

omit [WireLibrary] in
/-- A trusted success is stored, and any other observation is settled. -/
theorem observed_attends (h : Applier.Reachable operations identity c) {env : Environment}
    {run : Nat} {claim : Claim} {observation : WriteObservation}
    (hphase : c.phases run = .observed claim observation)
    (hprepared : Prepared (.observed claim observation)) (hcurrent : env.current 0 = true)
    (hcommits : Commits env c.tables (.observed claim observation)) :
    Attends (.observed claim observation)
      (Applier.advance env run c.tables (.observed claim observation)) := by
  have hheld : ClaimHeld operations identity c.tables claim :=
    reachable_claimHeld h fun _ _ hholds => (hphase ▸ hholds).1
  obtain ⟨hexecutable, htrusted⟩ := hprepared
  by_cases hsuccess : observation.kind = .definitiveSuccess
  · obtain ⟨remote, hremote⟩ := htrusted hsuccess
    obtain ⟨receipt, hreceipt⟩ := newReceipt_ok (claimHeld_expected hheld) (trusted_valid hremote)
      claim.attempt.startedAt env.completedAt
    obtain ⟨minted, hminted, -⟩ := mintReceipt_ok hreceipt
    obtain ⟨⟨t', state⟩, hdone⟩ := hcommits remote minted hremote hminted
    have hcomplete : completeObserved env c.tables claim observation = .ok (t', state) := by
      simp only [completeObserved, bind_eq_ok, hcurrent]
      exact ⟨remote, hremote, minted, hminted, hdone⟩
    simp only [Applier.advance, if_pos hsuccess, hcomplete]
    exact ⟨hexecutable, fun _ => .inr (completeObserved_effect hcomplete)⟩
  · simp only [Applier.advance, if_neg hsuccess]
    exact ⟨hexecutable, fun _ => .inl trivial⟩

/-- Every piece of an undisturbed run keeps what it carries and its claim. -/
theorem advance_attends (hstrip : PythonLibrary.strip "" = "")
    (h : Applier.Reachable operations identity c) {env : Environment} {run : Nat}
    (hundisturbed : Undisturbed LocallySound env c.tables (c.phases run))
    (hprepared : Prepared (c.phases run)) :
    Attends (c.phases run) (Applier.advance env run c.tables (c.phases run)) := by
  cases hphase : c.phases run with
  | idle | finished | crashed | replaying | overtaken | closing =>
      exact ⟨trivial, fun hholds => hholds.elim⟩
  | opening context =>
      rw [hphase] at hprepared
      simp only [Applier.advance]
      split
      · exact ⟨trivial, fun hholds => hholds.elim⟩
      · exact ⟨entered_prepared hprepared _, fun hholds => hholds.elim⟩
  | looping context state =>
      rw [hphase] at hprepared
      refine ⟨?_, fun hholds => hholds.elim⟩
      simp only [Applier.advance]
      split_ifs
      · split
        · exact hprepared
        · split_ifs
          · exact hprepared
          · trivial
        · trivial
      · split
        · exact hprepared
        · trivial
  | claimed claim =>
      rw [hphase] at hprepared
      exact claimed_attends h hphase hprepared hundisturbed.operandRead hundisturbed.revalidate
  | ready claim command =>
      rw [hphase] at hprepared
      simp only [Applier.advance, if_pos (hundisturbed.current 0)]
      exact ⟨hprepared, fun _ => .inl trivial⟩
  | dispatching claim command =>
      rw [hphase] at hprepared
      obtain ⟨input, hsound, hdispatch⟩ := hundisturbed.dispatch claim command hphase
      exact dispatching_attends hstrip hprepared hsound hdispatch
  | dispatched claim observation =>
      rw [hphase] at hprepared
      simp only [Applier.advance, if_pos (hundisturbed.current 0)]
      exact ⟨hprepared, fun _ => .inl trivial⟩
  | observed claim observation =>
      rw [hphase] at hprepared
      have hcommits := hundisturbed.commits
      rw [hphase] at hcommits
      exact observed_attends h hphase hprepared (hundisturbed.current 0) hcommits
  | settling claim target code guarded =>
      have hcommits := hundisturbed.commits
      rw [hphase] at hcommits
      obtain ⟨⟨t', state⟩, hsettle⟩ := hcommits
      simp only [Applier.advance, hsettle]
      exact ⟨trivial, fun _ => .inr (settleOperation_effect hsettle)⟩

/-! ## Whole runs -/

/-- What holds of a system whose careful runs are not disturbed: they are
prepared, and one that claimed the operation in doubt still holds its claim. -/
structure Attended (careful : Nat → Prop) (c : Config) : Prop where
  prepared : ∀ run, careful run → Prepared (c.phases run)
  holds : ∀ s, c.tables.execution = some s → s.state = .applying →
    ∀ run, careful run → Claimer c s run → HoldsClaim (c.phases run)

omit [WireLibrary] in
theorem initial_attended : Attended careful Config.initial where
  prepared := fun _ _ => trivial
  holds := by simp [Config.initial, Tables.empty]

omit [WireLibrary] in
/-- A run that held no claim is replaced, and no row changes. -/
theorem Attended.setPhase (h : Attended careful c) {run : Nat} {phase : Phase}
    (hprepared : careful run → Prepared phase)
    (hfree : careful run → ¬HoldsClaim (c.phases run)) : Attended careful (c.setPhase run phase) where
  prepared := by
    intro run' hcareful
    by_cases hrun : run' = run
    · subst hrun
      simpa [Config.setPhase] using hprepared hcareful
    · simpa [Config.setPhase, Function.update_of_ne hrun] using h.prepared run' hcareful
  holds := by
    intro s hs happlying run' hcareful hclaimer
    have hholds := h.holds s hs happlying run' hcareful hclaimer
    by_cases hrun : run' = run
    · subst hrun
      exact absurd hholds (hfree hcareful)
    · simpa [Config.setPhase, Function.update_of_ne hrun] using hholds

theorem Attended.advance (hstrip : PythonLibrary.strip "" = "")
    (h : Applier.Reachable operations identity c) (hattended : Attended careful c)
    {env : Environment} {run : Nat}
    (hundisturbed : careful run → Undisturbed LocallySound env c.tables (c.phases run)) :
    Attended careful (c.advance env run) := by
  have hattends : careful run →
      Attends (c.phases run) (Applier.advance env run c.tables (c.phases run)) := fun hcareful =>
    advance_attends hstrip h (hundisturbed hcareful) (hattended.prepared run hcareful)
  have hreach : Applier.Reachable operations identity (c.advance env run) := h.tail (.run env run)
  have heffect := advance_effect env run c.tables (c.phases run)
  refine ⟨fun run' hcareful => ?_, fun s hs happlying run' hcareful hclaimer => ?_⟩
  · by_cases hrun : run' = run
    · subst hrun
      simpa [Config.advance] using (hattends hcareful).prepared
    · simpa [Config.advance, Function.update_of_ne hrun] using hattended.prepared run' hcareful
  · generalize hnext : Applier.advance env run c.tables (c.phases run) = next at heffect hattends
    cases heffect with
    | @decided t' phase hdecided =>
        simp only [Config.advance, hnext] at hs
        exact absurd happlying (hdecided s hs)
    | @claimed t' claim =>
        have hphase : HoldsClaim ((c.advance env run).phases run) := by
          simp [Config.advance, hnext, HoldsClaim]
        rw [reachable_holder hreach hs hphase hclaimer]
        exact hphase
    | @moved phase events hunclaimed =>
        simp only [Config.advance, hnext] at hs hclaimer ⊢
        obtain ⟨attempt, t', hmem, hindex⟩ := hclaimer
        have hearlier : Event.claimed run' attempt t' ∈ c.trace :=
          (List.mem_append.mp hmem).resolve_right (hunclaimed run' attempt t')
        have hheld := hattended.holds s hs happlying run' hcareful ⟨attempt, t', hearlier, hindex⟩
        by_cases hrun : run' = run
        · subst hrun
          rw [Function.update_self]
          rcases (hattends hcareful).holds hheld with hholds | hdecided
          · exact hholds
          · exact absurd happlying (hdecided s hs)
        · rw [Function.update_of_ne hrun]
          exact hheld

theorem Attended.step (hstrip : PythonLibrary.strip "" = "")
    (h : Applier.Reachable operations identity c) (hattended : Attended careful c)
    (hstep : CarefulStep operations identity LocallySound careful c c') : Attended careful c' := by
  cases hstep with
  | start fresh _ preview =>
      exact hattended.setPhase preview fun _ hholds => by rw [fresh] at hholds; exact hholds
  | run env run undisturbed => exact hattended.advance hstrip h undisturbed
  | crash run careless =>
      exact hattended.setPhase (fun hcareful => absurd hcareful careless)
        fun hcareful => absurd hcareful careless

theorem CarefulRuns.attended (hstrip : PythonLibrary.strip "" = "")
    (h : CarefulRuns operations identity LocallySound careful c) : Attended careful c := by
  induction h with
  | refl => exact initial_attended
  | tail hsteps hstep ih => exact ih.step hstrip (CarefulRuns.reachable hsteps) hstep

/-- An operation in doubt was claimed by exactly one run. If that run did not
crash, kept its authority and its store, and sent only what the local checks
accept, it has not returned or raised. -/
theorem claimed_operation_attended (hstrip : PythonLibrary.strip "" = "")
    (h : CarefulRuns operations identity LocallySound careful c) {s : ApplicationExecutionState}
    (hs : c.tables.execution = some s) (happlying : s.state = .applying) :
    ∃ owner, (∀ run, Claimer c s run ↔ run = owner) ∧
      (careful owner → HoldsClaim (c.phases owner)) := by
  obtain ⟨owner, howner⟩ := reachable_claimer h.reachable hs happlying
  exact ⟨owner, howner, fun hcareful =>
    (h.attended hstrip).holds s hs happlying owner hcareful ((howner owner).mpr rfl)⟩

/-! ## A run that ends in doubt -/

/-- Where the only run of an undisturbed system stands. -/
def CarefulVisits (dispatches : Dispatches) (t : Tables) (phase : Phase) : Prop :=
  ∃ c, CarefulRuns sampleOperations sampleIdentity dispatches (fun _ => True) c ∧ c.tables = t ∧
    c.phases = Function.update (fun _ => .idle) 0 phase

theorem CarefulVisits.advance {t t' : Tables} {phase phase' : Phase} {events : List Event}
    (h : CarefulVisits dispatches t phase) (env : Environment)
    (hundisturbed : Undisturbed dispatches env t phase)
    (hadvance : Applier.advance env 0 t phase = (t', phase', events)) :
    CarefulVisits dispatches t' phase' := by
  obtain ⟨c, hc, rfl, hphases⟩ := h
  have hphase : c.phases 0 = phase := by rw [hphases, Function.update_self]
  refine ⟨c.advance env 0, hc.tail (.run env 0 fun _ => by rw [hphase]; exact hundisturbed), ?_, ?_⟩
  · simp [Config.advance, hphase, hadvance]
  · simp [Config.advance, hphase, hadvance, hphases]

/-- The item names the marker that the driver keeps for itself. -/
def markedItem : Dict :=
  [("client_ref", .str "A"), ("role", sourcedField (.str "task")),
    ("title", sourcedField (.str "First")),
    ("context_problem", sourcedField (.str correlationReserved)),
    ("outcome", sourcedField (.str "o")), ("scope", sourcedField (.str "s")),
    ("non_goals", sourcedField (.list [])), ("acceptance_criteria", sourcedField (.list [])),
    ("verification", sourcedField (.str "v")), ("required_capabilities", sourcedField (.list [])),
    ("write_metadata", sourcedField (.dict []))]

def markedPayload : Dict :=
  [("work_items", .list [.dict markedItem]), ("planned_relationships", .list [])]

def markedEntry : Value := .dict [("client_ref", .str "A"), ("item_id", .str "item-1")]

def markedPreview : Dict :=
  [("operation_set_digest", .str "sha256:operations"),
    ("operation_intents", .list [intent "create_issue" ["A"]]),
    ("semantic_payload", .dict markedPayload), ("items", .list [markedEntry])]

def markedContext : ExecutionContext := { sampleContext with items := [markedItem] }

omit [PythonLibrary] [WireLibrary] in
theorem marked_evaluated :
    evaluateWriteOperations (Dict.get markedPreview "operation_intents") [markedEntry]
      markedPayload = .ok (evaluation [createOperation "A"] []) :=
  rfl

omit [WireLibrary] in
theorem markedPreview_executable :
    ExecutablePreview sampleAuthority markedPreview markedContext where
  created := by
    have hoperations : executionOperations markedPreview = .ok markedContext.expectedOperations :=
      rfl
    simp only [createExecutionContext, bind_eq_ok, orRaise_eq_ok, raiseIf_eq_ok, pure_eq_ok]
    exact ⟨markedPreview, rfl, ⟨_, hoperations⟩, attach_ok hoperations,
      ⟨_, markedContext.identity_eq⟩, attach_ok _, (), not_not.mpr rfl,
      ⟨_, markedContext.anchor_eq⟩, attach_ok _, _, rfl, [markedItem], rfl,
      ⟨_, markedContext.provenance_eq⟩, attach_ok _, rfl⟩
  eligible := .v1 (by decide) rfl marked_evaluated rfl
  mappings := ⟨by simp [markedContext, sampleContext],
    by simp [markedContext, sampleContext, Value.mapping?]⟩
  evaluated := by
    intro items hitems
    obtain rfl : items = [markedEntry] := (Value.list.inj hitems).symm
    exact .v1 (by decide) marked_evaluated rfl

/-- The environment of the sample disturbs no phase before the call. -/
theorem sample_undisturbed (now : Instant) {t : Tables} {phase : Phase}
    (hcommits : Commits (sampleEnvironment now t) t phase)
    (hdispatch : ∀ claim command, phase ≠ .dispatching claim command) :
    Undisturbed dispatches (sampleEnvironment now t) t phase where
  current := fun _ => rfl
  operandRead := rfl
  revalidate := fun _ => .pure ()
  commits := hcommits
  dispatch := fun claim command hphase => absurd hphase (hdispatch claim command)

theorem marked_looping (dispatches : Dispatches) :
    ∃ s, SampleCreated 0 s ∧
      CarefulVisits dispatches { Tables.empty with execution := some s }
        (.looping markedContext s) := by
  have hcontext : ContextOf sampleOperations sampleIdentity markedContext := ⟨rfl, rfl⟩
  have hopening : CarefulVisits dispatches .empty (.opening markedContext) :=
    ⟨_, .single (.start rfl hcontext fun _ => ⟨_, _, markedPreview_executable⟩), rfl, rfl⟩
  obtain ⟨s, hs, hprogress, hstarted, hidentity, hanchor, hmanaged⟩ :=
    newExecutionState_ok markedContext 0
  have hopen : openExecution (sampleEnvironment 0 .empty) .empty markedContext =
      .ok ({ Tables.empty with execution := some s.withDigest }, s.withDigest) := by
    simp only [openExecution, bind_eq_ok]
    exact ⟨s, hs, createExecutionIfAbsent_ok rfl hprogress⟩
  have hpending : s.withDigest.state = .pending := by
    have hstate : s.state = (ExecutionContext.initialProgress 0).state := by rw [hprogress]
    exact hstate
  have hentered : entered markedContext s.withDigest = .looping markedContext s.withDigest := by
    unfold entered
    rw [hpending]
  refine ⟨s.withDigest, ⟨hprogress, hstarted, hidentity, hanchor, hmanaged,
    s.verifyIntegrity_withDigest⟩, ?_⟩
  have hnext : Applier.advance (sampleEnvironment 0 .empty) 0 .empty (.opening markedContext) =
      ({ Tables.empty with execution := some s.withDigest },
        .looping markedContext s.withDigest, []) := by
    simp only [Applier.advance, hopen, hentered]
  exact hopening.advance _ (sample_undisturbed 0 trivial fun _ _ => by simp) hnext

/-- The claim of the marked item. -/
structure MarkedClaim (claim : Claim) (t : Tables) : Prop where
  context : claim.context = markedContext
  identities : claim.state.identity = sampleIdentity ∧ claim.attempt.identity = sampleIdentity
  operation : claim.attempt.operation = createOperation "A"
  rows : HeldClaim claim.state.stateDigest claim.attempt.operationIdentity
    claim.attempt.attemptDigest claim.owner t claim.state claim.attempt

theorem marked_claim (dispatches : Dispatches) :
    ∃ claim t, MarkedClaim claim t ∧ CarefulVisits dispatches t (.claimed claim) := by
  obtain ⟨s, hs, hvisits⟩ := marked_looping dispatches
  obtain ⟨t, s', a, hclaim⟩ := sample_claim_ok hs (by decide : (0 : Instant) ≤ 10)
  have hsame : claimNextOperation true alwaysCurrent { Tables.empty with execution := some s }
      markedContext.applicationId s.stateDigest markedContext sampleOwner 10 = .ok (t, s', a) :=
    hclaim
  obtain ⟨previous, hclaimed⟩ := claimNextOperation_spec hsame
  obtain rfl : s = previous := Option.some.inj hclaimed.found
  have hnext : s.nextOperationIndex = 0 := by rw [hs.progress]; rfl
  have hlength : s.nextOperationIndex < markedContext.expectedOperations.length := by
    rw [hnext]
    exact Nat.one_pos
  have hstep : Applier.advance (sampleEnvironment 10 { Tables.empty with execution := some s }) 0
      { Tables.empty with execution := some s } (.looping markedContext s) =
      (t, .claimed ⟨markedContext, s', a, sampleOwner⟩, [.claimed 0 a t]) := by
    simp only [Applier.advance, if_pos hlength]
    simp only [sampleEnvironment, hsame]
  refine ⟨⟨markedContext, s', a, sampleOwner⟩, t, ?_,
    hvisits.advance _ (sample_undisturbed 10 trivial fun _ _ => by simp) hstep⟩
  have hoperation := hclaimed.made.operation
  rw [hnext] at hoperation
  exact ⟨rfl, ⟨hclaimed.continued.identity.trans hs.identity, hclaimed.made.identity⟩,
    (Option.some.inj hoperation).symm, claimed_heldClaim hclaimed⟩

omit [WireLibrary] in
/-- The marked item becomes a command. -/
theorem marked_prepared (htext : SampleText) {body : String}
    (hrender : renderCreateIssue markedItem = .ok ("First", body))
    (hbody : PythonLibrary.strip body ≠ "") {claim : Claim} {t : Tables} (h : MarkedClaim claim t) :
    prepare (sampleEnvironment 10 t) claim =
      .ok (.createIssue ⟨"acme/widgets", "A", "First", body, claim.attempt.requestIdentity⟩) := by
  have hvalidate : validateClaim (sampleEnvironment 10 t) claim = .ok () :=
    validateClaim_ok h.rows (by rw [h.context]; exact h.identities.1)
      (by rw [h.context]; exact h.identities.2) (fun _ => rfl) rfl rfl
  have hrequest : PythonLibrary.strip claim.attempt.requestIdentity ≠ "" := by
    rw [claim.attempt.valid.binding.2.2]
    exact htext.visible _ 'a' (requestIdentity_head _) (by decide)
  have hA : PythonLibrary.strip "A" ≠ "" := htext.visible _ 'A' rfl (by decide)
  have hFirst : PythonLibrary.strip "First" ≠ "" := htext.visible _ 'F' rfl (by decide)
  have hmake : CreateIssueCommand.make "acme/widgets" "A" "First" body
      claim.attempt.requestIdentity =
        .ok ⟨"acme/widgets", "A", "First", body, claim.attempt.requestIdentity⟩ := by
    simp only [CreateIssueCommand.make, bind_eq_ok, raiseIf_eq_ok, pure_eq_ok]
    exact ⟨_, sample_repository htext, (), by simp [hA, hFirst, hbody, hrequest], rfl⟩
  have hitem : markedContext.items.reverse.find? (fun item =>
      decide (Dict.get item "client_ref" = .str "A")) = some markedItem := rfl
  have hrepository : markedContext.authority.repositoryIdentity = "acme/widgets" := rfl
  simp only [prepare, bind_eq_ok, h.context]
  refine ⟨(), hvalidate, ?_⟩
  simp [materialize, h.operation, createOperation, hitem, hrender, hrepository, hmake, orRaise,
    bind, Except.bind, Functor.map, Except.map]

end

section
attribute [local instance] ReferenceLibrary.referenceLibrary sampleWire

/-- A request identity is the tag of one and a SHA-256 digest. -/
theorem reference_requestIdentity (id : String) : requestIdPattern (requestIdentity id) = true := by
  obtain ⟨hlength, hhex⟩ := ReferenceLibrary.sha256Hex_hexadecimal
    (ReferenceLibrary.canonicalJson
      (.dict [("domain", .str "delivery-system:application-request:v1"),
        ("operation_identity", .str id)])).toUTF8.toList
  have htag : untagged? "application-request-" (requestIdentity id) =
      some (PythonLibrary.hexdigest
        (.dict [("domain", .str "delivery-system:application-request:v1"),
          ("operation_identity", .str id)])) :=
    untagged?_eq_some.mpr rfl
  unfold requestIdPattern
  rw [htag]
  simp only [Bool.and_eq_true, decide_eq_true_eq, List.all_eq_true]
  refine ⟨hlength, fun c hc => ?_⟩
  have hdigit := hhex c hc
  simp only [lowerHex, Bool.or_eq_true, Bool.and_eq_true, decide_eq_true_eq] at hdigit ⊢
  rcases hdigit with hdigit | hletter
  · exact .inl (isDigit_bounds hdigit)
  · exact .inr hletter

theorem contains_append_left {body text : String} (h : contains body text = true)
    (before : String) : contains (before ++ body) text = true := by
  rw [contains, decide_eq_true_eq] at h ⊢
  rw [String.toList_append]
  exact h.trans (List.suffix_append _ _).isInfix

theorem contains_append_right {body text : String} (h : contains body text = true)
    (after : String) : contains (body ++ after) text = true := by
  rw [contains, decide_eq_true_eq] at h ⊢
  rw [String.toList_append]
  exact h.trans (List.prefix_append _ _).isInfix

theorem marked_rendered :
    ∃ body, renderCreateIssue markedItem = .ok ("First", body) ∧
      PythonLibrary.strip body ≠ "" ∧ contains body correlationReserved = true := by
  have hmarked : contains (PythonLibrary.jsonDumps (.str correlationReserved))
      correlationReserved = true := by
    decide +kernel
  refine ⟨_, rfl, reference_sampleText.visible _ '#' ?_ (by decide), ?_⟩
  · rw [String.intercalate_cons_cons, bodySection]
    simp only [String.toList_append]
    rfl
  · rw [String.intercalate_cons_cons, String.intercalate_cons_cons, String.intercalate_cons_cons]
    exact contains_append_left (contains_append_left (contains_append_right
      (contains_append_right (contains_append_left hmarked _) _) _) _) _

/-- Calls whose credential passes and whose token is a header. -/
def credentialed : Dispatches := fun _ _ _ input =>
  input.credential = .ok () ∧ ∃ headers, credentialHeaders input.token = .ok headers

theorem sample_validated : validateRepository "acme/widgets" = .ok "acme/widgets" := by
  decide +kernel

/-- The driver refuses a command whose body has its marker. -/
theorem marked_refused {body : String} (hmarked : contains body correlationReserved = true)
    (id : String) {input : DispatchInput} (hcredential : input.credential = .ok ()) :
    capabilityDispatch input "create_issue"
        (.createIssue ⟨"acme/widgets", "A", "First", body, requestIdentity id⟩) =
      .error (.driverError "write_correlation_reserved") := by
  have hkind : raiseIf ("create_issue" ∉ writeOperationKinds) "write_operation_kind_invalid" =
      .ok () := by
    simp [writeOperationKinds]
  have hpattern := reference_requestIdentity id
  simp [capabilityDispatch, hkind, hcredential, WriteDriver.dispatch, createIssueDispatch,
    sample_validated, hpattern, hmarked, bind, Except.bind]

/-- A run of a write-eligible Preview under a valid authority and a store that
commits raises the driver's refusal of its command, and leaves the application
Applying. -/
theorem refused_command_left_in_doubt :
    ∃ (_ : PythonLibrary) (_ : WireLibrary) (c : Config) (s : ApplicationExecutionState),
      CarefulRuns sampleOperations sampleIdentity credentialed (fun _ => True) c ∧
      c.tables.execution = some s ∧ s.state = .applying ∧
      c.phases 0 = .finished (.error (.driverError "write_correlation_reserved")) ∧
      ∀ run ≠ 0, c.phases run = .idle := by
  let library := ReferenceLibrary.referenceLibrary
  let wire := sampleWire
  obtain ⟨claim, t, hclaim, hvisits⟩ := marked_claim credentialed
  obtain ⟨body, hrender, hbody, hmarked⟩ := marked_rendered
  have hprepare := marked_prepared reference_sampleText hrender hbody hclaim
  rw [claim.attempt.valid.binding.2.2] at hprepare
  generalize hcommand : CreateIssueCommand.mk "acme/widgets" "A" "First" body
    (requestIdentity claim.attempt.operationIdentity) = command at hprepare
  let input : DispatchInput := ⟨.ok (), some "ghs_sample", .timeout⟩
  have hready : CarefulVisits credentialed t (.ready claim (.createIssue command)) := by
    have hnext : Applier.advance (sampleEnvironment 10 t) 0 t (.claimed claim) =
        (t, .ready claim (.createIssue command), []) := by
      simp only [Applier.advance, hprepare]
    exact hvisits.advance _ (sample_undisturbed 10 trivial fun _ _ => by simp) hnext
  have hdispatching : CarefulVisits credentialed t (.dispatching claim (.createIssue command)) :=
    hready.advance (sampleEnvironment 10 t) (sample_undisturbed 10 trivial fun _ _ => by simp) rfl
  let env : Environment := { sampleEnvironment 10 t with
    dispatch := capabilityDispatch input "create_issue" (.createIssue command) }
  have hundisturbed : Undisturbed credentialed env t
      (.dispatching claim (.createIssue command)) := by
    refine ⟨fun _ => rfl, rfl, fun _ => .pure (), trivial, ?_⟩
    intro claim' command' hphase
    obtain ⟨rfl, rfl⟩ := Phase.dispatching.inj hphase
    exact ⟨input, ⟨rfl, _, rfl⟩, by rw [hclaim.operation]; rfl⟩
  have hrefused : env.dispatch = .error (.driverError "write_correlation_reserved") := by
    simp only [env, ← hcommand]
    exact marked_refused hmarked claim.attempt.operationIdentity rfl
  have hfinish : Applier.advance env 0 t (.dispatching claim (.createIssue command)) =
      (t, .finished (.error (.driverError "write_correlation_reserved")),
        [.dispatched 0 claim.attempt (.createIssue command) env.dispatch t]) := by
    simp only [Applier.advance, hrefused]
  obtain ⟨c, hc, rfl, hphases⟩ := hdispatching.advance env hundisturbed hfinish
  refine ⟨library, wire, c, claim.state, hc, hclaim.rows.found, hclaim.rows.applying, ?_, ?_⟩
  · rw [hphases, Function.update_self]
  · intro run hrun
    rw [hphases, Function.update_of_ne hrun]

/-- The claim of the marked item, whose run is still under way. -/
theorem claimed_operation_attended_sample :
    ∃ (_ : PythonLibrary) (_ : WireLibrary) (c : Config) (owner : Nat),
      (∀ s, c.tables.execution = some s → s.state = .applying ∧
        ∀ run, Claimer c s run ↔ run = owner) ∧ HoldsClaim (c.phases owner) := by
  let library := ReferenceLibrary.referenceLibrary
  let wire := sampleWire
  obtain ⟨claim, t, hclaim, c, hc, rfl, hphases⟩ := marked_claim LocallySound
  obtain ⟨owner, howner, hholds⟩ := claimed_operation_attended (by decide) hc hclaim.rows.found
    hclaim.rows.applying
  refine ⟨library, wire, c, owner, fun s hs => ?_, hholds trivial⟩
  rw [hclaim.rows.found, Option.some.injEq] at hs
  subst hs
  exact ⟨hclaim.rows.applying, howner⟩

end
end DeliverySystem.ClaimSettlement

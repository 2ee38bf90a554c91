import DeliverySystem.ApplierLedger

/-!
# What the history of an application shows

Whatever the runs of an application do, and however they interleave and crash,
no operation is dispatched twice; an applied application dispatched each of its
operations once and stored what that dispatch returned; and a settled
application is never touched again.
-/
namespace DeliverySystem.DispatchHistory
open PythonValues WriteOperations ApplicationIdentity ExecutionRecords ExecutionContexts
open KeyedRows ExecutionStore ExecutionTransactions ExecutionInvariant ApplicationStatus
open IssueCommands Applier SequentialLedger ApplierLedger
set_option autoImplicit false

section
variable [PythonLibrary]
variable {operations : SealedOperations} {identity : LogicalApplicationIdentity}
variable {c c' : Config} {l : OperationLedger}

/-- No operation is dispatched twice. Each dispatch was made by a run that had
committed the claim of that operation before, and at the time of the call every
earlier operation had its receipt. -/
theorem dispatched_at_most_once (h : Applier.Reachable operations identity c) (i : Nat) :
    c.trace.countP (Event.dispatches i) ≤ 1 ∧
      ∀ before after run attempt command outcome t,
        c.trace = before ++ .dispatched run attempt command outcome t :: after →
        attempt.operationIndex = i →
        (∃ claimed t', .claimed run claimed t' ∈ before ∧ claimed.operationIndex = i ∧
          claimed.state = .applying ∧
          t'.attempts.lookup claimed.operationIdentity = some claimed) ∧
        ∀ j < i, ∃ operation receipt, (operations identity)[j]? = some operation ∧
          t.operationReceipts.lookup (operationIdentity identity.applicationId j operation) =
            some receipt ∧ receipt.operationIndex = j := by
  obtain ⟨l, hl, hrep⟩ := reachable_represents h
  refine ⟨?_, ?_⟩
  · rw [hrep.countP]
    exact hl.performed_at_most_once i
  · intro before after run attempt command outcome t htrace hindex
    have hsplit : l.history = before.map Event.entry ++
        .performed run i outcome :: after.map Event.entry := by
      rw [hrep.history, htrace, List.map_append, List.map_cons, ← hindex]
      rfl
    obtain ⟨claimed, t', hclaimed, hclaimedIndex⟩ :=
      claimed_of_took (hl.taken_first _ _ run i outcome hsplit)
    have hrow := hrep.events _ (htrace ▸ List.mem_append_left _ hclaimed)
    have hcall := hrep.events (.dispatched run attempt command outcome t) (by simp [htrace])
    exact ⟨⟨claimed, t', hclaimed, hclaimedIndex, hrow.2, hrow.1⟩, hindex ▸ hcall.2⟩

/-! ## Applied applications -/

theorem trustedSuccessResult_congr (context : ExecutionContext) {a b : OperationAttemptState}
    (h : a.operation = b.operation) (observation : WriteObservation) :
    trustedSuccessResult context a observation = trustedSuccessResult context b observation := by
  unfold trustedSuccessResult
  rw [h]

/-- How the stored receipt of an operation came to be. -/
structure PerformedOnce (operations : SealedOperations) (identity : LogicalApplicationIdentity)
    (c : Config) (i : Nat) (operation : WriteOperation) : Prop where
  once : c.trace.countP (Event.dispatches i) = 1
  receipt : ∃ run attempt command observation t context stored payload,
    .dispatched run attempt command (.ok observation) t ∈ c.trace ∧
      attempt.operationIndex = i ∧ attempt.operation = operation ∧
      observation.kind = .definitiveSuccess ∧ observation.resultPayload = some payload ∧
      ContextOf operations identity context ∧
      trustedSuccessResult context attempt observation = .ok stored.remoteResult ∧
      c.tables.operationReceipts.lookup (operationIdentity identity.applicationId i operation) =
        some stored ∧
      stored.operationIdentity = operationIdentity identity.applicationId i operation ∧
      stored.remoteResult.resultPayload = payload

theorem performed_once (h : Represents operations identity c l)
    (hl : SequentialLedger.Reachable (operations identity).length (Accepted operations identity) l)
    {s : ApplicationExecutionState} (hs : c.tables.execution = some s) (happlied : s.state = .applied)
    {i : Nat} {operation : WriteOperation} (hoperation : (operations identity)[i]? = some operation) :
    PerformedOnce operations identity c i operation := by
  have hclosed : l.status = .closed := by
    have hagrees := h.status
    rw [hs, Option.map_some, happlied] at hagrees
    exact hagrees
  have hbound := (List.getElem?_eq_some_iff.mp hoperation).1
  obtain ⟨honce, run, outcome, remote, hremote, haccepted, hperformed⟩ :=
    hl.closed_performed hclosed hbound
  obtain ⟨context, attempt, observation, hcontext, hattempt, -, rfl, hsuccess, htrusted⟩ := haccepted
  rw [h.history] at hperformed
  obtain ⟨called, command, t, hcalled, hindex⟩ := dispatched_of_performed hperformed
  have hshown := (h.events _ hcalled).1
  rw [hindex, hoperation, Option.some.injEq] at hshown
  rw [hoperation, Option.some.injEq] at hattempt
  obtain ⟨receipts, closed, opened, hp⟩ := h.invariant.progress hs
  -- the evidence at `i` is the one of the receipt with that index
  rw [h.finished, hp.receiptEntries, receiptRows, List.map_map, List.getElem?_map,
    Option.map_eq_some_iff] at hremote
  obtain ⟨stored, hstored, hresult⟩ := hremote
  obtain rfl : stored.remoteResult = remote := hresult
  have hmem := List.mem_of_getElem? hstored
  have hstoredIndex : stored.operationIndex = i := by
    have hat : (receipts.map (·.operationIndex))[i]? = some stored.operationIndex := by
      rw [List.getElem?_map, hstored, Option.map_some]
    rw [hp.receiptIndices] at hat
    exact (List.getElem?_eq_some_iff.mp hat).2.symm.trans (List.getElem_range _)
  have hnamed := h.named s hs
  have hsealed : (operations s.identity)[stored.operationIndex]? = some operation := by
    rw [hstoredIndex, hnamed]
    exact hoperation
  have hid : stored.operationIdentity = operationIdentity identity.applicationId i operation := by
    rw [(hp.receiptRow stored hmem).operationIdentity_eq hsealed, hstoredIndex, hp.named]
  have hlookup : c.tables.operationReceipts.lookup stored.operationIdentity = some stored := by
    rw [Rows.lookup_eq_some_iff, hp.receiptEntries, receiptRows]
    exact List.mem_map_of_mem hmem
  have htrusted' := trustedSuccessResult_congr context (hattempt.symm.trans hshown) observation
  rw [htrusted] at htrusted'
  refine ⟨(h.countP i).trans honce, run, called, command, observation, t, context,
    stored, _, hcalled, hindex, hshown.symm, hsuccess, (trustedSuccessResult_spec htrusted).1,
    hcontext, htrusted'.symm, hid ▸ hlookup, hid, rfl⟩

/-! ## Settled applications -/

/-- From a settled attempt on the application stays settled, without receipt,
and nothing is dispatched. -/
theorem settled_final (h : Applier.Reachable operations identity c) {id : String}
    {a : OperationAttemptState} (ha : c.tables.attempts.lookup id = some a)
    (hsettled : a.state.Settled) (hsteps : Relation.ReflTransGen (Applier.Step operations identity) c c') :
    (∃ s, c'.tables.execution = some s ∧ s.state.Settled) ∧ c'.tables.applicationReceipt = none ∧
      ∀ i, c'.trace.countP (Event.dispatches i) = c.trace.countP (Event.dispatches i) := by
  obtain ⟨l, -, hrep⟩ := reachable_represents h
  have hstopped := hrep.stopped ha hsettled
  obtain ⟨l', hl', hrep'⟩ := hrep.steps hsteps
  obtain rfl := stopped_final hstopped hl'
  obtain ⟨s, hs, hstate⟩ := hrep'.settled_of_stopped hstopped
  refine ⟨⟨s, hs, hstate⟩, ?_, fun i => ?_⟩
  · rw [← Option.not_isSome_iff_eq_none, hrep'.applied_iff]
    rintro ⟨s', hs', happlied⟩
    obtain rfl : s = s' := Option.some.inj (hs.symm.trans hs')
    rw [happlied] at hstate
    exact absurd hstate (by decide)
  · rw [hrep'.countP, hrep.countP]

/-- An application is applied exactly when its receipt row exists, and then each
operation was performed once and its receipt carries what was observed. A
settled operation ends the application without that. -/
theorem applied_performed_once (h : Applier.Reachable operations identity c) :
    (c.tables.applicationReceipt.isSome ↔
        ∃ s, c.tables.execution = some s ∧ s.state = .applied) ∧
      (c.tables.applicationReceipt.isSome →
        ∀ i operation, (operations identity)[i]? = some operation →
          PerformedOnce operations identity c i operation) ∧
      ∀ id a, c.tables.attempts.lookup id = some a → a.state.Settled →
        ∀ c', Relation.ReflTransGen (Applier.Step operations identity) c c' →
          (∃ s, c'.tables.execution = some s ∧ s.state.Settled) ∧
            c'.tables.applicationReceipt = none ∧
            ∀ i, c'.trace.countP (Event.dispatches i) = c.trace.countP (Event.dispatches i) := by
  obtain ⟨l, hl, hrep⟩ := reachable_represents h
  refine ⟨hrep.applied_iff, fun hreceipt i operation hoperation => ?_,
    fun id a ha hsettled c' hsteps => settled_final h ha hsettled hsteps⟩
  obtain ⟨s, hs, happlied⟩ := hrep.applied_iff.mp hreceipt
  exact performed_once hrep hl hs happlied hoperation

/-! ## A run of the small application -/

/-- What the sample asks of the text functions. -/
structure SampleText : Prop where
  strip : PythonLibrary.strip "acme" = "acme" ∧ PythonLibrary.strip "widgets" = "widgets"
  lower : PythonLibrary.lower "acme" = "acme" ∧ PythonLibrary.lower "widgets" = "widgets"
  visible : ∀ s c, s.toList.head? = some c → c.isWhitespace = false → PythonLibrary.strip s ≠ ""

def samplePayload : Dict :=
  [("repository_identity", .str "acme/widgets"), ("issue_number", .int 7),
    ("numeric_issue_id", .str "1001"), ("node_id", .str "I_1"),
    ("executor_identity", .str writeExecutorIdentity), ("contract_version", .str "v1"),
    ("response_status", .int 201)]

def sampleObservation : WriteObservation where
  kind := .definitiveSuccess
  resultIdentity := "github-write-result-1"
  resultPayload := some samplePayload
  code := ""

/-- A run whose reads see `t` and whose call succeeds. -/
def sampleEnvironment (now : Instant) (t : Tables) : Environment where
  capability := true
  current := alwaysCurrent
  now := now
  completedAt := now
  owner := sampleOwner
  read := fun _ => t
  operandRead := fun _ => t
  revalidate := fun _ => .ok ()
  dispatch := .ok sampleObservation

theorem sample_repository (h : SampleText) :
    normalizeRepositoryIdentity (.str "acme/widgets") = .ok "acme/widgets" := by
  have hparts : repositoryParts "acme/widgets" = ["acme", "widgets"] := by
    have hsplit : "acme/widgets".toList.splitOn '/' = ["acme".toList, "widgets".toList] := by decide
    rw [repositoryParts, hsplit]
    simp [h.strip]
  simp [normalizeRepositoryIdentity, Value.text?, hparts, h.lower, raiseIf, orRaise, bind,
    Except.bind, pure, Except.pure]

/-- The sample item renders to a title and a body that are not blank. -/
theorem sample_rendered (h : SampleText) :
    ∃ body, renderCreateIssue sampleItem = .ok ("First", body) ∧ PythonLibrary.strip body ≠ "" := by
  refine ⟨_, rfl, h.visible _ '#' ?_ (by decide)⟩
  rw [String.intercalate_cons_cons, bodySection]
  simp only [String.toList_append]
  rfl

theorem requestIdentity_head (id : String) : (requestIdentity id).toList.head? = some 'a' := by
  have hhead : ∀ rest, ("application-request-".toList ++ rest).head? = some 'a' := by simp
  unfold requestIdentity
  rw [String.toList_append]
  exact hhead _

theorem sample_materialized (h : SampleText) {attempt : OperationAttemptState}
    (hoperation : attempt.operation = createOperation "A") (env : Environment) :
    ∃ command, materialize "workspace-1" sampleContext attempt env.operandRead env.revalidate =
      .ok command := by
  obtain ⟨body, hrender, hbody⟩ := sample_rendered h
  have hrequest : PythonLibrary.strip attempt.requestIdentity ≠ "" := by
    rw [attempt.valid.binding.2.2]
    exact h.visible _ 'a' (requestIdentity_head _) (by decide)
  have hitem : sampleContext.items.reverse.find? (fun item =>
      decide (Dict.get item "client_ref" = .str "A")) = some sampleItem := rfl
  have hA : PythonLibrary.strip "A" ≠ "" := h.visible _ 'A' rfl (by decide)
  have hFirst : PythonLibrary.strip "First" ≠ "" := h.visible _ 'F' rfl (by decide)
  have hmake : ∃ command, CreateIssueCommand.make "acme/widgets" "A" "First" body
      attempt.requestIdentity = .ok command := by
    simp only [CreateIssueCommand.make, bind_eq_ok, raiseIf_eq_ok, pure_eq_ok]
    refine ⟨_, "acme/widgets", sample_repository h, (), ?_, rfl⟩
    simp [hA, hFirst, hbody, hrequest]
  obtain ⟨command, hmake⟩ := hmake
  refine ⟨.createIssue command, ?_⟩
  have hrepository : sampleContext.authority.repositoryIdentity = "acme/widgets" := rfl
  simp [materialize, hoperation, createOperation, hitem, hrender, hrepository, hmake, orRaise,
    bind, Except.bind, Functor.map, Except.map]

/-- The tables, the trace, and the phase of the only run, somewhere on its way. -/
def Visits (t : Tables) (phase : Phase) (trace : List Event) : Prop :=
  ∃ c, Applier.Reachable sampleOperations sampleIdentity c ∧ c.tables = t ∧ c.phases 0 = phase ∧
    c.trace = trace

theorem Visits.advance {t t' : Tables} {phase phase' : Phase} {trace events : List Event}
    (h : Visits t phase trace) (env : Environment)
    (hadvance : Applier.advance env 0 t phase = (t', phase', events)) :
    Visits t' phase' (trace ++ events) := by
  obtain ⟨c, hc, rfl, rfl, rfl⟩ := h
  refine ⟨c.advance env 0, hc.tail (.run env 0), ?_, ?_, ?_⟩
  · simp [Config.advance, hadvance]
  · simp [Config.advance, hadvance]
  · simp [Config.advance, hadvance]

theorem sample_opening : Visits .empty (.opening sampleContext) [] := by
  have hcontext : ContextOf sampleOperations sampleIdentity sampleContext := ⟨sample_sealed, rfl⟩
  have hstart : Applier.Step sampleOperations sampleIdentity .initial
      (Config.initial.setPhase 0 (.opening sampleContext)) := .start rfl hcontext
  exact ⟨_, .single hstart, rfl, by simp [Config.setPhase], rfl⟩

/-- What the only run of the sample passes when nothing else happens. -/
inductive Passes : Tables → Phase → List Event → Prop
  | opening : Passes .empty (.opening sampleContext) []
  | advance {t t' : Tables} {phase phase' : Phase} {trace events : List Event}
      (h : Passes t phase trace) (env : Environment)
      (hadvance : Applier.advance env 0 t phase = (t', phase', events)) :
      Passes t' phase' (trace ++ events)

theorem Passes.visits {t : Tables} {phase : Phase} {trace : List Event}
    (h : Passes t phase trace) : Visits t phase trace := by
  induction h with
  | opening => exact sample_opening
  | advance _ env hadvance ih => exact ih.advance env hadvance

theorem sample_opened :
    ∃ s, SampleCreated 0 s ∧
      Applier.advance (sampleEnvironment 0 .empty) 0 .empty (.opening sampleContext) =
        ({ Tables.empty with execution := some s }, .looping sampleContext s, []) := by
  obtain ⟨s, hs, hprogress, hstarted, hidentity, hanchor, hmanaged⟩ :=
    newExecutionState_ok sampleContext 0
  have hopen : openExecution (sampleEnvironment 0 .empty) .empty sampleContext =
      .ok ({ Tables.empty with execution := some s.withDigest }, s.withDigest) := by
    simp only [openExecution, bind_eq_ok]
    exact ⟨s, hs, createExecutionIfAbsent_ok rfl hprogress⟩
  have hpending : s.withDigest.state = .pending := by
    have hstate : s.state = (ExecutionContext.initialProgress 0).state := by rw [hprogress]
    exact hstate
  have hentered : entered sampleContext s.withDigest = .looping sampleContext s.withDigest := by
    unfold entered
    rw [hpending]
  refine ⟨s.withDigest, ⟨hprogress, hstarted, hidentity, hanchor, hmanaged,
    s.verifyIntegrity_withDigest⟩, ?_⟩
  simp only [Applier.advance, hopen, hentered]

theorem sample_looping :
    ∃ s, SampleCreated 0 s ∧
      Passes { Tables.empty with execution := some s } (.looping sampleContext s) [] := by
  obtain ⟨s, hs, hadvance⟩ := sample_opened
  exact ⟨s, hs, Passes.opening.advance (sampleEnvironment 0 .empty) hadvance⟩

/-- The claim that the run commits, with the tables it leaves. -/
structure SampleClaim (claim : Claim) (t : Tables) : Prop where
  context : claim.context = sampleContext
  state : claim.state.identity = sampleIdentity ∧
    claim.state.continuityAnchor = sampleContext.continuityAnchor
  attempt : claim.attempt.identity = sampleIdentity ∧
    claim.attempt.authorityBinding = sampleContext.provenance
  operation : claim.attempt.operation = createOperation "A" ∧ claim.attempt.operationIndex = 0
  progress : claim.state.nextOperationIndex = 0 ∧ claim.state.operationReceiptRefs = []
  clock : claim.state.startedAt = 0 ∧ claim.state.updatedAt = 10 ∧
    claim.attempt.startedAt = 10 ∧ claim.attempt.updatedAt = 10
  rows : HeldClaim claim.state.stateDigest claim.attempt.operationIdentity
    claim.attempt.attemptDigest claim.owner t claim.state claim.attempt
  tables : t.operationReceipts = .empty ∧ t.applicationReceipt = none

theorem sample_claimed {s : ApplicationExecutionState} (hs : SampleCreated 0 s) :
    ∃ claim t, SampleClaim claim t ∧
      Applier.advance (sampleEnvironment 10 t) 0 { Tables.empty with execution := some s }
        (.looping sampleContext s) = (t, .claimed claim, [.claimed 0 claim.attempt t]) := by
  obtain ⟨t, s', a, hclaim⟩ := sample_claim_ok hs (by decide : (0 : Instant) ≤ 10)
  obtain ⟨previous, hclaimed⟩ := claimNextOperation_spec hclaim
  obtain rfl : s = previous := Option.some.inj hclaimed.found
  have hnext : s.nextOperationIndex = 0 := by rw [hs.progress]; rfl
  have hlength : s.nextOperationIndex < sampleContext.expectedOperations.length := by
    rw [hnext]
    exact Nat.one_pos
  refine ⟨{ context := sampleContext, state := s', attempt := a, owner := sampleOwner }, t, ?_, ?_⟩
  · have hoperation := hclaimed.made.operation
    rw [hnext] at hoperation
    have hstate := hclaimed.continued.progress
    have hattempt := hclaimed.made.progress
    have hrefs : s.operationReceiptRefs = [] := by rw [hs.progress]; rfl
    obtain ⟨attempts, -, htables⟩ := hclaimed.inserted
    exact
      { context := rfl
        state := ⟨hclaimed.continued.identity.trans hs.identity,
          hclaimed.continued.continuityAnchor.trans hs.anchor⟩
        attempt := ⟨hclaimed.made.identity, hclaimed.made.authority⟩
        operation := ⟨(Option.some.inj hoperation).symm, hclaimed.made.operationIndex.trans hnext⟩
        progress := by
          rw [hstate]
          exact ⟨hnext, hrefs⟩
        clock := by
          rw [hclaimed.continued.startedAt, hs.startedAt, hclaimed.made.startedAt, hstate,
            hattempt]
          exact ⟨rfl, rfl, rfl, rfl⟩
        rows := claimed_heldClaim hclaimed
        tables := by
          rw [htables]
          exact ⟨rfl, rfl⟩ }
  · have henv : claimNextOperation (sampleEnvironment 10 t).capability
        (sampleEnvironment 10 t).current { Tables.empty with execution := some s }
        sampleContext.applicationId s.stateDigest sampleContext (sampleEnvironment 10 t).owner
        (sampleEnvironment 10 t).now = .ok (t, s', a) := hclaim
    simp only [Applier.advance, if_pos hlength, henv]
    rfl

theorem sample_claim :
    ∃ claim t, SampleClaim claim t ∧ Passes t (.claimed claim) [.claimed 0 claim.attempt t] := by
  obtain ⟨s, hs, hpasses⟩ := sample_looping
  obtain ⟨claim, t, hclaim, hadvance⟩ := sample_claimed hs
  exact ⟨claim, t, hclaim, hpasses.advance (sampleEnvironment 10 t) hadvance⟩

theorem sample_dispatched (h : SampleText) :
    ∃ claim t command, SampleClaim claim t ∧ Passes t (.dispatched claim sampleObservation)
      [.claimed 0 claim.attempt t,
        .dispatched 0 claim.attempt command (.ok sampleObservation) t] := by
  obtain ⟨claim, t, hclaim, hpasses⟩ := sample_claim
  let env := sampleEnvironment 10 t
  obtain ⟨command, hcommand⟩ := sample_materialized h hclaim.operation.1 env
  have hvalidate : validateClaim env claim = .ok () :=
    validateClaim_ok hclaim.rows (by rw [hclaim.context]; exact hclaim.state.1)
      (by rw [hclaim.context]; exact hclaim.attempt.1) (fun _ => rfl) rfl rfl
  have hprepare : prepare env claim = .ok command := by
    simp only [prepare, bind_eq_ok, hclaim.context]
    exact ⟨(), hvalidate, hcommand⟩
  refine ⟨claim, t, command, hclaim, ?_⟩
  have hready : Passes t (.ready claim command) [.claimed 0 claim.attempt t] := by
    refine hpasses.advance env ?_
    simp only [Applier.advance, hprepare]
  have hdispatching : Passes t (.dispatching claim command) [.claimed 0 claim.attempt t] :=
    hready.advance env rfl
  exact hdispatching.advance env rfl

theorem sample_trusted {attempt : OperationAttemptState}
    (hoperation : attempt.operation = createOperation "A") :
    ∃ remote, trustedSuccessResult sampleContext attempt sampleObservation = .ok remote ∧
      remote.Valid := by
  have hrepository : sampleContext.authority.repositoryIdentity = "acme/widgets" := rfl
  have htrusted : trustedSuccessResult sampleContext attempt sampleObservation = .ok
      { resultKind := "github." ++ "create_issue" ++ ".v1"
        resultIdentity := sampleObservation.resultIdentity
        resultDigest := digest (.dict samplePayload)
        resultPayload := samplePayload } := by
    simp only [trustedSuccessResult, hoperation, createOperation, hrepository]
    rfl
  have hidentity : sampleObservation.resultIdentity ≠ "" := by decide
  exact ⟨_, htrusted, ⟨append_ne_empty (append_ne_empty (by decide)), hidentity,
    digest_ne_empty _⟩, rfl⟩

/-- The tables and the receipt after the only operation has succeeded. -/
structure SampleCompleted (s : ApplicationExecutionState) (receipt : OperationReceipt)
    (t : Tables) : Prop where
  found : t.execution = some s
  managed : s.orchestrationPolicy = some applierOrchestrationPolicy
  intact : s.verifyIntegrity = true
  progress : s.state = .partiallyApplied ∧ s.nextOperationIndex = 1 ∧ s.ownerId = none ∧
    s.currentAttemptId = none ∧ s.updatedAt = 10 ∧ s.startedAt = 0
  owned : s.identity = sampleContext.identity ∧
    s.continuityAnchor = sampleContext.continuityAnchor
  stored : finalReceipt t sampleContext.identity.applicationId 10 (createOperation "A", 0) =
    .ok receipt
  receipt : receipt.verifyIntegrity = true
  open_ : t.applicationReceipt = none

/-- A trusted success of the claim is stored. -/
theorem sample_stored {claim : Claim} {t : Tables} {observation : WriteObservation}
    {remote : RemoteResult} (h : SampleClaim claim t)
    (htrusted : trustedSuccessResult sampleContext claim.attempt observation = .ok remote)
    (hremote : remote.Valid) :
    ∃ s receipt t', SampleCompleted s receipt t' ∧ receipt.remoteResult = remote ∧
      completeObserved (sampleEnvironment 10 t) t claim observation = .ok (t', s) := by
  obtain ⟨context, state, attempt, owner⟩ := claim
  obtain rfl : context = sampleContext := h.context
  have hoperation : sampleContext.expectedOperations[attempt.operationIndex]? =
      some attempt.operation := by
    rw [h.operation.1, h.operation.2]
    rfl
  obtain ⟨receipt, hreceipt⟩ := newReceipt_ok hoperation hremote attempt.startedAt 10
  have hr := newReceipt_spec hreceipt
  obtain ⟨minted, hmint, rfl⟩ := mintReceipt_ok hreceipt
  obtain ⟨hstarted, hupdated, hattemptStarted, hattemptUpdated⟩ := h.clock
  have hclock : state.startedAt ≤ 10 ∧ state.updatedAt ≤ 10 ∧
      attempt.startedAt ≤ 10 ∧ attempt.updatedAt ≤ 10 := by
    rw [hstarted, hupdated, hattemptStarted, hattemptUpdated]
    decide
  have hreceiptClock : minted.val.startedAt ≤ 10 ∧ minted.val.completedAt ≤ 10 := by
    rw [hr.startedAt, hr.completedAt, hattemptStarted]
    decide
  have hrefs : minted.val.operationReceiptId ∉ state.operationReceiptRefs := by
    rw [h.progress.2]
    exact List.not_mem_nil
  have hfresh : t.operationReceipts.lookup minted.val.operationIdentity = none := by
    rw [h.tables.1, Rows.lookup_empty]
  obtain ⟨t', s, hcomplete⟩ := completeOperationSuccess_ok h.rows h.state
    ⟨h.attempt.1, hoperation⟩ h.attempt.2 hr.operationIndex hclock hreceiptClock hrefs hfresh
  obtain ⟨previous, found, nextAttempt, hdone⟩ := completeOperationSuccess_spec hcomplete
  obtain rfl : state = previous := Option.some.inj (h.rows.found.symm.trans hdone.claim.found)
  have hprogress := hdone.continued.progress
  have hindex : minted.val.operationIndex = 0 := hr.operationIndex.trans h.operation.2
  have hid : minted.val.operationIdentity =
      operationIdentity sampleContext.identity.applicationId 0 (createOperation "A") := by
    have happlied : minted.val.applicationId = sampleContext.identity.applicationId := by
      rw [minted.val.valid.binding.1, hr.identity]
    have hsame : minted.val.canonicalOperation = attempt.operation :=
      Option.some.inj (hr.operation.symm.trans hoperation)
    rw [minted.val.valid.binding.2.2, happlied, hindex, hsame, h.operation.1]
  refine ⟨s, minted.val, t', ?_, hr.remoteResult, ?_⟩
  · obtain ⟨receipts, hinsert, htables⟩ := hdone.inserted
    have hlookup : t'.operationReceipts.lookup
        (operationIdentity sampleContext.identity.applicationId 0 (createOperation "A")) =
          some minted.val := by
      rw [htables, ← hid]
      exact (Rows.lookup_insert hinsert _).trans (if_pos rfl)
    exact
      { found := by rw [htables]
        managed := hdone.continued.orchestrationPolicy.trans h.rows.managed
        intact := hdone.continued.intact
        progress := by
          rw [hprogress, hdone.continued.startedAt, hstarted]
          exact ⟨rfl, congrArg (· + 1) h.progress.1, rfl, rfl, rfl, rfl⟩
        owned := ⟨hdone.continued.identity.trans h.state.1,
          hdone.continued.continuityAnchor.trans h.state.2⟩
        stored := by
          simp only [finalReceipt, bind_eq_ok, orRaise_eq_ok, raiseIf_eq_ok,
            requireClockNotBefore_eq_ok, pure_eq_ok]
          exact ⟨minted.val, hlookup, (), by simp [hr.intact, hindex], (),
            by simpa using hreceiptClock.2, rfl⟩
        receipt := hr.intact
        open_ := by
          rw [htables]
          exact h.tables.2 }
  · simp only [completeObserved, bind_eq_ok]
    exact ⟨remote, htrusted, minted, hmint, hcomplete⟩

theorem sample_completed {claim : Claim} {t : Tables} (h : SampleClaim claim t) :
    ∃ s receipt t', SampleCompleted s receipt t' ∧
      completeObserved (sampleEnvironment 10 t) t claim sampleObservation = .ok (t', s) := by
  obtain ⟨remote, htrusted, hremote⟩ := sample_trusted h.operation.1
  obtain ⟨s, receipt, t', hs, -, hcomplete⟩ := sample_stored h htrusted hremote
  exact ⟨s, receipt, t', hs, hcomplete⟩

/-- The run of the sample to its end: the only operation is dispatched, its
receipt stored, and the application closed. -/
theorem sample_closing (h : SampleText) :
    ∃ t s trace, t.execution = some s ∧ s.state = .applied ∧
      Passes t (.closing sampleContext s) trace := by
  obtain ⟨claim, t, command, hclaim, hdispatched⟩ := sample_dispatched h
  have hobserved := hdispatched.advance (sampleEnvironment 10 t) rfl
  obtain ⟨s, receipt, t', hs, hcomplete⟩ := sample_completed hclaim
  have hlooping : Applier.advance (sampleEnvironment 10 t) 0 t
      (.observed claim sampleObservation) = (t', .looping sampleContext s, []) := by
    simp only [Applier.advance, hcomplete, hclaim.context]
    rfl
  obtain ⟨hpartly, hnext, howner, hattempt, hupdated, hstarted⟩ := hs.progress
  have hclock : s.startedAt ≤ 10 ∧ s.updatedAt ≤ 10 := by
    rw [hstarted, hupdated]
    decide
  have hall : s.nextOperationIndex = sampleContext.expectedOperations.length := hnext
  obtain ⟨t'', s', hfinalize⟩ := finalizeApplication_ok hs.found hs.managed hs.intact hpartly hall
    ⟨howner, hattempt⟩ hs.owned (.cons hs.stored .nil) (by simp) (by simp)
    (by simpa using hs.receipt) hclock hs.open_
  obtain ⟨previous, receipts, applicationReceipt, hdone⟩ := finalizeApplication_spec hfinalize
  have hclosing : Applier.advance (sampleEnvironment 10 t) 0 t' (.looping sampleContext s) =
      (t'', .closing sampleContext s', []) := by
    have henv : finalizeApplication (sampleEnvironment 10 t).capability
        (sampleEnvironment 10 t).current t' sampleContext.applicationId s.stateDigest
        sampleContext (sampleEnvironment 10 t).now = .ok (t'', s') := hfinalize
    simp only [Applier.advance, if_neg (not_lt_of_ge hall.ge), henv]
  refine ⟨t'', s', _, ?_, ?_, (hobserved.advance _ hlooping).advance _ hclosing⟩
  · rw [hdone.written]
  · rw [hdone.continued.progress]

theorem sample_applied (h : SampleText) :
    ∃ c s, Applier.Reachable sampleOperations sampleIdentity c ∧
      c.tables.execution = some s ∧ s.state = .applied := by
  obtain ⟨t, s, trace, hs, happlied, hpasses⟩ := sample_closing h
  obtain ⟨c, hc, rfl, -⟩ := hpasses.visits
  exact ⟨c, s, hc, hs, happlied⟩

end

/-- Stripping keeps a first character that is no blank. -/
theorem reference_visible {s : String} {c : Char} (hs : s.toList.head? = some c)
    (hc : c.isWhitespace = false) :
    @PythonLibrary.strip ReferenceLibrary.referenceLibrary s ≠ "" := by
  obtain ⟨rest, hlist⟩ := List.head?_eq_some_iff.mp hs
  have hmem : c ∈ ReferenceLibrary.stripText s.toList := by
    rw [ReferenceLibrary.stripText, ReferenceLibrary.stripRight, hlist,
      List.dropWhile_cons_of_neg (by simp [hc]), List.mem_reverse, List.reverse_cons,
      List.dropWhile_append]
    split_ifs
    · simp [hc]
    · simp
  intro hempty
  have hnil : ReferenceLibrary.stripText s.toList = [] :=
    String.toList_ofList.symm.trans (congrArg String.toList hempty)
  rw [hnil] at hmem
  exact List.not_mem_nil hmem

theorem reference_sampleText : @SampleText ReferenceLibrary.referenceLibrary := by
  let library := ReferenceLibrary.referenceLibrary
  exact ⟨⟨by decide, by decide⟩, ⟨by decide, by decide⟩, fun s c => reference_visible⟩

/-- The sample run after its call: one dispatch, under the claim before it. -/
theorem dispatched_at_most_once_sample :
    ∃ (_ : PythonLibrary) (c : Config),
      (∃ run attempt command outcome t, .dispatched run attempt command outcome t ∈ c.trace ∧
        attempt.operationIndex = 0) ∧ c.trace.countP (Event.dispatches 0) ≤ 1 := by
  let library := ReferenceLibrary.referenceLibrary
  obtain ⟨claim, t, command, hclaim, hpasses⟩ := sample_dispatched reference_sampleText
  obtain ⟨c, hc, -, -, htrace⟩ := hpasses.visits
  refine ⟨library, c, ⟨0, claim.attempt, command, .ok sampleObservation, t, ?_,
    hclaim.operation.2⟩, (dispatched_at_most_once hc 0).1⟩
  rw [htrace]
  exact List.mem_cons_of_mem _ List.mem_cons_self

/-- The closed sample: its only operation was performed once. -/
theorem applied_performed_once_sample :
    ∃ (_ : PythonLibrary) (c : Config),
      PerformedOnce sampleOperations sampleIdentity c 0 (createOperation "A") := by
  let library := ReferenceLibrary.referenceLibrary
  obtain ⟨c, s, hc, hs, happlied⟩ := sample_applied reference_sampleText
  have h := applied_performed_once hc
  exact ⟨library, c, h.2.1 (h.1.mpr ⟨s, hs, happlied⟩) 0 _ rfl⟩

end DeliverySystem.DispatchHistory

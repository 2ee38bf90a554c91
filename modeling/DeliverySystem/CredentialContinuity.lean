import DeliverySystem.DispatchHistory

/-!
# Credential continuity of an execution

Runs of `_apply` under any authorities work on one database of executions. The
anchor of a credential is compared where a state is created or continued and
where an attempt is continued, but neither where an attempt row nor where a
receipt row is inserted. That every row has the anchor of its execution, and
that a receipt names the authority of its attempt, is carried by an invariant:
past its opening a run has the identity and the anchor of the row, and the only
run that holds a claim made the claimed attempt itself.
-/
namespace DeliverySystem.CredentialContinuity
open PythonValues WriteOperations ApplicationIdentity ExecutionRecords ExecutionContexts
open KeyedRows ExecutionStore ExecutionTransactions ExecutionInvariant ApplicationStatus
open IssueCommands Applier
set_option autoImplicit false

section
variable [PythonLibrary]

/-! ## Runs over one database -/

/-- All executions, where each run stands, and what happened. -/
structure System where
  database : Database
  phases : Nat → Phase
  trace : List Event

def System.initial : System :=
  { database := emptyDatabase, phases := fun _ => .idle, trace := [] }

/-- The system as the runs of one application see it. -/
def System.application (c : System) (applicationId : String) : Config :=
  { tables := c.database applicationId, phases := c.phases, trace := c.trace }

def System.setPhase (c : System) (run : Nat) (phase : Phase) : System :=
  { c with phases := Function.update c.phases run phase }

variable (operations : SealedOperations) (contexts : Nat → ExecutionContext)

/-- Let one run execute up to its next cut, on the rows of its application. -/
def System.advance (c : System) (env : Environment) (run : Nat) : System :=
  let applicationId := (contexts run).applicationId
  let next := (c.application applicationId).advance env run
  { database := Function.update c.database applicationId next.tables
    phases := next.phases
    trace := next.trace }

/-- One step of the system. A run is one call of `apply`, with the context of
the authority it was called with; runs may share an authority. -/
inductive Step (c : System) : System → Prop
  | start {run : Nat} (fresh : c.phases run = .idle)
      (sealed : ExecutionContext.Sealed operations (contexts run)) :
      Step c (c.setPhase run (.opening (contexts run)))
  | run (env : Environment) (run : Nat) : Step c (c.advance contexts env run)
  | crash (run : Nat) : Step c (c.setPhase run .crashed)

abbrev Steps : System → System → Prop := Relation.ReflTransGen (Step operations contexts)

def Reachable : System → Prop := Steps operations contexts .initial

variable {operations contexts}

/-! ## What a run carries -/

/-- The context a run works under. -/
def context? : Phase → Option ExecutionContext
  | .idle | .finished _ | .crashed => none
  | .opening context | .replaying context _ | .looping context _ | .overtaken context _ _ |
      .closing context _ => some context
  | .claimed claim | .ready claim _ | .dispatching claim _ | .dispatched claim _ |
      .observed claim _ | .settling claim _ _ _ => some claim.context

/-- The claim a run carries, from its commit to the end of the claim. -/
def claim? : Phase → Option Claim
  | .claimed claim | .ready claim _ | .dispatching claim _ | .dispatched claim _ |
      .observed claim _ | .settling claim _ _ _ => some claim
  | _ => none

/-- Whether a run has passed its opening and still works. -/
def Working : Phase → Prop
  | .idle | .finished _ | .crashed | .opening _ => False
  | _ => True

def Event.run : Event → Nat
  | .claimed run .. => run
  | .dispatched run .. => run

def Event.attempt : Event → OperationAttemptState
  | .claimed _ attempt _ => attempt
  | .dispatched _ attempt .. => attempt

/-- A row has the identity and the anchor of a context. -/
structure Joined (context : ExecutionContext) (t : Tables) (s : ApplicationExecutionState) :
    Prop where
  found : t.execution = some s
  identity : s.identity = context.identity
  anchor : s.continuityAnchor = context.continuityAnchor

theorem context?_of_claim? {phase : Phase} {claim : Claim} (h : claim? phase = some claim) :
    context? phase = some claim.context := by
  cases phase <;> simp_all [claim?, context?]

theorem working_of_claim? {phase : Phase} {claim : Claim} (h : claim? phase = some claim) :
    Working phase := by
  cases phase <;> simp_all [claim?, Working]

/-! ## What one piece of a run does -/

/-- What the next phase of a run may carry when it commits nothing. -/
structure Follows (phase next : Phase) : Prop where
  context : ∀ context, context? next = some context → context? phase = some context
  claim : ∀ claim, claim? next = some claim → claim? phase = some claim
  working : Working next → Working phase

theorem Follows.refl (phase : Phase) : Follows phase phase :=
  ⟨fun _ h => h, fun _ h => h, id⟩

theorem Follows.finished (phase : Phase) (result : Py ApplyResult) :
    Follows phase (.finished result) :=
  ⟨by simp [context?], by simp [claim?], by simp [Working]⟩

theorem Follows.of_claim {phase next : Phase} {claim : Claim} (h : claim? phase = some claim)
    (hnext : claim? next = some claim) : Follows phase next := by
  refine ⟨fun context hcontext => ?_, fun claim' hclaim' => ?_, fun _ => working_of_claim? h⟩
  · rw [context?_of_claim? hnext] at hcontext
    rw [context?_of_claim? h, hcontext]
  · rw [h, ← hclaim', hnext]

/-- One piece of a run commits one transaction, calls the remote, or does neither. -/
inductive Piece (run : Nat) (t : Tables) (phase : Phase) : Tables × Phase × List Event → Prop
  | quiet {next : Phase} (follows : Follows phase next) : Piece run t phase (t, next, [])
  | opened {context : ExecutionContext} {initial state : ApplicationExecutionState} {t' : Tables}
      {next : Phase} (opening : phase = .opening context)
      (identity : initial.identity = context.identity)
      (anchor : initial.continuityAnchor = context.continuityAnchor)
      (created : Created t initial state t')
      (carries : ∀ context', context? next = some context' → context' = context)
      (free : claim? next = none) : Piece run t phase (t', next, [])
  | claimed {context : ExecutionContext} {previous state : ApplicationExecutionState}
      {stateDigest owner : String} {now : Instant} {attempt : OperationAttemptState} {t' : Tables}
      (looping : context? phase = some context) (working : Working phase)
      (claim : Claimed context stateDigest owner now t previous state attempt t') :
      Piece run t phase (t', .claimed { context, state, attempt, owner },
        [.claimed run attempt t'])
  | called {claim : Claim} {command : IssueCommand} {outcome : Py WriteObservation} {next : Phase}
      (held : claim? phase = some claim) (follows : Follows phase next) :
      Piece run t phase (t, next, [.dispatched run claim.attempt command outcome t])
  | completed {claim : Claim} {receipt : LiveReceipt claim.context} {now : Instant}
      {previous state : ApplicationExecutionState} {attempt nextAttempt : OperationAttemptState}
      {t' : Tables} (held : claim? phase = some claim)
      (completed : Completed claim.context claim.state.stateDigest
        claim.attempt.operationIdentity claim.attempt.attemptDigest claim.owner receipt.val now t
        previous state attempt nextAttempt t') :
      Piece run t phase (t', .looping claim.context state, [])
  | settled {claim : Claim} {name : StateName} {code : String} {now : Instant}
      {previous state : ApplicationExecutionState} {attempt nextAttempt : OperationAttemptState}
      {t' : Tables} {result : Py ApplyResult} (held : claim? phase = some claim)
      (settled : Settled claim.context claim.state.stateDigest claim.attempt.operationIdentity
        claim.attempt.attemptDigest claim.owner name code now t previous state attempt nextAttempt
        t') :
      Piece run t phase (t', .finished result, [])
  | finalized {context : ExecutionContext} {stateDigest : String} {now : Instant}
      {previous state : ApplicationExecutionState} {receipts : List OperationReceipt}
      {receipt : ApplicationReceipt} {t' : Tables} (looping : context? phase = some context)
      (working : Working phase)
      (finalized : Finalized context.applicationId context stateDigest now t previous state
        receipts receipt t') :
      Piece run t phase (t', .closing context state, [])

theorem openExecution_anchor {env : Environment} {t t' : Tables} {context : ExecutionContext}
    {state : ApplicationExecutionState} (h : openExecution env t context = .ok (t', state)) :
    ∃ initial, initial.identity = context.identity ∧
      initial.continuityAnchor = context.continuityAnchor ∧ Created t initial state t' := by
  simp only [openExecution, ExecutionContext.newExecutionState, bind_eq_ok] at h
  obtain ⟨initial, ⟨_, -, hmake⟩, h⟩ := h
  have hfields := make_execution_eq_ok hmake
  exact ⟨initial, by rw [hfields], by rw [hfields], createExecutionIfAbsent_spec h⟩

theorem entered_context {context context' : ExecutionContext} {state : ApplicationExecutionState}
    (h : context? (entered context state) = some context') : context' = context := by
  unfold entered recoveryRequired at h
  split at h <;> simp_all [context?]

theorem entered_claim (context : ExecutionContext) (state : ApplicationExecutionState) :
    claim? (entered context state) = none := by
  unfold entered recoveryRequired
  split <;> rfl

theorem Follows.expiredOr (phase : Phase) (claim : Claim) (e : Raised) :
    Follows phase (expiredOr claim e) := by
  unfold Applier.expiredOr recoveryRequired
  split_ifs
  · exact .finished phase _
  · exact .finished phase _

theorem completeObserved_completed {env : Environment} {t t' : Tables} {claim : Claim}
    {observation : WriteObservation} {state : ApplicationExecutionState}
    (h : completeObserved env t claim observation = .ok (t', state)) :
    ∃ (receipt : LiveReceipt claim.context) (previous : ApplicationExecutionState)
      (attempt nextAttempt : OperationAttemptState),
      Completed claim.context claim.state.stateDigest claim.attempt.operationIdentity
        claim.attempt.attemptDigest claim.owner receipt.val env.now t previous state attempt
        nextAttempt t' := by
  simp only [completeObserved, bind_eq_ok] at h
  obtain ⟨remote, -, receipt, -, h⟩ := h
  exact ⟨receipt, completeOperationSuccess_spec h⟩

/-- Every piece of a run is one of the pieces above. -/
theorem advance_piece (env : Environment) (run : Nat) (t : Tables) (phase : Phase) :
    Piece run t phase (Applier.advance env run t phase) := by
  cases phase with
  | idle => exact .quiet (.refl _)
  | finished => exact .quiet (.refl _)
  | crashed => exact .quiet (.refl _)
  | replaying => exact .quiet (.finished _ _)
  | overtaken => exact .quiet (.finished _ _)
  | closing => exact .quiet (.finished _ _)
  | opening context =>
      simp only [Applier.advance]
      split
      · exact .quiet (.finished _ _)
      · rename_i hopen
        obtain ⟨initial, hidentity, hanchor, hcreated⟩ := openExecution_anchor hopen
        exact .opened rfl hidentity hanchor hcreated (fun _ => entered_context)
          (entered_claim _ _)
  | looping context state =>
      simp only [Applier.advance]
      split_ifs
      · split
        · rename_i hclaim
          obtain ⟨previous, hclaimed⟩ := claimNextOperation_spec hclaim
          exact .claimed rfl trivial hclaimed
        · split_ifs
          · exact .quiet ⟨fun _ h => h, fun _ h => h, fun _ => trivial⟩
          · exact .quiet (.finished _ _)
        · exact .quiet (.finished _ _)
      · split
        · rename_i hfinalize
          obtain ⟨previous, receipts, receipt, hfinalized⟩ := finalizeApplication_spec hfinalize
          exact .finalized rfl trivial hfinalized
        · exact .quiet (.finished _ _)
  | claimed claim =>
      simp only [Applier.advance]
      split
      · exact .quiet (.of_claim rfl rfl)
      · exact .quiet (.of_claim rfl rfl)
      · exact .quiet (.finished _ _)
  | ready claim command =>
      simp only [Applier.advance]
      split_ifs
      · exact .quiet (.of_claim rfl rfl)
      · exact .quiet (.finished _ _)
  | dispatching claim command =>
      simp only [Applier.advance]
      split
      · exact .called rfl (.of_claim rfl rfl)
      · split_ifs
        · exact .called rfl (.of_claim rfl rfl)
        · exact .called rfl (.finished _ _)
      · exact .called rfl (.finished _ _)
  | dispatched claim observation =>
      simp only [Applier.advance]
      split_ifs
      · exact .quiet (.of_claim rfl rfl)
      · exact .quiet (.finished _ _)
  | observed claim observation =>
      simp only [Applier.advance]
      split_ifs
      · split
        · rename_i hcomplete
          obtain ⟨receipt, previous, attempt, nextAttempt, hdone⟩ :=
            completeObserved_completed hcomplete
          exact .completed rfl hdone
        · exact .quiet (.expiredOr _ _ _)
      · exact .quiet (.of_claim rfl rfl)
  | settling claim target code guarded =>
      simp only [Applier.advance]
      split
      · rename_i hsettle
        obtain ⟨previous, attempt, nextAttempt, hdone⟩ := settleOperation_spec hsettle
        exact .settled rfl hdone
      · split_ifs
        · exact .quiet (.expiredOr _ _ _)
        · exact .quiet (.finished _ _)

/-! ## What every state keeps -/

/-- The anchor of the credential that a provenance names. -/
def anchorOf (provenance : AuthorityProvenance) : Py CredentialContinuityAnchor :=
  CredentialContinuityAnchor.ofCredential provenance.credentialPrincipalIdentity
    provenance.issuerId provenance.credentialInstanceId

/-- What is true of a run by where it stands. -/
structure RunHolds (operations : SealedOperations) (context : ExecutionContext) (t : Tables)
    (phase : Phase) : Prop where
  owned : ∀ context', context? phase = some context' →
    context' = context ∧ ExecutionContext.Sealed operations context
  joined : Working phase → ∃ s, Joined context t s
  claim : ∀ claim, claim? phase = some claim →
    HeldClaim claim.state.stateDigest claim.attempt.operationIdentity claim.attempt.attemptDigest
      claim.owner t claim.state claim.attempt ∧
    claim.attempt.identity = context.identity ∧
    claim.attempt.authorityBinding = context.provenance

/-- The rows of an execution name the anchor of its state, and a receipt the
authority of its attempt. -/
structure Evidence (s : ApplicationExecutionState) (t : Tables) : Prop where
  attempts : ∀ key a, t.attempts.lookup key = some a →
    anchorOf a.authorityBinding = .ok s.continuityAnchor
  paired : ∀ key r, t.operationReceipts.lookup key = some r →
    ∃ a, t.attempts.lookup key = some a ∧ a.operationIndex = r.operationIndex ∧
      a.authorityBinding = r.authorityBinding

/-- What an event says about the run it is of. -/
structure Attributed (context : ExecutionContext) (t : Tables) (attempt : OperationAttemptState) :
    Prop where
  joined : ∃ s, Joined context t s
  identity : attempt.identity = context.identity

/-- The invariant of all runs over the database. -/
structure Continuity (operations : SealedOperations) (contexts : Nat → ExecutionContext)
    (c : System) : Prop where
  rows : ∀ id, Invariant operations id (c.database id)
  runs : ∀ run, RunHolds operations (contexts run) (c.database (contexts run).applicationId)
    (c.phases run)
  sole : ∀ run run' claim claim', claim? (c.phases run) = some claim →
    claim? (c.phases run') = some claim' →
    (contexts run).applicationId = (contexts run').applicationId → run = run'
  evidence : ∀ id s, (c.database id).execution = some s → Evidence s (c.database id)
  events : ∀ event ∈ c.trace,
    Attributed (contexts (Event.run event)) (c.database (contexts (Event.run event)).applicationId)
      (Event.attempt event)

theorem initial_continuity : Continuity operations contexts System.initial where
  rows := fun _ => rfl
  runs := fun _ => ⟨by simp [System.initial, context?], by simp [System.initial, Working],
    by simp [System.initial, claim?]⟩
  sole := by simp [System.initial, claim?]
  evidence := by simp [System.initial, emptyDatabase, Tables.empty]
  events := by simp [System.initial]

/-! ## One piece keeps the row -/

/-- The row is still there, with the same identity and anchor. -/
def Kept (t t' : Tables) : Prop :=
  ∀ s, t.execution = some s → ∃ s', t'.execution = some s' ∧ s'.identity = s.identity ∧
    s'.continuityAnchor = s.continuityAnchor

theorem Kept.refl (t : Tables) : Kept t t := fun s hs => ⟨s, hs, rfl, rfl⟩

theorem Kept.trans {t t' t'' : Tables} (h : Kept t t') (h' : Kept t' t'') : Kept t t'' := by
  intro s hs
  obtain ⟨s', hs', hidentity, hanchor⟩ := h s hs
  obtain ⟨s'', hs'', hidentity', hanchor'⟩ := h' s' hs'
  exact ⟨s'', hs'', hidentity'.trans hidentity, hanchor'.trans hanchor⟩

theorem Kept.continues {t t' : Tables} {context : ExecutionContext}
    {previous state : ApplicationExecutionState} {values : ExecutionProgress}
    (hfound : t.execution = some previous) (hwritten : t'.execution = some state)
    (h : Continues context previous state values) : Kept t t' := by
  intro s hs
  obtain rfl := Option.some.inj (hfound.symm.trans hs)
  exact ⟨state, hwritten, h.identity, h.continuityAnchor⟩

/-- A state that a context continued has the context's identity and anchor. -/
theorem joined_of_continues {t' : Tables} {context : ExecutionContext}
    {previous state : ApplicationExecutionState} {values : ExecutionProgress}
    (hwritten : t'.execution = some state) (h : Continues context previous state values) :
    Joined context t' state :=
  ⟨hwritten, h.identity.trans h.owned.1, h.continuityAnchor.trans h.owned.2⟩

theorem Joined.kept {context : ExecutionContext} {t t' : Tables} (hkept : Kept t t')
    (h : ∃ s, Joined context t s) : ∃ s, Joined context t' s := by
  obtain ⟨s, hfound, hidentity, hanchor⟩ := h
  obtain ⟨s', hfound', hidentity', hanchor'⟩ := hkept s hfound
  exact ⟨s', hfound', hidentity'.trans hidentity, hanchor'.trans hanchor⟩

theorem completed_written {context : ExecutionContext}
    {stateDigest attemptId attemptDigest ownerId : String} {receipt : OperationReceipt}
    {now : Instant} {t t' : Tables} {previous state : ApplicationExecutionState}
    {attempt nextAttempt : OperationAttemptState}
    (h : Completed context stateDigest attemptId attemptDigest ownerId receipt now t previous state
      attempt nextAttempt t') : t'.execution = some state := by
  obtain ⟨receipts, -, rfl⟩ := h.inserted
  rfl

theorem claimed_written {context : ExecutionContext} {stateDigest owner : String} {now : Instant}
    {t t' : Tables} {previous state : ApplicationExecutionState} {attempt : OperationAttemptState}
    (h : Claimed context stateDigest owner now t previous state attempt t') :
    t'.execution = some state := by
  obtain ⟨attempts, -, rfl⟩ := h.inserted
  rfl

variable {run : Nat} {t t' : Tables} {phase next : Phase} {events : List Event}

theorem Piece.kept (h : Piece run t phase (t', next, events)) : Kept t t' := by
  cases h with
  | quiet | called => exact .refl t
  | opened _ _ _ created =>
      rcases created.outcome with ⟨hnone, -, -⟩ | ⟨-, rfl, -⟩
      · intro s hs
        rw [hnone] at hs
        cases hs
      · exact .refl _
  | claimed _ _ claim => exact .continues claim.found (claimed_written claim) claim.continued
  | completed _ completed =>
      exact .continues completed.claim.found (completed_written completed) completed.continued
  | settled _ settled =>
      exact .continues settled.claim.found (by rw [settled.written]) settled.continued
  | finalized _ _ finalized =>
      exact .continues finalized.found (by rw [finalized.written]) finalized.continued

/-- A run that has not joined the row there is leaves it alone. -/
theorem Piece.untouched (h : Piece run t phase (t', next, events)) (hidle : ¬Working phase)
    {s : ApplicationExecutionState} (hs : t.execution = some s) : t' = t := by
  cases h with
  | quiet | called => rfl
  | opened _ _ _ created =>
      rcases created.outcome with ⟨hnone, -, -⟩ | ⟨-, rfl, -⟩
      · rw [hs] at hnone
        cases hnone
      · rfl
  | claimed _ working | finalized _ working => exact absurd working hidle
  | completed held | settled held => exact absurd (working_of_claim? held) hidle

/-- Rows under a held claim change only by a run that carries a claim. -/
theorem Piece.frozen (h : Piece run t phase (t', next, events)) (hfree : claim? phase = none)
    {stateDigest attemptId attemptDigest owner : String} {s : ApplicationExecutionState}
    {a : OperationAttemptState}
    (hheld : HeldClaim stateDigest attemptId attemptDigest owner t s a) :
    t' = t ∧ claim? next = none := by
  cases h with
  | quiet follows =>
      refine ⟨rfl, Option.eq_none_iff_forall_ne_some.mpr fun claim hclaim => ?_⟩
      rw [follows.claim claim hclaim] at hfree
      cases hfree
  | opened _ _ _ created _ free =>
      rcases created.outcome with ⟨hnone, -, -⟩ | ⟨-, rfl, -⟩
      · rw [hheld.found] at hnone
        cases hnone
      · exact ⟨rfl, free⟩
  | claimed _ _ claim =>
      obtain rfl := Option.some.inj (hheld.found.symm.trans claim.found)
      rcases claim.idle with hidle | hidle <;> rw [hheld.applying] at hidle <;> cases hidle
  | called held | completed held | settled held =>
      rw [held] at hfree
      cases hfree
  | finalized _ _ finalized =>
      obtain rfl := Option.some.inj (hheld.found.symm.trans finalized.found)
      have hpartly := finalized.partly
      rw [hheld.applying] at hpartly
      cases hpartly

/-! ## One piece keeps what is true of its run -/

variable {context : ExecutionContext}

theorem RunHolds.same_claim {claim : Claim} (h : RunHolds operations context t phase)
    (hclaim : claim? phase = some claim) : claim.context = context ∧
      ExecutionContext.Sealed operations claim.context := by
  obtain ⟨rfl, hsealed⟩ := h.owned _ (context?_of_claim? hclaim)
  exact ⟨rfl, hsealed⟩

/-- A run without a claim keeps what is true of it while the row is kept. -/
theorem RunHolds.kept (h : RunHolds operations context t phase) (hkept : Kept t t')
    (hfree : claim? phase = none) : RunHolds operations context t' phase := by
  refine ⟨h.owned, fun hworking => Joined.kept hkept (h.joined hworking), fun claim hclaim => ?_⟩
  rw [hfree] at hclaim
  cases hclaim

theorem RunHolds.follows (h : RunHolds operations context t phase) (hnext : Follows phase next) :
    RunHolds operations context t next :=
  ⟨fun context' hcontext => h.owned context' (hnext.context context' hcontext),
    fun hworking => h.joined (hnext.working hworking),
    fun claim hclaim => h.claim claim (hnext.claim claim hclaim)⟩

theorem RunHolds.finished (operations : SealedOperations) (context : ExecutionContext) (t : Tables)
    (result : Py ApplyResult) : RunHolds operations context t (.finished result) :=
  ⟨by simp [context?], by simp [Working], by simp [claim?]⟩

/-- The row that a creation returns has the identity and anchor asked for. -/
theorem joined_of_created {initial state : ApplicationExecutionState}
    (hidentity : initial.identity = context.identity)
    (hanchor : initial.continuityAnchor = context.continuityAnchor)
    (h : Created t initial state t') : Joined context t' state := by
  rcases h.outcome with ⟨-, rfl, rfl⟩ | ⟨hfound, rfl, -, hsame, hsameAnchor, -⟩
  · exact ⟨rfl, hidentity, hanchor⟩
  · exact ⟨hfound, hsame.trans hidentity, hsameAnchor.trans hanchor⟩

theorem Piece.holds (h : Piece run t phase (t', next, events))
    (hrun : RunHolds operations context t phase) : RunHolds operations context t' next := by
  cases h with
  | quiet follows => exact hrun.follows follows
  | called _ follows => exact hrun.follows follows
  | settled => exact .finished _ _ _ _
  | opened opening identity anchor created carries free =>
      subst opening
      obtain ⟨rfl, hsealed⟩ := hrun.owned _ rfl
      refine ⟨fun context' hcontext => ⟨carries context' hcontext, hsealed⟩,
        fun _ => ⟨_, joined_of_created identity anchor created⟩, fun claim hclaim => ?_⟩
      rw [free] at hclaim
      cases hclaim
  | claimed looping _ claim =>
      obtain ⟨rfl, hsealed⟩ := hrun.owned _ looping
      refine ⟨fun context' hcontext => ?_, fun _ => ⟨_, joined_of_continues (claimed_written claim)
        claim.continued⟩, fun claim' hclaim' => ?_⟩
      · exact ⟨(Option.some.inj hcontext).symm, hsealed⟩
      · obtain rfl := Option.some.inj hclaim'
        exact ⟨claimed_heldClaim claim, claim.made.identity, claim.made.authority⟩
  | completed held completed =>
      obtain ⟨rfl, hsealed⟩ := hrun.same_claim held
      exact ⟨fun context' hcontext => ⟨(Option.some.inj hcontext).symm, hsealed⟩,
        fun _ => ⟨_, joined_of_continues (completed_written completed) completed.continued⟩,
        by simp [claim?]⟩
  | finalized looping _ finalized =>
      obtain ⟨rfl, hsealed⟩ := hrun.owned _ looping
      exact ⟨fun context' hcontext => ⟨(Option.some.inj hcontext).symm, hsealed⟩,
        fun _ => ⟨_, joined_of_continues (by rw [finalized.written]) finalized.continued⟩,
        by simp [claim?]⟩

/-! ## One piece keeps the evidence -/

theorem anchorOf_provenance (context : ExecutionContext) :
    anchorOf context.provenance = .ok context.continuityAnchor :=
  provenance_anchor context

/-- The claimed attempt joins the rows. -/
theorem claimed_evidence {stateDigest owner : String} {now : Instant}
    {previous state : ApplicationExecutionState} {attempt : OperationAttemptState}
    (h : Claimed context stateDigest owner now t previous state attempt t')
    (hevidence : Evidence previous t) : Evidence state t' := by
  have hanchor := h.continued.continuityAnchor
  obtain ⟨attempts, hinsert, rfl⟩ := h.inserted
  refine ⟨fun key a ha => ?_, fun key r hr => ?_⟩
  · rw [hanchor]
    rw [Rows.lookup_insert hinsert] at ha
    split_ifs at ha
    · obtain rfl := Option.some.inj ha
      rw [h.made.authority, anchorOf_provenance, h.continued.owned.2]
    · exact hevidence.attempts key a ha
  · obtain ⟨a, ha, hindex, hauthority⟩ := hevidence.paired key r hr
    refine ⟨a, ?_, hindex, hauthority⟩
    rw [Rows.lookup_insert hinsert, if_neg]
    · exact ha
    · rintro rfl
      rw [(Rows.insert_eq_some hinsert).1] at ha
      cases ha

/-- Continuing the claimed attempt changes no authority and no index. -/
theorem continued_evidence {values : AttemptProgress} {stateValues : ExecutionProgress}
    {previous state : ApplicationExecutionState} {attempt nextAttempt : OperationAttemptState}
    {attemptId : String} (hevidence : Evidence previous t)
    (hrow : t.attempts.lookup attemptId = some attempt)
    (hstate : Continues context previous state stateValues)
    (hattempt : ContinuesAttempt context attempt nextAttempt values)
    (hattempts : t'.attempts = t.attempts.update attemptId nextAttempt)
    (hreceipts : ∀ key r, t'.operationReceipts.lookup key = some r →
      t.operationReceipts.lookup key = some r ∨ key = attemptId ∧
        attempt.operationIndex = r.operationIndex ∧
        attempt.authorityBinding = r.authorityBinding) : Evidence state t' := by
  have hlookup : ∀ key, t'.attempts.lookup key =
      if key = attemptId then some nextAttempt else t.attempts.lookup key := by
    intro key
    rw [hattempts, Rows.lookup_update]
    split_ifs with hkey
    · rw [hkey, hrow]
      rfl
    · rfl
  refine ⟨fun key a ha => ?_, fun key r hr => ?_⟩
  · rw [hstate.continuityAnchor]
    rw [hlookup] at ha
    split_ifs at ha
    · obtain rfl := Option.some.inj ha
      rw [hattempt.authorityBinding]
      exact hevidence.attempts _ _ hrow
    · exact hevidence.attempts key a ha
  · have hpaired : ∃ a, t.attempts.lookup key = some a ∧ a.operationIndex = r.operationIndex ∧
        a.authorityBinding = r.authorityBinding := by
      rcases hreceipts key r hr with hold | ⟨rfl, hindex, hauthority⟩
      · exact hevidence.paired key r hold
      · exact ⟨attempt, hrow, hindex, hauthority⟩
    obtain ⟨a, ha, hindex, hauthority⟩ := hpaired
    rw [hlookup]
    split_ifs with hkey
    · subst hkey
      obtain rfl := Option.some.inj (hrow.symm.trans ha)
      exact ⟨nextAttempt, rfl, hattempt.operationIndex.trans hindex,
        hattempt.authorityBinding.trans hauthority⟩
    · exact ⟨a, ha, hindex, hauthority⟩

theorem Piece.evidence {id : String} (h : Piece run t phase (t', next, events))
    (hrun : RunHolds operations context t phase) (hrows : Invariant operations id t)
    (hevidence : ∀ s, t.execution = some s → Evidence s t) :
    ∀ s, t'.execution = some s → Evidence s t' := by
  cases h with
  | quiet | called => exact hevidence
  | opened _ _ _ created =>
      rcases created.outcome with ⟨hnone, -, rfl⟩ | ⟨-, rfl, -⟩
      · have hempty : t = .empty := by
          rw [Invariant, hnone] at hrows
          exact hrows
        subst hempty
        intro s _
        exact ⟨by simp [Tables.empty], by simp [Tables.empty]⟩
      · exact hevidence
  | claimed _ _ claim =>
      intro s hs
      obtain rfl := Option.some.inj ((claimed_written claim).symm.trans hs)
      exact claimed_evidence claim (hevidence _ claim.found)
  | @completed claim receipt now previous state attempt nextAttempt t'' held completed =>
      intro s hs
      obtain rfl := Option.some.inj ((completed_written completed).symm.trans hs)
      obtain ⟨hheld, -, hauthority⟩ := hrun.claim _ held
      obtain rfl : claim.attempt = attempt :=
        Option.some.inj (hheld.row.symm.trans completed.claim.row)
      obtain ⟨index, remote, startedAt, completedAt, hmint⟩ := receipt.property
      have hreceipt := (newReceipt_spec hmint).authority
      obtain ⟨hcontext, -⟩ := hrun.same_claim held
      obtain ⟨receipts, hinsert, hwritten⟩ := completed.inserted
      refine continued_evidence (hevidence _ completed.claim.found) completed.claim.row
        completed.continued completed.closed (by rw [hwritten]) fun key r hr => ?_
      rw [hwritten] at hr
      rw [Rows.lookup_insert hinsert] at hr
      split_ifs at hr with hkey
      · obtain rfl := Option.some.inj hr
        refine .inr ⟨hkey.trans completed.receiptIdentity, completed.receiptIndex.symm, ?_⟩
        rw [hauthority, hreceipt, hcontext]
      · exact .inl hr
  | settled _ settled =>
      intro s hs
      rw [settled.written] at hs
      obtain rfl := Option.some.inj hs
      exact continued_evidence (hevidence _ settled.claim.found) settled.claim.row
        settled.continued settled.closed (by rw [settled.written]) fun key r hr => by
          rw [settled.written] at hr
          exact .inl hr
  | finalized _ _ finalized =>
      intro s hs
      have hold := hevidence _ finalized.found
      rw [finalized.written] at hs ⊢
      obtain rfl := Option.some.inj hs
      refine ⟨fun key a ha => ?_, hold.paired⟩
      rw [finalized.continued.continuityAnchor]
      exact hold.attempts key a ha

/-! ## Every step keeps the invariant -/

theorem Piece.rows (h : Piece run t phase (t', next, events))
    (hrun : RunHolds operations context t phase)
    (hrows : Invariant operations context.applicationId t) :
    Invariant operations context.applicationId t' := by
  cases h with
  | quiet | called => exact hrows
  | @opened context' initial state t'' next' opening identity _ created _ _ =>
      subst opening
      obtain ⟨rfl, -⟩ := hrun.owned _ rfl
      exact created_invariant (by rw [initial.valid.application, identity]; rfl) created hrows
  | claimed looping _ claim =>
      obtain ⟨rfl, hsealed⟩ := hrun.owned _ looping
      obtain ⟨receipts, closed, opened, hp⟩ := hrows.progress claim.found
      exact .of_progress (claimed_written claim) (claimed_progress hsealed claim hp)
  | completed held completed =>
      obtain ⟨rfl, hsealed⟩ := hrun.same_claim held
      obtain ⟨receipts, closed, opened, hp⟩ := hrows.progress completed.claim.found
      exact .of_progress (completed_written completed) (completed_progress hsealed completed hp)
  | settled held settled =>
      obtain ⟨receipts, closed, opened, hp⟩ := hrows.progress settled.claim.found
      exact .of_progress (by rw [settled.written]) (settled_progress settled hp)
  | finalized looping _ finalized =>
      obtain ⟨rfl, hsealed⟩ := hrun.owned _ looping
      obtain ⟨receipts, closed, opened, hp⟩ := hrows.progress finalized.found
      exact .of_progress (by rw [finalized.written]) (finalized_progress hsealed finalized hp)

theorem Attributed.kept {attempt : OperationAttemptState} (hkept : Kept t t')
    (h : Attributed context t attempt) : Attributed context t' attempt :=
  ⟨Joined.kept hkept h.joined, h.identity⟩

/-- The events of a piece are of its run, under its context. -/
theorem Piece.attributed (h : Piece run t phase (t', next, events))
    (hrun : RunHolds operations context t phase) :
    ∀ event ∈ events, Event.run event = run ∧ Attributed context t' (Event.attempt event) := by
  cases h with
  | quiet | opened | completed | settled | finalized => simp
  | claimed looping _ claim =>
      obtain ⟨rfl, -⟩ := hrun.owned _ looping
      intro event hevent
      obtain rfl := List.mem_singleton.mp hevent
      exact ⟨rfl, ⟨_, joined_of_continues (claimed_written claim) claim.continued⟩,
        claim.made.identity⟩
  | called held =>
      intro event hevent
      obtain rfl := List.mem_singleton.mp hevent
      exact ⟨rfl, hrun.joined (working_of_claim? held), (hrun.claim _ held).2.1⟩

variable {c c' : System}

/-- The rows of one application after a piece of a run of another, or of it. -/
theorem database_update {id changed : String} {db : Database} (motive : Tables → Prop)
    (hchanged : id = changed → motive t') (hother : motive (db id)) :
    motive (Function.update db changed t' id) := by
  by_cases hid : id = changed
  · subst hid
    rw [Function.update_self]
    exact hchanged rfl
  · rw [Function.update_of_ne hid]
    exact hother

theorem Continuity.piece (h : Continuity operations contexts c) {id : String}
    (hid : id = (contexts run).applicationId)
    (hpiece : Piece run (c.database id) (c.phases run) (t', next, events)) :
    Continuity operations contexts
      { database := Function.update c.database id t'
        phases := Function.update c.phases run next
        trace := c.trace ++ events } := by
  subst hid
  have hrun := h.runs run
  have hkept := hpiece.kept
  have hrows := hpiece.rows hrun (h.rows _)
  -- another run that holds a claim of this application keeps its rows and its claim
  have hothers : ∀ run', run' ≠ run → ∀ claim, claim? (c.phases run') = some claim →
      (contexts run').applicationId = (contexts run).applicationId →
      t' = c.database (contexts run).applicationId ∧ claim? next = none := by
    intro run' hne claim hclaim hsame
    have hfree : claim? (c.phases run) = none :=
      Option.eq_none_iff_forall_ne_some.mpr fun claim' hclaim' =>
        hne (h.sole run' run claim claim' hclaim hclaim' hsame)
    obtain ⟨hheld, -⟩ := (h.runs run').claim claim hclaim
    rw [hsame] at hheld
    exact hpiece.frozen hfree hheld
  refine ⟨fun id => ?_, fun run' => ?_, ?_, fun id => ?_, ?_⟩
  · exact database_update (Invariant operations id) (fun heq => heq ▸ hrows) (h.rows id)
  · by_cases hrun' : run' = run
    · subst hrun'
      simp only [Function.update_self]
      exact hpiece.holds hrun
    · simp only [Function.update_of_ne hrun']
      refine database_update (RunHolds operations (contexts run') · (c.phases run'))
        (fun hsame => ?_) (h.runs run')
      cases hclaim : claim? (c.phases run') with
      | none => exact (h.runs run').kept (by rw [hsame]; exact hkept) hclaim
      | some claim =>
          rw [(hothers run' hrun' claim hclaim hsame).1, ← hsame]
          exact h.runs run'
  · have hsole : ∀ run' claim claim', run' ≠ run → claim? (c.phases run') = some claim →
        claim? next = some claim' →
        (contexts run').applicationId ≠ (contexts run).applicationId := by
      intro run' claim claim' hne hclaim hclaim' hsame
      rw [(hothers run' hne claim hclaim hsame).2] at hclaim'
      cases hclaim'
    intro run₁ run₂ claim₁ claim₂ h₁ h₂ hsame
    by_cases hrun₁ : run₁ = run <;> by_cases hrun₂ : run₂ = run
    · rw [hrun₁, hrun₂]
    · simp only [hrun₁, Function.update_self, Function.update_of_ne hrun₂] at h₁ h₂ hsame
      exact absurd hsame.symm (hsole run₂ claim₂ claim₁ hrun₂ h₂ h₁)
    · simp only [hrun₂, Function.update_self, Function.update_of_ne hrun₁] at h₁ h₂ hsame
      exact absurd hsame (hsole run₁ claim₁ claim₂ hrun₁ h₁ h₂)
    · simp only [Function.update_of_ne hrun₁, Function.update_of_ne hrun₂] at h₁ h₂
      exact h.sole run₁ run₂ claim₁ claim₂ h₁ h₂ hsame
  · exact database_update (fun t => ∀ s, t.execution = some s → Evidence s t)
      (fun _ => hpiece.evidence hrun (h.rows _) (h.evidence _)) (h.evidence id)
  · intro event hevent
    rcases List.mem_append.mp hevent with hold | hnew
    · have hattributed := h.events event hold
      exact database_update (fun t => Attributed (contexts (Event.run event)) t
        (Event.attempt event)) (fun hsame => hattributed.kept (by rw [hsame]; exact hkept))
        hattributed
    · obtain ⟨rfl, hattributed⟩ := hpiece.attributed hrun event hnew
      simp only [Function.update_self]
      exact hattributed

theorem Continuity.advance (h : Continuity operations contexts c) (env : Environment) (run : Nat) :
    Continuity operations contexts (c.advance contexts env run) :=
  h.piece rfl (advance_piece env run _ (c.phases run))

/-- A run whose phase is replaced by one that carries nothing of its own. -/
theorem Continuity.setPhase (h : Continuity operations contexts c)
    (hphase : RunHolds operations (contexts run) (c.database (contexts run).applicationId) phase)
    (hfree : claim? phase = none) : Continuity operations contexts (c.setPhase run phase) := by
  refine ⟨h.rows, fun run' => ?_, ?_, h.evidence, h.events⟩
  · by_cases hrun' : run' = run
    · subst hrun'
      simp only [System.setPhase, Function.update_self]
      exact hphase
    · simp only [System.setPhase, Function.update_of_ne hrun']
      exact h.runs run'
  · intro run₁ run₂ claim₁ claim₂ h₁ h₂ hsame
    by_cases hrun₁ : run₁ = run
    · simp [System.setPhase, hrun₁, hfree] at h₁
    · by_cases hrun₂ : run₂ = run
      · simp [System.setPhase, hrun₂, hfree] at h₂
      · simp only [System.setPhase, Function.update_of_ne hrun₁, Function.update_of_ne hrun₂]
          at h₁ h₂
        exact h.sole run₁ run₂ claim₁ claim₂ h₁ h₂ hsame

theorem Continuity.step (h : Continuity operations contexts c)
    (hstep : Step operations contexts c c') : Continuity operations contexts c' := by
  cases hstep with
  | start fresh sealed =>
      refine h.setPhase ⟨fun context' hcontext => ?_, by simp [Working], by simp [claim?]⟩ rfl
      exact ⟨(Option.some.inj hcontext).symm, sealed⟩
  | run env run => exact h.advance env run
  | crash run =>
      exact h.setPhase ⟨by simp [context?], by simp [Working], by simp [claim?]⟩ rfl

theorem Continuity.steps (h : Continuity operations contexts c)
    (hsteps : Steps operations contexts c c') : Continuity operations contexts c' := by
  induction hsteps with
  | refl => exact h
  | tail _ hstep ih => exact ih.step hstep

theorem reachable_continuity (h : Reachable operations contexts c) :
    Continuity operations contexts c :=
  initial_continuity.steps h

/-! ## Continuity of credentials -/

theorem Step.kept (hstep : Step operations contexts c c') (id : String) :
    Kept (c.database id) (c'.database id) := by
  cases hstep with
  | start | crash => exact .refl _
  | run env run =>
      refine database_update (fun t => Kept (c.database id) t) (fun heq => ?_) (.refl _)
      subst heq
      exact (advance_piece env run _ (c.phases run)).kept

theorem Steps.kept (hsteps : Steps operations contexts c c') (id : String) :
    Kept (c.database id) (c'.database id) := by
  induction hsteps with
  | refl => exact .refl _
  | tail _ hstep ih => exact ih.trans (hstep.kept id)

/-- The rows of an application carry the identity and the anchor of a state. -/
structure CarriedBy (s : ApplicationExecutionState) (t : Tables) : Prop where
  row : ∃ s', t.execution = some s' ∧ s'.identity = s.identity ∧
    s'.continuityAnchor = s.continuityAnchor
  attempts : ∀ key a, t.attempts.lookup key = some a →
    a.applicationId = s.applicationId ∧ a.identity = s.identity ∧
      anchorOf a.authorityBinding = .ok s.continuityAnchor
  receipts : ∀ key r, t.operationReceipts.lookup key = some r →
    r.applicationId = s.applicationId ∧ r.identity = s.identity ∧
      anchorOf r.authorityBinding = .ok s.continuityAnchor
  paired : ∀ key key' a r, t.attempts.lookup key = some a →
    t.operationReceipts.lookup key' = some r → a.operationIndex = r.operationIndex →
    a.authorityBinding = r.authorityBinding

theorem CarriedBy.congr {s s' : ApplicationExecutionState} (h : CarriedBy s' t)
    (hidentity : s'.identity = s.identity) (hanchor : s'.continuityAnchor = s.continuityAnchor) :
    CarriedBy s t := by
  have happlication : s'.applicationId = s.applicationId := by
    rw [s'.valid.application, s.valid.application, hidentity]
  obtain ⟨hrow, hattempts, hreceipts, hpaired⟩ := h
  rw [hidentity, hanchor] at hrow
  rw [happlication, hidentity, hanchor] at hattempts hreceipts
  exact ⟨hrow, hattempts, hreceipts, hpaired⟩

/-- A run does nothing to the rows of an application and calls nothing for it. -/
structure KeptOut (contexts : Nat → ExecutionContext) (c : System) (id : String) (run : Nat) :
    Prop where
  rows : ∀ env, (c.advance contexts env run).database id = c.database id
  calls : ∀ event ∈ c.trace, Event.run event = run → (Event.attempt event).applicationId ≠ id

/-- A row of an attempt or a receipt stands under the identity of its operation. -/
theorem Continuity.carriedBy (h : Continuity operations contexts c) {id : String}
    {s : ApplicationExecutionState} (hs : (c.database id).execution = some s) :
    CarriedBy s (c.database id) := by
  have hevidence := h.evidence id s hs
  obtain ⟨receipts, closed, opened, hp⟩ := (h.rows id).progress hs
  have hattempt : ∀ key a, (c.database id).attempts.lookup key = some a →
      AttemptRow operations s a ∧ a.operationIdentity = key := by
    intro key a ha
    obtain ⟨hmem, hkey⟩ := hp.attempt_of_lookup ha
    exact ⟨hp.attemptRow a hmem, hkey⟩
  have hreceipt : ∀ key r, (c.database id).operationReceipts.lookup key = some r →
      ReceiptRow operations s r ∧ r.operationIdentity = key := by
    intro key r hr
    obtain ⟨hmem, hkey⟩ := hp.receipt_of_lookup hr
    exact ⟨hp.receiptRow r hmem, hkey⟩
  have happlication : s.applicationId = s.identity.applicationId := s.valid.application
  refine ⟨⟨s, hs, rfl, rfl⟩, fun key a ha => ?_, fun key r hr => ?_, ?_⟩
  · have hidentity := (hattempt key a ha).1.identity
    refine ⟨?_, hidentity, hevidence.attempts key a ha⟩
    rw [a.valid.binding.1, hidentity, happlication]
  · have hidentity := (hreceipt key r hr).1.identity
    obtain ⟨a, ha, -, hauthority⟩ := hevidence.paired key r hr
    refine ⟨?_, hidentity, ?_⟩
    · rw [r.valid.binding.1, hidentity, happlication]
    · rw [← hauthority]
      exact hevidence.attempts key a ha
  · intro key key' a r ha hr hindex
    obtain ⟨b, hb, hindexb, hauthority⟩ := hevidence.paired key' r hr
    obtain ⟨harow, hakey⟩ := hattempt key a ha
    obtain ⟨hbrow, hbkey⟩ := hattempt key' b hb
    -- the index decides the operation, and both decide the key
    have hoperation : a.operation = b.operation := by
      have hsame := harow.operation
      rw [hindex, ← hindexb, hbrow.operation] at hsame
      exact (Option.some.inj hsame).symm
    have hkey : key = key' := by
      rw [← hakey, ← hbkey, a.valid.binding.2.1, b.valid.binding.2.1, hoperation, hindex, ← hindexb,
        a.valid.binding.1, b.valid.binding.1, harow.identity, hbrow.identity]
    subst hkey
    obtain rfl := Option.some.inj (ha.symm.trans hb)
    exact hauthority

/-- A run under another identity or another anchor is kept out. -/
theorem Continuity.keptOut (h : Continuity operations contexts c) {id : String}
    {s : ApplicationExecutionState} (hs : (c.database id).execution = some s)
    (hother : (contexts run).identity ≠ s.identity ∨
      (contexts run).continuityAnchor ≠ s.continuityAnchor) : KeptOut contexts c id run := by
  have hnone : (contexts run).applicationId = id →
      ¬∃ s', Joined (contexts run) (c.database (contexts run).applicationId) s' := by
    rintro rfl ⟨s', hfound, hidentity, hanchor⟩
    obtain rfl := Option.some.inj (hs.symm.trans hfound)
    exact hother.elim (fun hne => hne hidentity.symm) fun hne => hne hanchor.symm
  constructor
  · intro env
    refine database_update (· = c.database id) (fun hid => ?_) rfl
    subst hid
    have hrun := h.runs run
    have hidle : ¬Working (c.phases run) := fun hworking => hnone rfl (hrun.joined hworking)
    exact (advance_piece env run _ (c.phases run)).untouched hidle hs
  · intro event hevent hrun hid
    have hattributed := h.events event hevent
    rw [hrun] at hattributed
    refine hnone ?_ hattributed.joined
    rw [← hid, (Event.attempt event).valid.binding.1, hattributed.identity]
    rfl

/-- The identity and the anchor of an execution row never change, every attempt
and receipt carries them, and no run under others touches the application. -/
theorem credential_continuity {id : String} {s : ApplicationExecutionState}
    (h : Reachable operations contexts c) (hs : (c.database id).execution = some s)
    (hsteps : Steps operations contexts c c') :
    CarriedBy s (c'.database id) ∧
      ∀ run, (contexts run).identity ≠ s.identity ∨
        (contexts run).continuityAnchor ≠ s.continuityAnchor → KeptOut contexts c' id run := by
  have hcontinuity := (reachable_continuity h).steps hsteps
  obtain ⟨s', hs', hidentity, hanchor⟩ := hsteps.kept id s hs
  exact ⟨(hcontinuity.carriedBy hs').congr hidentity hanchor,
    fun run hother => hcontinuity.keptOut hs' (by rwa [hidentity, hanchor])⟩

/-! ## Two authorities for one application -/

/-- The sample authority with the credential of another principal. -/
def rivalAuthority : ApplicationAuthority :=
  { sampleAuthority with credentialPrincipalIdentity := "principal-2" }

def rivalContext : ExecutionContext :=
  { sampleContext with
    authority := rivalAuthority
    identity := sampleIdentity
    continuityAnchor := .principal "principal-2"
    provenance := { sampleContext.provenance with credentialPrincipalIdentity := "principal-2" }
    identity_eq := by decide
    anchor_eq := by decide
    provenance_eq := by
      have hid : sampleIdentity.applicationId ≠ "" := append_ne_empty (by decide)
      unfold AuthorityProvenance.fromLiveAuthority
      rw [if_pos]
      · rfl
      · simp [AuthorityProvenance.Valid, rivalAuthority, sampleAuthority, hid] }

/-- Run 0 has the sample authority and every other run the rival one. -/
def rivalContexts : Nat → ExecutionContext
  | 0 => sampleContext
  | _ + 1 => rivalContext

/-- Where run 0 is, on what rows, in a reachable system. -/
def Visits (c : System) (t : Tables) (phase : Phase) : Prop :=
  c.database sampleIdentity.applicationId = t ∧ c.phases 0 = phase

theorem Visits.advance {t t' : Tables} {phase phase' : Phase} {events : List Event}
    (h : Visits c t phase) (env : Environment)
    (hadvance : Applier.advance env 0 t phase = (t', phase', events)) :
    Visits (c.advance rivalContexts env 0) t' phase' := by
  obtain ⟨rfl, rfl⟩ := h
  have hid : (rivalContexts 0).applicationId = sampleIdentity.applicationId := rfl
  constructor
  · simp [System.advance, Config.advance, System.application, hid, hadvance]
  · simp [System.advance, Config.advance, System.application, hid, hadvance]

end

/-- The sample claim is made under the anchor of its row, and a run with the
rival authority is kept out. -/
theorem credential_continuity_sample :
    ∃ (_ : PythonLibrary) (c : System) (s : ApplicationExecutionState) (a : OperationAttemptState),
      (c.database sampleIdentity.applicationId).attempts.lookup a.operationIdentity = some a ∧
        anchorOf a.authorityBinding = .ok s.continuityAnchor ∧
        KeptOut rivalContexts c sampleIdentity.applicationId 1 := by
  let library := ReferenceLibrary.referenceLibrary
  let c₀ := System.initial.setPhase 0 (.opening sampleContext)
  obtain ⟨s, hs, hopened⟩ := DispatchHistory.sample_opened
  obtain ⟨claim, t, hclaim, hclaimed⟩ := DispatchHistory.sample_claimed hs
  have hstart : Step sampleOperations rivalContexts .initial c₀ :=
    .start rfl sample_sealed
  have hvisits : Visits c₀ .empty (.opening sampleContext) := ⟨rfl, by simp [c₀, System.setPhase]⟩
  have hlooping := hvisits.advance _ hopened
  have hheld := hlooping.advance _ hclaimed
  have hreachable : Reachable sampleOperations rivalContexts
      (c₀.advance rivalContexts (DispatchHistory.sampleEnvironment 0 .empty) 0) :=
    (Relation.ReflTransGen.single hstart).tail (.run _ 0)
  have hfound : ((c₀.advance rivalContexts (DispatchHistory.sampleEnvironment 0 .empty) 0).database
      sampleIdentity.applicationId).execution = some s := by
    rw [hlooping.1]
  obtain ⟨hcarried, hout⟩ := credential_continuity hreachable hfound
    (.single (.run (DispatchHistory.sampleEnvironment 10 t) 0))
  have hrow := hheld.1 ▸ hclaim.rows.row
  refine ⟨library, _, s, claim.attempt, hrow, (hcarried.attempts _ _ hrow).2.2, hout 1 (.inr ?_)⟩
  rw [hs.anchor]
  simp [rivalContexts, rivalContext, sampleContext]

end DeliverySystem.CredentialContinuity

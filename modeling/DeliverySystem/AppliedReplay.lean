import DeliverySystem.CredentialContinuity

/-!
# Applied applications replay

Finalization builds the closure of an application from the receipt rows of the
database; a later reader derives everything again from the operations of the
Preview. In every run the two agree, and once an application is applied its
tables never change: a later call of `apply` reads the closure and returns.

The calls are made with valid authorities. What matters of their validity is
that authorities of one application name one credential.
-/
namespace DeliverySystem.AppliedReplay
open PythonValues WriteOperations ApplicationIdentity ExecutionRecords ExecutionContexts
open KeyedRows ExecutionStore ExecutionTransactions ExecutionInvariant ApplicationStatus
open IssueCommands Applier CredentialContinuity
set_option autoImplicit false

section
variable [PythonLibrary]
variable {operations : SealedOperations} {contexts : Nat → ExecutionContext}
variable {context : ExecutionContext} {t t' : Tables} {s s' : ApplicationExecutionState}
variable {applicationId : String}

/-! ## The closure of an applied application -/

/-- The stored closure refers to the receipt rows in their order. -/
structure ClosedBy (t : Tables) (s : ApplicationExecutionState) (r : ApplicationReceipt) :
    Prop where
  stored : t.applicationReceipt = some r
  managed : s.orchestrationPolicy = some applierOrchestrationPolicy
  identity : r.identity = s.identity
  digest : r.operationSetDigest = s.identity.values.operationSetDigest
  intact : r.verifyIntegrity = true
  refs : r.operationReceiptRefs = t.operationReceipts.entries.map fun row => row.2.ref

def Closed (t : Tables) : Prop :=
  ∀ s, t.execution = some s → s.state = .applied → ∃ r, ClosedBy t s r

theorem newApplicationReceipt_spec {refs : List OperationReceiptRef} {startedAt completedAt : Instant}
    {r : ApplicationReceipt}
    (h : context.newApplicationReceiptFromRefs true refs startedAt completedAt = .ok r) :
    r.identity = context.identity ∧
      r.operationSetDigest = context.identity.values.operationSetDigest ∧
      r.operationReceiptRefs = refs ∧ r.verifyIntegrity = true := by
  simp only [ExecutionContext.newApplicationReceiptFromRefs, bind_eq_ok, pure_eq_ok] at h
  obtain ⟨_, -, made, hmake, rfl⟩ := h
  have hfields := make_applicationReceipt_eq_ok hmake
  have hlast : made.withDigest.toApplicationReceiptFields =
      { made.toApplicationReceiptFields with receiptDigest := digest made.payload } := rfl
  rw [hfields] at hlast
  refine ⟨?_, ?_, ?_, made.verifyIntegrity_withDigest⟩
  all_goals rw [hlast]
  rfl

/-- Finalization found the receipt rows in their order. -/
theorem finalized_receipts {stateDigest : String} {now : Instant}
    {found receipts : List OperationReceipt} {r : ApplicationReceipt}
    {closed : List OperationAttemptState} {opened : Option OperationAttemptState}
    (hsealed : ExecutionContext.Sealed operations context)
    (h : Finalized applicationId context stateDigest now t s s' found r t')
    (hp : Progress operations applicationId t s receipts closed opened) : found = receipts := by
  have hcount : receipts.length = s.nextOperationIndex := by
    simpa using congrArg List.length hp.receiptIndices
  have hops : operations s.identity = context.expectedOperations := by
    rw [h.continued.owned.1, ← hsealed]
  have hlength : found.length = receipts.length := by
    rw [← h.stored.length_eq, List.length_zipIdx, hcount, h.complete]
  apply List.ext_getElem?
  intro i
  by_cases hi : i < receipts.length
  · have hlt : i < context.expectedOperations.length := by
      rw [← h.complete, ← hcount]
      exact hi
    have hop : (operations s.identity)[i]? = some context.expectedOperations[i] := by
      rw [hops]
      exact List.getElem?_eq_getElem hlt
    obtain ⟨stored, hstored, -, -, hlookup⟩ :=
      hp.receipt_at (by rw [← hcount]; exact hi) hop
    have hentry : i < context.expectedOperations.zipIdx.length := by
      rw [List.length_zipIdx]
      exact hlt
    have hfinal := (List.forall₂_iff_get.mp h.stored).2 i hentry (hlength ▸ hi)
    simp only [finalReceipt, bind_eq_ok, orRaise_eq_ok, pure_eq_ok, List.get_eq_getElem,
      List.getElem_zipIdx, Nat.zero_add] at hfinal
    obtain ⟨row, hrow, _, -, _, -, heq⟩ := hfinal
    rw [hlookup, Option.some.injEq] at hrow
    rw [hstored, List.getElem?_eq_getElem (hlength ▸ hi), ← heq, hrow]
  · rw [List.getElem?_eq_none (by omega), List.getElem?_eq_none (by omega)]

theorem finalized_closed {stateDigest : String} {now : Instant} {found : List OperationReceipt}
    {r : ApplicationReceipt} (hsealed : ExecutionContext.Sealed operations context)
    (h : Finalized applicationId context stateDigest now t s s' found r t')
    (hinv : Invariant operations applicationId t) : ClosedBy t' s' r := by
  obtain ⟨receipts, closed, opened, hp⟩ := hinv.progress h.found
  obtain ⟨hidentity, hdigest, hrefs, hintact⟩ := newApplicationReceipt_spec h.closing
  have hsame : s'.identity = context.identity := h.continued.identity.trans h.continued.owned.1
  have hrows : t'.operationReceipts = t.operationReceipts := by rw [h.written]
  have hmanaged := h.continued.orchestrationPolicy.trans h.managed
  refine ⟨by rw [h.written], hmanaged, hidentity.trans hsame.symm, by rw [hdigest, hsame], hintact,
    ?_⟩
  rw [hrefs, finalized_receipts hsealed h hp, hrows, hp.receiptEntries, receiptRows, List.map_map]
  rfl

/-! ## Reading the closure back -/

theorem closedBy_receipt {r : ApplicationReceipt} (h : ClosedBy t s r) {workspace : String}
    (hnamed : s.applicationId = applicationId)
    (hworkspace : s.identity.values.workspaceIdentity = workspace) :
    getApplicationReceipt workspace applicationId t = .ok r :=
  getApplicationReceipt_eq_ok.mpr ⟨h.stored,
    by rw [r.valid.binding.1, h.identity, ← s.valid.application, hnamed],
    by rw [h.identity, hworkspace], h.intact⟩

/-- The receipts of an applied application, each at its operation. -/
theorem applied_receipts {receipts : List OperationReceipt}
    {closed : List OperationAttemptState} {opened : Option OperationAttemptState}
    (hp : Progress operations applicationId t s receipts closed opened)
    (happlied : s.state = .applied) :
    (operations s.identity).length = receipts.length ∧
      ∀ i operation, (operations s.identity)[i]? = some operation → ∃ r, receipts[i]? = some r ∧
        r.operationIndex = i ∧ r.canonicalOperation = operation ∧
        r.operationIdentity = operationIdentity applicationId i operation ∧
        r.applicationId = applicationId ∧ r.identity = s.identity ∧ r.verifyIntegrity = true ∧
        t.operationReceipts.lookup (operationIdentity applicationId i operation) = some r := by
  have hcount : receipts.length = s.nextOperationIndex := by
    simpa using congrArg List.length hp.receiptIndices
  have htotal := hp.coordinated.applied happlied
  refine ⟨by rw [hcount, htotal], fun i operation hop => ?_⟩
  have hi : i < s.nextOperationIndex := by
    rw [htotal]
    exact (List.getElem?_eq_some_iff.mp hop).1
  obtain ⟨r, hr, hindex, hid, hlookup⟩ := hp.receipt_at hi hop
  have hrow := hp.receiptRow r (List.mem_of_getElem? hr)
  have hoperation := hrow.operation
  rw [hindex, hop, Option.some.injEq] at hoperation
  refine ⟨r, hr, hindex, hoperation.symm, hid, ?_, hrow.identity, hrow.intact, hlookup⟩
  rw [r.valid.binding.1, hrow.identity, ← s.valid.application, hp.named]

/-- An operation zipped with the references stands with the receipt at its place. -/
theorem mem_zip_ref {expected : List WriteOperation} {receipts : List OperationReceipt}
    {entry : (WriteOperation × OperationReceiptRef) × Nat}
    (h : entry ∈ (expected.zip (receipts.map OperationReceipt.ref)).zipIdx) :
    expected[entry.2]? = some entry.1.1 ∧ ∃ r, receipts[entry.2]? = some r ∧
      r.ref = entry.1.2 := by
  have hat := List.mem_zipIdx_iff_getElem?.mp h
  rw [List.getElem?_zip_eq_some] at hat
  obtain ⟨hoperation, href⟩ := hat
  rw [List.getElem?_map, Option.map_eq_some_iff] at href
  exact ⟨hoperation, href⟩

theorem applied_replayed {workspace : String} {receipts : List OperationReceipt}
    {closed : List OperationAttemptState} {opened : Option OperationAttemptState}
    (hp : Progress operations applicationId t s receipts closed opened)
    (happlied : s.state = .applied)
    (hworkspace : s.identity.values.workspaceIdentity = workspace) :
    ((operations s.identity).zip (receipts.map OperationReceipt.ref)).zipIdx.mapM
      (replayReceipt workspace applicationId fun _ => t) = .ok receipts := by
  obtain ⟨hlength, hat⟩ := applied_receipts hp happlied
  rw [mapM_eq_ok, List.forall₂_iff_get]
  constructor
  · simp [hlength]
  · intro i hi hj
    have hindex : ((operations s.identity).zip
        (receipts.map OperationReceipt.ref)).zipIdx[i].2 = i := by simp
    obtain ⟨hop, found, hfound, href⟩ := mem_zip_ref (List.getElem_mem hi)
    rw [hindex] at hop hfound
    obtain ⟨stored, hstored, -, -, hid, hnamed, hidentity, hintact, hlookup⟩ := hat i _ hop
    obtain rfl : stored = found := Option.some.inj (hstored.symm.trans hfound)
    have hget := getOperationReceipt_eq_ok.mpr ⟨hlookup, hnamed, hid,
      (by rw [hidentity, hworkspace] : stored.identity.values.workspaceIdentity = workspace),
      hintact⟩
    have hlast : stored = receipts[i] := by
      rw [List.getElem?_eq_getElem hj] at hstored
      exact (Option.some.inj hstored).symm
    simp only [List.get_eq_getElem, replayReceipt, bind_eq_ok, recode_eq_ok, raiseIf_eq_ok,
      pure_eq_ok, hindex]
    refine ⟨stored, hget, (), ?_, hlast⟩
    rw [← href]
    simp [OperationReceipt.ref, hintact]

theorem applied_validateAgainst {r : ApplicationReceipt} {receipts : List OperationReceipt}
    {closed : List OperationAttemptState} {opened : Option OperationAttemptState}
    (hp : Progress operations applicationId t s receipts closed opened)
    (happlied : s.state = .applied) (hclosed : ClosedBy t s r)
    (hrefs : r.operationReceiptRefs = receipts.map OperationReceipt.ref)
    (hcanonical : ∀ operation ∈ operations s.identity, operation.Canonical) :
    validateAgainst r (operations s.identity) receipts = true := by
  obtain ⟨hlength, hat⟩ := applied_receipts hp happlied
  have happ : r.applicationId = applicationId := by
    rw [r.valid.binding.1, hclosed.identity, ← s.valid.application, hp.named]
  simp only [validateAgainst, Bool.and_eq_true, decide_eq_true_eq, List.all_eq_true]
  refine ⟨⟨⟨⟨hcanonical, by rw [hclosed.digest, hclosed.identity]⟩, hlength⟩,
    by rw [hrefs, List.length_map]⟩, ?_⟩
  intro entry hentry
  have hmem := List.mem_zipIdx_iff_getElem?.mp hentry
  rw [hrefs, List.getElem?_zip_eq_some, List.getElem?_zip_eq_some, List.getElem?_map,
    Option.map_eq_some_iff] at hmem
  obtain ⟨⟨hop, hfound⟩, again, hagain, href⟩ := hmem
  obtain ⟨stored, hstored, hindex, hoperation, hid, hnamed, -, hintact, -⟩ := hat _ _ hop
  obtain rfl : stored = entry.1.1.2 := Option.some.inj (hstored.symm.trans hfound)
  obtain rfl : entry.1.1.2 = again := Option.some.inj (hfound.symm.trans hagain)
  exact ⟨⟨⟨⟨⟨hintact, hnamed.trans happ.symm⟩, hindex⟩, by rw [happ, hid]⟩, hoperation⟩, href⟩

/-- `get_execution` of an applied application, with the operations of its Preview. -/
theorem applied_getExecution {workspace : String} {r : ApplicationReceipt}
    (hinv : Invariant operations applicationId t) (hs : t.execution = some s)
    (happlied : s.state = .applied) (hclosed : ClosedBy t s r)
    (hworkspace : s.identity.values.workspaceIdentity = workspace)
    (hcanonical : ∀ operation ∈ operations s.identity, operation.Canonical) :
    getExecution workspace applicationId (fun _ => t) (some (operations s.identity)) = .ok s := by
  obtain ⟨receipts, closed, opened, hp⟩ := hinv.progress hs
  have hrefs : r.operationReceiptRefs = receipts.map OperationReceipt.ref := by
    rw [hclosed.refs, hp.receiptEntries, receiptRows, List.map_map]
    rfl
  have hids : r.operationReceiptRefs.map (·.operationReceiptId) = s.operationReceiptRefs := by
    rw [hrefs, hp.receiptRefs, List.map_map]
    rfl
  have hload : loadExecutionState workspace applicationId t = .ok s :=
    loadExecutionState_eq_ok.mpr ⟨hs, hp.named, hworkspace, hp.intact⟩
  have happ : r.applicationId = s.applicationId := by
    rw [r.valid.binding.1, hclosed.identity, ← s.valid.application]
  have hreplay : validateReplay workspace applicationId (fun _ => t) s (operations s.identity) =
      .ok () := by
    simp only [validateReplay, bind_eq_ok, raiseIf_eq_ok]
    refine ⟨r, closedBy_receipt hclosed hp.named hworkspace, (), ?_, (), not_not.mpr hids, (), ?_,
      receipts, ?_, (), ?_, ?_⟩
    · simp [hclosed.intact, happ, hclosed.identity]
    · rw [hrefs, List.length_map, (applied_receipts hp happlied).1]
      simp
    · rw [hrefs]
      exact applied_replayed hp happlied hworkspace
    · rw [hp.receiptIndices, ← (by simpa using congrArg List.length hp.receiptIndices :
        receipts.length = s.nextOperationIndex)]
      simp
    · rw [applied_validateAgainst hp happlied hclosed hrefs hcanonical]
      decide
  simp [getExecution, hload, happlied, orRaise, hreplay, bind, Except.bind, pure, Except.pure]

/-! ## Runs over an applied application -/

variable {run : Nat} {phase next : Phase} {events : List Event} {c c' : System}

/-- Nothing is written to an applied application. -/
theorem Piece.frozen_applied (h : Piece run t phase (t', next, events)) (hs : t.execution = some s)
    (happlied : s.state = .applied) : t' = t := by
  cases h with
  | quiet | called => rfl
  | opened _ _ _ created =>
      rcases created.outcome with ⟨hnone, -, -⟩ | ⟨-, rfl, -⟩
      · rw [hs] at hnone
        cases hnone
      · rfl
  | claimed _ _ claim =>
      obtain rfl := Option.some.inj (hs.symm.trans claim.found)
      rcases claim.idle with hidle | hidle <;> rw [happlied] at hidle <;> cases hidle
  | completed _ completed =>
      obtain rfl := Option.some.inj (hs.symm.trans completed.claim.found)
      have happlying := completed.claim.applying
      rw [happlied] at happlying
      cases happlying
  | settled _ settled =>
      obtain rfl := Option.some.inj (hs.symm.trans settled.claim.found)
      have happlying := settled.claim.applying
      rw [happlied] at happlying
      cases happlying
  | finalized _ _ finalized =>
      obtain rfl := Option.some.inj (hs.symm.trans finalized.found)
      have hpartly := finalized.partly
      rw [happlied] at hpartly
      cases hpartly

/-- A row is only made by a run of its application, under the run's own context. -/
structure MadeBy (operations : SealedOperations) (contexts : Nat → ExecutionContext)
    (s : ApplicationExecutionState) (run : Nat) : Prop where
  sealed : ExecutionContext.Sealed operations (contexts run)
  identity : (contexts run).identity = s.identity
  anchor : (contexts run).continuityAnchor = s.continuityAnchor

/-- What every reachable system says of one application beside `Continuity`. -/
structure Finalizable (operations : SealedOperations) (contexts : Nat → ExecutionContext)
    (t : Tables) : Prop where
  closed : Closed t
  made : ∀ s, t.execution = some s → ∃ run, MadeBy operations contexts s run

theorem MadeBy.kept {run' : Nat} (h : MadeBy operations contexts s run')
    (hidentity : s'.identity = s.identity) (hanchor : s'.continuityAnchor = s.continuityAnchor) :
    MadeBy operations contexts s' run' :=
  ⟨h.sealed, h.identity.trans hidentity.symm, h.anchor.trans hanchor.symm⟩

theorem settled_written {stateDigest attemptId attemptDigest owner : String} {name : StateName}
    {code : String} {now : Instant} {attempt nextAttempt : OperationAttemptState}
    (h : Settled context stateDigest attemptId attemptDigest owner name code now t s s' attempt
      nextAttempt t') : t'.execution = some s' := by
  rw [h.written]

theorem finalized_written {stateDigest : String} {now : Instant} {found : List OperationReceipt}
    {r : ApplicationReceipt}
    (h : Finalized applicationId context stateDigest now t s s' found r t') :
    t'.execution = some s' := by
  rw [h.written]

theorem Piece.finalizable (h : Piece run t phase (t', next, events))
    (hrun : RunHolds operations (contexts run) t phase) (hinv : Invariant operations applicationId t)
    (hnamed : applicationId = (contexts run).applicationId)
    (hfinal : Finalizable operations contexts t) : Finalizable operations contexts t' := by
  have hclosed : ∀ s', t'.execution = some s' → s'.state ≠ .applied → Closed t' := by
    intro s' hs' hstate s'' hs'' happlied
    obtain rfl := Option.some.inj (hs'.symm.trans hs'')
    exact absurd happlied hstate
  have hmade : ∀ {values : ExecutionProgress} {context' : ExecutionContext}
      {previous state : ApplicationExecutionState}, t.execution = some previous →
      t'.execution = some state → Continues context' previous state values →
      ∀ s', t'.execution = some s' → ∃ run, MadeBy operations contexts s' run := by
    intro values context' previous state hfound hwritten hcontinued s' hs'
    obtain rfl := Option.some.inj (hwritten.symm.trans hs')
    obtain ⟨maker, hmaker⟩ := hfinal.made previous hfound
    exact ⟨maker, hmaker.kept hcontinued.identity hcontinued.continuityAnchor⟩
  cases h with
  | quiet | called => exact hfinal
  | @opened _ initial _ _ _ opening identity anchor created =>
      rcases created.outcome with ⟨hnone, hresult, htables⟩ | ⟨-, rfl, -⟩
      · have hwritten : t'.execution = some initial.withDigest := by rw [htables]
        obtain ⟨hown, hsealed⟩ := hrun.owned _ (by rw [opening]; rfl)
        refine ⟨hclosed _ hwritten ?_, fun s' hs' => ⟨run, ?_⟩⟩
        · have hpending : initial.withDigest.state = .pending := created.pending.1
          simp [hpending]
        · obtain rfl := Option.some.inj (hwritten.symm.trans hs')
          exact ⟨hown ▸ hsealed, by rw [← hown]; exact identity.symm,
            by rw [← hown]; exact anchor.symm⟩
      · exact hfinal
  | claimed _ _ claim =>
      have hwritten := claimed_written claim
      refine ⟨hclosed _ hwritten ?_, hmade claim.found hwritten claim.continued⟩
      simp [claim.continued.progress]
  | completed _ completed =>
      have hwritten := completed_written completed
      refine ⟨hclosed _ hwritten ?_, hmade completed.claim.found hwritten completed.continued⟩
      simp [completed.continued.progress]
  | settled _ settled =>
      have hwritten := settled_written settled
      refine ⟨hclosed _ hwritten ?_, hmade settled.claim.found hwritten settled.continued⟩
      rw [settled.continued.progress]
      rintro rfl
      exact absurd settled.name (by decide)
  | finalized looping _ finalized =>
      obtain ⟨hown, hsealed⟩ := hrun.owned _ looping
      have hwritten := finalized_written finalized
      rw [hown, ← hnamed] at finalized
      refine ⟨fun s' hs' _ => ?_, hmade finalized.found hwritten finalized.continued⟩
      obtain rfl := Option.some.inj (hwritten.symm.trans hs')
      exact ⟨_, finalized_closed (hown ▸ hsealed) finalized hinv⟩

theorem reachable_finalizable (h : Reachable operations contexts c) (id : String) :
    Finalizable operations contexts (c.database id) := by
  induction h with
  | refl =>
      refine ⟨fun s hs => ?_, fun s hs => ?_⟩
      all_goals simp [System.initial, emptyDatabase, Tables.empty] at hs
  | tail hsteps hstep ih =>
      have hcontinuity := reachable_continuity hsteps
      cases hstep with
      | start | crash => exact ih
      | run env run =>
          refine database_update (Finalizable operations contexts) (fun heq => ?_) ih
          subst heq
          exact Piece.finalizable (advance_piece env run _ _) (hcontinuity.runs run)
            (hcontinuity.rows _) rfl ih

/-- No later step of any run touches the tables of an applied application. -/
theorem Steps.frozen (hsteps : Steps operations contexts c c') {id : String}
    (hs : (c.database id).execution = some s) (happlied : s.state = .applied) :
    c'.database id = c.database id := by
  induction hsteps with
  | refl => rfl
  | @tail c₁ c₂ _ hstep ih =>
      cases hstep with
      | start | crash => exact ih
      | run env run =>
          refine database_update (fun t => t = c.database id) (fun heq => ?_) ih
          subst heq
          rw [← ih] at hs ⊢
          exact Piece.frozen_applied (advance_piece env run _ _) hs happlied

/-! ## Valid authorities -/

/-- The credential of a registered binding that an authority must repeat. -/
structure CredentialBinding where
  credentialInstanceId : String
  issuerId : String
  credentialPrincipalIdentity : String
deriving Repr, DecidableEq

def credentialOf (authority : ApplicationAuthority) : CredentialBinding where
  credentialInstanceId := authority.credentialInstanceId
  issuerId := authority.issuerId
  credentialPrincipalIdentity := authority.credentialPrincipalIdentity

/-- The credential binding of the one issuance that lists an operation, and the
credential that a binding id, the digest of the binding, stands for. -/
structure AuthorityRegistry where
  issued : String → Option String
  bindings : String → Option CredentialBinding

/-- What `validate_application_authority` compares of the credential of an
authority: the payload of its issuance, and the registered binding. -/
structure Registered (registry : AuthorityRegistry) (context : ExecutionContext) : Prop where
  issued : ∀ i operation, context.expectedOperations[i]? = some operation →
    registry.issued (operationIdentity context.applicationId i operation) =
      some context.authority.credentialBindingId
  bound : registry.bindings context.authority.credentialBindingId =
    some (credentialOf context.authority)

/-- Valid authorities of one application have one anchor. -/
theorem Registered.anchor_eq {registry : AuthorityRegistry} {context' : ExecutionContext}
    (h : Registered registry context) (h' : Registered registry context')
    (hidentity : context.identity = context'.identity)
    (hoperations : context.expectedOperations = context'.expectedOperations)
    (hsome : context.expectedOperations ≠ []) :
    context.continuityAnchor = context'.continuityAnchor := by
  obtain ⟨operation, rest, hcons⟩ := List.exists_cons_of_ne_nil hsome
  have hop : context.expectedOperations[0]? = some operation := by rw [hcons]; rfl
  have happ : context.applicationId = context'.applicationId := by
    rw [ExecutionContext.applicationId, hidentity, ExecutionContext.applicationId]
  have hissued := h.issued 0 operation hop
  have hissued' := h'.issued 0 operation (hoperations ▸ hop)
  rw [← happ, hissued, Option.some.injEq] at hissued'
  have hbound := h.bound
  rw [hissued', h'.bound, Option.some.injEq] at hbound
  simp only [credentialOf, CredentialBinding.mk.injEq] at hbound
  obtain ⟨hinstance, hissuer, hprincipal⟩ := hbound
  have hanchor := context.anchor_eq
  rw [CredentialContinuityAnchor.fromAuthority, ← hinstance, ← hissuer, ← hprincipal] at hanchor
  exact Except.ok.inj (hanchor.symm.trans context'.anchor_eq)

/-! ## Later calls -/

/-- What a call of `apply` gets while its authority is valid: every check passes
and every read sees the rows that are there. -/
structure Answers (t : Tables) (env : Environment) : Prop where
  capability : env.capability = true
  current : ∀ i, env.current i = true
  read : ∀ point, env.read point = t

/-- A step of the system in which `run` neither crashes nor loses its authority. -/
inductive AnsweredStep (operations : SealedOperations) (contexts : Nat → ExecutionContext)
    (run : Nat) (c : System) : System → Prop
  | start {other : Nat} (fresh : c.phases other = .idle)
      (sealed : ExecutionContext.Sealed operations (contexts other)) :
      AnsweredStep operations contexts run c (c.setPhase other (.opening (contexts other)))
  | run (env : Environment) (other : Nat)
      (answers : other = run → Answers (c.database (contexts run).applicationId) env) :
      AnsweredStep operations contexts run c (c.advance contexts env other)
  | crash (other : Nat) (h : other ≠ run) :
      AnsweredStep operations contexts run c (c.setPhase other .crashed)

theorem AnsweredStep.step (h : AnsweredStep operations contexts run c c') :
    Step operations contexts c c' := by
  cases h with
  | start fresh sealed => exact .start fresh sealed
  | run env other _ => exact .run env other
  | crash other _ => exact .crash other

/-- Where a later call stands, and what it returns. -/
inductive Replays (context : ExecutionContext) (s : ApplicationExecutionState)
    (result : ApplyResult) : Phase → Prop
  | idle : Replays context s result .idle
  | opening : Replays context s result (.opening context)
  | replaying : Replays context s result (.replaying context s)
  | finished : Replays context s result (.finished (.ok result))

/-- The result of a call over an applied application. -/
def appliedResult (context : ExecutionContext) (s : ApplicationExecutionState)
    (r : ApplicationReceipt) : ApplyResult :=
  { applicationId := context.applicationId
    state := .applied
    nextOperationIndex := s.nextOperationIndex
    applicationReceiptId := some r.applicationReceiptId
    recoveryCode := none }

/-- An applied application as a later call of `context` finds it. -/
structure Found (operations : SealedOperations) (context : ExecutionContext) (t : Tables)
    (s : ApplicationExecutionState) (r : ApplicationReceipt) : Prop where
  invariant : Invariant operations context.applicationId t
  row : t.execution = some s
  applied : s.state = .applied
  closed : ClosedBy t s r
  sealed : ExecutionContext.Sealed operations context
  identity : context.identity = s.identity
  anchor : context.continuityAnchor = s.continuityAnchor

theorem Found.operations_eq {r : ApplicationReceipt} (h : Found operations context t s r) :
    operations s.identity = context.expectedOperations := by
  rw [← h.identity, h.sealed]

theorem Found.opened {r : ApplicationReceipt} (h : Found operations context t s r)
    {env : Environment} (henv : Answers t env) (run : Nat) :
    Applier.advance env run t (.opening context) = (t, .replaying context s, []) := by
  obtain ⟨receipts, closed, opened, hp⟩ := h.invariant.progress h.row
  obtain ⟨initial, hinitial, hprogress, -, hidentity, hanchor, -⟩ :=
    newExecutionState_ok context env.now
  have hcreate : createExecutionIfAbsent env.capability (env.current 1) t initial = .ok (t, s) := by
    simp only [createExecutionIfAbsent, requireOrchestrationCapability, validateExecutionContext,
      requireManaged, bind_eq_ok, raiseIf_eq_ok, henv.capability, henv.current, h.row, pure_eq_ok]
    refine ⟨(), by simp, (), ?_, (), by simp, (), ?_, (), ?_, trivial⟩
    · rw [hprogress]
      simp [ExecutionContext.initialProgress]
    · simp [hp.intact, hidentity, hanchor, h.identity, h.anchor]
    · simp [h.closed.managed]
  have hopen : openExecution env t context = .ok (t, s) := by
    rw [openExecution, henv.current 0, hinitial]
    exact hcreate
  simp only [Applier.advance, hopen, entered, h.applied]

theorem Found.replayed {r : ApplicationReceipt} (h : Found operations context t s r)
    {env : Environment} (henv : Answers t env) (run : Nat) :
    Applier.advance env run t (.replaying context s) =
      (t, .finished (.ok (appliedResult context s r)), []) := by
  obtain ⟨receipts, closed, opened, hp⟩ := h.invariant.progress h.row
  have hread : env.read = fun _ => t := funext henv.read
  have hworkspace : s.identity.values.workspaceIdentity =
      context.identity.values.workspaceIdentity := by rw [h.identity]
  have hcanonical : ∀ operation ∈ operations s.identity, operation.Canonical := by
    rw [h.operations_eq]
    exact context.canonical
  have hexecution := applied_getExecution h.invariant h.row h.applied h.closed hworkspace hcanonical
  rw [h.operations_eq] at hexecution
  have hreceipt := closedBy_receipt h.closed hp.named hworkspace
  have hreplay : replay env context = .ok (appliedResult context s r) := by
    simp only [replay, hread, hexecution, hreceipt, bind, Except.bind, pure, Except.pure]
    rw [applyResult, appliedResult, h.applied]
  simp only [Applier.advance, hreplay]

theorem Piece.own (h : Piece run t phase (t', next, events)) :
    ∀ event ∈ events, Event.run event = run := by
  cases h with
  | quiet | opened | completed | settled | finalized => simp
  | claimed | called =>
      intro event hevent
      rw [List.mem_singleton] at hevent
      rw [hevent]
      rfl

/-- One answered step keeps a later call on its way to its result. -/
theorem AnsweredStep.replays {r : ApplicationReceipt} {id : String}
    (h : AnsweredStep operations contexts run c c') (hid : id = (contexts run).applicationId)
    (hfound : Found operations (contexts run) (c.database id) s r)
    (hphase : Replays (contexts run) s (appliedResult (contexts run) s r) (c.phases run)) :
    Replays (contexts run) s (appliedResult (contexts run) s r) (c'.phases run) ∧
      ∀ event ∈ c'.trace, Event.run event = run → event ∈ c.trace := by
  subst hid
  cases h with
  | @start other fresh _ =>
      refine ⟨?_, fun event hevent _ => hevent⟩
      by_cases hother : run = other
      · subst hother
        simp only [System.setPhase, Function.update_self]
        exact .opening
      · simp only [System.setPhase, Function.update_of_ne hother]
        exact hphase
  | crash other hne =>
      refine ⟨?_, fun event hevent _ => hevent⟩
      simp only [System.setPhase, Function.update_of_ne hne.symm]
      exact hphase
  | run env other answers =>
      by_cases hother : run = other
      · subst hother
        have henv := answers rfl
        have hadvance : Replays (contexts run) s (appliedResult (contexts run) s r)
            (Applier.advance env run (c.database (contexts run).applicationId)
              (c.phases run)).2.1 ∧
            (Applier.advance env run (c.database (contexts run).applicationId)
              (c.phases run)).2.2 = [] := by
          generalize c.phases run = phase at hphase ⊢
          cases hphase with
          | idle => exact ⟨.idle, rfl⟩
          | opening =>
              rw [hfound.opened henv]
              exact ⟨.replaying, rfl⟩
          | replaying =>
              rw [hfound.replayed henv]
              exact ⟨.finished, rfl⟩
          | finished => exact ⟨.finished, rfl⟩
        simp only [System.advance, Config.advance, System.application, Function.update_self,
          hadvance.2, List.append_nil]
        exact ⟨hadvance.1, fun event hevent _ => hevent⟩
      · simp only [System.advance, Config.advance, System.application,
          Function.update_of_ne hother]
        refine ⟨hphase, fun event hevent hrun => ?_⟩
        rcases List.mem_append.mp hevent with hold | hnew
        · exact hold
        · have hown := Piece.own (advance_piece env other _ (c.phases other)) event hnew
          exact absurd (hrun.symm.trans hown) hother

/-- A later call, through any number of steps of all runs. -/
theorem AnsweredStep.run_replays {r : ApplicationReceipt} {id : String}
    (hsteps : Relation.ReflTransGen (AnsweredStep operations contexts run) c c')
    (hid : id = (contexts run).applicationId)
    (hfound : Found operations (contexts run) (c.database id) s r)
    (hphase : Replays (contexts run) s (appliedResult (contexts run) s r) (c.phases run)) :
    Replays (contexts run) s (appliedResult (contexts run) s r) (c'.phases run) ∧
      (∀ event ∈ c'.trace, Event.run event = run → event ∈ c.trace) ∧
      c'.database id = c.database id := by
  induction hsteps with
  | refl => exact ⟨hphase, fun event hevent _ => hevent, rfl⟩
  | @tail c₁ c₂ _ hstep ih =>
      obtain ⟨hreplays, htrace, hkept⟩ := ih
      obtain ⟨hnext, hevents⟩ := hstep.replays hid (hkept ▸ hfound) hreplays
      refine ⟨hnext, fun event hevent hrun => htrace event (hevents event hevent hrun) hrun, ?_⟩
      have hfrozen := Steps.frozen (.single hstep.step)
        (by rw [hkept]; exact hfound.row) hfound.applied
      exact hfrozen.trans hkept

/-- What an applied application answers: its reader, and a later call of `run`. -/
structure ReplaysAs (operations : SealedOperations) (contexts : Nat → ExecutionContext)
    (c : System) (id : String) (s : ApplicationExecutionState) (r : ApplicationReceipt)
    (run : Nat) : Prop where
  read : getExecution (contexts run).identity.values.workspaceIdentity id
    (fun _ => c.database id) (some (contexts run).expectedOperations) = .ok s
  call : c.phases run = .idle →
    ∀ c', Relation.ReflTransGen (AnsweredStep operations contexts run) c c' →
      Replays (contexts run) s (appliedResult (contexts run) s r) (c'.phases run) ∧
        ∀ event ∈ c'.trace, Event.run event = run → event ∈ c.trace
  opened : ∀ c', Steps operations contexts c c' → c'.phases run = .opening (contexts run) →
    ∀ env, Answers (c'.database id) env →
      (c'.advance contexts env run).phases run = .replaying (contexts run) s
  finished : ∀ c', Steps operations contexts c c' → c'.phases run = .replaying (contexts run) s →
    ∀ env, Answers (c'.database id) env →
      (c'.advance contexts env run).phases run =
        .finished (.ok (appliedResult (contexts run) s r))

theorem Found.replaysAs {r : ApplicationReceipt} {id : String}
    (h : Found operations (contexts run) (c.database id) s r)
    (hid : id = (contexts run).applicationId) :
    ReplaysAs operations contexts c id s r run := by
  subst hid
  constructor
  · have hcanonical : ∀ operation ∈ operations s.identity, operation.Canonical := by
      rw [h.operations_eq]
      exact (contexts run).canonical
    have hworkspace : s.identity.values.workspaceIdentity =
        (contexts run).identity.values.workspaceIdentity := by rw [h.identity]
    have hexecution := applied_getExecution h.invariant h.row h.applied h.closed hworkspace
      hcanonical
    rwa [h.operations_eq] at hexecution
  · intro hidle c' hsteps
    have hphase : Replays (contexts run) s (appliedResult (contexts run) s r) (c.phases run) := by
      rw [hidle]
      exact .idle
    obtain ⟨hreplays, htrace, -⟩ := AnsweredStep.run_replays hsteps rfl h hphase
    exact ⟨hreplays, htrace⟩
  · intro c' hsteps hphase env henv
    rw [← Steps.frozen hsteps h.row h.applied] at h
    simp only [System.advance, Config.advance, System.application, Function.update_self, hphase,
      h.opened henv]
  · intro c' hsteps hphase env henv
    rw [← Steps.frozen hsteps h.row h.applied] at h
    simp only [System.advance, Config.advance, System.application, Function.update_self, hphase,
      h.replayed henv]

/-- Once an application is applied its tables stand still, and every later call
with a valid authority reads its closure and returns it. -/
theorem applied_replays {registry : AuthorityRegistry} {id : String}
    (h : Reachable operations contexts c)
    (hvalid : ∀ run, Registered registry (contexts run))
    (hs : (c.database id).execution = some s) (happlied : s.state = .applied) :
    ∃ r, (c.database id).applicationReceipt = some r ∧
      (∀ c', Steps operations contexts c c' → c'.database id = c.database id) ∧
      ∀ run, ExecutionContext.Sealed operations (contexts run) →
        (contexts run).identity = s.identity → ReplaysAs operations contexts c id s r run := by
  have hcontinuity := reachable_continuity h
  obtain ⟨hclosed, hmade⟩ := reachable_finalizable h id
  obtain ⟨r, hr⟩ := hclosed s hs happlied
  obtain ⟨maker, hmaker⟩ := hmade s hs
  refine ⟨r, hr.stored, fun c' hsteps => Steps.frozen hsteps hs happlied, ?_⟩
  intro run hsealed hidentity
  obtain ⟨receipts, closed, opened, hp⟩ := (hcontinuity.rows id).progress hs
  have hid : id = (contexts run).applicationId := by
    rw [← hp.named, s.valid.application, ← hidentity]
    rfl
  have hoperations : (contexts run).expectedOperations = (contexts maker).expectedOperations := by
    rw [hsealed, hmaker.sealed, hidentity, hmaker.identity]
  have hsome : (contexts run).expectedOperations ≠ [] := by
    intro hnil
    have hlength := (applied_receipts hp happlied).1
    have hrefs := hr.refs
    rw [hp.receiptEntries] at hrefs
    rw [← hidentity, ← hsealed, hnil, List.length_nil] at hlength
    rw [List.eq_nil_of_length_eq_zero hlength.symm] at hrefs
    exact r.valid.receipt.2.2 hrefs
  have hanchor := (hvalid run).anchor_eq (hvalid maker)
    (hidentity.trans hmaker.identity.symm) hoperations hsome
  have hfound : Found operations (contexts run) (c.database id) s r := by
    refine ⟨?_, hs, happlied, hr, hsealed, hidentity, hanchor.trans hmaker.anchor⟩
    rw [← hid]
    exact hcontinuity.rows id
  exact hfound.replaysAs hid

/-! ## A later call of the applied sample -/

/-- The registry of the sample: one issuance, one credential. -/
def sampleRegistry : AuthorityRegistry where
  issued := fun _ => some sampleContext.authority.credentialBindingId
  bindings := fun _ => some (credentialOf sampleContext.authority)

/-- Alone in the system, the sample run passes what it passes in its application. -/
theorem passes_reachable {phase : Phase} {trace : List Event}
    (h : DispatchHistory.Passes t phase trace) :
    ∃ c, Reachable sampleOperations (fun _ => sampleContext) c ∧
      c.database sampleIdentity.applicationId = t ∧ c.phases 0 = phase ∧ c.phases 1 = .idle := by
  induction h with
  | opening =>
      have hstart : Step sampleOperations (fun _ => sampleContext) .initial
          (System.initial.setPhase 0 (.opening sampleContext)) :=
        @Step.start _ sampleOperations (fun _ => sampleContext) .initial 0 rfl sample_sealed
      exact ⟨_, .single hstart, rfl, by simp [System.setPhase], rfl⟩
  | advance _ env hadvance ih =>
      obtain ⟨c, hc, rfl, rfl, hidle⟩ := ih
      have hid : sampleContext.applicationId = sampleIdentity.applicationId := rfl
      refine ⟨c.advance (fun _ => sampleContext) env 0, hc.tail (.run env 0), ?_, ?_, ?_⟩
      · simp [System.advance, Config.advance, System.application, hid, hadvance]
      · simp [System.advance, Config.advance, System.application, hid, hadvance]
      · simpa [System.advance, Config.advance, System.application] using hidle

end

/-- The applied sample: a second call is answered from its closure. -/
theorem sample_replays :
    ∃ (_ : PythonLibrary) (c : System) (s : ApplicationExecutionState) (r : ApplicationReceipt),
      s.state = .applied ∧ c.phases 1 = .idle ∧
        (c.database sampleIdentity.applicationId).applicationReceipt = some r ∧
        ReplaysAs sampleOperations (fun _ => sampleContext) c sampleIdentity.applicationId s r 1 := by
  let library := ReferenceLibrary.referenceLibrary
  obtain ⟨t, s, trace, hs, happlied, hpasses⟩ :=
    DispatchHistory.sample_closing DispatchHistory.reference_sampleText
  obtain ⟨c, hc, rfl, -, hidle⟩ := passes_reachable hpasses
  have hvalid : ∀ run : Nat, Registered sampleRegistry ((fun _ => sampleContext) run) :=
    fun _ => ⟨fun _ _ _ => rfl, rfl⟩
  obtain ⟨r, hr, -, hreplays⟩ := applied_replays hc hvalid hs happlied
  obtain ⟨maker, hmaker⟩ := (reachable_finalizable hc _).made s hs
  exact ⟨library, c, s, r, happlied, hidle, hr, hreplays 1 sample_sealed hmaker.identity⟩

end DeliverySystem.AppliedReplay

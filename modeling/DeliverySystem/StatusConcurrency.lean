import DeliverySystem.StatusAgreement

/-!
# Status requests under concurrent transactions

A request reads its rows one after the other while an applier commits. It reads
one state exactly when no transaction that commits after the read of the
execution row changes a row that is read later; otherwise it reports the rows
it has seen as corrupt, although each committed state by itself is valid.
-/
namespace DeliverySystem.StatusConcurrency
open PythonValues WriteOperations ApplicationIdentity ExecutionRecords ExecutionContexts
open KeyedRows ExecutionStore ExecutionTransactions ExecutionInvariant ApplicationStatus
open StatusAgreement
set_option autoImplicit false

section
variable [PythonLibrary]

/-! ## What later tables keep -/

/-- Rows stay; only an applying attempt is ever rewritten, and then settled. -/
structure Evolves (t t' : Tables) : Prop where
  execution : ∀ s, t.execution = some s →
    ∃ s', t'.execution = some s' ∧ s'.identity = s.identity
  operationReceipts : ∀ id r, t.operationReceipts.lookup id = some r →
    t'.operationReceipts.lookup id = some r
  attempts : ∀ id a, t.attempts.lookup id = some a → ∃ a', t'.attempts.lookup id = some a' ∧
    (a' = a ∨ a.state = .applying ∧ a'.state ≠ .applying)
  applicationReceipt : ∀ r, t.applicationReceipt = some r → t'.applicationReceipt = some r

@[refl] theorem Evolves.refl (t : Tables) : Evolves t t where
  execution := fun s hs => ⟨s, hs, rfl⟩
  operationReceipts := fun _ _ h => h
  attempts := fun _ a ha => ⟨a, ha, .inl rfl⟩
  applicationReceipt := fun _ h => h

theorem Evolves.trans {t u v : Tables} (h : Evolves t u) (g : Evolves u v) : Evolves t v where
  execution := fun s hs => by
    obtain ⟨s', hs', hidentity⟩ := h.execution s hs
    obtain ⟨s'', hs'', hidentity'⟩ := g.execution s' hs'
    exact ⟨s'', hs'', hidentity'.trans hidentity⟩
  operationReceipts := fun id r hr => g.operationReceipts id r (h.operationReceipts id r hr)
  attempts := fun id a ha => by
    obtain ⟨b, hb, hab⟩ := h.attempts id a ha
    obtain ⟨c, hc, hbc⟩ := g.attempts id b hb
    refine ⟨c, hc, ?_⟩
    rcases hab with rfl | ⟨happlying, hnot⟩
    · exact hbc
    · rcases hbc with rfl | ⟨happlying', -⟩
      · exact .inr ⟨happlying, hnot⟩
      · exact absurd happlying' hnot
  applicationReceipt := fun r hr => g.applicationReceipt r (h.applicationReceipt r hr)

instance : Std.Refl Evolves := ⟨Evolves.refl⟩

instance : IsTrans Tables Evolves := ⟨fun _ _ _ => Evolves.trans⟩

variable {operations : SealedOperations} {applicationId workspace : String}

/-- Continuing the execution row keeps its identity. -/
theorem execution_continues {t t' : Tables} {context : ExecutionContext}
    {previous next : ApplicationExecutionState} {values : ExecutionProgress}
    (h : Continues context previous next values) (hfound : t.execution = some previous)
    (hwritten : t'.execution = some next) :
    ∀ s, t.execution = some s → ∃ s', t'.execution = some s' ∧ s'.identity = s.identity := by
  intro s hs
  obtain rfl : previous = s := Option.some.inj (hfound.symm.trans hs)
  exact ⟨next, hwritten, h.identity⟩

theorem attempts_update {t : Tables} {id : String} {a b : OperationAttemptState}
    (hrow : t.attempts.lookup id = some a) (ha : a.state = .applying) (hb : b.state ≠ .applying) :
    ∀ j c, t.attempts.lookup j = some c → ∃ c', (t.attempts.update id b).lookup j = some c' ∧
      (c' = c ∨ c.state = .applying ∧ c'.state ≠ .applying) := by
  intro j c hc
  by_cases hj : j = id
  · subst hj
    obtain rfl : a = c := Option.some.inj (hrow.symm.trans hc)
    exact ⟨b, Rows.lookup_update_self b hrow, .inr ⟨ha, hb⟩⟩
  · exact ⟨c, by rw [Rows.lookup_update_ne _ _ hj, hc], .inl rfl⟩

omit [PythonLibrary] in
theorem lookup_of_insert {record : Type} {rows rows' : Rows String record} {id : String}
    {r : record} (h : rows.insert id r = some rows') :
    ∀ j c, rows.lookup j = some c → rows'.lookup j = some c := by
  intro j c hc
  have hnone := (Rows.insert_eq_some h).1
  rw [Rows.lookup_insert h, if_neg, hc]
  rintro rfl
  rw [hnone] at hc
  cases hc

/-- Every committed transaction keeps what is settled. -/
theorem orchestrated_evolves {t t' : Tables} {readings : Readings}
    (h : Orchestrated operations applicationId t readings t') : Evolves t t' := by
  cases h with
  | create _ _ h =>
      rcases (createExecutionIfAbsent_spec h).outcome with ⟨hnone, -, rfl⟩ | ⟨-, rfl, -⟩
      · exact { Evolves.refl t with execution := fun s hs => by rw [hnone] at hs; cases hs }
      · exact .refl _
  | claim _ h =>
      obtain ⟨previous, hclaimed⟩ := claimNextOperation_spec h
      obtain ⟨attempts, hinsert, rfl⟩ := hclaimed.inserted
      exact
        { execution := execution_continues hclaimed.continued hclaimed.found rfl
          operationReceipts := fun _ _ hr => hr
          attempts := fun id a ha => ⟨a, lookup_of_insert hinsert id a ha, .inl rfl⟩
          applicationReceipt := fun _ hr => hr }
  | complete _ h =>
      obtain ⟨previous, a, b, hcompleted⟩ := completeOperationSuccess_spec h
      obtain ⟨rows, hinsert, rfl⟩ := hcompleted.inserted
      have hb : b.state ≠ .applying := by
        rw [hcompleted.closed.progress]
        simp
      exact
        { execution := execution_continues hcompleted.continued hcompleted.claim.found rfl
          operationReceipts := lookup_of_insert hinsert
          attempts := attempts_update hcompleted.claim.row hcompleted.claim.attemptApplying hb
          applicationReceipt := fun _ hr => hr }
  | settle _ h =>
      obtain ⟨previous, a, b, hsettled⟩ := settleOperation_spec h
      have hb : b.state ≠ .applying := by
        rw [hsettled.closed.progress]
        rcases hsettled.name with hs | hs | hs <;> rw [hs] <;> simp
      rw [hsettled.written]
      exact
        { execution := execution_continues hsettled.continued hsettled.claim.found rfl
          operationReceipts := fun _ _ hr => hr
          attempts := attempts_update hsettled.claim.row hsettled.claim.attemptApplying hb
          applicationReceipt := fun _ hr => hr }
  | finalize _ h =>
      obtain ⟨previous, found, applicationReceipt, hfinalized⟩ := finalizeApplication_spec h
      rw [hfinalized.written]
      exact
        { execution := execution_continues hfinalized.continued hfinalized.found rfl
          operationReceipts := fun _ _ hr => hr
          attempts := fun _ a ha => ⟨a, ha, .inl rfl⟩
          applicationReceipt := fun r hr => by
            rw [hfinalized.absent] at hr
            cases hr }

/-! ## One request among the transactions -/

/-- Where a read stands in the program. -/
def ReadPoint.position : ReadPoint → Nat × Nat
  | .bootstrap => (0, 0)
  | .execution => (1, 0)
  | .replayApplicationReceipt => (2, 0)
  | .replayOperationReceipt index => (3, index)
  | .applicationReceipt => (4, 0)
  | .operationReceipt index => (5, index)
  | .attempt index => (6, index)

/-- Program order; the reads of one kind go through the indices. -/
def ReadPoint.Before (p q : ReadPoint) : Prop :=
  (position p).1 < (position q).1 ∨ (position p).1 = (position q).1 ∧
    (position p).2 ≤ (position q).2

/-- A history of committed tables, and when the reads of one request happen. -/
structure ConcurrentRequest (operations : SealedOperations) (applicationId : String) where
  history : Nat → Tables
  committed : ∀ k, history (k + 1) = history k ∨
    ∃ readings, Orchestrated operations applicationId (history k) readings (history (k + 1))
  time : ReadPoint → Nat
  ordered : ∀ p q, ReadPoint.Before p q → time p ≤ time q

namespace ConcurrentRequest

variable (request : ConcurrentRequest operations applicationId)

def schedule : Schedule := fun p => request.history (request.time p)

theorem history_evolves {j k : Nat} (h : j ≤ k) :
    Evolves (request.history j) (request.history k) := by
  refine Nat.rel_of_forall_rel_succ_of_le Evolves (fun n => ?_) h
  rcases request.committed n with heq | ⟨readings, hstep⟩
  · rw [heq]
  · exact orchestrated_evolves hstep

/-- Every read after that of the execution row sees the same or later tables. -/
theorem evolves_after {p : ReadPoint} (h : 1 < (ReadPoint.position p).1) :
    Evolves (request.schedule .execution) (request.schedule p) :=
  request.history_evolves (request.ordered _ _ (.inl h))

end ConcurrentRequest

/-- No row that is read after the execution row has changed since that read. -/
structure Undisturbed (applicationId : String) (operations : List WriteOperation)
    (read : Schedule) : Prop where
  applicationReceipt : (read .applicationReceipt).applicationReceipt =
    (read .execution).applicationReceipt
  operationReceipt : ∀ i operation, operations[i]? = some operation →
    (read (.operationReceipt i)).operationReceipts.lookup
        (operationIdentity applicationId i operation) =
      (read .execution).operationReceipts.lookup (operationIdentity applicationId i operation)
  attempt : ∀ i operation, operations[i]? = some operation →
    (read (.attempt i)).attempts.lookup (operationIdentity applicationId i operation) =
      (read .execution).attempts.lookup (operationIdentity applicationId i operation)

/-! ## Accepted requests -/

/-- What a request that returns has read and computed. -/
structure Answered (workspace : String) (loadPreviewOperations : PreviewOperations)
    (applicationId : String) (read : Schedule) (bootstrap state : ApplicationExecutionState)
    (operations : List WriteOperation) (receipt : Option ApplicationReceipt)
    (operationReceipts : List OperationReceiptProjection) (attempts : List AttemptProjection)
    (closure : Option ApplicationReceiptProjection) : Prop where
  wellFormed : applicationIdText applicationId = true
  found : loadExecutionState workspace applicationId (read .bootstrap) = .ok bootstrap
  named : bootstrap.identity.applicationId = applicationId
  preview : loadPreviewOperations bootstrap.identity = .ok operations
  execution : getExecution workspace applicationId read (some operations) = .ok state
  same : state.applicationId = applicationId ∧ state.identity = bootstrap.identity
  valid : validateExecutionStateInvariants state operations = .ok ()
  closing : loadApplicationReceipt workspace applicationId read = .ok receipt
  projectedReceipts : projectOperationReceipts workspace applicationId state operations read =
    .ok operationReceipts
  projectedAttempts : projectAttempts workspace applicationId state operations read = .ok attempts
  projectedClosure : projectClosure receipt state = .ok closure

/-- The projection of what was read. -/
def statusOf (applicationId : String) (identity : LogicalApplicationIdentity)
    (state : ApplicationExecutionState) (operations : List WriteOperation)
    (operationReceipts : List OperationReceiptProjection) (attempts : List AttemptProjection)
    (closure : Option ApplicationReceiptProjection) : StatusProjection where
  applicationId := applicationId
  previewId := identity.values.previewId
  revision := identity.values.revision
  operationSetDigest := identity.values.operationSetDigest
  state := state.state
  nextOperationIndex := state.nextOperationIndex
  completedOperationCount := operationReceipts.length
  totalOperationCount := operations.length
  attemptCount := attempts.length
  recoveryCode := state.recoveryCode
  applicationReceipt := closure
  operationReceipts := operationReceipts
  attempts := attempts
  startedAt := state.startedAt
  updatedAt := state.updatedAt
  completedAt := state.completedAt

theorem getStatus_eq_ok {loadPreviewOperations : PreviewOperations} {read : Schedule}
    {status : StatusProjection} :
    getStatus workspace loadPreviewOperations applicationId read = .ok status ↔
      ∃ bootstrap state operations receipt operationReceipts attempts closure,
        Answered workspace loadPreviewOperations applicationId read bootstrap state operations
          receipt operationReceipts attempts closure ∧
        status = statusOf applicationId bootstrap.identity state operations operationReceipts
          attempts closure := by
  simp only [getStatus, bind_eq_ok, recode_eq_ok, raiseIf_eq_ok, pure_eq_ok, not_or, not_not,
    Bool.not_eq_false, ne_eq]
  constructor
  · rintro ⟨_, htext, bootstrap, hbootstrap, _, hnamed, operations, hoperations, state, hexecution,
      _, hsame, _, hvalid, receipt, hreceipt, operationReceipts, hreceipts, attempts, hattempts,
      closure, hclosure, rfl⟩
    exact ⟨bootstrap, state, operations, receipt, operationReceipts, attempts, closure,
      ⟨htext, hbootstrap, hnamed, hoperations, hexecution, hsame, hvalid, hreceipt, hreceipts,
        hattempts, hclosure⟩, rfl⟩
  · rintro ⟨bootstrap, state, operations, receipt, operationReceipts, attempts, closure, h, rfl⟩
    exact ⟨(), h.wellFormed, bootstrap, h.found, (), h.named, operations, h.preview, state,
      h.execution, (), h.same, (), h.valid, receipt, h.closing, operationReceipts,
      h.projectedReceipts, attempts, h.projectedAttempts, closure, h.projectedClosure, rfl⟩

theorem getExecution_eq_ok {read : Schedule} {operations : List WriteOperation}
    {state : ApplicationExecutionState} :
    getExecution workspace applicationId read (some operations) = .ok state ↔
      loadExecutionState workspace applicationId (read .execution) = .ok state ∧
        (state.state = .applied →
          validateReplay workspace applicationId read state operations = .ok ()) := by
  simp only [getExecution, bind_eq_ok]
  constructor
  · rintro ⟨s, hload, h⟩
    split_ifs at h with happlied
    · simp only [bind_eq_ok, orRaise_eq_ok, Option.some.injEq, pure_eq_ok] at h
      obtain ⟨_, rfl, _, hreplay, rfl⟩ := h
      exact ⟨hload, fun _ => hreplay⟩
    · obtain rfl := pure_eq_ok.mp h
      exact ⟨hload, fun hs => absurd hs happlied⟩
  · rintro ⟨hload, hreplay⟩
    refine ⟨state, hload, ?_⟩
    split_ifs with happlied
    · simp only [bind_eq_ok, orRaise_eq_ok, Option.some.injEq, pure_eq_ok]
      exact ⟨operations, rfl, (), hreplay happlied, trivial⟩
    · rfl

/-! ## What an accepted request says about the rows it read -/

variable {s : ApplicationExecutionState} {operations' : List WriteOperation} {read : Schedule}
  {index : Nat} {operation : WriteOperation}

theorem attempt_of_projected {attempts : List AttemptProjection}
    (h : projectAttempts workspace applicationId s operations' read = .ok attempts)
    (hop : operations'[index]? = some operation) :
    ∃ x, projectAttempt workspace applicationId s read (operation, index) = .ok x := by
  simp only [projectAttempts, bind_eq_ok] at h
  obtain ⟨_, -, _, -, _, -, xs, hxs, -⟩ := h
  exact exists_of_mem_of_mapM hxs (List.mem_zipIdx_iff_getElem?.mpr hop)

theorem receipt_of_projected {receipts : List OperationReceiptProjection}
    (h : projectOperationReceipts workspace applicationId s operations' read = .ok receipts)
    (hop : operations'[index]? = some operation) :
    if index < s.nextOperationIndex then
      ∃ r, (read (.operationReceipt index)).operationReceipts.lookup
        (operationIdentity applicationId index operation) = some r
    else (read (.operationReceipt index)).operationReceipts.lookup
        (operationIdentity applicationId index operation) = none := by
  simp only [projectOperationReceipts, bind_eq_ok] at h
  obtain ⟨xs, hxs, ⟨⟩, hnone, -⟩ := h
  split_ifs with hlt
  · obtain ⟨p, hp⟩ := exists_of_mem_of_mapM hxs (List.mem_range.mpr hlt)
    obtain ⟨operation', r, hop', hget, -, -⟩ := projectOperationReceipt_eq_ok.mp hp
    obtain rfl : operation' = operation := Option.some.inj (hop'.symm.trans hop)
    exact ⟨r, (getOperationReceipt_eq_ok.mp hget).1⟩
  · have hbound := (List.getElem?_eq_some_iff.mp hop).1
    have hmem : index ∈
        List.range' s.nextOperationIndex (operations'.length - s.nextOperationIndex) := by
      rw [List.mem_range'_1]
      omega
    obtain ⟨operation', hop', hlookup⟩ :=
      requireNoReceipt_eq_ok.mp (forM_eq_ok.mp hnone index hmem)
    obtain rfl : operation' = operation := Option.some.inj (hop'.symm.trans hop)
    exact hlookup

/-- The shape of an applied state leaves no operation open. -/
theorem next_of_applied (h : validateExecutionStateInvariants s operations' = .ok ())
    (happlied : s.state = .applied) : s.nextOperationIndex = operations'.length := by
  simp only [validateExecutionStateInvariants, bind_eq_ok, raiseIf_eq_ok] at h
  obtain ⟨_, -, _, -, _, -, hshape⟩ := h
  simp only [stateShape, happlied, Bool.not_eq_false, Bool.and_eq_true, decide_eq_true_eq] at hshape
  exact hshape.1.1.1.1

/-- Attempts that fit the same state at one index are in the same state. -/
theorem attempt_undisturbed {t : Tables}
    (hevolves : Evolves t (read (.attempt index)))
    (hvalid : validateExecutionStateInvariants s operations' = .ok ())
    (hop : operations'[index]? = some operation) {x y : Option AttemptProjection}
    (hx : projectAttempt workspace applicationId s (fun _ => t) (operation, index) = .ok x)
    (hy : projectAttempt workspace applicationId s read (operation, index) = .ok y) :
    (read (.attempt index)).attempts.lookup (operationIdentity applicationId index operation) =
      t.attempts.lookup (operationIdentity applicationId index operation) := by
  rcases projectAttempt_eq_ok.mp hx with ⟨hnone, hnotDue, -⟩ | ⟨a, hget, hfits, -⟩
  · rcases projectAttempt_eq_ok.mp hy with ⟨hnone', -, -⟩ | ⟨b, -, hfits', -⟩
    · exact hnone'.trans hnone.symm
    · -- an attempt that appeared after the state was read never fits that state
      exfalso
      have hbound := (List.getElem?_eq_some_iff.mp hop).1
      have hle : index ≤ s.nextOperationIndex := hfits'.bound
      have hge : ¬index < s.nextOperationIndex := fun hlt => hnotDue (.inl hlt)
      have hnext : index = s.nextOperationIndex := by omega
      have hstate := hfits'.state
      rw [if_neg hge] at hstate
      have hpartly := b.valid.state
      rw [hstate] at hpartly
      cases hs : s.state with
      | pending => exact hfits'.begun hs
      | partiallyApplied => exact hpartly hs
      | applied =>
          have hall := next_of_applied hvalid hs
          omega
      | applying | failed | blocked | outcomeUnknown =>
          exact hnotDue (.inr ⟨hnext, by rw [hs]; decide⟩)
  · have hrow := (getAttempt_eq_ok.mp hget).1
    obtain ⟨b, hrow', hsame⟩ := hevolves.attempts _ a hrow
    rcases hsame with rfl | ⟨happlying, hnot⟩
    · exact hrow'.trans hrow.symm
    · exfalso
      rcases projectAttempt_eq_ok.mp hy with ⟨hnone', -, -⟩ | ⟨c, hget', hfits', -⟩
      · rw [hrow'] at hnone'
        cases hnone'
      · have hc := (getAttempt_eq_ok.mp hget').1
        obtain rfl : b = c := Option.some.inj (hrow'.symm.trans hc)
        exact hnot (hfits'.state.trans (hfits.state.symm.trans happlying))

theorem receipt_undisturbed {t : Tables}
    (hevolves : Evolves t (read (.operationReceipt index)))
    {receipts receipts' : List OperationReceiptProjection}
    (hop : operations'[index]? = some operation)
    (h : projectOperationReceipts workspace applicationId s operations' (fun _ => t) =
      .ok receipts)
    (h' : projectOperationReceipts workspace applicationId s operations' read = .ok receipts') :
    (read (.operationReceipt index)).operationReceipts.lookup
        (operationIdentity applicationId index operation) =
      t.operationReceipts.lookup (operationIdentity applicationId index operation) := by
  have hrow := receipt_of_projected h hop
  have hrow' := receipt_of_projected h' hop
  split_ifs at hrow hrow' with hlt
  · obtain ⟨r, hr⟩ := hrow
    exact (hevolves.operationReceipts _ r hr).trans hr.symm
  · exact hrow'.trans hrow.symm

theorem projectClosure_eq_ok {receipt : Option ApplicationReceipt}
    {closure : Option ApplicationReceiptProjection}
    (h : projectClosure receipt s = .ok closure) : receipt.isSome ↔ s.state = .applied := by
  unfold projectClosure at h
  split_ifs at h with happlied
  · simp only [bind_eq_ok, orRaise_eq_ok] at h
    obtain ⟨r, rfl, -⟩ := h
    simp [happlied]
  · simp only [bind_eq_ok, raiseIf_eq_ok] at h
    obtain ⟨_, hnone, -⟩ := h
    simpa [happlied] using hnone

theorem closing_undisturbed {t : Tables} (hevolves : Evolves t (read .applicationReceipt))
    {receipt receipt' : Option ApplicationReceipt}
    {closure closure' : Option ApplicationReceiptProjection}
    (h : loadApplicationReceipt workspace applicationId (fun _ => t) = .ok receipt)
    (hclosure : projectClosure receipt s = .ok closure)
    (h' : loadApplicationReceipt workspace applicationId read = .ok receipt')
    (hclosure' : projectClosure receipt' s = .ok closure') :
    (read .applicationReceipt).applicationReceipt = t.applicationReceipt := by
  rcases loadApplicationReceipt_eq_ok.mp h with ⟨hnone, rfl⟩ | ⟨r, hget, rfl⟩
  · rcases loadApplicationReceipt_eq_ok.mp h' with ⟨hnone', -⟩ | ⟨r', -, rfl⟩
    · exact hnone'.trans hnone.symm
    · have hopen := projectClosure_eq_ok hclosure
      rw [← projectClosure_eq_ok hclosure'] at hopen
      simp at hopen
  · have hr := (getApplicationReceipt_eq_ok.mp hget).1
    exact (hevolves.applicationReceipt r hr).trans hr.symm

/-! ## Undisturbed reads give the same answer -/

theorem getOperationReceipt_congr {t t' : Tables} {id : String}
    (h : t'.operationReceipts.lookup id = t.operationReceipts.lookup id) :
    getOperationReceipt workspace applicationId id t' =
      getOperationReceipt workspace applicationId id t := by
  simp only [getOperationReceipt, h]

theorem getAttempt_congr {t t' : Tables} {id : String}
    (h : t'.attempts.lookup id = t.attempts.lookup id) :
    getAttempt workspace applicationId id t' = getAttempt workspace applicationId id t := by
  simp only [getAttempt, h]

theorem projectOperationReceipts_undisturbed {t : Tables}
    {receipts : List OperationReceiptProjection}
    (hrows : ∀ i operation, operations'[i]? = some operation →
      (read (.operationReceipt i)).operationReceipts.lookup
          (operationIdentity applicationId i operation) =
        t.operationReceipts.lookup (operationIdentity applicationId i operation))
    (h : projectOperationReceipts workspace applicationId s operations' (fun _ => t) =
      .ok receipts) :
    projectOperationReceipts workspace applicationId s operations' read = .ok receipts := by
  simp only [projectOperationReceipts, bind_eq_ok, pure_eq_ok] at h ⊢
  obtain ⟨found, hreceipts, ⟨⟩, hnone, hsame⟩ := h
  refine ⟨found, ?_, (), ?_, hsame⟩
  · rw [mapM_eq_ok] at hreceipts ⊢
    refine hreceipts.imp fun i p hp => ?_
    obtain ⟨operation, r, hop, hget, hfits⟩ := projectOperationReceipt_eq_ok.mp hp
    rw [← getOperationReceipt_congr (hrows i operation hop)] at hget
    exact projectOperationReceipt_eq_ok.mpr ⟨operation, r, hop, hget, hfits⟩
  · rw [forM_eq_ok] at hnone ⊢
    intro i hi
    obtain ⟨operation, hop, hlookup⟩ := requireNoReceipt_eq_ok.mp (hnone i hi)
    exact requireNoReceipt_eq_ok.mpr ⟨operation, hop, (hrows i operation hop).trans hlookup⟩

theorem projectAttempts_undisturbed {t : Tables}
    (hrows : ∀ i operation, operations'[i]? = some operation →
      (read (.attempt i)).attempts.lookup (operationIdentity applicationId i operation) =
        t.attempts.lookup (operationIdentity applicationId i operation)) :
    projectAttempts workspace applicationId s operations' read =
      projectAttempts workspace applicationId s operations' (fun _ => t) := by
  have hmap : operations'.zipIdx.mapM (projectAttempt workspace applicationId s read) =
      operations'.zipIdx.mapM (projectAttempt workspace applicationId s fun _ => t) := by
    apply mapM_congr_mem
    rintro ⟨operation, i⟩ hentry
    have hop := List.mem_zipIdx_iff_getElem?.mp hentry
    simp only [projectAttempt, getAttempt_congr (hrows i operation hop)]
  simp only [projectAttempts, hmap]

theorem loadApplicationReceipt_undisturbed {t : Tables}
    (h : (read .applicationReceipt).applicationReceipt = t.applicationReceipt) :
    loadApplicationReceipt workspace applicationId read =
      loadApplicationReceipt workspace applicationId (fun _ => t) := by
  simp only [loadApplicationReceipt, getApplicationReceipt, h]

/-- The receipts of an applied application can be replayed at any later time. -/
theorem validateReplay_evolves {t : Tables}
    (hclosing : Evolves t (read .replayApplicationReceipt))
    (hreceipts : ∀ i, Evolves t (read (.replayOperationReceipt i)))
    (h : validateReplay workspace applicationId (fun _ => t) s operations' = .ok ()) :
    validateReplay workspace applicationId read s operations' = .ok () := by
  simp only [validateReplay, bind_eq_ok] at h ⊢
  obtain ⟨receipt, hget, _, hbinding, _, hrefs, _, hlength, found, hfound, hrest⟩ := h
  obtain ⟨hrow, hfacts⟩ := getApplicationReceipt_eq_ok.mp hget
  refine ⟨receipt, getApplicationReceipt_eq_ok.mpr
    ⟨hclosing.applicationReceipt receipt hrow, hfacts⟩, (), hbinding, (), hrefs, (), hlength,
    found, ?_, hrest⟩
  rw [mapM_eq_ok] at hfound ⊢
  refine hfound.imp fun entry r hr => ?_
  simp only [replayReceipt, bind_eq_ok, recode_eq_ok, raiseIf_eq_ok, pure_eq_ok] at hr ⊢
  obtain ⟨_, hgetReceipt, _, hdigest, rfl⟩ := hr
  obtain ⟨hrowReceipt, hreceiptFacts⟩ := getOperationReceipt_eq_ok.mp hgetReceipt
  exact ⟨_, getOperationReceipt_eq_ok.mpr
    ⟨(hreceipts entry.2).operationReceipts _ _ hrowReceipt, hreceiptFacts⟩, (), hdigest, rfl⟩

/-! ## Consistency -/

/-- The reads every request makes, for a number of operations. -/
def readPoints (total : Nat) : List ReadPoint :=
  [.bootstrap, .execution, .applicationReceipt] ++ (List.range total).map .operationReceipt ++
    (List.range total).map .attempt

/-- The request returns the projection of one committed state, and that state
was current between its first and its last read. -/
def ReadsOneState (workspace : String) (loadPreviewOperations : PreviewOperations) (total : Nat)
    (request : ConcurrentRequest operations applicationId) : Prop :=
  ∃ status k, getStatus workspace loadPreviewOperations applicationId request.schedule =
      .ok status ∧
    request.time .bootstrap ≤ k ∧ (∃ p ∈ readPoints total, k ≤ request.time p) ∧
    getStatus workspace loadPreviewOperations applicationId (fun _ => request.history k) =
      .ok status

variable {loadPreviewOperations : PreviewOperations} {approved : List WriteOperation}

/-- The state at the read of the execution row, projected by itself. -/
theorem current_answered (request : ConcurrentRequest operations applicationId)
    (hfound : (request.schedule .bootstrap).execution = some s)
    (hpreview : loadPreviewOperations s.identity = .ok approved)
    (hvalid : ∀ k, request.time .bootstrap ≤ k → ∃ status,
      getStatus workspace loadPreviewOperations applicationId (fun _ => request.history k) =
        .ok status) :
    ∃ current receipt receipts attempts closure,
      Answered workspace loadPreviewOperations applicationId
        (fun _ => request.schedule .execution) current current approved receipt receipts attempts
        closure ∧ current.identity = s.identity := by
  have hstart : request.time .bootstrap ≤ request.time .execution :=
    request.ordered _ _ (.inl (by decide))
  obtain ⟨status, h⟩ := hvalid _ hstart
  obtain ⟨current, state, operations₀, receipt, receipts, attempts, closure, hA, -⟩ :=
    getStatus_eq_ok.mp h
  -- by itself, the bootstrap row is the execution row
  have hcurrent := loadExecutionState_eq_ok.mp hA.found
  have hstate := loadExecutionState_eq_ok.mp (getExecution_eq_ok.mp hA.execution).1
  obtain rfl : current = state := Option.some.inj (hcurrent.1.symm.trans hstate.1)
  have hidentity : current.identity = s.identity := by
    obtain ⟨s', hs', hsame⟩ := (request.history_evolves hstart).execution s hfound
    obtain rfl : s' = current := Option.some.inj (hs'.symm.trans hcurrent.1)
    exact hsame
  obtain rfl : operations₀ = approved := by
    have hpreview₀ := hA.preview
    rw [hidentity, hpreview] at hpreview₀
    exact (Except.ok.inj hpreview₀).symm
  exact ⟨current, receipt, receipts, attempts, closure, hA, hidentity⟩

/-- A request that returns anything at all was undisturbed. -/
theorem undisturbed_of_getStatus (request : ConcurrentRequest operations applicationId)
    (hfound : (request.schedule .bootstrap).execution = some s)
    (hpreview : loadPreviewOperations s.identity = .ok approved)
    (hvalid : ∀ k, request.time .bootstrap ≤ k → ∃ status,
      getStatus workspace loadPreviewOperations applicationId (fun _ => request.history k) =
        .ok status)
    {status : StatusProjection}
    (h : getStatus workspace loadPreviewOperations applicationId request.schedule = .ok status) :
    Undisturbed applicationId approved request.schedule := by
  obtain ⟨current, receipt₀, receipts₀, attempts₀, closure₀, hA₀, hidentity⟩ :=
    current_answered request hfound hpreview hvalid
  obtain ⟨bootstrap, state, operations₁, receipt, receipts, attempts, closure, hA, -⟩ :=
    getStatus_eq_ok.mp h
  have hcurrent := loadExecutionState_eq_ok.mp hA₀.found
  have hload := loadExecutionState_eq_ok.mp (getExecution_eq_ok.mp hA.execution).1
  obtain rfl : state = current := Option.some.inj (hload.1.symm.trans hcurrent.1)
  obtain rfl : operations₁ = approved := by
    have hpreview₁ := hA.preview
    rw [← hA.same.2, hidentity, hpreview] at hpreview₁
    exact (Except.ok.inj hpreview₁).symm
  refine ⟨?_, ?_, ?_⟩
  · exact closing_undisturbed (request.evolves_after (by decide)) hA₀.closing
      hA₀.projectedClosure hA.closing hA.projectedClosure
  · intro i operation hop
    have hlater : Evolves (request.schedule .execution) (request.schedule (.operationReceipt i)) :=
      request.evolves_after (by simp [ReadPoint.position])
    exact receipt_undisturbed hlater hop hA₀.projectedReceipts hA.projectedReceipts
  · intro i operation hop
    obtain ⟨x, hx⟩ := attempt_of_projected hA₀.projectedAttempts hop
    obtain ⟨y, hy⟩ := attempt_of_projected hA.projectedAttempts hop
    have hlater : Evolves (request.schedule .execution) (request.schedule (.attempt i)) :=
      request.evolves_after (by simp [ReadPoint.position])
    exact attempt_undisturbed hlater hA₀.valid hop hx hy

/-- An undisturbed request returns the projection of the state at the read of
the execution row. -/
theorem readsOneState_of_undisturbed (request : ConcurrentRequest operations applicationId)
    (hfound : (request.schedule .bootstrap).execution = some s)
    (hpreview : loadPreviewOperations s.identity = .ok approved)
    (hvalid : ∀ k, request.time .bootstrap ≤ k → ∃ status,
      getStatus workspace loadPreviewOperations applicationId (fun _ => request.history k) =
        .ok status)
    (hundisturbed : Undisturbed applicationId approved request.schedule) :
    ReadsOneState workspace loadPreviewOperations approved.length request := by
  obtain ⟨current, receipt, receipts, attempts, closure, hA, hidentity⟩ :=
    current_answered request hfound hpreview hvalid
  have hstart : request.time .bootstrap ≤ request.time .execution :=
    request.ordered _ _ (.inl (by decide))
  obtain ⟨status, h⟩ := hvalid _ (le_refl _)
  obtain ⟨first, _, _, _, _, _, _, hfirst, -⟩ := getStatus_eq_ok.mp h
  obtain rfl : first = s :=
    Option.some.inj ((loadExecutionState_eq_ok.mp hfirst.found).1.symm.trans hfound)
  have hexecution := getExecution_eq_ok.mp hA.execution
  have hanswered : Answered workspace loadPreviewOperations applicationId request.schedule first
      current approved receipt receipts attempts closure :=
    { wellFormed := hA.wellFormed
      found := hfirst.found
      named := hfirst.named
      preview := hpreview
      execution := getExecution_eq_ok.mpr ⟨hexecution.1, fun happlied =>
        validateReplay_evolves (request.evolves_after (by decide))
          (fun i => request.evolves_after (by simp [ReadPoint.position]))
          (hexecution.2 happlied)⟩
      same := ⟨hA.same.1, hidentity⟩
      valid := hA.valid
      closing := (loadApplicationReceipt_undisturbed hundisturbed.applicationReceipt).trans
        hA.closing
      projectedReceipts := projectOperationReceipts_undisturbed hundisturbed.operationReceipt
        hA.projectedReceipts
      projectedAttempts := (projectAttempts_undisturbed hundisturbed.attempt).trans
        hA.projectedAttempts
      projectedClosure := hA.projectedClosure }
  refine ⟨statusOf applicationId first.identity current approved receipts attempts closure,
    request.time .execution, ?_, hstart, ⟨.execution, by simp [readPoints], le_refl _⟩, ?_⟩
  · exact getStatus_eq_ok.mpr ⟨first, current, approved, receipt, receipts, attempts, closure,
      hanswered, rfl⟩
  · rw [← hidentity]
    exact getStatus_eq_ok.mpr ⟨current, current, approved, receipt, receipts, attempts, closure,
      hA, rfl⟩

/-- A request reads one state if and only if it is undisturbed, when every
committed state by itself can be projected. -/
theorem readsOneState_iff_undisturbed (request : ConcurrentRequest operations applicationId)
    (hfound : (request.schedule .bootstrap).execution = some s)
    (hpreview : loadPreviewOperations s.identity = .ok approved)
    (hvalid : ∀ k, request.time .bootstrap ≤ k → ∃ status,
      getStatus workspace loadPreviewOperations applicationId (fun _ => request.history k) =
        .ok status) :
    ReadsOneState workspace loadPreviewOperations approved.length request ↔
      Undisturbed applicationId approved request.schedule := by
  constructor
  · rintro ⟨status, k, h, -⟩
    exact undisturbed_of_getStatus request hfound hpreview hvalid h
  · exact readsOneState_of_undisturbed request hfound hpreview hvalid

/-! ## A claim between two reads -/

/-- Whether a claim has committed when the attempts are read. -/
def sampleTime (claimed : Nat) : ReadPoint → Nat
  | .attempt _ => claimed
  | _ => 0

def sampleHistory (created claimed : Tables) : Nat → Tables
  | 0 => created
  | _ + 1 => claimed

/-- The request whose attempt reads come after the claim, if `claimed` is 1. -/
def sampleRequest {created claimed : Tables} {readings : Readings}
    (h : Orchestrated operations applicationId created readings claimed) (late : Nat) :
    ConcurrentRequest operations applicationId where
  history := sampleHistory created claimed
  committed := by
    intro k
    cases k with
    | zero => exact .inr ⟨readings, h⟩
    | succ k => exact .inl rfl
  time := sampleTime late
  ordered := by
    intro p q hpq
    cases p <;> cases q <;> simp_all [ReadPoint.Before, ReadPoint.position, sampleTime]

def samplePreview : PreviewOperations := fun identity => .ok (sampleOperations identity)

/-- The two committed states of the sample, each of which can be projected. -/
theorem sample_valid (htext : applicationIdText sampleApplication = true) :
    ∃ s a claimed, SampleCreated 0 s ∧
      getAttempt "workspace-1" sampleApplication
        (operationIdentity sampleApplication 0 (createOperation "A")) claimed = .ok a ∧
      Orchestrated sampleOperations sampleApplication { Tables.empty with execution := some s }
        (.claim 10) claimed ∧
      ∀ k, ∃ status, getStatus "workspace-1" samplePreview sampleApplication
        (fun _ => sampleHistory { Tables.empty with execution := some s } claimed k) =
          .ok status := by
  obtain ⟨s, hs, hcreate⟩ := sample_created 0
  obtain ⟨s', a, claimed, hclaimed, hclaim⟩ := sample_claimed hs (by decide : (0 : Instant) ≤ 10)
  obtain ⟨hidentity, happ, hid⟩ := sample_attempt hs hclaimed
  have hheld := claimed_heldClaim hclaimed
  have hget : getAttempt "workspace-1" sampleApplication
      (operationIdentity sampleApplication 0 (createOperation "A")) claimed = .ok a :=
    getAttempt_eq_ok.mpr ⟨hid ▸ hheld.row, happ, hid, by rw [hidentity]; rfl, hclaimed.made.intact⟩
  refine ⟨s, a, claimed, hs, hget, hclaim, ?_⟩
  have hstart : Timely (emptyDatabase sampleApplication) (.create 0 0) := fun _ => le_refl _
  obtain ⟨db, hdb, hcreated⟩ := orchestrated_timelyReachable .refl hstart hcreate
  have hnext : Timely (db sampleApplication) (.claim 10) := trivial
  have hclaim' := hclaim
  rw [← hcreated] at hclaim'
  obtain ⟨db', hdb', hclaimedTables⟩ := orchestrated_timelyReachable hdb hnext hclaim'
  intro k
  cases k with
  | zero =>
      have hfound : (db sampleApplication).execution = some s := by rw [hcreated]
      have hidle : s.state ≠ .applied := by
        rw [hs.progress]
        simp [ExecutionContext.initialProgress]
      have hworkspace : s.identity.values.workspaceIdentity = "workspace-1" := by
        rw [hs.identity]
        rfl
      have hpreview : samplePreview s.identity = .ok (sampleOperations s.identity) := rfl
      obtain ⟨status, hstatus⟩ := timelyReachable_getStatus hdb hfound hworkspace
        (hs.identity ▸ sample_distinct) htext hidle hpreview
      rw [hcreated] at hstatus
      exact ⟨status, hstatus⟩
  | succ k =>
      have hfound : (db' sampleApplication).execution = some s' := by
        rw [hclaimedTables]
        exact hheld.found
      have hopen : s'.state ≠ .applied := by
        rw [hheld.applying]
        simp
      have hsame : s'.identity = sampleIdentity :=
        hclaimed.continued.identity.trans hs.identity
      have hworkspace : s'.identity.values.workspaceIdentity = "workspace-1" := by
        rw [hsame]
        rfl
      have hpreview : samplePreview s'.identity = .ok (sampleOperations s'.identity) := rfl
      obtain ⟨status, hstatus⟩ := timelyReachable_getStatus hdb' hfound hworkspace
        (hsame ▸ sample_distinct) htext hopen hpreview
      rw [hclaimedTables] at hstatus
      exact ⟨status, hstatus⟩

/-- A claim that commits between the last two reads of a request. -/
theorem sample_disturbed (htext : applicationIdText sampleApplication = true) :
    ∃ (s : ApplicationExecutionState)
      (request : ConcurrentRequest sampleOperations sampleApplication),
      (request.schedule .bootstrap).execution = some s ∧
        samplePreview s.identity = .ok (sampleOperations s.identity) ∧
        (∀ k, ∃ status, getStatus "workspace-1" samplePreview sampleApplication
          (fun _ => request.history k) = .ok status) ∧
        ∃ code ∈ attemptIntegrityCodes, getStatus "workspace-1" samplePreview sampleApplication
          request.schedule = .error (.valueError code) := by
  obtain ⟨s, a, claimed, hs, hget, hclaim, hvalid⟩ := sample_valid htext
  refine ⟨s, sampleRequest hclaim 1, rfl, rfl, hvalid, ?_⟩
  obtain ⟨status, hstatus⟩ := hvalid 0
  obtain ⟨current, state, approved, receipt, receipts, attempts, closure, hA, -⟩ :=
    getStatus_eq_ok.mp hstatus
  have hfound := (loadExecutionState_eq_ok.mp hA.found).1
  obtain rfl : s = current := Option.some.inj hfound
  have hload := (getExecution_eq_ok.mp hA.execution).1
  obtain rfl : s = state := Option.some.inj (loadExecutionState_eq_ok.mp hload).1
  obtain rfl : [createOperation "A"] = approved := Except.ok.inj hA.preview
  have hpending : s.state = .pending := by
    rw [hs.progress]
    rfl
  have hnext : s.nextOperationIndex = 0 := by
    rw [hs.progress]
    rfl
  have hunclaimed : s.currentAttemptId = none ∧ s.operationReceiptRefs = [] := by
    rw [hs.progress]
    exact ⟨rfl, rfl⟩
  have hunfit : ¬AttemptFits sampleApplication s (createOperation "A") 0 a := fun hfits =>
    hfits.begun hpending
  obtain ⟨code, hcode, hraise⟩ := checkAttempt_raises hunfit
  refine ⟨code, hcode, ?_⟩
  -- every read but the last sees the pending application
  have hexecution : getExecution "workspace-1" sampleApplication (sampleRequest hclaim 1).schedule
      (some [createOperation "A"]) = .ok s :=
    getExecution_eq_ok.mpr ⟨hload, fun happlied => by simp [hpending] at happlied⟩
  have hclosing : loadApplicationReceipt "workspace-1" sampleApplication
      (sampleRequest hclaim 1).schedule = .ok receipt := hA.closing
  have hreceipts : projectOperationReceipts "workspace-1" sampleApplication s
      [createOperation "A"] (sampleRequest hclaim 1).schedule = .ok receipts :=
    hA.projectedReceipts
  have hattempts : projectAttempts "workspace-1" sampleApplication s [createOperation "A"]
      (sampleRequest hclaim 1).schedule = .error (.valueError code) := by
    have hget' : getAttempt "workspace-1" sampleApplication
        (operationIdentity sampleApplication 0 (createOperation "A"))
        ((sampleRequest hclaim 1).schedule (.attempt 0)) = .ok a := hget
    have hidle : ¬s.state.Attempting := by
      rw [hpending]
      decide
    simp [projectAttempts, raiseIf, hnext, hunclaimed, hidle, bind, Except.bind, projectAttempt,
      hget', recode, hraise, Functor.map, Except.map]
  have hbootstrap : loadExecutionState "workspace-1" sampleApplication
      ((sampleRequest hclaim 1).schedule .bootstrap) = .ok s := hload
  simp [getStatus, raiseIf, hA.wellFormed, hbootstrap, hA.named, hA.preview, hexecution,
    hA.same.1, hA.valid, hclosing, hreceipts, hattempts, recode, bind, Except.bind]

/-- The same request with every read before the claim. -/
theorem sample_undisturbed (htext : applicationIdText sampleApplication = true) :
    ∃ (s : ApplicationExecutionState)
      (request : ConcurrentRequest sampleOperations sampleApplication),
      (request.schedule .bootstrap).execution = some s ∧
        (∀ k, ∃ status, getStatus "workspace-1" samplePreview sampleApplication
          (fun _ => request.history k) = .ok status) ∧
        Undisturbed sampleApplication [createOperation "A"] request.schedule := by
  obtain ⟨s, a, claimed, hs, hget, hclaim, hvalid⟩ := sample_valid htext
  exact ⟨s, sampleRequest hclaim 0, rfl, hvalid, rfl, fun _ _ _ => rfl, fun _ _ _ => rfl⟩

end

/-- Under the reference library the application identifiers are well formed. -/
theorem reference_applicationIdText (identity : LogicalApplicationIdentity) :
    applicationIdText
      (@LogicalApplicationIdentity.applicationId ReferenceLibrary.referenceLibrary identity) =
        true := by
  let library := ReferenceLibrary.referenceLibrary
  have hhex := ReferenceLibrary.sha256Hex_hexadecimal
    (ReferenceLibrary.canonicalJson identity.toDict).toUTF8.toList
  have hlength : (PythonLibrary.hexdigest identity.toDict).toList.length = 64 := hhex.1
  have hdigits : ∀ c ∈ (PythonLibrary.hexdigest identity.toDict).toList,
      c.isDigit || ('a' ≤ c && c ≤ 'f') := hhex.2
  have hprefix : "application-".toList.length = 12 := by decide
  simp only [applicationIdText, LogicalApplicationIdentity.applicationId, String.toList_append,
    Bool.and_eq_true, decide_eq_true_eq, List.all_eq_true]
  refine ⟨⟨List.isPrefixOf_iff_prefix.mpr (List.prefix_append _ _), ?_⟩, ?_⟩
  · rw [List.length_append, hprefix, hlength]
  · rw [← hprefix, List.drop_left]
    exact hdigits

/-- All reads before the claim but those of the attempts: the request reports
corruption, although both committed states can be projected. -/
theorem request_during_claim_rejected :
    ∃ (_ : PythonLibrary) (s : ApplicationExecutionState)
      (request : ConcurrentRequest sampleOperations sampleApplication),
      (request.schedule .bootstrap).execution = some s ∧
        samplePreview s.identity = .ok (sampleOperations s.identity) ∧
        (∀ k, ∃ status, getStatus "workspace-1" samplePreview sampleApplication
          (fun _ => request.history k) = .ok status) ∧
        ∃ code ∈ attemptIntegrityCodes, getStatus "workspace-1" samplePreview sampleApplication
          request.schedule = .error (.valueError code) := by
  let library := ReferenceLibrary.referenceLibrary
  exact ⟨library, sample_disturbed (reference_applicationIdText sampleIdentity)⟩

/-- The undisturbed request reads one state. -/
theorem readsOneState_iff_undisturbed_sample :
    ∃ (_ : PythonLibrary) (request : ConcurrentRequest sampleOperations sampleApplication),
      ReadsOneState "workspace-1" samplePreview 1 request := by
  let library := ReferenceLibrary.referenceLibrary
  obtain ⟨s, request, hfound, hvalid, hundisturbed⟩ :=
    sample_undisturbed (reference_applicationIdText sampleIdentity)
  have hpreview : samplePreview s.identity = .ok [createOperation "A"] := rfl
  exact ⟨library, request, (readsOneState_iff_undisturbed request hfound hpreview
    fun k _ => hvalid k).mpr hundisturbed⟩

end DeliverySystem.StatusConcurrency

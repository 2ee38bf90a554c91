import DeliverySystem.ExecutionTransactions
import DeliverySystem.ReferenceLibrary
import Mathlib.Logic.Relation

/-!
# The durable execution invariant

A database holds the execution tables of every application, by application
identifier. A step is one committed transaction with any arguments, under any
context whose operations are those of its sealed Preview revision; revisions
are immutable, so the operations depend on the application identity only.

The four tables always describe one progress: the receipts of a prefix of the
operations, the closed attempts of that prefix, and at most one further
attempt. `Progress` names these lists, and every transaction extends them.
-/
namespace DeliverySystem.ExecutionInvariant
open PythonValues WriteOperations ApplicationIdentity ExecutionRecords ExecutionContexts
open KeyedRows ExecutionStore ExecutionTransactions
set_option autoImplicit false

section
variable [PythonLibrary]

/-! ## Runs over a database -/

abbrev Database := String → Tables

/-- The operations of the sealed revision an application identity names. -/
abbrev SealedOperations := LogicalApplicationIdentity → List WriteOperation

def ExecutionContext.Sealed (operations : SealedOperations) (context : ExecutionContext) : Prop :=
  context.expectedOperations = operations context.identity

/-- The clock readings, and the failure code, that a transaction is called with. -/
inductive Readings where
  | create (startedAt updatedAt : Instant)
  | claim (now : Instant)
  | complete (startedAt completedAt now : Instant)
  | settle (code : String) (now : Instant)
  | finalize (now : Instant)
deriving Repr, DecidableEq

/-- One committed transaction of an application. -/
inductive Orchestrated (operations : SealedOperations) (applicationId : String)
    (tables : Tables) : Readings → Tables → Prop
  | create {capability current : Bool} {context : ExecutionContext} {values : ExecutionProgress}
      {startedAt : Instant} {policy : Option String} {state result : ApplicationExecutionState}
      {tables' : Tables}
      (minted : context.newExecutionState true values startedAt policy = .ok state)
      (named : state.applicationId = applicationId)
      (h : createExecutionIfAbsent capability current tables state = .ok (tables', result)) :
      Orchestrated operations applicationId tables (.create startedAt values.updatedAt) tables'
  | claim {capability : Bool} {current : Nat → Bool} {expectedDigest ownerId : String}
      {context : ExecutionContext} {now : Instant} {state : ApplicationExecutionState}
      {attempt : OperationAttemptState} {tables' : Tables}
      (sealed : ExecutionContext.Sealed operations context)
      (h : claimNextOperation capability current tables applicationId expectedDigest context
        ownerId now = .ok (tables', state, attempt)) :
      Orchestrated operations applicationId tables (.claim now) tables'
  | complete {capability : Bool} {current : Nat → Bool}
      {stateDigest attemptId attemptDigest ownerId : String} {context : ExecutionContext}
      {receipt : LiveReceipt context} {now : Instant} {state : ApplicationExecutionState}
      {tables' : Tables} (sealed : ExecutionContext.Sealed operations context)
      (h : completeOperationSuccess capability current tables applicationId stateDigest attemptId
        attemptDigest ownerId context receipt now = .ok (tables', state)) :
      Orchestrated operations applicationId tables
        (.complete receipt.val.startedAt receipt.val.completedAt now) tables'
  | settle {capability : Bool} {current : Nat → Bool}
      {stateDigest attemptId attemptDigest ownerId : String} {context : ExecutionContext}
      {stateName : StateName} {code : String} {now : Instant}
      {state : ApplicationExecutionState} {tables' : Tables}
      (sealed : ExecutionContext.Sealed operations context)
      (h : settleOperation capability current tables stateDigest attemptId attemptDigest ownerId
        context stateName code now = .ok (tables', state)) :
      Orchestrated operations applicationId tables (.settle code now) tables'
  | finalize {capability : Bool} {current : Nat → Bool} {stateDigest : String}
      {context : ExecutionContext} {now : Instant} {state : ApplicationExecutionState}
      {tables' : Tables} (sealed : ExecutionContext.Sealed operations context)
      (h : finalizeApplication capability current tables applicationId stateDigest context now =
        .ok (tables', state)) :
      Orchestrated operations applicationId tables (.finalize now) tables'

/-- A database step commits one transaction on the rows of one application. -/
inductive Step (operations : SealedOperations) (db : Database) : Database → Prop
  | commit {applicationId : String} {readings : Readings} {tables' : Tables}
      (h : Orchestrated operations applicationId (db applicationId) readings tables') :
      Step operations db (Function.update db applicationId tables')

def emptyDatabase : Database := fun _ => .empty

def Reachable (operations : SealedOperations) : Database → Prop :=
  Relation.ReflTransGen (Step operations) emptyDatabase

/-! ## Rows and progress -/

/-- What every attempt row says, whatever its state. -/
structure AttemptRow (operations : SealedOperations) (s : ApplicationExecutionState)
    (a : OperationAttemptState) : Prop where
  identity : a.identity = s.identity
  operation : (operations s.identity)[a.operationIndex]? = some a.operation
  authority : authorityBindingMatchesExecution a.authorityBinding s.identity s.continuityAnchor
    s.applicationId = true
  intact : a.verifyIntegrity = true

structure ReceiptRow (operations : SealedOperations) (s : ApplicationExecutionState)
    (r : OperationReceipt) : Prop where
  identity : r.identity = s.identity
  operation : (operations s.identity)[r.operationIndex]? = some r.canonicalOperation
  authority : authorityBindingMatchesExecution r.authorityBinding s.identity s.continuityAnchor
    s.applicationId = true
  intact : r.verifyIntegrity = true

def attemptRows (attempts : List OperationAttemptState) : List (String × OperationAttemptState) :=
  attempts.map fun a => (a.operationIdentity, a)

def receiptRows (receipts : List OperationReceipt) : List (String × OperationReceipt) :=
  receipts.map fun r => (r.operationIdentity, r)

/-- The attempt at the next index: there is one exactly in the attempting states. -/
inductive OpenAttempt (s : ApplicationExecutionState) : Option OperationAttemptState → Prop
  | absent (h : ¬s.state.Attempting) (current : s.currentAttemptId = none) : OpenAttempt s none
  | present {a : OperationAttemptState} (h : s.state.Attempting) (state : a.state = s.state)
      (index : a.operationIndex = s.nextOperationIndex)
      (current : s.currentAttemptId = some a.operationIdentity)
      (failure : a.failureCode = s.recoveryCode) : OpenAttempt s (some a)

/-- How the codes and owners of a state go with its name. -/
structure Coordinated (total : Nat) (s : ApplicationExecutionState) : Prop where
  owner : s.ownerId.isSome ↔ s.state = .applying
  token : ∀ owner, s.ownerId = some owner → ownerToken owner = true
  recovery : s.recoveryCode.isSome ↔ s.state.Settled
  completed : s.completedAt.isSome ↔ s.state = .applied
  bound : s.nextOperationIndex ≤ total
  pending : s.state = .pending → s.nextOperationIndex = 0
  attempting : s.state.Attempting → s.nextOperationIndex < total
  partly : s.state = .partiallyApplied → 0 < s.nextOperationIndex
  applied : s.state = .applied → s.nextOperationIndex = total

/-- One progress of an application, as its four tables hold it. -/
structure Progress (operations : SealedOperations) (applicationId : String) (t : Tables)
    (s : ApplicationExecutionState) (receipts : List OperationReceipt)
    (closed : List OperationAttemptState) (opened : Option OperationAttemptState) : Prop where
  named : s.applicationId = applicationId
  intact : s.verifyIntegrity = true
  coordinated : Coordinated (operations s.identity).length s
  receiptEntries : t.operationReceipts.entries = receiptRows receipts
  receiptIndices : receipts.map (·.operationIndex) = List.range s.nextOperationIndex
  receiptRefs : s.operationReceiptRefs = receipts.map (·.operationReceiptId)
  receiptRow : ∀ r ∈ receipts, ReceiptRow operations s r
  attemptEntries : t.attempts.entries = attemptRows (closed ++ opened.toList)
  closedIndices : closed.map (·.operationIndex) = List.range s.nextOperationIndex
  closedApplied : ∀ a ∈ closed, a.state = .applied ∧ a.failureCode = none
  attemptRow : ∀ a ∈ closed ++ opened.toList, AttemptRow operations s a
  openAttempt : OpenAttempt s opened
  receipt : t.applicationReceipt.isSome ↔ s.state = .applied

/-- The invariant of one application's tables. -/
def Invariant (operations : SealedOperations) (applicationId : String) (t : Tables) : Prop :=
  match t.execution with
  | none => t = .empty
  | some s => ∃ receipts closed opened,
      Progress operations applicationId t s receipts closed opened

/-! ## What a continued state keeps -/

variable {operations : SealedOperations} {applicationId : String}

theorem AttemptRow.continues {context : ExecutionContext}
    {s s' : ApplicationExecutionState} {values : ExecutionProgress}
    (hs : Continues context s s' values) {a : OperationAttemptState}
    (h : AttemptRow operations s a) : AttemptRow operations s' a := by
  refine ⟨?_, ?_, ?_, h.intact⟩
  · rw [hs.identity]
    exact h.identity
  · rw [hs.identity]
    exact h.operation
  · rw [hs.identity, hs.continuityAnchor, hs.applicationId]
    exact h.authority

theorem ReceiptRow.continues {context : ExecutionContext}
    {s s' : ApplicationExecutionState} {values : ExecutionProgress}
    (hs : Continues context s s' values) {r : OperationReceipt}
    (h : ReceiptRow operations s r) : ReceiptRow operations s' r := by
  refine ⟨?_, ?_, ?_, h.intact⟩
  · rw [hs.identity]
    exact h.identity
  · rw [hs.identity]
    exact h.operation
  · rw [hs.identity, hs.continuityAnchor, hs.applicationId]
    exact h.authority

omit [PythonLibrary] in
theorem not_attempting_of_idle {s : StateName} (h : s = .pending ∨ s = .partiallyApplied) :
    ¬s.Attempting := by
  rcases h with rfl | rfl <;> decide

theorem OpenAttempt.eq_none {s : ApplicationExecutionState} {opened : Option OperationAttemptState}
    (h : OpenAttempt s opened) (hidle : ¬s.state.Attempting) : opened = none := by
  cases h with
  | absent => rfl
  | present hs => exact absurd hs hidle

/-- An applying state has its claimed attempt as the last row. -/
theorem OpenAttempt.eq_some {s : ApplicationExecutionState} {opened : Option OperationAttemptState}
    (h : OpenAttempt s opened) (happlying : s.state = .applying) :
    ∃ a, opened = some a ∧ a.state = .applying ∧ a.operationIndex = s.nextOperationIndex ∧
      s.currentAttemptId = some a.operationIdentity ∧ a.failureCode = s.recoveryCode := by
  cases h with
  | absent hs => exact absurd (.inl happlying) hs
  | present _ hstate hindex hcurrent hfailure =>
      exact ⟨_, rfl, hstate.trans happlying, hindex, hcurrent, hfailure⟩

/-- The row a held claim names is the open attempt. -/
theorem Progress.claimed_attempt {t : Tables} {s : ApplicationExecutionState}
    {receipts : List OperationReceipt} {closed : List OperationAttemptState}
    {opened : Option OperationAttemptState} {stateDigest attemptId attemptDigest ownerId : String}
    {a : OperationAttemptState} (h : Progress operations applicationId t s receipts closed opened)
    (hclaim : HeldClaim stateDigest attemptId attemptDigest ownerId t s a) :
    opened = some a ∧ a.operationIdentity = attemptId ∧ a.operationIndex = s.nextOperationIndex ∧
      a.failureCode = none := by
  obtain ⟨b, hopened, -, hindex, hcurrent, hfailure⟩ := h.openAttempt.eq_some hclaim.applying
  have hrow : (b.operationIdentity, b) ∈ t.attempts.entries := by
    rw [h.attemptEntries, hopened]
    simp [attemptRows]
  have hid : b.operationIdentity = attemptId := by
    rw [hclaim.currentAttempt] at hcurrent
    exact (Option.some.inj hcurrent).symm
  have hlookup := Rows.lookup_eq_some_iff.mpr hrow
  rw [hid, hclaim.row, Option.some.injEq] at hlookup
  subst hlookup
  have hrecovery : s.recoveryCode = none := by
    rw [← Option.not_isSome_iff_eq_none, h.coordinated.recovery, hclaim.applying]
    decide
  exact ⟨hopened, hid, hindex, hfailure.trans hrecovery⟩

/-! ## Every transaction keeps the invariant -/

theorem created_invariant {t t' : Tables} {state result : ApplicationExecutionState}
    (hnamed : state.applicationId = applicationId) (h : Created t state result t')
    (hinv : Invariant operations applicationId t) : Invariant operations applicationId t' := by
  rcases h.outcome with ⟨hnone, -, rfl⟩ | ⟨-, rfl, -⟩
  · obtain ⟨hpending, hzero, howner, hattempt, hcode, hrefs, hcompleted⟩ := h.pending
    have hempty : t = .empty := by
      rw [Invariant, hnone] at hinv
      exact hinv
    subst hempty
    have hfields : state.withDigest.toExecutionProgress = state.toExecutionProgress := rfl
    refine ⟨[], [], none, ?_⟩
    exact
      { named := hnamed
        intact := state.verifyIntegrity_withDigest
        coordinated :=
          { owner := by simp [hfields, howner, hpending]
            token := by simp [hfields, howner]
            recovery := by simp [hfields, hcode, hpending, StateName.Settled]
            completed := by simp [hfields, hcompleted, hpending]
            bound := by simp [hfields, hzero]
            pending := fun _ => hzero
            attempting := fun hs => absurd hs (not_attempting_of_idle (.inl hpending))
            partly := by simp [hfields, hpending]
            applied := by simp [hfields, hpending] }
        receiptEntries := rfl
        receiptIndices := by simp [hfields, hzero]
        receiptRefs := hrefs
        receiptRow := by simp
        attemptEntries := rfl
        closedIndices := by simp [hfields, hzero]
        closedApplied := by simp
        attemptRow := by simp
        openAttempt := .absent (not_attempting_of_idle (.inl hpending)) hattempt
        receipt := by simp [Tables.empty, hfields, hpending] }
  · exact hinv

theorem claimed_progress {t t' : Tables} {context : ExecutionContext}
    {expectedDigest ownerId : String} {now : Instant} {s s' : ApplicationExecutionState}
    {a : OperationAttemptState} {receipts : List OperationReceipt}
    {closed : List OperationAttemptState} {opened : Option OperationAttemptState}
    (hsealed : ExecutionContext.Sealed operations context)
    (h : Claimed context expectedDigest ownerId now t s s' a t')
    (hp : Progress operations applicationId t s receipts closed opened) :
    Progress operations applicationId t' s' receipts closed (some a) := by
  obtain ⟨attempts, hinsert, rfl⟩ := h.inserted
  have hc := h.continued
  have hstate : s'.state = .applying := by rw [hc.progress]
  have hnext : s'.nextOperationIndex = s.nextOperationIndex := by rw [hc.progress]
  have hclosed := hp.openAttempt.eq_none (not_attempting_of_idle h.idle)
  have hoperation : (operations s.identity)[s.nextOperationIndex]? = some a.operation := by
    rw [hc.owned.1, ← hsealed]
    exact h.made.operation
  have hrow : AttemptRow operations s a :=
    { identity := h.made.identity.trans hc.owned.1.symm
      operation := by rw [h.made.operationIndex, hoperation]
      authority := by
        rw [h.made.authority, hc.owned.1, hc.owned.2, s.valid.application, hc.owned.1]
        exact provenance_matches context
      intact := h.made.intact }
  have hbound := (List.getElem?_eq_some_iff.mp hoperation).1
  have hrecovery : s.recoveryCode = none := by
    rw [← Option.not_isSome_iff_eq_none, hp.coordinated.recovery]
    rcases h.idle with hs | hs <;> rw [hs] <;> decide
  have hcompleted : s.completedAt = none := by
    rw [← Option.not_isSome_iff_eq_none, hp.coordinated.completed]
    rcases h.idle with hs | hs <;> rw [hs] <;> decide
  exact
    { named := hc.applicationId.trans hp.named
      intact := hc.intact
      coordinated :=
        { owner := by simp [hc.progress]
          token := by
            rintro owner howner
            rw [hc.progress, Option.some.injEq] at howner
            exact howner ▸ h.token
          recovery := by simp [hc.progress, hrecovery, StateName.Settled]
          completed := by simp [hc.progress, hcompleted]
          bound := by
            rw [hnext, hc.identity]
            exact hp.coordinated.bound
          pending := by simp [hstate]
          attempting := fun _ => by
            rw [hnext, hc.identity]
            exact hbound
          partly := by simp [hstate]
          applied := by simp [hstate] }
      receiptEntries := hp.receiptEntries
      receiptIndices := by rw [hnext, hp.receiptIndices]
      receiptRefs := by
        rw [hc.progress]
        exact hp.receiptRefs
      receiptRow := fun r hr => (hp.receiptRow r hr).continues hc
      attemptEntries := by
        rw [(Rows.insert_eq_some hinsert).2, hp.attemptEntries, hclosed]
        simp [attemptRows]
      closedIndices := by rw [hnext, hp.closedIndices]
      closedApplied := hp.closedApplied
      attemptRow := by
        intro b hb
        rcases List.mem_append.mp hb with hb | hb
        · exact (hp.attemptRow b (List.mem_append_left _ hb)).continues hc
        · rw [Option.toList_some, List.mem_singleton] at hb
          exact hb ▸ hrow.continues hc
      openAttempt := by
        refine .present (.inl hstate) ?_ ?_ ?_ ?_
        · rw [hstate, h.made.progress]
        · rw [hnext, h.made.operationIndex]
        · rw [hc.progress]
        · rw [hc.progress, h.made.progress, hrecovery]
      receipt := by
        rw [hstate, hp.receipt]
        rcases h.idle with hs | hs <;> simp [hs] }

/-- Updating the claimed row replaces the open attempt and no other. -/
theorem Progress.entries_update {t : Tables} {s : ApplicationExecutionState}
    {receipts : List OperationReceipt} {closed : List OperationAttemptState}
    {a b : OperationAttemptState} (h : Progress operations applicationId t s receipts closed (some a))
    (hid : b.operationIdentity = a.operationIdentity) :
    (t.attempts.update a.operationIdentity b).entries = attemptRows (closed ++ [b]) := by
  have hlast : t.attempts.entries = attemptRows closed ++ [(a.operationIdentity, a)] := by
    rw [h.attemptEntries]
    simp [attemptRows]
  rw [Rows.entries_update_last b hlast]
  simp [attemptRows, hid]

theorem AttemptRow.continued {context : ExecutionContext} {s : ApplicationExecutionState}
    {a b : OperationAttemptState} {values : AttemptProgress}
    (hb : ContinuesAttempt context a b values) (h : AttemptRow operations s a) :
    AttemptRow operations s b := by
  refine ⟨hb.identity.trans h.identity, ?_, ?_, hb.intact⟩
  · rw [hb.operationIndex, hb.operation]
    exact h.operation
  · rw [hb.authorityBinding]
    exact h.authority

theorem completed_progress {t t' : Tables} {context : ExecutionContext}
    {stateDigest attemptId attemptDigest ownerId : String} {receipt : LiveReceipt context}
    {now : Instant} {s s' : ApplicationExecutionState} {a b : OperationAttemptState}
    {receipts : List OperationReceipt} {closed : List OperationAttemptState}
    {opened : Option OperationAttemptState}
    (hsealed : ExecutionContext.Sealed operations context)
    (h : Completed context stateDigest attemptId attemptDigest ownerId receipt.val now t s s' a b t')
    (hp : Progress operations applicationId t s receipts closed opened) :
    Progress operations applicationId t' s' (receipts ++ [receipt.val]) (closed ++ [b]) none := by
  obtain ⟨operationReceipts, hinsert, rfl⟩ := h.inserted
  obtain ⟨rfl, hid, hindex, hfailure⟩ := hp.claimed_attempt h.claim
  obtain ⟨index, remoteResult, startedAt, completedAt, hmint⟩ := receipt.property
  have hr := newReceipt_spec hmint
  have hc := h.continued
  have hstate : s'.state = .partiallyApplied := by rw [hc.progress]
  have hnext : s'.nextOperationIndex = s.nextOperationIndex + 1 := by rw [hc.progress]
  have hbound := hp.coordinated.attempting (.inl h.claim.applying)
  have happliedNot : s.completedAt = none := by
    rw [← Option.not_isSome_iff_eq_none, hp.coordinated.completed, h.claim.applying]
    decide
  have hrecovery : s.recoveryCode = none := by
    rw [← Option.not_isSome_iff_eq_none, hp.coordinated.recovery, h.claim.applying]
    decide
  have hreceiptRow : ReceiptRow operations s receipt.val :=
    { identity := hr.identity.trans hc.owned.1.symm
      operation := by
        rw [hc.owned.1, ← hsealed, hr.operationIndex]
        exact hr.operation
      authority := by
        rw [hr.authority, hc.owned.1, hc.owned.2, s.valid.application, hc.owned.1]
        exact provenance_matches context
      intact := hr.intact }
  have hrow : AttemptRow operations s b :=
    (hp.attemptRow a (by simp)).continued h.closed
  exact
    { named := hc.applicationId.trans hp.named
      intact := hc.intact
      coordinated :=
        { owner := by simp [hc.progress]
          token := by simp [hc.progress]
          recovery := by simp [hc.progress, hrecovery, StateName.Settled]
          completed := by simp [hc.progress, happliedNot]
          bound := by
            rw [hnext, hc.identity]
            exact hbound
          pending := by simp [hstate]
          attempting := fun hs => absurd hs (not_attempting_of_idle (.inr hstate))
          partly := fun _ => by
            rw [hnext]
            exact Nat.succ_pos _
          applied := by simp [hstate] }
      receiptEntries := by
        rw [(Rows.insert_eq_some hinsert).2, hp.receiptEntries]
        simp [receiptRows]
      receiptIndices := by
        rw [List.map_append, hp.receiptIndices, hnext, List.range_succ, List.map_singleton,
          h.receiptIndex, hindex]
      receiptRefs := by
        rw [hc.progress]
        simp [hp.receiptRefs]
      receiptRow := by
        intro r hmem
        rcases List.mem_append.mp hmem with hmem | hmem
        · exact (hp.receiptRow r hmem).continues hc
        · rw [List.mem_singleton] at hmem
          exact hmem ▸ hreceiptRow.continues hc
      attemptEntries := by
        rw [Option.toList_none, List.append_nil, ← hid]
        exact hp.entries_update h.closed.operationIdentity
      closedIndices := by
        rw [List.map_append, hp.closedIndices, hnext, List.range_succ, List.map_singleton,
          h.closed.operationIndex, hindex]
      closedApplied := by
        intro c hmem
        rcases List.mem_append.mp hmem with hmem | hmem
        · exact hp.closedApplied c hmem
        · rw [List.mem_singleton] at hmem
          rw [hmem, h.closed.progress]
          exact ⟨rfl, hfailure⟩
      attemptRow := by
        intro c hmem
        rw [Option.toList_none, List.append_nil] at hmem
        rcases List.mem_append.mp hmem with hmem | hmem
        · exact (hp.attemptRow c (List.mem_append_left _ hmem)).continues hc
        · rw [List.mem_singleton] at hmem
          exact hmem ▸ hrow.continues hc
      openAttempt := .absent (not_attempting_of_idle (.inr hstate)) (by rw [hc.progress])
      receipt := by
        rw [hstate, hp.receipt, h.claim.applying]
        simp }

theorem settled_progress {t t' : Tables} {context : ExecutionContext}
    {stateDigest attemptId attemptDigest ownerId : String} {stateName : StateName} {code : String}
    {now : Instant} {s s' : ApplicationExecutionState} {a b : OperationAttemptState}
    {receipts : List OperationReceipt} {closed : List OperationAttemptState}
    {opened : Option OperationAttemptState}
    (h : Settled context stateDigest attemptId attemptDigest ownerId stateName code now t s s' a b
      t')
    (hp : Progress operations applicationId t s receipts closed opened) :
    Progress operations applicationId t' s' receipts closed (some b) := by
  rw [h.written]
  obtain ⟨rfl, hid, hindex, -⟩ := hp.claimed_attempt h.claim
  have hc := h.continued
  have hstate : s'.state = stateName := by rw [hc.progress]
  have hnext : s'.nextOperationIndex = s.nextOperationIndex := by rw [hc.progress]
  have hbound := hp.coordinated.attempting (.inl h.claim.applying)
  have hname : stateName ≠ .pending ∧ stateName ≠ .partiallyApplied ∧ stateName ≠ .applying ∧
      stateName ≠ .applied := by
    rcases h.name with hs | hs | hs <;> rw [hs] <;> decide
  have hcompleted : s.completedAt = none := by
    rw [← Option.not_isSome_iff_eq_none, hp.coordinated.completed, h.claim.applying]
    decide
  have hrow : AttemptRow operations s b := (hp.attemptRow a (by simp)).continued h.closed
  exact
    { named := hc.applicationId.trans hp.named
      intact := hc.intact
      coordinated :=
        { owner := by simp [hc.progress, hname]
          token := by simp [hc.progress]
          recovery := by simp [hc.progress, h.name]
          completed := by simp [hc.progress, hcompleted, hname]
          bound := by
            rw [hnext, hc.identity]
            exact hp.coordinated.bound
          pending := by simp [hstate, hname]
          attempting := fun _ => by
            rw [hnext, hc.identity]
            exact hbound
          partly := by simp [hstate, hname]
          applied := by simp [hstate, hname] }
      receiptEntries := hp.receiptEntries
      receiptIndices := by rw [hnext, hp.receiptIndices]
      receiptRefs := by
        rw [hc.progress]
        exact hp.receiptRefs
      receiptRow := fun r hr => (hp.receiptRow r hr).continues hc
      attemptEntries := by
        rw [Option.toList_some, ← hid]
        exact hp.entries_update h.closed.operationIdentity
      closedIndices := by rw [hnext, hp.closedIndices]
      closedApplied := hp.closedApplied
      attemptRow := by
        intro c hmem
        rcases List.mem_append.mp hmem with hmem | hmem
        · exact (hp.attemptRow c (List.mem_append_left _ hmem)).continues hc
        · rw [Option.toList_some, List.mem_singleton] at hmem
          exact hmem ▸ hrow.continues hc
      openAttempt := by
        refine .present ?_ ?_ ?_ ?_ ?_
        · rw [hstate]
          exact .inr h.name
        · rw [hstate, h.closed.progress]
        · rw [hnext, h.closed.operationIndex, hindex]
        · rw [hc.progress, h.closed.operationIdentity, hid]
          exact h.claim.currentAttempt
        · rw [hc.progress, h.closed.progress]
      receipt := by
        rw [hstate, hp.receipt, h.claim.applying]
        simp [hname] }

theorem finalized_progress {t t' : Tables} {context : ExecutionContext} {stateDigest : String}
    {now : Instant} {s s' : ApplicationExecutionState} {found : List OperationReceipt}
    {applicationReceipt : ApplicationReceipt} {receipts : List OperationReceipt}
    {closed : List OperationAttemptState} {opened : Option OperationAttemptState}
    (hsealed : ExecutionContext.Sealed operations context)
    (h : Finalized applicationId context stateDigest now t s s' found applicationReceipt t')
    (hp : Progress operations applicationId t s receipts closed opened) :
    Progress operations applicationId t' s' receipts closed none := by
  rw [h.written]
  have hc := h.continued
  have hstate : s'.state = .applied := by rw [hc.progress]
  have hnext : s'.nextOperationIndex = s.nextOperationIndex := by rw [hc.progress]
  have hopened := hp.openAttempt.eq_none (not_attempting_of_idle (.inr h.partly))
  have hrecovery : s.recoveryCode = none := by
    rw [← Option.not_isSome_iff_eq_none, hp.coordinated.recovery, h.partly]
    decide
  have hidle : ¬s'.state.Attempting := by
    rw [hstate]
    decide
  subst hopened
  exact
    { named := hc.applicationId.trans hp.named
      intact := hc.intact
      coordinated :=
        { owner := by simp [hc.progress, h.unowned]
          token := by simp [hc.progress, h.unowned]
          recovery := by simp [hc.progress, hrecovery, StateName.Settled]
          completed := by simp [hc.progress]
          bound := by
            rw [hnext, hc.identity]
            exact hp.coordinated.bound
          pending := by simp [hstate]
          attempting := fun hs => absurd hs hidle
          partly := by simp [hstate]
          applied := fun _ => by
            rw [hnext, hc.identity, hc.owned.1, ← hsealed]
            exact h.complete }
      receiptEntries := hp.receiptEntries
      receiptIndices := by rw [hnext, hp.receiptIndices]
      receiptRefs := by
        rw [hc.progress]
        exact hp.receiptRefs
      receiptRow := fun r hr => (hp.receiptRow r hr).continues hc
      attemptEntries := hp.attemptEntries
      closedIndices := by rw [hnext, hp.closedIndices]
      closedApplied := hp.closedApplied
      attemptRow := fun a ha => (hp.attemptRow a ha).continues hc
      openAttempt := by
        refine .absent hidle ?_
        rw [hc.progress]
        exact h.unowned.2
      receipt := by simp [hstate] }

theorem Invariant.of_progress {t : Tables} {s : ApplicationExecutionState}
    {receipts : List OperationReceipt} {closed : List OperationAttemptState}
    {opened : Option OperationAttemptState} (hs : t.execution = some s)
    (h : Progress operations applicationId t s receipts closed opened) :
    Invariant operations applicationId t := by
  rw [Invariant, hs]
  exact ⟨receipts, closed, opened, h⟩

theorem Invariant.progress {t : Tables} {s : ApplicationExecutionState}
    (h : Invariant operations applicationId t) (hs : t.execution = some s) :
    ∃ receipts closed opened, Progress operations applicationId t s receipts closed opened := by
  rw [Invariant, hs] at h
  exact h

/-- Every committed transaction keeps the invariant. -/
theorem Orchestrated.invariant {t t' : Tables} {readings : Readings}
    (h : Orchestrated operations applicationId t readings t')
    (hinv : Invariant operations applicationId t) : Invariant operations applicationId t' := by
  cases h with
  | create _ named h => exact created_invariant named (createExecutionIfAbsent_spec h) hinv
  | claim sealed h =>
      obtain ⟨previous, hclaimed⟩ := claimNextOperation_spec h
      obtain ⟨receipts, closed, opened, hp⟩ := hinv.progress hclaimed.found
      obtain ⟨_, -, htables⟩ := hclaimed.inserted
      exact .of_progress (by rw [htables]) (claimed_progress sealed hclaimed hp)
  | complete sealed h =>
      obtain ⟨previous, a, b, hcompleted⟩ := completeOperationSuccess_spec h
      obtain ⟨receipts, closed, opened, hp⟩ := hinv.progress hcompleted.claim.found
      obtain ⟨_, -, htables⟩ := hcompleted.inserted
      exact .of_progress (by rw [htables]) (completed_progress sealed hcompleted hp)
  | settle sealed h =>
      obtain ⟨previous, a, b, hsettled⟩ := settleOperation_spec h
      obtain ⟨receipts, closed, opened, hp⟩ := hinv.progress hsettled.claim.found
      exact .of_progress (by rw [hsettled.written]) (settled_progress hsettled hp)
  | finalize sealed h =>
      obtain ⟨previous, found, applicationReceipt, hfinalized⟩ := finalizeApplication_spec h
      obtain ⟨receipts, closed, opened, hp⟩ := hinv.progress hfinalized.found
      exact .of_progress (by rw [hfinalized.written]) (finalized_progress sealed hfinalized hp)

theorem Step.invariant {db db' : Database} (h : Step operations db db')
    (hinv : ∀ applicationId, Invariant operations applicationId (db applicationId)) :
    ∀ applicationId, Invariant operations applicationId (db' applicationId) := by
  intro applicationId
  obtain @⟨changed, _, tables', h⟩ := h
  by_cases heq : applicationId = changed
  · subst heq
    rw [Function.update_self]
    exact h.invariant (hinv _)
  · rw [Function.update_of_ne heq]
    exact hinv _

/-- Every reachable database satisfies the invariant for every application. -/
theorem reachable_invariant {db : Database} (h : Reachable operations db) :
    ∀ applicationId, Invariant operations applicationId (db applicationId) := by
  induction h with
  | refl =>
      intro applicationId
      rfl
  | tail _ hstep ih => exact hstep.invariant ih

/-! ## What the tables of an application say -/

/-- The cross-table relation of a stored execution state. -/
structure DurableExecution (operations : SealedOperations) (applicationId : String) (t : Tables)
    (s : ApplicationExecutionState) : Prop where
  refCount : s.operationReceiptRefs.length = s.nextOperationIndex
  receiptCount : t.operationReceipts.entries.length = s.nextOperationIndex
  appliedCount : t.attempts.entries.countP (fun row => row.2.state = .applied) =
    s.nextOperationIndex
  receiptRef : ∀ i operation, i < s.nextOperationIndex →
    (operations s.identity)[i]? = some operation →
    ∃ r, t.operationReceipts.lookup (operationIdentity applicationId i operation) = some r ∧
      r.operationIndex = i ∧ s.operationReceiptRefs[i]? = some r.operationReceiptId ∧
      r.operationReceiptId = operationReceiptId (operationIdentity applicationId i operation)
  attemptIndices : t.attempts.entries.map (fun row => row.2.operationIndex) =
    List.range (s.nextOperationIndex + if s.state.Attempting then 1 else 0)
  attempt : ∀ i operation, i < s.nextOperationIndex →
    (operations s.identity)[i]? = some operation →
    ∃ a, t.attempts.lookup (operationIdentity applicationId i operation) = some a ∧
      a.operationIndex = i ∧ a.state = .applied
  lastAttempt : s.state.Attempting →
    ∃ operation a, (operations s.identity)[s.nextOperationIndex]? = some operation ∧
      t.attempts.lookup (operationIdentity applicationId s.nextOperationIndex operation) = some a ∧
      a.operationIndex = s.nextOperationIndex ∧ a.state = s.state ∧
      s.currentAttemptId =
        some (operationIdentity applicationId s.nextOperationIndex operation)
  noAttempt : ¬s.state.Attempting → s.currentAttemptId = none
  owner : s.ownerId.isSome ↔ s.state = .applying
  applicationReceipt : t.applicationReceipt.isSome ↔ s.state = .applied

theorem AttemptRow.operationIdentity_eq {s : ApplicationExecutionState}
    {a : OperationAttemptState} (h : AttemptRow operations s a) {operation : WriteOperation}
    (hop : (operations s.identity)[a.operationIndex]? = some operation) :
    a.operationIdentity = operationIdentity s.applicationId a.operationIndex operation := by
  rw [h.operation, Option.some.injEq] at hop
  rw [a.valid.binding.2.1, a.valid.binding.1, h.identity, ← s.valid.application, hop]

theorem ReceiptRow.operationIdentity_eq {s : ApplicationExecutionState} {r : OperationReceipt}
    (h : ReceiptRow operations s r) {operation : WriteOperation}
    (hop : (operations s.identity)[r.operationIndex]? = some operation) :
    r.operationIdentity = operationIdentity s.applicationId r.operationIndex operation := by
  rw [h.operation, Option.some.injEq] at hop
  rw [r.valid.binding.2.2, r.valid.binding.1, h.identity, ← s.valid.application, hop]

theorem Progress.attempt_of_lookup {t : Tables} {s : ApplicationExecutionState}
    {receipts : List OperationReceipt} {closed : List OperationAttemptState}
    {opened : Option OperationAttemptState}
    (h : Progress operations applicationId t s receipts closed opened) {id : String}
    {a : OperationAttemptState} (ha : t.attempts.lookup id = some a) :
    a ∈ closed ++ opened.toList ∧ a.operationIdentity = id := by
  rw [Rows.lookup_eq_some_iff, h.attemptEntries, attemptRows, List.mem_map] at ha
  obtain ⟨b, hmem, hrow⟩ := ha
  obtain ⟨rfl, rfl⟩ := Prod.mk.inj hrow
  exact ⟨hmem, rfl⟩

theorem Progress.receipt_of_lookup {t : Tables} {s : ApplicationExecutionState}
    {receipts : List OperationReceipt} {closed : List OperationAttemptState}
    {opened : Option OperationAttemptState}
    (h : Progress operations applicationId t s receipts closed opened) {id : String}
    {r : OperationReceipt} (hr : t.operationReceipts.lookup id = some r) :
    r ∈ receipts ∧ r.operationIdentity = id := by
  rw [Rows.lookup_eq_some_iff, h.receiptEntries, receiptRows, List.mem_map] at hr
  obtain ⟨b, hmem, hrow⟩ := hr
  obtain ⟨rfl, rfl⟩ := Prod.mk.inj hrow
  exact ⟨hmem, rfl⟩

omit [PythonLibrary] in
/-- The member of a list whose indices are a range that stands at one index. -/
theorem exists_at_index {record : Type} {index : record → Nat} {rows : List record} {n i : Nat}
    (h : rows.map index = List.range n) (hi : i < n) :
    ∃ r, rows[i]? = some r ∧ index r = i := by
  have hat : (rows.map index)[i]? = some i := by
    rw [h, List.getElem?_range hi]
  rw [List.getElem?_map, Option.map_eq_some_iff] at hat
  exact hat

omit [PythonLibrary] in
theorem index_lt_of_mem {record : Type} {index : record → Nat} {rows : List record} {n : Nat}
    (h : rows.map index = List.range n) {r : record} (hr : r ∈ rows) : index r < n := by
  rw [← List.mem_range, ← h]
  exact List.mem_map_of_mem hr

/-- The receipt of a finished operation stands at its index. -/
theorem Progress.receipt_at {t : Tables} {s : ApplicationExecutionState}
    {receipts : List OperationReceipt} {closed : List OperationAttemptState}
    {opened : Option OperationAttemptState}
    (h : Progress operations applicationId t s receipts closed opened) {i : Nat}
    {operation : WriteOperation} (hi : i < s.nextOperationIndex)
    (hop : (operations s.identity)[i]? = some operation) :
    ∃ r, receipts[i]? = some r ∧ r.operationIndex = i ∧
      r.operationIdentity = operationIdentity applicationId i operation ∧
      t.operationReceipts.lookup (operationIdentity applicationId i operation) = some r := by
  obtain ⟨r, hr, hindex⟩ := exists_at_index h.receiptIndices hi
  have hmem := List.mem_of_getElem? hr
  have hid := (h.receiptRow r hmem).operationIdentity_eq (hindex.symm ▸ hop)
  rw [h.named, hindex] at hid
  refine ⟨r, hr, hindex, hid, ?_⟩
  rw [← hid, Rows.lookup_eq_some_iff, h.receiptEntries, receiptRows]
  exact List.mem_map_of_mem hmem

theorem Progress.durable {t : Tables} {s : ApplicationExecutionState}
    {receipts : List OperationReceipt} {closed : List OperationAttemptState}
    {opened : Option OperationAttemptState}
    (h : Progress operations applicationId t s receipts closed opened) :
    DurableExecution operations applicationId t s := by
  have hreceiptCount : receipts.length = s.nextOperationIndex := by
    simpa using congrArg List.length h.receiptIndices
  have hclosedCount : closed.length = s.nextOperationIndex := by
    simpa using congrArg List.length h.closedIndices
  have hattemptLookup : ∀ a ∈ closed ++ opened.toList,
      t.attempts.lookup a.operationIdentity = some a := by
    intro a ha
    rw [Rows.lookup_eq_some_iff, h.attemptEntries, attemptRows]
    exact List.mem_map_of_mem ha
  refine
    { refCount := ?_
      receiptCount := ?_
      appliedCount := ?_
      receiptRef := ?_
      attemptIndices := ?_
      attempt := ?_
      lastAttempt := ?_
      noAttempt := ?_
      owner := h.coordinated.owner
      applicationReceipt := h.receipt }
  · rw [h.receiptRefs, List.length_map, hreceiptCount]
  · rw [h.receiptEntries, receiptRows, List.length_map, hreceiptCount]
  · have hclosed : closed.countP (fun a => a.state = .applied) = closed.length := by
      rw [List.countP_eq_length]
      exact fun a ha => by simpa using (h.closedApplied a ha).1
    have hopened : opened.toList.countP (fun a => a.state = .applied) = 0 := by
      cases h.openAttempt with
      | absent => rfl
      | @present a hs hstate =>
          have hne : a.state ≠ .applied := by
            rw [hstate]
            rcases hs with hs | hs | hs | hs <;> rw [hs] <;> decide
          simp [hne]
    rw [h.attemptEntries, attemptRows, List.countP_map, List.countP_append]
    exact (congrArg₂ (· + ·) hclosed hopened).trans hclosedCount
  · intro i operation hi hop
    obtain ⟨r, hr, hindex, hid, hlookup⟩ := h.receipt_at hi hop
    refine ⟨r, hlookup, hindex, ?_, ?_⟩
    · rw [h.receiptRefs, List.getElem?_map, hr, Option.map_some]
    · rw [r.valid.receiptId, hid]
  · rw [h.attemptEntries, attemptRows, List.map_map]
    simp only [Function.comp_def, List.map_append, h.closedIndices]
    cases h.openAttempt with
    | absent hs => simp [hs]
    | present hs _ hindex => simp [hs, hindex, List.range_succ]
  · intro i operation hi hop
    obtain ⟨a, ha, hindex⟩ := exists_at_index h.closedIndices hi
    have hmem := List.mem_of_getElem? ha
    have hid := (h.attemptRow a (List.mem_append_left _ hmem)).operationIdentity_eq
      (hindex.symm ▸ hop)
    rw [h.named, hindex] at hid
    exact ⟨a, hid ▸ hattemptLookup a (List.mem_append_left _ hmem), hindex,
      (h.closedApplied a hmem).1⟩
  · intro hs
    cases h.openAttempt with
    | absent hnot => exact absurd hs hnot
    | @present a _ hstate hindex hcurrent =>
        have hmem : a ∈ closed ++ [a] := by simp
        have hop := (h.attemptRow a hmem).operation
        have hid := (h.attemptRow a hmem).operationIdentity_eq hop
        rw [h.named, hindex] at hid
        rw [hindex] at hop
        exact ⟨a.operation, a, hop, hid ▸ hattemptLookup a hmem, hindex, hstate,
          hcurrent.trans (congrArg some hid)⟩
  · intro hnot
    cases h.openAttempt with
    | absent _ hcurrent => exact hcurrent
    | present hs => exact absurd hs hnot

/-- In every reachable database each application either has no rows at all, or
a state whose four tables agree. -/
theorem reachable_durable_execution {db : Database} (h : Reachable operations db)
    (applicationId : String) :
    ((db applicationId).execution = none → db applicationId = .empty) ∧
      ∀ s, (db applicationId).execution = some s →
        DurableExecution operations applicationId (db applicationId) s := by
  have hinv := reachable_invariant h applicationId
  constructor
  · intro hnone
    rw [Invariant, hnone] at hinv
    exact hinv
  · intro s hs
    obtain ⟨receipts, closed, opened, hp⟩ := hinv.progress hs
    exact hp.durable

/-! ## A run of the small application -/

def sampleOperations : SealedOperations := fun _ => [createOperation "A"]

def sampleOwner : String := "execution-owner-0123456789abcdef0123456789abcdef"

/-- The one application of the sample run. -/
def sampleApplication : String := sampleIdentity.applicationId

/-- What the first transaction of the run stores. -/
structure SampleCreated (startedAt : Instant) (s : ApplicationExecutionState) : Prop where
  progress : s.toExecutionProgress = ExecutionContext.initialProgress startedAt
  startedAt : s.startedAt = startedAt
  identity : s.identity = sampleContext.identity
  anchor : s.continuityAnchor = sampleContext.continuityAnchor
  managed : s.orchestrationPolicy = some applierOrchestrationPolicy
  intact : s.verifyIntegrity = true

theorem sample_created (startedAt : Instant) :
    ∃ s, SampleCreated startedAt s ∧
      Orchestrated sampleOperations sampleApplication .empty (.create startedAt startedAt)
        { Tables.empty with execution := some s } := by
  obtain ⟨s, hs, hprogress, hstarted, hidentity, hanchor, hmanaged⟩ :=
    newExecutionState_ok sampleContext startedAt
  refine ⟨s.withDigest, ⟨hprogress, hstarted, hidentity, hanchor, hmanaged,
    s.verifyIntegrity_withDigest⟩, .create hs ?_ (createExecutionIfAbsent_ok rfl hprogress)⟩
  rw [s.valid.application, hidentity]
  rfl

theorem sample_claim_ok {startedAt : Instant} {s : ApplicationExecutionState}
    (h : SampleCreated startedAt s) {now : Instant} (hnow : startedAt ≤ now) :
    ∃ t s' a, claimNextOperation true alwaysCurrent { Tables.empty with execution := some s }
      sampleApplication s.stateDigest sampleContext sampleOwner now = .ok (t, s', a) := by
  have hprogress := h.progress
  have hnext : s.nextOperationIndex = 0 := by rw [hprogress]; rfl
  have hclock : s.startedAt ≤ now ∧ s.updatedAt ≤ now := by
    rw [h.startedAt, hprogress]
    exact ⟨hnow, hnow⟩
  have hfound : ({ Tables.empty with execution := some s } : Tables).execution = some s := rfl
  have hidle : s.state = .pending := by rw [hprogress]; rfl
  have hunowned : s.ownerId = none ∧ s.currentAttemptId = none := by
    rw [hprogress]
    exact ⟨rfl, rfl⟩
  have htoken : ownerToken sampleOwner = true := by decide
  have hoperation : sampleContext.expectedOperations[s.nextOperationIndex]? =
      some (createOperation "A") := by rw [hnext]; rfl
  obtain ⟨t, s', a, hclaim⟩ := claimNextOperation_ok hfound h.managed h.intact (.inl hidle)
    hunowned ⟨h.identity, h.anchor⟩ htoken hoperation hclock rfl
  exact ⟨t, s', a, hclaim⟩

theorem sample_sealed : ExecutionContext.Sealed sampleOperations sampleContext := rfl

theorem sample_claimed {startedAt : Instant} {s : ApplicationExecutionState}
    (h : SampleCreated startedAt s) {now : Instant} (hnow : startedAt ≤ now) :
    ∃ s' a t, Claimed sampleContext s.stateDigest sampleOwner now
        { Tables.empty with execution := some s } s s' a t ∧
      Orchestrated sampleOperations sampleApplication { Tables.empty with execution := some s }
        (.claim now) t := by
  obtain ⟨t, s', a, hclaim⟩ := sample_claim_ok h hnow
  obtain ⟨previous, hclaimed⟩ := claimNextOperation_spec hclaim
  obtain rfl : s = previous := Option.some.inj hclaimed.found
  exact ⟨s', a, t, hclaimed, .claim sample_sealed hclaim⟩

/-- The claimed attempt is the one of the only operation. -/
theorem sample_attempt {startedAt now : Instant} {s s' : ApplicationExecutionState}
    {a : OperationAttemptState} {t : Tables} (hs : SampleCreated startedAt s)
    (h : Claimed sampleContext s.stateDigest sampleOwner now
      { Tables.empty with execution := some s } s s' a t) :
    a.identity = sampleIdentity ∧ a.applicationId = sampleApplication ∧
      a.operationIdentity = operationIdentity sampleApplication 0 (createOperation "A") := by
  have hidentity : a.identity = sampleIdentity := h.made.identity
  have hnext : s.nextOperationIndex = 0 := by rw [hs.progress]; rfl
  have happ : a.applicationId = sampleApplication := by
    rw [a.valid.binding.1, hidentity]
    rfl
  have hindex : a.operationIndex = 0 := h.made.operationIndex.trans hnext
  have hoperation := h.made.operation
  rw [hnext] at hoperation
  obtain hoperation : createOperation "A" = a.operation := Option.some.inj hoperation
  exact ⟨hidentity, happ, by rw [a.valid.binding.2.1, happ, hindex, hoperation]⟩

theorem sample_settled {startedAt : Instant} {s s' : ApplicationExecutionState}
    {a : OperationAttemptState} {t : Tables} {now : Instant} (hs : SampleCreated startedAt s)
    (h : Claimed sampleContext s.stateDigest sampleOwner now
      { Tables.empty with execution := some s } s s' a t) (code : String) (later : Instant) :
    ∃ s'' b t', Settled sampleContext s'.stateDigest a.operationIdentity a.attemptDigest
        sampleOwner .outcomeUnknown code later t s' s'' a b t' ∧
      Orchestrated sampleOperations sampleApplication t (.settle code later) t' := by
  have hc := h.continued
  have howned : s'.identity = sampleContext.identity ∧
      s'.continuityAnchor = sampleContext.continuityAnchor :=
    ⟨hc.identity.trans hs.identity, hc.continuityAnchor.trans hs.anchor⟩
  have hoperation : sampleContext.expectedOperations[a.operationIndex]? = some a.operation := by
    rw [h.made.operationIndex]
    exact h.made.operation
  have hname : StateName.Settled .outcomeUnknown := .inr (.inr rfl)
  have hclaim := claimed_heldClaim h
  obtain ⟨t', s'', hsettle⟩ := settleOperation_ok hclaim howned ⟨h.made.identity, hoperation⟩
    h.made.authority hname code later
  obtain ⟨previous, attempt, b, hsettled⟩ := settleOperation_spec hsettle
  obtain rfl : s' = previous := Option.some.inj (hclaim.found.symm.trans hsettled.claim.found)
  obtain rfl : a = attempt := Option.some.inj (hclaim.row.symm.trans hsettled.claim.row)
  exact ⟨s'', b, t', hsettled, .settle sample_sealed hsettle⟩

/-- A run on the tables of one application is a run on the database. -/
theorem Orchestrated.reachable {db : Database} {t : Tables} {readings : Readings}
    (hdb : Reachable operations db)
    (h : Orchestrated operations applicationId (db applicationId) readings t) :
    ∃ db', Reachable operations db' ∧ db' applicationId = t :=
  ⟨_, hdb.tail (.commit h), Function.update_self ..⟩

theorem sample_reachable :
    ∃ db s, Reachable sampleOperations db ∧ (db sampleApplication).execution = some s ∧
      s.state = .applying := by
  obtain ⟨s, hcreated, hcreate⟩ := sample_created 0
  obtain ⟨s', a, t, hclaimed, hclaim⟩ := sample_claimed hcreated (by decide : (0 : Instant) ≤ 10)
  obtain ⟨db, hdb, hcreate⟩ := Orchestrated.reachable .refl hcreate
  rw [← hcreate] at hclaim
  obtain ⟨db', hdb', hclaim⟩ := hclaim.reachable hdb
  obtain ⟨_, -, rfl⟩ := hclaimed.inserted
  exact ⟨db', s', hdb', by rw [hclaim], by rw [hclaimed.continued.progress]⟩

end

/-- The run of the sample with a claimed operation, over the reference library. -/
theorem reachable_durable_execution_sample :
    ∃ (_ : PythonLibrary) (db : Database) (s : ApplicationExecutionState),
      s.state = .applying ∧ (db sampleApplication).execution = some s ∧
        DurableExecution sampleOperations sampleApplication (db sampleApplication) s := by
  let library := ReferenceLibrary.referenceLibrary
  obtain ⟨db, s, hdb, hs, hstate⟩ := sample_reachable
  exact ⟨library, db, s, hstate, hs,
    (reachable_durable_execution hdb sampleApplication).2 s hs⟩

end DeliverySystem.ExecutionInvariant

import DeliverySystem.ApplicationStatus
import DeliverySystem.ExecutionInvariant

/-!
# When the status reader accepts what the writer committed

The reader compares clock readings that the writer does not always compare:
a settlement never looks at the clock, and a receipt may be completed before it
was started. A run is timely when none of its steps does either. In a timely
run every committed state has its records in order and is accepted.
-/
namespace DeliverySystem.StatusAgreement
open PythonValues WriteOperations ApplicationIdentity ExecutionRecords ExecutionContexts
open KeyedRows ExecutionStore ExecutionTransactions ExecutionInvariant ApplicationStatus
set_option autoImplicit false

section
variable [PythonLibrary]

/-! ## Timely steps -/

/-- The readings under which a transaction keeps the reader's orderings. -/
def Timely (t : Tables) : Readings → Prop
  | .create startedAt updatedAt => t.execution = none → startedAt ≤ updatedAt
  | .claim _ => True
  | .complete startedAt completedAt _ =>
      startedAt ≤ completedAt ∧ ∀ s, t.execution = some s → s.startedAt ≤ startedAt
  | .settle code now => code ≠ "" ∧ ∀ s id a, t.execution = some s →
      s.currentAttemptId = some id → t.attempts.lookup id = some a → a.startedAt ≤ now
  | .finalize _ => True

inductive TimelyStep (operations : SealedOperations) (db : Database) : Database → Prop
  | commit {applicationId : String} {readings : Readings} {tables' : Tables}
      (timely : Timely (db applicationId) readings)
      (h : Orchestrated operations applicationId (db applicationId) readings tables') :
      TimelyStep operations db (Function.update db applicationId tables')

def TimelyReachable (operations : SealedOperations) : Database → Prop :=
  Relation.ReflTransGen (TimelyStep operations) emptyDatabase

variable {operations : SealedOperations} {applicationId workspace : String}

theorem TimelyReachable.reachable {db : Database} (h : TimelyReachable operations db) :
    Reachable operations db := by
  induction h with
  | refl => exact .refl
  | tail _ hstep ih =>
      obtain ⟨_, h⟩ := hstep
      exact ih.tail (.commit h)

/-! ## Records in order -/

/-- The clock readings of a stored state and of the records under it. -/
structure Timed (t : Tables) (s : ApplicationExecutionState) : Prop where
  state : s.startedAt ≤ s.updatedAt
  completed : ∀ c, s.completedAt = some c → s.updatedAt ≤ c
  code : ∀ c, s.recoveryCode = some c → c ≠ ""
  receipt : ∀ row ∈ t.operationReceipts.entries, s.startedAt ≤ row.2.startedAt ∧
    row.2.startedAt ≤ row.2.completedAt ∧ row.2.completedAt ≤ s.updatedAt
  attempt : ∀ row ∈ t.attempts.entries, s.startedAt ≤ row.2.startedAt ∧
    row.2.startedAt ≤ row.2.updatedAt ∧ row.2.updatedAt ≤ s.updatedAt
  claimed : s.state = .applying → ∀ id a, s.currentAttemptId = some id →
    t.attempts.lookup id = some a →
    (∀ row ∈ t.operationReceipts.entries, row.2.completedAt ≤ a.startedAt) ∧
      ∀ row ∈ t.attempts.entries, row.2.updatedAt ≤ a.startedAt

def AllTimed (t : Tables) : Prop := ∀ s, t.execution = some s → Timed t s

theorem created_timed {t t' : Tables} {state result : ApplicationExecutionState}
    (h : Created t state result t')
    (htimely : t.execution = none → state.startedAt ≤ state.updatedAt)
    (hinv : Invariant operations applicationId t) (ht : AllTimed t) : AllTimed t' := by
  rcases h.outcome with ⟨hnone, -, rfl⟩ | ⟨-, rfl, -⟩
  · obtain ⟨hpending, -, -, -, hcode, -, hcompleted⟩ := h.pending
    have hempty : t = .empty := by
      rw [Invariant, hnone] at hinv
      exact hinv
    subst hempty
    intro s hs
    obtain rfl : state.withDigest = s := Option.some.inj hs
    have hfields : state.withDigest.toExecutionProgress = state.toExecutionProgress := rfl
    exact
      { state := htimely hnone
        completed := by simp [hfields, hcompleted]
        code := by simp [hfields, hcode]
        receipt := by simp [Tables.empty]
        attempt := by simp [Tables.empty]
        claimed := by simp [hfields, hpending] }
  · exact ht

theorem claimed_timed {t t' : Tables} {context : ExecutionContext}
    {expectedDigest ownerId : String} {now : Instant} {s s' : ApplicationExecutionState}
    {a : OperationAttemptState} (h : Claimed context expectedDigest ownerId now t s s' a t')
    (hs : Coordinated (operations s.identity).length s) (ht : Timed t s) : Timed t' s' := by
  obtain ⟨attempts, hinsert, rfl⟩ := h.inserted
  have hc := h.continued
  have hstarted : s'.startedAt = s.startedAt := hc.startedAt
  have hupdated : s'.updatedAt = now := by rw [hc.progress]
  have hattempt : a.startedAt = now ∧ a.updatedAt = now := by
    rw [h.made.progress]
    exact ⟨h.made.startedAt, rfl⟩
  have hclock := h.clock
  have hcompleted : s.completedAt = none := by
    rw [← Option.not_isSome_iff_eq_none, hs.completed]
    rcases h.idle with hs | hs <;> rw [hs] <;> decide
  have hrecovery : s.recoveryCode = none := by
    rw [← Option.not_isSome_iff_eq_none, hs.recovery]
    rcases h.idle with hs | hs <;> rw [hs] <;> decide
  have hentries := (Rows.insert_eq_some hinsert).2
  refine
    { state := by rw [hstarted, hupdated]; exact hclock.1
      completed := by simp [hc.progress, hcompleted]
      code := by simp [hc.progress, hrecovery]
      receipt := ?_
      attempt := ?_
      claimed := ?_ }
  · intro row hrow
    have := ht.receipt row hrow
    rw [hstarted, hupdated]
    lia
  · intro row hrow
    rw [hentries, List.mem_append, List.mem_singleton] at hrow
    rw [hstarted, hupdated]
    rcases hrow with hrow | rfl
    · have := ht.attempt row hrow
      lia
    · lia
  · intro _ id b hid hlookup
    rw [hc.progress, Option.some.injEq] at hid
    rw [Rows.lookup_insert hinsert, if_pos hid.symm, Option.some.injEq] at hlookup
    subst hlookup
    constructor
    · intro row hrow
      have := ht.receipt row hrow
      lia
    · intro row hrow
      rw [hentries, List.mem_append, List.mem_singleton] at hrow
      rcases hrow with hrow | rfl
      · have := ht.attempt row hrow
        lia
      · lia

/-- A row of the claimed attempt is an attempt row like every other. -/
theorem Timed.attempt_of_lookup {t : Tables} {s : ApplicationExecutionState} (ht : Timed t s)
    {id : String} {a : OperationAttemptState} (h : t.attempts.lookup id = some a) :
    s.startedAt ≤ a.startedAt ∧ a.startedAt ≤ a.updatedAt ∧ a.updatedAt ≤ s.updatedAt :=
  ht.attempt (id, a) (Rows.lookup_eq_some_iff.mp h)

theorem completed_timed {t t' : Tables} {context : ExecutionContext}
    {stateDigest attemptId attemptDigest ownerId : String} {receipt : OperationReceipt}
    {now : Instant} {s s' : ApplicationExecutionState} {a b : OperationAttemptState}
    (h : Completed context stateDigest attemptId attemptDigest ownerId receipt now t s s' a b t')
    (htimely : receipt.startedAt ≤ receipt.completedAt ∧ s.startedAt ≤ receipt.startedAt)
    (hs : Coordinated (operations s.identity).length s) (ht : Timed t s) : Timed t' s' := by
  obtain ⟨operationReceipts, hinsert, rfl⟩ := h.inserted
  have hc := h.continued
  have hstarted : s'.startedAt = s.startedAt := hc.startedAt
  have hupdated : s'.updatedAt = now := by rw [hc.progress]
  have hattempt : b.startedAt = a.startedAt ∧ b.updatedAt = now := by
    rw [h.closed.progress]
    exact ⟨h.closed.startedAt, rfl⟩
  have hclock := h.clock
  have hreceipt := h.receiptClock
  have hrow := ht.attempt_of_lookup h.claim.row
  have hcompleted : s.completedAt = none := by
    rw [← Option.not_isSome_iff_eq_none, hs.completed, h.claim.applying]
    decide
  have hrecovery : s.recoveryCode = none := by
    rw [← Option.not_isSome_iff_eq_none, hs.recovery, h.claim.applying]
    decide
  refine
    { state := by rw [hstarted, hupdated]; exact hclock.1.1
      completed := by simp [hc.progress, hcompleted]
      code := by simp [hc.progress, hrecovery]
      receipt := ?_
      attempt := ?_
      claimed := by simp [hc.progress] }
  · intro row hmem
    rw [(Rows.insert_eq_some hinsert).2, List.mem_append, List.mem_singleton] at hmem
    rw [hstarted, hupdated]
    rcases hmem with hmem | rfl
    · have := ht.receipt row hmem
      lia
    · lia
  · intro row hmem
    rw [hstarted, hupdated]
    rcases Rows.mem_entries_update hmem with hmem | hmem
    · have := ht.attempt row hmem
      lia
    · rw [hmem]
      lia

theorem settled_timed {t t' : Tables} {context : ExecutionContext}
    {stateDigest attemptId attemptDigest ownerId : String} {stateName : StateName} {code : String}
    {now : Instant} {s s' : ApplicationExecutionState} {a b : OperationAttemptState}
    (h : Settled context stateDigest attemptId attemptDigest ownerId stateName code now t s s' a b
      t')
    (htimely : code ≠ "" ∧ a.startedAt ≤ now)
    (hs : Coordinated (operations s.identity).length s) (ht : Timed t s) : Timed t' s' := by
  rw [h.written]
  have hc := h.continued
  have hstarted : s'.startedAt = s.startedAt := hc.startedAt
  have hupdated : s'.updatedAt = now := by rw [hc.progress]
  have hattempt : b.startedAt = a.startedAt ∧ b.updatedAt = now := by
    rw [h.closed.progress]
    exact ⟨h.closed.startedAt, rfl⟩
  have hrow := ht.attempt_of_lookup h.claim.row
  -- nothing was recorded after the claim, so the clock may have stepped back to it
  obtain ⟨hreceipts, hattempts⟩ :=
    ht.claimed h.claim.applying attemptId a h.claim.currentAttempt h.claim.row
  have hcompleted : s.completedAt = none := by
    rw [← Option.not_isSome_iff_eq_none, hs.completed, h.claim.applying]
    decide
  have hname : stateName ≠ .applying := by
    rcases h.name with hs | hs | hs <;> rw [hs] <;> decide
  refine
    { state := by rw [hstarted, hupdated]; lia
      completed := by simp [hc.progress, hcompleted]
      code := by
        intro c hcode
        rw [hc.progress, Option.some.injEq] at hcode
        exact hcode ▸ htimely.1
      receipt := ?_
      attempt := ?_
      claimed := by simp [hc.progress, hname] }
  · intro row hmem
    have hlast := hreceipts row hmem
    have := ht.receipt row hmem
    rw [hstarted, hupdated]
    lia
  · intro row hmem
    rw [hstarted, hupdated]
    rcases Rows.mem_entries_update hmem with hmem | hmem
    · have hlast := hattempts row hmem
      have := ht.attempt row hmem
      lia
    · rw [hmem]
      lia

theorem finalized_timed {t t' : Tables} {context : ExecutionContext} {stateDigest : String}
    {now : Instant} {s s' : ApplicationExecutionState} {found : List OperationReceipt}
    {applicationReceipt : ApplicationReceipt}
    (h : Finalized applicationId context stateDigest now t s s' found applicationReceipt t')
    (hs : Coordinated (operations s.identity).length s) (ht : Timed t s) : Timed t' s' := by
  rw [h.written]
  have hc := h.continued
  have hstarted : s'.startedAt = s.startedAt := hc.startedAt
  have hupdated : s'.updatedAt = now := by rw [hc.progress]
  have hclock := h.clock
  have hrecovery : s.recoveryCode = none := by
    rw [← Option.not_isSome_iff_eq_none, hs.recovery, h.partly]
    decide
  refine
    { state := by rw [hstarted, hupdated]; exact hclock.1
      completed := by simp [hc.progress]
      code := by simp [hc.progress, hrecovery]
      receipt := ?_
      attempt := ?_
      claimed := by simp [hc.progress] }
  · intro row hmem
    have := ht.receipt row hmem
    rw [hstarted, hupdated]
    lia
  · intro row hmem
    have := ht.attempt row hmem
    rw [hstarted, hupdated]
    lia

theorem orchestrated_timed {t t' : Tables} {readings : Readings}
    (h : Orchestrated operations applicationId t readings t') (htimely : Timely t readings)
    (hinv : Invariant operations applicationId t) (ht : AllTimed t) : AllTimed t' := by
  cases h with
  | @create _ _ context values startedAt _ state _ _ minted _ h =>
      refine created_timed (createExecutionIfAbsent_spec h) ?_ hinv ht
      have hfields : state.startedAt = startedAt ∧ state.updatedAt = values.updatedAt := by
        simp only [ExecutionContext.newExecutionState, bind_eq_ok] at minted
        obtain ⟨_, -, hmake⟩ := minted
        rw [make_execution_eq_ok hmake]
        exact ⟨rfl, rfl⟩
      rw [hfields.1, hfields.2]
      exact htimely
  | claim _ h =>
      obtain ⟨previous, hclaimed⟩ := claimNextOperation_spec h
      obtain ⟨_, _, _, hp⟩ := hinv.progress hclaimed.found
      have htimed := claimed_timed hclaimed hp.coordinated (ht previous hclaimed.found)
      obtain ⟨_, -, rfl⟩ := hclaimed.inserted
      intro s hs
      exact Option.some.inj hs ▸ htimed
  | complete _ h =>
      obtain ⟨previous, a, b, hcompleted⟩ := completeOperationSuccess_spec h
      have hfound := hcompleted.claim.found
      obtain ⟨_, _, _, hp⟩ := hinv.progress hfound
      have htimed := completed_timed hcompleted ⟨htimely.1, htimely.2 previous hfound⟩
        hp.coordinated (ht previous hfound)
      obtain ⟨_, -, rfl⟩ := hcompleted.inserted
      intro s hs
      exact Option.some.inj hs ▸ htimed
  | settle _ h =>
      obtain ⟨previous, a, b, hsettled⟩ := settleOperation_spec h
      have hfound := hsettled.claim.found
      obtain ⟨_, _, _, hp⟩ := hinv.progress hfound
      have hclaim := htimely.2 previous _ a hfound hsettled.claim.currentAttempt hsettled.claim.row
      have htimed := settled_timed hsettled ⟨htimely.1, hclaim⟩ hp.coordinated
        (ht previous hfound)
      rw [hsettled.written] at htimed ⊢
      intro s hs
      exact Option.some.inj hs ▸ htimed
  | finalize _ h =>
      obtain ⟨previous, found, applicationReceipt, hfinalized⟩ := finalizeApplication_spec h
      obtain ⟨_, _, _, hp⟩ := hinv.progress hfinalized.found
      have htimed := finalized_timed hfinalized hp.coordinated (ht previous hfinalized.found)
      rw [hfinalized.written] at htimed ⊢
      intro s hs
      exact Option.some.inj hs ▸ htimed

theorem TimelyStep.timed {db db' : Database} (h : TimelyStep operations db db')
    (hinv : ∀ applicationId, Invariant operations applicationId (db applicationId))
    (ht : ∀ applicationId, AllTimed (db applicationId)) :
    ∀ applicationId, AllTimed (db' applicationId) := by
  intro applicationId
  obtain @⟨changed, _, tables', htimely, h⟩ := h
  by_cases heq : applicationId = changed
  · subst heq
    rw [Function.update_self]
    exact orchestrated_timed h htimely (hinv _) (ht _)
  · rw [Function.update_of_ne heq]
    exact ht _

theorem timelyReachable_timed {db : Database} (h : TimelyReachable operations db) :
    ∀ applicationId, AllTimed (db applicationId) := by
  induction h with
  | refl =>
      intro applicationId s hs
      cases hs
  | tail hrun hstep ih => exact hstep.timed (reachable_invariant (TimelyReachable.reachable hrun)) ih

/-! ## Acceptance -/

/-- No two operations of an application have one identity. -/
def DistinctIdentities (applicationId : String) (operations : List WriteOperation) : Prop :=
  ∀ i j operation operation', operations[i]? = some operation →
    operations[j]? = some operation' →
    operationIdentity applicationId i operation = operationIdentity applicationId j operation' →
    i = j

/-- The status reader accepts the tables, and their records are in order. -/
structure Accepted (workspace applicationId : String) (operations : List WriteOperation)
    (t : Tables) (s : ApplicationExecutionState) : Prop where
  state : validateExecutionStateInvariants s operations = .ok ()
  operationReceipts : ∃ receipts, projectOperationReceipts workspace applicationId s operations
    (fun _ => t) = .ok receipts
  attempts : ∃ attempts, projectAttempts workspace applicationId s operations (fun _ => t) =
    .ok attempts
  started : s.startedAt ≤ s.updatedAt
  attemptClock : ∀ row ∈ t.attempts.entries, s.startedAt ≤ row.2.startedAt
  receiptClock : ∀ row ∈ t.operationReceipts.entries,
    row.2.startedAt ≤ row.2.completedAt ∧ row.2.completedAt ≤ s.updatedAt

variable {t : Tables} {s : ApplicationExecutionState} {receipts : List OperationReceipt}
  {closed : List OperationAttemptState} {opened : Option OperationAttemptState}

theorem currentAttempt_ne_empty
    (h : Progress operations applicationId t s receipts closed opened)
    (hs : s.state.Attempting) : s.currentAttemptId.getD "" ≠ "" := by
  cases h.openAttempt with
  | absent hnot => exact absurd hs hnot
  | @present a _ _ _ hcurrent =>
      rw [hcurrent, Option.getD_some, a.valid.binding.2.1]
      exact operationIdentity_ne_empty _ _ _

/-- The coordination fields of a stored state have the shape of its name. -/
theorem progress_stateShape (h : Progress operations applicationId t s receipts closed opened)
    (ht : Timed t s) : stateShape (operations s.identity).length s = true := by
  have hc := h.coordinated
  have hcurrentNone : ¬s.state.Attempting → s.currentAttemptId = none := h.durable.noAttempt
  have howner : s.state ≠ .applying → s.ownerId = none := fun hne => by
    rw [← Option.not_isSome_iff_eq_none, hc.owner]
    exact hne
  have hrecovery : ¬s.state.Settled → s.recoveryCode = none := fun hne => by
    rw [← Option.not_isSome_iff_eq_none, hc.recovery]
    exact hne
  have hcompleted : s.state ≠ .applied → s.completedAt = none := fun hne => by
    rw [← Option.not_isSome_iff_eq_none, hc.completed]
    exact hne
  have hcode : s.state.Settled → s.recoveryCode.getD "" ≠ "" := fun hsettled => by
    obtain ⟨code, hcode⟩ := Option.isSome_iff_exists.mp (hc.recovery.mpr hsettled)
    rw [hcode]
    exact ht.code code hcode
  have hcurrent := currentAttempt_ne_empty h
  have hbound := hc.attempting
  cases hstate : s.state with
  | pending =>
      rw [hstate] at hcurrentNone howner hrecovery hcompleted
      simp [stateShape, hstate, hc.pending hstate, howner, hcurrentNone (by decide),
        hrecovery (by decide), hcompleted]
  | applying =>
      rw [hstate] at hrecovery hcompleted hcurrent hbound
      obtain ⟨owner, howner⟩ := Option.isSome_iff_exists.mp (hc.owner.mpr hstate)
      have htoken : owner ≠ "" := by
        rintro rfl
        exact absurd (hc.token "" howner) (by decide)
      simp [stateShape, hstate, hbound (.inl rfl), howner, htoken, hcurrent (.inl rfl),
        hrecovery (by decide), hcompleted]
  | partiallyApplied =>
      rw [hstate] at hcurrentNone howner hrecovery hcompleted
      simp [stateShape, hstate, hc.partly hstate, howner, hcurrentNone (by decide),
        hrecovery (by decide), hcompleted]
  | failed | blocked | outcomeUnknown =>
      rw [hstate] at howner hcode hcompleted hcurrent hbound
      simp [stateShape, hstate, hbound (by decide), howner, hcurrent (by decide),
        hcode (by decide), hcompleted]
  | applied =>
      rw [hstate] at hcurrentNone howner hrecovery
      have hsome := hc.completed.mpr hstate
      simp [stateShape, hstate, hc.applied hstate, howner, hcurrentNone (by decide),
        hrecovery (by decide), Option.isSome_iff_ne_none.mp hsome]

theorem validate_progress (h : Progress operations applicationId t s receipts closed opened)
    (ht : Timed t s) :
    validateExecutionStateInvariants s (operations s.identity) = .ok () := by
  have hbound := h.coordinated.bound
  have hrefs := h.durable.refCount
  simp only [validateExecutionStateInvariants, bind_eq_ok, raiseIf_eq_ok]
  refine ⟨(), not_lt.mpr ht.state, (), ?_, (), ?_, ?_⟩
  · cases hcompleted : s.completedAt with
    | none => simp
    | some c => simpa using ht.completed c hcompleted
  · push Not
    exact ⟨hbound, hrefs⟩
  · rw [progress_stateShape h ht]
    decide

/-- Every attempt row fits the state at its own index. -/
theorem attempt_fits (h : Progress operations applicationId t s receipts closed opened)
    (ht : Timed t s) {a : OperationAttemptState} (ha : a ∈ closed ++ opened.toList) :
    AttemptFits applicationId s a.operation a.operationIndex a := by
  have hrow := h.attemptRow a ha
  have hid := hrow.operationIdentity_eq hrow.operation
  rw [h.named] at hid
  have happ : a.applicationId = applicationId := by
    rw [a.valid.binding.1, hrow.identity, ← s.valid.application, h.named]
  have hauthority := hrow.authority
  rw [h.named] at hauthority
  have hdriver : a.authorityBinding.driverIdentity = s.identity.values.driverIdentity ∧
      a.authorityBinding.remoteAuthority = s.identity.values.remoteAuthority := by
    simp only [authorityBindingMatchesExecution, Bool.and_eq_true, decide_eq_true_eq] at hauthority
    exact ⟨hauthority.1.1.2, hauthority.1.2⟩
  have hentry : (a.operationIdentity, a) ∈ t.attempts.entries := by
    rw [h.attemptEntries, attemptRows]
    exact List.mem_map_of_mem ha
  have hclock := ht.attempt _ hentry
  have hindex : a.operationIndex < s.nextOperationIndex ∧ a.state = .applied ∧
      a.failureCode = none ∨ s.state.Attempting ∧ a.operationIndex = s.nextOperationIndex ∧
      a.state = s.state ∧ s.currentAttemptId = some a.operationIdentity ∧
      a.failureCode = s.recoveryCode := by
    rcases List.mem_append.mp ha with hclosed | hopened
    · have happlied := h.closedApplied a hclosed
      exact .inl ⟨index_lt_of_mem h.closedIndices hclosed, happlied⟩
    · rw [Option.mem_toList] at hopened
      have hopen := h.openAttempt
      rw [hopened] at hopen
      cases hopen with
      | present hs hstate hindex hcurrent hfailure =>
          exact .inr ⟨hs, hindex, hstate, hcurrent, hfailure⟩
  refine
    { bound := by lia
      identity := ⟨happ, hrow.identity⟩
      canonical := ⟨hid, rfl⟩
      request := hid ▸ a.valid.binding.2.2
      driver := by rw [a.valid.driver.1, a.valid.driver.2]; exact hdriver
      authority := hauthority
      begun := ?_
      state := ?_
      position := rfl
      current := ?_
      clock := ⟨hclock.2.1, hclock.1, hclock.2.2⟩
      failure := ?_ }
  · intro hpending
    rcases hindex with hbefore | hopen
    · have hzero := h.coordinated.pending hpending
      lia
    · exact absurd (hpending ▸ hopen.1) (by decide)
  · rcases hindex with hbefore | hopen
    · rw [if_pos hbefore.1, hbefore.2.1]
    · rw [if_neg (by lia), hopen.2.2.1]
  · intro hnext _
    rcases hindex with hbefore | hopen
    · lia
    · rw [← hid]
      exact hopen.2.2.2.1
  · rcases hindex with hbefore | hopen
    · rw [if_neg (by rw [hbefore.2.1]; decide), hbefore.2.2]
    · rw [hopen.2.2.1, hopen.2.2.2.2]
      split_ifs with hsettled
      · obtain ⟨code, hcode⟩ :=
          Option.isSome_iff_exists.mp (h.coordinated.recovery.mpr hsettled)
        rw [hcode]
        exact ht.code code hcode
      · rw [← Option.not_isSome_iff_eq_none, h.coordinated.recovery]
        exact hsettled

theorem receipt_fits (h : Progress operations applicationId t s receipts closed opened)
    (ht : Timed t s) {r : OperationReceipt} (hr : r ∈ receipts)
    (href : s.operationReceiptRefs[r.operationIndex]? = some r.operationReceiptId) :
    ReceiptFits applicationId s r.canonicalOperation r.operationIndex r := by
  have hrow := h.receiptRow r hr
  have hid := hrow.operationIdentity_eq hrow.operation
  rw [h.named] at hid
  have hentry : (r.operationIdentity, r) ∈ t.operationReceipts.entries := by
    rw [h.receiptEntries, receiptRows]
    exact List.mem_map_of_mem hr
  have hclock := ht.receipt _ hentry
  exact
    { identity := ⟨by rw [r.valid.binding.1, hrow.identity, ← s.valid.application, h.named],
        hrow.identity⟩
      canonical := ⟨hid, rfl⟩
      position := rfl
      ref := href
      request := hid ▸ r.valid.request
      authority := h.named ▸ hrow.authority
      clock := ⟨hclock.2.1, hclock.1, hclock.2.2⟩ }

theorem projectAttempts_progress
    (h : Progress operations applicationId t s receipts closed opened) (ht : Timed t s)
    (hdistinct : DistinctIdentities applicationId (operations s.identity))
    (hworkspace : s.identity.values.workspaceIdentity = workspace) :
    ∃ attempts, projectAttempts workspace applicationId s (operations s.identity) (fun _ => t) =
      .ok attempts := by
  have hdurable := h.durable
  have hrows : ∀ entry ∈ (operations s.identity).zipIdx, ∃ x,
      projectAttempt workspace applicationId s (fun _ => t) entry = .ok x := by
    rintro ⟨operation, index⟩ hentry
    have hop : (operations s.identity)[index]? = some operation :=
      List.mem_zipIdx_iff_getElem?.mp hentry
    simp only [projectAttempt_eq_ok]
    cases hlookup : t.attempts.lookup (operationIdentity applicationId index operation) with
    | none =>
        refine ⟨none, .inl ⟨rfl, ?_, rfl⟩⟩
        rintro (hbefore | ⟨hnext, hs⟩)
        · obtain ⟨a, ha, -⟩ := hdurable.attempt index operation hbefore hop
          rw [hlookup] at ha
          cases ha
        · obtain ⟨operation', a, hop', ha, -⟩ := hdurable.lastAttempt hs
          rw [← hnext, hop, Option.some.injEq] at hop'
          rw [← hnext, ← hop', hlookup] at ha
          cases ha
    | some a =>
        obtain ⟨hmem, hid⟩ := h.attempt_of_lookup hlookup
        have hrow := h.attemptRow a hmem
        have hfits := attempt_fits h ht hmem
        have hindex : a.operationIndex = index :=
          hdistinct _ _ _ _ hrow.operation hop (hfits.canonical.1.symm.trans hid)
        have hoperation : a.operation = operation := by
          have hrowOperation := hrow.operation
          rw [hindex, hop, Option.some.injEq] at hrowOperation
          exact hrowOperation.symm
        rw [hindex, hoperation] at hfits
        refine ⟨some (.ofAttempt a), .inr ⟨a, ?_, hfits, rfl⟩⟩
        exact getAttempt_eq_ok.mpr ⟨hlookup, hfits.identity.1, hid,
          by rw [hrow.identity, hworkspace], hrow.intact⟩
  obtain ⟨xs, hxs⟩ := exists_mapM_eq_ok hrows
  simp only [projectAttempts, bind_eq_ok, raiseIf_eq_ok, pure_eq_ok]
  refine ⟨xs.reduceOption, (), ?_, (), ?_, (), ?_, xs, hxs, rfl⟩
  · push Not
    exact ⟨h.coordinated.bound, hdurable.refCount⟩
  · rintro ⟨hs, hle⟩
    have hlt := h.coordinated.attempting hs
    lia
  · rintro ⟨hs, hne⟩
    exact hne (hdurable.noAttempt hs)

theorem projectOperationReceipts_progress
    (h : Progress operations applicationId t s receipts closed opened) (ht : Timed t s)
    (hdistinct : DistinctIdentities applicationId (operations s.identity))
    (hworkspace : s.identity.values.workspaceIdentity = workspace) :
    ∃ projections, projectOperationReceipts workspace applicationId s (operations s.identity)
      (fun _ => t) = .ok projections := by
  have hbound := h.coordinated.bound
  have hrows : ∀ index ∈ List.range s.nextOperationIndex, ∃ p,
      projectOperationReceipt workspace applicationId s (operations s.identity) (fun _ => t) index =
        .ok p := by
    intro index hindex
    rw [List.mem_range] at hindex
    have hop : (operations s.identity)[index]? = some ((operations s.identity)[index]) :=
      List.getElem?_eq_getElem (by lia)
    obtain ⟨r, hlookup, hposition, href, -⟩ := h.durable.receiptRef index _ hindex hop
    obtain ⟨hmem, hid⟩ := h.receipt_of_lookup hlookup
    have hrow := h.receiptRow r hmem
    have hfits := receipt_fits h ht hmem (hposition ▸ href)
    have hoperation : r.canonicalOperation = (operations s.identity)[index] := by
      have hrowOperation := hrow.operation
      rw [hposition, hop, Option.some.injEq] at hrowOperation
      exact hrowOperation.symm
    rw [hposition, hoperation] at hfits
    refine ⟨.ofReceipt r, projectOperationReceipt_eq_ok.mpr ⟨_, r, hop, ?_, hfits, rfl⟩⟩
    exact getOperationReceipt_eq_ok.mpr ⟨hlookup, hfits.identity.1, hid,
      by rw [hrow.identity, hworkspace], hrow.intact⟩
  obtain ⟨projections, hprojections⟩ := exists_mapM_eq_ok hrows
  simp only [projectOperationReceipts, bind_eq_ok, pure_eq_ok]
  refine ⟨projections, projections, hprojections, (), ?_, rfl⟩
  rw [forM_eq_ok]
  intro index hindex
  rw [List.mem_range'_1] at hindex
  have hop : (operations s.identity)[index]? = some ((operations s.identity)[index]) :=
    List.getElem?_eq_getElem (by lia)
  refine requireNoReceipt_eq_ok.mpr ⟨_, hop, ?_⟩
  rw [Option.eq_none_iff_forall_ne_some]
  intro r hlookup
  obtain ⟨hmem, hid⟩ := h.receipt_of_lookup hlookup
  have hrow := h.receiptRow r hmem
  have hrowId := hrow.operationIdentity_eq hrow.operation
  rw [h.named] at hrowId
  have hposition := hdistinct _ _ _ _ hrow.operation hop (hrowId.symm.trans hid)
  have hlt := index_lt_of_mem h.receiptIndices hmem
  lia

theorem accepted_of_progress (h : Progress operations applicationId t s receipts closed opened)
    (ht : Timed t s) (hdistinct : DistinctIdentities applicationId (operations s.identity))
    (hworkspace : s.identity.values.workspaceIdentity = workspace) :
    Accepted workspace applicationId (operations s.identity) t s where
  state := validate_progress h ht
  operationReceipts := projectOperationReceipts_progress h ht hdistinct hworkspace
  attempts := projectAttempts_progress h ht hdistinct hworkspace
  started := ht.state
  attemptClock := fun row hrow => (ht.attempt row hrow).1
  receiptClock := fun row hrow => (ht.receipt row hrow).2

/-- In a timely run the status reader accepts every committed state. -/
theorem timelyReachable_accepted {db : Database} (h : TimelyReachable operations db)
    (hs : (db applicationId).execution = some s)
    (hworkspace : s.identity.values.workspaceIdentity = workspace)
    (hdistinct : DistinctIdentities applicationId (operations s.identity)) :
    Accepted workspace applicationId (operations s.identity) (db applicationId) s := by
  have hinv := reachable_invariant h.reachable applicationId
  obtain ⟨receipts, closed, opened, hp⟩ := hinv.progress hs
  exact accepted_of_progress hp (timelyReachable_timed h applicationId s hs) hdistinct hworkspace

/-- What a request for an application that is not applied yet returns. -/
theorem getStatus_progress (h : Progress operations applicationId t s receipts closed opened)
    (ht : Timed t s) (hdistinct : DistinctIdentities applicationId (operations s.identity))
    (hworkspace : s.identity.values.workspaceIdentity = workspace)
    (htext : applicationIdText applicationId = true) (hs : t.execution = some s)
    (happlied : s.state ≠ .applied) {loadPreviewOperations : PreviewOperations}
    (hpreview : loadPreviewOperations s.identity = .ok (operations s.identity)) :
    ∃ status, getStatus workspace loadPreviewOperations applicationId (fun _ => t) =
      .ok status := by
  have haccepted := accepted_of_progress h ht hdistinct hworkspace
  obtain ⟨projections, hprojections⟩ := haccepted.operationReceipts
  obtain ⟨attempts, hattempts⟩ := haccepted.attempts
  have hload : loadExecutionState workspace applicationId t = .ok s :=
    loadExecutionState_eq_ok.mpr ⟨hs, h.named, hworkspace, h.intact⟩
  have hexecution : getExecution workspace applicationId (fun _ => t)
      (some (operations s.identity)) = .ok s := by
    simp only [getExecution, bind_eq_ok]
    exact ⟨s, hload, by simp [happlied]⟩
  have hidentity : s.identity.applicationId = applicationId := by
    rw [← s.valid.application, h.named]
  have hnone : t.applicationReceipt = none := by
    rw [← Option.not_isSome_iff_eq_none, h.receipt]
    exact happlied
  have hreceipt : loadApplicationReceipt workspace applicationId (fun _ => t) = .ok none :=
    loadApplicationReceipt_eq_ok.mpr (.inl ⟨hnone, rfl⟩)
  have hclosure : projectClosure none s = .ok none := by
    simp [projectClosure, happlied, raiseIf, bind, Except.bind, pure, Except.pure]
  simp only [getStatus, bind_eq_ok, recode_eq_ok, raiseIf_eq_ok, pure_eq_ok]
  exact ⟨_, (), by simp [htext], s, hload, (), not_not.mpr hidentity, _, hpreview, s, hexecution,
    (), by simp [h.named], (), haccepted.state, none, hreceipt, projections, hprojections,
    attempts, hattempts, none, hclosure, rfl⟩

/-- In a timely run every open application can be asked for its status. -/
theorem timelyReachable_getStatus {db : Database} (h : TimelyReachable operations db)
    (hs : (db applicationId).execution = some s)
    (hworkspace : s.identity.values.workspaceIdentity = workspace)
    (hdistinct : DistinctIdentities applicationId (operations s.identity))
    (htext : applicationIdText applicationId = true) (happlied : s.state ≠ .applied)
    {loadPreviewOperations : PreviewOperations}
    (hpreview : loadPreviewOperations s.identity = .ok (operations s.identity)) :
    ∃ status, getStatus workspace loadPreviewOperations applicationId
      (fun _ => db applicationId) = .ok status := by
  have hinv := reachable_invariant h.reachable applicationId
  obtain ⟨receipts, closed, opened, hp⟩ := hinv.progress hs
  exact getStatus_progress hp (timelyReachable_timed h applicationId s hs) hdistinct hworkspace
    htext hs happlied hpreview

/-! ## The small application -/

theorem sample_distinct : DistinctIdentities applicationId (sampleOperations sampleIdentity) := by
  intro i j operation operation' hi hj _
  have hi' := (List.getElem?_eq_some_iff.mp hi).1
  have hj' := (List.getElem?_eq_some_iff.mp hj).1
  have hlength : (sampleOperations sampleIdentity).length = 1 := rfl
  lia

theorem orchestrated_timelyReachable {db : Database} {t : Tables} {readings : Readings}
    (hdb : TimelyReachable operations db) (htimely : Timely (db applicationId) readings)
    (h : Orchestrated operations applicationId (db applicationId) readings t) :
    ∃ db', TimelyReachable operations db' ∧ db' applicationId = t :=
  ⟨_, hdb.tail (.commit htimely h), Function.update_self ..⟩

/-- Created at 0, claimed at 10, and settled with a clock that still reads 10. -/
theorem sample_timelyReachable :
    ∃ db s, TimelyReachable sampleOperations db ∧ (db sampleApplication).execution = some s ∧
      s.identity = sampleIdentity ∧ s.state = .outcomeUnknown ∧ s.updatedAt = 10 := by
  obtain ⟨s, hs, hcreate⟩ := sample_created 0
  obtain ⟨s', a, t, hclaimed, hclaim⟩ := sample_claimed hs (by decide : (0 : Instant) ≤ 10)
  obtain ⟨s'', b, t', hsettled, hsettle⟩ :=
    sample_settled hs hclaimed "github_write_transport_ambiguous" 10
  have hstart : Timely (emptyDatabase sampleApplication) (.create 0 0) := fun _ => le_refl _
  obtain ⟨db, hdb, hcreate⟩ := orchestrated_timelyReachable .refl hstart hcreate
  rw [← hcreate] at hclaim
  have hnext : Timely (db sampleApplication) (.claim 10) := trivial
  obtain ⟨db', hdb', hclaim⟩ := orchestrated_timelyReachable hdb hnext hclaim
  rw [← hclaim] at hsettle
  have htimely : Timely (db' sampleApplication)
      (.settle "github_write_transport_ambiguous" 10) := by
    refine ⟨by decide, fun previous id attempt hfound hid hrow => ?_⟩
    have hheld := claimed_heldClaim hclaimed
    rw [hclaim, hheld.found, Option.some.injEq] at hfound
    rw [← hfound, hheld.currentAttempt, Option.some.injEq] at hid
    rw [hclaim, ← hid, hheld.row, Option.some.injEq] at hrow
    rw [← hrow]
    exact hclaimed.made.startedAt.le
  obtain ⟨db'', hdb'', hsettle⟩ := orchestrated_timelyReachable hdb' htimely hsettle
  have hidentity : s''.identity = sampleIdentity := by
    rw [hsettled.continued.identity, hclaimed.continued.identity, hs.identity]
    rfl
  exact ⟨db'', s'', hdb'', by rw [hsettle, hsettled.written], hidentity,
    by rw [hsettled.continued.progress], by rw [hsettled.continued.progress]⟩

end

/-- The settled sample application is accepted, over the reference library. -/
theorem timelyReachable_accepted_sample :
    ∃ (_ : PythonLibrary) (db : Database) (s : ApplicationExecutionState),
      (db sampleApplication).execution = some s ∧ s.state = .outcomeUnknown ∧
        Accepted "workspace-1" sampleApplication (sampleOperations s.identity)
          (db sampleApplication) s := by
  let library := ReferenceLibrary.referenceLibrary
  obtain ⟨db, s, hdb, hs, hidentity, hstate, -⟩ := sample_timelyReachable
  have hworkspace : s.identity.values.workspaceIdentity = "workspace-1" := by
    rw [hidentity]
    rfl
  exact ⟨library, db, s, hs, hstate,
    timelyReachable_accepted hdb hs hworkspace (hidentity ▸ sample_distinct)⟩

/-- Created at 0, claimed at 10, and settled with a clock that has stepped back
to 5: the reader then reports the application as corrupt. -/
theorem settled_before_claim_rejected :
    ∃ (_ : PythonLibrary) (db : Database) (s : ApplicationExecutionState),
      Reachable sampleOperations db ∧ (db sampleApplication).execution = some s ∧
        s.identity.values.workspaceIdentity = "workspace-1" ∧
        DistinctIdentities sampleApplication (sampleOperations s.identity) ∧ s.updatedAt = 5 ∧
        ∃ code ∈ attemptIntegrityCodes,
          projectAttempts "workspace-1" sampleApplication s (sampleOperations s.identity)
            (fun _ => db sampleApplication) = .error (.valueError code) := by
  let library := ReferenceLibrary.referenceLibrary
  obtain ⟨s, hs, hcreate⟩ := sample_created 0
  obtain ⟨s', a, t, hclaimed, hclaim⟩ := sample_claimed hs (by decide : (0 : Instant) ≤ 10)
  obtain ⟨s'', b, t', hsettled, hsettle⟩ :=
    sample_settled hs hclaimed "github_write_transport_ambiguous" 5
  obtain ⟨db, hdb, hcreate⟩ := Orchestrated.reachable .refl hcreate
  rw [← hcreate] at hclaim
  obtain ⟨db', hdb', hclaim⟩ := hclaim.reachable hdb
  rw [← hclaim] at hsettle
  obtain ⟨db'', hdb'', hsettle⟩ := hsettle.reachable hdb'
  have hfound : (db'' sampleApplication).execution = some s'' := by rw [hsettle, hsettled.written]
  have hidentity : s''.identity = sampleIdentity := by
    rw [hsettled.continued.identity, hclaimed.continued.identity, hs.identity]
    rfl
  have hoperations : sampleOperations s''.identity = [createOperation "A"] := rfl
  have hworkspace : s''.identity.values.workspaceIdentity = "workspace-1" := by
    rw [hidentity]
    rfl
  refine ⟨library, db'', s'', hdb'', hfound, hworkspace, hidentity ▸ sample_distinct,
    by rw [hsettled.continued.progress], ?_⟩
  obtain ⟨receipts, closed, opened, hp⟩ :=
    (reachable_invariant hdb'' sampleApplication).progress hfound
  have hstate : s''.state = .outcomeUnknown := by rw [hsettled.continued.progress]
  have hnext : s''.nextOperationIndex = 0 := by
    have hbound := hp.coordinated.attempting (by rw [hstate]; decide)
    rw [hoperations, List.length_singleton] at hbound
    lia
  have hattempting : s''.state.Attempting := by
    rw [hstate]
    decide
  obtain ⟨operation, c, hop, hlookup, hindex, -, -⟩ := hp.durable.lastAttempt hattempting
  obtain ⟨hmem, hid⟩ := hp.attempt_of_lookup hlookup
  have hrow := hp.attemptRow c hmem
  rw [hoperations, hnext] at hop
  obtain rfl : createOperation "A" = operation := Option.some.inj hop
  rw [hnext] at hlookup hid
  have hget : getAttempt "workspace-1" sampleApplication
      (operationIdentity sampleApplication 0 (createOperation "A")) (db'' sampleApplication) =
        .ok c := by
    refine getAttempt_eq_ok.mpr ⟨hlookup, ?_, hid, by rw [hrow.identity, hworkspace], hrow.intact⟩
    rw [c.valid.binding.1, hrow.identity, ← s''.valid.application, hp.named]
  -- the stored row is the settled attempt, started at 10 and updated at 5
  have hclock : c.startedAt = 10 ∧ c.updatedAt = 5 := by
    have hb : (db'' sampleApplication).attempts.lookup a.operationIdentity = some b := by
      rw [hsettle, hsettled.written]
      exact Rows.lookup_update_self b hsettled.claim.row
    rw [(sample_attempt hs hclaimed).2.2, hlookup, Option.some.injEq] at hb
    rw [hb, hsettled.closed.startedAt, hsettled.closed.progress, hclaimed.made.startedAt]
    exact ⟨rfl, rfl⟩
  have hunfit : ¬AttemptFits sampleApplication s'' (createOperation "A") 0 c := by
    intro hfits
    have := hfits.clock.1
    rw [hclock.1, hclock.2] at this
    exact absurd this (by decide)
  obtain ⟨code, hcode, hraise⟩ := checkAttempt_raises hunfit
  refine ⟨code, hcode, ?_⟩
  have hrefs : s''.operationReceiptRefs.length = 0 := hp.durable.refCount.trans hnext
  simp [projectAttempts, hoperations, raiseIf, hnext, hrefs, hattempting, bind, Except.bind,
    projectAttempt, hget, recode, hraise, Functor.map, Except.map]

end DeliverySystem.StatusAgreement

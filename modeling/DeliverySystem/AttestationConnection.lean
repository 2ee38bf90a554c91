import DeliverySystem.AttestationTables
import DeliverySystem.FaultyConnections
import Mathlib.Data.List.Infix

/-!
# The connection of the attestation store

The four methods of the store and its close, statement by statement, over a
connection whose every statement may raise. The store keeps track of the
connection in five named states. Whatever fails, a call ends with the store open
and no transaction, or closed; what it returned it has committed, and what it
raised has left the database alone unless it says that the commit may have
happened.
-/
namespace DeliverySystem.AttestationConnection
open PythonValues CanonicalValues JsonText AuthorityBindings AttestationClaims
open AttestationArtifacts AttestationRecords SequencedLogs AttestationStoreContract
open ConstrainedRows AttestationTables FallibleRuns FaultyConnections
set_option autoImplicit false

/-! ## Errors of the driver -/

inductive SqliteKind where
  | operationalError | integrityError | programmingError | other
deriving DecidableEq

/-- A `sqlite3.Error`, with its text in lower case. -/
structure SqliteError where
  kind : SqliteKind
  message : String
deriving DecidableEq

/-- `text in str(exc).lower()` -/
def SqliteError.mentions (e : SqliteError) (text : String) : Bool :=
  text.toList <:+: e.message.toList

def SqliteError.busy (e : SqliteError) : Bool := e.mentions "busy" || e.mentions "locked"

def sqliteBusy : String := "attestation_persistence_sqlite_busy"

def sqliteOperational : String := "attestation_persistence_sqlite_operational"

def storeUnavailable : String := "attestation_persistence_store_unavailable"

def rollbackFailed : String := "attestation_persistence_rollback_failed"

def closeFailed : String := "attestation_persistence_close_failed"

def outcomeUnknown : String := "attestation_persistence_commit_outcome_unknown"

/-- `_sqlite_error_code` -/
def sqliteErrorCode (e : SqliteError) : String :=
  if e.kind = .operationalError ∧ e.busy = true then sqliteBusy else sqliteOperational

/-- `_is_connection_fatal` -/
def isConnectionFatal (e : SqliteError) : Bool :=
  e.kind = .programmingError || e.mentions "closed"

instance : DriverErrors SqliteError where
  closed := ⟨.programmingError, "cannot operate on a closed database."⟩
  nested := ⟨.operationalError, "cannot start a transaction within a transaction"⟩

abbrev Thrown := Failure SqliteError StoreRaised

/-- A row that violates a constraint is an error of the driver. -/
def thrown : StoreRaised → Thrown
  | .integrityError => .driver ⟨.integrityError, "constraint failed"⟩
  | e => .own e

def ofStore {α : Type} (x : StorePy α) : Except Thrown α := x.mapError thrown

/-! ## The store and its connection -/

inductive ConnectionState where
  | isOpen | transactionActive | commitOutcomeUnknown | quarantined | closed
deriving DecidableEq

structure SQLiteAttestationPersistenceStore where
  session : Session Database SqliteError
  state : ConnectionState

abbrev Locked (α : Type) := Run SQLiteAttestationPersistenceStore Thrown α

abbrev Statements (α : Type) := Run (Session Database SqliteError) Thrown α

section
variable {α : Type}

def onConnection (x : Statements α) : Locked α :=
  x.inside SQLiteAttestationPersistenceStore.session fun session s => { s with session }

def setState (state : ConnectionState) : Locked Unit := modify fun s => { s with state }

/-- `_store_error(code)` -/
def storeFailure (code : String) : Locked α := throw (.own (.store code))

/-- A step that needs no connection. -/
def pureStep {σ : Type} (x : StorePy α) : Run σ Thrown α := Run.ofExcept (ofStore x)

/-- `_require_open_locked` -/
def requireOpenLocked : Locked Unit := do
  let s ← get
  if s.state ≠ .isOpen ∨ s.session.connection = none then storeFailure storeUnavailable
  else pure ()

/-- `_terminate_connection_locked`; what closing the connection raises is dropped. -/
def terminateConnectionLocked : Locked Unit := do
  let s ← get
  setState .closed
  if s.session.connection = none then pure ()
  else tryCatch (onConnection closeConnection) fun _ => pure ()

/-- `_rollback_locked`, which raises the same with and without a primary error. -/
def rollbackLocked : Locked Unit := do
  let s ← get
  tryCatch
    (if s.session.connection = none then pure () else onConnection rollbackTransaction)
    fun _ => do
      setState .quarantined
      terminateConnectionLocked
      storeFailure rollbackFailed
  setState .isOpen

/-- `_commit_locked` -/
def commitLocked (candidate : α) : Locked α := do
  let s ← get
  tryCatch
    (do
      if s.session.connection = none then storeFailure storeUnavailable
      else do
        onConnection commitTransaction
        setState .isOpen
        pure candidate)
    fun _ => do
      setState .commitOutcomeUnknown
      terminateConnectionLocked
      storeFailure outcomeUnknown

/-- The `except` clauses of `_begin_locked`; an `OperationalError` is never fatal here. -/
def beginFailed : Thrown → Locked Unit
  | .driver e =>
      if e.kind = .operationalError then
        storeFailure (if e.busy = true then sqliteBusy else sqliteOperational)
      else do
        if isConnectionFatal e = true then terminateConnectionLocked else pure ()
        storeFailure (sqliteErrorCode e)
  | e => throw e

/-- `_begin_locked`; the two kinds of transaction differ in what other connections may do. -/
def beginLocked : Locked Unit := do
  requireOpenLocked
  tryCatch
    (do
      onConnection beginTransaction
      setState .transactionActive)
    beginFailed

def rollbackActive : Locked Unit := do
  let s ← get
  if s.state = .transactionActive then rollbackLocked else pure ()

/-- `_raise_sqlite_failure_locked` -/
def raiseSqliteFailureLocked (e : SqliteError) : Locked α := do
  if isConnectionFatal e = true then terminateConnectionLocked else rollbackActive
  storeFailure (sqliteErrorCode e)

/-- The `except` clauses of the methods that write. -/
def writeFailed (integrity other : String) : Thrown → Locked α
  | .own (.store code) => do
      rollbackActive
      storeFailure code
  | .driver e =>
      if e.kind = .integrityError then do
        rollbackActive
        storeFailure integrity
      else raiseSqliteFailureLocked e
  | .own _ => do
      rollbackActive
      storeFailure other

/-- The `except` clauses of the methods that read. -/
def readFailed : Thrown → Locked α
  | .own (.store code) => do
      rollbackActive
      storeFailure code
  | .driver e => raiseSqliteFailureLocked e
  | e => throw e

/-- `close` -/
def closeStore : Locked Unit := do
  let s ← get
  if s.state = .closed then pure ()
  else do
    setState .closed
    if s.session.connection = none then pure ()
    else tryCatch (onConnection closeConnection) fun _ => storeFailure closeFailed

end

/-! ## The statements of the methods -/

section
variable [PythonLibrary] [UnicodeLibrary] [ZonedTimeLibrary]

/-- `except StoreContractError: raise`, `except sqlite3.Error: raise` and
`except Exception: _store_error(code)`. -/
def recordErrorsAs (code : String) : Thrown → Thrown
  | .own (.store c) => .own (.store c)
  | .driver e => .driver e
  | .own _ => .own (.store code)

/-- `_aggregate_locked` -/
def aggregateStatements (key : Key) : Statements (Option AttestationArtifactAggregate) :=
  Run.mapError (recordErrorsAs aggregateCorrupt) do
    let artifactRows ← query fun db => artifactRows db key
    let referenceRows ← query fun db => referenceRows db key
    match artifactRows, referenceRows with
    | [], [] => do
        let rest ← query fun db => select db.events [0, 4] [.str key.1, .str key.2]
        pureStep (storeErrorIf (rest ≠ []) eventCorrupt)
        pure none
    | [artifactRow], [referenceRow] => do
        let artifact ← pureStep (renamed aggregateCorrupt (readArtifactRow artifactRow))
        let reference ← pureStep (renamed aggregateCorrupt (readReferenceRow referenceRow))
        pureStep (storeErrorIf (artifactKey artifact.toArtifactFields ≠ key) aggregateCorrupt)
        let aggregate ← pureStep (ofRecord (AttestationArtifactAggregate.make artifact reference))
        let eventRows ← query fun db => eventRows db key
        let parsed ← pureStep (renamed eventCorrupt (readEventRows eventRows))
        pureStep (storeErrorIf (gapFree parsed = false) eventCorrupt)
        pureStep (storeErrorIf (¬∀ entry ∈ parsed, Tells entry.2.toEventFields aggregate)
          eventCorrupt)
        pure (some aggregate)
    | _, _ => pureStep (storeError aggregateCorrupt)

/-- `persist_artifact`, between its `BEGIN` and its commit. -/
def persistStatements (key : Key) (candidate : AttestationArtifactAggregate) :
    Statements AttestationArtifactAggregate := do
  let existing ← aggregateStatements key
  match existing with
  | some existing => do
      let existingArtifact ← pureStep (ofRecord existing.artifact.toPayload)
      let artifactPayload ← pureStep (ofRecord candidate.artifact.toPayload)
      pureStep (storeErrorIf (existingArtifact ≠ artifactPayload) "attestation_artifact_conflict")
      let existingReference ← pureStep (ofRecord existing.bindingReference.toPayload)
      let referencePayload ← pureStep (ofRecord candidate.bindingReference.toPayload)
      pureStep (storeErrorIf (existingReference ≠ referencePayload)
        "attestation_binding_reference_conflict")
      pure existing
  | none => do
      let artifactPayload ← pureStep (ofRecord candidate.artifact.toPayload)
      update fun db => ofStore
        (db.insertArtifact (artifactRow candidate.artifact.toArtifactFields artifactPayload))
      let referencePayload ← pureStep (ofRecord candidate.bindingReference.toPayload)
      update fun db => ofStore (db.insertReference (referenceRow referencePayload))
      let result ← aggregateStatements key
      match result with
      | none => pureStep (storeError aggregateCorrupt)
      | some result => pure result

/-- `append_revalidation_event`, between its `BEGIN` and its commit. -/
def appendStatements (workspace : String) (e : AttestationRevalidationEvent) :
    Statements SequencedAttestationRevalidationEvent := do
  let aggregate ← aggregateStatements (workspace, e.artifactId)
  match aggregate with
  | none => pureStep (storeError "attestation_artifact_not_found")
  | some aggregate => do
      pureStep (storeErrorIf (¬Tells e.toEventFields aggregate)
        "attestation_revalidation_event_binding_mismatch")
      let rows ← query fun db => eventRows db (workspace, e.artifactId)
      let parsed ← pureStep (renamed eventCorrupt (readEventRows rows))
      pureStep (storeErrorIf (gapFree parsed = false) eventCorrupt)
      match parsed.find? fun entry => entry.2.eventId = e.eventId with
      | some (sequence, existing) => do
          let existingPayload ← pureStep (ofRecord existing.toPayload)
          let payload ← pureStep (ofRecord e.toPayload)
          pureStep (storeErrorIf (existingPayload ≠ payload)
            "attestation_revalidation_event_conflict")
          pureStep (ofRecord (SequencedAttestationRevalidationEvent.make sequence existing))
      | none => do
          let payload ← pureStep (ofRecord e.toPayload)
          update fun db => ofStore (db.insertEvent (eventRow payload (parsed.length + 1)))
          let check ← query fun db => select db.events [0, 1] [.str workspace, .str e.eventId]
          match check with
          | [row] => do
              let (sequence, stored) ← pureStep (readEventRow row)
              pureStep (ofRecord (SequencedAttestationRevalidationEvent.make sequence stored))
          | _ => pureStep (storeError eventCorrupt)

/-- `get_latest_revalidation_event`, between its `BEGIN` and its commit. -/
def latestStatements (key : Key) :
    Statements (Option SequencedAttestationRevalidationEvent) := do
  let aggregate ← aggregateStatements key
  match aggregate with
  | none => pureStep (storeError "attestation_artifact_not_found")
  | some _ => do
      let rows ← query fun db => eventRows db key
      let parsed ← pureStep (readEventRows rows)
      pureStep (storeErrorIf (gapFree parsed = false) eventCorrupt)
      match parsed.getLast? with
      | none => pure none
      | some (sequence, e) =>
          some <$> pureStep (ofRecord (SequencedAttestationRevalidationEvent.make sequence e))

/-! ## The methods -/

/-- `persist_artifact` -/
def persistArtifact (workspace : String) (artifact : Supplied PersistedAttestationArtifact)
    (reference : Supplied AttestationBindingReference) : Locked AttestationArtifactAggregate := do
  requireOpenLocked
  tryCatch
    (do
      let artifact ← pureStep (ofRecord (readArtifact artifact))
      let reference ← pureStep (ofRecord (readReference reference))
      pureStep (ofRecord (require (Matches artifact.toArtifactFields reference.toReferenceFields)
        payloadInvalid))
      pureStep (storeErrorIf
        (artifact.workspaceIdentity ≠ workspace ∨ reference.workspaceIdentity ≠ workspace)
        "attestation_persistence_workspace_mismatch")
      let candidate ← pureStep (ofRecord (AttestationArtifactAggregate.make artifact reference))
      beginLocked
      let result ← onConnection
        (persistStatements (workspace, candidate.artifact.artifactId) candidate)
      commitLocked result)
    (writeFailed "attestation_artifact_conflict" projectionCorrupt)

/-- `append_revalidation_event` -/
def appendRevalidationEvent (workspace : String) (e : Supplied AttestationRevalidationEvent) :
    Locked SequencedAttestationRevalidationEvent := do
  requireOpenLocked
  tryCatch
    (do
      let e ← pureStep (ofRecord (readEvent e))
      pureStep (storeErrorIf (e.workspaceIdentity ≠ workspace)
        "attestation_persistence_workspace_mismatch")
      beginLocked
      let result ← onConnection (appendStatements workspace e)
      commitLocked result)
    (writeFailed "attestation_revalidation_event_conflict" eventCorrupt)

/-- A method that reads: its checks, and its statements in a transaction. -/
def reading {α : Type} (workspace workspaceIdentity : String) (statements : Statements α) :
    Locked α := do
  pureStep (validateWorkspace workspaceIdentity)
  pureStep (storeErrorIf (workspaceIdentity ≠ workspace)
    "attestation_persistence_workspace_mismatch")
  beginLocked
  tryCatch
    (do
      let result ← onConnection statements
      let _ ← commitLocked result
      pure result)
    readFailed

/-- `get_artifact_aggregate` -/
def getArtifactAggregate (workspace workspaceIdentity artifactId : String) :
    Locked (Option AttestationArtifactAggregate) :=
  reading workspace workspaceIdentity (aggregateStatements (workspaceIdentity, artifactId))

/-- `get_latest_revalidation_event` -/
def getLatestRevalidationEvent (workspace workspaceIdentity artifactId : String) :
    Locked (Option SequencedAttestationRevalidationEvent) :=
  reading workspace workspaceIdentity (latestStatements (workspaceIdentity, artifactId))

end

/-! ## The states between calls -/

/-- Open, with a live connection and no transaction. -/
def Idle (disk : Database) (s : SQLiteAttestationPersistenceStore) : Prop :=
  s.state = .isOpen ∧ Holds disk none s.session

/-- Closed, with no connection. -/
def Shut (disk : Database) (s : SQLiteAttestationPersistenceStore) : Prop :=
  s.state = .closed ∧ Gone disk s.session

def AtRest (disk : Database) (s : SQLiteAttestationPersistenceStore) : Prop :=
  Idle disk s ∨ Shut disk s

/-- In a transaction that sees `d`. -/
def Active (disk d : Database) (s : SQLiteAttestationPersistenceStore) : Prop :=
  s.state = .transactionActive ∧ Holds disk (some d) s.session

/-- In a transaction of which a statement has raised. -/
def Broken (disk : Database) (s : SQLiteAttestationPersistenceStore) : Prop :=
  s.state = .transactionActive ∧ Live disk s.session

/-- What a call raises is a code of the store; unless it is that of an unknown outcome, the
disk is as it was. -/
def Reported (disk : Database) (e : Thrown) (s : SQLiteAttestationPersistenceStore) : Prop :=
  ∃ code d, e = .own (.store code) ∧ AtRest d s ∧ (code ≠ outcomeUnknown → d = disk)

section
variable {α : Type} {disk d : Database}

theorem AtRest.disk_eq {s : SQLiteAttestationPersistenceStore} (h : AtRest disk s) :
    s.session.disk = disk := by
  rcases h with h | h
  · exact h.2.1
  · exact h.2.1

theorem storeFailure_meets {P : SQLiteAttestationPersistenceStore → Prop} {code : String}
    {Q : α → SQLiteAttestationPersistenceStore → Prop}
    {E : Thrown → SQLiteAttestationPersistenceStore → Prop}
    (h : ∀ s, P s → E (.own (.store code)) s) : Meets P (storeFailure code : Locked α) Q E :=
  Meets.throw h

/-- A statement on the connection leaves the named state as it is. -/
theorem onConnection_meets {x : Statements α} (state : ConnectionState)
    {P : Session Database SqliteError → Prop} {Q : α → Session Database SqliteError → Prop}
    {E : Thrown → Session Database SqliteError → Prop} (hx : Meets P x Q E) :
    Meets (fun s => s.state = state ∧ P s.session) (onConnection x)
      (fun a s => s.state = state ∧ Q a s.session)
      (fun e s => s.state = state ∧ E e s.session) := by
  refine Meets.each fun s hs => (Meets.inside hx hs.2).weaken (fun _ => id) ?_ ?_
  · rintro a _ ⟨session, rfl, hsession⟩
    exact ⟨hs.1, hsession⟩
  · rintro e _ ⟨session, rfl, hsession⟩
    exact ⟨hs.1, hsession⟩

theorem terminateConnectionLocked_meets {E : Thrown → SQLiteAttestationPersistenceStore → Prop} :
    Meets (fun s => Live disk s.session) terminateConnectionLocked (fun _ => Shut disk) E := by
  refine Meets.bind_get fun s hlive => ?_
  refine Meets.bind_modify (R := fun s' => s'.state = .closed ∧ Live disk s'.session) ?_ ?_
  · rintro _ rfl
    exact ⟨rfl, hlive⟩
  rw [if_neg hlive.connection_ne]
  refine Meets.tryCatch (R := fun _ => Shut disk) ?_ fun _ => Meets.pure fun _ => id
  exact (onConnection_meets .closed (closeConnection_meets disk)).weaken (fun _ => id) (fun _ _ => id)
    fun _ _ hs => ⟨hs.1, hs.2.2⟩

/-- Rolled back, or closed. -/
theorem rollbackLocked_meets :
    Meets (Broken disk) rollbackLocked (fun _ => Idle disk)
      (fun e s => e = .own (.store rollbackFailed) ∧ Shut disk s) := by
  refine Meets.bind_get fun s hbroken => ?_
  rw [if_neg hbroken.2.connection_ne]
  refine Meets.bind (R := fun _ s => Holds disk none s.session) ?_ fun _ => ?_
  · refine Meets.tryCatch (R := fun _ s => Live disk s.session) ?_ fun e => ?_
    · refine (onConnection_meets .transactionActive (rollbackTransaction_meets disk)).weaken
        ?_ ?_ ?_
      · rintro _ rfl
        exact hbroken
      · exact fun _ _ hs => hs.2
      · exact fun _ _ hs => hs.2.2
    · refine Meets.bind_modify (R := fun s => Live disk s.session) (fun _ => id) ?_
      refine Meets.bind terminateConnectionLocked_meets fun _ => ?_
      exact storeFailure_meets fun _ hs => ⟨rfl, hs⟩
  · exact Meets.modified fun _ hs => ⟨rfl, hs⟩

/-- Committed, or closed with an unknown outcome. -/
theorem commitLocked_meets (a : α) :
    Meets (Active disk d) (commitLocked a) (fun b s => b = a ∧ Idle d s)
      (fun e s => e = .own (.store outcomeUnknown) ∧ (Shut disk s ∨ Shut d s)) := by
  refine Meets.bind_get fun s hactive => ?_
  rw [if_neg (Live.connection_ne ⟨_, hactive.2⟩)]
  refine Meets.tryCatch (R := fun _ s => Live disk s.session ∨ Live d s.session) ?_ fun e => ?_
  · refine Meets.bind (R := fun _ s => Holds d none s.session) ?_ fun _ => ?_
    · refine (onConnection_meets .transactionActive (commitTransaction_meets disk d)).weaken
        ?_ ?_ ?_
      · rintro _ rfl
        exact hactive
      · exact fun _ _ hs => hs.2
      · exact fun _ _ hs => hs.2.2
    · exact Meets.bind_modify (R := fun s => Idle d s) (fun _ hs => ⟨rfl, hs⟩)
        (Meets.pure fun _ hs => ⟨rfl, hs⟩)
  · refine Meets.bind_modify (R := fun s => Live disk s.session ∨ Live d s.session) (fun _ => id) ?_
    refine Meets.bind (R := fun _ s => Shut disk s ∨ Shut d s) ?_ fun _ => ?_
    · rintro s (hlive | hlive)
      · exact (terminateConnectionLocked_meets (E := fun _ _ => False) s hlive).weaken
          (fun _ _ => .inl) fun _ _ => False.elim
      · exact (terminateConnectionLocked_meets (E := fun _ _ => False) s hlive).weaken
          (fun _ _ => .inr) fun _ _ => False.elim
    · exact storeFailure_meets fun _ hs => ⟨rfl, hs⟩

theorem requireOpenLocked_idle {E : Thrown → SQLiteAttestationPersistenceStore → Prop} :
    Meets (Idle disk) requireOpenLocked (fun _ => Idle disk) E := by
  refine Meets.bind_get fun s hidle => ?_
  rw [if_neg fun h => h.elim (· hidle.1) (Live.connection_ne ⟨_, hidle.2⟩)]
  refine Meets.pure ?_
  rintro _ rfl
  exact hidle

theorem requireOpenLocked_shut {Q : Unit → SQLiteAttestationPersistenceStore → Prop} :
    Meets (Shut disk) requireOpenLocked Q
      (fun e s => e = .own (.store storeUnavailable) ∧ Shut disk s) := by
  refine Meets.bind_get fun s hshut => ?_
  rw [if_pos (.inr hshut.2.2)]
  refine storeFailure_meets ?_
  rintro _ rfl
  exact ⟨rfl, hshut⟩

/-- In a transaction, or as before, or closed. -/
theorem beginLocked_meets :
    Meets (Idle disk) beginLocked (fun _ => Active disk disk) (Reported disk) := by
  refine Meets.bind requireOpenLocked_idle fun _ => ?_
  refine Meets.tryCatch (R := fun e s => (∃ f, e = .driver f) ∧ Idle disk s) ?_ fun e => ?_
  · refine Meets.bind (R := fun _ s => Holds disk (some disk) s.session) ?_ fun _ =>
      Meets.modified fun _ hs => ⟨rfl, hs⟩
    exact (onConnection_meets .isOpen (beginTransaction_meets disk)).weaken (fun _ => id)
      (fun _ _ hs => hs.2) fun _ _ hs => ⟨hs.2.1, hs.1, hs.2.2⟩
  · cases e with
    | own f => exact Meets.throw fun _ hs => by obtain ⟨⟨g, hg⟩, -⟩ := hs; cases hg
    | driver f =>
        rw [beginFailed]
        split_ifs with hkind hbusy hfatal
        · exact storeFailure_meets fun s hs => ⟨_, disk, rfl, .inl hs.2, fun _ => rfl⟩
        · exact storeFailure_meets fun s hs => ⟨_, disk, rfl, .inl hs.2, fun _ => rfl⟩
        · refine Meets.bind (R := fun _ => Shut disk) ?_ fun _ => ?_
          · exact terminateConnectionLocked_meets.weaken (fun _ hs => ⟨_, hs.2.2⟩) (fun _ _ => id)
              fun _ _ => id
          · exact storeFailure_meets fun s hs => ⟨_, disk, rfl, .inr hs, fun _ => rfl⟩
        · exact storeFailure_meets fun s hs => ⟨_, disk, rfl, .inl hs.2, fun _ => rfl⟩

/-- What a method may have to handle: a raise within its transaction, one of the steps that
begin or end it, or one before it. -/
def Caught (disk : Database) (e : Thrown) (s : SQLiteAttestationPersistenceStore) : Prop :=
  Broken disk s ∨ Reported disk e s ∨ (Idle disk s ∧ ∃ f, e = .own f)

theorem rollbackFailed_reported {s : SQLiteAttestationPersistenceStore} (h : Shut disk s) :
    Reported disk (.own (.store rollbackFailed)) s :=
  ⟨_, disk, rfl, .inr h, fun _ => rfl⟩

/-- Out of a transaction there is nothing to roll back. -/
theorem rollbackActive_atRest {E : Thrown → SQLiteAttestationPersistenceStore → Prop} :
    Meets (AtRest disk) rollbackActive (fun _ => AtRest disk) E := by
  refine Meets.bind_get fun s hrest => ?_
  rw [if_neg ?_]
  · refine Meets.pure ?_
    rintro _ rfl
    exact hrest
  · rcases hrest with h | h
    · rw [h.1]
      decide
    · rw [h.1]
      decide

theorem rollbackActive_broken :
    Meets (Broken disk) rollbackActive (fun _ => Idle disk) (Reported disk) := by
  refine Meets.bind_get fun s hbroken => ?_
  rw [if_pos hbroken.1]
  refine rollbackLocked_meets.weaken ?_ (fun _ _ => id) ?_
  · rintro _ rfl
    exact hbroken
  · rintro _ _ ⟨rfl, hshut⟩
    exact rollbackFailed_reported hshut

/-- Rolled back if need be, and raised with this code. -/
theorem rollback_reported {code : String} {Q : α → SQLiteAttestationPersistenceStore → Prop} :
    Meets (fun s => Broken disk s ∨ ∃ d, AtRest d s ∧ (code ≠ outcomeUnknown → d = disk))
      (rollbackActive >>= fun _ => storeFailure code : Locked α) Q (Reported disk) := by
  rintro s (hbroken | ⟨d, hrest, hsame⟩)
  · refine Meets.bind rollbackActive_broken (fun _ => ?_) s hbroken
    exact storeFailure_meets fun _ hs => ⟨code, disk, rfl, .inl hs, fun _ => rfl⟩
  · refine Meets.bind rollbackActive_atRest (fun _ => ?_) s hrest
    exact storeFailure_meets fun _ hs => ⟨code, d, rfl, hs, hsame⟩

/-- A `sqlite3.Error` is only raised in the transaction. -/
theorem Caught.driver {e : SqliteError} {s : SQLiteAttestationPersistenceStore}
    (h : Caught disk (.driver e) s) : Broken disk s := by
  rcases h with h | ⟨code, d, he, -⟩ | ⟨-, f, he⟩
  · exact h
  · cases he
  · cases he

/-- A code of the store says whether the disk is as it was. -/
theorem Caught.store {code : String} {s : SQLiteAttestationPersistenceStore}
    (h : Caught disk (.own (.store code)) s) :
    Broken disk s ∨ ∃ d, AtRest d s ∧ (code ≠ outcomeUnknown → d = disk) := by
  rcases h with h | ⟨_, d, he, hrest, hsame⟩ | ⟨h, -⟩
  · exact .inl h
  · cases he
    exact .inr ⟨d, hrest, hsame⟩
  · exact .inr ⟨disk, .inl h, fun _ => rfl⟩

/-- Any other exception has left the disk as it was. -/
theorem Caught.other {f : StoreRaised} {code : String} {s : SQLiteAttestationPersistenceStore}
    (hf : ∀ code, f ≠ .store code) (h : Caught disk (.own f) s) :
    Broken disk s ∨ ∃ d, AtRest d s ∧ (code ≠ outcomeUnknown → d = disk) := by
  rcases h with h | ⟨c, d, he, -⟩ | ⟨h, -⟩
  · exact .inl h
  · cases he
    exact absurd rfl (hf c)
  · exact .inr ⟨disk, .inl h, fun _ => rfl⟩

theorem raiseSqliteFailureLocked_meets {e : SqliteError}
    {Q : α → SQLiteAttestationPersistenceStore → Prop} :
    Meets (Broken disk) (raiseSqliteFailureLocked e : Locked α) Q (Reported disk) := by
  rw [raiseSqliteFailureLocked]
  split_ifs with hfatal
  · refine Meets.bind (R := fun _ => Shut disk) ?_ fun _ => ?_
    · exact terminateConnectionLocked_meets.weaken (fun _ hs => hs.2) (fun _ _ => id) fun _ _ => id
    · exact storeFailure_meets fun _ hs => ⟨_, disk, rfl, .inr hs, fun _ => rfl⟩
  · exact rollback_reported.weaken (fun _ => .inl) (fun _ _ => id) fun _ _ => id

/-- Whatever a method that writes has to handle, it ends at rest. -/
theorem writeFailed_meets {integrity other : String}
    {Q : α → SQLiteAttestationPersistenceStore → Prop} (e : Thrown) :
    Meets (Caught disk e) (writeFailed integrity other e : Locked α) Q (Reported disk) := by
  cases e with
  | driver f =>
      rw [writeFailed]
      split_ifs with hkind
      · exact rollback_reported.weaken (fun _ hs => .inl hs.driver) (fun _ _ => id) fun _ _ => id
      · exact raiseSqliteFailureLocked_meets.weaken (fun _ hs => hs.driver) (fun _ _ => id)
          fun _ _ => id
  | own f =>
      cases f with
      | store code =>
          exact rollback_reported.weaken (fun _ hs => hs.store) (fun _ _ => id) fun _ _ => id
      | record r =>
          exact rollback_reported.weaken (fun _ hs => hs.other fun _ h => by cases h)
            (fun _ _ => id) fun _ _ => id
      | integrityError =>
          exact rollback_reported.weaken (fun _ hs => hs.other fun _ h => by cases h)
            (fun _ _ => id) fun _ _ => id
      | overflowError =>
          exact rollback_reported.weaken (fun _ hs => hs.other fun _ h => by cases h)
            (fun _ _ => id) fun _ _ => id

/-- Whatever a method that reads has to handle, it ends at rest, for it raises codes of the
store and errors of the driver only. -/
theorem readFailed_meets {Q : α → SQLiteAttestationPersistenceStore → Prop} (e : Thrown) :
    Meets (fun s => Caught disk e s ∧ ∀ f, e = .own f → ∃ code, f = .store code)
      (readFailed e : Locked α) Q (Reported disk) := by
  cases e with
  | driver f =>
      exact raiseSqliteFailureLocked_meets.weaken (fun _ hs => hs.1.driver) (fun _ _ => id)
        fun _ _ => id
  | own f =>
      rintro s ⟨hcaught, hstore⟩
      obtain ⟨code, rfl⟩ := hstore f rfl
      exact rollback_reported s hcaught.store

end
end DeliverySystem.AttestationConnection

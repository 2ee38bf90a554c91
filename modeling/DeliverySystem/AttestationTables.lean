import DeliverySystem.AttestationStoreContract
import DeliverySystem.ConstrainedRows
import Mathlib.Algebra.Group.Int.Defs

/-!
# The attestation store in tables

The three tables of the schema with their checks, uniqueness constraints and
foreign keys, and the store over them. A record is written as a row of columns
with its canonical JSON text, and every read makes the record again from the
columns and compares it with the text.
-/
namespace DeliverySystem.AttestationTables
open PythonValues CanonicalValues JsonText AuthorityBindings AttestationClaims
open AttestationArtifacts AttestationRecords SequencedLogs AttestationStoreContract ConstrainedRows
set_option autoImplicit false

/-! ## Columns and their checks -/

/-- What a column admits. -/
inductive ColumnKind where
  /-- `TEXT NOT NULL CHECK (length(c) > 0)` -/
  | text
  /-- `TEXT NOT NULL CHECK (c IN (...))` -/
  | oneOf (texts : List String)
  /-- `TEXT NOT NULL`, `sha256:` and sixty-four lowercase hexadecimal digits. -/
  | digest
  /-- `INTEGER NOT NULL CHECK (c > 0)` -/
  | positive
  /-- `TEXT CHECK (c IS NULL OR length(c) > 0)` -/
  | optionalText
  /-- `TEXT CHECK (c IS NULL OR ...)`, a digest. -/
  | optionalDigest
  /-- `TEXT` -/
  | nullable

def ColumnKind.admits : ColumnKind → Value → Bool
  | .text, .str s => s ≠ ""
  | .oneOf texts, .str s => s ∈ texts
  | .digest, .str s => hexPattern "sha256:" s
  | .positive, .int n => 0 < n
  | .optionalText, .null => true
  | .optionalText, .str s => s ≠ ""
  | .optionalDigest, .null => true
  | .optionalDigest, .str s => hexPattern "sha256:" s
  | .nullable, .null => true
  | .nullable, .str _ => true
  | _, _ => false

/-- A row has a cell for every column, and each column admits its cell. -/
def columnsAdmit : List ColumnKind → Row Value → Bool
  | [], [] => true
  | kind :: kinds, cell :: cells => kind.admits cell && columnsAdmit kinds cells
  | _, _ => false

def cell (row : Row Value) (column : ℕ) : Value := (row[column]?).getD .null

/-! ## The tables -/

/-- The columns of `attestation_artifacts`, from `workspace_identity` to `canonical_json`. -/
def artifactColumns : List ColumnKind :=
  [.text, .text, .oneOf [artifactContractVersion], .text, .text, .text, .digest, .digest, .text,
    .text, .oneOf ["1", "2"], .text, .text, .text, .text, .text, .text, .text, .text, .text,
    .digest, .text, .positive, .digest, .digest, .digest, .text, .text, .text, .digest, .nullable,
    .nullable, .text]

/-- Version 1 claims have no challenge and no principal, version 2 claims have both. -/
def artifactsTable : Table Value where
  admits row := columnsAdmit artifactColumns row &&
    ((cell row 10 = .str "1" ∧ cell row 30 = .null ∧ cell row 31 = .null) ∨
      (cell row 10 = .str "2" ∧ cell row 30 ≠ .null ∧ cell row 31 ≠ .null))
  uniques := [[0, 1], [0, 3]]

/-- The columns of `attestation_binding_references`. -/
def referenceColumns : List ColumnKind :=
  [.text, .text, .text, .digest, .text, .text, .text, .text, .digest, .text, .positive, .digest,
    .digest, .digest, .digest, .text, .digest, .text, .digest, .text,
    .oneOf [referenceContractVersion, referenceV2ContractVersion], .digest, .nullable, .nullable,
    .text]

def referencesTable : Table Value where
  admits row := columnsAdmit referenceColumns row &&
    ((cell row 20 = .str referenceContractVersion ∧ cell row 22 = .null ∧ cell row 23 = .null) ∨
      (cell row 20 = .str referenceV2ContractVersion ∧ cell row 22 ≠ .null ∧ cell row 23 ≠ .null))
  uniques := [[0, 2], [0, 1], [0, 4], [0, 2, 21]]

/-- The columns of `attestation_revalidation_events`. -/
def eventColumns : List ColumnKind :=
  [.text, .text, .oneOf ["1"], .oneOf ["1"], .text, .digest, .text, .digest, .digest,
    .oneOf ["Successful", "Failed"], .text, .optionalText, .optionalDigest, .digest, .positive,
    .text]

def eventsTable : Table Value where
  admits row := columnsAdmit eventColumns row &&
    ((cell row 9 = .str "Successful" ∧ cell row 11 = .null ∧ cell row 12 ≠ .null) ∨
      (cell row 9 = .str "Failed" ∧ cell row 11 ≠ .null ∧ cell row 12 = .null))
  uniques := [[0, 1], [0, 4, 14]]

structure Database where
  artifacts : List (Row Value)
  references : List (Row Value)
  events : List (Row Value)
deriving DecidableEq

def Database.empty : Database := ⟨[], [], []⟩

/-- A parameter of a statement; the driver binds integers of 64 bits. -/
def bindCell : Value → StorePy Unit
  | .int n => if -2 ^ 63 ≤ n ∧ n < 2 ^ 63 then .ok () else .error .overflowError
  | .str _ | .null => .ok ()
  | _ => .error (.record .otherError)

def bindAll : Row Value → StorePy Unit
  | [] => .ok ()
  | value :: values => do
      bindCell value
      bindAll values

/-- `INSERT INTO` a table with its constraints; a row that violates one is an
`IntegrityError`. -/
def insertRow (t : Table Value) (rows : List (Row Value)) (references : Bool) (row : Row Value) :
    StorePy (List (Row Value)) := do
  bindAll row
  match t.insert rows row with
  | some rows' => if references = true then .ok rows' else .error .integrityError
  | none => .error .integrityError

def Database.insertArtifact (db : Database) (row : Row Value) : StorePy Database := do
  let artifacts ← insertRow artifactsTable db.artifacts true row
  pure { db with artifacts }

def Database.insertReference (db : Database) (row : Row Value) : StorePy Database := do
  let references ← insertRow referencesTable db.references (refers db.artifacts [0, 1] [0, 2] row)
    row
  pure { db with references }

def Database.insertEvent (db : Database) (row : Row Value) : StorePy Database := do
  let events ← insertRow eventsTable db.events
    (refers db.artifacts [0, 1] [0, 4] row && refers db.references [0, 2, 21] [0, 4, 8] row) row
  pure { db with events }

/-! ## Rows of records -/

section
variable [PythonLibrary] [UnicodeLibrary] [ZonedTimeLibrary]

def projectionCorrupt : String := "attestation_persistence_projection_corrupt"

def aggregateCorrupt : String := "attestation_artifact_aggregate_corrupt"

def eventCorrupt : String := "attestation_revalidation_event_corrupt"

/-- `json.loads(cell)` -/
def loadsCell (value : Value) : StorePy Value :=
  match value with
  | .str text =>
      match loads jsonObject text with
      | some parsed => .ok parsed
      | none => .error (.record (.valueError ""))
  | _ => .error (.record .typeError)

/-- The members of a mapping. -/
def members (value : Value) : Dict := value.mapping?.getD []

/-- The parameters of `INSERT INTO attestation_artifacts`. -/
def artifactRow (a : ArtifactFields) (payload : Dict) : Row Value :=
  let claimsPayload := payload.get "claims_payload"
  let claims := members ((members claimsPayload).get "claims")
  [.str a.workspaceIdentity, .str a.artifactId, .str artifactContractVersion,
    .str a.attestationId, .str (dumps claimsPayload), .str a.detachedProof, .str a.claimsDigest,
    .str a.artifactDigest, .str a.originalVerifiedAt, .str a.createdAt,
    claims.get "attestation_version", claims.get "issuer_id", claims.get "key_id",
    claims.get "signature_algorithm", claims.get "credential_class",
    claims.get "credential_instance_id", claims.get "github_subject_identity",
    claims.get "repository_identity", .str (dumps (claims.get "granted_capabilities")),
    claims.get "driver_identity", claims.get "remote_authority", claims.get "preview_id",
    claims.get "revision", claims.get "operation_set_digest", claims.get "remote_snapshot_digest",
    claims.get "evidence_digest", claims.get "issued_at", claims.get "expires_at",
    claims.get "nonce", claims.get "source_verification_digest", claims.get "challenge_digest",
    claims.get "credential_principal_identity", .str (dumps (.dict payload))]

def referenceRowKeys : List String :=
  ["workspace_identity", "reference_id", "artifact_id", "artifact_digest", "binding_id",
    "repository_identity", "github_subject_identity", "driver_identity", "remote_authority",
    "preview_id", "revision", "plan_digest", "sealed_preview_digest", "operation_set_digest",
    "remote_snapshot_digest", "audit_id", "audit_digest", "evidence_id", "evidence_digest",
    "original_verified_at", "reference_contract_version", "binding_reference_digest"]

/-- The parameters of `INSERT INTO attestation_binding_references`. -/
def referenceRow (payload : Dict) : Row Value :=
  (referenceRowKeys ++ ["credential_principal_identity", "challenge_digest"]).map payload.get ++
    [.str (dumps (.dict payload))]

/-- The parameters of `INSERT INTO attestation_revalidation_events`. -/
def eventRow (payload : Dict) (sequence : Int) : Row Value :=
  [payload.get "workspace_identity", payload.get "event_id", payload.get "event_identity_version",
    payload.get "event_payload_version", payload.get "artifact_id", payload.get "artifact_digest",
    payload.get "revalidation_attempt_id", payload.get "revalidation_context_digest",
    payload.get "binding_reference_digest", payload.get "outcome", payload.get "revalidated_at",
    payload.get "failure_code", payload.get "result_digest", payload.get "event_payload_digest",
    .int sequence, .str (dumps (.dict payload))]

/-- The payload that the columns of an artifact and its parsed claims make up. -/
def artifactPayload (row : Row Value) (claims : Value) : Dict :=
  [("artifact_contract_version", cell row 2), ("artifact_id", cell row 1),
    ("workspace_identity", cell row 0), ("attestation_id", cell row 3),
    ("claims_payload", claims), ("detached_proof", cell row 5), ("claims_digest", cell row 6),
    ("artifact_digest", cell row 7), ("original_verified_at", cell row 8),
    ("created_at", cell row 9)]

/-- What the claims columns say of the claims. -/
def expectedClaims (row : Row Value) (granted : Value) : Dict :=
  [("attestation_version", cell row 10), ("issuer_id", cell row 11), ("key_id", cell row 12),
    ("signature_algorithm", cell row 13), ("credential_class", cell row 14),
    ("credential_instance_id", cell row 15), ("github_subject_identity", cell row 16),
    ("repository_identity", cell row 17), ("granted_capabilities", granted),
    ("driver_identity", cell row 19), ("remote_authority", cell row 20),
    ("preview_id", cell row 21), ("revision", cell row 22),
    ("operation_set_digest", cell row 23), ("remote_snapshot_digest", cell row 24),
    ("evidence_digest", cell row 25), ("issued_at", cell row 26), ("expires_at", cell row 27),
    ("nonce", cell row 28), ("source_verification_digest", cell row 29)] ++
  if cell row 10 = .str "2" then
    [("challenge_digest", cell row 30), ("credential_principal_identity", cell row 31)]
  else []

/-- `_artifact_row` -/
def readArtifactRow (row : Row Value) : StorePy PersistedAttestationArtifact :=
  storeErrorsAs projectionCorrupt do
    let claims ← loadsCell (cell row 4)
    storeErrorIf (claims.mapping? = none ∨
      .str (dumps (.dict (artifactPayload row claims))) ≠ cell row 32) projectionCorrupt
    let claimValues := (members claims).get "claims"
    storeErrorIf (claimValues.mapping? = none) projectionCorrupt
    let granted ← loadsCell (cell row 18)
    storeErrorIf (¬∀ entry ∈ expectedClaims row granted,
      (members claimValues).get entry.1 = entry.2) projectionCorrupt
    ofRecord (PersistedAttestationArtifact.fromUntrusted (.dict (artifactPayload row claims)))

/-- The payload that the columns of a reference make up. -/
def referencePayload (row : Row Value) : Dict :=
  referenceRowKeys.zip row ++
    if cell row 20 = .str referenceV2ContractVersion then
      [("credential_principal_identity", cell row 22), ("challenge_digest", cell row 23)]
    else []

/-- `_reference_row` -/
def readReferenceRow (row : Row Value) : StorePy AttestationBindingReference :=
  storeErrorsAs projectionCorrupt do
    let parsed ← loadsCell (cell row 24)
    storeErrorIf (parsed.mapping? = none ∨ .str (dumps parsed) ≠ cell row 24) projectionCorrupt
    storeErrorIf (.str (dumps (.dict (referencePayload row))) ≠ cell row 24) projectionCorrupt
    ofRecord (AttestationBindingReference.fromUntrusted (.dict (referencePayload row)))

/-- The payload that the columns of an event make up. -/
def eventPayload (row : Row Value) : Dict :=
  [("event_identity_version", cell row 2), ("event_payload_version", cell row 3),
    ("event_id", cell row 1), ("workspace_identity", cell row 0), ("artifact_id", cell row 4),
    ("artifact_digest", cell row 5), ("revalidation_attempt_id", cell row 6),
    ("revalidation_context_digest", cell row 7), ("binding_reference_digest", cell row 8),
    ("outcome", cell row 9), ("revalidated_at", cell row 10), ("failure_code", cell row 11),
    ("result_digest", cell row 12), ("event_payload_digest", cell row 13)]

/-- `_event_row` -/
def readEventRow (row : Row Value) : StorePy (Value × AttestationRevalidationEvent) :=
  storeErrorsAs projectionCorrupt do
    let parsed ← loadsCell (cell row 15)
    storeErrorIf (parsed.mapping? = none ∨ .str (dumps parsed) ≠ cell row 15) projectionCorrupt
    storeErrorIf (.str (dumps (.dict (eventPayload row))) ≠ cell row 15) projectionCorrupt
    let e ← ofRecord (AttestationRevalidationEvent.fromUntrusted (.dict (eventPayload row)))
    pure (cell row 14, e)

/-! ## The store -/

def artifactRows (db : Database) (key : Key) : List (Row Value) :=
  select db.artifacts [0, 1] [.str key.1, .str key.2]

def referenceRows (db : Database) (key : Key) : List (Row Value) :=
  select db.references [0, 2] [.str key.1, .str key.2]

def sequenceOf (row : Row Value) : Int :=
  match cell row 14 with
  | .int n => n
  | _ => 0

/-- The events of an artifact, `ORDER BY event_sequence`. -/
def eventRows (db : Database) (key : Key) : List (Row Value) :=
  (select db.events [0, 4] [.str key.1, .str key.2]).insertionSort
    fun a b => sequenceOf a ≤ sequenceOf b

/-- `if exc.code == projection_corrupt: _store_error(code)` -/
def renamed {α : Type} (code : String) : StorePy α → StorePy α
  | .error (.store c) => storeError (if c = projectionCorrupt then code else c)
  | x => x

def readEventRows : List (Row Value) → StorePy (List (Value × AttestationRevalidationEvent))
  | [] => .ok []
  | row :: rows => do
      let parsed ← readEventRow row
      let rest ← readEventRows rows
      pure (parsed :: rest)

/-- The sequences are 1, 2, 3, and so on. -/
def gapFree (parsed : List (Value × AttestationRevalidationEvent)) : Bool :=
  parsed.map Prod.fst = (sequencesTo parsed.length).map .int

/-- `_aggregate_locked` -/
def aggregateLocked (db : Database) (key : Key) :
    StorePy (Option AttestationArtifactAggregate) :=
  storeErrorsAs aggregateCorrupt do
    match artifactRows db key, referenceRows db key with
    | [], [] => do
        storeErrorIf (select db.events [0, 4] [.str key.1, .str key.2] ≠ []) eventCorrupt
        pure none
    | [artifactRow], [referenceRow] => do
        let artifact ← renamed aggregateCorrupt (readArtifactRow artifactRow)
        let reference ← renamed aggregateCorrupt (readReferenceRow referenceRow)
        storeErrorIf (artifactKey artifact.toArtifactFields ≠ key) aggregateCorrupt
        let aggregate ← ofRecord (AttestationArtifactAggregate.make artifact reference)
        let parsed ← renamed eventCorrupt (readEventRows (eventRows db key))
        storeErrorIf (gapFree parsed = false) eventCorrupt
        storeErrorIf (¬∀ entry ∈ parsed, Tells entry.2.toEventFields aggregate) eventCorrupt
        pure (some aggregate)
    | _, _ => storeError aggregateCorrupt

/-- `_validate_workspace` -/
def validateWorkspace (value : String) : StorePy Unit :=
  storeErrorIf (value = "" ∨ value ≠ PythonLibrary.strip value ∨ UnicodeLibrary.nfc value ≠ value)
    "attestation_persistence_workspace_mismatch"

def persistTransaction (workspace : String) (db : Database)
    (artifact : PersistedAttestationArtifact) (reference : AttestationBindingReference) :
    StorePy (AttestationArtifactAggregate × Database) := do
  let (artifact, reference) ← ofRecord (validateArtifactAggregate artifact reference)
  storeErrorIf (artifact.workspaceIdentity ≠ workspace ∨ reference.workspaceIdentity ≠ workspace)
    "attestation_persistence_workspace_mismatch"
  let candidate ← ofRecord (AttestationArtifactAggregate.make artifact reference)
  let key := (workspace, candidate.artifact.artifactId)
  let existing ← aggregateLocked db key
  match existing with
  | some existing => do
      let existingArtifact ← ofRecord existing.artifact.toPayload
      let artifactPayload ← ofRecord candidate.artifact.toPayload
      storeErrorIf (existingArtifact ≠ artifactPayload) "attestation_artifact_conflict"
      let existingReference ← ofRecord existing.bindingReference.toPayload
      let referencePayload ← ofRecord candidate.bindingReference.toPayload
      storeErrorIf (existingReference ≠ referencePayload) "attestation_binding_reference_conflict"
      pure (existing, db)
  | none => do
      let artifactPayload ← ofRecord candidate.artifact.toPayload
      let db ← db.insertArtifact (artifactRow candidate.artifact.toArtifactFields artifactPayload)
      let referencePayload ← ofRecord candidate.bindingReference.toPayload
      let db ← db.insertReference (referenceRow referencePayload)
      let result ← aggregateLocked db key
      match result with
      | none => storeError aggregateCorrupt
      | some result => pure (result, db)

def appendTransaction (workspace : String) (db : Database) (e : AttestationRevalidationEvent) :
    StorePy (SequencedAttestationRevalidationEvent × Database) := do
  let e ← ofRecord e.again
  storeErrorIf (e.workspaceIdentity ≠ workspace) "attestation_persistence_workspace_mismatch"
  let key := (workspace, e.artifactId)
  let aggregate ← aggregateLocked db key
  match aggregate with
  | none => storeError "attestation_artifact_not_found"
  | some aggregate => do
      storeErrorIf (¬Tells e.toEventFields aggregate)
        "attestation_revalidation_event_binding_mismatch"
      let parsed ← renamed eventCorrupt (readEventRows (eventRows db key))
      storeErrorIf (gapFree parsed = false) eventCorrupt
      match parsed.find? fun entry => entry.2.eventId = e.eventId with
      | some (sequence, existing) => do
          let existingPayload ← ofRecord existing.toPayload
          let payload ← ofRecord e.toPayload
          storeErrorIf (existingPayload ≠ payload) "attestation_revalidation_event_conflict"
          let sequenced ← ofRecord (SequencedAttestationRevalidationEvent.make sequence existing)
          pure (sequenced, db)
      | none => do
          let payload ← ofRecord e.toPayload
          let db ← db.insertEvent (eventRow payload (parsed.length + 1))
          match select db.events [0, 1] [.str workspace, .str e.eventId] with
          | [row] => do
              let (sequence, stored) ← readEventRow row
              let sequenced ← ofRecord (SequencedAttestationRevalidationEvent.make sequence stored)
              pure (sequenced, db)
          | _ => storeError eventCorrupt

def getTransaction (workspace : String) (db : Database) (workspaceIdentity artifactId : String) :
    StorePy (Option AttestationArtifactAggregate) := do
  validateWorkspace workspaceIdentity
  storeErrorIf (workspaceIdentity ≠ workspace) "attestation_persistence_workspace_mismatch"
  aggregateLocked db (workspaceIdentity, artifactId)

def latestTransaction (workspace : String) (db : Database)
    (workspaceIdentity artifactId : String) :
    StorePy (Option SequencedAttestationRevalidationEvent) := do
  validateWorkspace workspaceIdentity
  storeErrorIf (workspaceIdentity ≠ workspace) "attestation_persistence_workspace_mismatch"
  let aggregate ← aggregateLocked db (workspaceIdentity, artifactId)
  match aggregate with
  | none => storeError "attestation_artifact_not_found"
  | some _ => do
      let parsed ← readEventRows (eventRows db (workspaceIdentity, artifactId))
      storeErrorIf (gapFree parsed = false) eventCorrupt
      match parsed.getLast? with
      | none => pure none
      | some (sequence, e) =>
          some <$> ofRecord (SequencedAttestationRevalidationEvent.make sequence e)

/-- What a transaction that was rolled back raises: an `IntegrityError` has one code,
and any other exception that is not the store's own has another. -/
def rolledBack (integrity other : String) : StoreRaised → String
  | .store code => code
  | .integrityError => integrity
  | _ => other

/-- A transaction is committed with its result, or rolled back. -/
def commit {α : Type} (integrity other : String) (db : Database)
    (result : StorePy (α × Database)) : Except String α × Database :=
  match result with
  | .ok (a, db') => (.ok a, db')
  | .error e => (.error (rolledBack integrity other e), db)

/-- The store of one workspace, over a database that no fault disturbs. -/
def store (workspace : String) : AttestationPersistenceStore Database where
  persistArtifact db artifact reference :=
    commit "attestation_artifact_conflict" projectionCorrupt db
      (persistTransaction workspace db artifact reference)
  getArtifactAggregate db workspaceIdentity artifactId :=
    (getTransaction workspace db workspaceIdentity artifactId).mapError StoreRaised.code
  appendRevalidationEvent db e :=
    commit "attestation_revalidation_event_conflict" eventCorrupt db
      (appendTransaction workspace db e)
  getLatestRevalidationEvent db workspaceIdentity artifactId :=
    (latestTransaction workspace db workspaceIdentity artifactId).mapError StoreRaised.code

end

/-! ## Rows are read back -/

/-- Sorting the members of an object beforehand does not change its text. -/
theorem dumps_sorted {entries : Dict} (h : (Dict.keys entries).Nodup) :
    dumps (.dict entries) = dumps (.dict (sortEntries entries)) :=
  dumps_perm (sortEntries_perm entries).symm h

theorem loadsCell_dumps {value : Value} (h : Plain value) :
    loadsCell (.str (dumps value)) = .ok value := by
  rw [loadsCell, loads_dumps jsonObject_keeps h]

theorem dumps_claims (f : ClaimsFields) : dumps f.toPayload = dumps (.dict f.canonicalPayload) := by
  have hinner := render_perm String.toList (sortEntries_perm f.claimsEntries).symm
    f.claimsEntries_keys.1
  have hsame : dumps f.toPayload = dumps (.dict [("domain", .str f.domain),
      ("claims", .dict (sortEntries f.claimsEntries))]) := by
    simp only [dumps, ClaimsFields.toPayload, render, renderEntries] at hinner ⊢
    simp only [hinner]
  rw [hsame, ClaimsFields.canonicalPayload]
  exact dumps_sorted (by simp [Dict.keys])

theorem dumps_reference (r : ReferenceFields) : dumps (.dict r.projection) = referenceText r :=
  dumps_sorted r.projection_keys.1

theorem dumps_event (e : EventFields) : dumps (.dict e.projection) = eventText e :=
  dumps_sorted e.projection_keys.1

/-- The members of these names make up a mapping that has no others. -/
theorem select_perm {names : List String} {d : Dict} (hnames : names.Nodup)
    (hkeys : (Dict.keys d).Nodup) (hsame : ∀ key, key ∈ names ↔ key ∈ Dict.keys d) :
    (names.map fun key => (key, d.get key)).Perm d := by
  have hself : (Dict.keys d).map (fun key => (key, d.get key)) = d := by
    rw [Dict.keys, List.map_map]
    refine (List.map_congr_left fun e he => ?_).trans (List.map_id d)
    have hlookup : d.lookup e.1 = some e.2 := by
      obtain ⟨before, after, rfl⟩ := List.append_of_mem he
      refine List.lookup_eq_some_iff.mpr ⟨before, after, rfl, fun other hother => ?_⟩
      rw [Dict.keys, List.map_append, List.nodup_append] at hkeys
      have hne := hkeys.2.2 other.1 (List.mem_map_of_mem hother) e.1 (by simp)
      simpa using Ne.symm hne
    simp only [Function.comp_apply, Dict.get, hlookup, Option.getD_some, id_eq]
  have hperm : names.Perm (Dict.keys d) := (List.perm_ext_iff_of_nodup hnames hkeys).mpr hsame
  exact (hperm.map _).trans (List.Perm.of_eq hself)

theorem zip_map_append {α β : Type} (names : List α) (f : α → β) (rest : List β) :
    names.zip (names.map f ++ rest) = names.map fun name => (name, f name) := by
  induction names with
  | nil => rfl
  | cons name names ih => rw [List.map_cons, List.cons_append, List.zip_cons_cons, ih, List.map_cons]

theorem mapping_dict (entries : Dict) : (Value.dict entries).mapping? = some entries := rfl

theorem members_dict (entries : Dict) : members (.dict entries) = entries := rfl

/-- The claims in the payload of claims. -/
theorem toPayload_claims (f : ClaimsFields) :
    members ((members f.toPayload).get "claims") = f.claimsEntries := by
  simp [Dict.get, List.lookup_cons, members, ClaimsFields.toPayload, Value.mapping?]

/-! ## Cells are admitted, rows are bound and inserted -/

theorem admits_text {s : String} (h : s ≠ "") : ColumnKind.text.admits (.str s) = true :=
  decide_eq_true h

theorem admits_oneOf {texts : List String} {s : String} (h : s ∈ texts) :
    (ColumnKind.oneOf texts).admits (.str s) = true := decide_eq_true h

theorem admits_positive {n : Int} (h : 1 ≤ n) : ColumnKind.positive.admits (.int n) = true :=
  decide_eq_true (by omega : 0 < n)

theorem hexPattern_ne_empty {tag s : String} (h : hexPattern tag s = true) : s ≠ "" := by
  rintro rfl
  simp [hexPattern] at h

theorem dumps_dict_ne_empty (entries : Dict) : dumps (.dict entries) ≠ "" := by
  intro h
  have hnil := String.ofList_injective h
  rw [render] at hnil
  cases hnil

theorem dumps_texts_ne_empty (items : List String) : dumps (Value.texts items) ≠ "" := by
  intro h
  have hnil := String.ofList_injective h
  rw [Value.texts, render] at hnil
  cases hnil

/-- What an integer column of the database can hold. -/
def Storable (n : Int) : Prop := -2 ^ 63 ≤ n ∧ n < 2 ^ 63

instance (n : Int) : Decidable (Storable n) := inferInstanceAs (Decidable (_ ∧ _))

/-- The cells of a row are texts or null, apart from one integer. -/
structure HoldsInteger (row : Row Value) (n : Int) : Prop where
  integer : .int n ∈ row
  others : ∀ value ∈ row, value = .int n ∨ value = .null ∨ ∃ s, value = .str s

theorem bindAll_ok {row : Row Value} (h : ∀ value ∈ row, bindCell value = .ok ()) :
    bindAll row = .ok () := by
  induction row with
  | nil => rfl
  | cons value row ih =>
      rw [bindAll, h value List.mem_cons_self, store_bind_ok]
      exact ih fun other hother => h other (List.mem_cons_of_mem _ hother)

theorem bindAll_error {row : Row Value} {value : Value} {e : StoreRaised} (hmem : value ∈ row)
    (hvalue : bindCell value = .error e)
    (h : ∀ other ∈ row, bindCell other = .ok () ∨ bindCell other = .error e) :
    bindAll row = .error e := by
  induction row with
  | nil => cases hmem
  | cons first row ih =>
      rw [bindAll]
      rcases h first List.mem_cons_self with hfirst | hfirst
      · rw [hfirst, store_bind_ok]
        rcases List.mem_cons.mp hmem with rfl | hmem
        · cases hvalue.symm.trans hfirst
        · exact ih hmem fun other hother => h other (List.mem_cons_of_mem _ hother)
      · rw [hfirst, store_bind_error]

theorem HoldsInteger.bindAll {row : Row Value} {n : Int} (h : HoldsInteger row n) :
    bindAll row = if Storable n then .ok () else .error .overflowError := by
  have hcell : bindCell (.int n) = if Storable n then .ok () else .error .overflowError := rfl
  split_ifs at hcell ⊢ with hn
  · refine bindAll_ok fun value hvalue => ?_
    rcases h.others value hvalue with rfl | rfl | ⟨s, rfl⟩
    · exact hcell
    · rfl
    · rfl
  · refine bindAll_error h.integer hcell fun value hvalue => ?_
    rcases h.others value hvalue with rfl | rfl | ⟨s, rfl⟩
    · exact .inr hcell
    · exact .inl rfl
    · exact .inl rfl

section
variable {t : Table Value} {rows : List (Row Value)} {row : Row Value} {n : Int}
  {references : Bool}

theorem insertRow_ok (hinteger : HoldsInteger row n) (hn : Storable n)
    (hadmits : t.admits row = true) (hfree : t.free rows row = true)
    (hreferences : references = true) : insertRow t rows references row = .ok (rows ++ [row]) := by
  rw [insertRow, hinteger.bindAll, if_pos hn, store_bind_ok, Table.insert_eq_some hadmits hfree]
  exact if_pos hreferences

theorem insertRow_refused (hinteger : HoldsInteger row n)
    (hrefused : ¬(Storable n ∧ t.free rows row = true)) :
    ∃ e, insertRow t rows references row = .error e := by
  rw [insertRow, hinteger.bindAll]
  by_cases hn : Storable n
  · have hnone : t.insert rows row = none := if_neg fun h => hrefused ⟨hn, h.2⟩
    rw [if_pos hn, store_bind_ok, hnone]
    exact ⟨.integrityError, rfl⟩
  · rw [if_neg hn]
    exact ⟨.overflowError, rfl⟩

end

/-! ## The rows of records -/

section
variable [PythonLibrary] [UnicodeLibrary] [ZonedTimeLibrary]

theorem dumps_artifact (a : ArtifactFields) : dumps (.dict a.projection) = artifactText a := by
  have hclaims : render String.toList a.claimsPayload.toPayload =
      render String.toList (.dict a.claimsPayload.canonicalPayload) :=
    String.ofList_injective (dumps_claims a.claimsPayload.toClaimsFields)
  have hsame : dumps (.dict a.projection) = dumps (.dict (canonicalEntries a)) := by
    simp only [dumps, ArtifactFields.projection, canonicalEntries, render, renderEntries] at hclaims ⊢
    simp only [hclaims]
  rw [hsame, artifactText]
  exact dumps_sorted (canonicalEntries_keys a).1

variable [TimestampLibrary] [LawfulTextLibrary] [LawfulZonedTimeLibrary] [LawfulDigestLibrary]
  [LawfulInfixLibrary]

omit [LawfulDigestLibrary] in
theorem readEventRow_eq (e : AttestationRevalidationEvent) (sequence : Int) :
    readEventRow (eventRow e.projection sequence) = .ok (.int sequence, e) := by
  have hevent := ofRecord_ok (AttestationRevalidationEvent.fromUntrusted_perm
    (List.Perm.refl e.projection))
  have htext : cell (eventRow e.projection sequence) 15 =
      .str (dumps (.dict (sortEntries e.projection))) :=
    congrArg Value.str (dumps_event e.toEventFields)
  have hpayload : eventPayload (eventRow e.projection sequence) = e.projection := by
    simp [eventPayload, eventRow, cell, EventFields.projection, Dict.get, List.lookup_cons]
  simp only [readEventRow, hpayload, htext, loadsCell_dumps e.projection_plain, hevent,
    store_bind_ok]
  rw [storeErrorIf_neg, store_bind_ok, storeErrorIf_neg, store_bind_ok]
  · rfl
  · rw [dumps_event]
    exact not_not.mpr rfl
  · simp [Value.mapping?]

omit [ZonedTimeLibrary] [LawfulZonedTimeLibrary] [LawfulDigestLibrary] [LawfulInfixLibrary]
  [PythonLibrary] [UnicodeLibrary] [TimestampLibrary] [LawfulTextLibrary] in
theorem referencePayload_perm (r : ReferenceFields) :
    (referencePayload (referenceRow r.projection)).Perm r.projection := by
  obtain ⟨hnodup, -, hkeys⟩ := r.projection_keys
  have hzip : referenceRowKeys.zip (referenceRow r.projection) =
      referenceRowKeys.map fun key => (key, r.projection.get key) := by
    rw [referenceRow, List.map_append, List.append_assoc]
    exact zip_map_append ..
  have hversion : cell (referenceRow r.projection) 20 = .str r.referenceContractVersion := by
    rfl
  rw [referencePayload, hzip, hversion]
  by_cases htwo : r.referenceContractVersion = referenceV2ContractVersion
  · rw [if_pos htwo] at hkeys
    rw [if_pos (congrArg Value.str htwo)]
    have hextended : referenceRowKeys.map (fun key => (key, r.projection.get key)) ++
        [("credential_principal_identity", cell (referenceRow r.projection) 22),
          ("challenge_digest", cell (referenceRow r.projection) 23)] =
        (referenceRowKeys ++ ["credential_principal_identity", "challenge_digest"]).map
          fun key => (key, r.projection.get key) := by
      rw [List.map_append]
      rfl
    rw [hextended]
    refine select_perm (by decide) hnodup fun key => ?_
    rw [hkeys]
    exact (by decide : (referenceRowKeys ++ ["credential_principal_identity",
      "challenge_digest"]).Perm referenceFieldNames).mem_iff
  · rw [if_neg htwo] at hkeys
    rw [if_neg (fun heq => htwo (Value.str.inj heq)), List.append_nil]
    refine select_perm (by decide) hnodup fun key => ?_
    rw [hkeys]
    exact (by decide : referenceRowKeys.Perm legacyReferenceFields).mem_iff

omit [LawfulDigestLibrary] in
theorem readReferenceRow_eq (r : AttestationBindingReference) :
    readReferenceRow (referenceRow r.projection) = .ok r := by
  have hperm := referencePayload_perm r.toReferenceFields
  have hnodup := (keys_perm hperm).nodup_iff.mpr r.projection_keys.1
  have hreference := ofRecord_ok (AttestationBindingReference.fromUntrusted_perm hperm)
  have htext : cell (referenceRow r.projection) 24 =
      .str (dumps (.dict (sortEntries r.projection))) :=
    congrArg Value.str (dumps_reference r.toReferenceFields)
  have hdumps : dumps (.dict (referencePayload (referenceRow r.projection))) =
      dumps (.dict (sortEntries r.projection)) := by
    rw [dumps_perm hperm hnodup]
    exact dumps_sorted r.projection_keys.1
  simp only [readReferenceRow, htext, loadsCell_dumps r.projection_plain, hdumps, hreference,
    store_bind_ok]
  rw [storeErrorIf_neg, store_bind_ok, storeErrorIf_neg, store_bind_ok]
  · rfl
  · exact not_not.mpr rfl
  · simp [Value.mapping?]

omit [TimestampLibrary] [LawfulTextLibrary]
  [LawfulZonedTimeLibrary] [LawfulDigestLibrary] [LawfulInfixLibrary] in
/-- The row of an artifact, cell by cell. -/
theorem artifactRow_eq (a : ArtifactFields) : artifactRow a a.projection =
    [.str a.workspaceIdentity, .str a.artifactId, .str artifactContractVersion,
      .str a.attestationId, .str (dumps (.dict a.claimsPayload.canonicalPayload)),
      .str a.detachedProof, .str a.claimsDigest, .str a.artifactDigest,
      .str a.originalVerifiedAt, .str a.createdAt, .str a.claimsPayload.attestationVersion,
      .str a.claimsPayload.issuerId, .str a.claimsPayload.keyId,
      .str a.claimsPayload.signatureAlgorithm, .str a.claimsPayload.credentialClass,
      .str a.claimsPayload.credentialInstanceId, .str a.claimsPayload.githubSubjectIdentity,
      .str a.claimsPayload.repositoryIdentity,
      .str (dumps (Value.texts a.claimsPayload.grantedCapabilities)),
      .str a.claimsPayload.driverIdentity, .str a.claimsPayload.remoteAuthority,
      .str a.claimsPayload.previewId, .int a.claimsPayload.revision,
      .str a.claimsPayload.operationSetDigest, .str a.claimsPayload.remoteSnapshotDigest,
      .str a.claimsPayload.evidenceDigest, .str a.claimsPayload.issuedAt,
      .str a.claimsPayload.expiresAt, .str a.claimsPayload.nonce,
      .str a.claimsPayload.sourceVerificationDigest,
      Dict.get a.claimsPayload.claimsEntries "challenge_digest",
      Dict.get a.claimsPayload.claimsEntries "credential_principal_identity",
      .str (artifactText a)] := by
  have hclaims : a.projection.get "claims_payload" = a.claimsPayload.toPayload := by
    simp [ArtifactFields.projection, Dict.get, List.lookup_cons]
  simp only [artifactRow, hclaims, toPayload_claims, dumps_claims, dumps_artifact]
  simp [ClaimsFields.claimsEntries, ClaimsFields.identityPayload, Dict.get, List.lookup_cons]

omit [TimestampLibrary] [LawfulTextLibrary] [LawfulZonedTimeLibrary] [LawfulDigestLibrary]
  [LawfulInfixLibrary] in
/-- What the claims columns say is what the claims hold. -/
theorem expectedClaims_hold (a : ArtifactFields) :
    ∀ entry ∈ expectedClaims (artifactRow a a.projection)
      (Value.texts a.claimsPayload.grantedCapabilities),
      Dict.get (sortEntries a.claimsPayload.claimsEntries) entry.1 = entry.2 := by
  have hget := sortEntries_get a.claimsPayload.claimsEntries_keys.1
  have hnames := claimsEntries_names a.claimsPayload.toClaimsFields
  have hgranted : Dict.get (sortEntries a.claimsPayload.claimsEntries) "granted_capabilities" =
      Value.texts a.claimsPayload.grantedCapabilities := by
    rw [hget]
    simp [ClaimsFields.claimsEntries, ClaimsFields.identityPayload, Dict.get, List.lookup_cons]
  have hextension : ∀ entry ∈ (if cell (artifactRow a a.projection) 10 = .str "2" then
      [("challenge_digest", cell (artifactRow a a.projection) 30),
        ("credential_principal_identity", cell (artifactRow a a.projection) 31)] else []),
      Dict.get (sortEntries a.claimsPayload.claimsEntries) entry.1 = entry.2 := by
    split_ifs
    · simp only [List.forall_mem_cons, hget, List.not_mem_nil, false_implies, implies_true,
        and_true]
      rw [artifactRow_eq]
      exact ⟨rfl, rfl⟩
    · simp
  rw [expectedClaims, List.forall_mem_append]
  refine ⟨?_, hextension⟩
  rw [artifactRow_eq]
  simp only [List.forall_mem_cons, List.not_mem_nil, false_implies, implies_true, and_true]
  exact ⟨hnames.version, hnames.issuer, hnames.key, hnames.algorithm, hnames.credentialClass,
    hnames.credential, hnames.subject, hnames.repository, hgranted, hnames.driver,
    hnames.authority, hnames.preview, hnames.revision, hnames.operations, hnames.snapshot,
    hnames.evidence, hnames.issuedAt, hnames.expiresAt, hnames.nonce, hnames.source⟩

theorem readArtifactRow_eq (a : PersistedAttestationArtifact) :
    readArtifactRow (artifactRow a.toArtifactFields a.projection) = .ok a := by
  have hartifact := ofRecord_ok (artifact_fromUntrusted
    (List.Perm.refl (canonicalEntries a.toArtifactFields)))
  have hexpected := expectedClaims_hold a.toArtifactFields
  have hpayload : artifactPayload (artifactRow a.toArtifactFields a.projection)
      (.dict a.claimsPayload.canonicalPayload) = canonicalEntries a.toArtifactFields := by
    rw [artifactRow_eq]
    rfl
  have hcells : cell (artifactRow a.toArtifactFields a.projection) 4 =
        .str (dumps (.dict a.claimsPayload.canonicalPayload)) ∧
      cell (artifactRow a.toArtifactFields a.projection) 18 =
        .str (dumps (Value.texts a.claimsPayload.grantedCapabilities)) ∧
      cell (artifactRow a.toArtifactFields a.projection) 32 =
        .str (artifactText a.toArtifactFields) := by
    rw [artifactRow_eq]
    exact ⟨rfl, rfl, rfl⟩
  have hdumps : dumps (.dict (canonicalEntries a.toArtifactFields)) =
      artifactText a.toArtifactFields := dumps_sorted (canonicalEntries_keys _).1
  have hvalues : (members (.dict a.claimsPayload.canonicalPayload)).get "claims" =
      .dict (sortEntries a.claimsPayload.claimsEntries) := by
    rw [canonicalPayload_eq]
    simp [members, Value.mapping?, Dict.get]
  simp only [readArtifactRow, hcells, loadsCell_dumps (canonicalPayload_plain _),
    loadsCell_dumps (plain_texts _), hpayload, hdumps, hvalues, hartifact, store_bind_ok]
  rw [storeErrorIf_neg, store_bind_ok, storeErrorIf_neg, store_bind_ok, storeErrorIf_neg,
    store_bind_ok]
  · rfl
  · rw [members_dict]
    exact not_not.mpr hexpected
  · rw [mapping_dict]
    exact Option.some_ne_none _
  · rw [mapping_dict]
    exact not_or.mpr ⟨Option.some_ne_none _, not_not.mpr rfl⟩

/-! ## Rows are admitted -/

omit [LawfulInfixLibrary] in
/-- The extension columns of claims hold what their version asks for. -/
theorem claims_extension (claims : CredentialCapabilityAttestationClaims) :
    (claims.attestationVersion = "1" ∧
        Dict.get claims.claimsEntries "challenge_digest" = .null ∧
        Dict.get claims.claimsEntries "credential_principal_identity" = .null) ∨
      (claims.attestationVersion = "2" ∧
        Dict.get claims.claimsEntries "challenge_digest" = .str claims.challengeDigest ∧
        Dict.get claims.claimsEntries "credential_principal_identity" =
          .str claims.credentialPrincipalIdentity) := by
  rcases claims.sound.extension with ⟨hversion, -, -⟩ | ⟨hversion, -, -⟩
  · refine .inl ⟨hversion, ?_⟩
    simp [ClaimsFields.claimsEntries, ClaimsFields.identityPayload, ClaimsFields.extension,
      hversion, Dict.get, List.lookup_cons]
  · refine .inr ⟨hversion, ?_⟩
    simp [ClaimsFields.claimsEntries, ClaimsFields.identityPayload, ClaimsFields.extension,
      hversion, Dict.get, List.lookup_cons]

theorem artifactRow_admitted (a : PersistedAttestationArtifact) :
    artifactsTable.admits (artifactRow a.toArtifactFields a.projection) = true := by
  obtain ⟨original, created, issued, expires, horiginal, hcreated, hissued, hexpires, -⟩ :=
    a.sound.times
  have hclaims := a.claimsPayload.sound
  have hattestation := a.sound.attestation ▸ hclaims.attestation.settled.nonEmpty
  have hproof := (proofPattern_graphic a.sound.proof).2
  have htext := dumps_dict_ne_empty (sortEntries (canonicalEntries a.toArtifactFields))
  have hversion : a.claimsPayload.attestationVersion ∈ ["1", "2"] := by
    rcases hclaims.extension with h | h
    · exact h.1 ▸ List.mem_cons_self
    · exact h.1 ▸ List.mem_cons_of_mem _ List.mem_cons_self
  have hnullable : ∀ key ∈ ["challenge_digest", "credential_principal_identity"],
      ColumnKind.nullable.admits (Dict.get a.claimsPayload.claimsEntries key) = true := by
    simp only [List.forall_mem_cons, List.not_mem_nil, false_implies, implies_true, and_true]
    rcases claims_extension a.claimsPayload with h | h
    · rw [h.2.1, h.2.2]
      exact ⟨rfl, rfl⟩
    · rw [h.2.1, h.2.2]
      exact ⟨rfl, rfl⟩
  have hversions : (cell (artifactRow a.toArtifactFields a.projection) 10 = .str "1" ∧
        cell (artifactRow a.toArtifactFields a.projection) 30 = .null ∧
        cell (artifactRow a.toArtifactFields a.projection) 31 = .null) ∨
      (cell (artifactRow a.toArtifactFields a.projection) 10 = .str "2" ∧
        cell (artifactRow a.toArtifactFields a.projection) 30 ≠ .null ∧
        cell (artifactRow a.toArtifactFields a.projection) 31 ≠ .null) := by
    rw [artifactRow_eq]
    rcases claims_extension a.claimsPayload with ⟨hone, hc, hp⟩ | ⟨htwo, hc, hp⟩
    · exact .inl ⟨congrArg Value.str hone, hc, hp⟩
    · refine .inr ⟨congrArg Value.str htwo, ?_, ?_⟩
      · exact fun h => by cases hc.symm.trans h
      · exact fun h => by cases hp.symm.trans h
  have hcolumns : columnsAdmit artifactColumns (artifactRow a.toArtifactFields a.projection) =
      true := by
    rw [artifactRow_eq]
    simp only [artifactColumns, columnsAdmit, Bool.and_eq_true, and_true]
    exact ⟨admits_text a.sound.workspace.nonEmpty, admits_text (hexPattern_ne_empty a.sound.artifactIdForm),
      admits_oneOf List.mem_cons_self, admits_text hattestation,
      admits_text (dumps_dict_ne_empty _), admits_text hproof, a.sound.claimsDigestForm,
      a.sound.contentForm, admits_text horiginal.settled.nonEmpty,
      admits_text hcreated.settled.nonEmpty, admits_oneOf hversion,
      admits_text hclaims.issuer.settled.nonEmpty, admits_text hclaims.key.settled.nonEmpty,
      admits_text hclaims.algorithm.settled.nonEmpty,
      admits_text hclaims.credentialClass.settled.nonEmpty,
      admits_text hclaims.credential.settled.nonEmpty, admits_text hclaims.subject.nonEmpty,
      admits_text hclaims.repository.nonEmpty, admits_text (dumps_texts_ne_empty _),
      admits_text hclaims.driver.nonEmpty, hclaims.authority.pattern,
      admits_text hclaims.preview.settled.nonEmpty, admits_positive hclaims.revision,
      hclaims.operations.pattern, hclaims.snapshot.pattern, hclaims.evidence.pattern,
      admits_text hissued.settled.nonEmpty, admits_text hexpires.settled.nonEmpty,
      admits_text hclaims.nonce.settled.nonEmpty, hclaims.source.pattern,
      hnullable _ List.mem_cons_self, hnullable _ (List.mem_cons_of_mem _ List.mem_cons_self),
      admits_text htext⟩
  exact Bool.and_eq_true_iff.mpr ⟨hcolumns, decide_eq_true hversions⟩

omit [PythonLibrary] [UnicodeLibrary] [ZonedTimeLibrary] [TimestampLibrary] [LawfulTextLibrary]
  [LawfulZonedTimeLibrary] [LawfulDigestLibrary] [LawfulInfixLibrary] in
/-- The row of a reference, cell by cell. -/
theorem referenceRow_eq (r : ReferenceFields) : referenceRow r.projection =
    [.str r.workspaceIdentity, .str r.referenceId, .str r.artifactId, .str r.artifactDigest,
      .str r.bindingId, .str r.repositoryIdentity, .str r.githubSubjectIdentity,
      .str r.driverIdentity, .str r.remoteAuthority, .str r.previewId, .int r.revision,
      .str r.planDigest, .str r.sealedPreviewDigest, .str r.operationSetDigest,
      .str r.remoteSnapshotDigest, .str r.auditId, .str r.auditDigest, .str r.evidenceId,
      .str r.evidenceDigest, .str r.originalVerifiedAt, .str r.referenceContractVersion,
      .str r.bindingReferenceDigest, r.extension.get "credential_principal_identity",
      r.extension.get "challenge_digest", .str (referenceText r)] := by
  rw [referenceRow, dumps_reference]
  simp [referenceRowKeys, ReferenceFields.projection, Dict.get, List.lookup_cons]

omit [LawfulDigestLibrary] in
/-- The extension columns of a reference hold what its version asks for. -/
theorem reference_extension (r : AttestationBindingReference) :
    (r.referenceContractVersion = referenceContractVersion ∧
        r.extension.get "credential_principal_identity" = .null ∧
        r.extension.get "challenge_digest" = .null) ∨
      (r.referenceContractVersion = referenceV2ContractVersion ∧
        r.extension.get "credential_principal_identity" = .str r.credentialPrincipalIdentity ∧
        r.extension.get "challenge_digest" = .str r.challengeDigest) := by
  by_cases htwo : r.referenceContractVersion = referenceV2ContractVersion
  · refine .inr ⟨htwo, ?_⟩
    simp [ReferenceFields.extension, htwo, Dict.get, List.lookup_cons]
  · refine .inl ⟨r.sound.version.resolve_right htwo, ?_⟩
    simp [ReferenceFields.extension, htwo, Dict.get]

omit [LawfulDigestLibrary] in
theorem referenceRow_admitted (r : AttestationBindingReference) :
    referencesTable.admits (referenceRow r.projection) = true := by
  obtain ⟨original, horiginal⟩ := r.sound.original
  have htexts := r.sound.texts
  have hdigests := r.sound.digests
  have htext := dumps_dict_ne_empty (sortEntries r.projection)
  simp only [List.forall_mem_cons, List.not_mem_nil, false_implies, implies_true, and_true]
    at htexts hdigests
  obtain ⟨hworkspace, hrepository, hsubject, hdriver, hpreview, haudit, hevidence⟩ := htexts
  obtain ⟨hartifactDigest, hauthority, hplan, hsealed, hoperations, hsnapshot, hauditDigest,
    hevidenceDigest, hreferenceDigest⟩ := hdigests
  have hversion : r.referenceContractVersion ∈
      [referenceContractVersion, referenceV2ContractVersion] := by
    simpa using r.sound.version
  have hnullable : ColumnKind.nullable.admits (r.extension.get "credential_principal_identity") =
        true ∧ ColumnKind.nullable.admits (r.extension.get "challenge_digest") = true := by
    rcases reference_extension r with ⟨-, hp, hc⟩ | ⟨-, hp, hc⟩
    · rw [hp, hc]
      exact ⟨rfl, rfl⟩
    · rw [hp, hc]
      exact ⟨rfl, rfl⟩
  have hversions : (cell (referenceRow r.projection) 20 = .str referenceContractVersion ∧
        cell (referenceRow r.projection) 22 = .null ∧
        cell (referenceRow r.projection) 23 = .null) ∨
      (cell (referenceRow r.projection) 20 = .str referenceV2ContractVersion ∧
        cell (referenceRow r.projection) 22 ≠ .null ∧
        cell (referenceRow r.projection) 23 ≠ .null) := by
    rw [referenceRow_eq]
    rcases reference_extension r with ⟨hone, hp, hc⟩ | ⟨htwo, hp, hc⟩
    · exact .inl ⟨congrArg Value.str hone, hp, hc⟩
    · refine .inr ⟨congrArg Value.str htwo, ?_, ?_⟩
      · exact fun h => by cases hp.symm.trans h
      · exact fun h => by cases hc.symm.trans h
  have hcolumns : columnsAdmit referenceColumns (referenceRow r.projection) = true := by
    rw [referenceRow_eq]
    simp only [referenceColumns, columnsAdmit, Bool.and_eq_true, and_true]
    exact ⟨admits_text hworkspace.nonEmpty,
      admits_text (hexPattern_ne_empty r.sound.referenceIdForm),
      admits_text (hexPattern_ne_empty r.sound.artifactId), hartifactDigest,
      admits_text (hexPattern_ne_empty r.sound.bindingId), admits_text hrepository.nonEmpty,
      admits_text hsubject.nonEmpty, admits_text hdriver.nonEmpty, hauthority,
      admits_text hpreview.nonEmpty, admits_positive r.sound.revision, hplan, hsealed,
      hoperations, hsnapshot, admits_text haudit.nonEmpty, hauditDigest,
      admits_text hevidence.nonEmpty, hevidenceDigest, admits_text horiginal.settled.nonEmpty,
      admits_oneOf hversion, hreferenceDigest, hnullable.1, hnullable.2, admits_text htext⟩
  exact Bool.and_eq_true_iff.mpr ⟨hcolumns, decide_eq_true hversions⟩

omit [PythonLibrary] [UnicodeLibrary] [ZonedTimeLibrary] [TimestampLibrary] [LawfulTextLibrary]
  [LawfulZonedTimeLibrary] [LawfulDigestLibrary] [LawfulInfixLibrary] in
/-- The row of an event, cell by cell. -/
theorem eventRow_eq (e : EventFields) (sequence : Int) : eventRow e.projection sequence =
    [.str e.workspaceIdentity, .str e.eventId, .str "1", .str "1", .str e.artifactId,
      .str e.artifactDigest, .str e.revalidationAttemptId, .str e.revalidationContextDigest,
      .str e.bindingReferenceDigest, .str e.outcome, .str e.revalidatedAt,
      .textOrNone e.failureCode, .textOrNone e.resultDigest, .str e.eventPayloadDigest,
      .int sequence, .str (eventText e)] := by
  rw [eventRow, dumps_event]
  simp [EventFields.projection, Dict.get, List.lookup_cons]

omit [LawfulDigestLibrary] in
theorem eventRow_admitted (e : AttestationRevalidationEvent) {sequence : Int}
    (hsequence : 1 ≤ sequence) : eventsTable.admits (eventRow e.projection sequence) = true := by
  obtain ⟨revalidated, hrevalidated⟩ := e.sound.revalidated
  have hdigests := e.sound.digests
  have htext := dumps_dict_ne_empty (sortEntries e.projection)
  simp only [List.forall_mem_cons, List.not_mem_nil, false_implies, implies_true, and_true]
    at hdigests
  obtain ⟨hartifactDigest, hcontext, hreferenceDigest, hpayload⟩ := hdigests
  have hattempt : e.revalidationAttemptId ≠ "" := by
    intro hempty
    have hpattern := e.sound.attempt
    rw [hempty] at hpattern
    simp [attemptPattern] at hpattern
  have houtcome : e.outcome ∈ ["Successful", "Failed"] := by
    rcases e.sound.conclusion with h | h
    · exact h.1 ▸ List.mem_cons_self
    · exact h.1 ▸ List.mem_cons_of_mem _ List.mem_cons_self
  have hnonEmpty : ∀ code ∈ attestationRevalidationFailureCodes, code ≠ "" := by decide
  have hconclusion : ColumnKind.optionalText.admits (.textOrNone e.failureCode) = true ∧
      ColumnKind.optionalDigest.admits (.textOrNone e.resultDigest) = true ∧
      ((Value.str e.outcome = .str "Successful" ∧ Value.textOrNone e.failureCode = .null ∧
          Value.textOrNone e.resultDigest ≠ .null) ∨
        (Value.str e.outcome = .str "Failed" ∧ Value.textOrNone e.failureCode ≠ .null ∧
          Value.textOrNone e.resultDigest = .null)) := by
    rcases e.sound.conclusion with ⟨hout, hfailure, digest, hresult, hform⟩ |
      ⟨hout, hresult, code, hcode, hfailure⟩
    · rw [hout, hfailure, hresult]
      exact ⟨rfl, hform, .inl ⟨rfl, rfl, fun h => by cases h⟩⟩
    · rw [hout, hfailure, hresult]
      exact ⟨admits_text (hnonEmpty code hcode), rfl, .inr ⟨rfl, (fun h => by cases h), rfl⟩⟩
  have hcolumns : columnsAdmit eventColumns (eventRow e.projection sequence) = true := by
    rw [eventRow_eq]
    simp only [eventColumns, columnsAdmit, Bool.and_eq_true, and_true]
    exact ⟨admits_text e.sound.workspace.nonEmpty,
      admits_text (hexPattern_ne_empty e.sound.eventIdForm), admits_oneOf List.mem_cons_self,
      admits_oneOf List.mem_cons_self, admits_text (hexPattern_ne_empty e.sound.artifactId),
      hartifactDigest, admits_text hattempt, hcontext, hreferenceDigest, admits_oneOf houtcome,
      admits_text hrevalidated.settled.nonEmpty, hconclusion.1, hconclusion.2.1, hpayload,
      admits_positive hsequence, admits_text htext⟩
  have houtcomes : (cell (eventRow e.projection sequence) 9 = .str "Successful" ∧
        cell (eventRow e.projection sequence) 11 = .null ∧
        cell (eventRow e.projection sequence) 12 ≠ .null) ∨
      (cell (eventRow e.projection sequence) 9 = .str "Failed" ∧
        cell (eventRow e.projection sequence) 11 ≠ .null ∧
        cell (eventRow e.projection sequence) 12 = .null) := by
    rw [eventRow_eq]
    exact hconclusion.2.2
  exact Bool.and_eq_true_iff.mpr ⟨hcolumns, decide_eq_true houtcomes⟩

omit [LawfulInfixLibrary] in
theorem artifactRow_integer (a : PersistedAttestationArtifact) :
    HoldsInteger (artifactRow a.toArtifactFields a.projection) a.claimsPayload.revision := by
  have hextension := claims_extension a.claimsPayload
  rw [artifactRow_eq]
  refine ⟨by simp, ?_⟩
  rcases hextension with ⟨-, hc, hp⟩ | ⟨-, hc, hp⟩
  · simp [hc, hp]
  · simp [hc, hp]

omit [LawfulDigestLibrary] in
theorem referenceRow_integer (r : AttestationBindingReference) :
    HoldsInteger (referenceRow r.projection) r.revision := by
  have hextension := reference_extension r
  rw [referenceRow_eq]
  refine ⟨by simp, ?_⟩
  rcases hextension with ⟨-, hp, hc⟩ | ⟨-, hp, hc⟩
  · simp [hc, hp]
  · simp [hc, hp]

omit [TimestampLibrary] [LawfulTextLibrary] [LawfulZonedTimeLibrary] [LawfulDigestLibrary]
  [LawfulInfixLibrary] in
theorem eventRow_integer (e : AttestationRevalidationEvent) (sequence : Int) :
    HoldsInteger (eventRow e.projection sequence) sequence := by
  have hnullable : ∀ s : Option String,
      Value.textOrNone s = .null ∨ ∃ t, Value.textOrNone s = .str t := by
    intro s
    cases s with
    | none => exact .inl rfl
    | some t => exact .inr ⟨t, rfl⟩
  rw [eventRow_eq]
  refine ⟨by simp, ?_⟩
  simp [hnullable]

end
end DeliverySystem.AttestationTables

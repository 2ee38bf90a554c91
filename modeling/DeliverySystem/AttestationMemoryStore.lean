import DeliverySystem.AttestationStoreContract
import DeliverySystem.KeyedRows
import Mathlib.Data.Finset.Basic
import Mathlib.Data.List.MinMax

/-!
# The attestation store in memory

Snapshots are kept as canonical JSON text under the key of their artifact, events
under their identities within it. Every read parses the snapshots, makes the
records again, and compares them with the text; what the store has written itself
passes, so the store answers as the ledger does.
-/
namespace DeliverySystem.AttestationMemoryStore
open PythonValues CanonicalValues JsonText AuthorityBindings AttestationClaims
open AttestationArtifacts AttestationRecords SequencedLogs AttestationStoreContract KeyedRows
set_option autoImplicit false

/-- The number and the snapshot of an event. -/
abbrev EventEntry := Int × String

structure InMemoryAttestationPersistenceStore where
  artifactSnapshots : Rows Key String
  referenceSnapshots : Rows Key String
  aggregateKeys : Finset Key
  eventSnapshots : Rows Key (Rows String EventEntry)
  eventPartitions : Finset Key

namespace InMemoryAttestationPersistenceStore

local instance sequencePreorder : Preorder ℤ := Int.instLinearOrder.toPreorder

def empty : InMemoryAttestationPersistenceStore :=
  ⟨.empty, .empty, ∅, .empty, ∅⟩

def aggregateCorrupt : String := "attestation_artifact_aggregate_corrupt"

def eventCorrupt : String := "attestation_revalidation_event_corrupt"

section
variable [PythonLibrary] [UnicodeLibrary] [ZonedTimeLibrary]

/-! ## Snapshots -/

/-- `_snapshot` -/
def snapshot (payload : Dict) : Py String := do
  let value ← CanonicalValues.normalize (.dict payload)
  pure (dumps value)

def artifactSnapshot (artifact : PersistedAttestationArtifact) : StorePy String :=
  ofRecord (artifact.toPayload >>= snapshot)

def referenceSnapshot (reference : AttestationBindingReference) : StorePy String :=
  ofRecord (reference.toPayload >>= snapshot)

def eventSnapshot (e : AttestationRevalidationEvent) : StorePy String :=
  ofRecord (e.toPayload >>= snapshot)

/-- `_json_snapshot` -/
def jsonSnapshot (text errorCode : String) : StorePy Value :=
  match loads jsonObject text with
  | some (.dict parsed) => .ok (.dict parsed)
  | _ => storeError errorCode

/-! ## Keys -/

/-- `_partition_key` -/
def partitionKey (key : Key) (errorCode : String) : StorePy Unit :=
  storeErrorsAs errorCode do
    let workspace ← ofRecord (persistedText (.str key.1))
    storeErrorIf (workspace ≠ key.1) errorCode
    let artifactId ← ofRecord (exactText (.str key.2) (hexPattern "artifact-"))
    storeErrorIf (artifactId ≠ key.2) errorCode

/-- `_key` -/
def keyOf (workspaceIdentity artifactId : String) : StorePy Key := do
  let workspace ← ofRecord (persistedText (.str workspaceIdentity))
  let artifact ← ofRecord (exactText (.str artifactId) (hexPattern "artifact-"))
  pure (workspace, artifact)

def validateKeys : List Key → String → StorePy Unit
  | [], _ => .ok ()
  | key :: keys, errorCode => do
      partitionKey key errorCode
      validateKeys keys errorCode

/-- The same for a set: which key is found wanting first does not show. -/
def validateKeySet (keys : Finset Key) (errorCode : String) : StorePy Unit :=
  if ∀ key ∈ keys, partitionKey key errorCode = .ok () then .ok () else storeError errorCode

/-- `_validate_aggregate_containers_locked` -/
def validateAggregateContainers (m : InMemoryAttestationPersistenceStore) : StorePy Unit := do
  validateKeys (m.artifactSnapshots.entries.map Prod.fst) aggregateCorrupt
  validateKeys (m.referenceSnapshots.entries.map Prod.fst) aggregateCorrupt
  validateKeySet m.aggregateKeys aggregateCorrupt

/-- `_validate_event_containers_locked` -/
def validateEventContainers (m : InMemoryAttestationPersistenceStore) : StorePy Unit := do
  validateKeys (m.eventSnapshots.entries.map Prod.fst) eventCorrupt
  validateKeySet m.eventPartitions eventCorrupt

/-! ## Reading -/

/-- `_event_state_locked` -/
def eventState (m : InMemoryAttestationPersistenceStore) (key : Key) :
    StorePy (Option (Rows String EventEntry)) := do
  m.validateEventContainers
  match m.eventSnapshots.lookup key with
  | none => if key ∈ m.eventPartitions then storeError eventCorrupt else .ok none
  | some records =>
      if key ∈ m.eventPartitions ∧ records.entries ≠ [] then .ok (some records)
      else storeError eventCorrupt

/-- The two snapshots of a key, parsed, made again, and compared. -/
def readSnapshots (key : Key) (artifactText referenceText : String) :
    StorePy AttestationArtifactAggregate :=
  storeErrorsAs aggregateCorrupt do
    let parsedArtifact ← jsonSnapshot artifactText aggregateCorrupt
    let artifact ← ofRecord (PersistedAttestationArtifact.fromUntrusted parsedArtifact)
    let parsedReference ← jsonSnapshot referenceText aggregateCorrupt
    let reference ← ofRecord (AttestationBindingReference.fromUntrusted parsedReference)
    let (artifact, reference) ← ofRecord (validateArtifactAggregate artifact reference)
    storeErrorIf (key ≠ artifactKey artifact.toArtifactFields) aggregateCorrupt
    let artifactAgain ← artifactSnapshot artifact
    storeErrorIf (artifactText ≠ artifactAgain) aggregateCorrupt
    let referenceAgain ← referenceSnapshot reference
    storeErrorIf (referenceText ≠ referenceAgain) aggregateCorrupt
    ofRecord (AttestationArtifactAggregate.make artifact reference)

/-- `_read_aggregate_locked` -/
def readAggregate (m : InMemoryAttestationPersistenceStore) (key : Key) :
    StorePy (Option AttestationArtifactAggregate) := do
  m.validateAggregateContainers
  match decide (key ∈ m.aggregateKeys), m.artifactSnapshots.lookup key,
    m.referenceSnapshots.lookup key with
  | false, none, none => .ok none
  | true, some artifactText, some referenceText =>
      some <$> readSnapshots key artifactText referenceText
  | _, _, _ => storeError aggregateCorrupt

/-- One record of `_read_events_locked`. -/
def readEvent (key : Key) (aggregate : AttestationArtifactAggregate) (sequences : List Int)
    (record : String × EventEntry) : StorePy (String × Int × AttestationRevalidationEvent) := do
  let (indexedId, sequence, text) := record
  storeErrorIf (sequence < 1) eventCorrupt
  let parsed ← jsonSnapshot text eventCorrupt
  let e ← ofRecord (AttestationRevalidationEvent.fromUntrusted parsed)
  storeErrorIf (e.eventId ≠ indexedId) eventCorrupt
  storeErrorIf (eventKey e.toEventFields ≠ key) eventCorrupt
  storeErrorIf (¬Tells e.toEventFields aggregate) eventCorrupt
  let again ← eventSnapshot e
  storeErrorIf (text ≠ again) eventCorrupt
  storeErrorIf (sequence ∈ sequences) eventCorrupt
  pure (indexedId, sequence, e)

/-- The loop of `_read_events_locked`. -/
def readRecords (key : Key) (aggregate : AttestationArtifactAggregate) :
    List Int → List (String × EventEntry) →
      StorePy (List (String × Int × AttestationRevalidationEvent))
  | _, [] => .ok []
  | sequences, record :: records => do
      let parsed ← readEvent key aggregate sequences record
      let rest ← readRecords key aggregate (sequences ++ [parsed.2.1]) records
      pure (parsed :: rest)

/-- `_read_events_locked` -/
def readEvents (m : InMemoryAttestationPersistenceStore) (key : Key)
    (aggregate : AttestationArtifactAggregate) :
    StorePy (List (String × Int × AttestationRevalidationEvent)) := do
  let records ← m.eventState key
  match records with
  | none => .ok []
  | some records =>
      storeErrorsAs eventCorrupt do
        let parsed ← readRecords key aggregate [] records.entries
        storeErrorIf ((parsed.map fun record => record.2.1).insertionSort (· ≤ ·) ≠
          sequencesTo parsed.length) eventCorrupt
        pure parsed

/-! ## The four methods -/

/-- A call that raises leaves the containers as they are: the writes come last, and
only records that were made already are made again after them. -/
def answer {α : Type} (m : InMemoryAttestationPersistenceStore)
    (result : StorePy (α × InMemoryAttestationPersistenceStore)) :
    Except String α × InMemoryAttestationPersistenceStore :=
  match result with
  | .ok (a, m') => (.ok a, m')
  | .error e => (.error e.code, m)

def persistLocked (m : InMemoryAttestationPersistenceStore)
    (artifact : PersistedAttestationArtifact) (reference : AttestationBindingReference) :
    StorePy (AttestationArtifactAggregate × InMemoryAttestationPersistenceStore) := do
  let artifact ← ofRecord artifact.again
  let reference ← ofRecord reference.again
  let (artifact, reference) ← ofRecord (validateArtifactAggregate artifact reference)
  let candidate ← ofRecord (AttestationArtifactAggregate.make artifact reference)
  let key := artifactKey candidate.artifact.toArtifactFields
  let artifactText ← artifactSnapshot candidate.artifact
  let referenceText ← referenceSnapshot candidate.bindingReference
  let _ ← m.eventState key
  let existing ← m.readAggregate key
  match existing with
  | none => do
      let events ← m.eventState key
      storeErrorIf (events ≠ none) eventCorrupt
      pure (candidate,
        { m with
          artifactSnapshots := m.artifactSnapshots.put key artifactText
          referenceSnapshots := m.referenceSnapshots.put key referenceText
          aggregateKeys := insert key m.aggregateKeys })
  | some existing => do
      let existingArtifact ← artifactSnapshot existing.artifact
      storeErrorIf (existing.artifact.artifactDigest ≠ candidate.artifact.artifactDigest ∨
        existingArtifact ≠ artifactText) "attestation_artifact_conflict"
      let existingReference ← referenceSnapshot existing.bindingReference
      storeErrorIf (existing.bindingReference.bindingReferenceDigest ≠
          candidate.bindingReference.bindingReferenceDigest ∨
        existingReference ≠ referenceText) "attestation_binding_reference_conflict"
      let again ← ofRecord
        (AttestationArtifactAggregate.make existing.artifact existing.bindingReference)
      pure (again, m)

/-- The aggregate of a key, and no events without one. -/
def aggregateOf (m : InMemoryAttestationPersistenceStore) (key : Key) :
    StorePy (Option AttestationArtifactAggregate) := do
  let aggregate ← m.readAggregate key
  match aggregate with
  | none => do
      let events ← m.eventState key
      storeErrorIf (events ≠ none) eventCorrupt
      pure none
  | some aggregate => .ok (some aggregate)

def getLocked (m : InMemoryAttestationPersistenceStore) (workspaceIdentity artifactId : String) :
    StorePy (Option AttestationArtifactAggregate) := do
  let key ← keyOf workspaceIdentity artifactId
  let aggregate ← m.aggregateOf key
  match aggregate with
  | none => pure none
  | some aggregate => do
      let _ ← m.eventState key
      pure (some aggregate)

def appendLocked (m : InMemoryAttestationPersistenceStore) (e : AttestationRevalidationEvent) :
    StorePy (SequencedAttestationRevalidationEvent × InMemoryAttestationPersistenceStore) := do
  let e ← ofRecord e.again
  let key := eventKey e.toEventFields
  let aggregate ← m.aggregateOf key
  match aggregate with
  | none => storeError "attestation_artifact_not_found"
  | some aggregate => do
      storeErrorIf (¬Tells e.toEventFields aggregate)
        "attestation_revalidation_event_binding_mismatch"
      let events ← m.readEvents key aggregate
      let candidate ← eventSnapshot e
      match events.find? fun record => record.1 = e.eventId with
      | some (_, sequence, existing) => do
          let text ← eventSnapshot existing
          if text ≠ candidate then
            .error (.record (.valueError "attestation_revalidation_event_conflict"))
          else do
            let sequenced ← ofRecord
              (SequencedAttestationRevalidationEvent.make (.int sequence) existing)
            pure (sequenced, m)
      | none => do
          let sequence : Int := events.length + 1
          let sequenced ← ofRecord (SequencedAttestationRevalidationEvent.make (.int sequence) e)
          let records := (m.eventSnapshots.lookup key).getD .empty
          pure (sequenced,
            { m with
              eventPartitions := insert key m.eventPartitions
              eventSnapshots :=
                m.eventSnapshots.put key (records.put e.eventId (sequence, candidate)) })

def latestLocked (m : InMemoryAttestationPersistenceStore) (workspaceIdentity artifactId : String) :
    StorePy (Option SequencedAttestationRevalidationEvent) := do
  let key ← keyOf workspaceIdentity artifactId
  let aggregate ← m.aggregateOf key
  match aggregate with
  | none => storeError "attestation_artifact_not_found"
  | some aggregate => do
      let events ← m.readEvents key aggregate
      match events.argmax fun record => record.2.1 with
      | none => pure none
      | some (_, sequence, e) =>
          some <$> ofRecord (SequencedAttestationRevalidationEvent.make (.int sequence) e)

/-- The four methods; each call holds the lock from its first read to its last write. -/
def store : AttestationPersistenceStore InMemoryAttestationPersistenceStore where
  persistArtifact m artifact reference := m.answer (m.persistLocked artifact reference)
  getArtifactAggregate m workspaceIdentity artifactId :=
    (m.getLocked workspaceIdentity artifactId).mapError StoreRaised.code
  appendRevalidationEvent m e := m.answer (m.appendLocked e)
  getLatestRevalidationEvent m workspaceIdentity artifactId :=
    (m.latestLocked workspaceIdentity artifactId).mapError StoreRaised.code

end

/-! ## What was written is read back -/

theorem jsonSnapshot_dumps {entries : Dict} (h : Plain (.dict entries)) (errorCode : String) :
    jsonSnapshot (dumps (.dict entries)) errorCode = .ok (.dict entries) := by
  rw [jsonSnapshot, loads_dumps jsonObject_keeps h]

section
variable [PythonLibrary] [UnicodeLibrary] [ZonedTimeLibrary] [TimestampLibrary]
  [LawfulTextLibrary] [LawfulZonedTimeLibrary] [LawfulDigestLibrary] [LawfulInfixLibrary]

theorem artifactSnapshot_eq (a : PersistedAttestationArtifact) :
    artifactSnapshot a = .ok (artifactText a.toArtifactFields) := by
  refine ofRecord_ok ?_
  simp only [bind_eq_ok, snapshot, pure_eq_ok]
  exact ⟨_, a.toPayload_eq, _, artifact_normalize a.sound, rfl⟩

omit [LawfulDigestLibrary] in
theorem referenceSnapshot_eq (r : AttestationBindingReference) :
    referenceSnapshot r = .ok (referenceText r.toReferenceFields) := by
  refine ofRecord_ok ?_
  obtain ⟨hnodup, hgraphic, -⟩ := r.projection_keys
  simp only [bind_eq_ok, snapshot, pure_eq_ok]
  exact ⟨_, r.toPayload_eq, _, normalize_entries hgraphic hnodup r.sound.normalize, rfl⟩

omit [LawfulDigestLibrary] in
theorem eventSnapshot_eq (e : AttestationRevalidationEvent) :
    eventSnapshot e = .ok (eventText e.toEventFields) := by
  refine ofRecord_ok ?_
  obtain ⟨hnodup, hgraphic, -⟩ := e.projection_keys
  simp only [bind_eq_ok, snapshot, pure_eq_ok]
  exact ⟨_, e.toPayload_eq, _, normalize_entries hgraphic hnodup e.sound.normalize, rfl⟩

/-! ## The store stands for a ledger -/

/-- The record that is kept for a numbered event. -/
def recordOf (entry : ℕ × AttestationRevalidationEvent) : String × EventEntry :=
  (entry.2.eventId, (entry.1 : Int) + 1, eventText entry.2.toEventFields)

/-- A numbered event as it is read from its record. -/
def parsedOf (entry : ℕ × AttestationRevalidationEvent) :
    String × Int × AttestationRevalidationEvent :=
  (entry.2.eventId, (entry.1 : Int) + 1, entry.2)

def recordsOf (events : List AttestationRevalidationEvent) : List (String × EventEntry) :=
  (numbered events).map recordOf

/-- The containers hold the snapshots of what the ledger has, and nothing else. -/
structure Represents (m : InMemoryAttestationPersistenceStore) (ledger : Ledger) : Prop where
  keyed : ∀ key log, ledger key = some log → artifactKey log.head.artifact.toArtifactFields = key
  telling : ∀ key log, ledger key = some log → ∀ e ∈ log.events,
    eventKey e.toEventFields = key ∧ Tells e.toEventFields log.head
  distinct : ledger.Distinct eventName
  artifacts : ∀ key, m.artifactSnapshots.lookup key =
    (ledger key).map fun log => artifactText log.head.artifact.toArtifactFields
  references : ∀ key, m.referenceSnapshots.lookup key =
    (ledger key).map fun log => referenceText log.head.bindingReference.toReferenceFields
  aggregates : ∀ key, key ∈ m.aggregateKeys ↔ (ledger key).isSome
  quiet : ∀ key, m.eventSnapshots.lookup key = none ↔
    ∀ log, ledger key = some log → log.events = []
  records : ∀ key records, m.eventSnapshots.lookup key = some records →
    ∃ log, ledger key = some log ∧ log.events ≠ [] ∧ records.entries = recordsOf log.events
  partitions : ∀ key, key ∈ m.eventPartitions ↔ (m.eventSnapshots.lookup key).isSome

omit [TimestampLibrary] [LawfulTextLibrary] [LawfulZonedTimeLibrary] [LawfulDigestLibrary]
  [LawfulInfixLibrary] in
theorem empty_represents : Represents empty Logs.empty where
  keyed key log h := by cases h
  telling key log h := by cases h
  distinct key log h := by cases h
  artifacts key := rfl
  references key := rfl
  aggregates key := by simp [empty, Logs.empty]
  quiet key := iff_of_true rfl fun log h => by cases h
  records key records h := by cases h
  partitions key := by simp [empty]

theorem partitionKey_ok (a : PersistedAttestationArtifact) (errorCode : String) :
    partitionKey (artifactKey a.toArtifactFields) errorCode = .ok () := by
  have hworkspace := ofRecord_ok (Settled.persistedText a.sound.workspace)
  have hartifact := ofRecord_ok (exactText_eq_ok.mpr ⟨rfl, a.sound.artifactIdForm⟩)
  simp only [partitionKey, artifactKey, hworkspace, hartifact, store_bind_ok, ne_eq,
    not_true_eq_false, storeErrorIf, if_false, storeErrorsAs]

omit [ZonedTimeLibrary] [TimestampLibrary] [LawfulTextLibrary] [LawfulZonedTimeLibrary]
  [LawfulDigestLibrary] [LawfulInfixLibrary] in
theorem validateKeys_ok {keys : List Key} {errorCode : String}
    (h : ∀ key ∈ keys, partitionKey key errorCode = .ok ()) :
    validateKeys keys errorCode = .ok () := by
  induction keys with
  | nil => rfl
  | cons key keys ih =>
      rw [validateKeys, h key List.mem_cons_self, store_bind_ok]
      exact ih fun key hkey => h key (List.mem_cons_of_mem _ hkey)

section
variable {m : InMemoryAttestationPersistenceStore} {ledger : Ledger}

theorem Represents.partitionKey (h : m.Represents ledger) {key : Key}
    (hkey : (ledger key).isSome) (errorCode : String) :
    partitionKey key errorCode = .ok () := by
  obtain ⟨log, hlog⟩ := Option.isSome_iff_exists.mp hkey
  rw [← h.keyed key log hlog]
  exact partitionKey_ok log.head.artifact errorCode

omit [PythonLibrary] [UnicodeLibrary] [ZonedTimeLibrary] [TimestampLibrary] [LawfulTextLibrary]
  [LawfulZonedTimeLibrary] [LawfulDigestLibrary] [LawfulInfixLibrary] in
theorem isSome_of_mem_entries {record : Type} {rows : Rows Key record} {key : Key}
    (h : key ∈ rows.entries.map Prod.fst) : (rows.lookup key).isSome := by
  obtain ⟨⟨_, r⟩, hmem, rfl⟩ := List.mem_map.mp h
  rw [Rows.lookup_eq_some_iff.mpr hmem]
  rfl

theorem Represents.validateAggregateContainers (h : m.Represents ledger) :
    m.validateAggregateContainers = .ok () := by
  have hartifacts : ∀ key ∈ m.artifactSnapshots.entries.map Prod.fst, (ledger key).isSome := by
    intro key hkey
    simpa [h.artifacts] using isSome_of_mem_entries hkey
  have hreferences : ∀ key ∈ m.referenceSnapshots.entries.map Prod.fst, (ledger key).isSome := by
    intro key hkey
    simpa [h.references] using isSome_of_mem_entries hkey
  rw [InMemoryAttestationPersistenceStore.validateAggregateContainers,
    validateKeys_ok fun key hkey => h.partitionKey (hartifacts key hkey) _, store_bind_ok,
    validateKeys_ok fun key hkey => h.partitionKey (hreferences key hkey) _, store_bind_ok,
    validateKeySet, if_pos fun key hkey => h.partitionKey ((h.aggregates key).mp hkey) _]

omit [TimestampLibrary] [LawfulTextLibrary] [LawfulZonedTimeLibrary] [LawfulDigestLibrary]
  [LawfulInfixLibrary] in
theorem Represents.isSome_of_events (h : m.Represents ledger) {key : Key}
    (hkey : (m.eventSnapshots.lookup key).isSome) : (ledger key).isSome := by
  obtain ⟨records, hrecords⟩ := Option.isSome_iff_exists.mp hkey
  obtain ⟨log, hlog, -⟩ := h.records key records hrecords
  rw [hlog]
  rfl

theorem Represents.validateEventContainers (h : m.Represents ledger) :
    m.validateEventContainers = .ok () := by
  rw [InMemoryAttestationPersistenceStore.validateEventContainers,
    validateKeys_ok fun key hkey =>
      h.partitionKey (h.isSome_of_events (isSome_of_mem_entries hkey)) _, store_bind_ok,
    validateKeySet, if_pos fun key hkey =>
      h.partitionKey (h.isSome_of_events ((h.partitions key).mp hkey)) _]

omit [TimestampLibrary] [LawfulTextLibrary] [LawfulZonedTimeLibrary] [LawfulDigestLibrary]
  [LawfulInfixLibrary] in
theorem recordsOf_ne_nil {events : List AttestationRevalidationEvent} (h : events ≠ []) :
    recordsOf events ≠ [] := by
  intro hnil
  have hlength := congrArg List.length hnil
  rw [recordsOf, List.length_map, numbered_length, List.length_nil] at hlength
  exact h (List.length_eq_zero_iff.mp hlength)

theorem Represents.eventState (h : m.Represents ledger) (key : Key) :
    m.eventState key = .ok (m.eventSnapshots.lookup key) := by
  rw [InMemoryAttestationPersistenceStore.eventState, h.validateEventContainers, store_bind_ok]
  have hpartition := h.partitions key
  cases hlookup : m.eventSnapshots.lookup key with
  | none =>
      rw [hlookup] at hpartition
      exact if_neg (by simpa using hpartition)
  | some records =>
      obtain ⟨log, -, hne, hentries⟩ := h.records key records hlookup
      rw [hlookup] at hpartition
      refine if_pos ⟨by simpa using hpartition, ?_⟩
      rw [hentries]
      exact recordsOf_ne_nil hne

theorem readSnapshots_eq (aggregate : AttestationArtifactAggregate) :
    readSnapshots (artifactKey aggregate.artifact.toArtifactFields)
      (artifactText aggregate.artifact.toArtifactFields)
      (referenceText aggregate.bindingReference.toReferenceFields) = .ok aggregate := by
  have hartifact := ofRecord_ok (artifact_fromUntrusted
    (sortEntries_perm (canonicalEntries aggregate.artifact.toArtifactFields)))
  have hreference := ofRecord_ok (AttestationBindingReference.fromUntrusted_perm
    (sortEntries_perm aggregate.bindingReference.projection))
  simp only [readSnapshots, artifactText, referenceText, jsonSnapshot_dumps (canonicalEntries_plain _),
    jsonSnapshot_dumps (ReferenceFields.projection_plain _), hartifact, hreference, store_bind_ok,
    ofRecord_ok (validateArtifactAggregate_eq aggregate.matching), artifactSnapshot_eq,
    referenceSnapshot_eq, ne_eq, not_true_eq_false, storeErrorIf, if_false,
    ofRecord_ok (aggregate_make aggregate), storeErrorsAs]

theorem Represents.readAggregate (h : m.Represents ledger) (key : Key) :
    m.readAggregate key = .ok (ledger.aggregate key) := by
  rw [InMemoryAttestationPersistenceStore.readAggregate, h.validateAggregateContainers,
    store_bind_ok, h.artifacts, h.references, Ledger.aggregate]
  have hkeys := h.aggregates key
  cases hlog : ledger key with
  | none =>
      rw [hlog] at hkeys
      rw [decide_eq_false (by simpa using hkeys)]
      rfl
  | some log =>
      rw [hlog] at hkeys
      rw [decide_eq_true (by simpa using hkeys)]
      have hread := readSnapshots_eq log.head
      rw [h.keyed key log hlog] at hread
      simp only [Option.map_some, hread]
      rfl

omit [LawfulDigestLibrary] in
theorem readEvent_eq {key : Key} {aggregate : AttestationArtifactAggregate} {sequences : List Int}
    {entry : ℕ × AttestationRevalidationEvent} (hkey : eventKey entry.2.toEventFields = key)
    (htells : Tells entry.2.toEventFields aggregate) (hfresh : (entry.1 : Int) + 1 ∉ sequences) :
    readEvent key aggregate sequences (recordOf entry) = .ok (parsedOf entry) := by
  have hevent := ofRecord_ok (AttestationRevalidationEvent.fromUntrusted_perm
    (sortEntries_perm entry.2.projection))
  have hpositive : ¬(entry.1 : Int) + 1 < 1 := by omega
  simp only [readEvent, recordOf, eventText, jsonSnapshot_dumps (EventFields.projection_plain _),
    hevent, store_bind_ok, eventSnapshot_eq, hkey, htells, hfresh, ne_eq, not_true_eq_false,
    storeErrorIf, if_false, hpositive]
  rfl

omit [LawfulDigestLibrary] in
theorem readRecords_eq {key : Key} {aggregate : AttestationArtifactAggregate}
    (entries : List (ℕ × AttestationRevalidationEvent)) (sequences : List Int)
    (hentries : ∀ entry ∈ entries, eventKey entry.2.toEventFields = key ∧
      Tells entry.2.toEventFields aggregate) (hnodup : (entries.map Prod.fst).Nodup)
    (hfresh : ∀ entry ∈ entries, (entry.1 : Int) + 1 ∉ sequences) :
    readRecords key aggregate sequences (entries.map recordOf) = .ok (entries.map parsedOf) := by
  induction entries generalizing sequences with
  | nil => rfl
  | cons entry entries ih =>
      obtain ⟨hkey, htells⟩ := hentries entry List.mem_cons_self
      rw [List.map_cons, List.nodup_cons] at hnodup
      have hrest : ∀ other ∈ entries, (other.1 : Int) + 1 ∉ sequences ++ [(entry.1 : Int) + 1] := by
        intro other hother hmem
        rcases List.mem_append.mp hmem with hmem | hmem
        · exact hfresh other (List.mem_cons_of_mem _ hother) hmem
        · have hsame : other.1 = entry.1 := by
            have heq := List.mem_singleton.mp hmem
            omega
          exact hnodup.1 (hsame ▸ List.mem_map_of_mem hother)
      rw [List.map_cons, readRecords, readEvent_eq hkey htells (hfresh entry List.mem_cons_self),
        store_bind_ok]
      simp only [parsedOf]
      rw [ih _ (fun other hother => hentries other (List.mem_cons_of_mem _ hother)) hnodup.2 hrest,
        store_bind_ok]
      rfl

omit [TimestampLibrary] [LawfulTextLibrary] [LawfulZonedTimeLibrary] [LawfulDigestLibrary]
  [LawfulInfixLibrary] in
theorem parsed_sequences (events : List AttestationRevalidationEvent) :
    (((numbered events).map parsedOf).map fun record => record.2.1) =
      sequencesTo events.length := by
  rw [List.map_map, sequencesTo, ← numbered_fst events, List.map_map]
  rfl

/-- The events of a log are read with their numbers. -/
theorem Represents.readEvents (h : m.Represents ledger) {key : Key}
    {log : Log AttestationArtifactAggregate AttestationRevalidationEvent}
    (hlog : ledger key = some log) :
    m.readEvents key log.head = .ok ((numbered log.events).map parsedOf) := by
  rw [InMemoryAttestationPersistenceStore.readEvents, h.eventState, store_bind_ok]
  cases hlookup : m.eventSnapshots.lookup key with
  | none =>
      rw [(h.quiet key).mp hlookup log hlog]
      rfl
  | some records =>
      obtain ⟨log', hlog', -, hentries⟩ := h.records key records hlookup
      obtain rfl := Option.some.inj (hlog.symm.trans hlog')
      have hread := readRecords_eq (numbered log.events) []
        (fun entry hentry => h.telling key log hlog entry.2 (mem_of_mem_numbered hentry))
        (by rw [numbered_fst]; exact List.nodup_range) (by simp)
      simp only [hentries, recordsOf, hread, store_bind_ok, parsed_sequences, List.length_map,
        numbered_length, (sequencesTo_sorted _).insertionSort_eq, ne_eq, not_true_eq_false,
        storeErrorIf, if_false]
      rfl

theorem Represents.aggregateOf (h : m.Represents ledger) (key : Key) :
    m.aggregateOf key = .ok (ledger.aggregate key) := by
  rw [InMemoryAttestationPersistenceStore.aggregateOf, h.readAggregate, store_bind_ok]
  cases hlog : ledger key with
  | none =>
      have hquiet : m.eventSnapshots.lookup key = none := by
        rw [h.quiet]
        intro log hsome
        rw [hlog] at hsome
        cases hsome
      simp only [Ledger.aggregate, hlog, Option.map_none, h.eventState, hquiet, store_bind_ok]
      rfl
  | some log =>
      simp only [Ledger.aggregate, hlog, Option.map_some]

/-! ## The four methods answer as the ledger does -/

omit [TimestampLibrary] [LawfulTextLibrary] [LawfulZonedTimeLibrary] [LawfulDigestLibrary]
  [LawfulInfixLibrary] in
/-- A new artifact is entered with no events. -/
theorem Represents.opened (h : m.Represents ledger) (aggregate : AttestationArtifactAggregate)
    (hfree : ledger (artifactKey aggregate.artifact.toArtifactFields) = none) :
    Represents
      { m with
        artifactSnapshots := m.artifactSnapshots.put
          (artifactKey aggregate.artifact.toArtifactFields)
          (artifactText aggregate.artifact.toArtifactFields)
        referenceSnapshots := m.referenceSnapshots.put
          (artifactKey aggregate.artifact.toArtifactFields)
          (referenceText aggregate.bindingReference.toReferenceFields)
        aggregateKeys := insert (artifactKey aggregate.artifact.toArtifactFields) m.aggregateKeys }
      (ledger.opened (artifactKey aggregate.artifact.toArtifactFields) aggregate) := by
  have hlookup : ∀ key, ledger.opened (artifactKey aggregate.artifact.toArtifactFields) aggregate
      key = if key = artifactKey aggregate.artifact.toArtifactFields then some ⟨aggregate, []⟩
        else ledger key := fun key => Function.update_apply ..
  refine
    { keyed := ?_, telling := ?_, distinct := (Logs.Step.opened hfree).distinct h.distinct
      artifacts := ?_, references := ?_, aggregates := ?_, quiet := ?_, records := ?_
      partitions := h.partitions }
  · intro key log hlog
    rw [hlookup] at hlog
    split_ifs at hlog with hkey
    · obtain rfl := Option.some.inj hlog
      exact hkey.symm
    · exact h.keyed key log hlog
  · intro key log hlog e he
    rw [hlookup] at hlog
    split_ifs at hlog with hkey
    · obtain rfl := Option.some.inj hlog
      cases he
    · exact h.telling key log hlog e he
  · intro key
    rw [Rows.lookup_put, hlookup, h.artifacts]
    split_ifs <;> rfl
  · intro key
    rw [Rows.lookup_put, hlookup, h.references]
    split_ifs <;> rfl
  · intro key
    rw [Finset.mem_insert, hlookup, h.aggregates]
    split_ifs with hkey
    · simp [hkey]
    · simp [hkey]
  · intro key
    rw [h.quiet, hlookup]
    split_ifs with hkey
    · subst hkey
      exact iff_of_true (fun log hlog => by rw [hfree] at hlog; cases hlog)
        (fun log hlog => by obtain rfl := Option.some.inj hlog; rfl)
    · exact Iff.rfl
  · intro key records hrecords
    obtain ⟨log, hlog, hne, hentries⟩ := h.records key records hrecords
    refine ⟨log, ?_, hne, hentries⟩
    rw [hlookup, if_neg, hlog]
    rintro rfl
    rw [hfree] at hlog
    cases hlog

theorem persist_mismatch {a : PersistedAttestationArtifact} {r : AttestationBindingReference}
    (hmismatch : ¬Matches a.toArtifactFields r.toReferenceFields)
    (m : InMemoryAttestationPersistenceStore) :
    store.persistArtifact m a r = (.error "attestation_persistence_payload_invalid", m) := by
  have hvalidate : validateArtifactAggregate a r = .error payloadInvalid := by
    rw [validateArtifactAggregate, a.again_eq, r.again_eq]
    simp only [bind, Except.bind, require, if_neg hmismatch]
  simp only [store, persistLocked, ofRecord_ok a.again_eq, ofRecord_ok r.again_eq, store_bind_ok,
    hvalidate]
  rfl

theorem Represents.persist (h : m.Represents ledger) (aggregate : AttestationArtifactAggregate) :
    (store.persistArtifact m aggregate.artifact aggregate.bindingReference).1 =
        (ledger.persist aggregate).1 ∧
      Represents (store.persistArtifact m aggregate.artifact aggregate.bindingReference).2
        (ledger.persist aggregate).2 := by
  have hstart : store.persistArtifact m aggregate.artifact aggregate.bindingReference =
      m.answer (m.persistLocked aggregate.artifact aggregate.bindingReference) := rfl
  simp only [hstart, persistLocked, ofRecord_ok aggregate.artifact.again_eq,
    ofRecord_ok aggregate.bindingReference.again_eq, store_bind_ok,
    ofRecord_ok (validateArtifactAggregate_eq aggregate.matching),
    ofRecord_ok (aggregate_make aggregate), artifactSnapshot_eq, referenceSnapshot_eq,
    h.eventState, h.readAggregate]
  cases hlog : ledger (artifactKey aggregate.artifact.toArtifactFields) with
  | none =>
      have hquiet : m.eventSnapshots.lookup (artifactKey aggregate.artifact.toArtifactFields) =
          none := by
        rw [h.quiet]
        intro log hsome
        rw [hlog] at hsome
        cases hsome
      simp only [Ledger.aggregate, Ledger.persist, hlog, Option.map_none, hquiet, ne_eq,
        not_true_eq_false, storeErrorIf, if_false, store_bind_ok]
      exact ⟨rfl, h.opened aggregate hlog⟩
  | some log =>
      simp only [Ledger.aggregate, Ledger.persist, hlog, Option.map_some]
      by_cases hartifact : log.head.artifact = aggregate.artifact
      · rw [hartifact, storeErrorIf_neg (by simp), store_bind_ok, if_neg (by simp)]
        by_cases hreference : log.head.bindingReference = aggregate.bindingReference
        · rw [hreference, storeErrorIf_neg (by simp), store_bind_ok, if_neg (by simp)]
          have hsame : log.head = aggregate :=
            AttestationArtifactAggregate.eq_of_parts hartifact hreference
          rw [ofRecord_ok (aggregate_make aggregate), hsame]
          exact ⟨rfl, h⟩
        · rw [storeErrorIf_pos (.inr fun hsame => hreference (referenceText_injective hsame)),
            if_pos hreference]
          exact ⟨rfl, h⟩
      · rw [storeErrorIf_pos (.inr fun hsame => hartifact (artifactText_injective hsame)),
          if_pos hartifact]
        exact ⟨rfl, h⟩

omit [TimestampLibrary] [LawfulTextLibrary] [LawfulZonedTimeLibrary] [LawfulDigestLibrary]
  [LawfulInfixLibrary] in
theorem recordsOf_concat (events : List AttestationRevalidationEvent)
    (e : AttestationRevalidationEvent) :
    recordsOf (events ++ [e]) = recordsOf events ++ [recordOf (events.length, e)] := by
  rw [recordsOf, numbered_concat, List.map_append, List.map_singleton, recordsOf]

omit [TimestampLibrary] [LawfulTextLibrary] [LawfulZonedTimeLibrary] [LawfulDigestLibrary]
  [LawfulInfixLibrary] in
theorem recordsOf_names (events : List AttestationRevalidationEvent) :
    (recordsOf events).map Prod.fst = events.map eventName := by
  conv_rhs => rw [← numbered_snd events, List.map_map]
  rw [recordsOf, List.map_map]
  rfl

omit [PythonLibrary] [UnicodeLibrary] [ZonedTimeLibrary] [TimestampLibrary] [LawfulTextLibrary]
  [LawfulZonedTimeLibrary] [LawfulDigestLibrary] [LawfulInfixLibrary] in
/-- A record under a new name is appended. -/
theorem entries_put {record : Type} {rows : Rows String record} {name : String} (r : record)
    (hfresh : name ∉ rows.entries.map Prod.fst) :
    (rows.put name r).entries = rows.entries ++ [(name, r)] := by
  obtain ⟨u, hu⟩ := Rows.insert_isSome r (Rows.lookup_eq_none_iff.mpr hfresh)
  rw [Rows.put, hu]
  exact (Rows.insert_eq_some hu).2

omit [TimestampLibrary] [LawfulTextLibrary] [LawfulZonedTimeLibrary] [LawfulDigestLibrary]
  [LawfulInfixLibrary] in
/-- A new event is entered after the events of its artifact. -/
theorem Represents.appended (h : m.Represents ledger) {e : AttestationRevalidationEvent}
    {log : Log AttestationArtifactAggregate AttestationRevalidationEvent}
    (hlog : ledger (eventKey e.toEventFields) = some log)
    (htells : Tells e.toEventFields log.head) (hfresh : eventName e ∉ log.events.map eventName) :
    Represents
      { m with
        eventPartitions := insert (eventKey e.toEventFields) m.eventPartitions
        eventSnapshots := m.eventSnapshots.put (eventKey e.toEventFields)
          (((m.eventSnapshots.lookup (eventKey e.toEventFields)).getD .empty).put e.eventId
            ((log.events.length : Int) + 1, eventText e.toEventFields)) }
      (ledger.appended (eventKey e.toEventFields) log e) := by
  have hlookup : ∀ key, ledger.appended (eventKey e.toEventFields) log e key =
      if key = eventKey e.toEventFields then some { log with events := log.events ++ [e] }
      else ledger key := fun key => Function.update_apply ..
  have hentries : ((m.eventSnapshots.lookup (eventKey e.toEventFields)).getD .empty).entries =
      recordsOf log.events := by
    cases hrecords : m.eventSnapshots.lookup (eventKey e.toEventFields) with
    | none =>
        rw [(h.quiet _).mp hrecords log hlog]
        rfl
    | some records =>
        obtain ⟨log', hlog', -, hentries⟩ := h.records _ records hrecords
        obtain rfl := Option.some.inj (hlog.symm.trans hlog')
        exact hentries
  refine
    { keyed := ?_, telling := ?_, distinct := (Logs.Step.appended hlog hfresh).distinct h.distinct
      artifacts := ?_, references := ?_, aggregates := ?_, quiet := ?_, records := ?_
      partitions := ?_ }
  · intro key log' hlog'
    rw [hlookup] at hlog'
    split_ifs at hlog' with hkey
    · obtain rfl := Option.some.inj hlog'
      exact h.keyed key log (hkey ▸ hlog)
    · exact h.keyed key log' hlog'
  · intro key log' hlog' f hf
    rw [hlookup] at hlog'
    split_ifs at hlog' with hkey
    · obtain rfl := Option.some.inj hlog'
      rcases List.mem_append.mp hf with hf | hf
      · exact h.telling key log (hkey ▸ hlog) f hf
      · obtain rfl := List.mem_singleton.mp hf
        exact ⟨hkey.symm, htells⟩
    · exact h.telling key log' hlog' f hf
  · intro key
    rw [h.artifacts, hlookup]
    split_ifs with hkey
    · rw [hkey, hlog]
      rfl
    · rfl
  · intro key
    rw [h.references, hlookup]
    split_ifs with hkey
    · rw [hkey, hlog]
      rfl
    · rfl
  · intro key
    rw [h.aggregates, hlookup]
    split_ifs with hkey
    · rw [hkey, hlog]
      rfl
    · rfl
  · intro key
    rw [Rows.lookup_put, hlookup]
    split_ifs with hkey
    · simp
    · exact h.quiet key
  · intro key records hrecords
    rw [Rows.lookup_put] at hrecords
    rw [hlookup]
    split_ifs at hrecords ⊢ with hkey
    · obtain rfl := Option.some.inj hrecords
      refine ⟨_, rfl, by simp, ?_⟩
      rw [entries_put _ (by rw [hentries, recordsOf_names]; exact hfresh), hentries,
        recordsOf_concat]
      rfl
    · exact h.records key records hrecords
  · intro key
    rw [Finset.mem_insert, Rows.lookup_put, h.partitions]
    split_ifs with hkey
    · simp [hkey]
    · simp [hkey]

omit [TimestampLibrary] [LawfulTextLibrary] [LawfulZonedTimeLibrary] [LawfulDigestLibrary]
  [LawfulInfixLibrary] in
/-- The event of a name is found among the parsed records. -/
theorem find_parsed (events : List AttestationRevalidationEvent) (name : String) :
    (((numbered events).map parsedOf).find? fun record => record.1 = name) =
      (named eventName events name).map parsedOf := by
  rw [List.find?_map, named]
  rfl

theorem Represents.append (h : m.Represents ledger) (e : AttestationRevalidationEvent) :
    (store.appendRevalidationEvent m e).1 = (ledger.append e).1 ∧
      Represents (store.appendRevalidationEvent m e).2 (ledger.append e).2 ∧
      ((store.appendRevalidationEvent m e).2 = m ∨ ∃ log,
        ledger (eventKey e.toEventFields) = some log ∧ eventName e ∉ log.events.map eventName) := by
  have hstart : store.appendRevalidationEvent m e = m.answer (m.appendLocked e) := rfl
  simp only [hstart, appendLocked, ofRecord_ok e.again_eq, store_bind_ok, h.aggregateOf]
  cases hlog : ledger (eventKey e.toEventFields) with
  | none =>
      simp only [Ledger.aggregate, Ledger.append, hlog, Option.map_none]
      exact ⟨rfl, h, .inl rfl⟩
  | some log =>
      simp only [Ledger.aggregate, Ledger.append, hlog, Option.map_some]
      by_cases htells : Tells e.toEventFields log.head
      · rw [storeErrorIf_neg (not_not.mpr htells), if_pos htells]
        simp only [store_bind_ok, h.readEvents hlog, eventSnapshot_eq, find_parsed]
        have hname : named eventName log.events e.eventId =
          named eventName log.events (eventName e) := rfl
        rw [hname]
        cases hnamed : named eventName log.events (eventName e) with
        | none =>
            have hfresh : eventName e ∉ log.events.map eventName := named_eq_none.mp hnamed
            have hmake := ofRecord_ok (sequenced_make (log.events.length, e))
            simp only [Option.map_none, List.length_map, numbered_length, hmake, store_bind_ok]
            exact ⟨rfl, h.appended hlog htells hfresh, .inr ⟨log, rfl, hfresh⟩⟩
        | some entry =>
            simp only [Option.map_some, parsedOf]
            by_cases hsame : entry.2 = e
            · rw [if_neg (by simp [hsame]), if_neg (by simp [hsame]),
                ofRecord_ok (sequenced_make entry)]
              exact ⟨rfl, h, .inl rfl⟩
            · rw [if_pos fun htext => hsame (eventText_injective htext), if_pos hsame]
              exact ⟨rfl, h, .inl rfl⟩
      · rw [storeErrorIf_pos htells, if_neg htells]
        exact ⟨rfl, h, .inl rfl⟩

omit [TimestampLibrary] [LawfulTextLibrary] [LawfulZonedTimeLibrary] [LawfulDigestLibrary]
  [LawfulInfixLibrary] in
/-- The record with the greatest number is that of the last event. -/
theorem argmax_parsed (events : List AttestationRevalidationEvent) :
    (((numbered events).map parsedOf).argmax fun record => record.2.1) =
      (numbered events).getLast?.map parsedOf := by
  induction events using List.reverseRecOn with
  | nil => rfl
  | append_singleton events e _ =>
      rw [numbered_concat, List.map_append, List.map_singleton, List.argmax_concat]
      simp only [List.getLast?_append, List.getLast?_singleton, Option.some_or, Option.map_some]
      cases hmax : ((numbered events).map parsedOf).argmax fun record => record.2.1 with
      | none => rfl
      | some record =>
          obtain ⟨entry, hentry, rfl⟩ := List.mem_map.mp (List.argmax_mem hmax)
          have hnumber : entry.1 < events.length := by
            have hmem := List.mem_map_of_mem (f := Prod.fst) hentry
            rw [numbered_fst] at hmem
            exact List.mem_range.mp hmem
          have hlt : (entry.1 : Int) + 1 < (events.length : Int) + 1 := by omega
          exact if_pos hlt

theorem Represents.get (h : m.Represents ledger) {workspaceIdentity artifactId : String} {key : Key}
    (hkey : keyOf workspaceIdentity artifactId = .ok key) :
    store.getArtifactAggregate m workspaceIdentity artifactId = .ok (ledger.aggregate key) := by
  have hstart : store.getArtifactAggregate m workspaceIdentity artifactId =
    (m.getLocked workspaceIdentity artifactId).mapError StoreRaised.code := rfl
  simp only [hstart, getLocked, hkey, store_bind_ok, h.aggregateOf]
  cases hlog : ledger key with
  | none =>
      simp only [Ledger.aggregate, hlog, Option.map_none]
      rfl
  | some log =>
      simp only [Ledger.aggregate, hlog, Option.map_some, h.eventState, store_bind_ok]
      rfl

theorem Represents.latest (h : m.Represents ledger) {workspaceIdentity artifactId : String}
    {key : Key} (hkey : keyOf workspaceIdentity artifactId = .ok key) :
    store.getLatestRevalidationEvent m workspaceIdentity artifactId = ledger.latest key := by
  have hstart : store.getLatestRevalidationEvent m workspaceIdentity artifactId =
    (m.latestLocked workspaceIdentity artifactId).mapError StoreRaised.code := rfl
  simp only [hstart, latestLocked, hkey, store_bind_ok, h.aggregateOf]
  cases hlog : ledger key with
  | none =>
      simp only [Ledger.aggregate, Ledger.latest, hlog, Option.map_none]
      rfl
  | some log =>
      simp only [Ledger.aggregate, Ledger.latest, hlog, Option.map_some, h.readEvents hlog,
        store_bind_ok, argmax_parsed]
      cases (numbered log.events).getLast? with
      | none => rfl
      | some entry =>
          simp only [Option.map_some, parsedOf, ofRecord_ok (sequenced_make entry)]
          rfl

omit [TimestampLibrary] [LawfulTextLibrary] [LawfulZonedTimeLibrary] [LawfulDigestLibrary]
  [LawfulInfixLibrary] in
/-- A key that is not canonical is refused before the store is read. -/
theorem read_refused {workspaceIdentity artifactId : String} {e : StoreRaised}
    (hkey : keyOf workspaceIdentity artifactId = .error e)
    (m : InMemoryAttestationPersistenceStore) :
    store.getArtifactAggregate m workspaceIdentity artifactId = .error e.code ∧
      store.getLatestRevalidationEvent m workspaceIdentity artifactId = .error e.code := by
  have hget : store.getArtifactAggregate m workspaceIdentity artifactId =
    (m.getLocked workspaceIdentity artifactId).mapError StoreRaised.code := rfl
  have hlatest : store.getLatestRevalidationEvent m workspaceIdentity artifactId =
    (m.latestLocked workspaceIdentity artifactId).mapError StoreRaised.code := rfl
  rw [hget, hlatest, getLocked, latestLocked, hkey]
  exact ⟨rfl, rfl⟩

end

end
end InMemoryAttestationPersistenceStore
end DeliverySystem.AttestationMemoryStore

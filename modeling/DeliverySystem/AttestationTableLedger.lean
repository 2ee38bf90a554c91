import DeliverySystem.AttestationTables

/-!
# The tables stand for a ledger

A database that the store has written itself holds one row for every artifact,
one for its reference, and the rows of its events with the numbers from one. Each
transaction on it answers as the ledger does, unless a constraint refuses a row;
then nothing is written.
-/
namespace DeliverySystem.AttestationTables
open PythonValues CanonicalValues JsonText AuthorityBindings AttestationClaims
open AttestationArtifacts AttestationRecords SequencedLogs AttestationStoreContract ConstrainedRows
set_option autoImplicit false

section
variable [PythonLibrary] [UnicodeLibrary] [ZonedTimeLibrary]

def headKey (h : AttestationArtifactAggregate) : Key := artifactKey h.artifact.toArtifactFields

def rowOfArtifact (h : AttestationArtifactAggregate) : Row Value :=
  artifactRow h.artifact.toArtifactFields h.artifact.projection

def rowOfReference (h : AttestationArtifactAggregate) : Row Value :=
  referenceRow h.bindingReference.projection

/-- The row of a numbered event. -/
def rowOfEvent (entry : ℕ × AttestationRevalidationEvent) : Row Value :=
  eventRow entry.2.projection (entry.1 + 1)

def rowsOf (events : List AttestationRevalidationEvent) : List (Row Value) :=
  (numbered events).map rowOfEvent

/-- The rows are those of the ledger, whose heads are these. -/
structure Stands (workspace : String) (heads : List AttestationArtifactAggregate) (db : Database)
    (ledger : Ledger) : Prop where
  artifacts : db.artifacts = heads.map rowOfArtifact
  references : db.references = heads.map rowOfReference
  nodup : (heads.map headKey).Nodup
  kept : ∀ h ∈ heads, ∃ log, ledger (headKey h) = some log ∧ log.head = h
  opened : ∀ key log, ledger key = some log → log.head ∈ heads ∧ headKey log.head = key
  workspace : ∀ h ∈ heads, h.artifact.workspaceIdentity = workspace
  events : ∀ key log, ledger key = some log →
    select db.events [0, 4] [.str key.1, .str key.2] = rowsOf log.events
  told : ∀ row ∈ db.events, ∃ key log entry, ledger key = some log ∧
    entry ∈ numbered log.events ∧ row = rowOfEvent entry
  telling : ∀ key log, ledger key = some log → ∀ e ∈ log.events,
    eventKey e.toEventFields = key ∧ Tells e.toEventFields log.head
  distinct : ledger.Distinct eventName

theorem empty_stands (workspace : String) : Stands workspace [] Database.empty Logs.empty where
  artifacts := rfl
  references := rfl
  nodup := List.nodup_nil
  kept h hh := by cases hh
  opened key log h := by cases h
  workspace h hh := by cases hh
  events key log h := by cases h
  told row h := by cases h
  telling key log h := by cases h
  distinct key log h := by cases h

/-! ## Rows and their keys -/

/-- The cells that select the rows of a key. -/
def keyCells (key : Key) : List Value := [.str key.1, .str key.2]

theorem project_artifact (h : AttestationArtifactAggregate) :
    project [0, 1] (rowOfArtifact h) =
      [some (.str h.artifact.workspaceIdentity), some (.str h.artifact.artifactId)] := by
  rw [rowOfArtifact, artifactRow_eq]
  rfl

theorem project_reference (h : AttestationArtifactAggregate) :
    project [0, 2] (rowOfReference h) =
      [some (.str h.artifact.workspaceIdentity), some (.str h.artifact.artifactId)] := by
  rw [h.matching.1, h.matching.2.1, rowOfReference, referenceRow_eq]
  rfl

theorem project_event (entry : ℕ × AttestationRevalidationEvent) :
    project [0, 4] (rowOfEvent entry) =
      [some (.str entry.2.workspaceIdentity), some (.str entry.2.artifactId)] := by
  rw [rowOfEvent, eventRow_eq]
  rfl

omit [PythonLibrary] [UnicodeLibrary] [ZonedTimeLibrary] in
/-- Two texts are the cells of a key. -/
theorem cells_eq_iff (workspaceIdentity artifactId : String) (key : Key) :
    [some (Value.str workspaceIdentity), some (Value.str artifactId)] =
      (keyCells key).map some ↔ (workspaceIdentity, artifactId) = key := by
  simp [keyCells, Prod.ext_iff]

theorem sequenceOf_rowOfEvent (entry : ℕ × AttestationRevalidationEvent) :
    sequenceOf (rowOfEvent entry) = entry.1 + 1 := by
  rw [rowOfEvent, eventRow_eq]
  rfl

/-- The rows of a log are in the order of their numbers. -/
theorem rowsOf_sorted (events : List AttestationRevalidationEvent) :
    (rowsOf events).Pairwise fun a b => sequenceOf a ≤ sequenceOf b := by
  have hrange : ((numbered events).map Prod.fst).Pairwise (· < ·) := by
    rw [numbered_fst]
    exact List.pairwise_lt_range
  rw [List.pairwise_map] at hrange
  rw [rowsOf, List.pairwise_map]
  refine hrange.imp fun hlt => ?_
  rw [sequenceOf_rowOfEvent, sequenceOf_rowOfEvent]
  omega

section
variable {workspace : String} {heads : List AttestationArtifactAggregate} {db : Database}
  {ledger : Ledger}

theorem Stands.filter_heads (h : Stands workspace heads db ledger) (key : Key) :
    (heads.filter fun head => headKey head = key) = ((ledger.aggregate key).toList) := by
  cases hlog : ledger key with
  | none =>
      rw [Ledger.aggregate, hlog, List.filter_eq_nil_iff.mpr]
      · rfl
      · intro head hhead
        rw [decide_eq_true_eq]
        rintro rfl
        obtain ⟨log, hsome, -⟩ := h.kept head hhead
        rw [hlog] at hsome
        cases hsome
  | some log =>
      obtain ⟨hmem, rfl⟩ := h.opened key log hlog
      rw [Ledger.aggregate, hlog, filter_key h.nodup hmem]
      rfl

theorem Stands.artifactRows (h : Stands workspace heads db ledger) (key : Key) :
    artifactRows db key = (ledger.aggregate key).toList.map rowOfArtifact := by
  have hkeys : ∀ head k, project [0, 1] (rowOfArtifact head) = (keyCells k).map some ↔
      headKey head = k := by
    intro head k
    rw [project_artifact, cells_eq_iff]
    rfl
  rw [← h.filter_heads, AttestationTables.artifactRows, h.artifacts]
  exact select_map hkeys key

theorem Stands.referenceRows (h : Stands workspace heads db ledger) (key : Key) :
    referenceRows db key = (ledger.aggregate key).toList.map rowOfReference := by
  have hkeys : ∀ head k, project [0, 2] (rowOfReference head) = (keyCells k).map some ↔
      headKey head = k := by
    intro head k
    rw [project_reference, cells_eq_iff]
    rfl
  rw [← h.filter_heads, AttestationTables.referenceRows, h.references]
  exact select_map hkeys key

theorem Stands.eventRows (h : Stands workspace heads db ledger) {key : Key}
    {log : Log AttestationArtifactAggregate AttestationRevalidationEvent}
    (hlog : ledger key = some log) : eventRows db key = rowsOf log.events := by
  rw [AttestationTables.eventRows, h.events key log hlog]
  exact (rowsOf_sorted log.events).insertionSort_eq

/-- No events without an artifact. -/
theorem Stands.no_events (h : Stands workspace heads db ledger) {key : Key}
    (hnone : ledger key = none) : select db.events [0, 4] [.str key.1, .str key.2] = [] := by
  refine List.filter_eq_nil_iff.mpr fun row hrow => ?_
  obtain ⟨key', log, entry, hlog, hentry, rfl⟩ := h.told row hrow
  rw [decide_eq_true_eq, project_event]
  intro hcells
  obtain rfl := (cells_eq_iff _ _ key).mp hcells
  have hkey := (h.telling key' log hlog entry.2 (mem_of_mem_numbered hentry)).1
  rw [← hkey, eventKey, hnone] at hlog
  cases hlog

end

/-! ## Reading -/

variable [TimestampLibrary] [LawfulTextLibrary] [LawfulZonedTimeLibrary] [LawfulDigestLibrary]
  [LawfulInfixLibrary]

/-- An event and its number, as they are read from a row. -/
def readEntry (entry : ℕ × AttestationRevalidationEvent) : Value × AttestationRevalidationEvent :=
  (.int (entry.1 + 1), entry.2)

omit [LawfulDigestLibrary] in
theorem readEventRows_eq (entries : List (ℕ × AttestationRevalidationEvent)) :
    readEventRows (entries.map rowOfEvent) = .ok (entries.map readEntry) := by
  induction entries with
  | nil => rfl
  | cons entry entries ih =>
      rw [List.map_cons, readEventRows, rowOfEvent, readEventRow_eq, store_bind_ok, ih,
        store_bind_ok]
      rfl

omit [TimestampLibrary] [LawfulTextLibrary] [LawfulZonedTimeLibrary] [LawfulDigestLibrary]
  [LawfulInfixLibrary] in
theorem gapFree_numbered (events : List AttestationRevalidationEvent) :
    gapFree ((numbered events).map readEntry) = true := by
  have hnumbers : ((numbered events).map readEntry).map Prod.fst =
      (sequencesTo events.length).map .int := by
    rw [List.map_map, sequencesTo, ← numbered_fst events, List.map_map, List.map_map]
    rfl
  rw [gapFree, hnumbers, List.length_map, numbered_length]
  exact decide_eq_true rfl

section
variable {workspace : String} {heads : List AttestationArtifactAggregate} {db : Database}
  {ledger : Ledger}

omit [LawfulDigestLibrary] in
theorem Stands.readEvents (h : Stands workspace heads db ledger) {key : Key}
    {log : Log AttestationArtifactAggregate AttestationRevalidationEvent}
    (hlog : ledger key = some log) :
    readEventRows (AttestationTables.eventRows db key) = .ok ((numbered log.events).map readEntry) := by
  rw [h.eventRows hlog]
  exact readEventRows_eq _

theorem Stands.aggregateLocked (h : Stands workspace heads db ledger) (key : Key) :
    aggregateLocked db key = .ok (ledger.aggregate key) := by
  cases hlog : ledger key with
  | none =>
      have hnone : ledger.aggregate key = none := by rw [Ledger.aggregate, hlog]; rfl
      rw [AttestationTables.aggregateLocked, h.artifactRows, h.referenceRows, hnone,
        storeErrorIf_neg (not_not.mpr (h.no_events hlog))]
      rfl
  | some log =>
      have hkey : ¬artifactKey log.head.artifact.toArtifactFields ≠ key :=
        not_not.mpr (h.opened key log hlog).2
      have hsome : ledger.aggregate key = some log.head := by rw [Ledger.aggregate, hlog]; rfl
      have htells : ∀ entry ∈ (numbered log.events).map readEntry,
          Tells entry.2.toEventFields log.head := by
        intro entry hentry
        obtain ⟨numbered, hnumbered, rfl⟩ := List.mem_map.mp hentry
        exact (h.telling key log hlog _ (mem_of_mem_numbered hnumbered)).2
      have hmake := ofRecord_ok (aggregate_make log.head)
      simp only [AttestationTables.aggregateLocked, h.artifactRows, h.referenceRows, hsome,
        Option.toList_some, List.map_cons, List.map_nil, rowOfArtifact, rowOfReference,
        readArtifactRow_eq, readReferenceRow_eq, h.readEvents hlog, renamed, store_bind_ok, hmake,
        gapFree_numbered]
      rw [storeErrorIf_neg hkey, store_bind_ok, storeErrorIf_neg (by simp),
        store_bind_ok, storeErrorIf_neg (not_not.mpr htells)]
      rfl

/-! ## Persisting -/

/-- No constraint refuses the rows of a new artifact: its revision fits a column, and no
stored reference has the identity of its reference or of its binding. -/
structure Admitted (ledger : Ledger) (aggregate : AttestationArtifactAggregate) : Prop where
  revision : Storable aggregate.artifact.claimsPayload.revision
  unused : ∀ key log, ledger key = some log →
    log.head.bindingReference.referenceId ≠ aggregate.bindingReference.referenceId ∧
      log.head.bindingReference.bindingId ≠ aggregate.bindingReference.bindingId

omit [LawfulDigestLibrary] [LawfulInfixLibrary] [TimestampLibrary] [LawfulTextLibrary]
  [LawfulZonedTimeLibrary] in
theorem Stands.unused_iff (h : Stands workspace heads db ledger)
    (aggregate : AttestationArtifactAggregate) :
    (∀ key log, ledger key = some log →
        log.head.bindingReference.referenceId ≠ aggregate.bindingReference.referenceId ∧
          log.head.bindingReference.bindingId ≠ aggregate.bindingReference.bindingId) ↔
      ∀ head ∈ heads, head.bindingReference.referenceId ≠ aggregate.bindingReference.referenceId ∧
        head.bindingReference.bindingId ≠ aggregate.bindingReference.bindingId := by
  constructor
  · intro hledger head hhead
    obtain ⟨log, hlog, rfl⟩ := h.kept head hhead
    exact hledger _ log hlog
  · intro hheads key log hlog
    exact hheads _ (h.opened key log hlog).1

/-- A new artifact agrees with no other on its identity or its attestation. -/
theorem Stands.artifact_free (h : Stands workspace heads db ledger)
    {aggregate : AttestationArtifactAggregate} (hnew : ledger (headKey aggregate) = none) :
    artifactsTable.free db.artifacts (rowOfArtifact aggregate) = true := by
  have hother : ∀ head ∈ heads, headKey head ≠ headKey aggregate := by
    intro head hhead hsame
    obtain ⟨log, hlog, -⟩ := h.kept head hhead
    rw [hsame, hnew] at hlog
    cases hlog
  rw [Table.free_iff, h.artifacts]
  intro columns hcolumns row hrow hagree
  obtain ⟨head, hhead, rfl⟩ := List.mem_map.mp hrow
  apply hother head hhead
  simp only [artifactsTable, List.mem_cons, List.not_mem_nil, or_false] at hcolumns
  rcases hcolumns with rfl | rfl
  · rw [project_artifact, project_artifact] at hagree
    simpa [headKey, artifactKey, Prod.ext_iff] using hagree
  · have hcells : head.artifact.workspaceIdentity = aggregate.artifact.workspaceIdentity ∧
        head.artifact.attestationId = aggregate.artifact.attestationId := by
      simp only [rowOfArtifact, artifactRow_eq] at hagree
      simpa [project] using hagree
    have hid := head.artifact.sound.artifactId
    rw [hcells.1, hcells.2, aggregate.artifact.sound.artifactId] at hid
    exact Prod.ext hcells.1 (Except.ok.inj hid).symm

omit [TimestampLibrary] [LawfulTextLibrary] [LawfulZonedTimeLibrary] [LawfulDigestLibrary]
  [LawfulInfixLibrary] in
/-- The reference of a new artifact is free when no stored one has its identities. -/
theorem Stands.reference_free (h : Stands workspace heads db ledger)
    {aggregate : AttestationArtifactAggregate} (hnew : ledger (headKey aggregate) = none)
    (hworkspace : aggregate.artifact.workspaceIdentity = workspace) :
    referencesTable.free db.references (rowOfReference aggregate) = true ↔
      ∀ head ∈ heads, head.bindingReference.referenceId ≠ aggregate.bindingReference.referenceId ∧
        head.bindingReference.bindingId ≠ aggregate.bindingReference.bindingId := by
  have hother : ∀ head ∈ heads, head.artifact.artifactId ≠ aggregate.artifact.artifactId := by
    intro head hhead hsame
    obtain ⟨log, hlog, -⟩ := h.kept head hhead
    have hkey : headKey head = headKey aggregate :=
      Prod.ext ((h.workspace head hhead).trans hworkspace.symm) hsame
    rw [hkey, hnew] at hlog
    cases hlog
  have hsame : ∀ head ∈ heads,
      head.bindingReference.workspaceIdentity = aggregate.bindingReference.workspaceIdentity := by
    intro head hhead
    rw [← head.matching.1, ← aggregate.matching.1, h.workspace head hhead, hworkspace]
  rw [Table.free_iff, h.references]
  constructor
  · intro hfree head hhead
    refine ⟨fun hreference => ?_, fun hbinding => ?_⟩
    · apply hfree [0, 1] (by decide) _ (List.mem_map_of_mem hhead)
      simp only [rowOfReference, referenceRow_eq]
      simp [project, hsame head hhead, hreference]
    · apply hfree [0, 4] (by decide) _ (List.mem_map_of_mem hhead)
      simp only [rowOfReference, referenceRow_eq]
      simp [project, hsame head hhead, hbinding]
  · intro hunused columns hcolumns row hrow hagree
    obtain ⟨head, hhead, rfl⟩ := List.mem_map.mp hrow
    have hartifact : head.bindingReference.artifactId ≠ aggregate.bindingReference.artifactId := by
      rw [← head.matching.2.1, ← aggregate.matching.2.1]
      exact hother head hhead
    simp only [rowOfReference, referenceRow_eq] at hagree
    simp only [referencesTable, List.mem_cons, List.not_mem_nil, or_false] at hcolumns
    rcases hcolumns with rfl | rfl | rfl | rfl
    · simp [project, hartifact] at hagree
    · simp [project, (hunused head hhead).1] at hagree
    · simp [project, (hunused head hhead).2] at hagree
    · simp [project, hartifact] at hagree

omit [TimestampLibrary] [LawfulTextLibrary] [LawfulZonedTimeLibrary] [LawfulDigestLibrary]
  [LawfulInfixLibrary] in
/-- A new artifact is entered with no events. -/
theorem Stands.enter (h : Stands workspace heads db ledger)
    {aggregate : AttestationArtifactAggregate} (hnew : ledger (headKey aggregate) = none)
    (hworkspace : aggregate.artifact.workspaceIdentity = workspace) :
    Stands workspace (heads ++ [aggregate])
      { db with
        artifacts := db.artifacts ++ [rowOfArtifact aggregate]
        references := db.references ++ [rowOfReference aggregate] }
      (ledger.opened (headKey aggregate) aggregate) := by
  have hlookup : ∀ key, ledger.opened (headKey aggregate) aggregate key =
      if key = headKey aggregate then some ⟨aggregate, []⟩ else ledger key :=
    fun key => Function.update_apply ..
  have hother : ∀ head ∈ heads, headKey head ≠ headKey aggregate := by
    intro head hhead hsame
    obtain ⟨log, hlog, -⟩ := h.kept head hhead
    rw [hsame, hnew] at hlog
    cases hlog
  have hold : ∀ key log, ledger key = some log →
      ledger.opened (headKey aggregate) aggregate key = some log := by
    intro key log hlog
    rw [hlookup, if_neg, hlog]
    rintro rfl
    rw [hnew] at hlog
    cases hlog
  refine
    { artifacts := ?_, references := ?_, nodup := ?_, kept := ?_, opened := ?_, workspace := ?_
      events := ?_, told := ?_, telling := ?_
      distinct := (Logs.Step.opened hnew).distinct h.distinct }
  · rw [h.artifacts, List.map_append, List.map_singleton]
  · rw [h.references, List.map_append, List.map_singleton]
  · rw [List.map_append, List.map_singleton]
    refine h.nodup.append (List.nodup_singleton _) ?_
    rw [List.disjoint_singleton, List.mem_map]
    rintro ⟨head, hhead, hsame⟩
    exact hother head hhead hsame
  · intro head hhead
    rcases List.mem_append.mp hhead with hhead | hhead
    · obtain ⟨log, hlog, hhead⟩ := h.kept head hhead
      exact ⟨log, hold _ log hlog, hhead⟩
    · obtain rfl := List.mem_singleton.mp hhead
      exact ⟨⟨head, []⟩, by rw [hlookup, if_pos rfl], rfl⟩
  · intro key log hlog
    rw [hlookup] at hlog
    split_ifs at hlog with hkey
    · obtain rfl := Option.some.inj hlog
      exact ⟨List.mem_append_right _ List.mem_cons_self, hkey.symm⟩
    · exact ⟨List.mem_append_left _ (h.opened key log hlog).1, (h.opened key log hlog).2⟩
  · intro head hhead
    rcases List.mem_append.mp hhead with hhead | hhead
    · exact h.workspace head hhead
    · obtain rfl := List.mem_singleton.mp hhead
      exact hworkspace
  · intro key log hlog
    rw [hlookup] at hlog
    split_ifs at hlog with hkey
    · obtain rfl := Option.some.inj hlog
      exact h.no_events (hkey ▸ hnew)
    · exact h.events key log hlog
  · intro row hrow
    obtain ⟨key, log, entry, hlog, hentry⟩ := h.told row hrow
    exact ⟨key, log, entry, hold key log hlog, hentry⟩
  · intro key log hlog e he
    rw [hlookup] at hlog
    split_ifs at hlog with hkey
    · obtain rfl := Option.some.inj hlog
      cases he
    · exact h.telling key log hlog e he

/-- The two rows of a new artifact are written. -/
theorem Stands.insert (h : Stands workspace heads db ledger)
    {aggregate : AttestationArtifactAggregate} (hnew : ledger (headKey aggregate) = none)
    (hworkspace : aggregate.artifact.workspaceIdentity = workspace)
    (hadmitted : Admitted ledger aggregate) :
    (db.insertArtifact (rowOfArtifact aggregate) >>= fun db =>
        db.insertReference (rowOfReference aggregate)) =
      .ok
        { db with
          artifacts := db.artifacts ++ [rowOfArtifact aggregate]
          references := db.references ++ [rowOfReference aggregate] } := by
  obtain ⟨-, -, -, -, -, -, -, -, hrevision, -⟩ := aggregate.matching
  have hparent : refers (db.artifacts ++ [rowOfArtifact aggregate]) [0, 1] [0, 2]
      (rowOfReference aggregate) = true := by
    refine refers_of_mem (List.mem_append_right _ List.mem_cons_self) ?_
    rw [project_artifact, project_reference]
  have hunused := (h.reference_free hnew hworkspace).mpr
    ((h.unused_iff aggregate).mp hadmitted.unused)
  have hartifact : insertRow artifactsTable db.artifacts true (rowOfArtifact aggregate) =
      .ok (db.artifacts ++ [rowOfArtifact aggregate]) :=
    insertRow_ok (artifactRow_integer _) hadmitted.revision (artifactRow_admitted _)
      (h.artifact_free hnew) rfl
  have hreference : insertRow referencesTable db.references
      (refers (db.artifacts ++ [rowOfArtifact aggregate]) [0, 1] [0, 2] (rowOfReference aggregate))
      (rowOfReference aggregate) = .ok (db.references ++ [rowOfReference aggregate]) :=
    insertRow_ok (referenceRow_integer _) (hrevision ▸ hadmitted.revision)
      (referenceRow_admitted _) hunused hparent
  simp only [Database.insertArtifact, Database.insertReference, hartifact, hreference,
    store_bind_ok, pure, Except.pure]

/-- A constraint refuses one of the two rows. -/
theorem Stands.insert_refused (h : Stands workspace heads db ledger)
    {aggregate : AttestationArtifactAggregate} (hnew : ledger (headKey aggregate) = none)
    (hworkspace : aggregate.artifact.workspaceIdentity = workspace)
    (hrefused : ¬Admitted ledger aggregate) :
    ∃ e, (db.insertArtifact (rowOfArtifact aggregate) >>= fun db =>
      db.insertReference (rowOfReference aggregate)) = .error e := by
  have hartifact : Storable aggregate.artifact.claimsPayload.revision →
      insertRow artifactsTable db.artifacts true (rowOfArtifact aggregate) =
        .ok (db.artifacts ++ [rowOfArtifact aggregate]) := fun hrevision =>
    insertRow_ok (artifactRow_integer _) hrevision (artifactRow_admitted _)
      (h.artifact_free hnew) rfl
  by_cases hrevision : Storable aggregate.artifact.claimsPayload.revision
  · have hused : ¬referencesTable.free db.references (rowOfReference aggregate) = true := by
      rw [h.reference_free hnew hworkspace, ← h.unused_iff aggregate]
      exact fun hunused => hrefused ⟨hrevision, hunused⟩
    obtain ⟨e, he⟩ : ∃ e, insertRow referencesTable db.references
        (refers (db.artifacts ++ [rowOfArtifact aggregate]) [0, 1] [0, 2]
          (rowOfReference aggregate)) (rowOfReference aggregate) = .error e :=
      insertRow_refused (referenceRow_integer _) fun hfree => hused hfree.2
    refine ⟨e, ?_⟩
    simp only [Database.insertArtifact, Database.insertReference, hartifact hrevision, he,
      store_bind_ok, store_bind_error, pure, Except.pure]
  · obtain ⟨e, he⟩ : ∃ e, insertRow artifactsTable db.artifacts true (rowOfArtifact aggregate) =
        .error e := insertRow_refused (artifactRow_integer _) fun hfits => hrevision hfits.1
    refine ⟨e, ?_⟩
    simp only [Database.insertArtifact, he, store_bind_error]

/-- The payload of an artifact determines it. -/
theorem artifact_projection {a b : PersistedAttestationArtifact} :
    a.projection = b.projection ↔ a = b := by
  constructor
  · intro h
    have htext := congrArg (fun payload : Dict => dumps (.dict payload)) h
    rw [dumps_artifact, dumps_artifact] at htext
    exact artifactText_injective htext
  · rintro rfl
    rfl

omit [LawfulDigestLibrary] in
theorem reference_projection {r s : AttestationBindingReference} :
    r.projection = s.projection ↔ r = s := by
  constructor
  · intro h
    have htext := congrArg (fun payload : Dict => dumps (.dict payload)) h
    rw [dumps_reference, dumps_reference] at htext
    exact referenceText_injective htext
  · rintro rfl
    rfl

omit [LawfulDigestLibrary] in
theorem event_projection {e f : AttestationRevalidationEvent} :
    e.projection = f.projection ↔ e = f := by
  constructor
  · intro h
    have htext := congrArg (fun payload : Dict => dumps (.dict payload)) h
    rw [dumps_event, dumps_event] at htext
    exact eventText_injective htext
  · rintro rfl
    rfl

theorem persist_mismatch {a : PersistedAttestationArtifact} {r : AttestationBindingReference}
    (hmismatch : ¬Matches a.toArtifactFields r.toReferenceFields) (workspace : String)
    (db : Database) : (store workspace).persistArtifact db a r = (.error projectionCorrupt, db) := by
  have hvalidate : validateArtifactAggregate a r = .error payloadInvalid := by
    rw [validateArtifactAggregate, a.again_eq, r.again_eq]
    simp only [bind, Except.bind, require, if_neg hmismatch]
  simp only [store, persistTransaction, hvalidate]
  rfl

theorem persist_elsewhere (aggregate : AttestationArtifactAggregate)
    (helsewhere : aggregate.artifact.workspaceIdentity ≠ workspace) (db : Database) :
    (store workspace).persistArtifact db aggregate.artifact aggregate.bindingReference =
      (.error "attestation_persistence_workspace_mismatch", db) := by
  simp only [store, persistTransaction,
    ofRecord_ok (validateArtifactAggregate_eq aggregate.matching), store_bind_ok,
    storeErrorIf_pos (Or.inl helsewhere)]
  rfl

/-- What a transaction does with an aggregate of the workspace. -/
theorem Stands.persistTransaction (h : Stands workspace heads db ledger)
    (aggregate : AttestationArtifactAggregate)
    (hworkspace : aggregate.artifact.workspaceIdentity = workspace) :
    persistTransaction workspace db aggregate.artifact aggregate.bindingReference =
      match ledger.aggregate (headKey aggregate) with
      | some existing => do
          storeErrorIf (existing.artifact.projection ≠ aggregate.artifact.projection)
            "attestation_artifact_conflict"
          storeErrorIf (existing.bindingReference.projection ≠ aggregate.bindingReference.projection)
            "attestation_binding_reference_conflict"
          pure (existing, db)
      | none => (do
          let db ← db.insertArtifact (rowOfArtifact aggregate) >>= fun db =>
            db.insertReference (rowOfReference aggregate)
          let result ← AttestationTables.aggregateLocked db (headKey aggregate)
          match result with
          | none => storeError aggregateCorrupt
          | some result => pure (result, db)) := by
  have hhere : ¬(aggregate.artifact.workspaceIdentity ≠ workspace ∨
      aggregate.bindingReference.workspaceIdentity ≠ workspace) := by
    rw [← aggregate.matching.1]
    simpa using hworkspace
  have hkey : (workspace, aggregate.artifact.artifactId) = headKey aggregate :=
    Prod.ext hworkspace.symm rfl
  simp only [AttestationTables.persistTransaction,
    ofRecord_ok (validateArtifactAggregate_eq aggregate.matching), store_bind_ok,
    storeErrorIf_neg hhere, ofRecord_ok (aggregate_make aggregate), hkey, h.aggregateLocked]
  cases ledger.aggregate (headKey aggregate) with
  | some existing =>
      simp only [ofRecord_ok existing.artifact.toPayload_eq,
        ofRecord_ok aggregate.artifact.toPayload_eq,
        ofRecord_ok existing.bindingReference.toPayload_eq,
        ofRecord_ok aggregate.bindingReference.toPayload_eq, store_bind_ok]
  | none =>
      simp only [ofRecord_ok aggregate.artifact.toPayload_eq,
        ofRecord_ok aggregate.bindingReference.toPayload_eq, store_bind_ok, bind_assoc]
      rfl

/-- An aggregate of the workspace is answered as the ledger answers it, unless it is
new and its rows are refused. -/
theorem Stands.persist (h : Stands workspace heads db ledger)
    (aggregate : AttestationArtifactAggregate)
    (hworkspace : aggregate.artifact.workspaceIdentity = workspace)
    (hadmitted : ledger (headKey aggregate) = none → Admitted ledger aggregate) :
    ∃ heads' db', (store workspace).persistArtifact db aggregate.artifact aggregate.bindingReference =
        ((ledger.persist aggregate).1, db') ∧
      Stands workspace heads' db' (ledger.persist aggregate).2 := by
  have hstart : (store workspace).persistArtifact db aggregate.artifact
      aggregate.bindingReference = commit "attestation_artifact_conflict" projectionCorrupt db
        (AttestationTables.persistTransaction workspace db aggregate.artifact
          aggregate.bindingReference) := rfl
  have hkey : artifactKey aggregate.artifact.toArtifactFields = headKey aggregate := rfl
  rw [hstart, h.persistTransaction aggregate hworkspace, Ledger.persist, hkey, Ledger.aggregate]
  cases hlog : ledger (headKey aggregate) with
  | none =>
      have hentered := h.enter hlog hworkspace
      have hread := hentered.aggregateLocked (headKey aggregate)
      have hopened : Ledger.aggregate (ledger.opened (headKey aggregate) aggregate)
          (headKey aggregate) = some aggregate := by
        rw [Ledger.aggregate, Logs.opened, Function.update_self]
        rfl
      refine ⟨_, _, ?_, hentered⟩
      simp only [Option.map_none, h.insert hlog hworkspace (hadmitted hlog), store_bind_ok, hread,
        hopened]
      rfl
  | some log =>
      refine ⟨heads, db, ?_⟩
      simp only [Option.map_some]
      by_cases hartifact : log.head.artifact = aggregate.artifact
      · rw [storeErrorIf_neg (not_not.mpr (artifact_projection.mpr hartifact)), store_bind_ok,
          if_neg (not_not.mpr hartifact)]
        by_cases hreference : log.head.bindingReference = aggregate.bindingReference
        · rw [storeErrorIf_neg (not_not.mpr (reference_projection.mpr hreference)), store_bind_ok,
            if_neg (not_not.mpr hreference)]
          exact ⟨rfl, h⟩
        · rw [storeErrorIf_pos (mt reference_projection.mp hreference), if_pos hreference]
          exact ⟨rfl, h⟩
      · rw [storeErrorIf_pos (mt artifact_projection.mp hartifact), if_pos hartifact]
        exact ⟨rfl, h⟩

/-- A new aggregate whose rows are refused is not entered. -/
theorem Stands.persist_refused (h : Stands workspace heads db ledger)
    {aggregate : AttestationArtifactAggregate}
    (hworkspace : aggregate.artifact.workspaceIdentity = workspace)
    (hnew : ledger (headKey aggregate) = none) (hrefused : ¬Admitted ledger aggregate) :
    ∃ code, (store workspace).persistArtifact db aggregate.artifact aggregate.bindingReference =
      (.error code, db) := by
  obtain ⟨e, he⟩ := h.insert_refused hnew hworkspace hrefused
  refine ⟨rolledBack "attestation_artifact_conflict" projectionCorrupt e, ?_⟩
  have hstart : (store workspace).persistArtifact db aggregate.artifact
      aggregate.bindingReference = commit "attestation_artifact_conflict" projectionCorrupt db
        (AttestationTables.persistTransaction workspace db aggregate.artifact
          aggregate.bindingReference) := rfl
  rw [hstart, h.persistTransaction aggregate hworkspace, Ledger.aggregate, hnew]
  simp only [Option.map_none, he]
  rfl

/-! ## Appending -/

/-- No constraint refuses the row of a new event: its number fits a column, and no stored
event has its identity. -/
structure Recordable (ledger : Ledger) (e : AttestationRevalidationEvent) : Prop where
  number : ∀ log, ledger (eventKey e.toEventFields) = some log →
    Storable (log.events.length + 1)
  unused : ∀ key log, ledger key = some log → eventName e ∉ log.events.map eventName

section
variable {e : AttestationRevalidationEvent}
  {log : Log AttestationArtifactAggregate AttestationRevalidationEvent}

omit [TimestampLibrary] [LawfulTextLibrary] [LawfulZonedTimeLibrary] [LawfulDigestLibrary]
  [LawfulInfixLibrary] in
/-- The workspace and the identity of an event. -/
theorem project_name (entry : ℕ × AttestationRevalidationEvent) :
    project [0, 1] (rowOfEvent entry) =
      [some (.str entry.2.workspaceIdentity), some (.str entry.2.eventId)] := by
  rw [rowOfEvent, eventRow_eq]
  rfl

omit [TimestampLibrary] [LawfulTextLibrary] [LawfulZonedTimeLibrary] [LawfulDigestLibrary]
  [LawfulInfixLibrary] in
theorem project_number (entry : ℕ × AttestationRevalidationEvent) :
    project [0, 4, 14] (rowOfEvent entry) =
      [some (.str entry.2.workspaceIdentity), some (.str entry.2.artifactId),
        some (.int (entry.1 + 1))] := by
  rw [rowOfEvent, eventRow_eq]
  rfl

omit [TimestampLibrary] [LawfulTextLibrary] [LawfulZonedTimeLibrary] [LawfulDigestLibrary]
  [LawfulInfixLibrary] in
theorem Stands.log_workspace (h : Stands workspace heads db ledger) {key : Key}
    (hlog : ledger key = some log) : key.1 = workspace := by
  obtain ⟨hmem, rfl⟩ := h.opened key log hlog
  exact h.workspace log.head hmem

omit [TimestampLibrary] [LawfulTextLibrary] [LawfulZonedTimeLibrary] [LawfulDigestLibrary]
  [LawfulInfixLibrary] in
/-- The next row of a log is free when no stored event has its identity. -/
theorem Stands.event_free (h : Stands workspace heads db ledger)
    (hlog : ledger (eventKey e.toEventFields) = some log) :
    eventsTable.free db.events (rowOfEvent (log.events.length, e)) = true ↔
      ∀ key log, ledger key = some log → eventName e ∉ log.events.map eventName := by
  have hworkspace : e.workspaceIdentity = workspace := h.log_workspace hlog
  rw [Table.free_iff]
  constructor
  · intro hfree key log' hlog' hname
    obtain ⟨f, hf, hsame⟩ := List.mem_map.mp hname
    rw [← numbered_snd log'.events, List.mem_map] at hf
    obtain ⟨entry, hentry, rfl⟩ := hf
    have hrow : rowOfEvent entry ∈ db.events := by
      have hmem : rowOfEvent entry ∈ rowsOf log'.events := List.mem_map_of_mem hentry
      rw [← h.events key log' hlog'] at hmem
      exact List.mem_of_mem_filter hmem
    have hkey := (h.telling key log' hlog' entry.2 (mem_of_mem_numbered hentry)).1
    have hthere : entry.2.workspaceIdentity = workspace := by
      rw [← h.log_workspace hlog', ← hkey]
      rfl
    have hid : entry.2.eventId = e.eventId := hsame
    apply hfree [0, 1] (by decide) _ hrow
    rw [project_name, project_name, hthere, hworkspace, hid]
  · intro hunused columns hcolumns row hrow hagree
    obtain ⟨key, log', entry, hlog', hentry, rfl⟩ := h.told row hrow
    have hmem := mem_of_mem_numbered hentry
    simp only [eventsTable, List.mem_cons, List.not_mem_nil, or_false] at hcolumns
    rcases hcolumns with rfl | rfl
    · rw [project_name, project_name] at hagree
      have hid : eventName entry.2 = eventName e := by
        simp only [List.cons.injEq, Option.some.injEq, Value.str.injEq] at hagree
        exact hagree.2.1
      exact hunused key log' hlog' (hid ▸ List.mem_map_of_mem hmem)
    · rw [project_number, project_number] at hagree
      simp only [List.cons.injEq, Option.some.injEq, Value.str.injEq, Value.int.injEq] at hagree
      have hkey : key = eventKey e.toEventFields :=
        (h.telling key log' hlog' entry.2 hmem).1.symm.trans (Prod.ext hagree.1 hagree.2.1)
      rw [hkey, hlog] at hlog'
      obtain rfl := Option.some.inj hlog'
      have hnumber : entry.1 < log.events.length := by
        have hfst := List.mem_map_of_mem (f := Prod.fst) hentry
        rw [numbered_fst] at hfst
        exact List.mem_range.mp hfst
      omega

omit [TimestampLibrary] [LawfulTextLibrary] [LawfulZonedTimeLibrary] [LawfulDigestLibrary]
  [LawfulInfixLibrary] in
theorem rowsOf_concat (events : List AttestationRevalidationEvent)
    (e : AttestationRevalidationEvent) :
    rowsOf (events ++ [e]) = rowsOf events ++ [rowOfEvent (events.length, e)] := by
  rw [rowsOf, numbered_concat, List.map_append, List.map_singleton, rowsOf]

omit [TimestampLibrary] [LawfulTextLibrary] [LawfulZonedTimeLibrary] [LawfulDigestLibrary]
  [LawfulInfixLibrary] in
/-- A new event is entered after the events of its artifact. -/
theorem Stands.record (h : Stands workspace heads db ledger)
    (hlog : ledger (eventKey e.toEventFields) = some log)
    (htells : Tells e.toEventFields log.head) (hfresh : eventName e ∉ log.events.map eventName) :
    Stands workspace heads
      { db with events := db.events ++ [rowOfEvent (log.events.length, e)] }
      (ledger.appended (eventKey e.toEventFields) log e) := by
  have hlookup : ∀ key, ledger.appended (eventKey e.toEventFields) log e key =
      if key = eventKey e.toEventFields then some { log with events := log.events ++ [e] }
      else ledger key := fun key => Function.update_apply ..
  have hrow : ∀ key : Key, project [0, 4] (rowOfEvent (log.events.length, e)) =
      [Value.str key.1, Value.str key.2].map some ↔ eventKey e.toEventFields = key := by
    intro key
    rw [project_event]
    exact cells_eq_iff _ _ key
  refine
    { artifacts := h.artifacts, references := h.references, nodup := h.nodup, kept := ?_
      opened := ?_, workspace := h.workspace, events := ?_, told := ?_, telling := ?_
      distinct := (Logs.Step.appended hlog hfresh).distinct h.distinct }
  · intro head hhead
    obtain ⟨log', hlog', hsame⟩ := h.kept head hhead
    rw [hlookup]
    split_ifs with hkey
    · rw [hkey, hlog] at hlog'
      obtain rfl := Option.some.inj hlog'
      exact ⟨_, rfl, hsame⟩
    · exact ⟨log', hlog', hsame⟩
  · intro key log' hlog'
    rw [hlookup] at hlog'
    split_ifs at hlog' with hkey
    · obtain rfl := Option.some.inj hlog'
      exact h.opened key log (hkey ▸ hlog)
    · exact h.opened key log' hlog'
  · intro key log' hlog'
    rw [hlookup] at hlog'
    rw [select_append, select_singleton]
    split_ifs at hlog' with hkey
    · obtain rfl := Option.some.inj hlog'
      rw [h.events key log (hkey ▸ hlog), if_pos ((hrow key).mpr hkey.symm), rowsOf_concat]
    · rw [h.events key log' hlog', if_neg (mt (hrow key).mp (Ne.symm hkey)), List.append_nil]
  · intro row hmem
    rcases List.mem_append.mp hmem with hmem | hmem
    · obtain ⟨key, log', entry, hlog', hentry, rfl⟩ := h.told row hmem
      by_cases hkey : key = eventKey e.toEventFields
      · rw [hkey, hlog] at hlog'
        obtain rfl := Option.some.inj hlog'
        refine ⟨key, _, entry, by rw [hlookup, if_pos hkey], ?_, rfl⟩
        exact (numbered_initial (List.prefix_append _ _)).subset hentry
      · exact ⟨key, log', entry, by rw [hlookup, if_neg hkey, hlog'], hentry, rfl⟩
    · refine ⟨eventKey e.toEventFields, _, (log.events.length, e), by rw [hlookup, if_pos rfl], ?_,
        List.mem_singleton.mp hmem⟩
      rw [numbered_concat]
      exact List.mem_append_right _ List.mem_cons_self
  · intro key log' hlog' f hf
    rw [hlookup] at hlog'
    split_ifs at hlog' with hkey
    · obtain rfl := Option.some.inj hlog'
      rcases List.mem_append.mp hf with hf | hf
      · exact h.telling key log (hkey ▸ hlog) f hf
      · obtain rfl := List.mem_singleton.mp hf
        exact ⟨hkey.symm, htells⟩
    · exact h.telling key log' hlog' f hf

omit [LawfulDigestLibrary] in
theorem Stands.insertEvent (h : Stands workspace heads db ledger)
    (hlog : ledger (eventKey e.toEventFields) = some log)
    (htells : Tells e.toEventFields log.head) (hrecordable : Recordable ledger e) :
    db.insertEvent (rowOfEvent (log.events.length, e)) =
      .ok { db with events := db.events ++ [rowOfEvent (log.events.length, e)] } := by
  obtain ⟨hmem, hkey⟩ := h.opened _ log hlog
  have hartifact : refers db.artifacts [0, 1] [0, 4] (rowOfEvent (log.events.length, e)) = true := by
    refine refers_of_mem (h.artifacts ▸ List.mem_map_of_mem hmem) ?_
    rw [project_artifact, project_event]
    have hcells := Prod.ext_iff.mp hkey
    simp only [headKey, artifactKey, eventKey] at hcells
    rw [hcells.1, hcells.2]
  have hreference : refers db.references [0, 2, 21] [0, 4, 8]
      (rowOfEvent (log.events.length, e)) = true := by
    refine refers_of_mem (h.references ▸ List.mem_map_of_mem hmem) ?_
    have hcells := Prod.ext_iff.mp hkey
    simp only [headKey, artifactKey, eventKey] at hcells
    have hworkspace := log.head.matching.1 ▸ hcells.1
    have hartifactId := log.head.matching.2.1 ▸ hcells.2
    simp only [rowOfReference, referenceRow_eq, rowOfEvent, eventRow_eq]
    simp [project, hworkspace, hartifactId, htells.2]
  have hrow : insertRow eventsTable db.events
      (refers db.artifacts [0, 1] [0, 4] (rowOfEvent (log.events.length, e)) &&
        refers db.references [0, 2, 21] [0, 4, 8] (rowOfEvent (log.events.length, e)))
      (rowOfEvent (log.events.length, e)) =
      .ok (db.events ++ [rowOfEvent (log.events.length, e)]) := by
    refine insertRow_ok (eventRow_integer _ _) (hrecordable.number log hlog)
      (eventRow_admitted _ (by omega)) ((h.event_free hlog).mpr hrecordable.unused) ?_
    rw [hartifact, hreference]
    rfl
  simp only [Database.insertEvent, hrow, store_bind_ok, pure, Except.pure]

omit [TimestampLibrary] [LawfulTextLibrary] [LawfulZonedTimeLibrary] [LawfulDigestLibrary]
  [LawfulInfixLibrary] in
theorem Stands.insertEvent_refused (h : Stands workspace heads db ledger)
    (hlog : ledger (eventKey e.toEventFields) = some log) (hrefused : ¬Recordable ledger e) :
    ∃ error, db.insertEvent (rowOfEvent (log.events.length, e)) = .error error := by
  have hnot : ¬(Storable ((log.events.length : Int) + 1) ∧
      eventsTable.free db.events (rowOfEvent (log.events.length, e)) = true) := by
    rintro ⟨hnumber, hfree⟩
    refine hrefused ⟨fun log' hlog' => ?_, (h.event_free hlog).mp hfree⟩
    obtain rfl := Option.some.inj (hlog.symm.trans hlog')
    exact hnumber
  obtain ⟨error, herror⟩ : ∃ error, insertRow eventsTable db.events
      (refers db.artifacts [0, 1] [0, 4] (rowOfEvent (log.events.length, e)) &&
        refers db.references [0, 2, 21] [0, 4, 8] (rowOfEvent (log.events.length, e)))
      (rowOfEvent (log.events.length, e)) = .error error :=
    insertRow_refused (eventRow_integer _ _) hnot
  exact ⟨error, by simp only [Database.insertEvent, herror, store_bind_error]⟩

omit [TimestampLibrary] [LawfulTextLibrary] [LawfulZonedTimeLibrary] [LawfulDigestLibrary]
  [LawfulInfixLibrary] in
/-- The event that was inserted is the one of its identity. -/
theorem Stands.select_inserted (h : Stands workspace heads db ledger)
    (hlog : ledger (eventKey e.toEventFields) = some log)
    (hunused : ∀ key log, ledger key = some log → eventName e ∉ log.events.map eventName) :
    select (db.events ++ [rowOfEvent (log.events.length, e)]) [0, 1]
      [.str workspace, .str e.eventId] = [rowOfEvent (log.events.length, e)] := by
  have hworkspace : e.workspaceIdentity = workspace := h.log_workspace hlog
  have hnone : select db.events [0, 1] [.str workspace, .str e.eventId] = [] := by
    refine List.filter_eq_nil_iff.mpr fun row hrow => ?_
    have hfree := Table.free_iff.mp ((h.event_free hlog).mpr hunused) [0, 1] (by decide) row hrow
    rw [project_name, hworkspace] at hfree
    simpa using hfree
  rw [select_append, hnone, select_singleton, List.nil_append, if_pos]
  rw [project_name, hworkspace]
  rfl

omit [TimestampLibrary] [LawfulTextLibrary] [LawfulZonedTimeLibrary] [LawfulDigestLibrary]
  [LawfulInfixLibrary] in
/-- The event of an identity is found among those that were read. -/
theorem find_read (events : List AttestationRevalidationEvent) (name : String) :
    (((numbered events).map readEntry).find? fun entry => entry.2.eventId = name) =
      (named eventName events name).map readEntry := by
  rw [List.find?_map, named]
  rfl

omit [LawfulDigestLibrary] in
theorem append_elsewhere (helsewhere : e.workspaceIdentity ≠ workspace) (db : Database) :
    (store workspace).appendRevalidationEvent db e =
      (.error "attestation_persistence_workspace_mismatch", db) := by
  simp only [store, appendTransaction, ofRecord_ok e.again_eq, store_bind_ok,
    storeErrorIf_pos helsewhere]
  rfl

/-- What a transaction does with an event of the workspace. -/
theorem Stands.appendTransaction (h : Stands workspace heads db ledger)
    (e : AttestationRevalidationEvent) (hworkspace : e.workspaceIdentity = workspace) :
    appendTransaction workspace db e =
      match ledger (eventKey e.toEventFields) with
      | none => storeError "attestation_artifact_not_found"
      | some log => (do
          storeErrorIf (¬Tells e.toEventFields log.head)
            "attestation_revalidation_event_binding_mismatch"
          match named eventName log.events (eventName e) with
          | some entry => do
              storeErrorIf (entry.2.projection ≠ e.projection)
                "attestation_revalidation_event_conflict"
              pure (sequencedAt entry, db)
          | none => do
              let db ← db.insertEvent (rowOfEvent (log.events.length, e))
              match select db.events [0, 1] [.str workspace, .str e.eventId] with
              | [row] => do
                  let (sequence, stored) ← readEventRow row
                  let sequenced ← ofRecord
                    (SequencedAttestationRevalidationEvent.make sequence stored)
                  pure (sequenced, db)
              | _ => storeError eventCorrupt) := by
  have hkey : (workspace, e.artifactId) = eventKey e.toEventFields := Prod.ext hworkspace.symm rfl
  simp only [AttestationTables.appendTransaction, ofRecord_ok e.again_eq, store_bind_ok,
    storeErrorIf_neg (not_not.mpr hworkspace), hkey, h.aggregateLocked, Ledger.aggregate]
  cases hlog : ledger (eventKey e.toEventFields) with
  | none => rfl
  | some log =>
      have hgap : storeErrorIf (true = false) eventCorrupt = .ok () := storeErrorIf_neg (by simp) _
      simp only [Option.map_some, h.readEvents hlog, renamed, store_bind_ok, gapFree_numbered,
        hgap, find_read, List.length_map, numbered_length]
      have hname : named eventName log.events e.eventId =
        named eventName log.events (eventName e) := rfl
      rw [hname]
      cases named eventName log.events (eventName e) with
      | none =>
          simp only [Option.map_none, ofRecord_ok e.toPayload_eq, store_bind_ok]
          rfl
      | some entry =>
          simp only [Option.map_some, readEntry, ofRecord_ok entry.2.toPayload_eq,
            ofRecord_ok e.toPayload_eq, ofRecord_ok (sequenced_make entry), store_bind_ok]

/-- An event of the workspace is answered as the ledger answers it, unless it is new and
its row is refused. -/
theorem Stands.append (h : Stands workspace heads db ledger) (e : AttestationRevalidationEvent)
    (hworkspace : e.workspaceIdentity = workspace)
    (hrecordable : ∀ log, ledger (eventKey e.toEventFields) = some log →
      Tells e.toEventFields log.head → eventName e ∉ log.events.map eventName →
        Recordable ledger e) :
    ∃ db', (store workspace).appendRevalidationEvent db e = ((ledger.append e).1, db') ∧
      Stands workspace heads db' (ledger.append e).2 ∧ (db' = db ∨ ∃ log,
        ledger (eventKey e.toEventFields) = some log ∧ eventName e ∉ log.events.map eventName) := by
  have hstart : (store workspace).appendRevalidationEvent db e =
      commit "attestation_revalidation_event_conflict" eventCorrupt db
        (AttestationTables.appendTransaction workspace db e) := rfl
  rw [hstart, h.appendTransaction e hworkspace, Ledger.append]
  cases hlog : ledger (eventKey e.toEventFields) with
  | none => exact ⟨db, rfl, h, .inl rfl⟩
  | some log =>
      dsimp only
      by_cases htells : Tells e.toEventFields log.head
      · rw [storeErrorIf_neg (not_not.mpr htells), if_pos htells, store_bind_ok]
        cases hnamed : named eventName log.events (eventName e) with
        | none =>
            have hfresh : eventName e ∉ log.events.map eventName := named_eq_none.mp hnamed
            have hentered := h.record hlog htells hfresh
            have hnew := hrecordable log hlog htells hfresh
            refine ⟨_, ?_, hentered, .inr ⟨log, rfl, hfresh⟩⟩
            have hmake := ofRecord_ok (sequenced_make (log.events.length, e))
            have hread : readEventRow (rowOfEvent (log.events.length, e)) =
                .ok (.int (log.events.length + 1), e) := readEventRow_eq e _
            simp only [h.insertEvent hlog htells hnew, store_bind_ok,
              h.select_inserted hlog hnew.unused, hread, hmake]
            rfl
        | some entry =>
            refine ⟨db, ?_⟩
            dsimp only
            by_cases hsame : entry.2 = e
            · rw [storeErrorIf_neg (not_not.mpr (event_projection.mpr hsame)), store_bind_ok,
                if_neg (not_not.mpr hsame)]
              exact ⟨rfl, h, .inl rfl⟩
            · rw [storeErrorIf_pos (mt event_projection.mp hsame), if_pos hsame]
              exact ⟨rfl, h, .inl rfl⟩
      · rw [storeErrorIf_pos htells, if_neg htells]
        exact ⟨db, rfl, h, .inl rfl⟩

/-- A new event whose row is refused is not entered. -/
theorem Stands.append_refused (h : Stands workspace heads db ledger)
    (hlog : ledger (eventKey e.toEventFields) = some log)
    (htells : Tells e.toEventFields log.head) (hfresh : eventName e ∉ log.events.map eventName)
    (hrefused : ¬Recordable ledger e) :
    ∃ code, (store workspace).appendRevalidationEvent db e = (.error code, db) := by
  have hworkspace : e.workspaceIdentity = workspace := h.log_workspace hlog
  obtain ⟨error, herror⟩ := h.insertEvent_refused hlog hrefused
  refine ⟨rolledBack "attestation_revalidation_event_conflict" eventCorrupt error, ?_⟩
  have hstart : (store workspace).appendRevalidationEvent db e =
      commit "attestation_revalidation_event_conflict" eventCorrupt db
        (AttestationTables.appendTransaction workspace db e) := rfl
  rw [hstart, h.appendTransaction e hworkspace, hlog]
  dsimp only
  rw [storeErrorIf_neg (not_not.mpr htells), store_bind_ok, named_eq_none.mpr hfresh]
  simp only [herror]
  rfl

end

/-! ## Reads -/

omit [ZonedTimeLibrary] [LawfulZonedTimeLibrary] [LawfulDigestLibrary] [LawfulInfixLibrary]
  [TimestampLibrary] [LawfulTextLibrary] in
theorem validateWorkspace_settled (h : Settled workspace) :
    validateWorkspace workspace = .ok () := by
  refine storeErrorIf_neg ?_ _
  rw [not_or, not_or]
  exact ⟨h.nonEmpty, not_not.mpr h.strip.symm, not_not.mpr h.nfc⟩

theorem Stands.get (h : Stands workspace heads db ledger)
    (hopen : validateWorkspace workspace = .ok ()) (artifactId : String) :
    (store workspace).getArtifactAggregate db workspace artifactId =
      .ok (ledger.aggregate (workspace, artifactId)) := by
  simp only [store, getTransaction, hopen, store_bind_ok, storeErrorIf_neg (not_not.mpr rfl),
    h.aggregateLocked]
  rfl

theorem Stands.latest (h : Stands workspace heads db ledger)
    (hopen : validateWorkspace workspace = .ok ()) (artifactId : String) :
    (store workspace).getLatestRevalidationEvent db workspace artifactId =
      ledger.latest (workspace, artifactId) := by
  have hstart : (store workspace).getLatestRevalidationEvent db workspace artifactId =
    (latestTransaction workspace db workspace artifactId).mapError StoreRaised.code := rfl
  simp only [hstart, latestTransaction, hopen, store_bind_ok, storeErrorIf_neg (not_not.mpr rfl),
    h.aggregateLocked, Ledger.aggregate, Ledger.latest]
  cases hlog : ledger (workspace, artifactId) with
  | none => rfl
  | some log =>
      have hgap : storeErrorIf (true = false) eventCorrupt = .ok () := storeErrorIf_neg (by simp) _
      simp only [Option.map_some, h.readEvents hlog, store_bind_ok, gapFree_numbered, hgap,
        List.getLast?_map]
      cases (numbered log.events).getLast? with
      | none => rfl
      | some entry =>
          simp only [Option.map_some, readEntry, ofRecord_ok (sequenced_make entry)]
          rfl

omit [TimestampLibrary] [LawfulTextLibrary] [LawfulZonedTimeLibrary] [LawfulDigestLibrary]
  [LawfulInfixLibrary] in
/-- A read of another workspace is refused before the tables are read. -/
theorem read_elsewhere {workspaceIdentity : String} (helsewhere : workspaceIdentity ≠ workspace)
    (db : Database) (artifactId : String) :
    (store workspace).getArtifactAggregate db workspaceIdentity artifactId =
        .error "attestation_persistence_workspace_mismatch" ∧
      (store workspace).getLatestRevalidationEvent db workspaceIdentity artifactId =
        .error "attestation_persistence_workspace_mismatch" := by
  by_cases hvalid : workspaceIdentity = "" ∨ workspaceIdentity ≠ PythonLibrary.strip workspaceIdentity ∨
      UnicodeLibrary.nfc workspaceIdentity ≠ workspaceIdentity
  · simp only [store, getTransaction, latestTransaction, validateWorkspace, storeErrorIf_pos hvalid]
    exact ⟨rfl, rfl⟩
  · simp only [store, getTransaction, latestTransaction, validateWorkspace, storeErrorIf_neg hvalid,
      store_bind_ok, storeErrorIf_pos helsewhere]
    exact ⟨rfl, rfl⟩

end
end
end DeliverySystem.AttestationTables

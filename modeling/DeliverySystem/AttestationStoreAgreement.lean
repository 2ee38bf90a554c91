import DeliverySystem.AttestationStores

/-!
# Where the two attestation stores agree

A sequence of calls is answered alike by both stores as long as every reference fits
its artifact, no constraint of the tables refuses a row, and reads name an artifact by
a well-formed identity. The first call that does not comply is answered differently.
-/
namespace DeliverySystem.AttestationStores
open PythonValues CanonicalValues AuthorityBindings AttestationClaims AttestationArtifacts
open AttestationRecords SequencedLogs AttestationStoreContract AttestationTables
open AttestationMemoryStore InMemoryAttestationPersistenceStore
set_option autoImplicit false

section
variable [PythonLibrary] [UnicodeLibrary] [ZonedTimeLibrary]

/-! ## Calls and their results -/

inductive Call where
  | persistArtifact (a : PersistedAttestationArtifact) (r : AttestationBindingReference)
  | appendRevalidationEvent (e : AttestationRevalidationEvent)
  | getArtifactAggregate (workspaceIdentity artifactId : String)
  | getLatestRevalidationEvent (workspaceIdentity artifactId : String)

/-- The value that is returned, or the code of the error that is raised. -/
inductive Result where
  | aggregate (result : Except String AttestationArtifactAggregate)
  | sequenced (result : Except String SequencedAttestationRevalidationEvent)
  | found (result : Except String (Option AttestationArtifactAggregate))
  | latest (result : Except String (Option SequencedAttestationRevalidationEvent))

section
variable {state : Type}

def perform (store : AttestationPersistenceStore state) (s : state) : Call → Result × state
  | .persistArtifact a r =>
      (.aggregate (store.persistArtifact s a r).1, (store.persistArtifact s a r).2)
  | .appendRevalidationEvent e =>
      (.sequenced (store.appendRevalidationEvent s e).1, (store.appendRevalidationEvent s e).2)
  | .getArtifactAggregate workspaceIdentity artifactId =>
      (.found (store.getArtifactAggregate s workspaceIdentity artifactId), s)
  | .getLatestRevalidationEvent workspaceIdentity artifactId =>
      (.latest (store.getLatestRevalidationEvent s workspaceIdentity artifactId), s)

/-- The results of the calls, one after the other. -/
def results (store : AttestationPersistenceStore state) : state → List Call → List Result
  | _, [] => []
  | s, call :: calls => (perform store s call).1 :: results store (perform store s call).2 calls

end

/-- The records and the reads of a call are those of one workspace. -/
def Call.Within (workspace : String) : Call → Prop
  | .persistArtifact a r =>
      a.workspaceIdentity = workspace ∧ r.workspaceIdentity = workspace
  | .appendRevalidationEvent e => e.workspaceIdentity = workspace
  | .getArtifactAggregate workspaceIdentity _ => workspaceIdentity = workspace
  | .getLatestRevalidationEvent workspaceIdentity _ => workspaceIdentity = workspace

/-- What the ledger is after a call. -/
def Call.after (ledger : Ledger) : Call → Ledger
  | .persistArtifact a r =>
      if h : Matches a.toArtifactFields r.toReferenceFields then (ledger.persist ⟨a, r, h⟩).2
      else ledger
  | .appendRevalidationEvent e => (ledger.append e).2
  | _ => ledger

/-- A call is regular where the ledger stands: the reference fits the artifact, a new
artifact and a new event break no constraint of the tables, and the identity that is read
is well formed. -/
def Call.Regular (ledger : Ledger) : Call → Prop
  | .persistArtifact a r => ∃ h : Matches a.toArtifactFields r.toReferenceFields,
      ledger (artifactKey a.toArtifactFields) = none → Admitted ledger ⟨a, r, h⟩
  | .appendRevalidationEvent e => ∀ log, ledger (eventKey e.toEventFields) = some log →
      Tells e.toEventFields log.head → eventName e ∉ log.events.map eventName →
        Recordable ledger e
  | .getArtifactAggregate workspaceIdentity artifactId =>
      ∃ key, keyOf workspaceIdentity artifactId = .ok key
  | .getLatestRevalidationEvent workspaceIdentity artifactId =>
      ∃ key, keyOf workspaceIdentity artifactId = .ok key

/-- Every call is regular when it is made. -/
def Regular : Ledger → List Call → Prop
  | _, [] => True
  | ledger, call :: calls => call.Regular ledger ∧ Regular (call.after ledger) calls

/-! ## One call -/

variable [TimestampLibrary] [LawfulTextLibrary] [LawfulZonedTimeLibrary] [LawfulDigestLibrary]
  [LawfulInfixLibrary]

section
variable {workspace : String} {heads : List AttestationArtifactAggregate} {db : Database}
  {m : InMemoryAttestationPersistenceStore} {ledger : Ledger}

omit [ZonedTimeLibrary] [TimestampLibrary] [LawfulTextLibrary] [LawfulZonedTimeLibrary]
  [LawfulDigestLibrary] [LawfulInfixLibrary] in
theorem keyOf_artifact {artifactId : String} {key : Key}
    (h : keyOf workspace artifactId = .ok key) : key.2 = artifactId := by
  rw [keyOf] at h
  cases hworkspace : persistedText (.str workspace) with
  | error e =>
      rw [hworkspace] at h
      cases h
  | ok canonical =>
      rw [ofRecord_ok hworkspace, store_bind_ok] at h
      cases hartifact : exactText (.str artifactId) (hexPattern "artifact-") with
      | error e =>
          rw [hartifact] at h
          cases h
      | ok artifact =>
          rw [ofRecord_ok hartifact, store_bind_ok] at h
          obtain rfl := Except.ok.inj h
          exact (Value.str.inj (exactText_eq_ok.mp hartifact).1).symm

/-- The memory store reads the workspace in its canonical form; only that can hold artifacts. -/
theorem ledger_keyOf (h : Stands workspace heads db ledger) {artifactId : String} {key : Key}
    (hkey : keyOf workspace artifactId = .ok key) : ledger key = ledger (workspace, artifactId) := by
  cases hlog : ledger (workspace, artifactId) with
  | some log =>
      have hhead : artifactKey log.head.artifact.toArtifactFields = (workspace, artifactId) :=
        (h.opened _ log hlog).2
      have hsame := keyOf_head log.head.artifact
      obtain ⟨hworkspace, hartifact⟩ := Prod.mk.inj hhead
      rw [hhead, hworkspace, hartifact, hkey] at hsame
      rw [Except.ok.inj hsame, hlog]
  | none =>
      cases hother : ledger key with
      | none => rfl
      | some log =>
          have hworkspace : key.1 = workspace := h.log_workspace hother
          rw [← hworkspace, ← keyOf_artifact hkey, hother] at hlog
          cases hlog

/-- A regular call is answered alike, and both stores go on with the same ledger. -/
theorem regular_agree (hm : m.Represents ledger) (hdb : Stands workspace heads db ledger)
    (hopen : validateWorkspace workspace = .ok ()) {call : Call} (hwithin : call.Within workspace)
    (hregular : call.Regular ledger) :
    (perform InMemoryAttestationPersistenceStore.store m call).1 =
        (perform (AttestationTables.store workspace) db call).1 ∧
      (perform InMemoryAttestationPersistenceStore.store m call).2.Represents (call.after ledger) ∧
      ∃ heads', Stands workspace heads' (perform (AttestationTables.store workspace) db call).2
        (call.after ledger) := by
  cases call with
  | persistArtifact a r =>
      obtain ⟨hmatches, hadmitted⟩ := hregular
      obtain ⟨hmemory, hm'⟩ := hm.persist ⟨a, r, hmatches⟩
      obtain ⟨heads', db', htables, hdb'⟩ := hdb.persist ⟨a, r, hmatches⟩ hwithin.1 hadmitted
      have hafter : (Call.persistArtifact a r).after ledger = (ledger.persist ⟨a, r, hmatches⟩).2 :=
        dif_pos hmatches
      simp only [perform, hafter, hmemory, htables]
      exact ⟨trivial, hm', heads', hdb'⟩
  | appendRevalidationEvent e =>
      obtain ⟨hmemory, hm', -⟩ := hm.append e
      obtain ⟨db', htables, hdb', -⟩ := hdb.append e hwithin hregular
      simp only [perform, hmemory, htables]
      exact ⟨trivial, hm', heads, hdb'⟩
  | getArtifactAggregate workspaceIdentity artifactId =>
      obtain ⟨key, hkey⟩ := hregular
      obtain rfl : workspaceIdentity = workspace := hwithin
      simp only [perform, hm.get hkey, hdb.get hopen, Ledger.aggregate, ledger_keyOf hdb hkey]
      exact ⟨trivial, hm, heads, hdb⟩
  | getLatestRevalidationEvent workspaceIdentity artifactId =>
      obtain ⟨key, hkey⟩ := hregular
      obtain rfl : workspaceIdentity = workspace := hwithin
      simp only [perform, hm.latest hkey, hdb.latest hopen, Ledger.latest, ledger_keyOf hdb hkey]
      exact ⟨trivial, hm, heads, hdb⟩

/-- A new aggregate whose rows are refused is kept in memory all the same. -/
theorem refused_differ (hm : m.Represents ledger) (hdb : Stands workspace heads db ledger)
    (aggregate : AttestationArtifactAggregate)
    (hworkspace : aggregate.artifact.workspaceIdentity = workspace)
    (hnew : ledger (headKey aggregate) = none) (hrefused : ¬Admitted ledger aggregate) :
    Result.aggregate (InMemoryAttestationPersistenceStore.store.persistArtifact m
        aggregate.artifact aggregate.bindingReference).1 ≠
      Result.aggregate ((AttestationTables.store workspace).persistArtifact db
        aggregate.artifact aggregate.bindingReference).1 := by
  obtain ⟨code, htables⟩ := hdb.persist_refused hworkspace hnew hrefused
  have hledger : (ledger.persist aggregate).1 = .ok aggregate := by
    have hnew' : ledger (artifactKey aggregate.artifact.toArtifactFields) = none := hnew
    rw [Ledger.persist, hnew']
  rw [(hm.persist aggregate).1, hledger, htables]
  intro h
  cases h

/-- A call that is not regular is answered differently. -/
theorem irregular_differ (hm : m.Represents ledger) (hdb : Stands workspace heads db ledger)
    (hopen : validateWorkspace workspace = .ok ()) {call : Call} (hwithin : call.Within workspace)
    (hirregular : ¬call.Regular ledger) :
    (perform InMemoryAttestationPersistenceStore.store m call).1 ≠
      (perform (AttestationTables.store workspace) db call).1 := by
  cases call with
  | persistArtifact a r =>
      by_cases hmatches : Matches a.toArtifactFields r.toReferenceFields
      · have hnot : ¬(ledger (artifactKey a.toArtifactFields) = none →
            Admitted ledger ⟨a, r, hmatches⟩) := fun hadmitted => hirregular ⟨hmatches, hadmitted⟩
        obtain ⟨hnew, hrefused⟩ := Classical.not_imp.mp hnot
        exact refused_differ hm hdb ⟨a, r, hmatches⟩ hwithin.1 hnew hrefused
      · simp only [perform, InMemoryAttestationPersistenceStore.persist_mismatch hmatches,
          AttestationTables.persist_mismatch hmatches]
        intro h
        exact absurd (Except.error.inj (Result.aggregate.inj h)) (by decide)
  | appendRevalidationEvent e =>
      have hnot : ∃ log, ledger (eventKey e.toEventFields) = some log ∧
          Tells e.toEventFields log.head ∧ eventName e ∉ log.events.map eventName ∧
            ¬Recordable ledger e := by
        by_contra hnone
        push Not at hnone
        exact hirregular hnone
      obtain ⟨log, hlog, htells, hfresh, hrefused⟩ := hnot
      obtain ⟨code, htables⟩ := hdb.append_refused hlog htells hfresh hrefused
      have hledger : (ledger.append e).1 = .ok (sequencedAt (log.events.length, e)) := by
        rw [Ledger.append, hlog]
        dsimp only
        rw [if_pos htells, named_eq_none.mpr hfresh]
      simp only [perform, (hm.append e).1, hledger, htables]
      intro h
      cases h
  | getArtifactAggregate workspaceIdentity artifactId =>
      obtain rfl : workspaceIdentity = workspace := hwithin
      cases hkey : keyOf workspaceIdentity artifactId with
      | ok key => exact absurd ⟨key, hkey⟩ hirregular
      | error e =>
          simp only [perform, (read_refused hkey m).1, hdb.get hopen]
          intro h
          cases h
  | getLatestRevalidationEvent workspaceIdentity artifactId =>
      obtain rfl : workspaceIdentity = workspace := hwithin
      cases hkey : keyOf workspaceIdentity artifactId with
      | ok key => exact absurd ⟨key, hkey⟩ hirregular
      | error e =>
          have hcodes : ∀ code ∈ ["attestation_persistence_type_invalid",
              "attestation_persistence_payload_invalid"],
              code ≠ "attestation_artifact_not_found" := by decide
          have hcode := hcodes _ (keyOf_refused hkey)
          simp only [perform, (read_refused hkey m).2, hdb.latest hopen, Ledger.latest]
          intro h
          cases hlog : ledger (workspaceIdentity, artifactId) with
          | none =>
              rw [hlog] at h
              exact hcode (Except.error.inj (Result.latest.inj h))
          | some log =>
              rw [hlog] at h
              cases h

end

/-! ## Sequences of calls -/

/-- From states of one ledger, the results agree as long as the calls are regular. -/
theorem results_eq_iff {workspace : String} (hopen : validateWorkspace workspace = .ok ())
    (calls : List Call) (hwithin : ∀ call ∈ calls, call.Within workspace)
    {heads : List AttestationArtifactAggregate} {db : Database}
    {m : InMemoryAttestationPersistenceStore} {ledger : Ledger} (hm : m.Represents ledger)
    (hdb : Stands workspace heads db ledger) :
    results InMemoryAttestationPersistenceStore.store m calls =
        results (AttestationTables.store workspace) db calls ↔ Regular ledger calls := by
  induction calls generalizing m db heads ledger with
  | nil => exact iff_of_true rfl trivial
  | cons call calls ih =>
      have hcall := hwithin call List.mem_cons_self
      rw [results, results, List.cons.injEq, Regular]
      by_cases hregular : call.Regular ledger
      · obtain ⟨hsame, hm', heads', hdb'⟩ := regular_agree hm hdb hopen hcall hregular
        rw [ih (fun other hother => hwithin other (List.mem_cons_of_mem _ hother)) hm' hdb']
        exact and_congr_left fun _ => iff_of_true hsame hregular
      · exact iff_of_false (fun h => irregular_differ hm hdb hopen hcall hregular h.1)
          fun h => hregular h.1

/-- Started empty, the two stores give the same results exactly when every call is
regular as it is made. -/
theorem stores_agree_iff {workspace : String} (hopen : validateWorkspace workspace = .ok ())
    (calls : List Call) (hwithin : ∀ call ∈ calls, call.Within workspace) :
    results InMemoryAttestationPersistenceStore.store .empty calls =
        results (AttestationTables.store workspace) .empty calls ↔
      Regular Logs.empty calls :=
  results_eq_iff hopen calls hwithin empty_represents (empty_stands workspace)

end

/-- An artifact that is persisted twice and then read. -/
theorem stores_agree_iff_sample :
    ∃ (_ : PythonLibrary) (_ : UnicodeLibrary) (_ : ZonedTimeLibrary)
      (a : PersistedAttestationArtifact) (r : AttestationBindingReference),
      results InMemoryAttestationPersistenceStore.store .empty
          [.persistArtifact a r, .persistArtifact a r,
            .getArtifactAggregate a.workspaceIdentity a.artifactId] =
        results (AttestationTables.store a.workspaceIdentity) .empty
          [.persistArtifact a r, .persistArtifact a r,
            .getArtifactAggregate a.workspaceIdentity a.artifactId] := by
  have hlawful := IssuanceHistories.referenceLibrary_lawful
  have htimes := AttestationReference.referenceTimes_lawful
  have hdigests := AttestationReference.referenceLibrary_digests
  have hinfix := AttestationReference.referenceLibrary_infix
  let _ := ReferenceLibrary.referenceLibrary
  let _ := IssuanceHistories.referenceUnicode
  let _ := IssuanceHistories.referenceTimestamps
  let _ := AttestationReference.referenceTimes
  obtain ⟨a, hrevision⟩ := AttestationReference.exists_artifact_of_revision (le_refl 1)
  obtain ⟨r, hmatches, -⟩ := exists_reference a
    (hexPattern_append (by decide : hexPattern "" AttestationReference.zeros = true))
  refine ⟨_, _, _, a, r, (stores_agree_iff (validateWorkspace_settled a.sound.workspace) _ ?_).mpr
    ⟨⟨hmatches, fun _ => ⟨?_, fun key log hlog => by cases hlog⟩⟩, ⟨hmatches, fun hnew => ?_⟩,
      ⟨_, keyOf_head a⟩, trivial⟩⟩
  · simp only [List.forall_mem_cons, List.not_mem_nil, false_implies, implies_true, and_true]
    exact ⟨⟨rfl, hmatches.1.symm⟩, ⟨rfl, hmatches.1.symm⟩, rfl⟩
  · change Storable a.claimsPayload.revision
    rw [hrevision]
    decide
  · have hpersisted : (Ledger.persist Logs.empty ⟨a, r, hmatches⟩).1 = .ok ⟨a, r, hmatches⟩ := rfl
    obtain ⟨-, log, hlog, -⟩ := Ledger.persist_ok hpersisted
    rw [Call.after, dif_pos hmatches, hlog] at hnew
    cases hnew

/-- A revision of 64 bits and more is kept in memory and refused by the tables. -/
theorem stores_disagree_beyond_columns :
    ¬∀ (_ : PythonLibrary) (_ : UnicodeLibrary) (_ : TimestampLibrary) (_ : ZonedTimeLibrary)
      (_ : LawfulTextLibrary) (_ : LawfulZonedTimeLibrary) (_ : LawfulDigestLibrary)
      (_ : LawfulInfixLibrary) (workspace : String) (calls : List Call),
      validateWorkspace workspace = .ok () → (∀ call ∈ calls, call.Within workspace) →
        results InMemoryAttestationPersistenceStore.store .empty calls =
          results (AttestationTables.store workspace) .empty calls := by
  intro hagree
  have hlawful := IssuanceHistories.referenceLibrary_lawful
  have htimes := AttestationReference.referenceTimes_lawful
  have hdigests := AttestationReference.referenceLibrary_digests
  have hinfix := AttestationReference.referenceLibrary_infix
  let _ := ReferenceLibrary.referenceLibrary
  let _ := IssuanceHistories.referenceUnicode
  let _ := IssuanceHistories.referenceTimestamps
  let _ := AttestationReference.referenceTimes
  obtain ⟨a, hrevision⟩ := AttestationReference.exists_artifact_of_revision
    (by decide : (1 : Int) ≤ 2 ^ 63)
  obtain ⟨r, hmatches, -⟩ := exists_reference a
    (hexPattern_append (by decide : hexPattern "" AttestationReference.zeros = true))
  have hopen := validateWorkspace_settled a.sound.workspace
  have hwithin : ∀ call ∈ [Call.persistArtifact a r], call.Within a.workspaceIdentity := by
    simp only [List.forall_mem_cons, List.not_mem_nil, false_implies, implies_true, and_true]
    exact ⟨rfl, hmatches.1.symm⟩
  have hsame := hagree _ _ _ _ hlawful htimes hdigests hinfix a.workspaceIdentity
    [.persistArtifact a r] hopen hwithin
  obtain ⟨⟨_, hadmitted⟩, -⟩ := (results_eq_iff hopen _ hwithin empty_represents
    (empty_stands a.workspaceIdentity)).mp hsame
  have hfits := (hadmitted rfl).revision.2
  rw [hrevision] at hfits
  exact lt_irrefl _ hfits

end DeliverySystem.AttestationStores

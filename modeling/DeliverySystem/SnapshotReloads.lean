import DeliverySystem.AttestationReference
import DeliverySystem.PreviewHistories
import DeliverySystem.SnapshotForms

/-!
# Snapshots that are read back

A snapshot is written with its records in order and every text normalized, and the
records were checked and put in order as they came. What is written is read back to
the same snapshot where the normalized texts pass the checks again and stay in order.
-/
namespace DeliverySystem.SnapshotReloads
open PythonValues CanonicalValues AuthorityBindings NormalForms RemoteSnapshots IssueCommands
open AuditRecords SnapshotForms
open PreviewEligibility (normalize_dict_eq_ok)
set_option autoImplicit false

/-! ## Snapshots that are written -/

section
variable [PythonLibrary] [UnicodeLibrary]

/-- What `from_records` makes sure of. -/
structure Made {issue : Type} (version : SnapshotVersion issue) (s : Snapshot issue) : Prop where
  repository : PythonLibrary.strip s.repositoryIdentity ≠ ""
  scope : ∃ d, s.queryScope = .dict d ∧ CanonicalValues.normalize (.dict d) = .ok (.dict d)
  issues : ∀ i ∈ s.issueRecords, ∃ v, version.fromDict v = .ok i
  sameRepository : ∀ i ∈ s.issueRecords, version.repositoryIdentity i = s.repositoryIdentity
  requests : ∀ i ∈ s.issueRecords, version.pullRequest i ≠ true
  distinct : (s.issueRecords.map version.issueId).Nodup
  relationships : ∀ r ∈ s.relationshipRecords, r.relationshipType ∈ remoteRelationshipTypes
  known : ∀ r ∈ s.relationshipRecords, r.sourceIssueId ∈ s.issueRecords.map version.issueId ∧
    r.targetIssueId ∈ s.issueRecords.map version.issueId
  schema : s.schemaVersion = version.schemaVersion

theorem made_of_fromRecords [LawfulSpacing] {issue : Type} {version : SnapshotVersion issue}
    {r : SnapshotRecords} {s : Snapshot issue} (h : Snapshot.fromRecords version r = .ok s) :
    Made version s := by
  simp only [Snapshot.fromRecords, bind_eq_ok, orRaise_eq_ok, raiseIf_eq_ok, pure_eq_ok,
    presentText?_eq_some, mapM_eq_ok, not_exists, not_and, not_not, not_or, ne_eq] at h
  obtain ⟨repository, ⟨-, hrepository⟩, _, -, _, -, records, -, issues, hissues, _, hsame, _,
    hrequests, _, hdistinct, relationRecords, -, relationships, hrelationships, _, hknown,
    evidence, -, scope, -, queryScope, hscope, _, -, _, -, _, -, rfl⟩ := h
  refine ⟨hrepository, ?_, fun i hi => ?_, hsame, hrequests, hdistinct, fun r hr => ?_, hknown,
    rfl⟩
  · obtain ⟨made, -, -, heq⟩ := normalize_dict_eq_ok.mp hscope
    rw [heq] at hscope
    exact ⟨_, heq, normalize_again _ _ hscope⟩
  · obtain ⟨v, -, hv⟩ := PairedLists.mem_right hissues hi
    exact ⟨v, hv⟩
  · obtain ⟨v, -, hv⟩ := PairedLists.mem_right hrelationships hr
    exact relationshipSound hv

/-- A relationship as it is written. -/
def relationshipForm (r : RemoteRelationshipRecord) : Value :=
  .dict (sortEntries (relationshipEntries (settledRelationship r)))

/-- The entries of a written snapshot, before they are sorted. -/
def writtenEntries {issue : Type} (version : SnapshotVersion issue) (form : issue → Value)
    (s : Snapshot issue) (permissions : Value) (evidence : List Value) (observed : Value) : Dict :=
  [("repository_identity", .str (canonicalText s.repositoryIdentity)),
    ("query_scope", s.queryScope), ("query_complete", .bool s.queryComplete),
    ("pagination_complete", .bool s.paginationComplete),
    ("issue_records", .list ((s.issueRecords.insertionSort
      fun a b => version.issueId a ≤ version.issueId b).map form)),
    ("permissions", permissions),
    ("capabilities", Value.texts ((s.capabilities.insertionSort (· ≤ ·)).map canonicalText)),
    ("relationship_records", .list ((s.relationshipRecords.insertionSort
      RemoteRelationshipRecord.before).map relationshipForm)),
    ("evidence_ids", .list evidence), ("schema_version", .str s.schemaVersion),
    ("observed_at", observed)]

theorem writtenEntries_keys {issue : Type} {version : SnapshotVersion issue} {form : issue → Value}
    {s : Snapshot issue} {permissions : Value} {evidence : List Value} {observed : Value} :
    (Dict.keys (writtenEntries version form s permissions evidence observed)).Nodup := by
  simp only [writtenEntries, Dict.keys, List.map_cons, List.map_nil]
  decide

theorem normalize_bool (b : Bool) : CanonicalValues.normalize (.bool b) = .ok (.bool b) := by
  rw [CanonicalValues.normalize] <;> simp

theorem exists_normalized {entries : Dict} {v : Value}
    (h : CanonicalValues.normalize (.dict entries) = .ok v) {e : String × Value}
    (he : e ∈ entries) :
    ∃ w, CanonicalValues.normalize e.2 = .ok w := by
  obtain ⟨made, hmade, -, -⟩ := normalize_dict_eq_ok.mp h
  obtain ⟨e', -, -, he'⟩ := PairedLists.mem_left hmade he
  exact ⟨e'.2, he'⟩

theorem normalize_textList (texts : List String) :
    CanonicalValues.normalize (Value.texts texts) =
      .ok (Value.texts (texts.map canonicalText)) := by
  simp only [Value.texts, CanonicalValues.normalize, bind_eq_ok, normalizeItems_eq_ok, pure_eq_ok]
  refine ⟨_, ?_, rfl⟩
  rw [List.map_map, List.forall₂_map_left_iff, List.forall₂_map_right_iff]
  exact List.forall₂_same.mpr fun text _ => normalize_str text

variable [TimestampLibrary] [LawfulTextLibrary] [DatetimeLibrary] [LawfulSpacing]
  {issue : Type} {version : SnapshotVersion issue} {updatedAt : issue → String}
  {settled : issue → issue} {form : issue → Value}

omit [LawfulSpacing] in
/-- A snapshot is written where its permissions are booleans under different keys and the time
of its observation is a value that is normalized. -/
theorem toDict_eq_ok (hw : Written version updatedAt settled form) {s : Snapshot issue}
    (hs : Made version s) {v : Value} :
    s.toDict version = .ok v ↔ ∃ permissions evidence observed,
      (∀ e ∈ s.permissions, (Value.bool? e.2).isSome) ∧
      CanonicalValues.normalize (.dict (sortEntries s.permissions)) = .ok permissions ∧
      normalizeItems s.evidenceIds = .ok evidence ∧
      CanonicalValues.normalize s.observedAt = .ok observed ∧
      .dict (sortEntries (writtenEntries version form s permissions evidence observed)) = v := by
  obtain ⟨scope, hscope, hnormalScope⟩ := hs.scope
  have hscopeAgain : CanonicalValues.normalize s.queryScope = .ok s.queryScope := by
    rw [hscope, hnormalScope]
  have hmade : ∀ i ∈ s.issueRecords.insertionSort fun a b => version.issueId a ≤ version.issueId b,
      ∃ w, version.toDict i = .ok w ∧ CanonicalValues.normalize w = .ok (form i) := fun i hi => by
    obtain ⟨v, hv⟩ := hs.issues i ((List.mem_insertionSort _).mp hi)
    exact hw.writes hv
  obtain ⟨issues, hissues⟩ := PairedLists.exists_forall₂ hmade
  have hissuesMade : (s.issueRecords.insertionSort
      fun a b => version.issueId a ≤ version.issueId b).mapM version.toDict = .ok issues :=
    mapM_eq_ok.mpr (hissues.imp fun _ _ h => h.1)
  have hissuesNormal : CanonicalValues.normalize (.list issues) = .ok (.list
      ((s.issueRecords.insertionSort fun a b => version.issueId a ≤ version.issueId b).map
        form)) := by
    simp only [CanonicalValues.normalize, bind_eq_ok, normalizeItems_eq_ok, pure_eq_ok]
    refine ⟨_, ?_, rfl⟩
    rw [List.forall₂_map_right_iff]
    exact hissues.flip.imp fun _ _ h => h.2
  have hrelationships : CanonicalValues.normalize (.list ((s.relationshipRecords.insertionSort
      RemoteRelationshipRecord.before).map RemoteRelationshipRecord.toDict)) =
        .ok (.list ((s.relationshipRecords.insertionSort RemoteRelationshipRecord.before).map
          relationshipForm)) := by
    simp only [CanonicalValues.normalize, bind_eq_ok, normalizeItems_eq_ok, pure_eq_ok]
    refine ⟨_, ?_, rfl⟩
    rw [List.forall₂_map_left_iff, List.forall₂_map_right_iff]
    exact List.forall₂_same.mpr fun r hr =>
      normalize_relationship (hs.relationships r ((List.mem_insertionSort _).mp hr))
  have hschema : canonicalText s.schemaVersion = s.schemaVersion := by
    rw [hs.schema]
    exact canonicalText_plain hw.schema.1 hw.schema.2
  have hnormalized : ∀ {permissions evidence observed},
      CanonicalValues.normalize (.dict (sortEntries s.permissions)) = .ok permissions →
      normalizeItems s.evidenceIds = .ok evidence →
      CanonicalValues.normalize s.observedAt = .ok observed →
      ∀ entries, s.entries version = .ok entries → CanonicalValues.normalize (.dict entries) =
        .ok (.dict (sortEntries
          (writtenEntries version form s permissions evidence observed))) := by
    intro permissions evidence observed hpermissions hevidence hobserved entries hentries
    simp only [Snapshot.entries, bind_eq_ok, raiseIf_eq_ok, pure_eq_ok, hscopeAgain, hissuesMade,
      Except.ok.injEq, exists_eq_left'] at hentries
    obtain ⟨_, -, rfl⟩ := hentries
    have hevidenceList : CanonicalValues.normalize (.list s.evidenceIds) =
        .ok (.list evidence) := by
      simp only [CanonicalValues.normalize, hevidence, bind_eq_ok, pure_eq_ok, Except.ok.injEq,
        exists_eq_left']
    refine normalize_plain ?_ ?_ ?_
    · simp only [Dict.keys, List.map_cons, List.map_nil]
      decide
    · simp only [Dict.keys, List.map_cons, List.map_nil]
      decide
    · simp only [writtenEntries, List.forall₂_cons, List.forall₂_nil_left_iff, normalize_str,
        normalize_bool, hscopeAgain, hissuesNormal, hpermissions, hrelationships,
        normalize_textList, hevidenceList, hobserved, hschema, and_self]
  simp only [Snapshot.toDict, bind_eq_ok]
  constructor
  · rintro ⟨entries, hentries, hv⟩
    have hmade := hentries
    simp only [Snapshot.entries, bind_eq_ok, raiseIf_eq_ok, pure_eq_ok, hscopeAgain,
      hissuesMade, Except.ok.injEq, exists_eq_left', not_exists, not_and] at hmade
    obtain ⟨_, hbooleans, rfl⟩ := hmade
    obtain ⟨permissions, hpermissions⟩ := exists_normalized hv
      (e := ("permissions", .dict (sortEntries s.permissions))) (by simp)
    obtain ⟨evidence, hevidence⟩ := exists_normalized hv
      (e := ("evidence_ids", .list s.evidenceIds)) (by simp)
    obtain ⟨observed, hobserved⟩ := exists_normalized hv
      (e := ("observed_at", s.observedAt)) (by simp)
    simp only [CanonicalValues.normalize.eq_def (Value.list _), bind_eq_ok, pure_eq_ok] at hevidence
    obtain ⟨items, hitems, -⟩ := hevidence
    refine ⟨permissions, items, observed, fun e he => ?_, hpermissions, hitems, hobserved, ?_⟩
    · exact Option.isSome_iff_ne_none.mpr (by simpa using hbooleans e he)
    · exact Except.ok.inj ((hnormalized hpermissions hitems hobserved _ hentries).symm.trans hv)
  · rintro ⟨permissions, evidence, observed, hbooleans, hpermissions, hevidence, hobserved, rfl⟩
    obtain ⟨entries, hentries⟩ : ∃ entries, s.entries version = .ok entries := by
      simp only [Snapshot.entries, bind_eq_ok, raiseIf_eq_ok, pure_eq_ok, hscopeAgain,
        hissuesMade, Except.ok.injEq, exists_eq_left', not_exists, not_and]
      exact ⟨_, (), fun e he => by simpa using Option.isSome_iff_ne_none.mp (hbooleans e he), rfl⟩
    exact ⟨entries, hentries, hnormalized hpermissions hevidence hobserved entries hentries⟩

/-! ## Written snapshots that are read -/

/-- The fields of a written snapshot, as the arguments of `from_records`. -/
def recordsOf (d : Dict) : SnapshotRecords where
  repositoryIdentity := d.get "repository_identity"
  queryScope := d.get "query_scope"
  queryComplete := d.get "query_complete"
  paginationComplete := d.get "pagination_complete"
  issueRecords := d.get "issue_records"
  permissions := d.get "permissions"
  capabilities := d.get "capabilities"
  relationshipRecords := d.get "relationship_records"
  evidenceIds := d.get "evidence_ids"
  observedAt := d.get "observed_at"

omit [TimestampLibrary] [LawfulTextLibrary] [DatetimeLibrary] [LawfulSpacing] in
theorem recordsOf_written {s : Snapshot issue} {permissions : Value} {evidence : List Value}
    {observed : Value} :
    recordsOf (sortEntries (writtenEntries version form s permissions evidence observed)) =
      { repositoryIdentity := .str (canonicalText s.repositoryIdentity)
        queryScope := s.queryScope
        queryComplete := .bool s.queryComplete
        paginationComplete := .bool s.paginationComplete
        issueRecords := .list ((s.issueRecords.insertionSort
          fun a b => version.issueId a ≤ version.issueId b).map form)
        permissions := permissions
        capabilities := Value.texts
          ((s.capabilities.insertionSort (· ≤ ·)).map canonicalText)
        relationshipRecords := .list ((s.relationshipRecords.insertionSort
          RemoteRelationshipRecord.before).map relationshipForm)
        evidenceIds := .list evidence
        observedAt := observed } := by
  have hvalues := fun e => get_sorted
    (d := writtenEntries version form s permissions evidence observed) (e := e) writtenEntries_keys
  generalize hd : sortEntries (writtenEntries version form s permissions evidence observed) = d
    at hvalues
  simp only [writtenEntries, List.forall_mem_cons, List.not_mem_nil, false_implies, implies_true,
    and_true] at hvalues
  obtain ⟨hrepository, hscope, hquery, hpagination, hissues, hpermissions, hcapabilities,
    hrelationships, hevidence, -, hobserved⟩ := hvalues
  rw [recordsOf, hrepository, hscope, hquery, hpagination, hissues, hpermissions, hcapabilities,
    hrelationships, hevidence, hobserved]

omit [PythonLibrary] [UnicodeLibrary] [TimestampLibrary] [LawfulTextLibrary] [DatetimeLibrary]
  [LawfulSpacing] in
theorem capabilitySet_texts {texts items : List String} :
    capabilitySet (Value.texts texts) = .ok items ↔
      texts = items ∧ (∀ text ∈ texts, text ≠ "") ∧ texts.Nodup := by
  have hmapM : ∀ texts items : List String,
      (texts.map Value.str).mapM Value.nonEmptyText? = some items ↔
        texts = items ∧ ∀ text ∈ texts, text ≠ "" := by
    intro texts items
    rw [PairedLists.mapM_eq_some, List.forall₂_map_left_iff]
    constructor
    · intro h
      refine ⟨List.forall₂_eq_eq_eq ▸ h.imp fun a b hab => ?_, fun text htext => ?_⟩
      · exact (Value.str.inj (Value.nonEmptyText?_eq_some.mp hab).1)
      · obtain ⟨b, -, hb⟩ := PairedLists.mem_left h htext
        obtain ⟨heq, hne⟩ := Value.nonEmptyText?_eq_some.mp hb
        rw [Value.str.inj heq]
        exact hne
    · rintro ⟨rfl, hne⟩
      exact List.forall₂_same.mpr fun text htext =>
        Value.nonEmptyText?_eq_some.mpr ⟨rfl, hne text htext⟩
  simp only [capabilitySet, Value.texts, Value.iterate, bind_eq_ok, orRaise_eq_ok, raiseIf_eq_ok,
    pure_eq_ok, Except.ok.injEq, exists_eq_left', hmapM, not_not]
  constructor
  · rintro ⟨_, ⟨rfl, hne⟩, _, hnodup, rfl⟩
    exact ⟨rfl, hne, hnodup⟩
  · rintro ⟨rfl, hne, hnodup⟩
    exact ⟨texts, ⟨rfl, hne⟩, (), hnodup, rfl⟩

omit [PythonLibrary] [UnicodeLibrary] [TimestampLibrary] [LawfulTextLibrary] [DatetimeLibrary]
  [LawfulSpacing] in
theorem snapshotEvidence_list {items found : List Value} :
    snapshotEvidence (.list items) = .ok found ↔
      items = found ∧ items.all Value.hashable = true ∧ items.Nodup := by
  have hread : Value.orEmptyTuple (.list items) = .ok items := by
    cases items <;> rfl
  simp only [snapshotEvidence, hread, distinctItems, bind_eq_ok, raiseIf_eq_ok, pure_eq_ok,
    Except.ok.injEq, exists_eq_left', Bool.not_eq_false]
  constructor
  · rintro ⟨distinct, hdistinct, _, rfl, rfl⟩
    split_ifs at hdistinct with hhashable
    exact ⟨rfl, hhashable, of_decide_eq_true (Except.ok.inj hdistinct)⟩
  · rintro ⟨rfl, hhashable, hnodup⟩
    exact ⟨true, by rw [if_pos hhashable, decide_eq_true hnodup], (), rfl, rfl⟩

omit [TimestampLibrary] [LawfulTextLibrary] [DatetimeLibrary] [LawfulSpacing] in
theorem map_canonicalIds (issues : List issue) :
    (issues.insertionSort fun a b => version.issueId a ≤ version.issueId b).map
        (fun i => canonicalText (version.issueId i)) =
      ((issues.map version.issueId).insertionSort (· ≤ ·)).map canonicalText := by
  rw [← map_insertionSort, List.map_map]
  rfl

omit [TimestampLibrary] [LawfulTextLibrary] [LawfulSpacing] in
theorem map_settled_ids (hw : Written version updatedAt settled form) (issues : List issue) :
    ((issues.insertionSort fun a b => version.issueId a ≤ version.issueId b).map settled).map
        version.issueId =
      ((issues.map version.issueId).insertionSort (· ≤ ·)).map canonicalText := by
  rw [← map_canonicalIds, List.map_map]
  exact List.map_congr_left fun i _ => hw.id i

/-- The snapshot that a written one is read to. -/
def reread (version : SnapshotVersion issue) (settled : issue → issue) (s : Snapshot issue)
    (permissions : Dict) (evidence : List Value) (observed : Value) : Snapshot issue where
  repositoryIdentity := canonicalText s.repositoryIdentity
  queryScope := s.queryScope
  queryComplete := s.queryComplete
  paginationComplete := s.paginationComplete
  issueRecords := (s.issueRecords.insertionSort
    fun a b => version.issueId a ≤ version.issueId b).map settled
  permissions := permissions
  capabilities := (s.capabilities.insertionSort (· ≤ ·)).map canonicalText
  relationshipRecords := (s.relationshipRecords.insertionSort
    RemoteRelationshipRecord.before).map settledRelationship
  evidenceIds := evidence
  schemaVersion := version.schemaVersion
  observedAt := observed

/-- The normalized texts pass the checks of `from_records`. -/
structure Readable (version : SnapshotVersion issue) (updatedAt : issue → String)
    (s : Snapshot issue) (evidence : List Value) : Prop where
  named : ∀ i ∈ s.issueRecords, canonicalText (version.issueId i) ≠ ""
  aware : ∀ i ∈ s.issueRecords, isTimezoneAwareTimestamp (canonicalText (updatedAt i)) = true
  issues : (((s.issueRecords.map version.issueId).insertionSort (· ≤ ·)).map canonicalText).Nodup
  capabilitiesNamed : ∀ c ∈ s.capabilities, canonicalText c ≠ ""
  capabilities : ((s.capabilities.insertionSort (· ≤ ·)).map canonicalText).Nodup
  evidenceHashable : evidence.all Value.hashable = true
  evidence : evidence.Nodup

omit [TimestampLibrary] [LawfulTextLibrary] in
theorem fromRecords_written [LawfulBlanks] (hw : Written version updatedAt settled form)
    {s s' : Snapshot issue} (hs : Made version s) {permissions : Dict} {evidence : List Value}
    {observed : Value} :
    Snapshot.fromRecords version (recordsOf (sortEntries
        (writtenEntries version form s (.dict permissions) evidence observed))) = .ok s' ↔
      Readable version updatedAt s evidence ∧ ∃ evidenceIds, sortedItems evidence =
        .ok evidenceIds ∧ reread version settled s permissions evidenceIds observed = s' := by
  obtain ⟨scope, hscope, hnormalScope⟩ := hs.scope
  have hrepository : presentText? (.str (canonicalText s.repositoryIdentity)) =
      some (canonicalText s.repositoryIdentity) :=
    presentText?_eq_some.mpr ⟨rfl, canonicalText_present hs.repository⟩
  have hissues : ∀ made, ((s.issueRecords.insertionSort
      fun a b => version.issueId a ≤ version.issueId b).map form).mapM version.fromDict = .ok made ↔
        (s.issueRecords.insertionSort
          fun a b => version.issueId a ≤ version.issueId b).map settled = made ∧
        (∀ i ∈ s.issueRecords, canonicalText (version.issueId i) ≠ "") ∧
        ∀ i ∈ s.issueRecords, isTimezoneAwareTimestamp (canonicalText (updatedAt i)) = true := by
    intro made
    rw [mapM_eq_ok, List.forall₂_map_left_iff, PairedLists.forall₂_map_iff (f := settled)
      (p := fun i => canonicalText (version.issueId i) ≠ "" ∧
        isTimezoneAwareTimestamp (canonicalText (updatedAt i)) = true)]
    · simp only [List.mem_insertionSort, forall_and]
    · intro i hi j
      obtain ⟨v, hv⟩ := hs.issues i ((List.mem_insertionSort _).mp hi)
      exact hw.reads hv
  have hrelationships : ((s.relationshipRecords.insertionSort
      RemoteRelationshipRecord.before).map relationshipForm).mapM
        RemoteRelationshipRecord.fromDict = .ok ((s.relationshipRecords.insertionSort RemoteRelationshipRecord.before).map
          settledRelationship) := by
    rw [mapM_eq_ok, List.forall₂_map_left_iff, List.forall₂_map_right_iff]
    exact List.forall₂_same.mpr fun r hr =>
      reads_relationship (hs.relationships r ((List.mem_insertionSort _).mp hr))
  have hids := map_settled_ids hw s.issueRecords
  have hknown : ∀ t ∈ s.issueRecords.map version.issueId, canonicalText t ∈
      ((s.issueRecords.map version.issueId).insertionSort (· ≤ ·)).map canonicalText := fun t ht =>
    List.mem_map_of_mem ((List.mem_insertionSort _).mpr ht)
  have hscopeAgain : Value.toDict s.queryScope = .ok scope ∧
      CanonicalValues.normalize (.dict scope) = .ok s.queryScope := by
    rw [hscope]
    exact ⟨rfl, hnormalScope⟩
  have hpermissions : Value.toDict (.dict permissions) = .ok permissions := rfl
  simp only [Snapshot.fromRecords, recordsOf_written, bind_eq_ok, orRaise_eq_ok, raiseIf_eq_ok,
    pure_eq_ok, hrepository, Value.bool?, Value.iterate, Except.ok.injEq, Option.some.injEq,
    exists_eq_left', hissues, hrelationships, snapshotEvidence_list, hscopeAgain.1, hscopeAgain.2,
    hpermissions, capabilitySet_texts]
  constructor
  · rintro ⟨_, ⟨rfl, hnamed, haware⟩, _, -, _, -, _, hnodup, _, -, _, ⟨rfl, hhashable, hdistinct⟩,
      _, ⟨rfl, hcapabilitiesNamed, hcapabilities⟩, evidenceIds, hsorted, rfl⟩
    rw [hids] at hnodup
    refine ⟨⟨hnamed, haware, not_not.mp hnodup, ?_, hcapabilities, hhashable, hdistinct⟩,
      evidenceIds, hsorted, rfl⟩
    exact fun c hc => hcapabilitiesNamed _ (List.mem_map_of_mem ((List.mem_insertionSort _).mpr hc))
  · rintro ⟨hreadable, evidenceIds, hsorted, rfl⟩
    refine ⟨_, ⟨rfl, hreadable.named, hreadable.aware⟩, (), ?_, (), ?_, (), ?_, (), ?_, _,
      ⟨rfl, hreadable.evidenceHashable, hreadable.evidence⟩, _, ⟨rfl, ?_, hreadable.capabilities⟩,
      evidenceIds, hsorted, rfl⟩
    · rintro ⟨i, hi, hdiffers⟩
      obtain ⟨j, hj, rfl⟩ := List.mem_map.mp hi
      rw [hw.repository, hs.sameRepository j ((List.mem_insertionSort _).mp hj)] at hdiffers
      exact hdiffers rfl
    · rintro ⟨i, hi, hrequest⟩
      obtain ⟨j, hj, rfl⟩ := List.mem_map.mp hi
      rw [hw.request] at hrequest
      exact hs.requests j ((List.mem_insertionSort _).mp hj) hrequest
    · rw [hids]
      exact not_not.mpr hreadable.issues
    · rintro ⟨r, hr, hunknown⟩
      obtain ⟨q, hq, rfl⟩ := List.mem_map.mp hr
      obtain ⟨hsource, htarget⟩ := hs.known q ((List.mem_insertionSort _).mp hq)
      rw [hids] at hunknown
      exact hunknown.elim (fun h => h (hknown _ hsource)) fun h => h (hknown _ htarget)
    · intro text htext
      obtain ⟨c, hc, rfl⟩ := List.mem_map.mp htext
      exact hreadable.capabilitiesNamed c ((List.mem_insertionSort _).mp hc)

/-! ## What is read back the same -/

omit [TimestampLibrary] [LawfulTextLibrary] [DatetimeLibrary] in
theorem settledRelationship_again (r : RemoteRelationshipRecord) :
    settledRelationship (settledRelationship r) = settledRelationship r := by
  simp only [settledRelationship, (canonicalText_spec _).2.2]

omit [TimestampLibrary] [LawfulTextLibrary] [DatetimeLibrary] [LawfulSpacing] in
theorem relationshipForm_inj {q r : RemoteRelationshipRecord}
    (h : relationshipForm q = relationshipForm r) :
    settledRelationship q = settledRelationship r := by
  have hvalues := fun (r : RemoteRelationshipRecord) e => get_sorted
    (d := relationshipEntries (settledRelationship r)) (e := e)
    (by simp only [relationshipEntries, Dict.keys, List.map_cons, List.map_nil]; decide)
  have hsame : ∀ key, Dict.get (sortEntries (relationshipEntries (settledRelationship q))) key =
      Dict.get (sortEntries (relationshipEntries (settledRelationship r))) key := fun key =>
    congrArg (Dict.get · key) (Value.dict.inj h)
  have hq := hvalues q
  have hr := hvalues r
  simp only [hsame] at hq
  generalize sortEntries (relationshipEntries (settledRelationship r)) = d at hq hr
  simp only [relationshipEntries, List.forall_mem_cons, List.not_mem_nil, false_implies,
    implies_true, and_true] at hq hr
  obtain ⟨hkind, hsource, htarget⟩ := hq
  obtain ⟨hkind', hsource', htarget'⟩ := hr
  rw [hkind] at hkind'
  rw [hsource] at hsource'
  rw [htarget] at htarget'
  generalize settledRelationship q = a at *
  generalize settledRelationship r = b at *
  cases a
  cases b
  simp_all

omit [TimestampLibrary] [LawfulTextLibrary] [DatetimeLibrary] [LawfulSpacing] in
/-- Boolean permissions are normalized where their keys stay apart. -/
theorem normalize_permissions {permissions : Dict}
    (h : ∀ e ∈ permissions, (Value.bool? e.2).isSome) :
    (permissions.map fun e => UnicodeLibrary.nfc e.1).Nodup ↔
      ∃ v, CanonicalValues.normalize (.dict (sortEntries permissions)) = .ok v := by
  have hmade : List.Forall₂ (fun e e' : String × Value => e'.1 = UnicodeLibrary.nfc e.1 ∧
      CanonicalValues.normalize e.2 = .ok e'.2) (sortEntries permissions)
        ((sortEntries permissions).map fun e => (UnicodeLibrary.nfc e.1, e.2)) := by
    rw [List.forall₂_map_right_iff]
    refine List.forall₂_same.mpr fun e he => ⟨rfl, ?_⟩
    obtain ⟨b, hb⟩ := Option.isSome_iff_exists.mp (h e ((sortEntries_perm _).mem_iff.mp he))
    have hvalue : e.2 = .bool b := by
      cases hvalue : e.2 <;> simp_all [Value.bool?]
    rw [hvalue, normalize_bool]
  have hkeys : (permissions.map fun e => UnicodeLibrary.nfc e.1).Nodup ↔
      (((sortEntries permissions).map fun e => (UnicodeLibrary.nfc e.1, e.2)).map
        Prod.fst).Nodup := by
    rw [List.map_map]
    exact (((sortEntries_perm permissions).map _).nodup_iff).symm
  rw [hkeys]
  constructor
  · intro hnodup
    exact ⟨_, normalize_dict_eq_ok.mpr ⟨_, hmade, hnodup, rfl⟩⟩
  · rintro ⟨v, hv⟩
    obtain ⟨made, hother, hnodup, -⟩ := normalize_dict_eq_ok.mp hv
    rw [PreviewEligibility.normalized_keys hother, List.map_map] at hnodup
    rw [List.map_map]
    exact hnodup

/-- The written snapshot is read to one that is written and digested the same. -/
def Reloads (version : SnapshotVersion issue) (s : Snapshot issue) : Prop :=
  ∃ d s', s.toDict version = .ok (.dict d) ∧
    Snapshot.fromRecords version (recordsOf d) = .ok s' ∧ s'.toDict version = .ok (.dict d) ∧
    ∃ written, s.digest version = .ok written ∧ s'.digest version = .ok written

/-- The texts of a snapshot are normalized without running together or changing their order, and
its times keep their zones. -/
structure Kept (version : SnapshotVersion issue) (updatedAt : issue → String)
    (s : Snapshot issue) : Prop where
  named : ∀ i ∈ s.issueRecords, canonicalText (version.issueId i) ≠ ""
  aware : ∀ i ∈ s.issueRecords, isTimezoneAwareTimestamp (canonicalText (updatedAt i)) = true
  issues : (((s.issueRecords.map version.issueId).insertionSort (· ≤ ·)).map
    canonicalText).Pairwise (· < ·)
  relationships : ((s.relationshipRecords.insertionSort RemoteRelationshipRecord.before).map
    settledRelationship).Pairwise RemoteRelationshipRecord.before
  capabilitiesNamed : ∀ c ∈ s.capabilities, canonicalText c ≠ ""
  capabilities : ((s.capabilities.insertionSort (· ≤ ·)).map canonicalText).Pairwise (· < ·)
  evidence : ∃ items, normalizeItems s.evidenceIds = .ok items ∧
    items.all Value.hashable = true ∧ items.Nodup ∧ sortedItems items = .ok items
  booleans : ∀ e ∈ s.permissions, (Value.bool? e.2).isSome
  permissions : (s.permissions.map fun e => UnicodeLibrary.nfc e.1).Nodup
  observed : ∃ v, CanonicalValues.normalize s.observedAt = .ok v

omit [PythonLibrary] [UnicodeLibrary] [TimestampLibrary] [LawfulTextLibrary] [DatetimeLibrary]
  [LawfulSpacing] in
theorem allTexts_eq_some {items : List Value} {texts : List String} :
    allTexts items = some texts ↔ items = texts.map .str := by
  rw [allTexts, PairedLists.mapM_eq_some]
  constructor
  · intro h
    induction h with
    | nil => rfl
    | cons hitem _ ih => rw [List.map_cons, ← ih, Value.text?_eq_some.mp hitem]
  · rintro rfl
    rw [List.forall₂_map_left_iff]
    exact List.forall₂_same.mpr fun _ _ => rfl

omit [PythonLibrary] [UnicodeLibrary] [TimestampLibrary] [LawfulTextLibrary] [DatetimeLibrary]
  [LawfulSpacing] in
theorem sortedItems_perm {items sorted : List Value} (h : sortedItems items = .ok sorted) :
    sorted.Perm items := by
  unfold sortedItems at h
  cases htexts : allTexts items with
  | some texts =>
      rw [htexts] at h
      obtain rfl := Except.ok.inj h
      rw [allTexts_eq_some.mp htexts]
      exact (List.perm_insertionSort _ texts).map _
  | none =>
      simp only [htexts] at h
      split_ifs at h
      obtain rfl := Except.ok.inj h
      exact .refl _

omit [TimestampLibrary] [LawfulTextLibrary] [DatetimeLibrary] in
/-- Items that were normalized are normalized in any order. -/
theorem normalizeItems_perm {items made sorted : List Value} (h : normalizeItems items = .ok made)
    (hperm : sorted.Perm made) : normalizeItems sorted = .ok sorted := by
  rw [normalizeItems_eq_ok]
  refine List.forall₂_same.mpr fun v hv => ?_
  obtain ⟨w, -, hw⟩ := PairedLists.mem_right (normalizeItems_eq_ok.mp h) (hperm.mem_iff.mp hv)
  exact normalize_again _ _ hw

omit [TimestampLibrary] [LawfulTextLibrary] [DatetimeLibrary] [LawfulSpacing] in
/-- A part of a mapping that is normalized can be normalized. -/
theorem normalize_filter {d : Dict} {v : Value} (h : CanonicalValues.normalize (.dict d) = .ok v)
    (p : String × Value → Bool) : ∃ w, CanonicalValues.normalize (.dict (d.filter p)) = .ok w := by
  obtain ⟨made, hmade, hnodup, -⟩ := normalize_dict_eq_ok.mp h
  have hparts : ∀ e ∈ d.filter p, ∃ e' : String × Value, e'.1 = UnicodeLibrary.nfc e.1 ∧
      CanonicalValues.normalize e.2 = .ok e'.2 := fun e he => by
    obtain ⟨e', -, he'⟩ := PairedLists.mem_left hmade (List.mem_of_mem_filter he)
    exact ⟨e', he'⟩
  obtain ⟨part, hpart⟩ := PairedLists.exists_forall₂ hparts
  refine ⟨_, normalize_dict_eq_ok.mpr ⟨part, hpart, ?_, rfl⟩⟩
  rw [PreviewEligibility.normalized_keys hpart]
  rw [PreviewEligibility.normalized_keys hmade] at hnodup
  exact hnodup.sublist ((List.filter_sublist.map _).map _)

omit [TimestampLibrary] [LawfulTextLibrary] [DatetimeLibrary] in
/-- The digest is that of the written form. -/
theorem exists_digest {s : Snapshot issue} {d : Dict} (h : s.toDict version = .ok (.dict d)) :
    ∃ written, ∀ s' : Snapshot issue, s'.toDict version = .ok (.dict d) →
      s'.digest version = .ok written := by
  obtain ⟨entries, -, hentries⟩ := bind_eq_ok.mp h
  obtain ⟨payload, hpayload⟩ := normalize_filter (normalize_again _ _ hentries)
    fun entry => entry.1 ≠ "observed_at"
  refine ⟨PythonValues.digest payload, fun s' hs' => ?_⟩
  simp only [Snapshot.digest, hs', Value.mapping?, canonicalDigest, bind_eq_ok, orRaise_eq_ok,
    pure_eq_ok, Except.ok.injEq, Option.some.injEq, exists_eq_left']
  exact ⟨payload, hpayload, rfl⟩

omit [TimestampLibrary] [LawfulTextLibrary] [DatetimeLibrary] [LawfulSpacing] in
/-- Snapshots that are written the same have the same records, one by one. -/
theorem written_inj {s s' : Snapshot issue} {permissions permissions' : Value}
    {evidence evidence' : List Value} {observed observed' : Value}
    (h : sortEntries (writtenEntries version form s permissions evidence observed) =
      sortEntries (writtenEntries version form s' permissions' evidence' observed')) :
    (s.issueRecords.insertionSort fun a b => version.issueId a ≤ version.issueId b).map form =
        (s'.issueRecords.insertionSort fun a b => version.issueId a ≤ version.issueId b).map form ∧
      (s.capabilities.insertionSort (· ≤ ·)).map canonicalText =
        (s'.capabilities.insertionSort (· ≤ ·)).map canonicalText ∧
      (s.relationshipRecords.insertionSort RemoteRelationshipRecord.before).map relationshipForm =
        (s'.relationshipRecords.insertionSort RemoteRelationshipRecord.before).map
          relationshipForm ∧
      evidence = evidence' := by
  have hrecords := congrArg recordsOf h
  rw [recordsOf_written, recordsOf_written] at hrecords
  simp only [SnapshotRecords.mk.injEq, Value.list.injEq, Value.texts] at hrecords
  obtain ⟨-, -, -, -, hissues, -, hcapabilities, hrelationships, hevidence, -⟩ := hrecords
  exact ⟨hissues, List.map_injective_iff.mpr (fun _ _ => Value.str.inj) hcapabilities,
    hrelationships, hevidence⟩

omit [PythonLibrary] [UnicodeLibrary] [TimestampLibrary] [LawfulTextLibrary] [DatetimeLibrary]
  [LawfulSpacing] in
theorem map_eq_of_map {α β γ : Type} {f : α → β} {g : α → γ} (h : ∀ a b, f a = f b → g a = g b)
    {xs ys : List α} (hmap : xs.map f = ys.map f) : xs.map g = ys.map g := by
  induction xs generalizing ys with
  | nil => rw [List.map_eq_nil_iff.mp hmap.symm]
  | cons x xs ih =>
      cases ys with
      | nil => cases hmap
      | cons y ys =>
          obtain ⟨hhead, htail⟩ := List.cons.inj hmap
          rw [List.map_cons, List.map_cons, h x y hhead, ih htail]

omit [TimestampLibrary] [LawfulTextLibrary] [DatetimeLibrary] [LawfulSpacing] in
theorem sorted_of_texts {texts : List String} (hfixed : ∀ t ∈ texts, canonicalText t = t)
    (h : (texts.insertionSort (· ≤ ·)).map canonicalText = texts) : texts.Pairwise (· ≤ ·) := by
  rw [← insertionSort_eq_self]
  refine Eq.trans ?_ h
  refine ((List.map_congr_left fun t ht => ?_).trans (List.map_id _)).symm
  exact hfixed t ((List.mem_insertionSort _).mp ht)

theorem kept_of_reloads [LawfulBlanks] (hw : Written version updatedAt settled form)
    {s : Snapshot issue} (hs : Made version s) (h : Reloads version s) :
    Kept version updatedAt s := by
  obtain ⟨d, s', hd, hs', hd', -⟩ := h
  obtain ⟨permissions, evidence, observed, hbooleans, hpermissions, hevidence, hobserved,
    hwritten⟩ := (toDict_eq_ok hw hs).mp hd
  obtain ⟨made, -, -, rfl⟩ := normalize_dict_eq_ok.mp hpermissions
  obtain rfl := Value.dict.inj hwritten
  obtain ⟨hreadable, evidenceIds, hsorted, rfl⟩ := (fromRecords_written hw hs).mp hs'
  obtain ⟨_, evidence', _, -, -, hevidence', -, hwritten'⟩ :=
    (toDict_eq_ok hw (made_of_fromRecords hs')).mp hd'
  obtain ⟨hissues, hcapabilities, hrelationships, rfl⟩ := written_inj (Value.dict.inj hwritten')
  have hsortedEvidence : evidence' = evidenceIds :=
    Except.ok.inj (hevidence'.symm.trans
      (normalizeItems_perm hevidence (sortedItems_perm hsorted)))
  have hstrict : ∀ {texts : List String}, texts.Pairwise (· ≤ ·) → texts.Nodup →
      texts.Pairwise (· < ·) := fun hle hnodup =>
    (hle.and hnodup).imp fun h => lt_of_le_of_ne h.1 h.2
  refine
    { named := hreadable.named, aware := hreadable.aware
      issues := hstrict ?_ hreadable.issues
      relationships := ?_
      capabilitiesNamed := hreadable.capabilitiesNamed
      capabilities := hstrict ?_ hreadable.capabilities
      evidence := ⟨evidence', hevidence, hreadable.evidenceHashable, hreadable.evidence,
        hsortedEvidence ▸ hsorted⟩
      booleans := hbooleans
      permissions := (normalize_permissions hbooleans).mpr ⟨_, hpermissions⟩
      observed := ⟨observed, hobserved⟩ }
  · refine sorted_of_texts ?_ ?_
    · intro t ht
      obtain ⟨u, -, rfl⟩ := List.mem_map.mp ht
      exact (canonicalText_spec u).2.2
    · have hids := map_eq_of_map (g := fun i => canonicalText (version.issueId i))
        (fun i j => hw.form_id) hissues
      rw [map_canonicalIds, map_canonicalIds, reread, map_settled_ids hw] at hids
      exact hids
  · have hsettled := map_eq_of_map (fun _ _ => relationshipForm_inj) hrelationships
    rw [← insertionSort_eq_self]
    refine Eq.trans ?_ hsettled
    refine (List.map_congr_left fun r hr => ?_).trans (List.map_id _) |>.symm
    obtain ⟨q, -, rfl⟩ := List.mem_map.mp ((List.mem_insertionSort _).mp hr)
    exact settledRelationship_again q
  · refine sorted_of_texts ?_ hcapabilities
    intro t ht
    obtain ⟨u, -, rfl⟩ := List.mem_map.mp ht
    exact (canonicalText_spec u).2.2

omit [TimestampLibrary] [LawfulTextLibrary] in
/-- What is kept is written the same when it was read back. -/
theorem writtenEntries_reread (hw : Written version updatedAt settled form) {s : Snapshot issue}
    (hs : Made version s) (h : Kept version updatedAt s) {permissions : Dict}
    {evidence : List Value} {observed : Value} :
    writtenEntries version form (reread version settled s permissions evidence observed)
        (.dict permissions) evidence observed =
      writtenEntries version form s (.dict permissions) evidence observed := by
  have hissues : ((s.issueRecords.insertionSort
      fun a b => version.issueId a ≤ version.issueId b).map settled).insertionSort
        (fun a b => version.issueId a ≤ version.issueId b) =
      (s.issueRecords.insertionSort fun a b => version.issueId a ≤ version.issueId b).map
        settled := by
    refine List.Pairwise.insertionSort_eq ?_
    have hids := h.issues.imp fun hlt => le_of_lt hlt
    rw [← map_settled_ids hw] at hids
    exact List.pairwise_map.mp hids
  have hforms : ∀ issues : List issue, (issues.map settled).map form = issues.map form := by
    intro issues
    rw [List.map_map]
    exact List.map_congr_left fun i _ => hw.form_settled i
  have hcapabilities : ((s.capabilities.insertionSort (· ≤ ·)).map canonicalText).insertionSort
      (· ≤ ·) = (s.capabilities.insertionSort (· ≤ ·)).map canonicalText :=
    (h.capabilities.imp fun hlt => le_of_lt hlt).insertionSort_eq
  have htexts : ∀ texts : List String, (texts.map canonicalText).map canonicalText =
      texts.map canonicalText := by
    intro texts
    rw [List.map_map]
    exact List.map_congr_left fun t _ => (canonicalText_spec t).2.2
  have hrelationships := h.relationships.insertionSort_eq
  have hrelationForms : ∀ records : List RemoteRelationshipRecord,
      (records.map settledRelationship).map relationshipForm = records.map relationshipForm := by
    intro records
    rw [List.map_map]
    refine List.map_congr_left fun r _ => ?_
    simp only [Function.comp, relationshipForm, settledRelationship_again]
  simp only [writtenEntries, reread, (canonicalText_spec _).2.2, hissues, hforms, hcapabilities,
    htexts, hrelationships, hrelationForms, hs.schema]

theorem reloads_of_kept [LawfulBlanks] (hw : Written version updatedAt settled form)
    {s : Snapshot issue} (hs : Made version s) (h : Kept version updatedAt s) :
    Reloads version s := by
  obtain ⟨evidence, hevidence, hhashable, hdistinct, hsorted⟩ := h.evidence
  obtain ⟨observed, hobserved⟩ := h.observed
  obtain ⟨v, hpermissions⟩ := (normalize_permissions h.booleans).mp h.permissions
  obtain ⟨made, hmade, hkeys, rfl⟩ := normalize_dict_eq_ok.mp hpermissions
  have hd := (toDict_eq_ok hw hs).mpr
    ⟨_, evidence, observed, h.booleans, hpermissions, hevidence, hobserved, rfl⟩
  have hreadable : Readable version updatedAt s evidence :=
    { named := h.named, aware := h.aware
      issues := h.issues.imp fun hlt => ne_of_lt hlt
      capabilitiesNamed := h.capabilitiesNamed
      capabilities := h.capabilities.imp fun hlt => ne_of_lt hlt
      evidenceHashable := hhashable
      evidence := hdistinct }
  have hs' : Snapshot.fromRecords version (recordsOf (sortEntries (writtenEntries version form s
      (.dict (sortEntries made)) evidence observed))) =
        .ok (reread version settled s (sortEntries made) evidence observed) :=
    (fromRecords_written hw hs).mpr ⟨hreadable, evidence, hsorted, rfl⟩
  have hd' : (reread version settled s (sortEntries made) evidence observed).toDict version =
      .ok (.dict (sortEntries (writtenEntries version form s (.dict (sortEntries made)) evidence
        observed))) := by
    refine (toDict_eq_ok hw (made_of_fromRecords hs')).mpr ⟨.dict (sortEntries made), evidence,
      observed, fun e he => ?_, ?_, normalizeItems_again _ _ hevidence,
      normalize_again _ _ hobserved, ?_⟩
    · obtain ⟨e', he', -, hvalue⟩ :=
        PairedLists.mem_right hmade ((sortEntries_perm made).mem_iff.mp he)
      obtain ⟨b, hb⟩ := Option.isSome_iff_exists.mp
        (h.booleans e' ((sortEntries_perm _).mem_iff.mp he'))
      have hbool : e'.2 = .bool b := by
        cases hvalue : e'.2 <;> simp_all [Value.bool?]
      rw [hbool, normalize_bool] at hvalue
      rw [← Except.ok.inj hvalue]
      rfl
    · exact normalize_dict_perm (sortEntries_perm (sortEntries made)).symm
        (normalize_again _ _ hpermissions)
    · rw [writtenEntries_reread hw hs h]
  refine ⟨_, _, hd, hs', hd', ?_⟩
  obtain ⟨written, hdigest⟩ := exists_digest hd
  exact ⟨written, hdigest _ hd, hdigest _ hd'⟩

/-! ## Records in another order -/

/-- The same value, or a list with the same items in another order. -/
inductive Rearranged : Value → Value → Prop
  | same (v : Value) : Rearranged v v
  | list {xs ys : List Value} (h : xs.Perm ys) : Rearranged (.list xs) (.list ys)

/-- The same arguments, up to the order of the records, the capabilities and the evidence ids. -/
structure Reordered (r r' : SnapshotRecords) : Prop where
  issues : Rearranged r.issueRecords r'.issueRecords
  relationships : Rearranged r.relationshipRecords r'.relationshipRecords
  capabilities : Rearranged r.capabilities r'.capabilities
  evidence : Rearranged r.evidenceIds r'.evidenceIds
  rest : r' =
    { r with
      issueRecords := r'.issueRecords
      relationshipRecords := r'.relationshipRecords
      capabilities := r'.capabilities
      evidenceIds := r'.evidenceIds }

omit [PythonLibrary] [UnicodeLibrary] [TimestampLibrary] [LawfulTextLibrary] [DatetimeLibrary]
  [LawfulSpacing]

theorem Rearranged.iterate {v w : Value} (h : Rearranged v w) {xs : List Value}
    (hxs : Value.iterate v = .ok xs) : ∃ ys, Value.iterate w = .ok ys ∧ xs.Perm ys := by
  cases h with
  | same => exact ⟨xs, hxs, .refl _⟩
  | list hperm =>
      obtain rfl := Except.ok.inj hxs
      exact ⟨_, rfl, hperm⟩

theorem Rearranged.orEmptyTuple {v w : Value} (h : Rearranged v w) {xs : List Value}
    (hxs : Value.orEmptyTuple v = .ok xs) : ∃ ys, Value.orEmptyTuple w = .ok ys ∧ xs.Perm ys := by
  cases h with
  | same => exact ⟨xs, hxs, .refl _⟩
  | @list as bs hperm =>
      have hread : ∀ items : List Value, Value.orEmptyTuple (.list items) = .ok items := by
        intro items
        cases items <;> rfl
      rw [hread] at hxs
      obtain rfl := Except.ok.inj hxs
      exact ⟨bs, hread bs, hperm⟩

theorem mapM_perm {α β : Type} {f : α → Py β} {xs ys : List α} {as : List β}
    (h : xs.mapM f = .ok as) (hperm : xs.Perm ys) : ∃ bs, ys.mapM f = .ok bs ∧ as.Perm bs := by
  obtain ⟨bs, hbs, has⟩ := List.perm_comp_forall₂ hperm.symm (mapM_eq_ok.mp h)
  exact ⟨bs, mapM_eq_ok.mpr hbs, has.symm⟩

theorem capabilitySet_perm {v w : Value} {texts : List String} (h : capabilitySet v = .ok texts)
    (hperm : Rearranged v w) : ∃ texts', capabilitySet w = .ok texts' ∧ texts.Perm texts' := by
  simp only [capabilitySet, bind_eq_ok, orRaise_eq_ok, raiseIf_eq_ok, pure_eq_ok, not_not] at h
  obtain ⟨items, hitems, _, htexts, _, hnodup, rfl⟩ := h
  obtain ⟨items', hitems', hperm⟩ := hperm.iterate hitems
  obtain ⟨texts', htexts', hsame⟩ :=
    List.perm_comp_forall₂ hperm.symm (PairedLists.mapM_eq_some.mp htexts)
  refine ⟨texts', ?_, hsame.symm⟩
  simp only [capabilitySet, bind_eq_ok, orRaise_eq_ok, raiseIf_eq_ok, pure_eq_ok, not_not]
  exact ⟨items', hitems', texts', PairedLists.mapM_eq_some.mpr htexts', (),
    hsame.nodup_iff.mpr hnodup, rfl⟩

theorem snapshotEvidence_perm {v w : Value} {items : List Value}
    (h : snapshotEvidence v = .ok items) (hperm : Rearranged v w) :
    ∃ items', snapshotEvidence w = .ok items' ∧ items.Perm items' := by
  simp only [snapshotEvidence, distinctItems, bind_eq_ok, raiseIf_eq_ok, pure_eq_ok,
    Bool.not_eq_false] at h
  obtain ⟨_, hitems, distinct, hdistinct, _, rfl, rfl⟩ := h
  split_ifs at hdistinct with hhashable
  obtain ⟨items', hitems', hperm⟩ := hperm.orEmptyTuple hitems
  refine ⟨items', ?_, hperm⟩
  simp only [snapshotEvidence, distinctItems, bind_eq_ok, raiseIf_eq_ok, pure_eq_ok,
    Bool.not_eq_false]
  refine ⟨items', hitems', true, ?_, (), rfl, rfl⟩
  rw [if_pos (by rw [← hperm.all_eq]; exact hhashable), decide_eq_true]
  exact hperm.nodup_iff.mp (of_decide_eq_true (Except.ok.inj hdistinct))

theorem sortedItems_rearranged {items items' sorted : List Value}
    (h : sortedItems items = .ok sorted) (hperm : items.Perm items') :
    sortedItems items' = .ok sorted := by
  unfold sortedItems at h
  cases htexts : allTexts items with
  | some texts =>
      rw [htexts] at h
      obtain rfl := Except.ok.inj h
      obtain ⟨texts', htexts', hsame⟩ :=
        List.perm_comp_forall₂ hperm.symm (PairedLists.mapM_eq_some.mp htexts)
      have hall : allTexts items' = some texts' := PairedLists.mapM_eq_some.mpr htexts'
      rw [sortedItems, hall]
      simp only
      rw [insertionSort_eq_of_perm hsame fun _ _ _ _ => le_antisymm]
  | none =>
      have hshort := h
      simp only [htexts] at hshort
      split_ifs at hshort with hlength
      have hsame : items = items' := by
        match items, hlength with
        | [], _ => exact (List.nil_perm.mp hperm).symm
        | [item], _ => exact (List.singleton_perm.mp hperm)
      rw [← hsame]
      exact h

variable [PythonLibrary] [UnicodeLibrary]

/-- The order of the records, the capabilities and the evidence ids makes no difference to the
digest. -/
theorem digest_reordered {r r' : SnapshotRecords} {s : Snapshot issue}
    (h : Snapshot.fromRecords version r = .ok s) (hreordered : Reordered r r') :
    ∃ s', Snapshot.fromRecords version r' = .ok s' ∧ s'.digest version = s.digest version := by
  obtain ⟨hissues, hrelationships, hcapabilities, hevidence, hrest⟩ := hreordered
  simp only [Snapshot.fromRecords, bind_eq_ok, orRaise_eq_ok, raiseIf_eq_ok, pure_eq_ok] at h
  obtain ⟨repository, hrepository, queryComplete, hquery, paginationComplete, hpagination, records,
    hrecords, issues, hmade, _, hsame, _, hrequests, _, hdistinct, relationRecords,
    hrelationRecords, relationships, hrelated, _, hknown, evidence, hevidenceMade, scope, hscope,
    queryScope, hqueryScope, permissions, hpermissions, capabilities, hcapabilitiesMade,
    evidenceIds, hsorted, rfl⟩ := h
  obtain ⟨records', hrecords', hrecordsPerm⟩ := hissues.iterate hrecords
  obtain ⟨issues', hmade', hissuesPerm⟩ := mapM_perm hmade hrecordsPerm
  obtain ⟨relationRecords', hrelationRecords', hrelationPerm⟩ :=
    hrelationships.iterate hrelationRecords
  obtain ⟨relationships', hrelated', hrelationshipsPerm⟩ := mapM_perm hrelated hrelationPerm
  obtain ⟨capabilities', hcapabilities', hcapabilitiesPerm⟩ :=
    capabilitySet_perm hcapabilitiesMade hcapabilities
  obtain ⟨evidence', hevidence', hevidencePerm⟩ := snapshotEvidence_perm hevidenceMade hevidence
  have hids := hissuesPerm.map version.issueId
  refine ⟨⟨repository, queryScope, queryComplete, paginationComplete, issues', permissions,
    capabilities', relationships', evidenceIds, version.schemaVersion, r.observedAt⟩, ?_, ?_⟩
  · rw [hrest]
    simp only [Snapshot.fromRecords, bind_eq_ok, orRaise_eq_ok, raiseIf_eq_ok, pure_eq_ok]
    refine ⟨repository, hrepository, queryComplete, hquery, paginationComplete, hpagination,
      records', hrecords', issues', hmade', (), ?_, (), ?_, (), ?_, relationRecords',
      hrelationRecords', relationships', hrelated', (), ?_, evidence', hevidence', scope, hscope,
      queryScope, hqueryScope, permissions, hpermissions, capabilities', hcapabilities',
      evidenceIds, sortedItems_rearranged hsorted hevidencePerm, rfl⟩
    · rintro ⟨i, hi, hdiffers⟩
      exact hsame ⟨i, hissuesPerm.mem_iff.mpr hi, hdiffers⟩
    · rintro ⟨i, hi, hrequest⟩
      exact hrequests ⟨i, hissuesPerm.mem_iff.mpr hi, hrequest⟩
    · rw [← hids.nodup_iff]
      exact hdistinct
    · rintro ⟨q, hq, hunknown⟩
      refine hknown ⟨q, hrelationshipsPerm.mem_iff.mpr hq, ?_⟩
      rw [hids.mem_iff, hids.mem_iff]
      exact hunknown
  · have htotal : Std.Total fun a b : issue => version.issueId a ≤ version.issueId b :=
      ⟨fun a b => le_total _ _⟩
    have htrans : IsTrans issue fun a b => version.issueId a ≤ version.issueId b :=
      ⟨fun a b c => le_trans⟩
    have hissuesSorted := insertionSort_eq_of_perm
      (r := fun a b : issue => version.issueId a ≤ version.issueId b) hissuesPerm
      fun a ha b hb hab hba =>
        List.inj_on_of_nodup_map (not_not.mp hdistinct) ha hb (le_antisymm hab hba)
    have hrelationsSorted := insertionSort_eq_of_perm (r := RemoteRelationshipRecord.before)
      hrelationshipsPerm fun _ _ _ _ => before_antisymm
    have hcapabilitiesSorted := insertionSort_eq_of_perm (r := (· ≤ ·)) hcapabilitiesPerm
      fun _ _ _ _ => le_antisymm
    simp only [Snapshot.digest, Snapshot.toDict, Snapshot.entries, hissuesSorted,
      hrelationsSorted, hcapabilitiesSorted]

end

section
variable [PythonLibrary] [UnicodeLibrary] [TimestampLibrary] [LawfulTextLibrary]
  [DatetimeLibrary] [CasefoldLibrary] [LawfulSpacing] [LawfulBlanks] [LawfulCasefold]

/-- A snapshot of accepted records, under either version, is read back from its written form with
the same form and digest, and has its digest whatever the order of the records, exactly where its
texts are normalized without running together or changing their order and its times keep their
zones. -/
theorem snapshot_reloads_iff {r : SnapshotRecords} :
    (∀ s, Snapshot.fromRecords typedRemoteSnapshot r = .ok s →
      ((Reloads typedRemoteSnapshot s ∧ ∀ r', Reordered r r' → ∃ s',
          Snapshot.fromRecords typedRemoteSnapshot r' = .ok s' ∧
            s'.digest typedRemoteSnapshot = s.digest typedRemoteSnapshot) ↔
        Kept typedRemoteSnapshot RemoteIssueRecord.updatedAt s)) ∧
    ∀ s, Snapshot.fromRecords typedRemoteSnapshotV2 r = .ok s →
      ((Reloads typedRemoteSnapshotV2 s ∧ ∀ r', Reordered r r' → ∃ s',
          Snapshot.fromRecords typedRemoteSnapshotV2 r' = .ok s' ∧
            s'.digest typedRemoteSnapshotV2 = s.digest typedRemoteSnapshotV2) ↔
        Kept typedRemoteSnapshotV2 RemoteIssueRecordV2.updatedAt s) := by
  refine ⟨fun s h => ⟨fun hreloads => ?_, fun hkept => ?_⟩,
    fun s h => ⟨fun hreloads => ?_, fun hkept => ?_⟩⟩
  · exact kept_of_reloads written_issues (made_of_fromRecords h) hreloads.1
  · exact ⟨reloads_of_kept written_issues (made_of_fromRecords h) hkept,
      fun _ hreordered => digest_reordered h hreordered⟩
  · exact kept_of_reloads written_issuesV2 (made_of_fromRecords h) hreloads.1
  · exact ⟨reloads_of_kept written_issuesV2 (made_of_fromRecords h) hkept,
      fun _ hreordered => digest_reordered h hreordered⟩

end

/-! ## Over the reference library -/

/-- A read of a repository that found no issues. -/
def sampleRecords (capabilities : List String) : SnapshotRecords where
  repositoryIdentity := .str "owner/repository"
  queryScope := .dict [("state", .str "open")]
  queryComplete := .bool true
  paginationComplete := .bool true
  issueRecords := .list []
  permissions := .dict [("issues", .bool true)]
  capabilities := Value.texts capabilities
  relationshipRecords := .list []
  evidenceIds := .list [.str "evidence-1"]
  observedAt := .null

section
attribute [local instance] ReferenceLibrary.referenceLibrary IssuanceHistories.referenceUnicode
  IssuanceHistories.referenceTimestamps PreviewHistories.referenceDatetimes
  PreviewHistories.referenceCasefold

theorem referenceLibrary_blanks : LawfulBlanks where
  strip_break := by decide +kernel
  strip_nfc h := h

theorem referenceCasefold_lawful : LawfulCasefold where
  casefold_state {s} h := by
    have hstates : ∀ s ∈ ["open", "closed"], CasefoldLibrary.casefold s = s := by decide +kernel
    exact hstates s h

theorem sampleRecords_accepted (capabilities : List String)
    (h : (∀ c ∈ capabilities, c ≠ "") ∧ capabilities.Nodup) :
    ∃ s, Snapshot.fromRecords typedRemoteSnapshot (sampleRecords capabilities) = .ok s ∧
      s.capabilities = capabilities ∧ s.issueRecords = [] ∧ s.relationshipRecords = [] ∧
      s.evidenceIds = [.str "evidence-1"] ∧ s.permissions = [("issues", .bool true)] ∧
      s.observedAt = .null := by
  have hrepository : presentText? (.str "owner/repository") = some "owner/repository" :=
    presentText?_eq_some.mpr ⟨rfl, by decide +kernel⟩
  have hcapabilities : capabilitySet (Value.texts capabilities) = .ok capabilities :=
    capabilitySet_texts.mpr ⟨rfl, h⟩
  have hevidence : snapshotEvidence (.list [.str "evidence-1"]) = .ok [.str "evidence-1"] :=
    snapshotEvidence_list.mpr ⟨rfl, by decide⟩
  obtain ⟨scope, hscope⟩ : ∃ scope, CanonicalValues.normalize
      (.dict [("state", .str "open")]) = .ok scope :=
    ⟨_, normalize_dict_eq_ok.mpr ⟨[("state", .str (canonicalText "open"))],
      .cons ⟨rfl, normalize_str _⟩ .nil, by decide, rfl⟩⟩
  refine ⟨⟨"owner/repository", scope, true, true, [], [("issues", .bool true)], capabilities, [],
    [.str "evidence-1"], "remote-snapshot-v1", .null⟩, ?_, rfl, rfl, rfl, rfl, rfl, rfl⟩
  simp only [Snapshot.fromRecords, sampleRecords, bind_eq_ok, orRaise_eq_ok, raiseIf_eq_ok,
    pure_eq_ok, hrepository, hcapabilities, hevidence, Value.bool?, Value.iterate, Except.ok.injEq,
    Option.some.injEq, exists_eq_left']
  exact ⟨[], rfl, (), by simp, (), by simp, (), by simp, [], rfl, (), by simp, _, rfl, scope,
    hscope, _, rfl, _, rfl, rfl⟩

end

/-- One capability under one text. -/
theorem snapshot_reloads_sample :
    ∃ (_ : PythonLibrary) (_ : UnicodeLibrary) (_ : DatetimeLibrary)
      (s : Snapshot RemoteIssueRecord),
      Snapshot.fromRecords typedRemoteSnapshot (sampleRecords ["issues:read"]) = .ok s ∧
        Reloads typedRemoteSnapshot s := by
  have hlawful := IssuanceHistories.referenceLibrary_lawful
  have hspacing := AttestationReference.referenceLibrary_spacing
  have hblanks := referenceLibrary_blanks
  have hcasefold := referenceCasefold_lawful
  let _ := ReferenceLibrary.referenceLibrary
  let _ := IssuanceHistories.referenceUnicode
  let _ := IssuanceHistories.referenceTimestamps
  let _ := PreviewHistories.referenceDatetimes
  let _ := PreviewHistories.referenceCasefold
  obtain ⟨s, hs, hcapabilities, hissues, hrelationships, hevidence, hpermissions, hobserved⟩ :=
    sampleRecords_accepted ["issues:read"] (by decide)
  have hread : canonicalText "issues:read" = "issues:read" :=
    canonicalText_plain (by decide) (by decide)
  have hid : canonicalText "evidence-1" = "evidence-1" :=
    canonicalText_plain (by decide) (by decide)
  refine ⟨_, _, _, s, hs, ((snapshot_reloads_iff.1 s hs).mpr
    { named := by simp [hissues]
      aware := by simp [hissues]
      issues := by simp [hissues]
      relationships := by simp [hrelationships]
      capabilitiesNamed := by simp [hcapabilities, hread]
      capabilities := by simp [hcapabilities]
      evidence := ⟨[.str "evidence-1"], ?_, rfl, by decide, rfl⟩
      booleans := by simp [hpermissions, Value.bool?]
      permissions := by simp [hpermissions]
      observed := ⟨.null, by rw [hobserved, CanonicalValues.normalize] <;> simp⟩ }).1⟩
  rw [hevidence, normalizeItems_eq_ok]
  exact .cons (by rw [normalize_str, hid]) .nil

/-- Two capabilities that differ in a blank at the end are one in the written form, which is
refused. -/
theorem snapshot_not_read_back :
    ¬∀ (_ : PythonLibrary) (_ : UnicodeLibrary) (_ : TimestampLibrary) (_ : DatetimeLibrary)
      (_ : CasefoldLibrary) (_ : LawfulTextLibrary) (_ : LawfulSpacing) (_ : LawfulBlanks)
      (_ : LawfulCasefold) (r : SnapshotRecords) (s : Snapshot RemoteIssueRecord),
      Snapshot.fromRecords typedRemoteSnapshot r = .ok s → Reloads typedRemoteSnapshot s ∧
        ∀ r', Reordered r r' → ∃ s', Snapshot.fromRecords typedRemoteSnapshot r' = .ok s' ∧
          s'.digest typedRemoteSnapshot = s.digest typedRemoteSnapshot := by
  intro h
  have hlawful := IssuanceHistories.referenceLibrary_lawful
  have hspacing := AttestationReference.referenceLibrary_spacing
  have hblanks := referenceLibrary_blanks
  have hcasefold := referenceCasefold_lawful
  let _ := ReferenceLibrary.referenceLibrary
  let _ := IssuanceHistories.referenceUnicode
  let _ := IssuanceHistories.referenceTimestamps
  let _ := PreviewHistories.referenceDatetimes
  let _ := PreviewHistories.referenceCasefold
  obtain ⟨s, hs, hcapabilities, -⟩ :=
    sampleRecords_accepted ["issues:read", "issues:read "] (by decide)
  have hkept := kept_of_reloads written_issues (made_of_fromRecords hs)
    (h _ _ _ _ _ hlawful hspacing hblanks hcasefold _ s hs).1
  have hsame : canonicalText "issues:read " = canonicalText "issues:read" := by decide +kernel
  have hdistinct := hkept.capabilities
  rw [hcapabilities] at hdistinct
  have hsorted : ["issues:read", "issues:read "].insertionSort (· ≤ ·) =
      ["issues:read", "issues:read "] := by decide
  rw [hsorted, List.map_cons, List.map_singleton, hsame, List.pairwise_pair] at hdistinct
  exact lt_irrefl _ hdistinct

end DeliverySystem.SnapshotReloads

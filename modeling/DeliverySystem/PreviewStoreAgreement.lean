import DeliverySystem.MemoryPreviewStore
import DeliverySystem.AcceptedPreviews
import DeliverySystem.AttestationReference
import DeliverySystem.ConceptualPreviews
import DeliverySystem.PreviewHistories
import DeliverySystem.EvidenceRoundTrips
import DeliverySystem.PairedLists

/-!
# Where the two Preview stores agree

Each store keeps every revision of a Preview, and the evidence that was saved
with it. A sequence of saves that are each accepted by an empty store, and of
reads, is answered alike by both as long as no save repeats a revision that is
no longer the latest one of its Preview: the database finds the row and has
nothing to do, the store in memory compares with its latest Preview and refuses.
-/
namespace DeliverySystem.PreviewStoreAgreement
open PythonValues CanonicalValues IssueCommands ExecutionContexts KeyedRows
open AuditRecords EvidenceRecords RemoteSnapshots SealedPreviews PreviewStore AuditCommits
open AcceptedPreviews PreviewEligibility NormalForms EvidenceRoundTrips PairedLists
open MemoryPreviewStore
set_option autoImplicit false

section
variable [DatetimeLibrary] [PythonLibrary] [UnicodeLibrary] [IntegerLibrary] [CasefoldLibrary]

/-! ## What an accepted save says of where it belongs -/

/-- What a save that is accepted says of its workspace, its Preview and its evidence. -/
structure Placed (ownWorkspace : String) (promotion : Option RuntimePromotion) (a : SaveArguments)
    (canonical : Dict) : Prop where
  workspace : ownWorkspace ≠ ""
  previewId : canonical.get "preview_id" = .str a.binding.previewId
  revision : canonical.get "revision" = .int a.binding.revision
  normal : canonicalText a.binding.previewId = a.binding.previewId
  evidence : checkEvidenceRecords canonical a.binding a.evidenceRecords ownWorkspace promotion =
    .ok ()

omit [DatetimeLibrary] [IntegerLibrary] [CasefoldLibrary] in
theorem toDict_get_normal [LawfulSpacing] {p : SealedPreview} {canonical : Dict} {k : String}
    (h : p.toDict = .ok canonical) :
    CanonicalValues.normalize (canonical.get k) = .ok (canonical.get k) := by
  simp only [SealedPreview.toDict, bind_eq_ok, orRaise_eq_ok] at h
  obtain ⟨value, hvalue, hmapping⟩ := h
  obtain ⟨made, hmade, -, rfl⟩ := normalize_dict_eq_ok.mp hvalue
  obtain rfl := Option.some.inj hmapping
  unfold Dict.get
  cases hlookup : (sortEntries made).lookup k with
  | none => rfl
  | some v =>
      obtain ⟨pre, post, hsplit, -⟩ := List.lookup_eq_some_iff.mp hlookup
      have hmem : (k, v) ∈ made := by
        rw [← (sortEntries_perm made).mem_iff, hsplit]
        simp
      clear hlookup hsplit hmapping hvalue
      generalize p.entries = entries at hmade
      induction hmade with
      | nil => cases hmem
      | cons he _ ih =>
          rcases List.mem_cons.mp hmem with rfl | hmem
          · exact normalize_again _ _ he.2
          · exact ih hmem

theorem acceptPreview_placed [LawfulSpacing] {workspace : String}
    {promotion : Option RuntimePromotion} {a : SaveArguments} {canonical : Dict}
    (h : acceptPreview workspace promotion a = .ok canonical) :
    Placed workspace promotion a canonical := by
  simp only [acceptPreview, bind_eq_ok, raiseIf_eq_ok, orRaise_eq_ok, pure_eq_ok] at h
  obtain ⟨given, hgiven, _, -, canonical, hvalid, _, -, _, -, _, -, rfl⟩ := h
  simp only [validatePreviewPayload, bind_eq_ok, raiseIf_eq_ok, orRaise_eq_ok, pure_eq_ok, not_or,
    not_not] at hvalid
  obtain ⟨_, -, parsed, hparsed, canonical', htoDict, _, hsame, _, ⟨-, hpreview, hrevision⟩, _,
    hworkspace, _, -, _, -, _, -, _, -, _, -, _, -, _, -, _, -, _, -, _, -, _, -, _, hevidence, _,
    -, _, -, rfl⟩ := hvalid
  have hget := sortKeys_get (toDict_nodup htoDict) hsame
  simp only [SealedPreview.fromDict, bind_eq_ok, orRaise_eq_ok] at hparsed
  obtain ⟨_, -, w, hw, -⟩ := hparsed
  have hnormal := toDict_get_normal (k := "preview_id") htoDict
  rw [hpreview, CanonicalValues.normalize, Except.ok.injEq, Value.str.injEq] at hnormal
  refine ⟨?_, hpreview, hrevision, hnormal, hevidence⟩
  -- the workspace of the mapping that was given is not empty
  have hsorted := hget "workspace_identity"
  rw [hworkspace] at hsorted
  have hgiven' : Dict.get given "workspace_identity" = .str workspace :=
    sortKeys_eq_str.mp hsorted.symm
  rintro rfl
  rw [hgiven'] at hw
  cases hw

/-! ## The evidence of an accepted save -/

/-- The identity that a mapping of evidence has in the tables. -/
def evidenceText (d : Dict) : String := Value.toText (d.get "evidence_id")

/-- The evidence that an accepted save brings, and the records that are read of it. -/
structure Brought (canonical : Dict) (a : SaveArguments) (records : List EvidenceRecord) :
    Prop where
  read : List.Forall₂ (fun d r => EvidenceRecord.fromDict d = .ok r ∧
    (d.get "source_kind" = .str "driver" ↔ r.sourceKind = "driver")) a.evidenceRecords records
  scope : ∀ r ∈ records, r.previewId = a.binding.previewId ∧ r.revision = a.binding.revision
  distinct : (a.evidenceRecords.map evidenceText).Nodup
  named : ∃ named, namedEvidence canonical = .ok named ∧
    named.Perm (a.evidenceRecords.map evidenceText)
  driver : ∀ d ∈ a.evidenceRecords, ∀ d' ∈ a.evidenceRecords,
    d.get "source_kind" = .str "driver" → d'.get "source_kind" = .str "driver" → d = d'

omit [DatetimeLibrary] [CasefoldLibrary] in
theorem checkEvidence_read {b : PreviewBinding} {workspace : String}
    {promotion : Option RuntimePromotion} {d : Dict}
    (h : checkEvidence b workspace promotion d = .ok ()) :
    ∃ r, EvidenceRecord.fromDict d = .ok r ∧
      (d.get "source_kind" = .str "driver" ↔ r.sourceKind = "driver") ∧
      r.previewId = b.previewId ∧ r.revision = b.revision ∧
      (d.get "source_kind" = .str "driver" →
        ∃ p, promotion = some p ∧ r.evidenceId = p.evidenceRecord.evidenceId) := by
  simp only [checkEvidence, bind_eq_ok, raiseIf_eq_ok, not_or, not_not] at h
  obtain ⟨known, hknown, _, hsome, r, hr, _, ⟨-, hpreview, hrevision⟩, hdriver⟩ := h
  refine ⟨r, hr, ?_, hpreview, hrevision, fun hkind => ?_⟩
  · rw [← (fromDict_readFrom hr).sourceKind]
    have htexts : d.get "source_kind" = .str "declared" ∨ d.get "source_kind" = .str "driver" := by
      unfold inTexts at hknown
      split_ifs at hknown
      obtain rfl := Except.ok.inj hknown
      simpa [or_iff_not_imp_left] using hsome
    rcases htexts with htext | htext <;> simp [htext, Value.toText]
  · rw [if_pos hkind] at hdriver
    simp only [bind_eq_ok, orRaise_eq_ok, raiseIf_eq_ok, not_not] at hdriver
    obtain ⟨p, hp, _, hid, -⟩ := hdriver
    exact ⟨p, hp, hid⟩

omit [DatetimeLibrary] [CasefoldLibrary] in
theorem Placed.brought {workspace : String} {promotion : Option RuntimePromotion}
    {a : SaveArguments} {canonical : Dict} (h : Placed workspace promotion a canonical) :
    ∃ records, a.evidenceRecords.mapM EvidenceRecord.fromDict = .ok records ∧
      Brought canonical a records := by
  have hevidence := h.evidence
  simp only [checkEvidenceRecords, bind_eq_ok, raiseIf_eq_ok, not_not] at hevidence
  obtain ⟨_, hdistinct, named, hnamed, _, -, _, hsorted, hall⟩ := hevidence
  have hall := forM_eq_ok.mp hall
  obtain ⟨records, hrecords⟩ := exists_forall₂ fun d hd => checkEvidence_read (hall d hd)
  refine ⟨records, mapM_eq_ok.mpr (hrecords.imp fun _ _ hr => hr.1), ?_⟩
  constructor
  · exact hrecords.imp fun _ _ hr => ⟨hr.1, hr.2.1⟩
  · intro r hr
    obtain ⟨d, -, -, -, hpreview, hrevision, -⟩ := mem_right hrecords hr
    exact ⟨hpreview, hrevision⟩
  · exact hdistinct
  · refine ⟨named.map Value.toText, ?_, ?_⟩
    · simp only [namedEvidence, hnamed, bind, Except.bind, pure, Except.pure]
    · exact ((List.perm_insertionSort _ _).symm.trans (List.Perm.of_eq hsorted)).trans
        (List.perm_insertionSort _ _)
  · -- both have the identity that the promotion names
    intro d hd d' hd' hkind hkind'
    obtain ⟨r, -, hr, -, -, -, hpromotion⟩ := mem_left hrecords hd
    obtain ⟨r', -, hr', -, -, -, hpromotion'⟩ := mem_left hrecords hd'
    obtain ⟨p, hp, hid⟩ := hpromotion hkind
    obtain ⟨p', hp', hid'⟩ := hpromotion' hkind'
    obtain rfl := Option.some.inj (hp.symm.trans hp')
    refine List.inj_on_of_nodup_map hdistinct hd hd' ?_
    rw [(fromDict_readFrom hr).evidenceId, (fromDict_readFrom hr').evidenceId, hid, hid']

/-! ## Reading the promotion back -/

variable [LawfulSpacing]

omit [DatetimeLibrary] [CasefoldLibrary] in
/-- The record of the driver is found in the mappings that were saved, in any
order, and in what the records write, or in neither. -/
theorem Brought.driverEvidence {canonical : Dict} {a : SaveArguments}
    {records : List EvidenceRecord} (h : Brought canonical a records) {evidence : List Dict}
    (hperm : evidence.Perm a.evidenceRecords) (missing : Raised) :
    (∃ d r, driverEvidence evidence missing = .ok d ∧ EvidenceRecord.fromDict d = .ok r ∧
        driverEvidence (records.map EvidenceRecord.toDict) missing = .ok r.toDict ∧
        EvidenceRecord.fromDict r.toDict = .ok r) ∨
      driverEvidence evidence missing = .error missing ∧
        driverEvidence (records.map EvidenceRecord.toDict) missing = .error missing := by
  let isDriver : Dict → Bool := fun record => Dict.get record "source_kind" = .str "driver"
  have hmemory : (records.map EvidenceRecord.toDict).filter isDriver =
      (records.filter fun r => r.sourceKind = "driver").map EvidenceRecord.toDict := by
    rw [List.filter_map]
    refine congrArg _ (List.filter_congr fun r _ => ?_)
    have hkind : Dict.get r.toDict "source_kind" = .str r.sourceKind := rfl
    simp [isDriver, hkind]
  have hdatabase := hperm.filter isDriver
  have hpaired := forall₂_filter h.read (p := isDriver) (q := fun r => r.sourceKind = "driver")
    fun d r hr => by simp only [isDriver, hr.2]
  cases hdrivers : a.evidenceRecords.filter isDriver with
  | nil =>
      rw [hdrivers] at hpaired hdatabase
      right
      constructor
      · rw [AuditCommits.driverEvidence, hdatabase.eq_nil]
      · rw [AuditCommits.driverEvidence, hmemory, List.forall₂_nil_left_iff.mp hpaired]
        rfl
  | cons d rest =>
      cases rest with
      | nil =>
          rw [hdrivers] at hpaired hdatabase
          obtain ⟨r, _, ⟨hr, hkind⟩, hnil, hrecords⟩ := List.forall₂_cons_left_iff.mp hpaired
          obtain rfl := List.forall₂_nil_left_iff.mp hnil
          have hd : isDriver d = true := List.of_mem_filter (hdrivers ▸ List.mem_singleton_self d)
          have hdriver : r.sourceKind = "driver" := hkind.mp (by simpa [isDriver] using hd)
          left
          refine ⟨d, r, ?_, hr, ?_, fromDict_toDict hr hdriver⟩
          · rw [AuditCommits.driverEvidence, List.perm_singleton.mp hdatabase]
          · rw [AuditCommits.driverEvidence, hmemory, hrecords]
            rfl
      | cons d' rest =>
          -- two drivers would be one mapping, listed twice
          have hmem : ∀ e ∈ d :: d' :: rest, e ∈ a.evidenceRecords ∧
              Dict.get e "source_kind" = .str "driver" := fun e he => by
            rw [← hdrivers, List.mem_filter] at he
            exact ⟨he.1, by simpa [isDriver] using he.2⟩
          obtain ⟨hd, hkind⟩ := hmem d List.mem_cons_self
          obtain ⟨hd', hkind'⟩ := hmem d' (List.mem_cons_of_mem _ List.mem_cons_self)
          have hnodup := (List.Nodup.of_map _ h.distinct).filter isDriver
          rw [hdrivers, List.nodup_cons] at hnodup
          rw [h.driver d hd d' hd' hkind hkind'] at hnodup
          exact absurd List.mem_cons_self hnodup.1

/-- A promotion is read back alike from the mappings that were saved, in any
order, and from the records. -/
theorem Brought.reloadPromotion {canonical : Dict} {a : SaveArguments}
    {records : List EvidenceRecord} (h : Brought canonical a records) {evidence : List Dict}
    (hperm : evidence.Perm a.evidenceRecords) (trustContext : Option TrustContext) :
    reloadPromotion trustContext canonical evidence =
      reloadPromotion trustContext canonical (records.map EvidenceRecord.toDict) := by
  unfold AuditCommits.reloadPromotion
  by_cases hlevel : repositoryLevel canonical
  · rw [if_pos hlevel, if_pos hlevel]
    cases trustContext with
    | none => rfl
    | some trust =>
        simp only [orRaise, bind, Except.bind]
        rcases h.driverEvidence hperm (.valueError "repository_aware_promotion_required") with
          ⟨d, r, hdatabase, hd, hmemory, hr⟩ | ⟨hdatabase, hmemory⟩
        · simp only [hdatabase, hmemory, hd, hr]
        · simp only [hdatabase, hmemory]
  · rw [if_neg hlevel, if_neg hlevel]

/-! ## Stores that keep the same -/

variable {context : StoreContext} {m : InMemoryPreviewStore} {s : PreviewTables}
  {evidence : List Dict}

/-- A revision that is kept, with the evidence that was saved with it in both stores. -/
structure Retained (workspace : String) (m : InMemoryPreviewStore) (s : PreviewTables)
    (key : String × Int) (saved : SavedPreview) : Prop where
  identity : saved.previewId = key.1 ∧ saved.revision = key.2
  evidence : ∃ promotion a records, Placed workspace promotion a saved.canonicalPayload ∧
    Brought saved.canonicalPayload a records ∧ a.binding.previewId = key.1 ∧
    a.binding.revision = key.2 ∧
    (∀ d ∈ a.evidenceRecords, s.evidence.lookup (evidenceText d, key.2) = some d) ∧
    (m.evidence.entries.filter fun row =>
      row.2.previewId = key.1 ∧ row.2.revision = key.2).map Prod.snd = records

/-- The stores keep the same revisions and the same evidence, all of it of `evidence`. -/
structure Related (context : StoreContext) (evidence : List Dict) (m : InMemoryPreviewStore)
    (s : PreviewTables) : Prop where
  workspace : m.workspaceIdentity = some context.workspaceIdentity
  trust : m.trustContext = context.trustContext
  history : ∀ previewId revision,
    m.previewHistory.lookup (context.workspaceIdentity, previewId, revision) =
      s.previews.lookup (previewId, revision)
  latest : ∀ previewId, m.previews.lookup (context.workspaceIdentity, previewId) =
    s.previews.latestRecord previewId
  retained : ∀ key saved, s.previews.lookup key = some saved →
    Retained context.workspaceIdentity m s key saved
  lineage : ∀ previewId revision clientRef itemId,
    s.lineage.lookup (previewId, revision, clientRef) = some itemId →
      ∃ saved, s.previews.lookup (previewId, revision) = some saved
  rows : ∀ key d, s.evidence.lookup key = some d → d ∈ evidence ∧
    ∃ r, EvidenceRecord.fromDict d = .ok r ∧ key = (r.evidenceId, r.revision) ∧
      canonicalText r.previewId = r.previewId ∧
      ∃ saved, s.previews.lookup (r.previewId, r.revision) = some saved
  records : ∀ key r, m.evidence.lookup key = some r →
    key = (context.workspaceIdentity, r.evidenceId) ∧
      ∃ d, s.evidence.lookup (r.evidenceId, r.revision) = some d ∧
        EvidenceRecord.fromDict d = .ok r

omit [CasefoldLibrary] [LawfulSpacing] in
theorem opened_related (context : StoreContext) (backendScope : String) (evidence : List Dict) :
    Related context evidence
      (.opened (some context.workspaceIdentity) context.trustContext backendScope) .empty where
  workspace := rfl
  trust := rfl
  history _ _ := rfl
  latest _ := rfl
  retained _ _ h := by cases h
  lineage _ _ _ _ h := by cases h
  rows _ _ h := by cases h
  records _ _ h := by cases h

omit [CasefoldLibrary] [LawfulSpacing] in
/-- An identity is kept under one revision. -/
theorem Related.row_unique (h : Related context evidence m s) (hfree : CollisionFree evidence)
    {evidenceId : String} {revision revision' : Int} {d d' : Dict}
    (hd : s.evidence.lookup (evidenceId, revision) = some d)
    (hd' : s.evidence.lookup (evidenceId, revision') = some d') : revision = revision' := by
  obtain ⟨hmem, r, hr, hkey, -⟩ := h.rows _ _ hd
  obtain ⟨hmem', r', hr', hkey', -⟩ := h.rows _ _ hd'
  obtain ⟨hid, rfl⟩ := Prod.mk.inj hkey
  obtain ⟨hid', rfl⟩ := Prod.mk.inj hkey'
  exact (hfree.scope hmem hmem' hr hr' (hid.symm.trans hid')).2

omit [CasefoldLibrary] [LawfulSpacing] in
theorem Related.latestRecord_evidence (h : Related context evidence m s)
    (hfree : CollisionFree evidence) {evidenceId : String} {revision : Int} {d : Dict}
    (hd : s.evidence.lookup (evidenceId, revision) = some d) :
    s.evidence.latestRecord evidenceId = some d := by
  obtain ⟨latest, hlatest, -⟩ := Rows.exists_latestRevision hd
  obtain ⟨⟨d', hd'⟩, -⟩ := Rows.latestRevision_eq_some.mp hlatest
  obtain rfl := h.row_unique hfree hd hd'
  rw [Rows.latestRecord, hlatest, Option.bind_some, hd]

omit [CasefoldLibrary] [LawfulSpacing] in
/-- The evidence that a kept Preview names is read from the tables. -/
theorem Related.readEvidenceRecords (h : Related context evidence m s)
    (hfree : CollisionFree evidence) {a : SaveArguments} {revision : Int} {named : List String}
    (hrows : ∀ d ∈ a.evidenceRecords, s.evidence.lookup (evidenceText d, revision) = some d)
    (hnamed : named.Perm (a.evidenceRecords.map evidenceText)) :
    ∃ loaded, AuditCommits.readEvidenceRecords s named none = .ok loaded ∧
      loaded.Perm a.evidenceRecords := by
  let load (evidenceId : String) : Dict := (s.evidence.latestRecord evidenceId).getD []
  have hload : ∀ d ∈ a.evidenceRecords, s.evidence.latestRecord (evidenceText d) = some d :=
    fun d hd => h.latestRecord_evidence hfree (hrows d hd)
  refine ⟨named.map load, ?_, (hnamed.map load).trans (List.Perm.of_eq ?_)⟩
  · rw [AuditCommits.readEvidenceRecords, mapM_eq_ok, List.forall₂_map_right_iff,
      List.forall₂_same]
    intro evidenceId hid
    obtain ⟨d, hd, rfl⟩ := List.mem_map.mp (hnamed.mem_iff.mp hid)
    simp only [load, hload d hd, orRaise, Option.getD_some]
  · rw [List.map_map]
    refine (List.map_congr_left fun d hd => ?_).trans (List.map_id _)
    simp only [Function.comp_apply, load, hload d hd, Option.getD_some, id_eq]

/-- What the database does with a Preview once it has read its row. -/
def loadedPreview (context : StoreContext) (s : PreviewTables) (result : SavedPreview) :
    Py SavedPreview :=
  if Dict.get result.canonicalPayload "preview_level" = .str "RepositoryAware" then do
    raiseIf (context.trustContext = none) "driver_trust_context_required"
    let named ← namedEvidence result.canonicalPayload
    let evidence ← AuditCommits.readEvidenceRecords s named none
    let _ ← reloadPromotion context.trustContext result.canonicalPayload evidence
    pure result
  else pure result

/-- Both stores load a kept Preview alike. -/
theorem Related.load (h : Related context evidence m s) (hfree : CollisionFree evidence)
    {key : String × Int} {saved : SavedPreview} (hsaved : s.previews.lookup key = some saved) :
    (m.validateLoadedTrust saved >>= fun _ => pure saved) = loadedPreview context s saved := by
  obtain ⟨-, promotion, a, records, hplaced, hbrought, hpreview, hrevision, hrows, hrecords⟩ :=
    h.retained key saved hsaved
  rw [InMemoryPreviewStore.validateLoadedTrust, loadedPreview]
  by_cases hlevel : Dict.get saved.canonicalPayload "preview_level" = .str "RepositoryAware"
  · rw [if_pos hlevel, if_pos hlevel]
    obtain ⟨named, hnamed, hperm⟩ := hbrought.named
    obtain ⟨loaded, hloaded, hpermutes⟩ := h.readEvidenceRecords hfree hrows hperm
    have hmemory : (m.evidence.entries.filter fun row =>
        .str row.2.previewId = Dict.get saved.canonicalPayload "preview_id" ∧
          .int row.2.revision = Dict.get saved.canonicalPayload "revision").map
            (fun row => row.2.toDict) = records.map EvidenceRecord.toDict := by
      rw [← hrecords, List.map_map]
      refine congrArg _ (List.filter_congr fun row _ => ?_)
      rw [hplaced.previewId, hplaced.revision, hpreview, hrevision]
      simp
    have hreload := hbrought.reloadPromotion hpermutes context.trustContext
    simp only [h.trust, hnamed, hmemory, bind, Except.bind, pure, Except.pure, hloaded, hreload]
    cases raiseIf (context.trustContext = none) "driver_trust_context_required" with
    | error e => rfl
    | ok _ =>
        cases reloadPromotion context.trustContext saved.canonicalPayload
            (records.map EvidenceRecord.toDict) with
        | error e => rfl
        | ok _ => rfl
  · rw [if_neg hlevel, if_neg hlevel]
    rfl

omit [LawfulSpacing] in
theorem getPreviewRevision_database (context : StoreContext) (s : PreviewTables)
    (previewId : String) (revision : Option Int) :
    AuditCommits.getPreviewRevision context s context.workspaceIdentity previewId revision =
      orRaise (match revision with
        | none => s.previews.latestRecord previewId
        | some revision => s.previews.lookup (previewId, revision))
        (.valueError "preview_not_found") >>= loadedPreview context s := by
  have hworkspace : raiseIf (context.workspaceIdentity ≠ context.workspaceIdentity)
      "preview crosses Workspace boundary" = .ok () := if_neg (not_not_intro rfl)
  unfold AuditCommits.getPreviewRevision
  rw [hworkspace]
  rfl

theorem Related.loadFound (h : Related context evidence m s) (hfree : CollisionFree evidence)
    {found : Option SavedPreview}
    (hfound : ∀ saved, found = some saved → ∃ key, s.previews.lookup key = some saved) :
    (do
      let result ← orRaise found (.valueError "preview_not_found")
      m.validateLoadedTrust result
      pure result) =
      orRaise found (.valueError "preview_not_found") >>= loadedPreview context s := by
  cases found with
  | none => rfl
  | some saved =>
      obtain ⟨key, hkey⟩ := hfound saved rfl
      exact h.load hfree hkey

omit [PythonLibrary] [UnicodeLibrary] [IntegerLibrary] [CasefoldLibrary] [LawfulSpacing] in
theorem latestRecord_kept {previewId : String} {saved : SavedPreview}
    (h : s.previews.latestRecord previewId = some saved) :
    ∃ revision, s.previews.latestRevision previewId = some revision ∧
      s.previews.lookup (previewId, revision) = some saved := by
  rw [Rows.latestRecord, Option.bind_eq_some_iff] at h
  exact h

/-- The latest Preview is read alike. -/
theorem Related.getPreview (h : Related context evidence m s) (hfree : CollisionFree evidence)
    (previewId : String) :
    m.getPreview context.workspaceIdentity previewId =
      AuditCommits.getPreview context s context.workspaceIdentity previewId := by
  rw [AuditCommits.getPreview, getPreviewRevision_database, InMemoryPreviewStore.getPreview,
    h.latest]
  refine h.loadFound hfree fun saved hsaved => ?_
  obtain ⟨revision, -, hlookup⟩ := latestRecord_kept hsaved
  exact ⟨_, hlookup⟩

/-- Every revision of a Preview is read alike. -/
theorem Related.getPreviewRevision (h : Related context evidence m s)
    (hfree : CollisionFree evidence) (previewId : String) (revision : Option Int) :
    m.getPreviewRevision context.workspaceIdentity previewId revision =
      AuditCommits.getPreviewRevision context s context.workspaceIdentity previewId revision := by
  have hscope : InMemoryPreviewStore.orText m.workspaceIdentity (some context.workspaceIdentity) =
      some context.workspaceIdentity := by
    rw [h.workspace, InMemoryPreviewStore.orText]
    split_ifs <;> rfl
  simp only [InMemoryPreviewStore.getPreviewRevision, hscope, ne_eq, not_true_eq_false, raiseIf,
    if_false, bind, Except.bind]
  cases revision with
  | none => exact h.getPreview hfree previewId
  | some revision =>
      rw [getPreviewRevision_database]
      dsimp only
      rw [h.history]
      exact h.loadFound hfree fun saved hsaved => ⟨_, hsaved⟩

/-! ## Saves that an empty store takes -/

/-- The record of a Preview that a save stores. -/
def savedPreview (a : SaveArguments) (canonical : Dict) : SavedPreview where
  requestId := a.binding.requestId
  previewId := a.binding.previewId
  revision := a.binding.revision
  canonicalPayload := canonical

variable [SqliteLibrary]

/-- What both stores check of a save alone, and make of it. -/
structure Takes (context : StoreContext) (promotion : Option RuntimePromotion) (a : SaveArguments)
    (canonical : Dict) (candidates : List ItemRecord)
    (lineageRows : List ((String × Int × String) × String)) : Prop where
  scope : a.workspaceIdentity = none ∨ a.workspaceIdentity = some context.workspaceIdentity
  accepted : acceptPreview context.workspaceIdentity promotion a = .ok canonical
  items : a.items.mapM (InMemoryPreviewStore.candidateItem context.workspaceIdentity a.binding) =
    .ok candidates
  clientRefs : (candidates.map ItemRecord.clientRef).Nodup
  distinct : distinctItems (a.items.map (Dict.get · "client_ref")) = .ok true
  bounded : a.binding.revision ≤ maxInteger
  rows : a.items.mapM (lineageRow a.binding) = some lineageRows
  rowKeys : (lineageRows.map Prod.fst).Nodup

omit [DatetimeLibrary] [PythonLibrary] [UnicodeLibrary] [IntegerLibrary] [CasefoldLibrary]
  [LawfulSpacing] [SqliteLibrary] in
theorem memory_scope [DatetimeLibrary] {m : InMemoryPreviewStore} {workspace : String}
    (hm : m.workspaceIdentity = some workspace) {given : Option String}
    (hgiven : given = none ∨ given = some workspace) : m.scope given = workspace := by
  have habsent : absentText none = true := rfl
  rw [InMemoryPreviewStore.scope, InMemoryPreviewStore.orText, hm]
  rcases hgiven with rfl | rfl
  · rw [if_pos habsent]
    rfl
  · split_ifs <;> rfl

/-- A save that both stores take while they are empty. -/
def TakenAlone (context : StoreContext) (promotion : Option RuntimePromotion)
    (a : SaveArguments) : Prop :=
  ∃ backendScope m s,
    (InMemoryPreviewStore.opened (some context.workspaceIdentity) context.trustContext
      backendScope).savePreviewRevisionImpl promotion a = .ok m ∧
    PreviewStore.savePreviewRevisionImpl context promotion a .empty = .ok s

omit [LawfulSpacing] in
theorem TakenAlone.takes {promotion : Option RuntimePromotion} {a : SaveArguments}
    (h : TakenAlone context promotion a) :
    ∃ canonical items rows, Takes context promotion a canonical items rows := by
  obtain ⟨backendScope, m, s, hmemory, hdatabase⟩ := h
  simp only [PreviewStore.savePreviewRevisionImpl, bind_eq_ok, raiseIf_eq_ok, not_lt] at hdatabase
  obtain ⟨_, hscope, canonical, haccepted, distinct, hdistinct, _, htrue, _, hbounded, hcommit⟩ :=
    hdatabase
  have hnone : (PreviewTables.empty).previews.lookup (a.binding.previewId, a.binding.revision) =
      none := rfl
  simp only [commitPreview, hnone, bind_eq_ok, orRaise_eq_ok, raiseIf_eq_ok] at hcommit
  obtain ⟨_, -, rows, hrows, lineage, hlineage, -⟩ := hcommit
  have hscope' : a.workspaceIdentity = none ∨
      a.workspaceIdentity = some context.workspaceIdentity := by
    cases hworkspace : a.workspaceIdentity with
    | none => exact .inl rfl
    | some w =>
        right
        rw [hworkspace] at hscope
        simpa using hscope
  have hown : (InMemoryPreviewStore.opened (some context.workspaceIdentity) context.trustContext
      backendScope).scope a.workspaceIdentity = context.workspaceIdentity :=
    memory_scope rfl hscope'
  simp only [InMemoryPreviewStore.savePreviewRevisionImpl, hown, bind_eq_ok, raiseIf_eq_ok,
    not_not] at hmemory
  obtain ⟨_, -, _, -, items, hitems, _, hclientRefs, -⟩ := hmemory
  refine ⟨canonical, items, rows, hscope', haccepted, hitems, hclientRefs, ?_, hbounded, hrows,
    (Rows.insertAll_fresh hlineage).1⟩
  rw [hdistinct]
  simpa using htrue

section
variable {promotion : Option RuntimePromotion} {a : SaveArguments} {canonical : Dict}
  {candidates : List ItemRecord} {lineageRows : List ((String × Int × String) × String)}
  {records : List EvidenceRecord}

/-- The store in memory after a save that it takes. -/
def savedMemory (m : InMemoryPreviewStore) (workspace : String) (a : SaveArguments)
    (canonical : Dict) (candidates : List ItemRecord) (records : List EvidenceRecord) :
    InMemoryPreviewStore :=
  { m with
    previews := m.previews.put (workspace, a.binding.previewId) (savedPreview a canonical)
    previewHistory := m.previewHistory.put (workspace, a.binding.previewId, a.binding.revision)
      (savedPreview a canonical)
    audits := m.audits.mapRecords (InMemoryPreviewStore.replacedAudit workspace a.binding)
    items := m.items ++ candidates
    evidence := records.foldl (fun evidence record =>
      evidence.put (workspace, record.evidenceId) record) m.evidence }

omit [LawfulSpacing] in
/-- The store in memory decides from its latest Preview. -/
theorem Takes.memory (h : Takes context promotion a canonical candidates lineageRows)
    (hnonempty : context.workspaceIdentity ≠ "")
    (hrecords : a.evidenceRecords.mapM EvidenceRecord.fromDict = .ok records)
    (hm : m.workspaceIdentity = some context.workspaceIdentity) :
    m.savePreviewRevisionImpl promotion a =
      if m.previews.lookup (context.workspaceIdentity, a.binding.previewId) =
          some (savedPreview a canonical) then .ok m
      else if ∃ saved ∈ m.previews.lookup (context.workspaceIdentity, a.binding.previewId),
          a.binding.revision ≤ saved.revision then .error (.valueError "preview_revision_conflict")
      else .ok (savedMemory m context.workspaceIdentity a canonical candidates records) := by
  have hscope := memory_scope hm h.scope
  have hmismatch : ¬(a.workspaceIdentity.isSome ∧ m.workspaceIdentity.isSome ∧
      a.workspaceIdentity ≠ m.workspaceIdentity) := by
    rw [hm]
    rcases h.scope with hworkspace | hworkspace <;> simp [hworkspace]
  have hkept : InMemoryPreviewStore.orText m.workspaceIdentity a.workspaceIdentity =
      m.workspaceIdentity := by
    rw [hm, InMemoryPreviewStore.orText, if_neg (by simp [absentText, hnonempty])]
  rw [InMemoryPreviewStore.savePreviewRevisionImpl, raiseIf, if_neg hmismatch]
  simp only [hscope, h.accepted, h.items, bind, Except.bind]
  rw [raiseIf, if_neg (not_not.mpr h.clientRefs)]
  dsimp only
  by_cases hsame : m.previews.lookup (context.workspaceIdentity, a.binding.previewId) =
      some (savedPreview a canonical)
  · rw [if_pos hsame]
    exact if_pos hsame
  · rw [if_neg hsame]
    refine (if_neg hsame).trans ?_
    by_cases hlater : ∃ saved ∈ m.previews.lookup (context.workspaceIdentity,
        a.binding.previewId), a.binding.revision ≤ saved.revision
    · rw [if_pos hlater, raiseIf, if_pos hlater]
    · rw [if_neg hlater, raiseIf, if_neg hlater, hrecords, hkept]
      rfl

omit [LawfulSpacing] in
/-- The database decides from the row of the revision, then from the latest one. -/
theorem Takes.database (h : Takes context promotion a canonical candidates lineageRows) :
    PreviewStore.savePreviewRevisionImpl context promotion a s = commitPreview canonical a s := by
  have hscope : ¬(a.workspaceIdentity.any (· ≠ context.workspaceIdentity)) = true := by
    rcases h.scope with hworkspace | hworkspace <;> simp [hworkspace]
  rw [PreviewStore.savePreviewRevisionImpl, raiseIf, if_neg hscope]
  simp only [h.accepted, h.distinct, raiseIf, not_lt.mpr h.bounded, bind, Except.bind, if_false,
    Bool.true_eq_false]

omit [LawfulSpacing] in
/-- A row that is there as the save would write it is left as it is. -/
theorem Takes.database_again (h : Takes context promotion a canonical candidates lineageRows)
    (hlookup : s.previews.lookup (a.binding.previewId, a.binding.revision) =
      some (savedPreview a canonical)) :
    PreviewStore.savePreviewRevisionImpl context promotion a s = .ok s := by
  unfold savedPreview at hlookup
  rw [h.database]
  simp only [commitPreview, hlookup, raiseIf, ne_eq, not_true_eq_false, if_false]
  rfl

omit [DatetimeLibrary] [CasefoldLibrary] [LawfulSpacing] [SqliteLibrary] in
theorem Brought.text {d : Dict} {r : EvidenceRecord} (hr : EvidenceRecord.fromDict d = .ok r) :
    evidenceText d = r.evidenceId := (fromDict_readFrom hr).evidenceId

omit [DatetimeLibrary] [CasefoldLibrary] [LawfulSpacing] [SqliteLibrary] in
theorem Brought.ids (h : Brought canonical a records) :
    records.map EvidenceRecord.evidenceId = a.evidenceRecords.map evidenceText := by
  have hpaired := h.read
  clear h
  generalize a.evidenceRecords = given at hpaired
  induction hpaired with
  | nil => rfl
  | cons hr _ ih => rw [List.map_cons, List.map_cons, ih, Brought.text hr.1]

omit [CasefoldLibrary] [LawfulSpacing] [SqliteLibrary] in
/-- No identity of the evidence of a new revision is kept under any revision. -/
theorem Related.fresh (h : Related context evidence m s) (hfree : CollisionFree evidence)
    (hplaced : Placed context.workspaceIdentity promotion a canonical)
    (hbrought : Brought canonical a records) (hmem : ∀ d ∈ a.evidenceRecords, d ∈ evidence)
    (hnone : s.previews.lookup (a.binding.previewId, a.binding.revision) = none) :
    ∀ d ∈ a.evidenceRecords, ∀ revision,
      s.evidence.lookup (evidenceText d, revision) = none := by
  intro d hd revision
  by_contra hsome
  obtain ⟨d', hd'⟩ := Option.ne_none_iff_exists'.mp hsome
  obtain ⟨hmem', r', hr', hkey, hnormal, saved, hsaved⟩ := h.rows _ _ hd'
  obtain ⟨r, hrmem, hr, -⟩ := mem_left hbrought.read hd
  obtain ⟨hpreview, hrevision⟩ := hbrought.scope r hrmem
  obtain ⟨hid, -⟩ := Prod.mk.inj hkey
  obtain ⟨hsame, hsameRevision⟩ := hfree.scope (hmem d hd) hmem' hr hr'
    ((Brought.text hr).symm.trans hid)
  rw [hnormal, hpreview, hplaced.normal] at hsame
  rw [← hsame, ← hsameRevision, hrevision, hnone] at hsaved
  cases hsaved

omit [CasefoldLibrary] [LawfulSpacing] [SqliteLibrary] in
/-- The evidence of a new revision goes to the end of the evidence in memory. -/
theorem Related.entries (h : Related context evidence m s) (hbrought : Brought canonical a records)
    (hfresh : ∀ d ∈ a.evidenceRecords, ∀ revision,
      s.evidence.lookup (evidenceText d, revision) = none) :
    (savedMemory m context.workspaceIdentity a canonical candidates records).evidence.entries =
      m.evidence.entries ++
        records.map fun r => ((context.workspaceIdentity, r.evidenceId), r) := by
  have hput := @Rows.entries_foldl_put _ _ _ m.evidence
    (records.map fun r => ((context.workspaceIdentity, r.evidenceId), r)) ?_ ?_
  · rw [List.foldl_map] at hput
    exact hput
  · rw [List.map_map]
    have hnodup := hbrought.distinct
    rw [← hbrought.ids] at hnodup
    have hpairs := hnodup.map (f := fun id => (context.workspaceIdentity, id))
      fun _ _ heq => (Prod.mk.inj heq).2
    rw [List.map_map] at hpairs
    exact hpairs
  · intro row hrow
    obtain ⟨r, hr, rfl⟩ := List.mem_map.mp hrow
    by_contra hsome
    obtain ⟨other, hother⟩ := Option.ne_none_iff_exists'.mp hsome
    obtain ⟨hkey, d', hd', -⟩ := h.records _ _ hother
    obtain ⟨d, hd, hr', -⟩ := mem_right hbrought.read hr
    have hid : r.evidenceId = other.evidenceId := (Prod.mk.inj hkey).2
    rw [← hid, ← Brought.text hr', hfresh d hd] at hd'
    cases hd'

omit [DatetimeLibrary] [PythonLibrary] [UnicodeLibrary] [IntegerLibrary] [CasefoldLibrary]
  [LawfulSpacing] in
theorem lineageRow_key {b : PreviewBinding} {items : List Dict}
    {rows : List ((String × Int × String) × String)}
    (h : items.mapM (lineageRow b) = some rows) {row : (String × Int × String) × String}
    (hrow : row ∈ rows) : ∃ clientRef, row.1 = (b.previewId, b.revision, clientRef) := by
  obtain ⟨item, -, hitem⟩ := mem_right (mapM_eq_some.mp h) hrow
  simp only [lineageRow, Option.bind_eq_bind, Option.pure_def, Option.bind_eq_some_iff,
    Option.some.injEq] at hitem
  obtain ⟨clientRef, -, itemId, -, rfl⟩ := hitem
  exact ⟨clientRef, rfl⟩

omit [CasefoldLibrary] [LawfulSpacing] [SqliteLibrary] in
/-- No evidence of the revision of a save is kept before it. -/
theorem Related.no_records (h : Related context evidence m s) {previewId : String} {revision : Int}
    (hnone : s.previews.lookup (previewId, revision) = none) :
    (m.evidence.entries.filter fun row =>
      row.2.previewId = previewId ∧ row.2.revision = revision) = [] := by
  rw [List.filter_eq_nil_iff]
  rintro ⟨key, r⟩ hrow
  obtain ⟨-, d, hd, hr⟩ := h.records key r (Rows.lookup_eq_some_iff.mpr hrow)
  obtain ⟨-, r', hr', -, -, saved, hsaved⟩ := h.rows _ _ hd
  obtain rfl := Except.ok.inj (hr.symm.trans hr')
  simp only [decide_eq_true_eq]
  rintro ⟨rfl, rfl⟩
  rw [hnone] at hsaved
  cases hsaved

/-- What a save adds to the tables that both stores read. -/
structure Adds (s s' : PreviewTables) (a : SaveArguments) (canonical : Dict) : Prop where
  inserted : s.previews.insert (a.binding.previewId, a.binding.revision)
    (savedPreview a canonical) = some s'.previews
  evidence : ∀ key d, s'.evidence.lookup key = some d ↔ s.evidence.lookup key = some d ∨
    ∃ given ∈ a.evidenceRecords, (evidenceText given, a.binding.revision) = key ∧ given = d
  lineage : ∀ previewId revision clientRef itemId,
    s'.lineage.lookup (previewId, revision, clientRef) = some itemId →
      (∃ itemId, s.lineage.lookup (previewId, revision, clientRef) = some itemId) ∨
        previewId = a.binding.previewId ∧ revision = a.binding.revision

omit [CasefoldLibrary] [LawfulSpacing] in
theorem Related.commit (h : Related context evidence m s)
    (hrows : a.items.mapM (lineageRow a.binding) = some lineageRows)
    (hkeys : (lineageRows.map Prod.fst).Nodup)
    (hdistinct : (a.evidenceRecords.map evidenceText).Nodup)
    (hnone : s.previews.lookup (a.binding.previewId, a.binding.revision) = none)
    (habove : ∀ latest, s.previews.latestRevision a.binding.previewId = some latest →
      latest < a.binding.revision)
    (hfresh : ∀ d ∈ a.evidenceRecords, ∀ revision,
      s.evidence.lookup (evidenceText d, revision) = none) :
    ∃ s', commitPreview canonical a s = .ok s' ∧ Adds s s' a canonical := by
  have hlineageFresh : ∀ row ∈ lineageRows, s.lineage.lookup row.1 = none := by
    intro row hrow
    obtain ⟨clientRef, hkey⟩ := lineageRow_key hrows hrow
    rw [hkey, Option.eq_none_iff_forall_ne_some]
    intro itemId hitem
    obtain ⟨saved, hsaved⟩ := h.lineage _ _ _ _ hitem
    rw [hnone] at hsaved
    cases hsaved
  let evidenceRows := a.evidenceRecords.map fun d => (evidenceKey a.binding.revision d, d)
  have hevidenceKeys : (evidenceRows.map Prod.fst).Nodup := by
    have hpairs := hdistinct.map (f := fun id => (id, a.binding.revision))
      fun _ _ heq => (Prod.mk.inj heq).1
    rw [List.map_map] at hpairs
    rw [List.map_map]
    exact hpairs
  have hevidenceFresh : ∀ row ∈ evidenceRows, s.evidence.lookup row.1 = none := by
    intro row hrow
    obtain ⟨d, hd, rfl⟩ := List.mem_map.mp hrow
    exact hfresh d hd a.binding.revision
  obtain ⟨lineage, hlineage⟩ := Rows.exists_insertAll hkeys hlineageFresh
  obtain ⟨previews, hpreviews⟩ := Rows.insert_isSome (savedPreview a canonical) hnone
  obtain ⟨rows, hevidence⟩ := Rows.exists_insertAll hevidenceKeys hevidenceFresh
  have hlatest : ¬∃ latest ∈ s.previews.latestRevision a.binding.previewId,
      a.binding.revision ≤ latest := by
    rintro ⟨latest, hlatest, hle⟩
    exact absurd (habove latest hlatest) (not_lt.mpr hle)
  refine ⟨{ s with
    previews, lineage, evidence := rows
    audits := s.audits.supersede (staleEvent a.binding) }, ?_, ?_, ?_, ?_⟩
  · have hpreviews' := hpreviews
    unfold savedPreview at hpreviews'
    simp only [commitPreview, hnone, raiseIf, hlatest, if_false, hrows, orRaise, hlineage,
      hpreviews', bind, Except.bind, evidenceRows] at hevidence ⊢
    rw [hevidence]
    rfl
  · exact hpreviews
  · intro key d
    rw [Rows.lookup_insertAll hevidence, List.mem_map]
    simp only [Prod.mk.injEq]
    rfl
  · intro previewId revision clientRef itemId hitem
    rcases (Rows.lookup_insertAll hlineage).mp hitem with hkept | hrow
    · exact .inl ⟨itemId, hkept⟩
    · obtain ⟨_, hkey⟩ := lineageRow_key hrows hrow
      simp only [Prod.mk.injEq] at hkey
      exact .inr ⟨hkey.1, hkey.2.1⟩

section
variable {s' : PreviewTables}

omit [UnicodeLibrary] [IntegerLibrary] [CasefoldLibrary] [LawfulSpacing] [SqliteLibrary] in
theorem Adds.lookup (h : Adds s s' a canonical) (key : String × Int) :
    s'.previews.lookup key = if key = (a.binding.previewId, a.binding.revision)
      then some (savedPreview a canonical) else s.previews.lookup key :=
  Rows.lookup_insert h.inserted key

omit [UnicodeLibrary] [IntegerLibrary] [CasefoldLibrary] [LawfulSpacing] [SqliteLibrary] in
theorem Adds.kept (h : Adds s s' a canonical) {key : String × Int} {saved : SavedPreview}
    (hsaved : s.previews.lookup key = some saved) : s'.previews.lookup key = some saved := by
  rw [h.lookup, if_neg ?_, hsaved]
  rintro rfl
  rw [(Rows.insert_eq_some h.inserted).1] at hsaved
  cases hsaved

omit [UnicodeLibrary] [IntegerLibrary] [CasefoldLibrary] [LawfulSpacing] [SqliteLibrary] in
/-- The revision that is added is read, by its number and as the latest one. -/
theorem Adds.latestRecord (h : Adds s s' a canonical)
    (habove : ∀ latest, s.previews.latestRevision a.binding.previewId = some latest →
      latest < a.binding.revision) (previewId : String) :
    s'.previews.latestRecord previewId = if previewId = a.binding.previewId
      then some (savedPreview a canonical) else s.previews.latestRecord previewId := by
  rw [Rows.latestRecord, Rows.latestRevision_insert h.inserted habove, Rows.latestRecord]
  split_ifs with hid
  · rw [Option.bind_some, h.lookup, hid, if_pos rfl]
  · refine Option.bind_congr fun revision _ => ?_
    rw [h.lookup, if_neg fun hkey => hid (Prod.mk.inj hkey).1]

omit [CasefoldLibrary] [LawfulSpacing] [SqliteLibrary] in
/-- The evidence of a kept revision is its own after a save, and so is the evidence of
the revision that is saved. -/
theorem Related.evidence_saved (h : Related context evidence m s)
    (hbrought : Brought canonical a records)
    (hnone : s.previews.lookup (a.binding.previewId, a.binding.revision) = none)
    (hfresh : ∀ d ∈ a.evidenceRecords, ∀ revision,
      s.evidence.lookup (evidenceText d, revision) = none)
    (previewId : String) (revision : Int) :
    ((savedMemory m context.workspaceIdentity a canonical candidates
      records).evidence.entries.filter fun row =>
        row.2.previewId = previewId ∧ row.2.revision = revision).map Prod.snd =
      if previewId = a.binding.previewId ∧ revision = a.binding.revision then records
      else (m.evidence.entries.filter fun row =>
        row.2.previewId = previewId ∧ row.2.revision = revision).map Prod.snd := by
  rw [h.entries hbrought hfresh, List.filter_append, List.map_append]
  split_ifs with hkey
  · obtain ⟨rfl, rfl⟩ := hkey
    rw [h.no_records hnone, List.filter_eq_self.mpr, List.map_map]
    · exact List.map_id records
    · intro row hrow
      obtain ⟨r, hr, rfl⟩ := List.mem_map.mp hrow
      simpa using hbrought.scope r hr
  · rw [List.append_right_eq_self, List.map_eq_nil_iff, List.filter_eq_nil_iff]
    intro row hrow
    obtain ⟨r, hr, rfl⟩ := List.mem_map.mp hrow
    obtain ⟨hpreview, hrevision⟩ := hbrought.scope r hr
    simp only [decide_eq_true_eq, hpreview, hrevision]
    rintro ⟨rfl, rfl⟩
    exact hkey ⟨rfl, rfl⟩

omit [CasefoldLibrary] [LawfulSpacing] [SqliteLibrary] in
/-- After a save of a new revision the stores keep the same again. -/
theorem Related.adds (h : Related context evidence m s)
    (hplaced : Placed context.workspaceIdentity promotion a canonical)
    (hbrought : Brought canonical a records) (hmem : ∀ d ∈ a.evidenceRecords, d ∈ evidence)
    (habove : ∀ latest, s.previews.latestRevision a.binding.previewId = some latest →
      latest < a.binding.revision)
    (hfresh : ∀ d ∈ a.evidenceRecords, ∀ revision,
      s.evidence.lookup (evidenceText d, revision) = none) (hadds : Adds s s' a canonical) :
    Related context evidence
      (savedMemory m context.workspaceIdentity a canonical candidates records) s' := by
  have hnone := (Rows.insert_eq_some hadds.inserted).1
  constructor
  case workspace => exact h.workspace
  case trust => exact h.trust
  case history =>
    intro previewId revision
    rw [hadds.lookup, ← h.history]
    refine (Rows.lookup_put _ _ _ _).trans ?_
    simp only [Prod.mk.injEq, true_and]
  case latest =>
    intro previewId
    rw [hadds.latestRecord habove, ← h.latest]
    refine (Rows.lookup_put _ _ _ _).trans ?_
    simp only [Prod.mk.injEq, true_and]
  case retained =>
    rintro ⟨previewId, revision⟩ saved hsaved
    rw [hadds.lookup] at hsaved
    split_ifs at hsaved with hkey
    · obtain ⟨rfl, rfl⟩ := Prod.mk.inj hkey
      obtain rfl := Option.some.inj hsaved
      refine ⟨⟨rfl, rfl⟩, promotion, a, records, hplaced, hbrought, rfl, rfl, ?_, ?_⟩
      · exact fun d hd => (hadds.evidence _ _).mpr (.inr ⟨d, hd, rfl, rfl⟩)
      · rw [h.evidence_saved hbrought hnone hfresh, if_pos ⟨rfl, rfl⟩]
    · obtain ⟨hidentity, p, a', records', hplaced', hbrought', hpreview, hrevision, hrows,
        hrecords⟩ := h.retained _ _ hsaved
      refine ⟨hidentity, p, a', records', hplaced', hbrought', hpreview, hrevision, ?_, ?_⟩
      · exact fun d hd => (hadds.evidence _ _).mpr (.inl (hrows d hd))
      · rw [h.evidence_saved hbrought hnone hfresh, if_neg, hrecords]
        rintro ⟨rfl, rfl⟩
        exact hkey rfl
  case lineage =>
    intro previewId revision clientRef itemId hitem
    rcases hadds.lineage _ _ _ _ hitem with ⟨_, hkept⟩ | ⟨rfl, rfl⟩
    · obtain ⟨saved, hsaved⟩ := h.lineage _ _ _ _ hkept
      exact ⟨saved, hadds.kept hsaved⟩
    · exact ⟨_, (hadds.lookup _).trans (if_pos rfl)⟩
  case rows =>
    intro key d hd
    rcases (hadds.evidence _ _).mp hd with hkept | ⟨given, hgiven, rfl, rfl⟩
    · obtain ⟨hin, r, hr, hkey, hnormal, saved, hsaved⟩ := h.rows _ _ hkept
      exact ⟨hin, r, hr, hkey, hnormal, saved, hadds.kept hsaved⟩
    · obtain ⟨r, hrmem, hr, -⟩ := mem_left hbrought.read hgiven
      obtain ⟨hpreview, hrevision⟩ := hbrought.scope r hrmem
      refine ⟨hmem _ hgiven, r, hr, ?_, ?_, savedPreview a canonical, ?_⟩
      · rw [Brought.text hr, hrevision]
      · rw [hpreview, hplaced.normal]
      · rw [hpreview, hrevision, hadds.lookup, if_pos rfl]
  case records =>
    intro key r hr
    rw [Rows.lookup_eq_some_iff, h.entries hbrought hfresh, List.mem_append,
      ← Rows.lookup_eq_some_iff, List.mem_map] at hr
    rcases hr with hkept | ⟨r', hr', hrow⟩
    · obtain ⟨hkey, d, hd, hread⟩ := h.records _ _ hkept
      exact ⟨hkey, d, (hadds.evidence _ _).mpr (.inl hd), hread⟩
    · obtain ⟨rfl, rfl⟩ := Prod.mk.inj hrow
      obtain ⟨d, hd, hread, -⟩ := mem_right hbrought.read hr'
      refine ⟨rfl, d, (hadds.evidence _ _).mpr (.inr ⟨d, hd, ?_, rfl⟩), hread⟩
      rw [Brought.text hread, (hbrought.scope _ hr').2]

end

/-! ## One save -/

/-- Both computations raise the same, or end in stores that keep the same. -/
def Alike (context : StoreContext) (evidence : List Dict) (x : Py InMemoryPreviewStore)
    (y : Py PreviewTables) : Prop :=
  (∃ e, x = .error e ∧ y = .error e) ∨
    ∃ m s, x = .ok m ∧ y = .ok s ∧ Related context evidence m s

/-- The save repeats a revision that is kept and is not the latest of its Preview. -/
def Resaves (context : StoreContext) (promotion : Option RuntimePromotion) (a : SaveArguments)
    (s : PreviewTables) : Prop :=
  ∃ canonical, acceptPreview context.workspaceIdentity promotion a = .ok canonical ∧
    s.previews.lookup (a.binding.previewId, a.binding.revision) = some (savedPreview a canonical) ∧
    s.previews.latestRevision a.binding.previewId ≠ some a.binding.revision

/-- A revision above the latest one is saved by both stores. -/
theorem Related.saved (h : Related context evidence m s) (hfree : CollisionFree evidence)
    (htakes : Takes context promotion a canonical candidates lineageRows)
    (hmem : ∀ d ∈ a.evidenceRecords, d ∈ evidence)
    (habove : ∀ latest, s.previews.latestRevision a.binding.previewId = some latest →
      latest < a.binding.revision) :
    Alike context evidence (m.savePreviewRevisionImpl promotion a)
      (PreviewStore.savePreviewRevisionImpl context promotion a s) := by
  have hplaced := acceptPreview_placed htakes.accepted
  obtain ⟨records, hrecords, hbrought⟩ := hplaced.brought
  have hnone : s.previews.lookup (a.binding.previewId, a.binding.revision) = none := by
    rw [Option.eq_none_iff_forall_ne_some]
    intro saved hsaved
    obtain ⟨latest, hlatest, hle⟩ := Rows.exists_latestRevision hsaved
    exact absurd (habove latest hlatest) (not_lt.mpr hle)
  have hfresh := h.fresh hfree hplaced hbrought hmem hnone
  obtain ⟨s', hs', hadds⟩ : ∃ s', commitPreview canonical a s = .ok s' ∧
      Adds s s' a canonical :=
    h.commit htakes.rows htakes.rowKeys hbrought.distinct hnone habove hfresh
  -- the latest Preview in memory has a lower revision, if there is one
  have hlower : ∀ saved, m.previews.lookup (context.workspaceIdentity, a.binding.previewId) =
      some saved → saved.revision < a.binding.revision := by
    intro saved hsaved
    rw [h.latest] at hsaved
    obtain ⟨latest, hlatest, hlookup⟩ := latestRecord_kept hsaved
    rw [(h.retained _ _ hlookup).identity.2]
    exact habove latest hlatest
  refine .inr ⟨savedMemory m context.workspaceIdentity a canonical candidates records, s', ?_,
    htakes.database.trans hs', h.adds hplaced hbrought hmem habove hfresh hadds⟩
  rw [htakes.memory hplaced.workspace hrecords h.workspace, if_neg, if_neg]
  · rintro ⟨saved, hsaved, hle⟩
    exact absurd (hlower saved hsaved) (not_lt.mpr hle)
  · intro hsame
    exact absurd (hlower _ hsame) (lt_irrefl _)

/-- A save that does not repeat an older revision is answered alike. -/
theorem Related.save (h : Related context evidence m s) (hfree : CollisionFree evidence)
    (htaken : TakenAlone context promotion a) (hmem : ∀ d ∈ a.evidenceRecords, d ∈ evidence)
    (hregular : ¬Resaves context promotion a s) :
    Alike context evidence (m.savePreviewRevisionImpl promotion a)
      (PreviewStore.savePreviewRevisionImpl context promotion a s) := by
  obtain ⟨canonical, candidates, lineageRows, htakes⟩ := htaken.takes
  have hplaced := acceptPreview_placed htakes.accepted
  obtain ⟨records, hrecords, hbrought⟩ := hplaced.brought
  cases hlatest : s.previews.latestRevision a.binding.previewId with
  | none =>
      refine h.saved hfree htakes hmem fun latest hsome => ?_
      rw [hlatest] at hsome
      cases hsome
  | some latest =>
      rcases lt_or_ge latest a.binding.revision with hlt | hle
      · refine h.saved hfree htakes hmem fun other hsome => ?_
        obtain rfl := Option.some.inj (hlatest.symm.trans hsome)
        exact hlt
      · obtain ⟨⟨kept, hkept⟩, -⟩ := Rows.latestRevision_eq_some.mp hlatest
        have hmemory : m.previews.lookup (context.workspaceIdentity, a.binding.previewId) =
            some kept := by
          rw [h.latest, Rows.latestRecord, hlatest, Option.bind_some, hkept]
        have hrevision : kept.revision = latest := (h.retained _ _ hkept).identity.2
        rw [htakes.memory hplaced.workspace hrecords h.workspace, hmemory]
        have hconflict : ∃ saved ∈ some kept, a.binding.revision ≤ saved.revision :=
          ⟨kept, rfl, hrevision ▸ hle⟩
        by_cases hsame : kept = savedPreview a canonical
        · -- the latest revision is saved again
          have hrev : a.binding.revision = latest := by rw [← hrevision, hsame]; rfl
          rw [if_pos (congrArg some hsame)]
          refine .inr ⟨m, s, rfl, htakes.database_again ?_, h⟩
          rw [hrev, hkept, hsame]
        · rw [if_neg fun heq => hsame (Option.some.inj heq), if_pos hconflict]
          rw [htakes.database]
          refine .inl ⟨_, rfl, ?_⟩
          cases hlookup : s.previews.lookup (a.binding.previewId, a.binding.revision) with
          | none =>
              have hexists : ∃ latest ∈ s.previews.latestRevision a.binding.previewId,
                  a.binding.revision ≤ latest := ⟨latest, hlatest, hle⟩
              simp only [commitPreview, hlookup, raiseIf, hexists, if_true]
              rfl
          | some existing =>
              have hdifferent : existing ≠ savedPreview a canonical := by
                rintro rfl
                refine hregular ⟨canonical, htakes.accepted, hlookup, fun hsome => ?_⟩
                obtain rfl := Option.some.inj (hlatest.symm.trans hsome)
                exact hsame (Option.some.inj (hkept.symm.trans hlookup))
              unfold savedPreview at hdifferent
              simp only [commitPreview, hlookup, raiseIf, hdifferent, ne_eq, not_false_eq_true,
                if_true]
              rfl

/-- A save that repeats an older revision is refused in memory and has no effect on the tables. -/
theorem Related.resave (h : Related context evidence m s) (htaken : TakenAlone context promotion a)
    (hresaves : Resaves context promotion a s) :
    m.savePreviewRevisionImpl promotion a = .error (.valueError "preview_revision_conflict") ∧
      PreviewStore.savePreviewRevisionImpl context promotion a s = .ok s := by
  obtain ⟨canonical, candidates, lineageRows, htakes⟩ := htaken.takes
  have hplaced := acceptPreview_placed htakes.accepted
  obtain ⟨records, hrecords, -⟩ := hplaced.brought
  obtain ⟨canonical', haccepted, hlookup, hnotLatest⟩ := hresaves
  obtain rfl := Except.ok.inj (htakes.accepted.symm.trans haccepted)
  obtain ⟨latest, hlatest, hle⟩ := Rows.exists_latestRevision hlookup
  obtain ⟨⟨kept, hkept⟩, -⟩ := Rows.latestRevision_eq_some.mp hlatest
  have hmemory : m.previews.lookup (context.workspaceIdentity, a.binding.previewId) =
      some kept := by
    rw [h.latest, Rows.latestRecord, hlatest, Option.bind_some, hkept]
  have hrevision : kept.revision = latest := (h.retained _ _ hkept).identity.2
  constructor
  · rw [htakes.memory hplaced.workspace hrecords h.workspace, hmemory, if_neg, if_pos]
    · exact ⟨kept, rfl, hrevision ▸ hle⟩
    · intro hsame
      refine hnotLatest (hlatest.trans (congrArg some ?_))
      rw [← hrevision, Option.some.inj hsame]
      rfl
  · exact htakes.database_again hlookup

end

/-! ## Sequences of calls -/

/-- A call on the workspace of a store. The promotion of a save is as it is when
the call is made, used or not. -/
inductive Call where
  | savePreviewRevision (a : SaveArguments)
  | bindAndSaveRepositoryAwarePreview (promotion : RuntimePromotion) (a : SaveArguments)
  | getPreview (previewId : String)
  | getPreviewRevision (previewId : String) (revision : Option Int)

/-- The call on the store in memory: the store after it, and the Preview that is read. -/
def Call.memory (context : StoreContext) (m : InMemoryPreviewStore) :
    Call → Py (InMemoryPreviewStore × Option SavedPreview)
  | .savePreviewRevision a => do
      let m ← m.savePreviewRevision a
      pure (m, none)
  | .bindAndSaveRepositoryAwarePreview promotion a => do
      let m ← m.bindAndSaveRepositoryAwarePreview promotion a
      pure (m, none)
  | .getPreview previewId => do
      let preview ← m.getPreview context.workspaceIdentity previewId
      pure (m, some preview)
  | .getPreviewRevision previewId revision => do
      let preview ← m.getPreviewRevision context.workspaceIdentity previewId revision
      pure (m, some preview)

/-- The call on the database. -/
def Call.database (context : StoreContext) (s : PreviewTables) :
    Call → Py (PreviewTables × Option SavedPreview)
  | .savePreviewRevision a => do
      let s ← PreviewStore.savePreviewRevision context a s
      pure (s, none)
  | .bindAndSaveRepositoryAwarePreview promotion a => do
      let s ← PreviewStore.bindAndSaveRepositoryAwarePreview context promotion a s
      pure (s, none)
  | .getPreview previewId => do
      let preview ← AuditCommits.getPreview context s context.workspaceIdentity previewId
      pure (s, some preview)
  | .getPreviewRevision previewId revision => do
      let preview ← AuditCommits.getPreviewRevision context s context.workspaceIdentity previewId
        revision
      pure (s, some preview)

/-- The store that a call leaves: the one before it where it raises. -/
def after {store : Type} (before : store) (outcome : Py (store × Option SavedPreview)) : store :=
  match outcome with
  | .ok (store, _) => store
  | .error _ => before

/-- What each of the calls returns or raises, one made after the other. -/
def results {store : Type} (step : store → Call → Py (store × Option SavedPreview)) (s : store) :
    List Call → List (Py (Option SavedPreview))
  | [] => []
  | call :: calls => (step s call).map Prod.snd :: results step (after s (step s call)) calls

/-- The evidence that a call brings. -/
def Call.brings : Call → List Dict
  | .savePreviewRevision a => a.evidenceRecords
  | .bindAndSaveRepositoryAwarePreview _ a => a.evidenceRecords
  | .getPreview _ => []
  | .getPreviewRevision _ _ => []

/-- A call is valid by itself when both stores, empty, take its save. -/
def Call.Valid (context : StoreContext) : Call → Prop
  | .savePreviewRevision a => TakenAlone context none a
  | .bindAndSaveRepositoryAwarePreview promotion a => TakenAlone context (some promotion) a ∧
      checkPromotion context.workspaceIdentity context.trustContext { promotion with used := false }
        a = .ok ()
  | .getPreview _ => True
  | .getPreviewRevision _ _ => True

/-- No save that goes through repeats a revision that is not the latest of its Preview. -/
def Call.Regular (context : StoreContext) (s : PreviewTables) : Call → Prop
  | .savePreviewRevision a => ¬Resaves context none a s
  | .bindAndSaveRepositoryAwarePreview promotion a =>
      promotion.used = true ∨ ¬Resaves context (some promotion) a s
  | .getPreview _ => True
  | .getPreviewRevision _ _ => True

/-- Every call is regular on the tables as it is made. -/
def Regular (context : StoreContext) (s : PreviewTables) : List Call → Prop
  | [] => True
  | call :: calls =>
      call.Regular context s ∧ Regular context (after s (call.database context s)) calls

omit [LawfulSpacing] [SqliteLibrary] in
/-- The store in memory checks a promotion as the database does. -/
theorem Related.bind_memory (h : Related context evidence m s) (promotion : RuntimePromotion)
    (a : SaveArguments) :
    m.bindAndSaveRepositoryAwarePreview promotion a =
      checkPromotion context.workspaceIdentity context.trustContext promotion a >>= fun _ =>
        m.savePreviewRevisionImpl (some promotion) a := by
  have hvalidate : m.validatePromotion promotion a =
      PreviewStore.validatePromotion context.workspaceIdentity promotion a := by
    rw [InMemoryPreviewStore.validatePromotion, h.workspace]
    rfl
  simp only [InMemoryPreviewStore.bindAndSaveRepositoryAwarePreview, checkPromotion, hvalidate,
    h.trust, bind_assoc]

omit [LawfulSpacing] [SqliteLibrary] [CasefoldLibrary] [IntegerLibrary] [DatetimeLibrary] in
/-- A promotion that is checked, but was used, is refused. -/
theorem checkPromotion_used {promotion : RuntimePromotion} {a : SaveArguments}
    (h : checkPromotion context.workspaceIdentity context.trustContext
      { promotion with used := false } a = .ok ()) :
    checkPromotion context.workspaceIdentity context.trustContext promotion a =
      raiseIf (promotion.used = true) "repository_aware_promotion_reused" := by
  have hvalidate : PreviewStore.validatePromotion context.workspaceIdentity
      { promotion with used := false } a =
        PreviewStore.validatePromotion context.workspaceIdentity promotion a := rfl
  simp only [checkPromotion, hvalidate, bind_eq_ok, orRaise_eq_ok, raiseIf_eq_ok, not_not] at h
  obtain ⟨trust, htrust, _, htrusted, _, hvalid, -⟩ := h
  simp only [checkPromotion, htrust, orRaise, htrusted, ne_eq, not_true_eq_false, raiseIf, if_false,
    hvalid, bind, Except.bind]

omit [CasefoldLibrary] [LawfulSpacing] [SqliteLibrary] in
/-- Calls that are answered alike, on stores that keep the same afterwards. -/
theorem answered_alike {x : Py InMemoryPreviewStore} {y : Py PreviewTables}
    (h : Related context evidence m s) (hxy : Alike context evidence x y) :
    (do let m ← x; pure (m, none) : Py (InMemoryPreviewStore × Option SavedPreview)).map Prod.snd =
        (do let s ← y; pure (s, none) : Py (PreviewTables × Option SavedPreview)).map Prod.snd ∧
      Related context evidence (after m (do let m ← x; pure (m, none)))
        (after s (do let s ← y; pure (s, none))) := by
  rcases hxy with ⟨e, rfl, rfl⟩ | ⟨m', s', rfl, rfl, h'⟩
  · exact ⟨rfl, h⟩
  · exact ⟨rfl, h'⟩

omit [CasefoldLibrary] [LawfulSpacing] [SqliteLibrary] in
theorem read_alike {x y : Py SavedPreview} (h : Related context evidence m s) (hxy : x = y) :
    (do let r ← x; pure (m, some r) : Py (InMemoryPreviewStore × Option SavedPreview)).map
          Prod.snd =
        (do let r ← y; pure (s, some r) : Py (PreviewTables × Option SavedPreview)).map Prod.snd ∧
      Related context evidence (after m (do let r ← x; pure (m, some r)))
        (after s (do let r ← y; pure (s, some r))) := by
  subst hxy
  cases x with
  | error e => exact ⟨rfl, h⟩
  | ok r => exact ⟨rfl, h⟩

/-- A regular call is answered alike, and the stores keep the same after it. -/
theorem regular_agree (h : Related context evidence m s) (hfree : CollisionFree evidence)
    {call : Call} (hvalid : call.Valid context) (hmem : ∀ d ∈ call.brings, d ∈ evidence)
    (hregular : call.Regular context s) :
    (call.memory context m).map Prod.snd = (call.database context s).map Prod.snd ∧
      Related context evidence (after m (call.memory context m))
        (after s (call.database context s)) := by
  cases call with
  | savePreviewRevision a => exact answered_alike h (h.save hfree hvalid hmem hregular)
  | bindAndSaveRepositoryAwarePreview promotion a =>
      refine answered_alike h ?_
      rw [h.bind_memory, PreviewStore.bindAndSaveRepositoryAwarePreview,
        checkPromotion_used hvalid.2]
      by_cases hused : promotion.used = true
      · exact .inl ⟨.valueError "repository_aware_promotion_reused", by simp [raiseIf, hused]; rfl,
          by simp [raiseIf, hused]; rfl⟩
      · rw [raiseIf, if_neg hused]
        exact h.save hfree hvalid.1 hmem (hregular.resolve_left hused)
  | getPreview previewId => exact read_alike h (h.getPreview hfree previewId)
  | getPreviewRevision previewId revision =>
      exact read_alike h (h.getPreviewRevision hfree previewId revision)

/-- A save that repeats an older revision is refused in memory alone. -/
theorem irregular_differ (h : Related context evidence m s) {call : Call}
    (hvalid : call.Valid context) (hirregular : ¬call.Regular context s) :
    (call.memory context m).map Prod.snd ≠ (call.database context s).map Prod.snd := by
  cases call with
  | savePreviewRevision a =>
      obtain ⟨hmemory, hdatabase⟩ := h.resave hvalid (not_not.mp hirregular)
      simp only [Call.memory, Call.database, InMemoryPreviewStore.savePreviewRevision,
        PreviewStore.savePreviewRevision, hmemory, hdatabase]
      intro heq
      cases heq
  | bindAndSaveRepositoryAwarePreview promotion a =>
      obtain ⟨hunused, hresaves⟩ := not_or.mp hirregular
      obtain ⟨hmemory, hdatabase⟩ := h.resave hvalid.1 (not_not.mp hresaves)
      have hchecked := checkPromotion_used hvalid.2
      rw [raiseIf, if_neg hunused] at hchecked
      simp only [Call.memory, Call.database, h.bind_memory,
        PreviewStore.bindAndSaveRepositoryAwarePreview, hchecked, bind, Except.bind, hmemory,
        hdatabase]
      intro heq
      cases heq
  | getPreview previewId => exact absurd trivial hirregular
  | getPreviewRevision previewId revision => exact absurd trivial hirregular

/-- From stores that keep the same, the results agree as long as the calls are regular. -/
theorem results_eq_iff (h : Related context evidence m s) (hfree : CollisionFree evidence)
    (calls : List Call) (hvalid : ∀ call ∈ calls, call.Valid context)
    (hmem : ∀ call ∈ calls, ∀ d ∈ call.brings, d ∈ evidence) :
    results (Call.memory context) m calls = results (Call.database context) s calls ↔
      Regular context s calls := by
  induction calls generalizing m s with
  | nil => exact iff_of_true rfl trivial
  | cons call calls ih =>
      obtain ⟨hcall, hcalls⟩ := List.forall_mem_cons.mp hvalid
      obtain ⟨hbrings, hrest⟩ := List.forall_mem_cons.mp hmem
      rw [results, results, List.cons.injEq, Regular]
      by_cases hregular : call.Regular context s
      · obtain ⟨hsame, h'⟩ := regular_agree h hfree hcall hbrings hregular
        rw [ih h' hcalls hrest]
        exact and_congr_left fun _ => iff_of_true hsame hregular
      · exact iff_of_false (fun hall => irregular_differ h hcall hregular hall.1)
          fun hall => hregular hall.1

end

section
variable [DatetimeLibrary] [PythonLibrary] [UnicodeLibrary] [IntegerLibrary] [CasefoldLibrary]
  [LawfulSpacing] [SqliteLibrary]

/-- Started empty, the two stores answer valid calls alike exactly when no save repeats
a revision that is no longer the latest of its Preview. -/
theorem preview_stores_agree_iff (context : StoreContext) (backendScope : String)
    (calls : List Call) (hvalid : ∀ call ∈ calls, call.Valid context)
    (hfree : CollisionFree (calls.flatMap Call.brings)) :
    results (Call.memory context)
        (.opened (some context.workspaceIdentity) context.trustContext backendScope) calls =
        results (Call.database context) .empty calls ↔
      Regular context .empty calls :=
  results_eq_iff (opened_related context backendScope _) hfree calls hvalid fun call hcall _ hd =>
    List.mem_flatMap.mpr ⟨call, hcall, hd⟩

end

/-! ## Saves of an empty plan -/

section
open ConceptualPreviews AuthorityBindings AttestationClaims
variable [DatetimeLibrary] [PythonLibrary] [UnicodeLibrary] [IntegerLibrary] [CasefoldLibrary]
  [SqliteLibrary] [TimestampLibrary] [LawfulTextLibrary] [LawfulDigestLibrary]

/-- What the stores of the samples are opened with. -/
def sampleContext : StoreContext where
  workspaceIdentity := "workspace-1"
  trustContext := none
  auditBackendScope := "scope-1"

theorem sample_database {s : PreviewTables} {revision : Int} (h : 1 ≤ revision)
    (hmax : revision ≤ maxInteger)
    (hprior : ∀ latest, s.previews.latestRevision "preview-1" = some latest → latest < revision) :
    ∃ s', PreviewStore.savePreviewRevision sampleContext (EmptyPlan.sample revision).arguments s =
      .ok s' ∧ (EmptyPlan.sample revision).SavedAs s s' :=
  (EmptyPlan.sample_named h).saved_database rfl hmax hprior

theorem sample_taken {revision : Int} (h : 1 ≤ revision) (hmax : revision ≤ maxInteger) :
    (Call.savePreviewRevision (EmptyPlan.sample revision).arguments).Valid sampleContext := by
  obtain ⟨s, hs, -⟩ := sample_database (s := .empty) h hmax fun latest hlatest => by cases hlatest
  exact ⟨"scope-1", _, s, (EmptyPlan.sample_named h).saved_memory rfl
    fun saved hsaved => (by cases hsaved), hs⟩

omit [SqliteLibrary] in
theorem sample_memory {m : InMemoryPreviewStore} {revision : Int} (h : 1 ≤ revision)
    (hscope : m.workspaceIdentity = some "workspace-1")
    (hprior : ∀ saved, m.previews.lookup ("workspace-1", "preview-1") = some saved →
      saved.revision < revision) :
    ∃ m', m.savePreviewRevision (EmptyPlan.sample revision).arguments = .ok m' ∧
      m'.workspaceIdentity = some "workspace-1" ∧
      m'.previews.lookup ("workspace-1", "preview-1") = some (EmptyPlan.sample revision).saved :=
  ⟨_, (EmptyPlan.sample_named h).saved_memory hscope hprior, hscope,
    (Rows.lookup_put _ _ _ _).trans (if_pos rfl)⟩

/-- The first revision is saved, then the second, then the first again. -/
theorem sample_resaved :
    results (Call.memory sampleContext) (.opened (some "workspace-1") none "scope-1")
        [.savePreviewRevision (EmptyPlan.sample 1).arguments,
          .savePreviewRevision (EmptyPlan.sample 2).arguments,
          .savePreviewRevision (EmptyPlan.sample 1).arguments] =
        [.ok none, .ok none, .error (.valueError "preview_revision_conflict")] ∧
      results (Call.database sampleContext) .empty
        [.savePreviewRevision (EmptyPlan.sample 1).arguments,
          .savePreviewRevision (EmptyPlan.sample 2).arguments,
          .savePreviewRevision (EmptyPlan.sample 1).arguments] =
        [.ok none, .ok none, .ok none] := by
  have h1 := EmptyPlan.sample_named (le_refl 1)
  obtain ⟨canonical, items, rows, htakes⟩ :=
    TakenAlone.takes (sample_taken (le_refl 1) (by decide))
  have haccepted : acceptPreview sampleContext.workspaceIdentity none
      (EmptyPlan.sample 1).arguments = .ok (EmptyPlan.sample 1).canonical := h1.accepted
  rw [Except.ok.inj (htakes.accepted.symm.trans haccepted)] at htakes
  have hsaved : savedPreview (EmptyPlan.sample 1).arguments (EmptyPlan.sample 1).canonical =
      (EmptyPlan.sample 1).saved := by
    simp only [savedPreview, EmptyPlan.saved, EmptyPlan.arguments, EmptyPlan.binding]
  constructor
  · obtain ⟨m1, hm1, hscope1, hlatest1⟩ := sample_memory (le_refl 1)
      (m := .opened (some "workspace-1") none "scope-1") rfl fun saved hsaved => by cases hsaved
    obtain ⟨m2, hm2, hscope2, hlatest2⟩ := sample_memory (by decide : (1 : Int) ≤ 2) hscope1
      fun saved hsome => by
        rw [← Option.some.inj (hlatest1.symm.trans hsome)]
        exact (by decide : (1 : Int) < 2)
    have hm3 : m2.savePreviewRevision (EmptyPlan.sample 1).arguments =
        .error (.valueError "preview_revision_conflict") := by
      refine (htakes.memory (by decide) (rfl : List.mapM EvidenceRecord.fromDict [] = .ok [])
        hscope2).trans ?_
      rw [if_neg, if_pos]
      · exact ⟨_, hlatest2, (by decide : (1 : Int) ≤ 2)⟩
      · intro hsame
        have hrevisions := congrArg SavedPreview.revision
          (Option.some.inj (hlatest2.symm.trans hsame))
        cases hrevisions
    simp only [results, Call.memory, hm1, hm2, hm3, after, bind, Except.bind, pure, Except.pure,
      Except.map]
  · obtain ⟨s1, hs1, hsaved1⟩ := sample_database (s := .empty) (le_refl 1)
      (by decide) fun latest hlatest => by cases hlatest
    have hlatest1 : ∀ latest, s1.previews.latestRevision "preview-1" = some latest →
        latest < 2 := by
      intro latest hlatest
      rw [Rows.latestRevision_insert hsaved1.previews fun m hm => by cases hm] at hlatest
      obtain rfl := Option.some.inj hlatest
      decide
    obtain ⟨s2, hs2, hsaved2⟩ := sample_database (by decide : (1 : Int) ≤ 2) (by decide)
      hlatest1
    have hfirst : s2.previews.lookup ("preview-1", 1) = some (EmptyPlan.sample 1).saved := by
      refine (Rows.lookup_insert hsaved2.previews _).trans ?_
      rw [if_neg fun heq => absurd (Prod.mk.inj heq).2 (by decide)]
      exact (Rows.lookup_insert hsaved1.previews _).trans (if_pos rfl)
    have hs3 : PreviewStore.savePreviewRevision sampleContext (EmptyPlan.sample 1).arguments s2 =
        .ok s2 :=
      htakes.database_again (hfirst.trans (congrArg some hsaved.symm))
    simp only [results, Call.database, hs1, hs2, hs3, after, bind, Except.bind, pure, Except.pure,
      Except.map]

theorem sample_regular : Regular sampleContext .empty
    [.savePreviewRevision (EmptyPlan.sample 1).arguments,
      .savePreviewRevision (EmptyPlan.sample 1).arguments, .getPreview "preview-1"] := by
  obtain ⟨s1, hs1, hsaved1⟩ := sample_database (s := .empty) (le_refl 1)
    (by decide) fun latest hlatest => by cases hlatest
  have hafter : after .empty ((Call.savePreviewRevision (EmptyPlan.sample 1).arguments).database
      sampleContext .empty) = s1 := by
    simp only [Call.database, hs1, after, bind, Except.bind, pure, Except.pure]
  refine ⟨?_, ?_, trivial, trivial⟩
  · rintro ⟨canonical, -, hlookup, -⟩
    cases hlookup
  · rintro ⟨canonical, -, -, hnotLatest⟩
    rw [hafter] at hnotLatest
    refine hnotLatest ((Rows.latestRevision_insert hsaved1.previews (fun m hm => ?_) _).trans
      (if_pos rfl))
    cases hm

end

/-- Of three saves the last, of the first revision again, is refused in memory and
accepted by the database. -/
theorem older_revision_resaved :
    ∃ (_ : DatetimeLibrary) (_ : PythonLibrary) (_ : UnicodeLibrary) (_ : IntegerLibrary)
      (_ : CasefoldLibrary) (_ : SqliteLibrary) (context : StoreContext) (backendScope : String)
      (calls : List Call), (∀ call ∈ calls, call.Valid context) ∧
        results (Call.memory context)
          (.opened (some context.workspaceIdentity) context.trustContext backendScope) calls =
          [.ok none, .ok none, .error (.valueError "preview_revision_conflict")] ∧
        results (Call.database context) .empty calls = [.ok none, .ok none, .ok none] := by
  have hlawful := IssuanceHistories.referenceLibrary_lawful
  have hdigests := AttestationReference.referenceLibrary_digests
  let _ := ReferenceLibrary.referenceLibrary
  let _ := PreviewHistories.referenceDatetimes
  let _ := PreviewHistories.referenceUnicode
  let _ := PreviewHistories.referenceIntegers
  let _ := PreviewHistories.referenceCasefold
  let _ := PreviewHistories.referenceSqlite
  let _ := IssuanceHistories.referenceTimestamps
  refine ⟨_, _, _, _, _, _, sampleContext, "scope-1",
    [.savePreviewRevision (ConceptualPreviews.EmptyPlan.sample 1).arguments,
      .savePreviewRevision (ConceptualPreviews.EmptyPlan.sample 2).arguments,
      .savePreviewRevision (ConceptualPreviews.EmptyPlan.sample 1).arguments], ?_, sample_resaved⟩
  have hfirst := sample_taken (le_refl 1) (by decide)
  have hsecond := sample_taken (by decide : (1 : Int) ≤ 2) (by decide)
  simp only [List.forall_mem_cons, List.not_mem_nil, false_implies, implies_true, and_true]
  exact ⟨hfirst, hsecond, hfirst⟩

/-- A Preview that is saved twice and then read. -/
theorem preview_stores_agree_sample :
    ∃ (_ : DatetimeLibrary) (_ : PythonLibrary) (_ : UnicodeLibrary) (_ : IntegerLibrary)
      (_ : CasefoldLibrary) (_ : SqliteLibrary),
      results (Call.memory sampleContext) (.opened (some "workspace-1") none "scope-1")
          [.savePreviewRevision (ConceptualPreviews.EmptyPlan.sample 1).arguments,
            .savePreviewRevision (ConceptualPreviews.EmptyPlan.sample 1).arguments,
            .getPreview "preview-1"] =
        results (Call.database sampleContext) .empty
          [.savePreviewRevision (ConceptualPreviews.EmptyPlan.sample 1).arguments,
            .savePreviewRevision (ConceptualPreviews.EmptyPlan.sample 1).arguments,
            .getPreview "preview-1"] := by
  have hlawful := IssuanceHistories.referenceLibrary_lawful
  have hdigests := AttestationReference.referenceLibrary_digests
  have hspacing := AttestationReference.referenceLibrary_spacing
  let _ := ReferenceLibrary.referenceLibrary
  let _ := PreviewHistories.referenceDatetimes
  let _ := PreviewHistories.referenceUnicode
  let _ := PreviewHistories.referenceIntegers
  let _ := PreviewHistories.referenceCasefold
  let _ := PreviewHistories.referenceSqlite
  let _ := IssuanceHistories.referenceTimestamps
  have hvalid := sample_taken (le_refl 1) (by decide)
  refine ⟨_, _, _, _, _, _,
    (preview_stores_agree_iff sampleContext "scope-1" _ ?_ ?_).mpr sample_regular⟩
  · simp only [List.forall_mem_cons, List.not_mem_nil, false_implies, implies_true, and_true]
    exact ⟨hvalid, hvalid, trivial⟩
  · intro d hd
    cases hd

end DeliverySystem.PreviewStoreAgreement

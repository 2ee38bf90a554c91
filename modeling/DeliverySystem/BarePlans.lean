import DeliverySystem.ConceptualPreviews
import DeliverySystem.Planning

/-!
# Bare plans

A plan that names nothing is planned by every planner, with or without a driver:
its Preview is sealed at the conceptual level and saved in one transaction.
Stores that planners fill can start with it.
-/
namespace DeliverySystem.BarePlans
open PythonValues CanonicalValues IssueCommands ExecutionContexts AuthorityBindings WriteOperations
open AttestationClaims AttestationArtifacts AuditRecords EvidenceRecords RemoteSnapshots
open SealedPreviews PreviewStore AuditCommits AcceptedPreviews ConceptualPreviews
open FallibleRuns SharedStates Planning
set_option autoImplicit false

/-- What a plan says that says nothing. -/
def semantic : Dict :=
  [("repository_claim", .null), ("existing_issue_claims", .list []), ("work_items", .list []),
    ("planned_relationships", .list [])]

section
variable [PythonLibrary]

def planDigest : String := digest (.dict (sortEntries semantic))

/-- The Preview of a bare plan, with the semantic payload as it is written. -/
def preview (p : EmptyPlan) (payload : Dict) (sealDigest : String) : SealedPreview :=
  { p.preview sealDigest with semanticPayload := payload, planDigest := planDigest }

/-- The entries that are sealed. -/
def entries (p : EmptyPlan) (payload : Dict) : Dict :=
  [("workspace_identity", .str p.workspaceIdentity), ("request_id", .str p.requestId),
    ("preview_id", .str p.previewId), ("revision", .int p.revision),
    ("preview_level", .str "Conceptual"), ("provenance_status", .str "declared_unverified"),
    ("repository_identity", .null), ("remote_authority", .null),
    ("semantic_payload", .dict payload), ("operation_intents", .list []),
    ("plan_digest", .str planDigest), ("operation_set_digest", .str EmptyPlan.operationSetDigest),
    ("remote_snapshot", .null), ("remote_snapshot_digest", .null), ("items", .list []),
    ("evidence_ids", .list []), ("blockers", .list []), ("planner_observations", .list [])]

def sealDigest (p : EmptyPlan) : String :=
  digest (.dict (sortEntries (entries p (sortEntries semantic))))

def sealedEntries (p : EmptyPlan) (payload : Dict) : Dict :=
  entries p payload ++ [("sealed_preview_digest", .str (sealDigest p))]

def canonical (p : EmptyPlan) : Dict := sortEntries (sealedEntries p (sortEntries semantic))

def binding (p : EmptyPlan) : PreviewBinding := { p.binding with planDigest := planDigest }

def saved (p : EmptyPlan) : SavedPreview := { p.saved with canonicalPayload := canonical p }

def arguments (p : EmptyPlan) : SaveArguments :=
  { p.arguments with binding := binding p, canonicalPayload := some (canonical p) }

theorem sealedEntries_keys (p : EmptyPlan) (payload : Dict) :
    (Dict.keys (sealedEntries p payload)).Nodup ∧
      ∀ key ∈ Dict.keys (sealedEntries p payload), Graphic key := by
  simp only [Dict.keys, sealedEntries, entries, List.map_append, List.map_cons, List.map_nil]
  decide

theorem entries_keys (p : EmptyPlan) (payload : Dict) :
    (Dict.keys (entries p payload)).Nodup ∧ ∀ key ∈ Dict.keys (entries p payload), Graphic key := by
  simp only [Dict.keys, entries, List.map_cons, List.map_nil]
  decide

/-- What a mapping of the entries holds, entry by entry. -/
structure Reads (p : EmptyPlan) (payload : Dict) (d : Dict) : Prop where
  workspaceIdentity : d.get "workspace_identity" = .str p.workspaceIdentity
  requestId : d.get "request_id" = .str p.requestId
  previewId : d.get "preview_id" = .str p.previewId
  revision : d.get "revision" = .int p.revision
  previewLevel : d.get "preview_level" = .str "Conceptual"
  provenanceStatus : d.get "provenance_status" = .str "declared_unverified"
  remote : d.get "repository_identity" = .null ∧ d.get "remote_authority" = .null ∧
    d.get "remote_snapshot" = .null ∧ d.get "remote_snapshot_digest" = .null
  semanticPayload : d.get "semantic_payload" = .dict payload
  empty : d.get "operation_intents" = .list [] ∧ d.get "items" = .list [] ∧
    d.get "evidence_ids" = .list [] ∧ d.get "blockers" = .list [] ∧
    d.get "planner_observations" = .list []
  planDigest : d.get "plan_digest" = .str planDigest
  operationSetDigest : d.get "operation_set_digest" = .str EmptyPlan.operationSetDigest
  sealDigest : d.get "sealed_preview_digest" = .str (sealDigest p)
  version : d.get "canonical_version" = .null

theorem sealedEntries_reads (p : EmptyPlan) (payload : Dict) :
    Reads p payload (sealedEntries p payload) := by
  constructor <;> simp [sealedEntries, entries, Dict.get, List.lookup_cons]

theorem Reads.perm {p : EmptyPlan} {payload d : Dict} (h : d.Perm (sealedEntries p payload)) :
    Reads p payload d := by
  have hkeys : (d.map Prod.fst).Nodup :=
    (h.map Prod.fst).nodup_iff.mpr (sealedEntries_keys p payload).1
  have hget : ∀ key, d.get key = Dict.get (sealedEntries p payload) key := fun key => by
    rw [Dict.get, Dict.get, lookup_eq_of_perm h hkeys]
  have hreads := sealedEntries_reads p payload
  constructor <;> simp only [hget]
  exacts [hreads.workspaceIdentity, hreads.requestId, hreads.previewId, hreads.revision,
    hreads.previewLevel, hreads.provenanceStatus, hreads.remote, hreads.semanticPayload,
    hreads.empty, hreads.planDigest, hreads.operationSetDigest, hreads.sealDigest, hreads.version]

theorem canonical_reads (p : EmptyPlan) : Reads p (sortEntries semantic) (canonical p) :=
  .perm (sortEntries_perm _)

theorem hasExactly_of_perm {p : EmptyPlan} {payload d : Dict}
    (h : d.Perm (sealedEntries p payload)) : d.hasExactly sealedPreviewFields = true := by
  rw [Dict.hasExactly_iff]
  intro key
  rw [Dict.keys, (h.map Prod.fst).mem_iff]
  simp only [sealedEntries, entries, List.map_append, List.map_cons, List.map_nil]
  rfl

variable [UnicodeLibrary]

theorem fromDict_of_perm {p : EmptyPlan} [TimestampLibrary] [LawfulTextLibrary]
    (h : p.Named) {payload d : Dict} (hperm : d.Perm (sealedEntries p payload)) :
    SealedPreview.fromDict d = .ok (preview p payload (sealDigest p)) := by
  obtain ⟨hworkspace, hrequest, hpreview, hrevision, hlevel, hstatus,
    ⟨hrepository, hauthority, hsnapshot, hdigest⟩, hsemantic,
    ⟨hintents, hitems, hevidence, hblockers, hobservations⟩, hplan, hoperations, hseal, hversion⟩ :=
      Reads.perm hperm
  have hplanDigest : planDigest ≠ "" := digest_ne_empty _
  have hoperationDigest : EmptyPlan.operationSetDigest ≠ "" := digest_ne_empty _
  have hsealDigest : sealDigest p ≠ "" := digest_ne_empty _
  have hknown : inTexts (.str "Conceptual") previewLevelTexts = .ok true := by decide
  simp [SealedPreview.fromDict, sealedPreviewVersion, hversion, hasExactly_of_perm hperm,
    hworkspace, hrequest, hpreview, hrevision, hlevel, hstatus, hrepository, hauthority, hsnapshot,
    hdigest, hsemantic, hintents, hitems, hevidence, hblockers, hobservations, hplan, hoperations,
    hseal, hknown, Value.nonEmptyText?, h.workspaceIdentity.nonEmpty, h.requestId.nonEmpty,
    h.previewId.nonEmpty, positiveInt?, h.revision, hplanDigest, hoperationDigest, hsealDigest,
    mappingList?, textList?, allTexts, optional?, Value.list?, Value.mapping?, Value.toText,
    checkSnapshotVersion, orRaise, raiseIf, bind, Except.bind, pure, Except.pure, preview,
    EmptyPlan.preview]

variable [TimestampLibrary] [LawfulTextLibrary] [LawfulDigestLibrary]

omit [LawfulDigestLibrary] in
theorem semantic_normalized {payload : Dict} (h : payload.Perm semantic) :
    CanonicalValues.normalize (.dict payload) = .ok (.dict (sortEntries semantic)) := by
  refine normalize_dict_perm h.symm (normalize_entries (by decide) (by decide) ?_)
  simp [semantic, CanonicalValues.normalize, normalizeItems, bind, Except.bind, pure, Except.pure]

/-- The entries are normalized to those with the canonical semantic payload. -/
theorem entries_normalized {p : EmptyPlan} (h : p.Named) {payload : Dict}
    (hpayload : payload.Perm semantic) {rest : Dict}
    (hkeys : (Dict.keys (entries p payload ++ rest)).Nodup ∧
      ∀ key ∈ Dict.keys (entries p payload ++ rest), Graphic key)
    (hrest : ∀ e ∈ rest, CanonicalValues.normalize e.2 = .ok e.2) :
    CanonicalValues.normalize (.dict (entries p payload ++ rest)) =
      .ok (.dict (sortEntries (entries p (sortEntries semantic) ++ rest))) := by
  have hlevel : Settled "Conceptual" := Graphic.settled (by decide) (by decide)
  have hstatus : Settled "declared_unverified" := Graphic.settled (by decide) (by decide)
  have hvalues : List.Forall₂ (fun e e' : String × Value => e'.1 = e.1 ∧
      CanonicalValues.normalize e.2 = .ok e'.2) (entries p payload ++ rest)
      (entries p (sortEntries semantic) ++ rest) := by
    refine List.rel_append ?_ (List.forall₂_same.mpr fun e he => ⟨rfl, hrest e he⟩)
    simp only [entries, List.forall₂_cons, List.forall₂_nil_left_iff, true_and, and_true]
    exact ⟨normalize_text h.workspaceIdentity, normalize_text h.requestId,
      normalize_text h.previewId, rfl, normalize_text hlevel, normalize_text hstatus, rfl, rfl,
      semantic_normalized hpayload, rfl, normalize_text (EmptyPlan.digest_settled _),
      normalize_text (EmptyPlan.digest_settled _), rfl, rfl, rfl, rfl, rfl, rfl⟩
  have hnames : (entries p (sortEntries semantic) ++ rest).map Prod.fst =
      (entries p payload ++ rest).map Prod.fst := by
    simp only [entries, List.map_append, List.map_cons]
  simp only [CanonicalValues.normalize, bind_eq_ok, normalizeEntries_eq_ok, raiseIf_eq_ok,
    pure_eq_ok, not_not]
  have hgraphic : ∀ e ∈ entries p payload ++ rest, e.1 = UnicodeLibrary.nfc e.1 := fun e he =>
    (LawfulTextLibrary.graphic (hkeys.2 e.1 (List.mem_map_of_mem he))).1.symm
  refine ⟨_, ((List.forall₂_and_left _ _).mpr ⟨hgraphic, hvalues⟩).imp ?_, (), hnames ▸ hkeys.1, rfl⟩
  rintro e e' ⟨hname, hsame, hvalue⟩
  exact ⟨hsame.trans hname, hvalue⟩

theorem content_normalized {p : EmptyPlan} (h : p.Named) {payload : Dict}
    (hpayload : payload.Perm semantic) :
    CanonicalValues.normalize (.dict (entries p payload)) =
      .ok (.dict (sortEntries (entries p (sortEntries semantic)))) := by
  have hnormal : CanonicalValues.normalize (.dict (entries p payload ++ [])) =
      .ok (.dict (sortEntries (entries p (sortEntries semantic) ++ []))) :=
    entries_normalized h hpayload (by rw [List.append_nil]; exact entries_keys _ _) nofun
  simpa only [List.append_nil] using hnormal

theorem toDict_preview {p : EmptyPlan} (h : p.Named) {payload : Dict}
    (hpayload : payload.Perm semantic) :
    (preview p payload (sealDigest p)).toDict = .ok (canonical p) := by
  have hnormal := entries_normalized h hpayload (sealedEntries_keys p payload)
    fun e he => List.mem_singleton.mp he ▸ normalize_text (EmptyPlan.digest_settled _)
  simp only [SealedPreview.toDict, bind_eq_ok]
  exact ⟨_, hnormal, rfl⟩

theorem unsealed_digest {p : EmptyPlan} (h : p.Named) :
    canonicalDigest (.dict (unsealed (canonical p))) = .ok (sealDigest p) := by
  have hperm : (unsealed (canonical p)).Perm (entries p (sortEntries semantic)) := by
    have hall := (sortEntries_perm (sealedEntries p (sortEntries semantic))).filter
      (fun entry => decide (entry.1 ≠ "sealed_preview_digest"))
    have hrest : (sealedEntries p (sortEntries semantic)).filter
        (fun entry => decide (entry.1 ≠ "sealed_preview_digest")) =
          entries p (sortEntries semantic) := by
      simp [sealedEntries, entries]
    rw [hrest] at hall
    exact hall
  have hnormal := content_normalized h (sortEntries_perm semantic)
  rw [canonicalDigest, normalize_dict_perm hperm.symm hnormal]
  rfl

/-! ## The save -/

variable [IntegerLibrary] [DatetimeLibrary] [CasefoldLibrary]

theorem validated {p : EmptyPlan} (h : p.Named) :
    validatePreviewPayload (canonical p) (binding p) [] p.workspaceIdentity none =
      .ok (canonical p) := by
  have hreads := canonical_reads p
  obtain ⟨hrepository, hauthority, hsnapshot, hdigest⟩ := hreads.remote
  obtain ⟨hintents, hitems, hevidence, -, -⟩ := hreads.empty
  have hversion : ¬isVersion2 (canonical p) := by
    rw [isVersion2, hreads.version]
    simp
  have hplan : planDigestOf (isVersion2 (canonical p)) (.dict (sortEntries semantic)) =
      .ok planDigest := by
    rw [planDigestOf, if_neg hversion, canonicalDigest,
      semantic_normalized (sortEntries_perm semantic)]
    rfl
  have hoperations : SealedPreviews.operationSetDigest (isVersion2 (canonical p)) [] =
      .ok EmptyPlan.operationSetDigest := by
    have hempty := EmptyPlan.operation_digest p
    simp only [SealedPreviews.operationSetDigest, operationSetDigestPayload, if_neg hversion,
      if_neg p.not_version2] at hempty ⊢
    exact hempty
  have hwellFormed : (binding p).wellFormed := by
    refine ⟨h.requestId.nonEmpty, h.previewId.nonEmpty, h.revision, digest_ne_empty _,
      digest_ne_empty _, ?_, ?_⟩
    · simp [binding, EmptyPlan.binding]
    · simp [binding, EmptyPlan.binding]
  have hinvariants : validateSealedPreviewInvariants (canonical p) p.workspaceIdentity none =
      .ok () := by
    have hknown : inTexts (.str "Conceptual") previewLevelTexts = .ok true := by decide
    simp [validateSealedPreviewInvariants, hreads.provenanceStatus, hreads.workspaceIdentity,
      hreads.previewLevel, hrepository, hauthority, hsnapshot, hdigest, hknown, raiseIf, bind,
      Except.bind]
  have hendpoints : validateV2EndpointAuthority (canonical p) = .ok () := if_neg hversion
  have hremote : checkRemoteSnapshot (canonical p) none = .ok () := by
    rw [checkRemoteSnapshot, hsnapshot]
  have hnamed : getOr (canonical p) "evidence_ids" (.list []) = .list [] :=
    getOr_of_get hevidence Value.noConfusion _
  have hrecords : checkEvidenceRecords (canonical p) (binding p) [] p.workspaceIdentity none =
      .ok () := by
    simp [checkEvidenceRecords, hnamed, Value.iterate, raiseIf, bind, Except.bind]
  have hbinding : (binding p).requestId = p.requestId ∧ (binding p).previewId = p.previewId ∧
      (binding p).revision = p.revision ∧ (binding p).planDigest = planDigest ∧
      (binding p).operationSetDigest = EmptyPlan.operationSetDigest ∧
      (binding p).remoteSnapshotDigest = none ∧ (binding p).repositoryIdentity = none :=
    ⟨rfl, rfl, rfl, rfl, rfl, rfl, rfl⟩
  have hread := fromDict_of_perm h (d := canonical p)
    (sortEntries_perm (sealedEntries p (sortEntries semantic)))
  simp [validatePreviewPayload, hwellFormed, hread,
    toDict_preview h (sortEntries_perm semantic), hreads.requestId, hreads.previewId,
    hreads.revision, hreads.workspaceIdentity, hinvariants, hendpoints, hreads.semanticPayload,
    hintents, hplan, hoperations, hreads.planDigest, hreads.operationSetDigest, hdigest,
    hrepository, hremote, hrecords, unsealed_digest h, hreads.sealDigest, hbinding, Value.mapping?,
    Value.list?, Value.textOrNone, orRaise, raiseIf, bind, Except.bind, pure, Except.pure]

theorem accepted {p : EmptyPlan} (h : p.Named) :
    acceptPreview p.workspaceIdentity none (arguments p) = .ok (canonical p) := by
  have hreads := canonical_reads p
  have hlevel : runtimePreviewLevel (canonical p) = .ok .conceptual := by
    rw [runtimePreviewLevel, hreads.remote.2.2.1]
  have hvalidated := validated h
  simp [acceptPreview, arguments, EmptyPlan.arguments, hvalidated, hlevel, hreads.previewLevel,
    hreads.empty.2.1, PreviewLevel.text, Value.dicts, orRaise, raiseIf, bind, Except.bind, pure,
    Except.pure]

variable [SqliteLibrary]

/-- The tables after the save of a bare plan. -/
structure SavedAs (p : EmptyPlan) (s s' : PreviewTables) : Prop where
  previews : s.previews.insert (p.previewId, p.revision) (saved p) = some s'.previews
  lineage : s'.lineage = s.lineage
  evidence : s'.evidence = s.evidence

/-- The database takes the Preview when its revision is past the latest one of its id. -/
theorem saved_database {p : EmptyPlan} (h : p.Named) {context : StoreContext} {s : PreviewTables}
    (hscope : context.workspaceIdentity = p.workspaceIdentity) (hmax : p.revision ≤ maxInteger)
    (hprior : ∀ latest, s.previews.latestRevision p.previewId = some latest →
      latest < p.revision) :
    ∃ s', savePreviewRevision context (arguments p) s = .ok s' ∧ SavedAs p s s' := by
  have hfree : s.previews.lookup (p.previewId, p.revision) = none := by
    by_contra hsome
    obtain ⟨saved, hsaved⟩ := Option.ne_none_iff_exists'.mp hsome
    obtain ⟨latest, hlatest, hle⟩ := KeyedRows.Rows.exists_latestRevision hsaved
    exact absurd (hprior latest hlatest) (not_lt.mpr hle)
  have hlater : ¬∃ latest, s.previews.latestRevision p.previewId = some latest ∧
      p.revision ≤ latest := by
    rintro ⟨latest, hlatest, hle⟩
    exact absurd (hprior latest hlatest) (not_lt.mpr hle)
  obtain ⟨previews, hinsert⟩ := KeyedRows.Rows.insert_isSome (saved p) hfree
  refine ⟨{ s with previews, audits := s.audits.supersede (staleEvent (binding p)) }, ?_,
    ⟨hinsert, rfl, rfl⟩⟩
  have haccepted := accepted h
  obtain ⟨hworkspace, hitems, hrecords, hbinding⟩ :
      (arguments p).workspaceIdentity = some p.workspaceIdentity ∧ (arguments p).items = [] ∧
        (arguments p).evidenceRecords = [] ∧ (arguments p).binding = binding p :=
    ⟨rfl, rfl, rfl, rfl⟩
  have hpayload : ({ requestId := p.requestId, previewId := p.previewId, revision := p.revision
                     canonicalPayload := canonical p } : SavedPreview) = saved p := by
    simp only [saved, EmptyPlan.saved]
  have hkey : (binding p).requestId = p.requestId ∧ (binding p).previewId = p.previewId ∧
      (binding p).revision = p.revision := ⟨rfl, rfl, rfl⟩
  have hdistinct : distinctItems [] = .ok true := rfl
  have hlineage : s.lineage.insertAll [] = some s.lineage := rfl
  have hevidence : s.evidence.insertAll [] = some s.evidence := rfl
  simp [PreviewStore.savePreviewRevision, PreviewStore.savePreviewRevisionImpl, hworkspace,
    hitems, hrecords, hbinding, hscope, haccepted, hpayload, hkey, hdistinct, hlineage, hevidence,
    commitPreview, hfree, hlater, hinsert, not_lt.mpr hmax, orRaise, raiseIf, bind, Except.bind,
    pure, Except.pure]

/-! ## The call -/

variable {planner : RuntimePlanner} {tokens : Tokens}

/-- What identifies the Preview of a call. -/
def planOf (planner : RuntimePlanner) (tokens : Tokens) : EmptyPlan where
  workspaceIdentity := planner.workspace
  requestId := "request-" ++ tokens.request
  previewId := "preview-" ++ tokens.preview
  revision := 1

def bareDraft : Draft where
  items := []
  workItems := []
  semantic := semantic
  operationIntents := []
  planDigest := planDigest
  operationSetDigest := EmptyPlan.operationSetDigest
  repositoryName := none

omit [LawfulDigestLibrary] [IntegerLibrary] [DatetimeLibrary] [CasefoldLibrary] [SqliteLibrary] in
theorem draft_nil : draft [] = .ok bareDraft := by
  have hplan : canonicalDigest (.dict semantic) = .ok planDigest := by
    rw [canonicalDigest, semantic_normalized (List.Perm.refl _)]
    rfl
  have hoperations : SealedPreviews.operationSetDigest False [] =
      .ok EmptyPlan.operationSetDigest := by
    have hempty := EmptyPlan.operation_digest ⟨"", "", "", 1⟩
    simp only [SealedPreviews.operationSetDigest, operationSetDigestPayload,
      if_neg (EmptyPlan.not_version2 _), if_neg not_false] at hempty ⊢
    exact hempty
  have hsemantic : ([("repository_claim", .null), ("existing_issue_claims", .list []),
      ("work_items", Value.dicts []), ("planned_relationships", .list [])] : Dict) = semantic := rfl
  have hlisted : ∀ key, listed [] key = .ok [] := fun _ => rfl
  have hdistinct : distinctItems [] = .ok true := rfl
  simp [draft, hlisted, hdistinct, hsemantic, hplan, hoperations, claimedRepository, raiseIf,
    orRaise, bareDraft, bind, Except.bind, pure, Except.pure, Dict.get, Value.mapping?]

omit [UnicodeLibrary] [TimestampLibrary] [LawfulTextLibrary] [LawfulDigestLibrary]
  [IntegerLibrary] [DatetimeLibrary] [CasefoldLibrary] [SqliteLibrary] in
theorem bare_evaluated : ∃ evaluation, operationEvaluation bareDraft [] = .ok evaluation :=
  ⟨_, rfl⟩

/-- The entries as a planner writes them. -/
def content (p : EmptyPlan) : Dict :=
  [("workspace_identity", .str p.workspaceIdentity), ("request_id", .str p.requestId),
    ("preview_id", .str p.previewId), ("revision", .int p.revision),
    ("preview_level", .str "Conceptual"), ("provenance_status", .str "declared_unverified"),
    ("semantic_payload", .dict semantic), ("operation_intents", .list []),
    ("plan_digest", .str planDigest), ("operation_set_digest", .str EmptyPlan.operationSetDigest),
    ("repository_identity", .null), ("remote_authority", .null), ("remote_snapshot", .null),
    ("remote_snapshot_digest", .null), ("blockers", .list []), ("planner_observations", .list []),
    ("items", .list [])]

omit [PythonLibrary] [UnicodeLibrary] [TimestampLibrary] [LawfulTextLibrary]
  [LawfulDigestLibrary] [IntegerLibrary] [DatetimeLibrary] [CasefoldLibrary] [SqliteLibrary] in
theorem perm_swapped {α : Type} (a b c d e f : List α) :
    (a ++ ((b ++ c) ++ (d ++ (e ++ f)))).Perm (a ++ ((c ++ b) ++ (d ++ (f ++ e)))) :=
  (List.perm_append_comm.append (List.perm_append_comm.append_left d)).append_left a

omit [UnicodeLibrary] [TimestampLibrary] [LawfulTextLibrary] [LawfulDigestLibrary]
  [IntegerLibrary] [DatetimeLibrary] [CasefoldLibrary] [SqliteLibrary] in
theorem content_perm (p : EmptyPlan) :
    (content p ++ [("evidence_ids", Value.list [])]).Perm (entries p semantic) :=
  perm_swapped [_, _, _, _, _, _] [_, _, _, _] [_, _] [_, _] [_, _] [_, _]

omit [IntegerLibrary] [DatetimeLibrary] [CasefoldLibrary] [SqliteLibrary] in
theorem content_digest {p : EmptyPlan} (h : p.Named) :
    canonicalDigest (.dict (content p ++ [("evidence_ids", Value.list [])])) =
      .ok (sealDigest p) := by
  have hnormal := content_normalized h (List.Perm.refl semantic)
  rw [canonicalDigest, normalize_dict_perm (content_perm p).symm hnormal]
  rfl

omit [TimestampLibrary] [LawfulTextLibrary] [LawfulDigestLibrary] [IntegerLibrary]
  [DatetimeLibrary] [CasefoldLibrary] [SqliteLibrary] in
/-- A part of what can be normalized can be. -/
theorem digest_of_append {d rest : Dict} {value : String}
    (h : canonicalDigest (.dict (d ++ rest)) = .ok value) :
    ∃ value, canonicalDigest (.dict d) = .ok value := by
  simp only [canonicalDigest, CanonicalValues.normalize, bind_eq_ok, normalizeEntries_eq_ok,
    raiseIf_eq_ok, pure_eq_ok, not_not] at h ⊢
  obtain ⟨_, ⟨made, hmade, _, hnodup, -⟩, -⟩ := h
  have hfirst := List.forall₂_take d.length hmade
  rw [List.take_left] at hfirst
  exact ⟨_, _, ⟨_, hfirst, (), hnodup.sublist ((List.take_sublist _ _).map _), rfl⟩, rfl⟩

omit [IntegerLibrary] [CasefoldLibrary] [SqliteLibrary] in
/-- What a planner seals of a bare plan. -/
theorem candidate_bare (h : (planOf planner tokens).Named) :
    planner.candidate (lifecycle tokens none bareDraft ⟨none, [], none⟩) bareDraft
      ⟨none, [], none⟩ [] =
        .ok ⟨canonical (planOf planner tokens), arguments (planOf planner tokens), none⟩ := by
  obtain ⟨evaluation, hevaluation⟩ := bare_evaluated
  have hseal := content_digest h
  obtain ⟨_, hcontent⟩ := digest_of_append hseal
  have hperm : (content (planOf planner tokens) ++ [("evidence_ids", Value.list [])] ++
      [("sealed_preview_digest", Value.str (sealDigest (planOf planner tokens)))]).Perm
        (sealedEntries (planOf planner tokens) semantic) := (content_perm _).append_right _
  have hread := fromDict_of_perm h hperm
  simp only [RuntimePlanner.candidate, bind_eq_ok, pure_eq_ok]
  exact ⟨evaluation, hevaluation, none, rfl, none, rfl, _, hcontent, [], rfl, _, hseal, _, hread, _,
    toDict_preview h (List.Perm.refl semantic), rfl⟩

omit [TimestampLibrary] [LawfulTextLibrary] [LawfulDigestLibrary] in
/-- A save that goes through is the one transaction of what follows. -/
theorem finish_steps {l : Lifecycle} {c : Candidate} {w w' : Shared PreviewTables}
    (h : (planner.save c).start w = (.ok (), w')) :
    ((planner.finish l c).start w).2.steps = w'.steps := by
  have hattempt : (planner.save c).attempt.start w = (.ok (.ok ()), w') := by
    rw [Run.attempt, start_tryCatch, start_bind, h]
    rfl
  rw [RuntimePlanner.finish, start_bind, hattempt]
  dsimp only
  rw [start_bind]
  cases planner.auditContextDigest c.canonical c.arguments.evidenceRecords with
  | ok _ | error _ => rfl

/-- A planner saves a bare plan in one transaction. -/
theorem bare_planned (h : (planOf planner tokens).Named)
    {s : PreviewTables}
    (hnew : s.previews.latestRevision (planOf planner tokens).previewId = none) :
    ∃ s', SavedAs (planOf planner tokens) s s' ∧
      ((planner.preview tokens [] none).start ⟨s, [], []⟩).2.steps = [(s, s')] := by
  obtain ⟨s', hsave, hsaved⟩ : ∃ s', savePreviewRevision planner.context
      (arguments (planOf planner tokens)) s = .ok s' ∧ SavedAs (planOf planner tokens) s s' :=
    saved_database h rfl (by decide : (1 : Int) ≤ maxInteger) fun latest hlatest => by
      rw [hnew] at hlatest
      cases hlatest
  refine ⟨s', hsaved, ?_⟩
  have hcandidate := candidate_bare h
  have hpreview : planner.preview tokens [] none =
      planner.finish (lifecycle tokens none bareDraft ⟨none, [], none⟩)
        ⟨canonical (planOf planner tokens), arguments (planOf planner tokens), none⟩ := by
    rw [RuntimePlanner.preview, draft_nil]
    simp only [Run.ofExcept, pure_bind]
    change (do
      let c ← Run.ofExcept (planner.candidate (lifecycle tokens none bareDraft ⟨none, [], none⟩)
        bareDraft ⟨none, [], none⟩ [])
      planner.finish (lifecycle tokens none bareDraft ⟨none, [], none⟩) c) = _
    rw [hcandidate]
    rfl
  have hrun : (planner.save ⟨canonical (planOf planner tokens),
      arguments (planOf planner tokens), none⟩).start ⟨s, [], []⟩ = (.ok (), ⟨s', [], [(s, s')]⟩) := by
    have hwork : ((), ·) <$> savePreviewRevision planner.context
        (arguments (planOf planner tokens)) s = .ok ((), s') := by
      rw [hsave]
      rfl
    exact start_transaction (w := ⟨s, [], []⟩) hwork
  rw [hpreview]
  exact finish_steps hrun

end
end DeliverySystem.BarePlans

import DeliverySystem.AttestationArtifacts
import DeliverySystem.AcceptedPreviews
import DeliverySystem.MemoryPreviewStore

/-!
# Conceptual Previews of empty plans

A plan without items needs no evidence and no remote: its Preview is sealed at
the conceptual level, a save accepts it, and an audit of any result passes the
commit boundary with the authority that is minted for it. With such Previews
and audits a store can be driven through any history.
-/
namespace DeliverySystem.ConceptualPreviews
open PythonValues CanonicalValues IssueCommands ExecutionContexts AuthorityBindings
open WriteOperations AttestationClaims AttestationArtifacts AuditRecords EvidenceRecords RemoteSnapshots
open SealedPreviews PreviewStore AuditCommits AcceptedPreviews MemoryPreviewStore
set_option autoImplicit false

/-- What identifies the Preview of an empty plan. -/
structure EmptyPlan where
  workspaceIdentity : String
  requestId : String
  previewId : String
  revision : Int
deriving Repr, DecidableEq

namespace EmptyPlan

section
variable [PythonLibrary]

def planDigest : String := digest (.dict [])

def operationSetDigest : String := digest (.dict [("operation_intents", .list [])])

/-- The Preview under a seal. -/
def preview (p : EmptyPlan) (sealDigest : String) : SealedPreview where
  workspaceIdentity := p.workspaceIdentity
  requestId := p.requestId
  previewId := p.previewId
  revision := p.revision
  previewLevel := "Conceptual"
  provenanceStatus := "declared_unverified"
  repositoryIdentity := none
  remoteAuthority := none
  semanticPayload := []
  operationIntents := []
  planDigest := planDigest
  operationSetDigest := operationSetDigest
  remoteSnapshot := none
  remoteSnapshotDigest := none
  items := []
  evidenceIds := []
  blockers := []
  plannerObservations := []
  sealedPreviewDigest := sealDigest
  endpointBindings := none

/-- The entries that are sealed. -/
def entries (p : EmptyPlan) : Dict :=
  [("workspace_identity", .str p.workspaceIdentity), ("request_id", .str p.requestId),
    ("preview_id", .str p.previewId), ("revision", .int p.revision),
    ("preview_level", .str "Conceptual"), ("provenance_status", .str "declared_unverified"),
    ("repository_identity", .null), ("remote_authority", .null), ("semantic_payload", .dict []),
    ("operation_intents", .list []), ("plan_digest", .str planDigest),
    ("operation_set_digest", .str operationSetDigest), ("remote_snapshot", .null),
    ("remote_snapshot_digest", .null), ("items", .list []), ("evidence_ids", .list []),
    ("blockers", .list []), ("planner_observations", .list [])]

def sealDigest (p : EmptyPlan) : String := digest (.dict (sortEntries p.entries))

def canonical (p : EmptyPlan) : Dict :=
  sortEntries (p.entries ++ [("sealed_preview_digest", .str p.sealDigest)])

def binding (p : EmptyPlan) : PreviewBinding where
  requestId := p.requestId
  previewId := p.previewId
  revision := p.revision
  planDigest := planDigest
  remoteSnapshotDigest := none
  operationSetDigest := operationSetDigest
  repositoryIdentity := none

def saved (p : EmptyPlan) : SavedPreview where
  requestId := p.requestId
  previewId := p.previewId
  revision := p.revision
  canonicalPayload := p.canonical

/-- The save of the Preview. -/
def arguments (p : EmptyPlan) : SaveArguments where
  binding := p.binding
  items := []
  workspaceIdentity := some p.workspaceIdentity
  canonicalPayload := some p.canonical
  previewLevel := none
  evidenceRecords := []

theorem preview_entries (p : EmptyPlan) (sealDigest : String) :
    (p.preview sealDigest).entries = p.entries ++ [("sealed_preview_digest", .str sealDigest)] := rfl

theorem entries_keys (p : EmptyPlan) (sealDigest : String) :
    (Dict.keys (p.entries ++ [("sealed_preview_digest", .str sealDigest)])).Nodup ∧
      ∀ key ∈ Dict.keys (p.entries ++ [("sealed_preview_digest", .str sealDigest)]), Graphic key := by
  simp only [Dict.keys, entries, List.map_append, List.map_cons, List.map_nil]
  decide

theorem canonical_get (p : EmptyPlan) (key : String) :
    Dict.get p.canonical key =
      Dict.get (p.entries ++ [("sealed_preview_digest", .str p.sealDigest)]) key :=
  sortEntries_get (p.entries_keys p.sealDigest).1 key

variable [UnicodeLibrary] [TimestampLibrary] [LawfulTextLibrary] [LawfulDigestLibrary]

/-- The texts that a plan is named by are canonical, and its revision is one. -/
structure Named (p : EmptyPlan) : Prop where
  workspaceIdentity : Settled p.workspaceIdentity
  requestId : Settled p.requestId
  previewId : Settled p.previewId
  revision : 1 ≤ p.revision

theorem digest_settled (value : Value) : Settled (digest value) := by
  obtain ⟨hgraphic, -⟩ := hexPattern_graphic (by decide : Graphic "")
    (LawfulDigestLibrary.hexdigest value)
  have htag : Graphic "sha256:" := by decide
  refine Graphic.settled (fun c hc => ?_) (digest_ne_empty value)
  rw [digest, String.toList_append, List.mem_append] at hc
  exact hc.elim (htag c) (hgraphic c)

theorem Named.values {p : EmptyPlan} (h : p.Named) :
    ∀ e ∈ p.entries, CanonicalValues.normalize e.2 = .ok e.2 := by
  have htext : ∀ s, Settled s → CanonicalValues.normalize (.str s) = .ok (.str s) :=
    fun s hs => normalize_text hs
  have hlevel : Settled "Conceptual" := Graphic.settled (by decide) (by decide)
  have hstatus : Settled "declared_unverified" := Graphic.settled (by decide) (by decide)
  simp only [entries, List.forall_mem_cons, List.not_mem_nil, false_implies, implies_true, and_true]
  refine ⟨htext _ h.workspaceIdentity, htext _ h.requestId, htext _ h.previewId, rfl,
    htext _ hlevel, htext _ hstatus, rfl, rfl, rfl, rfl, htext _ (digest_settled _),
    htext _ (digest_settled _), rfl, rfl, rfl, rfl, rfl, rfl⟩

theorem Named.sealed {p : EmptyPlan} (h : p.Named) :
    CanonicalValues.normalize (.dict p.entries) = .ok (.dict (sortEntries p.entries)) := by
  obtain ⟨hdistinct, hgraphic⟩ := p.entries_keys ""
  simp only [Dict.keys, List.map_append, List.nodup_append, List.mem_append] at hdistinct hgraphic
  exact normalize_entries (fun key hkey => hgraphic key (.inl hkey)) hdistinct.1 h.values

theorem Named.toDict {p : EmptyPlan} (h : p.Named) :
    (p.preview p.sealDigest).toDict = .ok p.canonical := by
  obtain ⟨hdistinct, hgraphic⟩ := p.entries_keys p.sealDigest
  have hvalues : ∀ e ∈ p.entries ++ [("sealed_preview_digest", Value.str p.sealDigest)],
      CanonicalValues.normalize e.2 = .ok e.2 := by
    intro e he
    rcases List.mem_append.mp he with he | he
    · exact h.values e he
    · rw [List.mem_singleton.mp he]
      exact normalize_text (digest_settled _)
  simp only [SealedPreview.toDict, preview_entries, bind_eq_ok]
  exact ⟨_, normalize_entries hgraphic hdistinct hvalues, rfl⟩

omit [UnicodeLibrary] [TimestampLibrary] [LawfulTextLibrary] [LawfulDigestLibrary] in
/-- What the canonical mapping holds, entry by entry. -/
structure Reads (p : EmptyPlan) (d : Dict) : Prop where
  workspaceIdentity : d.get "workspace_identity" = .str p.workspaceIdentity
  requestId : d.get "request_id" = .str p.requestId
  previewId : d.get "preview_id" = .str p.previewId
  revision : d.get "revision" = .int p.revision
  previewLevel : d.get "preview_level" = .str "Conceptual"
  provenanceStatus : d.get "provenance_status" = .str "declared_unverified"
  remote : d.get "repository_identity" = .null ∧ d.get "remote_authority" = .null ∧
    d.get "remote_snapshot" = .null ∧ d.get "remote_snapshot_digest" = .null
  semanticPayload : d.get "semantic_payload" = .dict []
  empty : d.get "operation_intents" = .list [] ∧ d.get "items" = .list [] ∧
    d.get "evidence_ids" = .list [] ∧ d.get "blockers" = .list [] ∧
    d.get "planner_observations" = .list []
  planDigest : d.get "plan_digest" = .str EmptyPlan.planDigest
  operationSetDigest : d.get "operation_set_digest" = .str EmptyPlan.operationSetDigest
  sealDigest : d.get "sealed_preview_digest" = .str p.sealDigest
  version : d.get "canonical_version" = .null

omit [UnicodeLibrary] [TimestampLibrary] [LawfulTextLibrary] [LawfulDigestLibrary] in
theorem canonical_reads (p : EmptyPlan) : p.Reads p.canonical := by
  constructor <;> simp only [canonical_get] <;> simp [entries, Dict.get, List.lookup_cons]

omit [UnicodeLibrary] [TimestampLibrary] [LawfulTextLibrary] [LawfulDigestLibrary] in
theorem canonical_fields (p : EmptyPlan) : p.canonical.hasExactly sealedPreviewFields = true :=
  sortEntries_hasExactly fun key => by
    simp only [Dict.keys, entries, List.map_append, List.map_cons, List.map_nil]
    rfl

omit [TimestampLibrary] [LawfulTextLibrary] [LawfulDigestLibrary] in
theorem Named.fromDict {p : EmptyPlan} (h : p.Named) :
    SealedPreview.fromDict p.canonical = .ok (p.preview p.sealDigest) := by
  obtain ⟨hworkspace, hrequest, hpreview, hrevision, hlevel, hstatus,
    ⟨hrepository, hauthority, hsnapshot, hdigest⟩, hsemantic,
    ⟨hintents, hitems, hevidence, hblockers, hobservations⟩, hplan, hoperations, hseal, hversion⟩ :=
      p.canonical_reads
  have hplanDigest : planDigest ≠ "" := digest_ne_empty _
  have hoperationDigest : operationSetDigest ≠ "" := digest_ne_empty _
  have hsealDigest : p.sealDigest ≠ "" := digest_ne_empty _
  have hknown : inTexts (.str "Conceptual") previewLevelTexts = .ok true := by decide
  simp [SealedPreview.fromDict, sealedPreviewVersion, hversion, p.canonical_fields, hworkspace,
    hrequest, hpreview, hrevision, hlevel, hstatus, hrepository, hauthority, hsnapshot, hdigest,
    hsemantic, hintents, hitems, hevidence, hblockers, hobservations, hplan, hoperations, hseal,
    hknown, Value.nonEmptyText?, h.workspaceIdentity.nonEmpty, h.requestId.nonEmpty,
    h.previewId.nonEmpty, positiveInt?, h.revision, hplanDigest, hoperationDigest, hsealDigest,
    mappingList?, textList?, allTexts, optional?, Value.list?, Value.mapping?, Value.toText,
    checkSnapshotVersion, orRaise, raiseIf, bind, Except.bind, pure, Except.pure, preview]

/-! ## The save -/

omit [UnicodeLibrary] [TimestampLibrary] [LawfulTextLibrary] [LawfulDigestLibrary] in
theorem not_version2 (p : EmptyPlan) : ¬isVersion2 p.canonical := by
  rw [isVersion2, p.canonical_reads.version]
  simp

omit [TimestampLibrary] [LawfulTextLibrary] [LawfulDigestLibrary] in
theorem plan_digest (p : EmptyPlan) :
    planDigestOf (isVersion2 p.canonical) (.dict []) = .ok planDigest := by
  rw [planDigestOf, if_neg p.not_version2]
  rfl

omit [LawfulDigestLibrary] in
theorem operation_digest (p : EmptyPlan) :
    SealedPreviews.operationSetDigest (isVersion2 p.canonical) [] = .ok operationSetDigest := by
  have hnormal : CanonicalValues.normalize (.dict [("operation_intents", .list [])]) =
      .ok (.dict (sortEntries [("operation_intents", .list [])])) :=
    normalize_entries (by decide) (by decide) (by
      simp [CanonicalValues.normalize, normalizeItems, bind, Except.bind, pure, Except.pure])
  have hsorted : sortEntries [("operation_intents", Value.list [])] =
      [("operation_intents", .list [])] := rfl
  rw [hsorted] at hnormal
  simp only [SealedPreviews.operationSetDigest, operationSetDigestPayload, if_neg p.not_version2]
  simp [orRaise, Value.dicts, canonicalDigest, hnormal, bind, Except.bind, pure, Except.pure,
    operationSetDigest]

theorem Named.sealDigest {p : EmptyPlan} (h : p.Named) :
    canonicalDigest (.dict (unsealed p.canonical)) = .ok p.sealDigest := by
  have hperm : (unsealed p.canonical).Perm p.entries := by
    have hall := (sortEntries_perm
      (p.entries ++ [("sealed_preview_digest", .str p.sealDigest)])).filter
        (fun entry => decide (entry.1 ≠ "sealed_preview_digest"))
    have hrest : (p.entries ++ [("sealed_preview_digest", Value.str p.sealDigest)]).filter
        (fun entry => decide (entry.1 ≠ "sealed_preview_digest")) = p.entries := by
      simp [entries]
    rw [hrest] at hall
    exact hall
  rw [canonicalDigest, normalize_dict_perm hperm.symm h.sealed]
  rfl

variable [IntegerLibrary] [DatetimeLibrary] [CasefoldLibrary]

theorem Named.validated {p : EmptyPlan} (h : p.Named) :
    validatePreviewPayload p.canonical p.binding [] p.workspaceIdentity none =
      .ok p.canonical := by
  have hreads := p.canonical_reads
  obtain ⟨hrepository, hauthority, hsnapshot, hdigest⟩ := hreads.remote
  obtain ⟨hintents, hitems, hevidence, -, -⟩ := hreads.empty
  have hwellFormed : p.binding.wellFormed := by
    refine ⟨h.requestId.nonEmpty, h.previewId.nonEmpty, h.revision, digest_ne_empty _,
      digest_ne_empty _, ?_, ?_⟩
    · simp [binding]
    · simp [binding]
  have hinvariants : validateSealedPreviewInvariants p.canonical p.workspaceIdentity none =
      .ok () := by
    have hknown : inTexts (.str "Conceptual") previewLevelTexts = .ok true := by decide
    simp [validateSealedPreviewInvariants, hreads.provenanceStatus, hreads.workspaceIdentity,
      hreads.previewLevel, hrepository, hauthority, hsnapshot, hdigest, hknown, raiseIf, bind,
      Except.bind]
  have hendpoints : validateV2EndpointAuthority p.canonical = .ok () := if_neg p.not_version2
  have hremote : checkRemoteSnapshot p.canonical none = .ok () := by
    rw [checkRemoteSnapshot, hsnapshot]
  have hnamed : getOr p.canonical "evidence_ids" (.list []) = .list [] :=
    getOr_of_get hevidence Value.noConfusion _
  have hrecords : checkEvidenceRecords p.canonical p.binding [] p.workspaceIdentity none =
      .ok () := by
    simp [checkEvidenceRecords, hnamed, Value.iterate, raiseIf, bind, Except.bind]
  have hbinding : p.binding.requestId = p.requestId ∧ p.binding.previewId = p.previewId ∧
      p.binding.revision = p.revision ∧ p.binding.planDigest = planDigest ∧
      p.binding.operationSetDigest = operationSetDigest ∧
      p.binding.remoteSnapshotDigest = none ∧ p.binding.repositoryIdentity = none :=
    ⟨rfl, rfl, rfl, rfl, rfl, rfl, rfl⟩
  simp [validatePreviewPayload, hwellFormed, h.fromDict, h.toDict, hreads.requestId,
    hreads.previewId, hreads.revision, hreads.workspaceIdentity, hinvariants, hendpoints,
    hreads.semanticPayload, hintents, p.plan_digest, p.operation_digest, hreads.planDigest,
    hreads.operationSetDigest, hdigest, hrepository, hremote, hrecords, h.sealDigest,
    hreads.sealDigest, hbinding, Value.mapping?, Value.list?, Value.textOrNone, orRaise, raiseIf,
    bind, Except.bind, pure, Except.pure]

/-- A save accepts the Preview of an empty plan. -/
theorem Named.accepted {p : EmptyPlan} (h : p.Named) :
    acceptPreview p.workspaceIdentity none p.arguments = .ok p.canonical := by
  have hreads := p.canonical_reads
  have hlevel : runtimePreviewLevel p.canonical = .ok .conceptual := by
    rw [runtimePreviewLevel, hreads.remote.2.2.1]
  have hvalidated := h.validated
  simp [acceptPreview, arguments, hvalidated, hlevel, hreads.previewLevel, hreads.empty.2.1,
    PreviewLevel.text, Value.dicts, orRaise, raiseIf, bind, Except.bind, pure, Except.pure]

/-- The store in memory takes the Preview as the latest one when its revision is
past the latest one of its id. -/
theorem Named.saved_memory {p : EmptyPlan} (h : p.Named) {m : InMemoryPreviewStore}
    (hscope : m.workspaceIdentity = some p.workspaceIdentity)
    (hprior : ∀ saved, m.previews.lookup (p.workspaceIdentity, p.previewId) = some saved →
      saved.revision < p.revision) :
    m.savePreviewRevision p.arguments = .ok { m with
      previews := m.previews.put (p.workspaceIdentity, p.previewId) p.saved
      previewHistory := m.previewHistory.put (p.workspaceIdentity, p.previewId, p.revision) p.saved
      audits := m.audits.mapRecords
        (InMemoryPreviewStore.replacedAudit p.workspaceIdentity p.binding) } := by
  have hpresent : ¬absentText (some p.workspaceIdentity) := by
    simp [absentText, h.workspaceIdentity.nonEmpty]
  have hown : m.scope (some p.workspaceIdentity) = p.workspaceIdentity := by
    rw [InMemoryPreviewStore.scope, InMemoryPreviewStore.orText, if_neg hpresent, Option.getD_some]
  have hkept : InMemoryPreviewStore.orText (some p.workspaceIdentity) (some p.workspaceIdentity) =
      some p.workspaceIdentity := if_neg hpresent
  have hnew : m.previews.lookup (p.workspaceIdentity, p.previewId) ≠ some p.saved := fun hsaved =>
    lt_irrefl _ (hprior _ hsaved)
  have hlater : ¬∃ saved ∈ m.previews.lookup (p.workspaceIdentity, p.previewId),
      p.revision ≤ saved.revision := by
    rintro ⟨saved, hsaved, hle⟩
    exact absurd (hprior saved hsaved) (not_lt.mpr hle)
  have haccepted := h.accepted
  obtain ⟨hworkspace, hitems, hrecords, hbinding⟩ :
      p.arguments.workspaceIdentity = some p.workspaceIdentity ∧ p.arguments.items = [] ∧
        p.arguments.evidenceRecords = [] ∧ p.arguments.binding = p.binding :=
    ⟨rfl, rfl, rfl, rfl⟩
  have hpayload : ({ requestId := p.requestId, previewId := p.previewId, revision := p.revision
                     canonicalPayload := p.canonical } : SavedPreview) = p.saved := by
    simp only [saved]
  have hkey : p.binding.requestId = p.requestId ∧ p.binding.previewId = p.previewId ∧
      p.binding.revision = p.revision := ⟨rfl, rfl, rfl⟩
  simp only [InMemoryPreviewStore.savePreviewRevision,
    InMemoryPreviewStore.savePreviewRevisionImpl, hworkspace, hitems, hrecords, hbinding, hown,
    haccepted, hpayload, hkey, hscope, hkept, ne_eq, not_true_eq_false, and_false, raiseIf,
    if_neg hnew, if_neg hlater, List.mapM_nil, List.map_nil, List.nodup_nil, List.foldl_nil,
    List.append_nil, if_false, bind, Except.bind, pure, Except.pure]

/-- The tables after a save of the Preview past the latest revision of its id. -/
structure SavedAs [SqliteLibrary] (p : EmptyPlan) (s s' : PreviewTables) : Prop where
  previews : s.previews.insert (p.previewId, p.revision) p.saved = some s'.previews
  lineage : s'.lineage = s.lineage
  evidence : s'.evidence = s.evidence
  approvals : s'.approvals = s.approvals
  audits : s'.audits = s.audits.supersede (staleEvent p.binding)

/-- The database takes the Preview when its revision is past the latest one of
its id. -/
theorem Named.saved_database [SqliteLibrary] {p : EmptyPlan} (h : p.Named)
    {context : StoreContext} {s : PreviewTables}
    (hscope : context.workspaceIdentity = p.workspaceIdentity) (hmax : p.revision ≤ maxInteger)
    (hprior : ∀ latest, s.previews.latestRevision p.previewId = some latest →
      latest < p.revision) :
    ∃ s', savePreviewRevision context p.arguments s = .ok s' ∧ p.SavedAs s s' := by
  have hfree : s.previews.lookup (p.previewId, p.revision) = none := by
    by_contra hsome
    obtain ⟨saved, hsaved⟩ := Option.ne_none_iff_exists'.mp hsome
    obtain ⟨latest, hlatest, hle⟩ := KeyedRows.Rows.exists_latestRevision hsaved
    exact absurd (hprior latest hlatest) (not_lt.mpr hle)
  have hlater : ¬∃ latest, s.previews.latestRevision p.previewId = some latest ∧
      p.revision ≤ latest := by
    rintro ⟨latest, hlatest, hle⟩
    exact absurd (hprior latest hlatest) (not_lt.mpr hle)
  obtain ⟨previews, hinsert⟩ := KeyedRows.Rows.insert_isSome p.saved hfree
  refine ⟨{ s with previews, audits := s.audits.supersede (staleEvent p.binding) }, ?_,
    ⟨hinsert, rfl, rfl, rfl, rfl⟩⟩
  have haccepted := h.accepted
  obtain ⟨hworkspace, hitems, hrecords, hbinding⟩ :
      p.arguments.workspaceIdentity = some p.workspaceIdentity ∧ p.arguments.items = [] ∧
        p.arguments.evidenceRecords = [] ∧ p.arguments.binding = p.binding :=
    ⟨rfl, rfl, rfl, rfl⟩
  have hpayload : ({ requestId := p.requestId, previewId := p.previewId, revision := p.revision
                     canonicalPayload := p.canonical } : SavedPreview) = p.saved := by
    simp only [saved]
  have hkey : p.binding.requestId = p.requestId ∧ p.binding.previewId = p.previewId ∧
      p.binding.revision = p.revision := ⟨rfl, rfl, rfl⟩
  have hdistinct : distinctItems [] = .ok true := rfl
  have hlineage : s.lineage.insertAll [] = some s.lineage := rfl
  have hevidence : s.evidence.insertAll [] = some s.evidence := rfl
  simp [PreviewStore.savePreviewRevision, PreviewStore.savePreviewRevisionImpl, hworkspace,
    hitems, hrecords, hbinding, hscope, haccepted, hpayload, hkey, hdistinct, hlineage, hevidence,
    commitPreview, hfree, hlater, hinsert, not_lt.mpr hmax, orRaise, raiseIf, bind, Except.bind,
    pure, Except.pure]

/-! ## Audits -/

/-- What an auditor says of a Preview without findings. -/
structure Opinion where
  auditId : String
  result : AuditResult
  registryVersion : String
  registryDigest : String
  createdAt : String
  present : auditId ≠ ""
  registry : Settled registryVersion ∧ Settled registryDigest
  created : createdAt ≠ "" ∧ (parseTimestamp createdAt).bind ParsedDatetime.offset = some 0

def contextEntries (p : EmptyPlan) (registryVersion registryDigest : String) : Dict :=
  [("workspace_identity", .str p.workspaceIdentity), ("preview_id", .str p.previewId),
    ("revision", .int p.revision), ("sealed_preview_digest", .str p.sealDigest),
    ("rule_registry_version", .str registryVersion),
    ("rule_registry_digest", .str registryDigest), ("evidence", .list []),
    ("audit_scope", .str "Conceptual")]

def contextDigest (p : EmptyPlan) (registryVersion registryDigest : String) : String :=
  digest (.dict (sortEntries (p.contextEntries registryVersion registryDigest)))

def projectionEntries (p : EmptyPlan) (registryVersion registryDigest : String)
    (result : AuditResult) : Dict :=
  [("workspace_identity", .str p.workspaceIdentity), ("preview_id", .str p.previewId),
    ("revision", .int p.revision), ("audit_scope", .str "Conceptual"),
    ("sealed_preview_digest", .str p.sealDigest), ("plan_digest", .str planDigest),
    ("operation_set_digest", .str operationSetDigest), ("remote_snapshot_digest", .null),
    ("audit_context_digest", .str (p.contextDigest registryVersion registryDigest)),
    ("rule_registry_version", .str registryVersion),
    ("rule_registry_digest", .str registryDigest), ("semantic_evaluations", .list []),
    ("findings", .list []), ("result", .str result.text)]

def payloadDigest (p : EmptyPlan) (registryVersion registryDigest : String)
    (result : AuditResult) : String :=
  digest (.dict (sortEntries (p.projectionEntries registryVersion registryDigest result)))

/-- The fields of the audit before it is stamped. -/
def auditFields (p : EmptyPlan) (o : Opinion) : AuditFields where
  auditId := o.auditId
  previewId := p.previewId
  revision := p.revision
  planDigest := planDigest
  remoteSnapshotDigest := none
  auditDigest := "pending"
  result := o.result
  operationSetDigest := operationSetDigest
  status := .active
  sealedPreviewDigest := p.sealDigest
  workspaceIdentity := p.workspaceIdentity
  auditScope := "Conceptual"
  auditPayloadDigest := p.payloadDigest o.registryVersion o.registryDigest o.result
  auditContextDigest := p.contextDigest o.registryVersion o.registryDigest
  ruleRegistryVersion := some o.registryVersion
  ruleRegistryDigest := some o.registryDigest
  ruleEvaluations := []
  findings := []
  evidenceRefs := []
  createdAt := o.createdAt

/-- The audit of the Preview that says `o`. -/
def Named.audit {p : EmptyPlan} (h : p.Named) (o : Opinion) : AuditRecord :=
  AuditRecord.restamp
    { toAuditFields := p.auditFields o
      valid :=
        { revision := h.revision
          present := by
            simp only [List.forall_mem_cons, List.not_mem_nil, false_implies, implies_true,
              and_true]
            exact ⟨o.present, h.previewId.nonEmpty, digest_ne_empty _,
              (by decide : "pending" ≠ ""), digest_ne_empty _⟩
          remote := by simp [auditFields]
          formal := fun _ =>
            { bound := ⟨digest_ne_empty _, h.workspaceIdentity.nonEmpty, digest_ne_empty _⟩
              registry := by
                simp [auditFields, absentText, o.registry.1.nonEmpty, o.registry.2.nonEmpty]
              created := o.created } } } .active

/-- The authority that is minted for an audit of the Preview. -/
def authority (p : EmptyPlan) (o : Opinion) (backendScope : String) :
    AuditCommitAuthority where
  auditBackendScope := backendScope
  workspaceIdentity := p.workspaceIdentity
  auditId := o.auditId
  auditPayloadDigest := p.payloadDigest o.registryVersion o.registryDigest o.result
  previewId := p.previewId
  revision := p.revision
  auditScope := "Conceptual"
  sealedPreviewDigest := p.sealDigest
  planDigest := planDigest
  operationSetDigest := operationSetDigest
  remoteSnapshotDigest := none
  auditContextDigest := p.contextDigest o.registryVersion o.registryDigest
  ruleRegistryVersion := some o.registryVersion
  ruleRegistryDigest := some o.registryDigest
  evidenceBindings := []
  repositoryIdentity := .null
  remoteAuthority := .null

omit [IntegerLibrary] [DatetimeLibrary] [CasefoldLibrary] in
theorem Named.context_digest {p : EmptyPlan} (h : p.Named) {version registry : String}
    (hversion : Settled version) (hregistry : Settled registry) :
    computeAuditContextDigest p.workspaceIdentity p.previewId p.revision (.str p.sealDigest) []
      (some version) (some registry) (.str "Conceptual") = .ok (p.contextDigest version registry) := by
  have hkeys : (Dict.keys (p.contextEntries version registry)).Nodup ∧
      ∀ key ∈ Dict.keys (p.contextEntries version registry), Graphic key := by
    simp only [Dict.keys, contextEntries, List.map_cons, List.map_nil]
    decide
  have hlevel : Settled "Conceptual" := Graphic.settled (by decide) (by decide)
  have hvalues : ∀ e ∈ p.contextEntries version registry,
      CanonicalValues.normalize e.2 = .ok e.2 := by
    simp only [contextEntries, List.forall_mem_cons, List.not_mem_nil, false_implies,
      implies_true, and_true]
    exact ⟨normalize_text h.workspaceIdentity, normalize_text h.previewId, rfl,
      normalize_text (digest_settled _), normalize_text hversion, normalize_text hregistry, rfl,
      normalize_text hlevel⟩
  have hnormal := normalize_entries hkeys.2 hkeys.1 hvalues
  rw [contextEntries] at hnormal
  simp [computeAuditContextDigest, canonicalDigest, Value.textOrNone, hnormal, bind, Except.bind,
    pure, Except.pure, contextDigest, contextEntries]

omit [IntegerLibrary] [CasefoldLibrary] in
theorem Named.projection_digest {p : EmptyPlan} (h : p.Named) (o : Opinion) :
    canonicalDigest (auditProjection (h.audit o)) =
      .ok (p.payloadDigest o.registryVersion o.registryDigest o.result) := by
  have hkeys : (Dict.keys (p.projectionEntries o.registryVersion o.registryDigest
      o.result)).Nodup ∧ ∀ key ∈ Dict.keys (p.projectionEntries o.registryVersion
        o.registryDigest o.result), Graphic key := by
    simp only [Dict.keys, projectionEntries, List.map_cons, List.map_nil]
    decide
  have hlevel : Settled "Conceptual" := Graphic.settled (by decide) (by decide)
  have hresult : Settled o.result.text := by
    cases o.result <;> exact Graphic.settled (by decide) (by decide)
  have hvalues : ∀ e ∈ p.projectionEntries o.registryVersion o.registryDigest o.result,
      CanonicalValues.normalize e.2 = .ok e.2 := by
    simp only [projectionEntries, List.forall_mem_cons, List.not_mem_nil, false_implies,
      implies_true, and_true]
    exact ⟨normalize_text h.workspaceIdentity, normalize_text h.previewId, rfl,
      normalize_text hlevel, normalize_text (digest_settled _), normalize_text (digest_settled _),
      normalize_text (digest_settled _), rfl, normalize_text (digest_settled _),
      normalize_text o.registry.1, normalize_text o.registry.2, rfl, rfl, normalize_text hresult⟩
  have hprojection : auditProjection (h.audit o) =
      .dict (p.projectionEntries o.registryVersion o.registryDigest o.result) := rfl
  rw [hprojection, canonicalDigest, normalize_entries hkeys.2 hkeys.1 hvalues]
  rfl

/-- The audit passes the commit boundary with its authority. -/
theorem Named.committable {p : EmptyPlan} (h : p.Named) (o : Opinion) (backendScope : String) :
    validateCurrentAuditContext (h.audit o) (p.authority o backendScope) p.saved [] none
        p.workspaceIdentity = .ok () ∧
      verifyCandidate (h.audit o) (p.authority o backendScope) p.canonical [] backendScope =
        .ok () := by
  have hreads := p.canonical_reads
  have hcontext := h.context_digest o.registry.1 o.registry.2
  have hprojection := h.projection_digest o
  have hvalidated := h.validated
  rw [binding] at hvalidated
  have hfields : (h.audit o).toAuditFields = { p.auditFields o with
      auditDigest := { p.auditFields o with status := .active }.computedDigest } := rfl
  constructor
  · simp [validateCurrentAuditContext, hfields, auditFields, authority, saved, hreads.previewId,
      hreads.revision, hreads.workspaceIdentity, hreads.remote.1, hreads.sealDigest,
      hreads.previewLevel, optional?, orRaise, raiseIf, bind, Except.bind, hvalidated, hcontext]
  · have hverify : (h.audit o).verifyDigest = true := by
      have hne : (h.audit o).auditDigest ≠ "" := digest_ne_empty _
      simp only [AuditRecord.verifyDigest, ne_eq, hne, not_false_eq_true, decide_true,
        Bool.true_and, decide_eq_true_eq]
      rfl
    have hminted : mintAuditCommitAuthority (h.audit o) p.canonical [] backendScope =
        .ok (p.authority o backendScope) := by
      simp [mintAuditCommitAuthority, evidenceBindings, hfields, auditFields, authority,
        hreads.remote.1, hreads.remote.2.1, bind, Except.bind, pure, Except.pure]
    have hbound : boundTo (h.audit o) p.canonical :=
      ⟨hreads.workspaceIdentity, hreads.previewId, hreads.revision, hreads.previewLevel,
        hreads.sealDigest, hreads.planDigest, hreads.operationSetDigest,
        hreads.remote.2.2.2⟩
    simp [verifyCandidate, hprojection, hverify, hminted, hbound, hfields, auditFields, raiseIf,
      bind, Except.bind]

/-! ## A plan and opinions of it -/

def sample (revision : Int) : EmptyPlan where
  workspaceIdentity := "workspace-1"
  requestId := "request-1"
  previewId := "preview-1"
  revision := revision

omit [LawfulDigestLibrary] [IntegerLibrary] [DatetimeLibrary] [CasefoldLibrary] in
theorem sample_named {revision : Int} (h : 1 ≤ revision) : (sample revision).Named where
  workspaceIdentity := Graphic.settled (by decide : Graphic "workspace-1") (by decide : "workspace-1" ≠ "")
  requestId := Graphic.settled (by decide : Graphic "request-1") (by decide : "request-1" ≠ "")
  previewId := Graphic.settled (by decide : Graphic "preview-1") (by decide : "preview-1" ≠ "")
  revision := h

end
end EmptyPlan
end DeliverySystem.ConceptualPreviews

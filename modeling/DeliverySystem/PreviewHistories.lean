import DeliverySystem.AuditCommits
import DeliverySystem.PreviewEligibility
import DeliverySystem.ReferenceLibrary

/-!
# Histories of the Preview store

The transactions of every connection to one database, in any order. What each of
them does to the tables is said once; from it follows what every reachable state
keeps: a Preview revision is stored once and above the earlier ones, an audit
only moves forward, and a formal audit is active on the latest revision alone.
-/
namespace DeliverySystem.PreviewHistories
open PythonValues CanonicalValues IssueCommands ExecutionContexts KeyedRows EventHistory
open AuditRecords EvidenceRecords RemoteSnapshots SealedPreviews PreviewStore AuditCommits
open Relation
set_option autoImplicit false

/-! ## Events that follow one another -/

section
variable [DatetimeLibrary]

/-- A later event of one audit. -/
structure Follows (a b : AuditRecord) : Prop where
  status : a.status.rank ≤ b.status.rank
  auditId : b.auditId = a.auditId
  previewId : b.previewId = a.previewId
  revision : b.revision = a.revision

theorem Follows.refl (a : AuditRecord) : Follows a a := ⟨le_rfl, rfl, rfl, rfl⟩

instance : Std.Refl Follows := ⟨Follows.refl⟩

instance : IsTrans AuditRecord Follows :=
  ⟨fun _ _ _ h h' => ⟨h.status.trans h'.status, h'.auditId.trans h.auditId,
    h'.previewId.trans h.previewId, h'.revision.trans h.revision⟩⟩

variable [PythonLibrary]

theorem transition_stale {a : AuditRecord} (h : a.status = .active) :
    a.transition .stale = .ok (a.restamp .stale) := by
  rw [transition_eq_ok, h]
  exact .inr ⟨by decide, rfl⟩

theorem staleEvent_eq (b : PreviewBinding) (a : AuditRecord) :
    staleEvent b a = if replacedBy b a then some ((rebuilt a).restamp .stale) else none := by
  unfold staleEvent
  split_ifs with h
  · have hactive : (rebuilt a).status = .active := h.1
    rw [transition_stale hactive]
    rfl
  · rfl

theorem staleBeside_eq (a prior : AuditRecord) :
    staleBeside a prior = if activeBeside a prior then some (prior.restamp .stale) else none := by
  unfold staleBeside
  split_ifs with h
  · rw [transition_stale h.2.2]
    rfl
  · rfl

theorem follows_transition {a b : AuditRecord} {status : AuditStatus}
    (h : a.transition status = .ok b) : Follows a b := by
  rcases transition_eq_ok.mp h with ⟨-, rfl⟩ | ⟨hless, rfl⟩
  · exact .refl b
  · exact ⟨hless.le, rfl, rfl, rfl⟩

theorem follows_staleEvent {b : PreviewBinding} {a e : AuditRecord}
    (h : staleEvent b a = some e) : Follows a e := by
  rw [staleEvent_eq] at h
  split_ifs at h with hreplaced
  obtain rfl := Option.some.inj h
  exact ⟨by rw [hreplaced.1]; exact Nat.zero_le _, rfl, rfl, rfl⟩

theorem follows_staleBeside {a prior e : AuditRecord} (h : staleBeside a prior = some e) :
    Follows prior e := by
  rw [staleBeside_eq] at h
  split_ifs at h with hbeside
  obtain rfl := Option.some.inj h
  exact ⟨by rw [hbeside.2.2]; exact Nat.zero_le _, rfl, rfl, rfl⟩

end

section
variable [DatetimeLibrary] [PythonLibrary] [UnicodeLibrary] [IntegerLibrary] [CasefoldLibrary]
  [SqliteLibrary]

/-- The transactions that write to the tables. -/
inductive Transaction where
  | savePreviewRevision (a : SaveArguments)
  | bindAndSaveRepositoryAwarePreview (promotion : RuntimePromotion) (a : SaveArguments)
  | recordAudit (a : AuditRecord)
  | applyAuditCommitAtomic (a : AuditRecord) (authority : AuditCommitAuthority)
  | transitionAuditStatus (auditId : String) (status : AuditStatus)
  | recordApproval (approval : ApprovalRecord)

/-- The tables after a transaction that commits. -/
def perform (context : StoreContext) (s : PreviewTables) : Transaction → Py PreviewTables
  | .savePreviewRevision a => savePreviewRevision context a s
  | .bindAndSaveRepositoryAwarePreview promotion a =>
      bindAndSaveRepositoryAwarePreview context promotion a s
  | .recordAudit a => AuditCommits.recordAudit a s
  | .applyAuditCommitAtomic a authority =>
      Prod.fst <$> AuditCommits.applyAuditCommitAtomic context a authority s
  | .transitionAuditStatus auditId status =>
      Prod.fst <$> AuditCommits.transitionAuditStatus auditId status s
  | .recordApproval approval => AuditCommits.recordApproval context approval s

/-- One transaction of some connection to the database of a workspace. -/
def Step (workspace : String) (s s' : PreviewTables) : Prop :=
  ∃ context transaction, StoreContext.workspaceIdentity context = workspace ∧
    perform context s transaction = .ok s'

def Run (workspace : String) : PreviewTables → PreviewTables → Prop :=
  ReflTransGen (Step workspace)

def Reachable (workspace : String) (s : PreviewTables) : Prop := Run workspace .empty s

/-! ## What a transaction does -/

/-- A new revision with its items and evidence, and the audits it replaces. -/
structure Saved (workspace : String) (canonical : Dict) (promotion : Option RuntimePromotion)
    (a : SaveArguments) (s s' : PreviewTables) : Prop where
  accepted : acceptPreview workspace promotion a = .ok canonical
  above : ∀ latest, s.previews.latestRevision a.binding.previewId = some latest →
    latest < a.binding.revision
  previews : s.previews.insert (a.binding.previewId, a.binding.revision)
    ⟨a.binding.requestId, a.binding.previewId, a.binding.revision, canonical⟩ = some s'.previews
  lineage : ∃ rows, a.items.mapM (lineageRow a.binding) = some rows ∧
    s.lineage.insertAll rows = some s'.lineage
  evidence : s.evidence.insertAll (a.evidenceRecords.map fun record =>
    (evidenceKey a.binding.revision record, record)) = some s'.evidence
  approvals : s'.approvals = s.approvals
  audits : s'.audits = s.audits.supersede (staleEvent a.binding)

/-- What a recorded approval was checked against, in the same transaction. -/
structure ApprovedAgainst (workspace : String) (approval : ApprovalRecord) (a : AuditRecord)
    (preview : SavedPreview) (s : PreviewTables) : Prop where
  structural : approval.isStructurallyValid = true
  audit : s.audits.latest approval.auditId = some a
  stored : s.previews.lookup (approval.previewId, approval.revision) = some preview
  current : validateApprovalAgainstCurrentPreview approval a preview.canonicalPayload workspace =
    .ok true
  latest : s.previews.latestRevision approval.previewId = some approval.revision

inductive Effect (workspace : String) (s : PreviewTables) : PreviewTables → Prop where
  | unchanged : Effect workspace s s
  | saved {s' : PreviewTables} {canonical : Dict} {promotion : Option RuntimePromotion}
      {a : SaveArguments} (h : Saved workspace canonical promotion a s s') : Effect workspace s s'
  | recorded {a : AuditRecord} (informal : a.auditPayloadDigest = "") (active : a.status = .active)
      (fresh : s.audits.latest a.auditId = none) :
      Effect workspace s { s with audits := s.audits.append a.auditId a }
  | committed {a : AuditRecord} (active : a.status = .active)
      (latest : s.previews.latestRevision a.previewId = some a.revision)
      (fresh : s.audits.latest a.auditId = none) :
      Effect workspace s
        { s with audits := (s.audits.supersede (staleBeside a)).append a.auditId a }
  | transitioned {auditId : String} {current updated : AuditRecord} {status : AuditStatus}
      (latest : s.audits.latest auditId = some current)
      (moved : current.transition status = .ok updated) :
      Effect workspace s { s with audits := s.audits.append auditId updated }
  | approved {approval : ApprovalRecord} {a : AuditRecord} {preview : SavedPreview}
      {approvals : Rows (String × Int) ApprovalRecord}
      (h : ApprovedAgainst workspace approval a preview s)
      (inserted : s.approvals.insert (approval.approvalId, approval.revision) approval =
        some approvals) :
      Effect workspace s { s with approvals }

variable {context : StoreContext} {workspace : String} {s s' : PreviewTables}

theorem savePreviewRevisionImpl_effect {promotion : Option RuntimePromotion} {a : SaveArguments}
    (h : savePreviewRevisionImpl context promotion a s = .ok s') :
    ∃ canonical, acceptPreview context.workspaceIdentity promotion a = .ok canonical ∧
      (s' = s ∧ s.previews.lookup (a.binding.previewId, a.binding.revision) =
          some ⟨a.binding.requestId, a.binding.previewId, a.binding.revision, canonical⟩ ∨
        Saved context.workspaceIdentity canonical promotion a s s') := by
  simp only [savePreviewRevisionImpl, bind_eq_ok, raiseIf_eq_ok] at h
  obtain ⟨_, -, canonical, haccept, _, -, _, -, _, -, hcommit⟩ := h
  refine ⟨canonical, haccept, ?_⟩
  simp only [commitPreview] at hcommit
  split at hcommit
  · rename_i existing hexisting
    simp only [bind_eq_ok, raiseIf_eq_ok, pure_eq_ok, not_not] at hcommit
    obtain ⟨_, rfl, rfl⟩ := hcommit
    exact .inl ⟨rfl, hexisting⟩
  · simp only [bind_eq_ok, raiseIf_eq_ok, orRaise_eq_ok, pure_eq_ok] at hcommit
    obtain ⟨_, habove, rows, hrows, lineage, hlineage, previews, hpreviews, evidence, hevidence,
      rfl⟩ := hcommit
    refine .inr ⟨haccept, fun latest hlatest => ?_, hpreviews, ⟨rows, hrows, hlineage⟩, hevidence,
      rfl, rfl⟩
    by_contra hle
    exact habove ⟨latest, hlatest, not_lt.mp hle⟩

theorem applyAuditCommitAtomic_effect {a answered : AuditRecord} {authority : AuditCommitAuthority}
    (h : AuditCommits.applyAuditCommitAtomic context a authority s = .ok (s', answered)) :
    Effect workspace s s' := by
  simp only [AuditCommits.applyAuditCommitAtomic, bind_eq_ok, raiseIf_eq_ok, orRaise_eq_ok,
    not_not] at h
  obtain ⟨latest, hlatest, _, rfl, _, -, _, -, _, -, _, -, _, -, _, hverified, hcommit⟩ := h
  simp only [verifyCandidate, bind_eq_ok, raiseIf_eq_ok, not_not] at hverified
  obtain ⟨_, hactive, -⟩ := hverified
  unfold commitVerified at hcommit
  split at hcommit
  · obtain ⟨rfl, -⟩ := Prod.mk.inj (Except.ok.inj hcommit)
    exact .unchanged
  · simp only [bind_eq_ok, raiseIf_eq_ok, pure_eq_ok, Bool.not_eq_true, Option.isSome_eq_false_iff,
      Option.isNone_iff_eq_none] at hcommit
    obtain ⟨_, hfresh, heq⟩ := hcommit
    obtain ⟨rfl, -⟩ := Prod.mk.inj heq
    exact .committed hactive hlatest hfresh

omit [IntegerLibrary] [CasefoldLibrary] [SqliteLibrary] in
theorem recordApproval_effect {approval : ApprovalRecord}
    (h : AuditCommits.recordApproval context approval s = .ok s') :
    ∃ a preview, ApprovedAgainst context.workspaceIdentity approval a preview s ∧
      (s' = s ∧ s.approvals.latestRecord approval.approvalId = some approval ∨
        ∃ approvals, s.approvals.insert (approval.approvalId, approval.revision) approval =
          some approvals ∧ s' = { s with approvals }) := by
  simp only [AuditCommits.recordApproval, bind_eq_ok, raiseIf_eq_ok, orRaise_eq_ok, not_not,
    Bool.not_eq_false] at h
  obtain ⟨_, hstructural, a, ha, _, -, preview, hpreview, _, hcurrent, _, rfl, _, hlatest,
    hcommit⟩ := h
  refine ⟨a, preview, ⟨hstructural, ha, hpreview, hcurrent, hlatest⟩, ?_⟩
  split at hcommit
  · rename_i existing hexisting
    simp only [bind_eq_ok, raiseIf_eq_ok, pure_eq_ok, not_not] at hcommit
    obtain ⟨_, rfl, rfl⟩ := hcommit
    exact .inl ⟨rfl, hexisting⟩
  · simp only [bind_eq_ok, orRaise_eq_ok, pure_eq_ok] at hcommit
    obtain ⟨approvals, hinsert, rfl⟩ := hcommit
    exact .inr ⟨approvals, hinsert, rfl⟩

theorem Step.effect (h : Step workspace s s') : Effect workspace s s' := by
  obtain ⟨context, transaction, rfl, h⟩ := h
  cases transaction with
  | savePreviewRevision a =>
      obtain ⟨canonical, -, ⟨rfl, -⟩ | hsaved⟩ := savePreviewRevisionImpl_effect h
      · exact .unchanged
      · exact .saved hsaved
  | bindAndSaveRepositoryAwarePreview promotion a =>
      simp only [perform, bindAndSaveRepositoryAwarePreview, bind_eq_ok] at h
      obtain ⟨_, -, h⟩ := h
      obtain ⟨canonical, -, ⟨rfl, -⟩ | hsaved⟩ := savePreviewRevisionImpl_effect h
      · exact .unchanged
      · exact .saved hsaved
  | recordAudit a =>
      simp only [perform, AuditCommits.recordAudit, bind_eq_ok, raiseIf_eq_ok, not_or, not_not] at h
      obtain ⟨_, hinformal, _, ⟨hactive, -⟩, h⟩ := h
      split at h
      · cases h
      · rename_i hfresh
        simp only [pure_eq_ok] at h
        subst h
        exact .recorded hinformal hactive (by simpa using hfresh)
  | applyAuditCommitAtomic a authority =>
      obtain ⟨⟨s'', answered⟩, hcommit, rfl⟩ := map_eq_ok.mp h
      exact applyAuditCommitAtomic_effect hcommit
  | transitionAuditStatus auditId status =>
      obtain ⟨⟨s'', answered⟩, hmoved, rfl⟩ := map_eq_ok.mp h
      simp only [AuditCommits.transitionAuditStatus, bind_eq_ok, orRaise_eq_ok, pure_eq_ok,
        Prod.mk.injEq] at hmoved
      obtain ⟨current, hcurrent, updated, hupdated, rfl, -⟩ := hmoved
      exact .transitioned hcurrent hupdated
  | recordApproval approval =>
      obtain ⟨a, preview, happroved, ⟨rfl, -⟩ | ⟨approvals, hinsert, rfl⟩⟩ :=
        recordApproval_effect h
      · exact .unchanged
      · exact .approved happroved hinsert

/-! ## Audits only move forward -/

theorem Effect.advances (h : Effect workspace s s') :
    History.Advances Follows s.audits s'.audits := by
  cases h with
  | unchanged => exact .refl _
  | saved h =>
      rw [h.audits]
      exact History.advances_supersede _ fun _ _ _ _ he => follows_staleEvent he
  | recorded informal active fresh =>
      refine History.advances_append _ fun prior hprior => ?_
      rw [fresh] at hprior
      cases hprior
  | @committed a active latest fresh =>
      have hstale : History.Advances Follows s.audits (s.audits.supersede (staleBeside a)) :=
        History.advances_supersede _ fun _ _ _ _ he => follows_staleBeside he
      refine hstale.trans (History.advances_append _ fun prior hprior => ?_)
      rw [History.latest_supersede, fresh] at hprior
      cases hprior
  | transitioned latest moved =>
      refine History.advances_append _ fun prior hprior => ?_
      rw [latest] at hprior
      obtain rfl := Option.some.inj hprior
      exact follows_transition moved
  | approved => exact .refl _

theorem Run.advances (h : Run workspace s s') : History.Advances Follows s.audits s'.audits := by
  induction h with
  | refl => exact .refl _
  | tail _ hstep ih => exact ih.trans hstep.effect.advances

/-- An audit that is not active never becomes active again. -/
theorem Run.inactive (h : Run workspace s s') {auditId : String} {a : AuditRecord}
    (ha : s.audits.latest auditId = some a) (hinactive : a.status ≠ .active) :
    ∃ a', s'.audits.latest auditId = some a' ∧ a'.status ≠ .active := by
  obtain ⟨a', ha', hfollows⟩ := h.advances auditId a ha
  refine ⟨a', ha', fun hactive => ?_⟩
  have hrank := hfollows.status
  rw [hactive] at hrank
  cases hstatus : a.status with
  | active => exact hinactive hstatus
  | stale => simp [hstatus, AuditStatus.rank] at hrank
  | invalid => simp [hstatus, AuditStatus.rank] at hrank

/-! ## What reachable states keep -/

/-- An audit that went through the commit boundary and is active. -/
structure FormallyActive (s : PreviewTables) (auditId : String) (a : AuditRecord) : Prop where
  latest : s.audits.latest auditId = some a
  active : a.status = .active
  formal : ∃ e, (auditId, e) ∈ s.audits.entries ∧ e.auditPayloadDigest ≠ ""

structure Invariant (s : PreviewTables) : Prop where
  keyed : ∀ auditId e, (auditId, e) ∈ s.audits.entries → e.auditId = auditId
  unmoved : ∀ auditId e a, (auditId, e) ∈ s.audits.entries →
    s.audits.latest auditId = some a → a.status = .active → e = a
  newest : ∀ auditId a, FormallyActive s auditId a →
    s.previews.latestRevision a.previewId = some a.revision
  unique : ∀ auditId auditId' a a', FormallyActive s auditId a → FormallyActive s auditId' a' →
    a.previewId = a'.previewId → auditId = auditId'

/-- An audit that a transaction leaves active was active before, and its history
has no new event. -/
def Keeps (s s' : PreviewTables) : Prop :=
  ∀ auditId a, s'.audits.latest auditId = some a → a.status = .active →
    s.audits.latest auditId = some a ∧
      ∀ e, (auditId, e) ∈ s'.audits.entries → (auditId, e) ∈ s.audits.entries ∨ e = a

omit [UnicodeLibrary] [IntegerLibrary] [CasefoldLibrary] [SqliteLibrary] [PythonLibrary] in
theorem FormallyActive.before {auditId : String} {a : AuditRecord} (hkeeps : Keeps s s')
    (h : FormallyActive s' auditId a) : FormallyActive s auditId a := by
  obtain ⟨hlatest, hevents⟩ := hkeeps auditId a h.latest h.active
  obtain ⟨e, he, hformal⟩ := h.formal
  rcases hevents e he with hbefore | rfl
  · exact ⟨hlatest, h.active, e, hbefore, hformal⟩
  · exact ⟨hlatest, h.active, e, History.mem_of_latest hlatest, hformal⟩

omit [UnicodeLibrary] [IntegerLibrary] [CasefoldLibrary] [SqliteLibrary] [PythonLibrary] in
theorem keeps_supersede {f : AuditRecord → Option AuditRecord}
    (hinactive : ∀ prior e, f prior = some e → e.status ≠ .active)
    (haudits : s'.audits = s.audits.supersede f) : Keeps s s' := by
  intro auditId a ha hactive
  rw [haudits, History.latest_supersede] at ha
  obtain ⟨prior, hprior, heq⟩ := Option.map_eq_some_iff.mp ha
  have hnone : f prior = none := by
    cases hf : f prior with
    | none => rfl
    | some e =>
        rw [hf, Option.getD_some] at heq
        exact absurd (heq ▸ hactive) (hinactive prior e hf)
  rw [hnone, Option.getD_none] at heq
  subst heq
  refine ⟨hprior, fun e he => .inl ?_⟩
  rw [haudits, History.mem_supersede] at he
  rcases he with he | ⟨prior', hprior', hf⟩
  · exact he
  · obtain rfl := Option.some.inj (hprior.symm.trans hprior')
    rw [hnone] at hf
    cases hf

omit [UnicodeLibrary] [IntegerLibrary] [CasefoldLibrary] [SqliteLibrary] [PythonLibrary] in
theorem keyed_supersede {f : AuditRecord → Option AuditRecord} (hs : Invariant s)
    (hfollows : ∀ prior e, f prior = some e → Follows prior e)
    (haudits : s'.audits = s.audits.supersede f) (auditId : String) (e : AuditRecord)
    (he : (auditId, e) ∈ s'.audits.entries) : e.auditId = auditId := by
  rw [haudits, History.mem_supersede] at he
  rcases he with he | ⟨prior, hprior, hf⟩
  · exact hs.keyed auditId e he
  · rw [(hfollows prior e hf).auditId, hs.keyed auditId prior (History.mem_of_latest hprior)]

omit [UnicodeLibrary] [IntegerLibrary] [CasefoldLibrary] [SqliteLibrary] [PythonLibrary] in
theorem Invariant.of_keeps (hs : Invariant s) (hkeeps : Keeps s s')
    (hkeyed : ∀ auditId e, (auditId, e) ∈ s'.audits.entries → e.auditId = auditId)
    (hnewest : ∀ auditId a, FormallyActive s' auditId a →
      s'.previews.latestRevision a.previewId = some a.revision) : Invariant s' where
  keyed := hkeyed
  unmoved auditId e a he ha hactive := by
    obtain ⟨hlatest, hevents⟩ := hkeeps auditId a ha hactive
    rcases hevents e he with hbefore | rfl
    · exact hs.unmoved auditId e a hbefore hlatest hactive
    · rfl
  newest := hnewest
  unique auditId auditId' a a' h h' := hs.unique auditId auditId' a a' (h.before hkeeps)
    (h'.before hkeeps)

omit [UnicodeLibrary] [IntegerLibrary] [CasefoldLibrary] [SqliteLibrary] [PythonLibrary] in
/-- A new history, of an audit that may be formal only on a latest revision that
no other formal audit is active on. -/
theorem Invariant.append_fresh (hs : Invariant s) {a : AuditRecord}
    (hfresh : s.audits.latest a.auditId = none)
    (hformal : a.auditPayloadDigest ≠ "" →
      s.previews.latestRevision a.previewId = some a.revision ∧
        ∀ auditId prior, FormallyActive s auditId prior → prior.previewId ≠ a.previewId) :
    Invariant { s with audits := s.audits.append a.auditId a } := by
  have hempty : ∀ e, (a.auditId, e) ∉ s.audits.entries := by
    intro e he
    have hsome := (History.latest_isSome_iff s.audits a.auditId).mpr ⟨e, he⟩
    rw [hfresh] at hsome
    cases hsome
  have hcases : ∀ {auditId r}, FormallyActive { s with audits := s.audits.append a.auditId a }
      auditId r → FormallyActive s auditId r ∨ auditId = a.auditId ∧ r = a ∧
        a.auditPayloadDigest ≠ "" := by
    rintro auditId r ⟨hlatest, hactive, e, he, hdigest⟩
    rw [History.latest_append] at hlatest
    rw [History.mem_append] at he
    split_ifs at hlatest with hid
    · subst hid
      obtain rfl := Option.some.inj hlatest
      rcases he with he | ⟨-, rfl⟩
      · exact absurd he (hempty e)
      · exact .inr ⟨rfl, rfl, hdigest⟩
    · rcases he with he | ⟨heq, -⟩
      · exact .inl ⟨hlatest, hactive, e, he, hdigest⟩
      · exact absurd heq hid
  constructor
  case keyed =>
    intro auditId e he
    rcases History.mem_append.mp he with he | ⟨rfl, rfl⟩
    · exact hs.keyed auditId e he
    · rfl
  case unmoved =>
    intro auditId e r he hr hactive
    rw [History.latest_append] at hr
    split_ifs at hr with hid
    · subst hid
      obtain rfl := Option.some.inj hr
      rcases History.mem_append.mp he with he | ⟨-, rfl⟩
      · exact absurd he (hempty e)
      · rfl
    · rcases History.mem_append.mp he with he | ⟨heq, -⟩
      · exact hs.unmoved auditId e r he hr hactive
      · exact absurd heq hid
  case newest =>
    intro auditId r hr
    rcases hcases hr with hr | ⟨-, rfl, hdigest⟩
    · exact hs.newest auditId r hr
    · exact (hformal hdigest).1
  case unique =>
    intro auditId auditId' r r' hr hr' hpreview
    rcases hcases hr with hprior | ⟨hid, hsame, hdigest⟩ <;>
      rcases hcases hr' with hprior' | ⟨hid', hsame', hdigest'⟩
    · exact hs.unique auditId auditId' r r' hprior hprior' hpreview
    · rw [hsame'] at hpreview
      exact absurd hpreview ((hformal hdigest').2 auditId r hprior)
    · rw [hsame] at hpreview
      exact absurd hpreview.symm ((hformal hdigest).2 auditId' r' hprior')
    · rw [hid, hid']

omit [UnicodeLibrary] [IntegerLibrary] [CasefoldLibrary] [SqliteLibrary] in
theorem staleEvent_inactive {b : PreviewBinding} {prior e : AuditRecord}
    (h : staleEvent b prior = some e) : e.status ≠ .active := by
  rw [staleEvent_eq] at h
  split_ifs at h
  obtain rfl := Option.some.inj h
  exact AuditStatus.noConfusion

omit [UnicodeLibrary] [IntegerLibrary] [CasefoldLibrary] [SqliteLibrary] in
theorem staleBeside_inactive {a prior e : AuditRecord} (h : staleBeside a prior = some e) :
    e.status ≠ .active := by
  rw [staleBeside_eq] at h
  split_ifs at h
  obtain rfl := Option.some.inj h
  exact AuditStatus.noConfusion

theorem Saved.invariant {canonical : Dict} {promotion : Option RuntimePromotion}
    {a : SaveArguments} (h : Saved workspace canonical promotion a s s') (hs : Invariant s) :
    Invariant s' := by
  have hkeeps := keeps_supersede (fun _ _ he => staleEvent_inactive he) h.audits
  refine hs.of_keeps hkeeps (keyed_supersede hs (fun _ _ he => follows_staleEvent he) h.audits) ?_
  intro auditId r hr
  have hnewest := hs.newest auditId r (hr.before hkeeps)
  rw [Rows.latestRevision_insert h.previews h.above]
  split_ifs with hpreview
  · -- an audit of the replaced revision is stale now
    have hreplaced : replacedBy a.binding r := by
      refine ⟨hr.active, hpreview, .inl fun heq => ?_⟩
      rw [hpreview] at hnewest
      exact (h.above r.revision hnewest).ne heq
    have hlatest := hr.latest
    rw [h.audits, History.latest_supersede, (hr.before hkeeps).latest, Option.map_some,
      staleEvent_eq, if_pos hreplaced, Option.getD_some] at hlatest
    have hactive := hr.active
    rw [← Option.some.inj hlatest] at hactive
    cases hactive
  · exact hnewest

theorem Effect.invariant (h : Effect workspace s s') (hs : Invariant s) : Invariant s' := by
  cases h with
  | unchanged => exact hs
  | saved h => exact h.invariant hs
  | recorded informal active fresh =>
      exact hs.append_fresh fresh fun hformal => absurd informal hformal
  | @committed a active latest fresh =>
      have hkeeps : Keeps s { s with audits := s.audits.supersede (staleBeside a) } :=
        keeps_supersede (fun _ _ he => staleBeside_inactive he) rfl
      have hsuperseded : Invariant { s with audits := s.audits.supersede (staleBeside a) } :=
        hs.of_keeps hkeeps (keyed_supersede hs (fun _ _ he => follows_staleBeside he) rfl)
          fun auditId r hr => hs.newest auditId r (hr.before hkeeps)
      refine hsuperseded.append_fresh ?_ fun _ => ⟨latest, fun auditId prior hprior hpreview => ?_⟩
      · rw [History.latest_supersede, fresh, Option.map_none]
      · -- the other formal audit of the Preview is on the same revision, and stale now
        have hnewest := hs.newest auditId prior (hprior.before hkeeps)
        rw [hpreview, latest] at hnewest
        have hbeside : activeBeside a prior :=
          ⟨hpreview, (Option.some.inj hnewest).symm, hprior.active⟩
        have hlatest := hprior.latest
        rw [History.latest_supersede, (hprior.before hkeeps).latest, Option.map_some,
          staleBeside_eq, if_pos hbeside, Option.getD_some] at hlatest
        have hactive := hprior.active
        rw [← Option.some.inj hlatest] at hactive
        cases hactive
  | @transitioned auditId current updated status latest moved =>
      have hkeeps : Keeps s { s with audits := s.audits.append auditId updated } := by
        intro id r hr hactive
        rw [History.latest_append] at hr
        split_ifs at hr with hid
        · subst hid
          obtain rfl := Option.some.inj hr
          have hsame : updated = current := by
            rcases transition_eq_ok.mp moved with ⟨-, h⟩ | ⟨hless, rfl⟩
            · exact h
            · rw [show status = .active from hactive] at hless
              cases hless
          subst hsame
          exact ⟨latest, fun e he => (History.mem_append.mp he).imp_right And.right⟩
        · refine ⟨hr, fun e he => .inl ?_⟩
          rcases History.mem_append.mp he with he | ⟨heq, -⟩
          · exact he
          · exact absurd heq hid
      refine hs.of_keeps hkeeps (fun id e he => ?_) fun id r hr =>
        hs.newest id r (hr.before hkeeps)
      rcases History.mem_append.mp he with he | ⟨rfl, rfl⟩
      · exact hs.keyed id e he
      · rw [(follows_transition moved).auditId,
          hs.keyed _ current (History.mem_of_latest latest)]
  | approved => exact ⟨hs.keyed, hs.unmoved, fun id r hr => hs.newest id r ⟨hr.1, hr.2, hr.3⟩,
      fun id id' r r' hr hr' => hs.unique id id' r r' ⟨hr.1, hr.2, hr.3⟩ ⟨hr'.1, hr'.2, hr'.3⟩⟩

omit [UnicodeLibrary] [IntegerLibrary] [CasefoldLibrary] [SqliteLibrary] [PythonLibrary] in
theorem empty_invariant : Invariant PreviewTables.empty := by
  constructor
  case keyed => intro auditId e he; cases he
  case unmoved => intro auditId e a he; cases he
  case newest => intro auditId a h; cases h.latest
  case unique => intro auditId auditId' a a' h; cases h.latest

theorem Run.invariant (h : Run workspace s s') (hs : Invariant s) : Invariant s' := by
  induction h with
  | refl => exact hs
  | tail _ hstep ih => exact hstep.effect.invariant ih

theorem Reachable.invariant (h : Reachable workspace s) : Invariant s :=
  Run.invariant h empty_invariant

/-- The tables after several transactions of one connection. -/
def performAll (context : StoreContext) (s : PreviewTables) (transactions : List Transaction) :
    Py PreviewTables :=
  transactions.foldlM (perform context) s

theorem performAll_run {transactions : List Transaction}
    (h : performAll context s transactions = .ok s') : Run context.workspaceIdentity s s' := by
  induction transactions generalizing s with
  | nil =>
      obtain rfl : s = s' := pure_eq_ok.mp h
      exact .refl
  | cons transaction transactions ih =>
      rw [performAll, List.foldlM_cons, bind_eq_ok] at h
      obtain ⟨between, hfirst, hrest⟩ := h
      exact .head ⟨context, transaction, rfl, hfirst⟩ (ih hrest)

end

/-! ## One active audit on the latest revision -/

/-- In every reachable state a Preview has at most one formal audit that is
active, on its latest revision, and an audit that has left `Active` stays out. -/
theorem single_active_audit [DatetimeLibrary] [PythonLibrary] [UnicodeLibrary] [IntegerLibrary]
    [CasefoldLibrary] [SqliteLibrary] {workspace : String} {s : PreviewTables}
    (h : Reachable workspace s) :
    (∀ auditId auditId' a a', FormallyActive s auditId a → FormallyActive s auditId' a' →
        a.previewId = a'.previewId → auditId = auditId') ∧
      (∀ auditId a, FormallyActive s auditId a →
        s.previews.latestRevision a.previewId = some a.revision) ∧
      ∀ s', Run workspace s s' → ∀ auditId a, s.audits.latest auditId = some a →
        a.status ≠ .active → ∃ a', s'.audits.latest auditId = some a' ∧ a'.status ≠ .active :=
  ⟨h.invariant.unique, h.invariant.newest, fun _ hrun _ _ ha hinactive => hrun.inactive ha hinactive⟩

/-- An audit of no formal commit, as `create` makes it. -/
def sampleAudit [DatetimeLibrary] [PythonLibrary] : AuditRecord :=
  AuditRecord.restamp
    { auditId := "audit-1", previewId := "preview-1", revision := 1, planDigest := "plan"
      remoteSnapshotDigest := none, auditDigest := "pending", result := .passed
      operationSetDigest := "operations", status := .active, sealedPreviewDigest := ""
      workspaceIdentity := "", auditScope := "Conceptual", auditPayloadDigest := ""
      auditContextDigest := "", ruleRegistryVersion := none, ruleRegistryDigest := none
      ruleEvaluations := [], findings := [], evidenceRefs := [], createdAt := ""
      valid :=
        { revision := by decide
          present := by decide
          remote := by decide
          formal := fun h => absurd rfl h } } .active

def sampleTables [DatetimeLibrary] [PythonLibrary] : PreviewTables :=
  { PreviewTables.empty with
    audits := (History.empty.append "audit-1" sampleAudit).append "audit-1"
      (sampleAudit.restamp .stale) }

theorem verifyDigest_restamp [DatetimeLibrary] [PythonLibrary] (a : AuditRecord)
    (status : AuditStatus) : (a.restamp status).verifyDigest = true := by
  have hne : (a.restamp status).auditDigest ≠ "" := digest_ne_empty _
  simp only [AuditRecord.verifyDigest, ne_eq, hne, not_false_eq_true, decide_true, Bool.true_and,
    decide_eq_true_eq]
  rfl

/-- The audit is recorded, and then made stale. -/
theorem sample_reachable [DatetimeLibrary] [PythonLibrary] [UnicodeLibrary] [IntegerLibrary]
    [CasefoldLibrary] [SqliteLibrary] : Reachable "workspace-1" sampleTables := by
  have hrecorded : AuditCommits.recordAudit sampleAudit .empty =
      .ok { PreviewTables.empty with audits := History.empty.append "audit-1" sampleAudit } := by
    have hverify : sampleAudit.verifyDigest = true := verifyDigest_restamp _ _
    simp only [AuditCommits.recordAudit, hverify]
    rfl
  have hmoved : sampleAudit.transition .stale = .ok (sampleAudit.restamp .stale) :=
    transition_stale rfl
  refine .tail (.single ⟨⟨"workspace-1", none, "scope-1"⟩, .recordAudit sampleAudit, rfl,
    hrecorded⟩) ⟨⟨"workspace-1", none, "scope-1"⟩, .transitionAuditStatus "audit-1" .stale, rfl, ?_⟩
  simp only [perform, AuditCommits.transitionAuditStatus, History.latest_append_self, orRaise,
    hmoved, bind, Except.bind]
  rfl

@[reducible] def referenceDatetimes : DatetimeLibrary where
  fromisoformat _ := none

@[reducible] def referenceUnicode : UnicodeLibrary where
  nfc s := s
  rstrip s := String.ofList (ReferenceLibrary.stripRight s.toList)

@[reducible] def referenceIntegers : IntegerLibrary where
  ofText s := s.toInt?
  ofFloat _ := 0

@[reducible] def referenceCasefold : CasefoldLibrary where
  casefold s := String.ofList (s.toList.map Char.toLower)

@[reducible] def referenceSqlite : SqliteLibrary where
  realText s := s

/-- A recorded audit that was made stale stays out of `Active`. -/
theorem single_active_audit_sample :
    ∃ (_ : DatetimeLibrary) (_ : PythonLibrary) (_ : UnicodeLibrary) (_ : IntegerLibrary)
      (_ : CasefoldLibrary) (_ : SqliteLibrary),
      (∀ auditId auditId' a a', FormallyActive sampleTables auditId a →
          FormallyActive sampleTables auditId' a' → a.previewId = a'.previewId →
          auditId = auditId') ∧
        (∀ auditId a, FormallyActive sampleTables auditId a →
          sampleTables.previews.latestRevision a.previewId = some a.revision) ∧
        ∀ s', Run "workspace-1" sampleTables s' → ∀ auditId a,
          sampleTables.audits.latest auditId = some a → a.status ≠ .active →
            ∃ a', s'.audits.latest auditId = some a' ∧ a'.status ≠ .active := by
  let _ := referenceDatetimes
  let _ := ReferenceLibrary.referenceLibrary
  let _ := referenceUnicode
  let _ := referenceIntegers
  let _ := referenceCasefold
  let _ := referenceSqlite
  exact ⟨_, _, _, _, _, _, single_active_audit sample_reachable⟩

end DeliverySystem.PreviewHistories

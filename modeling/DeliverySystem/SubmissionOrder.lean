import DeliverySystem.AuditSubmissions

/-!
# The order of a submission

The drafts of a submission may come in any order, as may the references within a
draft, and the labels that join them are chosen by the auditor. None of this is
seen in what is recorded, so an audit that is submitted again has the payload it
had before.
-/
namespace DeliverySystem.SubmissionOrder
open PythonValues CanonicalValues AuditRecords AuditCommits AuditRules CommittedAudits
open AuditSubmissions
set_option autoImplicit false

/-- The same evaluation, with its references in another order and under other labels. -/
structure SameEvaluation (rename : String → String) (e e' : RuleEvaluationDraft) : Prop where
  ruleId : e'.ruleId = e.ruleId
  ruleVersion : e'.ruleVersion = e.ruleVersion
  outcome : e'.outcome = e.outcome
  rationale : e'.rationale = e.rationale
  findingRefs : e'.findingRefs.Perm (e.findingRefs.map rename)
  evidenceRefs : e'.evidenceRefs.Perm e.evidenceRefs

/-- The same finding, with its references in another order and under another label. -/
structure SameFinding (rename : String → String) (f f' : FindingDraft) : Prop where
  findingRef : f'.findingRef = rename f.findingRef
  ruleId : f'.ruleId = f.ruleId
  resultClass : f'.resultClass = f.resultClass
  severity : f'.severity = f.severity
  title : f'.title = f.title
  rationale : f'.rationale = f.rationale
  evidenceRefs : f'.evidenceRefs.Perm f.evidenceRefs
  affectedItemIds : f'.affectedItemIds.Perm f.affectedItemIds
  requiredAction : f'.requiredAction = f.requiredAction
  suggestedResolution : f'.suggestedResolution = f.suggestedResolution

/-- The same submission, in another order and under other labels. -/
structure SameSubmission (rename : String → String) (evaluations : List RuleEvaluationDraft)
    (findings : List FindingDraft) (evaluations' : List RuleEvaluationDraft)
    (findings' : List FindingDraft) : Prop where
  injective : ∀ ref ∈ findings.map (·.findingRef), ∀ ref' ∈ findings.map (·.findingRef),
    rename ref = rename ref' → ref = ref'
  evaluations : ∃ reordered, evaluations.Perm reordered ∧
    List.Forall₂ (SameEvaluation rename) reordered evaluations'
  findings : ∃ reordered, findings.Perm reordered ∧
    List.Forall₂ (SameFinding rename) reordered findings'

namespace SameSubmission
variable {rename : String → String} {evaluations evaluations' : List RuleEvaluationDraft}
  {findings findings' : List FindingDraft}

theorem evaluation (h : SameSubmission rename evaluations findings evaluations' findings')
    {e' : RuleEvaluationDraft} (he' : e' ∈ evaluations') :
    ∃ e ∈ evaluations, SameEvaluation rename e e' := by
  obtain ⟨reordered, hperm, hsame⟩ := h.evaluations
  obtain ⟨e, he, hrel⟩ := PairedLists.mem_right hsame he'
  exact ⟨e, hperm.mem_iff.mpr he, hrel⟩

theorem evaluation' (h : SameSubmission rename evaluations findings evaluations' findings')
    {e : RuleEvaluationDraft} (he : e ∈ evaluations) :
    ∃ e' ∈ evaluations', SameEvaluation rename e e' := by
  obtain ⟨reordered, hperm, hsame⟩ := h.evaluations
  exact PairedLists.mem_left hsame (hperm.mem_iff.mp he)

theorem finding (h : SameSubmission rename evaluations findings evaluations' findings')
    {f' : FindingDraft} (hf' : f' ∈ findings') : ∃ f ∈ findings, SameFinding rename f f' := by
  obtain ⟨reordered, hperm, hsame⟩ := h.findings
  obtain ⟨f, hf, hrel⟩ := PairedLists.mem_right hsame hf'
  exact ⟨f, hperm.mem_iff.mpr hf, hrel⟩

theorem finding' (h : SameSubmission rename evaluations findings evaluations' findings')
    {f : FindingDraft} (hf : f ∈ findings) : ∃ f' ∈ findings', SameFinding rename f f' := by
  obtain ⟨reordered, hperm, hsame⟩ := h.findings
  exact PairedLists.mem_left hsame (hperm.mem_iff.mp hf)

/-- The same rules are evaluated. -/
theorem ruleIds (h : SameSubmission rename evaluations findings evaluations' findings') :
    (evaluations'.map (·.ruleId)).Perm (evaluations.map (·.ruleId)) := by
  obtain ⟨reordered, hperm, hsame⟩ := h.evaluations
  have hids : evaluations'.map (·.ruleId) = reordered.map (·.ruleId) := by
    rw [← List.forall₂_eq_eq_eq, List.forall₂_map_left_iff, List.forall₂_map_right_iff]
    exact hsame.flip.imp fun e' e hrel => hrel.ruleId
  rw [hids]
  exact (hperm.map _).symm

/-- The labels are those of before, renamed. -/
theorem labels (h : SameSubmission rename evaluations findings evaluations' findings') :
    (findings'.map (·.findingRef)).Perm ((findings.map (·.findingRef)).map rename) := by
  obtain ⟨reordered, hperm, hsame⟩ := h.findings
  have hlabels : findings'.map (·.findingRef) = (reordered.map (·.findingRef)).map rename := by
    rw [List.map_map, ← List.forall₂_eq_eq_eq, List.forall₂_map_left_iff,
      List.forall₂_map_right_iff]
    exact hsame.flip.imp fun f' f hrel => hrel.findingRef
  rw [hlabels]
  exact ((hperm.map _).map _).symm

section
variable [PythonLibrary] [UnicodeLibrary]
variable {registry : RuleRegistry} {context : AuditContext} {evidence items : List Value}
  {entries : List FindingEntry}

/-- The same finding is recorded as the same entry. -/
theorem identifyFinding_eq
    (h : SameSubmission rename evaluations findings evaluations' findings')
    (haccepted : Accepted registry context evaluations findings evidence items entries)
    {f f' : FindingDraft} (hsame : SameFinding rename f f') {entry : FindingEntry}
    (hentry : identifyFinding context registry.semanticRules evaluations evidence items f =
      .ok entry) :
    identifyFinding context registry.semanticRules evaluations' evidence items f' = .ok entry := by
  obtain ⟨e, outcome, rule, findingId, hfound, hread, hrule, hitems, hevidence, hclass, hvalid,
    hseverity, hbuilt, rfl⟩ := identifyFinding_eq_ok.mp hentry
  obtain ⟨he, hid⟩ := find?_ruleId hfound
  obtain ⟨e', he', hsameEvaluation⟩ := h.evaluation' he
  have hdistinct : (evaluations'.map (·.ruleId)).Nodup :=
    h.ruleIds.nodup_iff.mpr haccepted.distinct
  have hfound' := find?_key RuleEvaluationDraft.ruleId hdistinct he'
  rw [hsameEvaluation.ruleId, hid, ← hsame.ruleId] at hfound'
  have hcontent : f'.content rule.ruleVersion outcome.text =
      { f.content rule.ruleVersion outcome.text with
        evidenceRefs := f'.evidenceRefs, affectedItemIds := f'.affectedItemIds } := by
    simp only [FindingDraft.content, hsame.ruleId, hsame.resultClass, hsame.severity, hsame.title,
      hsame.rationale, hsame.requiredAction, hsame.suggestedResolution]
  have hbuilt' : buildFindingId context.workspaceIdentity context.previewId context.revision
      (f'.content rule.ruleVersion outcome.text) = .ok findingId := by
    rw [hcontent]
    exact (buildFindingId_perm hsame.evidenceRefs hsame.affectedItemIds).trans hbuilt
  have hentries : findingEntry (f.content rule.ruleVersion outcome.text) findingId =
      findingEntry (f'.content rule.ruleVersion outcome.text) findingId := by
    rw [hcontent]
    simp only [findingEntry, sortTexts_eq hsame.evidenceRefs, sortTexts_eq hsame.affectedItemIds]
    rfl
  refine identifyFinding_eq_ok.mpr ⟨e', outcome, rule, findingId, hfound',
    by rw [hsameEvaluation.outcome]; exact hread, by rw [hsame.ruleId]; exact hrule,
    fun item hitem => hitems item (hsame.affectedItemIds.mem_iff.mp hitem),
    fun ref href => hevidence ref (hsame.evidenceRefs.mem_iff.mp href), ?_, ?_, ?_, hbuilt',
    hentries⟩
  · rw [hsame.resultClass]
    exact hclass
  · rw [hsame.resultClass]
    exact hvalid
  · rw [hsame.severity]
    exact hseverity

theorem references
    (h : SameSubmission rename evaluations findings evaluations' findings')
    (haccepted : Accepted registry context evaluations findings evidence items entries)
    {e' : RuleEvaluationDraft} (he' : e' ∈ evaluations') :
    checkDraftReferences findings' e' = .ok () := by
  obtain ⟨e, he, hsame⟩ := h.evaluation he'
  obtain ⟨outcome, hread, hopen, hpassed, hrefs⟩ :=
    checkDraftReferences_eq_ok.mp (haccepted.references e he)
  have hnil : e'.findingRefs = [] ↔ e.findingRefs = [] := by
    rw [← List.length_eq_zero_iff, ← List.length_eq_zero_iff, hsame.findingRefs.length_eq,
      List.length_map]
  rw [checkDraftReferences_eq_ok, hsame.outcome, hsame.ruleId, ne_eq, hnil]
  refine ⟨outcome, hread, hopen, hpassed, fun ref href => ?_⟩
  obtain ⟨label, hlabel, rfl⟩ := List.mem_map.mp (hsame.findingRefs.mem_iff.mp href)
  obtain ⟨f, hf, rfl, hrule⟩ := hrefs label hlabel
  obtain ⟨f', hf', hsameFinding⟩ := h.finding' hf
  exact ⟨f', hf', hsameFinding.findingRef, hsameFinding.ruleId.trans hrule⟩

/-- The same submission is accepted, with the same findings in the order of its own. -/
theorem accepted
    (h : SameSubmission rename evaluations findings evaluations' findings')
    (haccepted : Accepted registry context evaluations findings evidence items entries) :
    ∃ entries', entries.Perm entries' ∧
      Accepted registry context evaluations' findings' evidence items entries' := by
  obtain ⟨reordered, hperm, hsame⟩ := h.findings
  obtain ⟨entries', hidentified, hentries⟩ :=
    List.perm_comp_forall₂ hperm.symm haccepted.identified
  have hjoin : ∀ f f' entry, SameFinding rename f f' →
      identifyFinding context registry.semanticRules evaluations evidence items f = .ok entry →
      identifyFinding context registry.semanticRules evaluations' evidence items f' = .ok entry :=
    fun _ _ _ hrel hentry => h.identifyFinding_eq haccepted hrel hentry
  have hidentified' := PairedLists.forall₂_join hjoin hsame hidentified
  refine ⟨entries', hentries.symm, ?_⟩
  exact
    { evidenceKnown := haccepted.evidenceKnown
      itemsKnown := haccepted.itemsKnown
      gates := by
        intro e' he'
        obtain ⟨e, he, hrel⟩ := h.evaluation he'
        rw [hrel.ruleId]
        exact haccepted.gates e he
      rules := by
        intro e' he'
        obtain ⟨e, he, hrel⟩ := h.evaluation he'
        rw [hrel.ruleId]
        exact haccepted.rules e he
      distinct := h.ruleIds.nodup_iff.mpr haccepted.distinct
      applicable := by
        intro e' he'
        obtain ⟨e, he, hrel⟩ := h.evaluation he'
        rw [hrel.outcome]
        exact haccepted.applicable e he
      versions := by
        intro e' he' rule hrule hid
        obtain ⟨e, he, hrel⟩ := h.evaluation he'
        rw [hrel.ruleVersion]
        exact haccepted.versions e he rule hrule (hid.trans hrel.ruleId)
      evidenceRefs := by
        intro e' he' ref href
        obtain ⟨e, he, hrel⟩ := h.evaluation he'
        exact haccepted.evidenceRefs e he ref (hrel.evidenceRefs.mem_iff.mp href)
      coverage := by
        intro c hc
        rw [checkCoverage_eq_ok, h.ruleIds.mem_iff]
        exact checkCoverage_eq_ok.mp (haccepted.coverage c hc)
      labels := h.labels.nodup_iff.mpr (haccepted.labels.map_on h.injective)
      identified := hidentified'
      distinctIds := (hentries.map _).nodup_iff.mpr haccepted.distinctIds
      references := fun _ he' => h.references haccepted he'
      referenced := by
        intro f' hf'
        obtain ⟨f, hf, hrel⟩ := h.finding hf'
        obtain ⟨e, he, href⟩ := List.mem_flatMap.mp (haccepted.referenced f hf)
        obtain ⟨e', he', hrelEvaluation⟩ := h.evaluation' he
        refine List.mem_flatMap.mpr ⟨e', he', hrelEvaluation.findingRefs.mem_iff.mpr ?_⟩
        rw [hrel.findingRef]
        exact List.mem_map_of_mem href }

variable {entries' : List FindingEntry}

/-- A finding has the identity it had, under its other label. -/
theorem identityOf_rename
    (h : SameSubmission rename evaluations findings evaluations' findings')
    (haccepted : Accepted registry context evaluations findings evidence items entries)
    (haccepted' : Accepted registry context evaluations' findings' evidence items entries')
    {ref : String} (href : ref ∈ findings.map (·.findingRef)) :
    identityOf (identities findings' entries') (rename ref) =
      identityOf (identities findings entries) ref := by
  obtain ⟨f, hf, rfl⟩ := List.mem_map.mp href
  obtain ⟨f', hf', hsame⟩ := h.finding' hf
  obtain ⟨entry, -, hid, hidentified⟩ := haccepted.entry hf
  obtain ⟨entry', -, hid', hidentified'⟩ := haccepted'.entry hf'
  rw [h.identifyFinding_eq haccepted hsame hidentified] at hidentified'
  obtain rfl := Except.ok.inj hidentified'
  rw [hid, ← hid', hsame.findingRef]

/-- The same evaluation is recorded as the same answer. -/
theorem evaluationEntry_eq
    (h : SameSubmission rename evaluations findings evaluations' findings')
    (haccepted : Accepted registry context evaluations findings evidence items entries)
    (haccepted' : Accepted registry context evaluations' findings' evidence items entries')
    {e e' : RuleEvaluationDraft} (he : e ∈ evaluations) (hsame : SameEvaluation rename e e') :
    evaluationEntry (identities findings' entries') e' =
      evaluationEntry (identities findings entries) e := by
  have hids : (e.findingRefs.map rename).map (identityOf (identities findings' entries')) =
      e.findingRefs.map (identityOf (identities findings entries)) := by
    rw [List.map_map]
    exact List.map_congr_left fun ref href =>
      h.identityOf_rename haccepted haccepted' (haccepted.label he href)
  have hrefs := sortTexts_eq
    (hsame.findingRefs.map (identityOf (identities findings' entries')))
  rw [hids] at hrefs
  simp only [evaluationEntry, hsame.ruleId, hsame.ruleVersion, hsame.outcome, hsame.rationale,
    hrefs, sortTexts_eq hsame.evidenceRefs]

/-- The answers are the same, in another order. -/
theorem answers_perm
    (h : SameSubmission rename evaluations findings evaluations' findings')
    (haccepted : Accepted registry context evaluations findings evidence items entries)
    (haccepted' : Accepted registry context evaluations' findings' evidence items entries') :
    (answersOf context evaluations (identities findings entries)).Perm
      (answersOf context evaluations' (identities findings' entries')) := by
  obtain ⟨reordered, hperm, hsame⟩ := h.evaluations
  have hentries : evaluations'.map (evaluationEntry (identities findings' entries')) =
      reordered.map (evaluationEntry (identities findings entries)) := by
    rw [← List.forall₂_eq_eq_eq, List.forall₂_map_left_iff, List.forall₂_map_right_iff]
    refine PairedLists.forall₂_imp_mem hsame.flip fun e' e _ he hrel => ?_
    exact h.evaluationEntry_eq haccepted haccepted' (hperm.mem_iff.mpr he) hrel
  rw [answersOf, answersOf, hentries]
  exact (hperm.map _).append_right _

end

end SameSubmission

section
variable [PythonLibrary] [UnicodeLibrary]
variable {rename : String → String} {evaluations evaluations' : List RuleEvaluationDraft}
  {findings findings' : List FindingDraft} {registry : RuleRegistry} {context : AuditContext}

/-- The same submission is validated to the same record. -/
theorem validate_same (hregistry : registry.Lawful) (hcontext : ContextOf registry context)
    (h : SameSubmission rename evaluations findings evaluations' findings')
    {recorded : List EvaluationEntry × List FindingEntry}
    (hvalid : validate registry context evaluations findings = .ok recorded) :
    validate registry context evaluations' findings' = .ok recorded := by
  have hcontexts : (context.semanticRuleContexts.map (·.ruleId)).Nodup := by
    rw [hcontext.ruleIds]
    exact hregistry.distinct
  obtain ⟨answers, reports⟩ := recorded
  obtain ⟨evidence, items, entries, haccepted, rfl, rfl⟩ :=
    (validate_eq_ok hregistry.distinct hcontexts).mp hvalid
  obtain ⟨entries', hperm, haccepted'⟩ := h.accepted haccepted
  refine (validate_eq_ok hregistry.distinct hcontexts).mpr
    ⟨evidence, items, entries', haccepted', ?_, ?_⟩
  · refine SnapshotForms.insertionSort_eq_of_perm (h.answers_perm haccepted haccepted')
      fun a ha b hb hab hba => ?_
    exact List.inj_on_of_nodup_map (haccepted.answers_nodup hcontext hregistry.distinct) ha hb
      (le_antisymm hab hba)
  · refine SnapshotForms.insertionSort_eq_of_perm hperm fun a ha b hb hab hba => ?_
    exact List.inj_on_of_nodup_map haccepted.distinctIds ha hb (le_antisymm hab hba)

variable [DatetimeLibrary] {a a' : AuditRecord}

/-- What names the submission is read of neither the identity of the audit nor its instant. -/
theorem makeAudit_payload {auditId createdAt auditId' createdAt' : String}
    {answers : List EvaluationEntry} {reports : List FindingEntry}
    (h : makeAudit context auditId createdAt answers reports = .ok a)
    (h' : makeAudit context auditId' createdAt' answers reports = .ok a') :
    a'.auditPayloadDigest = a.auditPayloadDigest := by
  have hprojection : auditProjection a' = auditProjection a := by
    simp only [makeAudit, auditFields, bind_eq_ok, pure_eq_ok, createAudit] at h h'
    obtain ⟨_, ⟨_, hsealed, _, hplan, _, hoperations, _, hremote, _, hscope, _, hrefs, _, -, rfl⟩,
      hmade⟩ := h
    obtain ⟨_, ⟨_, hsealed', _, hplan', _, hoperations', _, hremote', _, hscope', _, hrefs', _, -,
      rfl⟩, hmade'⟩ := h'
    rw [hsealed] at hsealed'
    rw [hplan] at hplan'
    rw [hoperations] at hoperations'
    rw [hremote] at hremote'
    rw [hscope] at hscope'
    rw [hrefs] at hrefs'
    cases hsealed'
    cases hplan'
    cases hoperations'
    cases hremote'
    cases hscope'
    cases hrefs'
    split_ifs at hmade hmade'
    cases hmade
    cases hmade'
    rfl
  have hdigest := (madeOf_makeAudit h).payload
  have hdigest' := (madeOf_makeAudit h').payload
  rw [hprojection, hdigest] at hdigest'
  exact (Except.ok.inj hdigest').symm

/-- An audit that is submitted again, in another order and under other labels, is recorded with
the payload it had. -/
theorem resubmission_payload (hregistry : registry.Lawful)
    {workspace previewId expectedContextDigest auditId createdAt auditId' createdAt' : String}
    {revision : Int} {canonical : Dict} {evidence : List Dict}
    (hcontext :
      AuditContext.make workspace registry previewId revision canonical evidence = .ok context)
    (hsame : SameSubmission rename evaluations findings evaluations' findings')
    (h : recordSubmission registry context expectedContextDigest auditId createdAt evaluations
      findings = .ok a) :
    recordSubmission registry context expectedContextDigest auditId createdAt evaluations'
        findings' = .ok a ∧
      ∀ a', recordSubmission registry context expectedContextDigest auditId' createdAt'
        evaluations' findings' = .ok a' → a'.auditPayloadDigest = a.auditPayloadDigest := by
  simp only [recordSubmission, bind_eq_ok, raiseIf_eq_ok] at h ⊢
  obtain ⟨_, hrevision, _, hpattern, _, hfresh, recorded, hvalid, made, hmade, _, hcommitted,
    hmadeEq⟩ := h
  obtain rfl := Except.ok.inj hmadeEq
  have hvalid' := validate_same hregistry (contextOf_make hcontext) hsame hvalid
  refine ⟨⟨(), hrevision, (), hpattern, (), hfresh, recorded, hvalid', made, hmade, (), hcommitted,
    rfl⟩, ?_⟩
  rintro a' ⟨_, -, _, -, _, -, recorded', hrecorded', made', hmade', _, -, hmadeEq'⟩
  obtain rfl := Except.ok.inj hmadeEq'
  rw [hvalid'] at hrecorded'
  obtain rfl := Except.ok.inj hrecorded'
  exact makeAudit_payload hmade hmade'

end

section
attribute [local instance] ReferenceLibrary.referenceLibrary PreviewHistories.referenceUnicode
  ResubmittedAudits.sampleDatetimes AttestationReference.referenceLibrary_digests

theorem sample_recorded : ∃ context a,
    AuditContext.make "workspace-1" buildRegistryV1 "preview-1" 1 sampleCanonical [] =
        .ok context ∧
      recordSubmission buildRegistryV1 context context.auditContextDigest "audit-1"
        "2026-01-01T00:00:00Z" (sampleEvaluations "outcome") sampleFindings = .ok a := by
  obtain ⟨context, answers, reports, a, hcontext, hvalid, hmade, hrevision⟩ := sample_made
  have hcontextOf := contextOf_make hcontext
  have hcontexts : (context.semanticRuleContexts.map (·.ruleId)).Nodup := by
    rw [hcontextOf.ruleIds]
    exact buildRegistryV1_lawful.distinct
  obtain ⟨_, -, hdigest⟩ := hcontextOf.digest
  simp only [computeAuditContextDigest, canonicalDigest, bind_eq_ok, pure_eq_ok] at hdigest
  obtain ⟨_, -, _, -, hdigest⟩ := hdigest
  have hpattern : AuthorityBindings.hexPattern "sha256:" context.auditContextDigest = true := by
    rw [← hdigest]
    exact AttestationClaims.hexPattern_append (AttestationClaims.LawfulDigestLibrary.hexdigest _)
  obtain ⟨known, items, entries, haccepted, rfl, rfl⟩ :=
    (validate_eq_ok buildRegistryV1_lawful.distinct hcontexts).mp hvalid
  have hcommitted := (validateCommittedAudit_eq_ok buildRegistryV1_lawful.distinct).mpr
    ⟨_, _, _, _, haccepted.committed hcontextOf buildRegistryV1_lawful (madeOf_makeAudit hmade)
      (sample_presentable "outcome")⟩
  refine ⟨context, a, hcontext, ?_⟩
  simp only [recordSubmission, bind_eq_ok, raiseIf_eq_ok]
  exact ⟨(), by omega, (), by simp [hpattern], (), fun h => h rfl, _, hvalid, a, hmade, (),
    hcommitted, rfl⟩

/-- The sample, backwards and under another label. -/
theorem sample_same : SameSubmission (fun _ => "finding-1") (sampleEvaluations "outcome")
    sampleFindings (sampleEvaluations "finding-1").reverse
    [sampleFinding "finding-1" ["item-2", "item-1"]] where
  injective := by
    simp [sampleFindings]
  evaluations := by
    refine ⟨(sampleEvaluations "outcome").reverse, (List.reverse_perm _).symm, ?_⟩
    have hsame (ruleId ruleVersion outcome : String) (findingRefs : List String) :
        SameEvaluation (fun _ => "finding-1")
          (sampleEvaluation ruleId ruleVersion outcome findingRefs)
          (sampleEvaluation ruleId ruleVersion outcome (findingRefs.map fun _ => "finding-1")) :=
      ⟨rfl, rfl, rfl, rfl, .refl _, .refl _⟩
    rw [List.forall₂_reverse_iff]
    exact .cons (hsame ..) (.cons (hsame ..) (.cons (hsame ..) (.cons (hsame ..) .nil)))
  findings := ⟨sampleFindings, .refl _,
    .cons ⟨rfl, rfl, rfl, rfl, rfl, rfl, .refl _, .swap _ _ _, rfl, rfl⟩ .nil⟩

theorem resubmission_payload_sample :
    ∃ (_ : DatetimeLibrary) (_ : PythonLibrary) (_ : UnicodeLibrary) (context : AuditContext)
      (a : AuditRecord),
      recordSubmission buildRegistryV1 context context.auditContextDigest "audit-1"
          "2026-01-01T00:00:00Z" (sampleEvaluations "finding-1").reverse
          [sampleFinding "finding-1" ["item-2", "item-1"]] = .ok a ∧
        ∀ a', recordSubmission buildRegistryV1 context context.auditContextDigest "audit-2"
          "2026-01-02T00:00:00Z" (sampleEvaluations "finding-1").reverse
          [sampleFinding "finding-1" ["item-2", "item-1"]] = .ok a' →
            a'.auditPayloadDigest = a.auditPayloadDigest := by
  obtain ⟨context, a, hcontext, hrecorded⟩ := sample_recorded
  exact ⟨_, _, _, context, a,
    resubmission_payload buildRegistryV1_lawful hcontext sample_same hrecorded⟩

end

end DeliverySystem.SubmissionOrder

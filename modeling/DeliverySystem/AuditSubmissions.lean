import DeliverySystem.AuthorityBindings
import DeliverySystem.CommittedAudits
import DeliverySystem.ResubmittedAudits
import DeliverySystem.SnapshotForms

/-!
# Submissions of an auditor

An auditor submits drafts of evaluations and findings under labels of its own.
The submission is validated against the context of the Preview, the findings get
their identities, and the rules that do not apply are answered by the runtime.
What comes out does not depend on the order of the drafts or on their labels, and
a submission that is accepted passes the commit, unless a rationale is empty or a
reference is given twice.
-/
namespace DeliverySystem.AuditSubmissions
open PythonValues CanonicalValues IssueCommands ExecutionContexts
open AuditRecords SealedPreviews AuditCommits AuditRules CommittedAudits AuthorityBindings
set_option autoImplicit false

/-! ## The context of a submission -/

structure SemanticRuleContext where
  ruleId : String
  ruleVersion : String
  applicable : Bool
  mandatory : Bool
  inputScope : String
  evaluationContract : String
  allowedOutcomes : List String
  allowedResultClasses : List String
deriving Repr, DecidableEq

namespace SemanticRuleContext

def applicability (c : SemanticRuleContext) : String :=
  if c.applicable then "Applicable" else "NotApplicable"

def applicabilityReason (c : SemanticRuleContext) : String :=
  if c.applicable then "required by registry"
  else "no matching relationship or remote evidence"

def make (canonical : Dict) (rule : RuleDefinition) : Py SemanticRuleContext := do
  let applicable ← ruleIsApplicable rule canonical
  pure
    { ruleId := rule.ruleId, ruleVersion := rule.ruleVersion, applicable
      mandatory := rule.mandatory, inputScope := rule.inputScope
      evaluationContract := rule.evaluationContract, allowedOutcomes := rule.allowedOutcomes
      allowedResultClasses := [rule.failedResultClass, rule.unknownResultClass,
        rule.blockedResultClass].filterMap id }

end SemanticRuleContext

/-- The context that an auditor is given of one revision. -/
structure AuditContext where
  workspaceIdentity : String
  previewId : String
  revision : Int
  sealedPreview : Dict
  evidenceRecords : List Dict
  auditScope : Value
  ruleRegistryVersion : String
  ruleRegistryDigest : String
  semanticRuleContexts : List SemanticRuleContext
  auditContextDigest : String

section
variable [PythonLibrary] [UnicodeLibrary]

/-- `RuntimeAuditor.get_context`, of a revision and its evidence. -/
def AuditContext.make (workspace : String) (registry : RuleRegistry) (previewId : String)
    (revision : Int) (canonical : Dict) (evidence : List Dict) : Py AuditContext := do
  let semanticRuleContexts ← registry.semanticRules.mapM (SemanticRuleContext.make canonical)
  let auditScope ← Dict.require canonical "preview_level"
  let ruleRegistryDigest ← registry.registryDigest
  let sealedPreviewDigest ← Dict.require canonical "sealed_preview_digest"
  let auditContextDigest ← computeAuditContextDigest workspace previewId revision
    sealedPreviewDigest evidence (some registry.registryVersion) (some ruleRegistryDigest)
    auditScope
  pure
    { workspaceIdentity := workspace, previewId, revision, sealedPreview := canonical
      evidenceRecords := evidence, auditScope, ruleRegistryVersion := registry.registryVersion
      ruleRegistryDigest, semanticRuleContexts, auditContextDigest }

end

/-! ## Drafts -/

structure RuleEvaluationDraft where
  ruleId : String
  ruleVersion : String
  outcome : String
  rationale : String
  findingRefs : List String
  evidenceRefs : List String
deriving Repr, DecidableEq

structure FindingDraft where
  findingRef : String
  ruleId : String
  resultClass : String
  severity : String
  title : String
  rationale : String
  evidenceRefs : List String
  affectedItemIds : List String
  requiredAction : String
  suggestedResolution : Option String
deriving Repr, DecidableEq

/-- What the finding says, under the version of its rule and the outcome of its evaluation. -/
def FindingDraft.content (f : FindingDraft) (ruleVersion outcome : String) : FindingContent where
  ruleId := f.ruleId
  ruleVersion := ruleVersion
  outcome := outcome
  resultClass := f.resultClass
  severity := f.severity
  title := f.title
  rationale := f.rationale
  evidenceRefs := f.evidenceRefs
  affectedItemIds := f.affectedItemIds
  requiredAction := f.requiredAction
  suggestedResolution := f.suggestedResolution

/-! ## The validation of a submission -/

/-- What is asked of the evaluations before the findings are looked at. -/
def checkEvaluations (registry : RuleRegistry) (rules : List RuleDefinition)
    (evidence : List Value) (evaluations : List RuleEvaluationDraft) : Py Unit := do
  raiseIf (∃ e ∈ evaluations, e.ruleId ∈ registry.runtimeRules.map (·.ruleId))
    "invalid_runtime_rule_submission"
  raiseIf (∃ e ∈ evaluations, e.ruleId ∉ rules.map (·.ruleId)) "invalid_input"
  raiseIf (¬(evaluations.map (·.ruleId)).Nodup) "invalid_input"
  raiseIf (∃ e ∈ evaluations, e.outcome = "NotApplicable") "invalid_not_applicable_submission"
  raiseIf (∃ e ∈ evaluations, ∃ rule ∈ rules, rule.ruleId = e.ruleId ∧
    e.ruleVersion ≠ rule.ruleVersion) "invalid_input"
  raiseIf (∃ e ∈ evaluations, ∃ ref ∈ e.evidenceRefs, .str ref ∉ evidence) "invalid_input"

/-- Every mandatory rule that applies is evaluated, and no other rule. -/
def checkCoverage (evaluations : List RuleEvaluationDraft) (c : SemanticRuleContext) : Py Unit := do
  raiseIf (c.applicable = true ∧ c.mandatory = true ∧ c.ruleId ∉ evaluations.map (·.ruleId))
    "audit_coverage_incomplete"
  raiseIf (c.applicable = false ∧ c.ruleId ∈ evaluations.map (·.ruleId)) "invalid_input"

/-- The references of one evaluation. -/
def checkDraftReferences (findings : List FindingDraft) (e : RuleEvaluationDraft) : Py Unit := do
  let outcome ← orRaise (SemanticOutcome.ofText? e.outcome)
    (.valueError (invalidMember e.outcome "SemanticOutcome"))
  raiseIf (outcome ∈ [.failed, .unknown, .blocked] ∧ e.findingRefs = []) "invalid_input"
  raiseIf (outcome = .passed ∧ e.findingRefs ≠ []) "invalid_input"
  raiseIf (¬∀ ref ∈ e.findingRefs, ∃ f ∈ findings, f.findingRef = ref ∧ f.ruleId = e.ruleId)
    "invalid_input"

/-- The identity of the finding under a label. -/
def identityOf (ids : List (String × String)) (ref : String) : String := (ids.lookup ref).getD ""

/-- The evaluation as it is recorded. -/
def evaluationEntry (ids : List (String × String)) (e : RuleEvaluationDraft) :
    EvaluationEntry where
  ruleId := e.ruleId
  ruleVersion := e.ruleVersion
  outcome := e.outcome
  rationale := e.rationale
  -- every reference is that of a finding here
  findingRefs := sortTexts (e.findingRefs.map (identityOf ids))
  evidenceRefs := sortTexts e.evidenceRefs

/-- The answer to a rule that does not apply. -/
def notApplicableEntry (c : SemanticRuleContext) : EvaluationEntry where
  ruleId := c.ruleId
  ruleVersion := c.ruleVersion
  outcome := "NotApplicable"
  rationale := c.applicabilityReason
  findingRefs := []
  evidenceRefs := []

/-- The finding as it is recorded. -/
def findingEntry (c : FindingContent) (findingId : String) : FindingEntry where
  toFindingContent := { c with
    evidenceRefs := sortTexts c.evidenceRefs
    affectedItemIds := sortTexts c.affectedItemIds }
  findingId := findingId

section
variable [PythonLibrary] [UnicodeLibrary]

/-- A finding, with what it says and its identity. -/
def identifyFinding (context : AuditContext) (rules : List RuleDefinition)
    (evaluations : List RuleEvaluationDraft) (evidence items : List Value) (f : FindingDraft) :
    Py FindingEntry := do
  let e ← orRaise (evaluations.find? (·.ruleId = f.ruleId)) (.valueError "invalid_input")
  raiseIf (∃ item ∈ f.affectedItemIds, .str item ∉ items) "invalid_input"
  raiseIf (∃ ref ∈ f.evidenceRefs, .str ref ∉ evidence) "invalid_input"
  let resultClass ← orRaise (ResultClass.ofText? f.resultClass) (.valueError "invalid_input")
  let outcome ← orRaise (SemanticOutcome.ofText? e.outcome) (.valueError "invalid_input")
  let rule ← orRaise (rules.find? (·.ruleId = f.ruleId)) .keyError
  raiseIf (rule.resultClass outcome ≠ some resultClass.text) "invalid_input"
  raiseIf (f.severity ∉ severities) "invalid_input"
  let content := f.content rule.ruleVersion outcome.text
  let findingId ← buildFindingId context.workspaceIdentity context.previewId context.revision
    content
  pure (findingEntry content findingId)

/-- `_validate` -/
def validate (registry : RuleRegistry) (context : AuditContext)
    (evaluations : List RuleEvaluationDraft) (findings : List FindingDraft) :
    Py (List EvaluationEntry × List FindingEntry) := do
  let rules := byKey (·.ruleId) registry.semanticRules
  let contexts := byKey (·.ruleId) context.semanticRuleContexts
  let evidence ← evidenceIds context.evidenceRecords
  checkEvaluations registry rules evidence evaluations
  contexts.forM (checkCoverage evaluations)
  raiseIf (¬(findings.map (·.findingRef)).Nodup) "invalid_input"
  let items ← itemIds context.sealedPreview
  let entries ← findings.mapM (identifyFinding context rules evaluations evidence items)
  raiseIf (¬(entries.map (·.findingId)).Nodup) "invalid_input"
  evaluations.forM (checkDraftReferences findings)
  raiseIf (¬∀ f ∈ findings, f.findingRef ∈ evaluations.flatMap (·.findingRefs)) "invalid_input"
  let ids := (findings.map (·.findingRef)).zip (entries.map (·.findingId))
  let answers := evaluations.map (evaluationEntry ids) ++
    (contexts.filter fun c => c.applicable = false).map notApplicableEntry
  pure (answers.insertionSort fun a b => a.ruleId ≤ b.ruleId,
    entries.insertionSort fun a b => a.findingId ≤ b.findingId)

end

/-! ## The audit of a submission -/

section
variable [DatetimeLibrary] [PythonLibrary] [UnicodeLibrary]

instance (f : AuditFields) : Decidable f.Formal :=
  decidable_of_iff
    ((f.sealedPreviewDigest ≠ "" ∧ f.workspaceIdentity ≠ "" ∧ f.auditContextDigest ≠ "") ∧
      (absentText f.ruleRegistryVersion = false ∧ absentText f.ruleRegistryDigest = false) ∧
      f.createdAt ≠ "" ∧ (parseTimestamp f.createdAt).bind ParsedDatetime.offset = some 0)
    ⟨fun h => ⟨h.1, h.2.1, h.2.2⟩, fun h => ⟨h.bound, h.registry, h.created⟩⟩

/-- The fields that every audit must have. -/
def requiredFields (f : AuditFields) : Prop :=
  1 ≤ f.revision ∧
    (∀ text ∈ [f.auditId, f.previewId, f.planDigest, f.auditDigest, f.operationSetDigest],
      text ≠ "") ∧ f.remoteSnapshotDigest ≠ some ""

instance (f : AuditFields) : Decidable (requiredFields f) :=
  inferInstanceAs (Decidable (_ ∧ _ ∧ _))

/-- The fields without which an audit is not formal. -/
def formalFieldsPresent (f : AuditFields) : Prop :=
  (f.sealedPreviewDigest ≠ "" ∧ f.workspaceIdentity ≠ "" ∧ f.auditContextDigest ≠ "") ∧
    (absentText f.ruleRegistryVersion = false ∧ absentText f.ruleRegistryDigest = false) ∧
      f.createdAt ≠ ""

instance (f : AuditFields) : Decidable (formalFieldsPresent f) :=
  inferInstanceAs (Decidable (_ ∧ _ ∧ _))

/-- `AuditRecord.create`: the record is made with a pending digest and stamped. -/
def createAudit (fields : AuditFields) : Py AuditRecord :=
  let f := { fields with auditDigest := "pending", status := .active }
  if hrequired : requiredFields f then
    if hformal : f.auditPayloadDigest ≠ "" → f.Formal then
      .ok (AuditRecord.restamp
        ⟨f, ⟨hrequired.1, hrequired.2.1, hrequired.2.2, hformal⟩⟩ .active)
    else if formalFieldsPresent f then .error (.valueError "audit_created_at_invalid")
    else .error (.valueError "audit_record_formal_fields_invalid")
  else .error (.valueError "AuditRecord required fields are invalid")

/-- A text of a sealed Preview. -/
def sealedText (canonical : Dict) (key : String) : Py String := do
  let value ← Dict.require canonical key
  orRaise value.text? (.valueError "AuditRecord required fields are invalid")

/-- The payload of a submission, whose digest names what was submitted. -/
def submissionPayload (f : AuditFields) : Value :=
  .dict [("workspace_identity", .str f.workspaceIdentity), ("preview_id", .str f.previewId),
    ("revision", .int f.revision), ("audit_scope", .str f.auditScope),
    ("sealed_preview_digest", .str f.sealedPreviewDigest), ("plan_digest", .str f.planDigest),
    ("operation_set_digest", .str f.operationSetDigest),
    ("remote_snapshot_digest", Value.textOrNone f.remoteSnapshotDigest),
    ("audit_context_digest", .str f.auditContextDigest),
    ("rule_registry_version", Value.textOrNone f.ruleRegistryVersion),
    ("rule_registry_digest", Value.textOrNone f.ruleRegistryDigest),
    ("semantic_evaluations", Value.dicts f.ruleEvaluations),
    ("findings", Value.dicts f.findings), ("result", .str f.result.text)]

/-- `tuple(sorted(record["evidence_id"] for record in evidence_records))` -/
def evidenceReferences (evidence : List Dict) : Py (List String) := do
  let references ← evidence.mapM fun record => sealedText record "evidence_id"
  pure (sortTexts references)

/-- The fields of the audit that `record_audit` makes of a validated submission. -/
def auditFields (context : AuditContext) (auditId createdAt : String)
    (evaluations : List EvaluationEntry) (findings : List FindingEntry) : Py AuditFields := do
  let sealedPreviewDigest ← sealedText context.sealedPreview "sealed_preview_digest"
  let planDigest ← sealedText context.sealedPreview "plan_digest"
  let operationSetDigest ← sealedText context.sealedPreview "operation_set_digest"
  let remoteSnapshotDigest ←
    orRaise (optional? Value.text? (context.sealedPreview.get "remote_snapshot_digest"))
      (.valueError "AuditRecord required fields are invalid")
  let auditScope ← orRaise context.auditScope.text?
    (.valueError "AuditRecord required fields are invalid")
  let evidenceRefs ← evidenceReferences context.evidenceRecords
  let fields : AuditFields :=
    { auditId, previewId := context.previewId, revision := context.revision, planDigest
      remoteSnapshotDigest, auditDigest := "pending"
      result := expectedResult (evaluations.map (·.outcome)), operationSetDigest
      status := .active, sealedPreviewDigest, workspaceIdentity := context.workspaceIdentity
      auditScope, auditPayloadDigest := "", auditContextDigest := context.auditContextDigest
      ruleRegistryVersion := some context.ruleRegistryVersion
      ruleRegistryDigest := some context.ruleRegistryDigest
      ruleEvaluations := evaluations.map EvaluationEntry.toDict
      findings := findings.map FindingEntry.toDict, evidenceRefs, createdAt }
  let auditPayloadDigest ← canonicalDigest (submissionPayload fields)
  pure { fields with auditPayloadDigest }

def makeAudit (context : AuditContext) (auditId createdAt : String)
    (evaluations : List EvaluationEntry) (findings : List FindingEntry) : Py AuditRecord := do
  let fields ← auditFields context auditId createdAt evaluations findings
  createAudit fields

/-- `record_audit` up to the commit, on the context that was read. -/
def recordSubmission (registry : RuleRegistry) (context : AuditContext)
    (expectedContextDigest auditId createdAt : String) (evaluations : List RuleEvaluationDraft)
    (findings : List FindingDraft) : Py AuditRecord := do
  raiseIf (context.revision < 1) "invalid_input"
  raiseIf (hexPattern "sha256:" expectedContextDigest = false) "invalid_input"
  raiseIf (expectedContextDigest ≠ context.auditContextDigest) "audit_context_stale"
  let (evaluations, findings) ← validate registry context evaluations findings
  let a ← makeAudit context auditId createdAt evaluations findings
  validateCommittedAudit a context.sealedPreview context.evidenceRecords registry
  pure a

end

/-! ## What a validated submission keeps -/

section
variable {α : Type}

/-- A key finds its item. -/
theorem find?_key (key : α → String) {xs : List α} (h : (xs.map key).Nodup) {x : α} (hx : x ∈ xs) :
    xs.find? (fun y => key y = key x) = some x := by
  cases hfound : xs.find? (fun y => key y = key x) with
  | none =>
      rw [List.find?_eq_none] at hfound
      exact absurd (decide_eq_true rfl) (hfound x hx)
  | some y =>
      obtain ⟨hy, hkey⟩ := find?_ruleId hfound
      rw [List.inj_on_of_nodup_map h hy hx hkey]

/-- A key reads the value beside it. -/
theorem lookup_zip {keys : List String} {values : List α} (h : keys.Nodup) {entry : String × α}
    (hentry : entry ∈ keys.zip values) : (keys.zip values).lookup entry.1 = some entry.2 := by
  induction keys generalizing values with
  | nil => simp at hentry
  | cons key keys ih =>
      cases values with
      | nil => simp at hentry
      | cons value values =>
          rw [List.zip_cons_cons, List.mem_cons] at hentry
          rw [List.zip_cons_cons, List.lookup_cons]
          rcases hentry with rfl | hentry
          · simp
          · have hne : entry.1 ≠ key := by
              rintro rfl
              exact (List.nodup_cons.mp h).1 (List.of_mem_zip hentry).1
            rw [beq_eq_false_iff_ne.mpr hne]
            exact ih (List.nodup_cons.mp h).2 hentry

end

theorem sortTexts_perm (texts : List String) : (sortTexts texts).Perm texts :=
  List.perm_insertionSort _ texts

theorem sortTexts_eq {texts texts' : List String} (h : texts.Perm texts') :
    sortTexts texts = sortTexts texts' :=
  SnapshotForms.insertionSort_eq_of_perm h fun _ _ _ _ => le_antisymm

section
variable [PythonLibrary] [UnicodeLibrary]

/-- A submission as its validation accepts it. -/
structure Accepted (registry : RuleRegistry) (context : AuditContext)
    (evaluations : List RuleEvaluationDraft) (findings : List FindingDraft)
    (evidence items : List Value) (entries : List FindingEntry) : Prop where
  evidenceKnown : evidenceIds context.evidenceRecords = .ok evidence
  itemsKnown : itemIds context.sealedPreview = .ok items
  gates : ∀ e ∈ evaluations, e.ruleId ∉ registry.runtimeRules.map (·.ruleId)
  rules : ∀ e ∈ evaluations, e.ruleId ∈ registry.semanticRules.map (·.ruleId)
  distinct : (evaluations.map (·.ruleId)).Nodup
  applicable : ∀ e ∈ evaluations, e.outcome ≠ "NotApplicable"
  versions : ∀ e ∈ evaluations, ∀ rule ∈ registry.semanticRules, rule.ruleId = e.ruleId →
    e.ruleVersion = rule.ruleVersion
  evidenceRefs : ∀ e ∈ evaluations, ∀ ref ∈ e.evidenceRefs, .str ref ∈ evidence
  coverage : ∀ c ∈ context.semanticRuleContexts, checkCoverage evaluations c = .ok ()
  labels : (findings.map (·.findingRef)).Nodup
  identified : List.Forall₂ (fun f entry => identifyFinding context registry.semanticRules
    evaluations evidence items f = .ok entry) findings entries
  distinctIds : (entries.map (·.findingId)).Nodup
  references : ∀ e ∈ evaluations, checkDraftReferences findings e = .ok ()
  referenced : ∀ f ∈ findings, f.findingRef ∈ evaluations.flatMap (·.findingRefs)

/-- The identities of findings, by the labels of the drafts. -/
def identities (findings : List FindingDraft) (entries : List FindingEntry) :
    List (String × String) :=
  (findings.map (·.findingRef)).zip (entries.map (·.findingId))

/-- The evaluations that are recorded of a submission, in its order. -/
def answersOf (context : AuditContext) (evaluations : List RuleEvaluationDraft)
    (ids : List (String × String)) : List EvaluationEntry :=
  evaluations.map (evaluationEntry ids) ++
    (context.semanticRuleContexts.filter fun c => c.applicable = false).map notApplicableEntry

/-- The evaluations in the order of their rules. -/
def sortAnswers (answers : List EvaluationEntry) : List EvaluationEntry :=
  answers.insertionSort fun a b => a.ruleId ≤ b.ruleId

/-- The findings in the order of their identities. -/
def sortFindings (entries : List FindingEntry) : List FindingEntry :=
  entries.insertionSort fun a b => a.findingId ≤ b.findingId

theorem validate_eq_ok {registry : RuleRegistry} {context : AuditContext}
    {evaluations : List RuleEvaluationDraft} {findings : List FindingDraft}
    {answers : List EvaluationEntry} {reports : List FindingEntry}
    (hregistry : (registry.semanticRules.map (·.ruleId)).Nodup)
    (hcontexts : (context.semanticRuleContexts.map (·.ruleId)).Nodup) :
    validate registry context evaluations findings = .ok (answers, reports) ↔
      ∃ evidence items entries,
        Accepted registry context evaluations findings evidence items entries ∧
        answers = sortAnswers (answersOf context evaluations (identities findings entries)) ∧
        reports = sortFindings entries := by
  simp only [validate, checkEvaluations, byKey_eq hregistry, byKey_eq hcontexts, bind_eq_ok,
    raiseIf_eq_ok, pure_eq_ok, not_exists, not_and, not_not, Prod.mk.injEq]
  constructor
  · rintro ⟨evidence, hevidence, _, ⟨_, hgates, _, hrules, _, hdistinct, _, happlicable, _,
      hversions, hknown⟩, _, hcoverage, _, hlabels, items, hitems, entries, hidentified, _,
      hidentities, _, hreferences, _, hreferenced, rfl, rfl⟩
    exact ⟨evidence, items, entries, ⟨hevidence, hitems, hgates, hrules, hdistinct, happlicable,
      hversions, hknown, forM_eq_ok.mp hcoverage, hlabels, mapM_eq_ok.mp hidentified, hidentities,
      forM_eq_ok.mp hreferences, hreferenced⟩, rfl, rfl⟩
  · rintro ⟨evidence, items, entries, h, rfl, rfl⟩
    exact ⟨evidence, h.evidenceKnown, (), ⟨(), h.gates, (), h.rules, (), h.distinct, (),
      h.applicable, (), h.versions, h.evidenceRefs⟩, (), forM_eq_ok.mpr h.coverage, (), h.labels,
      items, h.itemsKnown, entries, mapM_eq_ok.mpr h.identified, (), h.distinctIds, (),
      forM_eq_ok.mpr h.references, (), h.referenced, rfl, rfl⟩

theorem identifyFinding_eq_ok {context : AuditContext} {rules : List RuleDefinition}
    {evaluations : List RuleEvaluationDraft} {evidence items : List Value} {f : FindingDraft}
    {entry : FindingEntry} :
    identifyFinding context rules evaluations evidence items f = .ok entry ↔
      ∃ e outcome rule findingId, evaluations.find? (·.ruleId = f.ruleId) = some e ∧
        SemanticOutcome.ofText? e.outcome = some outcome ∧
        rules.find? (·.ruleId = f.ruleId) = some rule ∧
        (∀ item ∈ f.affectedItemIds, .str item ∈ items) ∧
        (∀ ref ∈ f.evidenceRefs, .str ref ∈ evidence) ∧
        rule.resultClass outcome = some f.resultClass ∧
        (ResultClass.ofText? f.resultClass).isSome = true ∧ f.severity ∈ severities ∧
        buildFindingId context.workspaceIdentity context.previewId context.revision
          (f.content rule.ruleVersion outcome.text) = .ok findingId ∧
        entry = findingEntry (f.content rule.ruleVersion outcome.text) findingId := by
  simp only [identifyFinding, bind_eq_ok, orRaise_eq_ok, raiseIf_eq_ok, pure_eq_ok, not_exists,
    not_and, not_not]
  constructor
  · rintro ⟨e, he, _, hitems, _, hevidence, resultClass, hread, outcome, houtcome, rule, hrule, _,
      hclass, _, hseverity, findingId, hid, rfl⟩
    rw [ResultClass.ofText?_eq_some.mp hread] at hclass
    exact ⟨e, outcome, rule, findingId, he, houtcome, hrule, hitems, hevidence, hclass,
      Option.isSome_of_mem hread, hseverity, hid, rfl⟩
  · rintro ⟨e, outcome, rule, findingId, he, houtcome, hrule, hitems, hevidence, hclass, hread,
      hseverity, hid, rfl⟩
    obtain ⟨resultClass, hread⟩ := Option.isSome_iff_exists.mp hread
    rw [← ResultClass.ofText?_eq_some.mp hread] at hclass
    exact ⟨e, he, (), hitems, (), hevidence, resultClass, hread, outcome, houtcome, rule, hrule,
      (), hclass, (), hseverity, findingId, hid, rfl⟩

omit [PythonLibrary] [UnicodeLibrary] in
theorem checkDraftReferences_eq_ok {findings : List FindingDraft} {e : RuleEvaluationDraft} :
    checkDraftReferences findings e = .ok () ↔
      ∃ outcome, SemanticOutcome.ofText? e.outcome = some outcome ∧
        (outcome ∈ [.failed, .unknown, .blocked] → e.findingRefs ≠ []) ∧
        (outcome = .passed → e.findingRefs = []) ∧
        ∀ ref ∈ e.findingRefs, ∃ f ∈ findings, f.findingRef = ref ∧ f.ruleId = e.ruleId := by
  simp only [checkDraftReferences, bind_eq_ok, orRaise_eq_ok, raiseIf_eq_ok, not_and, not_not]
  constructor
  · rintro ⟨outcome, houtcome, _, hopen, _, hpassed, hrefs⟩
    exact ⟨outcome, houtcome, hopen, hpassed, hrefs⟩
  · rintro ⟨outcome, houtcome, hopen, hpassed, hrefs⟩
    exact ⟨outcome, houtcome, (), hopen, (), hpassed, hrefs⟩

/-- A finding has one identity, in whatever order its references are given. -/
theorem buildFindingId_perm {workspace previewId : String} {revision : Int} {c : FindingContent}
    {evidenceRefs affectedItemIds : List String} (hevidence : evidenceRefs.Perm c.evidenceRefs)
    (hitems : affectedItemIds.Perm c.affectedItemIds) :
    buildFindingId workspace previewId revision
        { c with evidenceRefs := evidenceRefs, affectedItemIds := affectedItemIds } =
      buildFindingId workspace previewId revision c := by
  have hmem : ∀ text, text ∈ evidenceRefs ++ affectedItemIds ↔
      text ∈ c.evidenceRefs ++ c.affectedItemIds := fun text => (hevidence.append hitems).mem_iff
  simp only [buildFindingId, hmem, hevidence.nodup_iff, hitems.nodup_iff, findingPayload,
    sortTexts_eq hevidence, sortTexts_eq hitems]

theorem buildFindingId_spec {workspace previewId findingId : String} {revision : Int}
    {c : FindingContent} (h : buildFindingId workspace previewId revision c = .ok findingId) :
    (∀ text ∈ [workspace, previewId, c.ruleId, c.ruleVersion, c.severity, c.title, c.rationale,
        c.requiredAction], text ≠ "") ∧
      (∀ text ∈ c.evidenceRefs ++ c.affectedItemIds, text ≠ "") ∧ c.evidenceRefs.Nodup ∧
      c.affectedItemIds.Nodup ∧ findingId ≠ "" := by
  simp only [buildFindingId, bind_eq_ok, raiseIf_eq_ok, pure_eq_ok, not_exists, not_and, not_or,
    not_not] at h
  obtain ⟨_, -, _, hpresent, _, -, _, hrefs, _, ⟨hevidence, hitems⟩, _, -, _, -, payload, -, rfl⟩ :=
    h
  exact ⟨hpresent, hrefs, hevidence, hitems, append_ne_empty (by decide)⟩

end

/-- Labels that differ read the identities beside them. -/
theorem map_identityOf {labels ids : List String} (h : labels.Nodup)
    (hlength : labels.length = ids.length) :
    labels.map (identityOf (labels.zip ids)) = ids := by
  have hpairs : (labels.zip ids).map (fun entry => identityOf (labels.zip ids) entry.1) =
      (labels.zip ids).map Prod.snd :=
    List.map_congr_left fun entry hentry => by rw [identityOf, lookup_zip h hentry, Option.getD_some]
  rw [List.map_snd_zip hlength.ge] at hpairs
  conv_lhs => arg 2; rw [← List.map_fst_zip hlength.le]
  rw [List.map_map]
  exact hpairs

/-! ## Which submissions pass the commit -/

/-- What a commit asks of an evaluation beyond its validation. -/
structure Presentable (e : RuleEvaluationDraft) : Prop where
  rationale : e.rationale ≠ ""
  findingRefs : e.findingRefs.Nodup
  evidenceRefs : e.evidenceRefs.Nodup ∧ "" ∉ e.evidenceRefs

section
variable [PythonLibrary] [UnicodeLibrary]

/-- A context as it is made of a Preview under a registry. -/
structure ContextOf (registry : RuleRegistry) (context : AuditContext) : Prop where
  rules : List.Forall₂ (fun rule c => ruleIsApplicable rule context.sealedPreview = .ok c.applicable ∧
      c.ruleId = rule.ruleId ∧ c.ruleVersion = rule.ruleVersion ∧ c.mandatory = rule.mandatory)
    registry.semanticRules context.semanticRuleContexts
  registered : context.ruleRegistryVersion = registry.registryVersion ∧
    registry.registryDigest = .ok context.ruleRegistryDigest
  digest : ∃ sealedPreviewDigest,
    context.sealedPreview.lookup "sealed_preview_digest" = some sealedPreviewDigest ∧
      computeAuditContextDigest context.workspaceIdentity context.previewId context.revision
        sealedPreviewDigest context.evidenceRecords (some context.ruleRegistryVersion)
        (some context.ruleRegistryDigest) context.auditScope = .ok context.auditContextDigest

theorem contextOf_make {workspace previewId : String} {registry : RuleRegistry} {revision : Int}
    {canonical : Dict} {evidence : List Dict} {context : AuditContext}
    (h : AuditContext.make workspace registry previewId revision canonical evidence = .ok context) :
    ContextOf registry context := by
  simp only [AuditContext.make, Dict.require, bind_eq_ok, orRaise_eq_ok, pure_eq_ok] at h
  obtain ⟨contexts, hcontexts, scope, -, registryDigest, hregistry, sealedDigest, hsealed,
    contextDigest, hdigest, rfl⟩ := h
  refine ⟨(mapM_eq_ok.mp hcontexts).imp fun rule c hmake => ?_, ⟨rfl, hregistry⟩, sealedDigest,
    hsealed, hdigest⟩
  simp only [SemanticRuleContext.make, bind_eq_ok, pure_eq_ok] at hmake
  obtain ⟨applicable, happlicable, rfl⟩ := hmake
  exact ⟨happlicable, rfl, rfl, rfl⟩

variable {registry : RuleRegistry} {context : AuditContext}
  {evaluations : List RuleEvaluationDraft} {findings : List FindingDraft}
  {evidence items : List Value} {entries : List FindingEntry}

theorem ContextOf.ruleIds (h : ContextOf registry context) :
    context.semanticRuleContexts.map (·.ruleId) = registry.semanticRules.map (·.ruleId) := by
  refine (List.forall₂_eq_eq_eq ▸ List.forall₂_map_left_iff.mpr
    (List.forall₂_map_right_iff.mpr (h.rules.flip.imp ?_)))
  rintro c rule ⟨-, hid, -⟩
  exact hid

namespace Accepted

/-- The labels of the drafts read the identities of the findings. -/
theorem labelled (h : Accepted registry context evaluations findings evidence items entries) :
    (findings.map (·.findingRef)).map (identityOf (identities findings entries)) =
      entries.map (·.findingId) :=
  map_identityOf h.labels (by simpa using h.identified.length_eq)

/-- Different labels stand for different findings. -/
theorem identityOf_injective
    (h : Accepted registry context evaluations findings evidence items entries)
    {ref ref' : String} (href : ref ∈ findings.map (·.findingRef))
    (href' : ref' ∈ findings.map (·.findingRef))
    (hsame : identityOf (identities findings entries) ref =
      identityOf (identities findings entries) ref') : ref = ref' := by
  have hnodup := h.distinctIds
  rw [← h.labelled] at hnodup
  exact List.inj_on_of_nodup_map hnodup href href' hsame

/-- The finding under a label, as it is recorded. -/
theorem entry (h : Accepted registry context evaluations findings evidence items entries)
    {f : FindingDraft} (hf : f ∈ findings) : ∃ entry ∈ entries,
      identityOf (identities findings entries) f.findingRef = entry.findingId ∧
      identifyFinding context registry.semanticRules evaluations evidence items f = .ok entry := by
  have hpairs : List.Forall₂ (fun f entry =>
      identityOf (identities findings entries) f.findingRef = entry.findingId) findings entries := by
    have hmaps := h.labelled
    rw [List.map_map, ← List.forall₂_eq_eq_eq, List.forall₂_map_left_iff,
      List.forall₂_map_right_iff] at hmaps
    exact hmaps
  have hboth : List.Forall₂ (fun f entry =>
      identityOf (identities findings entries) f.findingRef = entry.findingId ∧
        identifyFinding context registry.semanticRules evaluations evidence items f = .ok entry)
      findings entries :=
    List.Forall₂.mp (fun _ _ hid hentry => ⟨hid, hentry⟩) hpairs h.identified
  exact PairedLists.mem_left hboth hf

/-- A label of an evaluation is that of a finding of its rule. -/
theorem reference (h : Accepted registry context evaluations findings evidence items entries)
    {e : RuleEvaluationDraft} (he : e ∈ evaluations) {ref : String} (href : ref ∈ e.findingRefs) :
    ∃ f ∈ findings, f.findingRef = ref ∧ f.ruleId = e.ruleId := by
  obtain ⟨_, -, -, -, hrefs⟩ := checkDraftReferences_eq_ok.mp (h.references e he)
  exact hrefs ref href

theorem label (h : Accepted registry context evaluations findings evidence items entries)
    {e : RuleEvaluationDraft} (he : e ∈ evaluations) {ref : String} (href : ref ∈ e.findingRefs) :
    ref ∈ findings.map (·.findingRef) := by
  obtain ⟨f, hf, rfl, -⟩ := h.reference he href
  exact List.mem_map_of_mem hf

/-- The identities to which an evaluation refers differ where its labels do. -/
theorem nodup_identities
    (h : Accepted registry context evaluations findings evidence items entries)
    {e : RuleEvaluationDraft} (he : e ∈ evaluations) :
    (e.findingRefs.map (identityOf (identities findings entries))).Nodup ↔ e.findingRefs.Nodup :=
  ⟨List.Nodup.of_map _, fun hnodup => hnodup.map_on fun _ href _ href' hsame =>
    h.identityOf_injective (h.label he href) (h.label he href') hsame⟩

theorem identity_present
    (h : Accepted registry context evaluations findings evidence items entries)
    {e : RuleEvaluationDraft} (he : e ∈ evaluations) {ref : String} (href : ref ∈ e.findingRefs) :
    identityOf (identities findings entries) ref ≠ "" := by
  obtain ⟨f, hf, rfl, -⟩ := h.reference he href
  obtain ⟨entry, -, hid, hentry⟩ := h.entry hf
  obtain ⟨_, _, _, findingId, -, -, -, -, -, -, -, -, hbuilt, rfl⟩ :=
    identifyFinding_eq_ok.mp hentry
  rw [hid]
  exact (buildFindingId_spec hbuilt).2.2.2.2

/-- Where no evaluation gives a label twice, the evaluations refer to every finding once. -/
theorem references_perm
    (h : Accepted registry context evaluations findings evidence items entries)
    (hnodup : ∀ e ∈ evaluations, e.findingRefs.Nodup) :
    (evaluations.flatMap (·.findingRefs)).Perm (findings.map (·.findingRef)) := by
  have hdisjoint : evaluations.Pairwise (Function.onFun List.Disjoint (·.findingRefs)) := by
    refine (List.pairwise_map.mp h.distinct).imp_of_mem fun {e e'} he he' hne ref href href' => ?_
    obtain ⟨f, hf, hlabel, hrule⟩ := h.reference he href
    obtain ⟨f', hf', hlabel', hrule'⟩ := h.reference he' href'
    obtain rfl := List.inj_on_of_nodup_map h.labels hf hf' (hlabel.trans hlabel'.symm)
    exact hne (hrule.symm.trans hrule')
  refine (List.perm_ext_iff_of_nodup (List.nodup_flatMap.mpr ⟨hnodup, hdisjoint⟩) h.labels).mpr
    fun ref => ⟨fun hmem => ?_, fun hmem => ?_⟩
  · obtain ⟨e, he, href⟩ := List.mem_flatMap.mp hmem
    exact h.label he href
  · obtain ⟨f, hf, rfl⟩ := List.mem_map.mp hmem
    exact h.referenced f hf

end Accepted

/-- The context of a rule. -/
theorem ContextOf.of_rule (h : ContextOf registry context) {rule : RuleDefinition}
    (hrule : rule ∈ registry.semanticRules) : ∃ c ∈ context.semanticRuleContexts,
      ruleIsApplicable rule context.sealedPreview = .ok c.applicable ∧ c.ruleId = rule.ruleId ∧
        c.ruleVersion = rule.ruleVersion ∧ c.mandatory = rule.mandatory :=
  PairedLists.mem_left h.rules hrule

theorem ContextOf.rule (h : ContextOf registry context) {c : SemanticRuleContext}
    (hc : c ∈ context.semanticRuleContexts) : ∃ rule ∈ registry.semanticRules,
      ruleIsApplicable rule context.sealedPreview = .ok c.applicable ∧ c.ruleId = rule.ruleId ∧
        c.ruleVersion = rule.ruleVersion ∧ c.mandatory = rule.mandatory :=
  PairedLists.mem_right h.rules hc

omit [PythonLibrary] [UnicodeLibrary] in
theorem checkCoverage_eq_ok {c : SemanticRuleContext} :
    checkCoverage evaluations c = .ok () ↔
      (c.applicable = true → c.mandatory = true → c.ruleId ∈ evaluations.map (·.ruleId)) ∧
        (c.applicable = false → c.ruleId ∉ evaluations.map (·.ruleId)) := by
  simp only [checkCoverage, bind_eq_ok, raiseIf_eq_ok, not_and, not_not, exists_const]

namespace Accepted
variable {ids : List (String × String)}

omit [PythonLibrary] [UnicodeLibrary] in
theorem mem_answersOf {entry : EvaluationEntry} :
    entry ∈ answersOf context evaluations ids ↔
      (∃ e ∈ evaluations, evaluationEntry ids e = entry) ∨
        ∃ c ∈ context.semanticRuleContexts, c.applicable = false ∧ notApplicableEntry c = entry := by
  simp only [answersOf, List.mem_append, List.mem_map, List.mem_filter, decide_eq_true_eq,
    and_assoc]

/-- No rule is answered twice. -/
theorem answers_nodup
    (h : Accepted registry context evaluations findings evidence items entries)
    (hcontext : ContextOf registry context)
    (hregistry : (registry.semanticRules.map (·.ruleId)).Nodup) :
    ((answersOf context evaluations ids).map (·.ruleId)).Nodup := by
  rw [answersOf, List.map_append, List.map_map, List.map_map]
  refine List.Nodup.append h.distinct ?_ ?_
  · refine List.Nodup.sublist (List.filter_sublist.map _) ?_
    change (context.semanticRuleContexts.map (·.ruleId)).Nodup
    rw [hcontext.ruleIds]
    exact hregistry
  · intro id hid hid'
    obtain ⟨c, hc, rfl⟩ := List.mem_map.mp hid'
    obtain ⟨hc, hno⟩ := List.mem_filter.mp hc
    exact (checkCoverage_eq_ok.mp (h.coverage c hc)).2 (of_decide_eq_true hno) hid

/-- The answer to a rule, in whatever way it is given. -/
theorem answer_of_rule
    (h : Accepted registry context evaluations findings evidence items entries)
    (hcontext : ContextOf registry context) {rule : RuleDefinition}
    (hrule : rule ∈ registry.semanticRules) (hmandatory : rule.mandatory = true) :
    (∃ e ∈ evaluations, e.ruleId = rule.ruleId ∧ e.ruleVersion = rule.ruleVersion ∧
        ruleIsApplicable rule context.sealedPreview = .ok true) ∨
      ∃ c ∈ context.semanticRuleContexts, c.ruleId = rule.ruleId ∧
        c.ruleVersion = rule.ruleVersion ∧ c.applicable = false ∧
        ruleIsApplicable rule context.sealedPreview = .ok false := by
  obtain ⟨c, hc, happlicable, hid, hversion, hmandatory'⟩ := hcontext.of_rule hrule
  obtain ⟨hyes, -⟩ := checkCoverage_eq_ok.mp (h.coverage c hc)
  cases happlies : c.applicable with
  | false =>
      rw [happlies] at happlicable
      exact .inr ⟨c, hc, hid, hversion, happlies, happlicable⟩
  | true =>
      rw [happlies] at happlicable
      obtain ⟨e, he, heid⟩ := List.mem_map.mp (hyes happlies (hmandatory'.trans hmandatory))
      have hsame : rule.ruleId = e.ruleId := (heid.trans hid).symm
      exact .inl ⟨e, he, hsame.symm, h.versions e he rule hrule hsame, happlicable⟩

theorem covered
    (h : Accepted registry context evaluations findings evidence items entries)
    (hcontext : ContextOf registry context) (hregistry : registry.Lawful) (id : String) :
    id ∈ (answersOf context evaluations ids).map (·.ruleId) ↔
      id ∈ registry.semanticRules.map (·.ruleId) := by
  constructor
  · intro hid
    obtain ⟨entry, hentry, rfl⟩ := List.mem_map.mp hid
    rcases mem_answersOf.mp hentry with ⟨e, he, rfl⟩ | ⟨c, hc, -, rfl⟩
    · exact h.rules e he
    · obtain ⟨rule, hrule, -, hsame, -⟩ := hcontext.rule hc
      exact List.mem_map.mpr ⟨rule, hrule, hsame.symm⟩
  · intro hid
    obtain ⟨rule, hrule, rfl⟩ := List.mem_map.mp hid
    rcases h.answer_of_rule hcontext hrule (hregistry.mandatory rule hrule) with
      ⟨e, he, hsame, -⟩ | ⟨c, hc, hsame, -, hno, -⟩
    · exact List.mem_map.mpr ⟨_, mem_answersOf.mpr (.inl ⟨e, he, rfl⟩), hsame⟩
    · exact List.mem_map.mpr ⟨_, mem_answersOf.mpr (.inr ⟨c, hc, hno, rfl⟩), hsame⟩

/-- The outcome of an evaluation is one that a rule which applies can have. -/
theorem outcome (h : Accepted registry context evaluations findings evidence items entries)
    {e : RuleEvaluationDraft} (he : e ∈ evaluations) :
    e.outcome ∈ applicableOutcomes ∧ (e.outcome ∈ settledOutcomes ↔ e.findingRefs = []) := by
  obtain ⟨outcome, hread, hopen, hpassed, -⟩ := checkDraftReferences_eq_ok.mp (h.references e he)
  have htext := SemanticOutcome.ofText?_eq_some.mp hread
  have hne := h.applicable e he
  rw [← htext] at hne ⊢
  cases outcome with
  | notApplicable => exact absurd rfl hne
  | passed => exact ⟨by decide, fun _ => hpassed rfl, fun _ => by decide⟩
  | failed | unknown | blocked =>
      exact ⟨by decide, fun hsettled => absurd hsettled (by decide),
        fun hnil => absurd hnil (hopen (by decide))⟩

end Accepted

end

/-! ### Entries that are read back -/

/-- Texts that a list of an entry may hold. -/
def Distinct (texts : List String) : Prop := texts.Nodup ∧ "" ∉ texts

theorem Distinct.sortTexts {texts : List String} :
    Distinct (sortTexts texts) ↔ Distinct texts := by
  rw [Distinct, Distinct, (sortTexts_perm texts).nodup_iff, (sortTexts_perm texts).mem_iff]

theorem entryText_eq_ok {entry : Dict} {key text read : String} (h : entry.get key = .str text) :
    entryText entry key = .ok read ↔ read = text ∧ text ≠ "" := by
  rw [entryText, h, orRaise_eq_ok, Value.nonEmptyText?_eq_some, Value.str.injEq]
  constructor
  · rintro ⟨rfl, hne⟩
    exact ⟨rfl, hne⟩
  · rintro ⟨rfl, hne⟩
    exact ⟨rfl, hne⟩

theorem entryTexts_eq_ok {entry : Dict} {key : String} {texts read : List String}
    (h : entry.get key = .texts texts) :
    entryTexts entry key = .ok read ↔ read = texts ∧ Distinct texts := by
  have htexts (read : List String) : (texts.map Value.str).mapM Value.nonEmptyText? = some read ↔
      texts = read ∧ ∀ text ∈ texts, text ≠ "" := by
    rw [PairedLists.mapM_eq_some, List.forall₂_map_left_iff,
      PairedLists.forall₂_map_iff (f := id) (p := (· ≠ "")), List.map_id]
    intro text _ read
    rw [Value.nonEmptyText?_eq_some, Value.str.injEq, id]
    constructor
    · rintro ⟨rfl, hne⟩
      exact ⟨rfl, hne⟩
    · rintro ⟨rfl, hne⟩
      exact ⟨rfl, hne⟩
  simp only [entryTexts, h, Value.texts, Value.list?, bind_eq_ok, orRaise_eq_ok, raiseIf_eq_ok,
    pure_eq_ok, Option.some.injEq, exists_eq_left', htexts, not_not, Distinct]
  constructor
  · rintro ⟨_, ⟨rfl, hpresent⟩, _, hnodup, rfl⟩
    exact ⟨rfl, hnodup, fun hmem => hpresent "" hmem rfl⟩
  · rintro ⟨rfl, hnodup, hpresent⟩
    exact ⟨_, ⟨rfl, fun text hmem hempty => hpresent (hempty ▸ hmem)⟩, (), hnodup, rfl⟩

/-- The evaluation is read back exactly when no text is empty and no reference repeated. -/
theorem checkEvaluation_toDict {e read : EvaluationEntry} :
    checkEvaluation e.toDict = .ok read ↔ e = read ∧
      (e.ruleId ≠ "" ∧ e.ruleVersion ≠ "" ∧ e.outcome ≠ "" ∧ e.rationale ≠ "" ∧
        Distinct e.findingRefs ∧ Distinct e.evidenceRefs) := by
  have hfields : Dict.hasExactly e.toDict evaluationFields = true := rfl
  simp only [checkEvaluation, bind_eq_ok, raiseIf_eq_ok, hfields, Bool.true_eq_false,
    not_false_eq_true, true_and, exists_const, pure_eq_ok,
    entryText_eq_ok (show Dict.get e.toDict "rule_id" = .str e.ruleId from rfl),
    entryText_eq_ok (show Dict.get e.toDict "rule_version" = .str e.ruleVersion from rfl),
    entryText_eq_ok (show Dict.get e.toDict "outcome" = .str e.outcome from rfl),
    entryText_eq_ok (show Dict.get e.toDict "rationale" = .str e.rationale from rfl),
    entryTexts_eq_ok (show Dict.get e.toDict "finding_refs" = .texts e.findingRefs from rfl),
    entryTexts_eq_ok (show Dict.get e.toDict "evidence_refs" = .texts e.evidenceRefs from rfl)]
  constructor
  · rintro ⟨_, ⟨rfl, hid⟩, _, ⟨rfl, hversion⟩, _, ⟨rfl, houtcome⟩, _, ⟨rfl, hrationale⟩, _,
      ⟨rfl, hrefs⟩, _, ⟨rfl, hevidence⟩, rfl⟩
    exact ⟨rfl, hid, hversion, houtcome, hrationale, hrefs, hevidence⟩
  · rintro ⟨rfl, hid, hversion, houtcome, hrationale, hrefs, hevidence⟩
    exact ⟨_, ⟨rfl, hid⟩, _, ⟨rfl, hversion⟩, _, ⟨rfl, houtcome⟩, _, ⟨rfl, hrationale⟩, _,
      ⟨rfl, hrefs⟩, _, ⟨rfl, hevidence⟩, rfl⟩

theorem checkFinding_toDict {f : FindingEntry}
    (htexts : ∀ text ∈ [f.findingId, f.ruleId, f.ruleVersion, f.outcome, f.resultClass, f.severity,
      f.title, f.rationale, f.requiredAction], text ≠ "")
    (hevidence : Distinct f.evidenceRefs) (hitems : Distinct f.affectedItemIds) :
    checkFinding f.toDict = .ok f := by
  have hfields : Dict.hasExactly f.toDict findingFields = true := rfl
  have hresolution : optional? Value.text? (Dict.get f.toDict "suggested_resolution") =
      some f.suggestedResolution := by
    have hget : Dict.get f.toDict "suggested_resolution" = .textOrNone f.suggestedResolution := rfl
    rw [hget]
    cases f.suggestedResolution <;> rfl
  simp only [List.forall_mem_cons, List.not_mem_nil, false_implies, implies_true, and_true]
    at htexts
  obtain ⟨hid, hrule, hversion, houtcome, hclass, hseverity, htitle, hrationale, haction⟩ := htexts
  have htext (key : String) {text : String} (hget : Dict.get f.toDict key = .str text) (hne : text ≠ "") :
      entryText f.toDict key = .ok text := (entryText_eq_ok hget).mpr ⟨rfl, hne⟩
  have hlist (key : String) {texts : List String} (hget : Dict.get f.toDict key = .texts texts)
      (hdistinct : Distinct texts) : entryTexts f.toDict key = .ok texts :=
    (entryTexts_eq_ok hget).mpr ⟨rfl, hdistinct⟩
  simp only [checkFinding, hfields, raiseIf, Bool.true_eq_false, if_false, bind, Except.bind,
    htext "finding_id" rfl hid, htext "rule_id" rfl hrule,
    htext "rule_version" rfl hversion, htext "outcome" rfl houtcome,
    htext "result_class" rfl hclass, htext "severity" rfl hseverity,
    htext "title" rfl htitle, htext "rationale" rfl hrationale,
    htext "required_action" rfl haction, hresolution, orRaise,
    hlist "evidence_refs" rfl hevidence, hlist "affected_item_ids" rfl hitems]
  rfl

/-! ### The commit of a submission -/

section
variable [PythonLibrary] [UnicodeLibrary]

variable {registry : RuleRegistry} {context : AuditContext}
  {evaluations : List RuleEvaluationDraft} {findings : List FindingDraft}
  {evidence items : List Value} {entries : List FindingEntry}

/-- A recorded evaluation is read back exactly when its draft can be presented. -/
theorem Accepted.checkEvaluation_iff
    (h : Accepted registry context evaluations findings evidence items entries)
    (hregistry : registry.Lawful) {e : RuleEvaluationDraft} (he : e ∈ evaluations)
    {read : EvaluationEntry} :
    checkEvaluation (evaluationEntry (identities findings entries) e).toDict = .ok read ↔
      evaluationEntry (identities findings entries) e = read ∧ Presentable e := by
  obtain ⟨rule, hrule, hid⟩ := List.mem_map.mp (h.rules e he)
  have hnamed := hregistry.named rule hrule
  rw [hid, ← h.versions e he rule hrule hid] at hnamed
  have houtcome : e.outcome ≠ "" := by
    have hmem := (h.outcome he).1
    rintro hempty
    rw [hempty] at hmem
    exact absurd hmem (by decide)
  have hrefs : "" ∉ e.findingRefs.map (identityOf (identities findings entries)) := by
    intro hmem
    obtain ⟨ref, href, hempty⟩ := List.mem_map.mp hmem
    exact h.identity_present he href hempty
  rw [checkEvaluation_toDict]
  refine and_congr_right fun _ => ⟨?_, ?_⟩
  · rintro ⟨-, -, -, hrationale, hdistinct, hevidence⟩
    exact ⟨hrationale, (h.nodup_identities he).mp (Distinct.sortTexts.mp hdistinct).1,
      Distinct.sortTexts.mp hevidence⟩
  · rintro ⟨hrationale, hdistinct, hevidence⟩
    exact ⟨hnamed.1, hnamed.2, houtcome, hrationale,
      Distinct.sortTexts.mpr ⟨(h.nodup_identities he).mpr hdistinct, hrefs⟩,
      Distinct.sortTexts.mpr hevidence⟩

/-- The answer to a rule that does not apply is read back. -/
theorem ContextOf.checkEvaluation_notApplicable (hcontext : ContextOf registry context)
    (hregistry : registry.Lawful) {c : SemanticRuleContext}
    (hc : c ∈ context.semanticRuleContexts) (hno : c.applicable = false) :
    checkEvaluation (notApplicableEntry c).toDict = .ok (notApplicableEntry c) := by
  obtain ⟨rule, hrule, -, hid, hversion, -⟩ := hcontext.rule hc
  have hnamed := hregistry.named rule hrule
  rw [← hid, ← hversion] at hnamed
  have hnone : Distinct [] := ⟨List.nodup_nil, List.not_mem_nil⟩
  refine checkEvaluation_toDict.mpr ⟨rfl, hnamed.1, hnamed.2, (by decide : "NotApplicable" ≠ ""),
    ?_, hnone, hnone⟩
  simp [notApplicableEntry, SemanticRuleContext.applicabilityReason, hno]

/-- The findings of a validated submission are read back. -/
theorem Accepted.checkFinding_entry
    (h : Accepted registry context evaluations findings evidence items entries)
    {entry : FindingEntry} (hentry : entry ∈ entries) : checkFinding entry.toDict = .ok entry := by
  obtain ⟨f, -, hidentified⟩ := PairedLists.mem_right h.identified hentry
  obtain ⟨_, outcome, rule, findingId, -, -, -, -, -, -, hclass, -, hbuilt, rfl⟩ :=
    identifyFinding_eq_ok.mp hidentified
  obtain ⟨hpresent, hrefs, hevidence, haffected, hid⟩ := buildFindingId_spec hbuilt
  simp only [List.forall_mem_cons, List.not_mem_nil, false_implies, implies_true, and_true]
    at hpresent
  obtain ⟨-, -, hrule, hversion, hseverity, htitle, hrationale, haction⟩ := hpresent
  obtain ⟨resultClass, hread⟩ := Option.isSome_iff_exists.mp hclass
  have hclassPresent : f.resultClass ≠ "" := by
    rw [← ResultClass.ofText?_eq_some.mp hread]
    cases resultClass <;> decide
  have houtcome : outcome.text ≠ "" := by cases outcome <;> decide
  refine checkFinding_toDict ?_ (Distinct.sortTexts.mpr ⟨hevidence, fun hmem =>
    hrefs "" (List.mem_append_left _ hmem) rfl⟩) (Distinct.sortTexts.mpr ⟨haffected, fun hmem =>
    hrefs "" (List.mem_append_right _ hmem) rfl⟩)
  simp only [List.forall_mem_cons, List.not_mem_nil, false_implies, implies_true, and_true]
  exact ⟨hid, hrule, hversion, houtcome, hclassPresent, hseverity, htitle, hrationale, haction⟩

namespace Accepted

omit [PythonLibrary] [UnicodeLibrary] in
theorem mem_sortAnswers {answers : List EvaluationEntry} {entry : EvaluationEntry} :
    entry ∈ sortAnswers answers ↔ entry ∈ answers := (List.perm_insertionSort _ answers).mem_iff

/-- The recorded answer of an evaluation, found by its rule. -/
theorem find_answer
    (h : Accepted registry context evaluations findings evidence items entries)
    (hcontext : ContextOf registry context)
    (hregistry : (registry.semanticRules.map (·.ruleId)).Nodup) (ids : List (String × String))
    {entry : EvaluationEntry} (hentry : entry ∈ answersOf context evaluations ids) :
    (sortAnswers (answersOf context evaluations ids)).find? (·.ruleId = entry.ruleId) =
      some entry := by
  refine find?_key EvaluationEntry.ruleId ?_ (mem_sortAnswers.mpr hentry)
  exact ((List.perm_insertionSort _ _).map _).nodup_iff.mpr (h.answers_nodup hcontext hregistry)

theorem checkRule_answers
    (h : Accepted registry context evaluations findings evidence items entries)
    (hcontext : ContextOf registry context) (hregistry : registry.Lawful)
    {ids : List (String × String)} {rule : RuleDefinition}
    (hrule : rule ∈ registry.semanticRules) :
    checkRule context.sealedPreview evidence (sortAnswers (answersOf context evaluations ids))
      rule = .ok () := by
  rcases h.answer_of_rule hcontext hrule (hregistry.mandatory rule hrule) with
    ⟨e, he, hid, hversion, happlicable⟩ | ⟨c, hc, hid, hversion, hno, happlicable⟩
  · have hfound := h.find_answer hcontext hregistry.distinct ids
      (mem_answersOf.mpr (.inl ⟨e, he, rfl⟩))
    refine checkRule_eq_ok.mpr ⟨evaluationEntry ids e, hid ▸ hfound, hversion, true, happlicable,
      fun hfalse => absurd hfalse (by decide), fun _ => (h.outcome he).1, ?_⟩
    intro ref href
    exact h.evidenceRefs e he ref ((sortTexts_perm _).mem_iff.mp href)
  · have hfound := h.find_answer hcontext hregistry.distinct ids
      (mem_answersOf.mpr (.inr ⟨c, hc, hno, rfl⟩))
    exact checkRule_eq_ok.mpr ⟨notApplicableEntry c, hid ▸ hfound, hversion, false, happlicable,
      fun _ => ⟨rfl, rfl, rfl⟩, fun htrue => absurd htrue (by decide),
      fun _ href => absurd href List.not_mem_nil⟩

theorem checkReferences_answers
    (h : Accepted registry context evaluations findings evidence items entries)
    {entry : EvaluationEntry}
    (hentry : entry ∈ answersOf context evaluations (identities findings entries)) :
    checkReferences (sortFindings entries) entry = .ok () := by
  rw [checkReferences_eq_ok]
  rcases mem_answersOf.mp hentry with ⟨e, he, rfl⟩ | ⟨c, -, -, rfl⟩
  · have hnil : (evaluationEntry (identities findings entries) e).findingRefs = [] ↔
        e.findingRefs = [] := by
      rw [← List.length_eq_zero_iff, ← List.length_eq_zero_iff]
      simp [evaluationEntry, (sortTexts_perm _).length_eq]
    refine ⟨(h.outcome he).2.trans hnil.symm, fun ref href => ?_⟩
    obtain ⟨label, hlabel, rfl⟩ := List.mem_map.mp ((sortTexts_perm _).mem_iff.mp href)
    obtain ⟨f, hf, rfl, hrule⟩ := h.reference he hlabel
    obtain ⟨entry, hentryMem, hid, hidentified⟩ := h.entry hf
    obtain ⟨_, _, _, _, -, -, -, -, -, -, -, -, -, rfl⟩ := identifyFinding_eq_ok.mp hidentified
    exact ⟨_, (List.perm_insertionSort _ entries).mem_iff.mpr hentryMem, hid.symm, hrule⟩
  · exact ⟨⟨fun _ => rfl, fun _ => (by decide : "NotApplicable" ∈ settledOutcomes)⟩,
      fun _ href => absurd href List.not_mem_nil⟩

/-- The answers refer to every finding once. -/
theorem referenced_answers
    (h : Accepted registry context evaluations findings evidence items entries)
    (hnodup : ∀ e ∈ evaluations, e.findingRefs.Nodup) :
    ((sortAnswers (answersOf context evaluations (identities findings entries))).flatMap
      (·.findingRefs)).Perm ((sortFindings entries).map (·.findingId)) := by
  have hanswers : ((answersOf context evaluations (identities findings entries)).flatMap
      (·.findingRefs)).Perm
        ((evaluations.flatMap (·.findingRefs)).map (identityOf (identities findings entries))) := by
    have hnone : (((context.semanticRuleContexts.filter fun c => c.applicable = false).map
        notApplicableEntry).flatMap (·.findingRefs)) = [] := by
      rw [List.flatMap_map]
      exact List.flatMap_eq_nil_iff.mpr fun _ _ => rfl
    rw [answersOf, List.flatMap_append, hnone, List.append_nil, List.flatMap_map,
      List.map_flatMap]
    exact List.Perm.flatMap_left _ fun e _ => sortTexts_perm _
  have hlabels := (h.references_perm hnodup).map (identityOf (identities findings entries))
  rw [h.labelled] at hlabels
  exact ((List.perm_insertionSort _ _).flatMap_right _).trans
    (hanswers.trans (hlabels.trans ((List.perm_insertionSort _ entries).map _).symm))

end Accepted

variable [DatetimeLibrary]

/-- An audit that was made of a context, with these answers and findings. -/
structure MadeOf (context : AuditContext) (answers : List EvaluationEntry)
    (reports : List FindingEntry) (a : AuditRecord) : Prop where
  workspace : a.workspaceIdentity = context.workspaceIdentity
  preview : a.previewId = context.previewId ∧ a.revision = context.revision
  sealed : context.sealedPreview.lookup "sealed_preview_digest" = some (.str a.sealedPreviewDigest)
  scope : context.auditScope = .str a.auditScope
  contextDigest : a.auditContextDigest = context.auditContextDigest
  registered : a.ruleRegistryVersion = some context.ruleRegistryVersion ∧
    a.ruleRegistryDigest = some context.ruleRegistryDigest
  evaluations : a.ruleEvaluations = answers.map EvaluationEntry.toDict
  findings : a.findings = reports.map FindingEntry.toDict
  result : a.result = expectedResult (answers.map (·.outcome))
  payload : canonicalDigest (auditProjection a) = .ok a.auditPayloadDigest
  digest : a.verifyDigest = true

theorem madeOf_makeAudit {context : AuditContext} {auditId createdAt : String}
    {answers : List EvaluationEntry} {reports : List FindingEntry} {a : AuditRecord}
    (h : makeAudit context auditId createdAt answers reports = .ok a) :
    MadeOf context answers reports a := by
  simp only [makeAudit, auditFields, sealedText, Dict.require, bind_eq_ok, orRaise_eq_ok,
    pure_eq_ok, Value.text?_eq_some] at h
  obtain ⟨_, ⟨sealedDigest, ⟨_, hsealed, rfl⟩, planDigest, -, operationSetDigest, -, remote, -,
    scope, hscope, evidenceRefs, -, payloadDigest, hpayload, rfl⟩, hcreated⟩ := h
  simp only [createAudit] at hcreated
  split_ifs at hcreated
  obtain rfl := Except.ok.inj hcreated
  refine ⟨rfl, ⟨rfl, rfl⟩, hsealed, hscope, rfl, ⟨rfl, rfl⟩, rfl, rfl, rfl, hpayload, ?_⟩
  rw [AuditRecord.verifyDigest, Bool.and_eq_true, decide_eq_true_eq, decide_eq_true_eq]
  exact ⟨digest_ne_empty _, rfl⟩

variable {a : AuditRecord}

namespace Accepted

theorem checkReport_entry
    (h : Accepted registry context evaluations findings evidence items entries)
    (hcontext : ContextOf registry context)
    (hregistry : (registry.semanticRules.map (·.ruleId)).Nodup)
    {answers : List EvaluationEntry} {reports : List FindingEntry}
    (hmade : MadeOf context answers reports a) {ids : List (String × String)}
    {entry : FindingEntry} (hentry : entry ∈ entries) :
    checkReport a evidence items registry.semanticRules
      (sortAnswers (answersOf context evaluations ids)) entry = .ok () := by
  obtain ⟨f, -, hidentified⟩ := PairedLists.mem_right h.identified hentry
  obtain ⟨e, outcome, rule, findingId, hfound, hread, hrule, hitems, hevidence, hclass, -,
    hseverity, hbuilt, rfl⟩ := identifyFinding_eq_ok.mp hidentified
  obtain ⟨he, hid⟩ := find?_ruleId hfound
  have hanswer := h.find_answer hcontext hregistry ids
    (mem_answersOf.mpr (.inl ⟨e, he, rfl⟩))
  have hid' : (evaluationEntry ids e).ruleId = f.ruleId := hid
  rw [hid'] at hanswer
  refine checkReport_eq_ok.mpr ⟨rule, evaluationEntry ids e, outcome, hrule, hanswer,
    h.applicable e he, rfl, SemanticOutcome.ofText?_eq_some.mp hread, hseverity, hread,
    hclass.symm, fun ref href => hevidence ref ((sortTexts_perm _).mem_iff.mp href),
    fun item hitem => hitems item ((sortTexts_perm _).mem_iff.mp hitem), ?_⟩
  rw [hmade.workspace, hmade.preview.1, hmade.preview.2]
  exact (buildFindingId_perm (sortTexts_perm _) (sortTexts_perm _)).trans hbuilt

/-- The audit of a validated submission whose evaluations can be presented is committed. -/
theorem committed
    (h : Accepted registry context evaluations findings evidence items entries)
    (hcontext : ContextOf registry context) (hregistry : registry.Lawful)
    (hmade : MadeOf context
      (sortAnswers (answersOf context evaluations (identities findings entries)))
      (sortFindings entries) a)
    (hpresentable : ∀ e ∈ evaluations, Presentable e) :
    Committed a context.sealedPreview context.evidenceRecords registry
      (sortAnswers (answersOf context evaluations (identities findings entries)))
      (sortFindings entries) evidence items where
  evaluated := by
    rw [hmade.evaluations, mapM_eq_ok, List.forall₂_map_left_iff, List.forall₂_same]
    intro entry hentry
    rcases mem_answersOf.mp (mem_sortAnswers.mp hentry) with ⟨e, he, rfl⟩ | ⟨c, hc, hno, rfl⟩
    · exact (h.checkEvaluation_iff hregistry he).mpr ⟨rfl, hpresentable e he⟩
    · exact hcontext.checkEvaluation_notApplicable hregistry hc hno
  reported := by
    rw [hmade.findings, mapM_eq_ok, List.forall₂_map_left_iff, List.forall₂_same]
    exact fun entry hentry =>
      h.checkFinding_entry ((List.perm_insertionSort _ entries).mem_iff.mp hentry)
  registered := by
    rw [hmade.registered.1, hmade.registered.2, hcontext.registered.1]
    exact ⟨rfl, _, hcontext.registered.2, rfl⟩
  context := by
    obtain ⟨sealedDigest, hsealed, hdigest⟩ := hcontext.digest
    rw [hmade.sealed] at hsealed
    obtain rfl := Option.some.inj hsealed
    rw [hmade.workspace, hmade.preview.1, hmade.preview.2, hmade.registered.1,
      hmade.registered.2, hmade.contextDigest, ← hmade.scope]
    exact hdigest
  distinct := ((List.perm_insertionSort _ _).map _).nodup_iff.mpr
    (h.answers_nodup hcontext hregistry.distinct)
  covered := fun id => ((List.perm_insertionSort _ _).map _).mem_iff.trans
    (h.covered hcontext hregistry id)
  evidenceKnown := h.evidenceKnown
  itemsKnown := h.itemsKnown
  rules := fun _ hrule => h.checkRule_answers hcontext hregistry hrule
  identified := ((List.perm_insertionSort _ entries).map _).nodup_iff.mpr h.distinctIds
  references := fun _ hentry => h.checkReferences_answers (mem_sortAnswers.mp hentry)
  referenced := h.referenced_answers fun e he => (hpresentable e he).findingRefs
  reports := fun _ hentry => h.checkReport_entry hcontext hregistry.distinct hmade
    ((List.perm_insertionSort _ entries).mem_iff.mp hentry)
  result := hmade.result
  payload := hmade.payload
  digest := hmade.digest

end Accepted

omit [UnicodeLibrary] in
theorem exists_createAudit {f : AuditFields}
    (hrequired : requiredFields { f with auditDigest := "pending", status := .active })
    (hformal : f.Formal) : ∃ a, createAudit f = .ok a := by
  have hformal' : ({ f with auditDigest := "pending", status := .active } : AuditFields).Formal :=
    ⟨hformal.bound, hformal.registry, hformal.created⟩
  rw [createAudit, dif_pos hrequired, dif_pos fun _ => hformal']
  exact ⟨_, rfl⟩

end

/-! ## A submission that is committed -/

section
attribute [local instance] ReferenceLibrary.referenceLibrary PreviewHistories.referenceUnicode

def sampleCanonical : Dict :=
  [("preview_level", .str "Conceptual"), ("sealed_preview_digest", .str "sha256:seal"),
    ("plan_digest", .str "sha256:plan"), ("operation_set_digest", .str "sha256:operations"),
    ("remote_snapshot_digest", .null),
    ("items", .list [.dict [("item_id", .str "item-1")], .dict [("item_id", .str "item-2")]])]

def sampleEvaluation (ruleId ruleVersion outcome : String) (findingRefs : List String) :
    RuleEvaluationDraft where
  ruleId := ruleId
  ruleVersion := ruleVersion
  outcome := outcome
  rationale := "Read against the items."
  findingRefs := findingRefs
  evidenceRefs := []

/-- One rule has failed, and the others that apply to the Preview have passed. -/
def sampleEvaluations (findingRef : String) : List RuleEvaluationDraft :=
  [sampleEvaluation "SEM-WORK-ITEM-COMPLETENESS" "1.0" "Failed" [findingRef],
    sampleEvaluation "SEM-WORK-ITEM-DECOMPOSITION" "1.1" "Passed" [],
    sampleEvaluation "SEM-ACCEPTANCE-CRITERIA" "1.0" "Passed" [],
    sampleEvaluation "SEM-ASSUMPTION-CLARITY" "1.0" "Passed" []]

def sampleFinding (findingRef : String) (affectedItemIds : List String) : FindingDraft where
  findingRef := findingRef
  ruleId := "SEM-WORK-ITEM-COMPLETENESS"
  resultClass := "work_item_content_gap"
  severity := "High"
  title := "No outcome is stated"
  rationale := "Both items leave it out."
  evidenceRefs := []
  affectedItemIds := affectedItemIds
  requiredAction := "State the outcome."
  suggestedResolution := none

def sampleFindings : List FindingDraft := [sampleFinding "outcome" ["item-1", "item-2"]]

/-- The context of the sample, what is recorded of its submission, and the fields of its audit. -/
def samplePrepared :
    Py (AuditContext × (List EvaluationEntry × List FindingEntry) × AuditFields) := do
  let context ← AuditContext.make "workspace-1" buildRegistryV1 "preview-1" 1 sampleCanonical []
  let recorded ← validate buildRegistryV1 context (sampleEvaluations "outcome") sampleFindings
  let fields ← auditFields context "audit-1" "2026-01-01T00:00:00Z" recorded.1 recorded.2
  pure (context, recorded, fields)

theorem samplePrepared_eq_ok : ∃ prepared, samplePrepared = .ok prepared := by
  have hok : samplePrepared.toBool = true := by decide +kernel
  cases hprepared : samplePrepared with
  | ok prepared => exact ⟨prepared, rfl⟩
  | error e =>
      rw [hprepared] at hok
      cases hok

attribute [local instance] ResubmittedAudits.sampleDatetimes

theorem sample_made : ∃ context answers reports a,
    AuditContext.make "workspace-1" buildRegistryV1 "preview-1" 1 sampleCanonical [] =
        .ok context ∧
      validate buildRegistryV1 context (sampleEvaluations "outcome") sampleFindings =
        .ok (answers, reports) ∧
      makeAudit context "audit-1" "2026-01-01T00:00:00Z" answers reports = .ok a ∧
      1 ≤ context.revision := by
  obtain ⟨prepared, hprepared⟩ := samplePrepared_eq_ok
  simp only [samplePrepared, bind_eq_ok] at hprepared
  obtain ⟨context, hcontext, ⟨answers, reports⟩, hvalid, fields, hfields, -⟩ := hprepared
  have hmade := hcontext
  simp only [AuditContext.make, computeAuditContextDigest, canonicalDigest,
    RuleRegistry.registryDigest, bind_eq_ok, pure_eq_ok] at hmade
  obtain ⟨_, -, _, -, _, ⟨_, -, rfl⟩, _, -, _, ⟨_, -, _, -, rfl⟩, rfl⟩ := hmade
  have hread := hfields
  simp only [auditFields, bind_eq_ok, pure_eq_ok] at hread
  obtain ⟨_, hsealed, _, hplan, _, hoperations, _, hremote, _, -, _, -, _, -, heq⟩ := hread
  cases hsealed
  cases hplan
  cases hoperations
  cases hremote
  have hrequired :
      requiredFields { fields with auditDigest := "pending", status := .active } := by
    subst heq
    exact ⟨le_refl 1, (by decide : ∀ text ∈ ["audit-1", "preview-1", "sha256:plan", "pending",
      "sha256:operations"], text ≠ ""), (by decide : (none : Option String) ≠ some "")⟩
  have hformal : fields.Formal := by
    subst heq
    exact ⟨⟨(by decide : "sha256:seal" ≠ ""), (by decide : "workspace-1" ≠ ""),
      digest_ne_empty _⟩, ⟨(by decide : absentText (some buildRegistryV1.registryVersion) = false),
        by simp [absentText, digest_ne_empty]⟩,
      (ResubmittedAudits.sampleOpinion "audit-1" (by decide) .passed).created⟩
  obtain ⟨a, ha⟩ := exists_createAudit hrequired hformal
  exact ⟨_, _, _, a, hcontext, hvalid, bind_eq_ok.mpr ⟨fields, hfields, ha⟩, le_refl 1⟩

end

/-! ## What a committed audit and a validated submission say of each other -/

section
variable [DatetimeLibrary] [PythonLibrary] [UnicodeLibrary]

/-- The commit accepts the audit of a validated submission exactly when every evaluation of the
submission has a rationale and gives no reference twice. -/
theorem submission_committed_iff {registry : RuleRegistry} (hregistry : registry.Lawful)
    {workspace previewId : String} {revision : Int} {canonical : Dict} {evidence : List Dict}
    {context : AuditContext} (hcontext :
      AuditContext.make workspace registry previewId revision canonical evidence = .ok context)
    {evaluations : List RuleEvaluationDraft} {findings : List FindingDraft}
    {answers : List EvaluationEntry} {reports : List FindingEntry}
    (hvalid : validate registry context evaluations findings = .ok (answers, reports))
    {auditId createdAt : String} {a : AuditRecord}
    (hmade : makeAudit context auditId createdAt answers reports = .ok a) :
    validateCommittedAudit a context.sealedPreview context.evidenceRecords registry = .ok () ↔
      ∀ e ∈ evaluations, Presentable e := by
  have hmadeOf := madeOf_makeAudit hmade
  have hcontext := contextOf_make hcontext
  have hcontexts : (context.semanticRuleContexts.map (·.ruleId)).Nodup := by
    rw [hcontext.ruleIds]
    exact hregistry.distinct
  obtain ⟨known, items, entries, haccepted, rfl, rfl⟩ :=
    (validate_eq_ok hregistry.distinct hcontexts).mp hvalid
  constructor
  · intro hcommit e he
    obtain ⟨read, _, _, _, hcommitted⟩ :=
      (validateCommittedAudit_eq_ok hregistry.distinct).mp hcommit
    have hevaluated := hcommitted.evaluated
    rw [hmadeOf.evaluations] at hevaluated
    have hmem : evaluationEntry (identities findings entries) e ∈
        sortAnswers (answersOf context evaluations (identities findings entries)) :=
      Accepted.mem_sortAnswers.mpr (Accepted.mem_answersOf.mpr (.inl ⟨e, he, rfl⟩))
    obtain ⟨entry, hentry⟩ := exists_of_mem_of_mapM hevaluated (List.mem_map_of_mem hmem)
    exact ((haccepted.checkEvaluation_iff hregistry he).mp hentry).2
  · intro hpresentable
    exact (validateCommittedAudit_eq_ok hregistry.distinct).mpr
      ⟨_, _, _, _, haccepted.committed hcontext hregistry hmadeOf hpresentable⟩

end

section
attribute [local instance] ReferenceLibrary.referenceLibrary PreviewHistories.referenceUnicode
  ResubmittedAudits.sampleDatetimes

theorem sample_presentable (findingRef : String) :
    ∀ e ∈ sampleEvaluations findingRef, Presentable e := by
  simp only [sampleEvaluations, List.forall_mem_cons, List.not_mem_nil, false_implies,
    implies_true, and_true]
  refine ⟨⟨?_, ?_, ?_⟩, ⟨?_, ?_, ?_⟩, ⟨?_, ?_, ?_⟩, ⟨?_, ?_, ?_⟩⟩ <;> simp [sampleEvaluation]

/-- A submission in which one rule has failed is validated and passes the commit. -/
theorem submission_committed_sample :
    ∃ (_ : DatetimeLibrary) (_ : PythonLibrary) (_ : UnicodeLibrary) (context : AuditContext)
      (answers : List EvaluationEntry) (reports : List FindingEntry) (a : AuditRecord),
      validate buildRegistryV1 context (sampleEvaluations "outcome") sampleFindings =
          .ok (answers, reports) ∧
        makeAudit context "audit-1" "2026-01-01T00:00:00Z" answers reports = .ok a ∧
        validateCommittedAudit a context.sealedPreview context.evidenceRecords buildRegistryV1 =
          .ok () := by
  obtain ⟨context, answers, reports, a, hcontext, hvalid, hmade, -⟩ := sample_made
  exact ⟨_, _, _, context, answers, reports, a, hvalid, hmade,
    (submission_committed_iff buildRegistryV1_lawful hcontext hvalid hmade).mpr
      (sample_presentable "outcome")⟩

end

end DeliverySystem.AuditSubmissions

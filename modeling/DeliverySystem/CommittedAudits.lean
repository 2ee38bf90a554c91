import DeliverySystem.AuditCommits
import DeliverySystem.AuditRules
import Mathlib.Data.List.Pairwise

/-!
# Audits that are committed

Before an audit is committed its evaluations and findings are validated against
the registry, the sealed Preview and its evidence. An audit that passes answers
every semantic rule once, each finding belongs to one evaluation, and the result
is the worst outcome.
-/
namespace DeliverySystem.CommittedAudits
open PythonValues CanonicalValues IssueCommands ExecutionContexts
open AuditRecords SealedPreviews AuditCommits AuditRules
set_option autoImplicit false

def boundary : String := "audit_commit_boundary_required"

/-! ## Evaluations and findings -/

structure EvaluationEntry where
  ruleId : String
  ruleVersion : String
  outcome : String
  rationale : String
  findingRefs : List String
  evidenceRefs : List String
deriving Repr, DecidableEq

def EvaluationEntry.toDict (e : EvaluationEntry) : Dict :=
  [("rule_id", .str e.ruleId), ("rule_version", .str e.ruleVersion), ("outcome", .str e.outcome),
    ("rationale", .str e.rationale), ("finding_refs", .texts e.findingRefs),
    ("evidence_refs", .texts e.evidenceRefs)]

/-- What a finding says of a rule. -/
structure FindingContent where
  ruleId : String
  ruleVersion : String
  outcome : String
  resultClass : String
  severity : String
  title : String
  rationale : String
  evidenceRefs : List String
  affectedItemIds : List String
  requiredAction : String
  suggestedResolution : Option String
deriving Repr, DecidableEq

structure FindingEntry extends FindingContent where
  findingId : String
deriving Repr, DecidableEq

def FindingEntry.toDict (f : FindingEntry) : Dict :=
  [("finding_id", .str f.findingId), ("rule_id", .str f.ruleId),
    ("rule_version", .str f.ruleVersion), ("outcome", .str f.outcome),
    ("result_class", .str f.resultClass), ("severity", .str f.severity), ("title", .str f.title),
    ("rationale", .str f.rationale), ("evidence_refs", .texts f.evidenceRefs),
    ("affected_item_ids", .texts f.affectedItemIds), ("required_action", .str f.requiredAction),
    ("suggested_resolution", .textOrNone f.suggestedResolution)]

def evaluationFields : List String :=
  ["rule_id", "rule_version", "outcome", "rationale", "finding_refs", "evidence_refs"]

def findingFields : List String :=
  ["finding_id", "rule_id", "rule_version", "outcome", "result_class", "severity", "title",
    "rationale", "evidence_refs", "affected_item_ids", "required_action", "suggested_resolution"]

/-- A text of an entry, which must not be empty. -/
def entryText (entry : Dict) (key : String) : Py String :=
  orRaise (entry.get key).nonEmptyText? (.valueError boundary)

/-- A list of an entry; its members are texts that are not empty and differ. -/
def entryTexts (entry : Dict) (key : String) : Py (List String) := do
  let items ← orRaise (entry.get key).list? (.valueError boundary)
  let texts ← orRaise (items.mapM Value.nonEmptyText?) (.valueError boundary)
  raiseIf (¬texts.Nodup) boundary
  pure texts

def checkEvaluation (entry : Dict) : Py EvaluationEntry := do
  raiseIf (entry.hasExactly evaluationFields = false) boundary
  let ruleId ← entryText entry "rule_id"
  let ruleVersion ← entryText entry "rule_version"
  let outcome ← entryText entry "outcome"
  let rationale ← entryText entry "rationale"
  let findingRefs ← entryTexts entry "finding_refs"
  let evidenceRefs ← entryTexts entry "evidence_refs"
  pure { ruleId, ruleVersion, outcome, rationale, findingRefs, evidenceRefs }

def checkFinding (entry : Dict) : Py FindingEntry := do
  raiseIf (entry.hasExactly findingFields = false) boundary
  let findingId ← entryText entry "finding_id"
  let ruleId ← entryText entry "rule_id"
  let ruleVersion ← entryText entry "rule_version"
  let outcome ← entryText entry "outcome"
  let resultClass ← entryText entry "result_class"
  let severity ← entryText entry "severity"
  let title ← entryText entry "title"
  let rationale ← entryText entry "rationale"
  let requiredAction ← entryText entry "required_action"
  let suggestedResolution ← orRaise (optional? Value.text? (entry.get "suggested_resolution"))
    (.valueError boundary)
  let evidenceRefs ← entryTexts entry "evidence_refs"
  let affectedItemIds ← entryTexts entry "affected_item_ids"
  pure { findingId, ruleId, ruleVersion, outcome, resultClass, severity, title, rationale
         requiredAction, suggestedResolution, evidenceRefs, affectedItemIds }

/-- `_validate_audit_children` -/
def validateAuditChildren (evaluations findings : List Dict) :
    Py (List EvaluationEntry × List FindingEntry) := do
  let evaluations ← evaluations.mapM checkEvaluation
  let findings ← findings.mapM checkFinding
  pure (evaluations, findings)

/-! ## Identities of findings -/

def severities : List String := ["Blocker", "High", "Medium", "Low"]

/-- `sorted(texts)` -/
def sortTexts (texts : List String) : List String := texts.insertionSort (· ≤ ·)

/-- The text of a `ValueError` for a value that is no member of an enumeration. -/
def invalidMember (value name : String) : String :=
  "'" ++ value ++ "' is not a valid " ++ name

section
variable [PythonLibrary] [UnicodeLibrary]

/-- The mapping whose digest names a finding. -/
def findingPayload (workspace previewId : String) (revision : Int) (f : FindingContent) : Dict :=
  [("domain", .str "delivery-system:finding-id:v1"), ("workspace_identity", .str workspace),
    ("preview_id", .str previewId), ("revision", .int revision), ("rule_id", .str f.ruleId),
    ("rule_version", .str f.ruleVersion), ("outcome", .str f.outcome),
    ("result_class", .str f.resultClass), ("severity", .str f.severity), ("title", .str f.title),
    ("rationale", .str f.rationale), ("evidence_refs", .texts (sortTexts f.evidenceRefs)),
    ("affected_item_ids", .texts (sortTexts f.affectedItemIds)),
    ("required_action", .str f.requiredAction),
    ("suggested_resolution", .textOrNone f.suggestedResolution)]

/-- `build_finding_id` -/
def buildFindingId (workspace previewId : String) (revision : Int) (f : FindingContent) :
    Py String := do
  raiseIf (revision < 1) "invalid_input"
  raiseIf (∃ text ∈ [workspace, previewId, f.ruleId, f.ruleVersion, f.severity, f.title,
    f.rationale, f.requiredAction], text = "") "invalid_input"
  raiseIf (f.severity ∉ severities) "invalid_input"
  raiseIf (∃ text ∈ f.evidenceRefs ++ f.affectedItemIds, text = "") "invalid_input"
  raiseIf (¬f.evidenceRefs.Nodup ∨ ¬f.affectedItemIds.Nodup) "invalid_input"
  raiseIf (SemanticOutcome.ofText? f.outcome = none) (invalidMember f.outcome "SemanticOutcome")
  raiseIf (ResultClass.ofText? f.resultClass = none) (invalidMember f.resultClass "ResultClass")
  let payload ← CanonicalValues.normalize (.dict (findingPayload workspace previewId revision f))
  pure ("finding_" ++ PythonLibrary.hexdigest payload)

end

/-! ## The checks of a commit -/

/-- A member of a set of values. -/
def setMember (value : Value) : Py Value :=
  if value.hashable then .ok value else .error .typeError

/-- `item[key]` -/
def memberOf (key : String) : Value → Py Value
  | .dict entry => Dict.require entry key
  | _ => .error .typeError

/-- `{record["evidence_id"] for record in evidence_records}` -/
def evidenceIds (evidence : List Dict) : Py (List Value) :=
  evidence.mapM fun record => do
    let evidenceId ← Dict.require record "evidence_id"
    setMember evidenceId

/-- `{item["item_id"] for item in canonical.get("items", [])}` -/
def itemIds (canonical : Dict) : Py (List Value) := do
  let items ← Value.iterate (getOr canonical "items" (.list []))
  items.mapM fun item => do
    let itemId ← memberOf "item_id" item
    setMember itemId

/-- `known[key(x)] = x` -/
def setByKey {α : Type} (key : α → String) (known : List α) (x : α) : List α :=
  if key x ∈ known.map key then known.map fun other => if key other = key x then x else other
  else known ++ [x]

/-- `{key(x): x for x in xs}` -/
def byKey {α : Type} (key : α → String) (xs : List α) : List α := xs.foldl (setByKey key) []

/-- The result of an audit whose evaluations have these outcomes. -/
def expectedResult (outcomes : List String) : AuditResult :=
  if "Blocked" ∈ outcomes then .blocked
  else if "Unknown" ∈ outcomes then .needsInformation
  else if "Failed" ∈ outcomes then .changesRequired
  else .passed

/-- The outcomes that a rule which applies can have. -/
def applicableOutcomes : List String := ["Passed", "Failed", "Unknown", "Blocked"]

/-- The outcomes without findings. -/
def settledOutcomes : List String := ["Passed", "NotApplicable"]

/-- The answer to one rule. -/
def checkRule (canonical : Dict) (evidence : List Value) (evaluations : List EvaluationEntry)
    (rule : RuleDefinition) : Py Unit := do
  let entry ← orRaise (evaluations.find? (·.ruleId = rule.ruleId)) .keyError
  raiseIf (entry.ruleVersion ≠ rule.ruleVersion) boundary
  let applicable ← ruleIsApplicable rule canonical
  raiseIf (applicable = false ∧ (entry.outcome ≠ "NotApplicable" ∨ entry.findingRefs ≠ [] ∨
    entry.evidenceRefs ≠ [])) boundary
  raiseIf (applicable = true ∧ entry.outcome ∉ applicableOutcomes) boundary
  raiseIf (∃ ref ∈ entry.evidenceRefs, .str ref ∉ evidence) boundary

/-- The findings to which one evaluation refers. -/
def checkReferences (findings : List FindingEntry) (entry : EvaluationEntry) : Py Unit := do
  raiseIf (entry.outcome ∈ settledOutcomes ∧ entry.findingRefs ≠ []) boundary
  raiseIf (entry.outcome ∉ settledOutcomes ∧ entry.findingRefs = []) boundary
  raiseIf (¬∀ ref ∈ entry.findingRefs, ∃ f ∈ findings, f.findingId = ref ∧
    f.ruleId = entry.ruleId) boundary

section
variable [DatetimeLibrary] [PythonLibrary] [UnicodeLibrary]

/-- One finding against its rule and its evaluation. -/
def checkReport (a : AuditRecord) (evidence items : List Value) (rules : List RuleDefinition)
    (evaluations : List EvaluationEntry) (f : FindingEntry) : Py Unit := do
  let rule ← orRaise (rules.find? (·.ruleId = f.ruleId)) (.valueError boundary)
  let entry ← orRaise (evaluations.find? (·.ruleId = f.ruleId)) (.valueError boundary)
  raiseIf (entry.outcome = "NotApplicable") boundary
  raiseIf (f.ruleVersion ≠ rule.ruleVersion ∨ f.outcome ≠ entry.outcome ∨
    f.severity ∉ severities) boundary
  let outcome ← orRaise (SemanticOutcome.ofText? entry.outcome)
    (.valueError (invalidMember entry.outcome "SemanticOutcome"))
  raiseIf (some f.resultClass ≠ rule.resultClass outcome ∨
    (∃ ref ∈ f.evidenceRefs, .str ref ∉ evidence) ∨
    ∃ item ∈ f.affectedItemIds, .str item ∉ items) boundary
  let computed ← buildFindingId a.workspaceIdentity a.previewId a.revision f.toFindingContent
  raiseIf (computed ≠ f.findingId) boundary

/-- `validate_committed_audit` -/
def validateCommittedAudit (a : AuditRecord) (canonical : Dict) (evidence : List Dict)
    (registry : RuleRegistry) : Py Unit := do
  let (evaluations, findings) ← validateAuditChildren a.ruleEvaluations a.findings
  let registryDigest ← registry.registryDigest
  raiseIf (a.ruleRegistryVersion ≠ some registry.registryVersion ∨
    a.ruleRegistryDigest ≠ some registryDigest) boundary
  let contextDigest ← computeAuditContextDigest a.workspaceIdentity a.previewId a.revision
    (.str a.sealedPreviewDigest) evidence (some registry.registryVersion) (some registryDigest)
    (.str a.auditScope)
  raiseIf (a.auditContextDigest ≠ contextDigest) boundary
  let rules := byKey (·.ruleId) registry.semanticRules
  raiseIf (¬(evaluations.map (·.ruleId)).Nodup) boundary
  raiseIf (¬(evaluations.map (·.ruleId) ⊆ rules.map (·.ruleId) ∧
    rules.map (·.ruleId) ⊆ evaluations.map (·.ruleId))) boundary
  let evidence ← evidenceIds evidence
  let items ← itemIds canonical
  rules.forM (checkRule canonical evidence evaluations)
  raiseIf (¬(findings.map (·.findingId)).Nodup) boundary
  evaluations.forM (checkReferences findings)
  raiseIf (¬(evaluations.flatMap (·.findingRefs)).Perm (findings.map (·.findingId))) boundary
  findings.forM (checkReport a evidence items rules evaluations)
  raiseIf (a.result ≠ expectedResult (evaluations.map (·.outcome))) boundary
  -- the version and the digest of the registry are those of the audit here
  let payloadDigest ← canonicalDigest (auditProjection a)
  raiseIf (payloadDigest ≠ a.auditPayloadDigest ∨ a.verifyDigest = false) boundary

/-! ## What the checks ask for -/

omit [DatetimeLibrary] [PythonLibrary] [UnicodeLibrary] in
/-- Items with keys of their own are all kept, in their order. -/
theorem byKey_eq {α : Type} {key : α → String} {xs : List α} (h : (xs.map key).Nodup) :
    byKey key xs = xs := by
  have hfold : ∀ xs known : List α, ((known ++ xs).map key).Nodup →
      xs.foldl (setByKey key) known = known ++ xs := by
    intro xs
    induction xs with
    | nil => simp
    | cons x rest ih =>
        intro known hnodup
        have hnew : key x ∉ known.map key := by
          rw [List.map_append, List.map_cons] at hnodup
          exact fun hmem => List.disjoint_of_nodup_append hnodup hmem List.mem_cons_self
        rw [List.foldl_cons, setByKey, if_neg hnew, ih, List.append_assoc, List.singleton_append]
        rwa [List.append_assoc, List.singleton_append]
  unfold byKey
  simpa using hfold xs [] (by simpa using h)

omit [DatetimeLibrary] [PythonLibrary] [UnicodeLibrary] in
theorem checkRule_eq_ok {canonical : Dict} {evidence : List Value}
    {evaluations : List EvaluationEntry} {rule : RuleDefinition} :
    checkRule canonical evidence evaluations rule = .ok () ↔
      ∃ e, evaluations.find? (·.ruleId = rule.ruleId) = some e ∧
        e.ruleVersion = rule.ruleVersion ∧
        ∃ applicable, ruleIsApplicable rule canonical = .ok applicable ∧
          (applicable = false → e.outcome = "NotApplicable" ∧ e.findingRefs = [] ∧
            e.evidenceRefs = []) ∧
          (applicable = true → e.outcome ∈ applicableOutcomes) ∧
          ∀ ref ∈ e.evidenceRefs, .str ref ∈ evidence := by
  simp only [checkRule, bind_eq_ok, orRaise_eq_ok, raiseIf_eq_ok, not_and, not_or, not_not,
    not_exists]
  constructor
  · rintro ⟨e, he, _, hversion, applicable, happlicable, _, hno, _, hyes, hevidence⟩
    exact ⟨e, he, hversion, applicable, happlicable, hno, hyes, hevidence⟩
  · rintro ⟨e, he, hversion, applicable, happlicable, hno, hyes, hevidence⟩
    exact ⟨e, he, (), hversion, applicable, happlicable, (), hno, (), hyes, hevidence⟩

omit [DatetimeLibrary] [PythonLibrary] [UnicodeLibrary] in
theorem checkReferences_eq_ok {findings : List FindingEntry} {e : EvaluationEntry} :
    checkReferences findings e = .ok () ↔
      (e.outcome ∈ settledOutcomes ↔ e.findingRefs = []) ∧
        ∀ ref ∈ e.findingRefs, ∃ f ∈ findings, f.findingId = ref ∧ f.ruleId = e.ruleId := by
  simp only [checkReferences, bind_eq_ok, raiseIf_eq_ok, not_and, not_not]
  constructor
  · rintro ⟨_, hsettled, _, hopen, hrefs⟩
    exact ⟨⟨hsettled, fun hnil => by_contra fun h => hopen h hnil⟩, hrefs⟩
  · rintro ⟨hsettled, hrefs⟩
    exact ⟨(), hsettled.mp, (), fun h hnil => h (hsettled.mpr hnil), hrefs⟩

theorem checkReport_eq_ok {a : AuditRecord} {evidence items : List Value}
    {rules : List RuleDefinition} {evaluations : List EvaluationEntry} {f : FindingEntry} :
    checkReport a evidence items rules evaluations f = .ok () ↔
      ∃ rule e outcome, rules.find? (·.ruleId = f.ruleId) = some rule ∧
        evaluations.find? (·.ruleId = f.ruleId) = some e ∧ e.outcome ≠ "NotApplicable" ∧
        f.ruleVersion = rule.ruleVersion ∧ f.outcome = e.outcome ∧ f.severity ∈ severities ∧
        SemanticOutcome.ofText? e.outcome = some outcome ∧
        some f.resultClass = rule.resultClass outcome ∧
        (∀ ref ∈ f.evidenceRefs, .str ref ∈ evidence) ∧
        (∀ item ∈ f.affectedItemIds, .str item ∈ items) ∧
        buildFindingId a.workspaceIdentity a.previewId a.revision f.toFindingContent =
          .ok f.findingId := by
  simp only [checkReport, bind_eq_ok, orRaise_eq_ok, raiseIf_eq_ok, not_or, not_and, not_not,
    not_exists]
  constructor
  · rintro ⟨rule, hrule, e, he, _, happlies, _, ⟨hversion, houtcome, hseverity⟩, outcome, hread, _,
      ⟨hclass, hevidence, hitems⟩, computed, hcomputed, rfl⟩
    exact ⟨rule, e, outcome, hrule, he, happlies, hversion, houtcome, hseverity, hread, hclass,
      hevidence, hitems, hcomputed⟩
  · rintro ⟨rule, e, outcome, hrule, he, happlies, hversion, houtcome, hseverity, hread, hclass,
      hevidence, hitems, hcomputed⟩
    exact ⟨rule, hrule, e, he, (), happlies, (), ⟨hversion, houtcome, hseverity⟩, outcome, hread,
      (), ⟨hclass, hevidence, hitems⟩, f.findingId, hcomputed, rfl⟩

/-- An audit as the commit validates it, with the entries that were read. -/
structure Committed (a : AuditRecord) (canonical : Dict) (evidence : List Dict)
    (registry : RuleRegistry) (evaluations : List EvaluationEntry)
    (findings : List FindingEntry) (known items : List Value) : Prop where
  evaluated : a.ruleEvaluations.mapM checkEvaluation = .ok evaluations
  reported : a.findings.mapM checkFinding = .ok findings
  registered : a.ruleRegistryVersion = some registry.registryVersion ∧
    ∃ registryDigest, registry.registryDigest = .ok registryDigest ∧
      a.ruleRegistryDigest = some registryDigest
  context : computeAuditContextDigest a.workspaceIdentity a.previewId a.revision
    (.str a.sealedPreviewDigest) evidence a.ruleRegistryVersion a.ruleRegistryDigest
    (.str a.auditScope) = .ok a.auditContextDigest
  distinct : (evaluations.map (·.ruleId)).Nodup
  covered : ∀ id, id ∈ evaluations.map (·.ruleId) ↔ id ∈ registry.semanticRules.map (·.ruleId)
  evidenceKnown : evidenceIds evidence = .ok known
  itemsKnown : itemIds canonical = .ok items
  rules : ∀ rule ∈ registry.semanticRules, checkRule canonical known evaluations rule = .ok ()
  identified : (findings.map (·.findingId)).Nodup
  references : ∀ e ∈ evaluations, checkReferences findings e = .ok ()
  referenced : (evaluations.flatMap (·.findingRefs)).Perm (findings.map (·.findingId))
  reports : ∀ f ∈ findings,
    checkReport a known items registry.semanticRules evaluations f = .ok ()
  result : a.result = expectedResult (evaluations.map (·.outcome))
  payload : canonicalDigest (auditProjection a) = .ok a.auditPayloadDigest
  digest : a.verifyDigest = true

theorem validateCommittedAudit_eq_ok {a : AuditRecord} {canonical : Dict} {evidence : List Dict}
    {registry : RuleRegistry} (hregistry : (registry.semanticRules.map (·.ruleId)).Nodup) :
    validateCommittedAudit a canonical evidence registry = .ok () ↔
      ∃ evaluations findings known items,
        Committed a canonical evidence registry evaluations findings known items := by
  simp only [validateCommittedAudit, validateAuditChildren, byKey_eq hregistry, bind_eq_ok,
    raiseIf_eq_ok, pure_eq_ok, not_or, not_not, Bool.not_eq_false, Prod.exists, Prod.mk.injEq]
  constructor
  · rintro ⟨_, _, ⟨evaluations, hevaluated, findings, hreported, rfl, rfl⟩, registryDigest,
      hdigest, _, ⟨hversion, hregistered⟩, _, hcontext, _, rfl, _, hdistinct, _,
      ⟨hknown, hcovered⟩, known, hevidence, items, hitems, _, hrules, _, hidentified, _,
      hreferences, _, hreferenced, _, hreports, _, hresult, _, hpayload, rfl, hverify⟩
    rw [← hversion, ← hregistered] at hcontext
    exact ⟨evaluations, findings, known, items, hevaluated, hreported,
      ⟨hversion, registryDigest, hdigest, hregistered⟩, hcontext, hdistinct,
      fun id => ⟨@hknown id, @hcovered id⟩, hevidence, hitems, forM_eq_ok.mp hrules, hidentified,
      forM_eq_ok.mp hreferences, hreferenced, forM_eq_ok.mp hreports, hresult, hpayload, hverify⟩
  · rintro ⟨evaluations, findings, known, items, h⟩
    obtain ⟨hversion, registryDigest, hdigest, hregistered⟩ := h.registered
    have hcontext := h.context
    rw [hversion, hregistered] at hcontext
    exact ⟨evaluations, findings, ⟨_, h.evaluated, _, h.reported, rfl, rfl⟩, registryDigest,
      hdigest, (), ⟨hversion, hregistered⟩, _, hcontext, (), rfl, (), h.distinct, (),
      ⟨fun id => (h.covered id).mp, fun id => (h.covered id).mpr⟩, known, h.evidenceKnown, items,
      h.itemsKnown, (), forM_eq_ok.mpr h.rules, (), h.identified, (),
      forM_eq_ok.mpr h.references, (), h.referenced, (), forM_eq_ok.mpr h.reports, (), h.result,
      _, h.payload, rfl, h.digest⟩

/-! ## What a committed audit says -/

/-- How bad a result is. -/
def resultRank : AuditResult → ℕ
  | .passed => 0
  | .changesRequired => 1
  | .needsInformation => 2
  | .blocked => 3

/-- The result that one outcome calls for. -/
def resultOfOutcome (outcome : String) : AuditResult := expectedResult [outcome]

/-- The answers of an audit: every semantic rule is answered once, by its version, and with
`NotApplicable` exactly where it does not apply; every finding belongs to one answer and reports
it under the class of the rule; the result is the worst of the answers. -/
structure Answered (registry : RuleRegistry) (canonical : Dict) (result : AuditResult)
    (evaluations : List EvaluationEntry) (findings : List FindingEntry) : Prop where
  complete : (evaluations.map (·.ruleId)).Perm (registry.semanticRules.map (·.ruleId))
  answers : ∀ rule ∈ registry.semanticRules, ∃ e ∈ evaluations, e.ruleId = rule.ruleId ∧
    e.ruleVersion = rule.ruleVersion ∧
    (ruleIsApplicable rule canonical = .ok false ∧ e.outcome = "NotApplicable" ∨
      ruleIsApplicable rule canonical = .ok true ∧ e.outcome ∈ applicableOutcomes)
  belongs : ∀ f ∈ findings, ∃ e ∈ evaluations, f.findingId ∈ e.findingRefs ∧
    (∀ other ∈ evaluations, f.findingId ∈ other.findingRefs → other = e) ∧
    f.ruleId = e.ruleId ∧ f.ruleVersion = e.ruleVersion ∧ f.outcome = e.outcome ∧
    ∃ rule ∈ registry.semanticRules, rule.ruleId = f.ruleId ∧ ∃ outcome : SemanticOutcome,
      outcome.text = e.outcome ∧ rule.resultClass outcome = some f.resultClass
  reported : ∀ e ∈ evaluations, e.findingRefs.Nodup ∧
    (e.findingRefs = [] ↔ e.outcome ∈ settledOutcomes) ∧
    ∀ ref ∈ e.findingRefs, ∃ f ∈ findings, f.findingId = ref
  worst : (∀ e ∈ evaluations, resultRank (resultOfOutcome e.outcome) ≤ resultRank result) ∧
    (result = .passed ∨ ∃ e ∈ evaluations, resultOfOutcome e.outcome = result)
  passed : result = .passed → findings = [] ∧ ∀ e ∈ evaluations, e.outcome ∈ settledOutcomes

omit [DatetimeLibrary] [PythonLibrary] [UnicodeLibrary] in
theorem expectedResult_worst (outcomes : List String) :
    (∀ outcome ∈ outcomes,
        resultRank (resultOfOutcome outcome) ≤ resultRank (expectedResult outcomes)) ∧
      (expectedResult outcomes = .passed ∨
        ∃ outcome ∈ outcomes, resultOfOutcome outcome = expectedResult outcomes) := by
  have hone (outcome : String) : resultOfOutcome outcome =
      if "Blocked" = outcome then .blocked else if "Unknown" = outcome then .needsInformation
      else if "Failed" = outcome then .changesRequired else .passed := by
    simp [resultOfOutcome, expectedResult]
  unfold expectedResult
  split_ifs with hblocked hunknown hfailed
  · refine ⟨fun outcome _ => ?_, .inr ⟨_, hblocked, by decide⟩⟩
    rw [hone]
    split_ifs <;> decide
  · refine ⟨fun outcome hmem => ?_, .inr ⟨_, hunknown, by decide⟩⟩
    rw [hone, if_neg (by rintro rfl; exact hblocked hmem)]
    split_ifs <;> decide
  · refine ⟨fun outcome hmem => ?_, .inr ⟨_, hfailed, by decide⟩⟩
    rw [hone, if_neg (by rintro rfl; exact hblocked hmem),
      if_neg (by rintro rfl; exact hunknown hmem)]
    split_ifs <;> decide
  · refine ⟨fun outcome hmem => ?_, .inl rfl⟩
    rw [hone, if_neg (by rintro rfl; exact hblocked hmem),
      if_neg (by rintro rfl; exact hunknown hmem), if_neg (by rintro rfl; exact hfailed hmem)]

omit [DatetimeLibrary] [PythonLibrary] [UnicodeLibrary] in
theorem find?_ruleId {α : Type} {xs : List α} {ruleId : α → String} {id : String} {x : α}
    (h : xs.find? (fun x => ruleId x = id) = some x) : x ∈ xs ∧ ruleId x = id :=
  ⟨List.mem_of_find?_eq_some h, by simpa using List.find?_some h⟩

section
variable {a : AuditRecord} {canonical : Dict} {evidence : List Dict} {registry : RuleRegistry}
  {evaluations : List EvaluationEntry} {findings : List FindingEntry} {known items : List Value}

namespace Committed

/-- Evaluations of one rule are one evaluation. -/
theorem same_rule
    (h : Committed a canonical evidence registry evaluations findings known items)
    {e e' : EvaluationEntry} (he : e ∈ evaluations) (he' : e' ∈ evaluations)
    (hrule : e.ruleId = e'.ruleId) : e = e' :=
  List.inj_on_of_nodup_map h.distinct he he' hrule

/-- An evaluation has the version of its rule. -/
theorem version
    (h : Committed a canonical evidence registry evaluations findings known items)
    {e : EvaluationEntry} (he : e ∈ evaluations) {rule : RuleDefinition}
    (hrule : rule ∈ registry.semanticRules) (hid : e.ruleId = rule.ruleId) :
    e.ruleVersion = rule.ruleVersion := by
  obtain ⟨e', hfound, hversion, -⟩ := checkRule_eq_ok.mp (h.rules rule hrule)
  obtain ⟨he', hid'⟩ := find?_ruleId hfound
  rw [h.same_rule he he' (hid.trans hid'.symm)]
  exact hversion

theorem answers
    (h : Committed a canonical evidence registry evaluations findings known items)
    {rule : RuleDefinition} (hrule : rule ∈ registry.semanticRules) :
    ∃ e ∈ evaluations, e.ruleId = rule.ruleId ∧ e.ruleVersion = rule.ruleVersion ∧
      (ruleIsApplicable rule canonical = .ok false ∧ e.outcome = "NotApplicable" ∨
        ruleIsApplicable rule canonical = .ok true ∧ e.outcome ∈ applicableOutcomes) := by
  obtain ⟨e, hfound, hversion, applicable, happlicable, hno, hyes, -⟩ :=
    checkRule_eq_ok.mp (h.rules rule hrule)
  obtain ⟨he, hid⟩ := find?_ruleId hfound
  refine ⟨e, he, hid, hversion, ?_⟩
  cases applicable with
  | false => exact .inl ⟨happlicable, (hno rfl).1⟩
  | true => exact .inr ⟨happlicable, hyes rfl⟩

/-- No finding is referred to twice. -/
theorem referenced_once
    (h : Committed a canonical evidence registry evaluations findings known items) :
    (∀ e ∈ evaluations, e.findingRefs.Nodup) ∧
      ∀ e ∈ evaluations, ∀ e' ∈ evaluations, ∀ ref, ref ∈ e.findingRefs →
        ref ∈ e'.findingRefs → e' = e := by
  have hnodup := h.referenced.nodup_iff.mpr h.identified
  rw [List.nodup_flatMap] at hnodup
  refine ⟨hnodup.1, fun e he e' he' ref hmem hmem' => by_contra fun hne => ?_⟩
  have hsymmetric : Std.Symm (Function.onFun List.Disjoint EvaluationEntry.findingRefs) :=
    ⟨fun _ _ hdisjoint => hdisjoint.symm⟩
  exact hnodup.2.forall he' he hne hmem' hmem

theorem belongs
    (h : Committed a canonical evidence registry evaluations findings known items)
    {f : FindingEntry} (hf : f ∈ findings) :
    ∃ e ∈ evaluations, f.findingId ∈ e.findingRefs ∧
      (∀ other ∈ evaluations, f.findingId ∈ other.findingRefs → other = e) ∧
      f.ruleId = e.ruleId ∧ f.ruleVersion = e.ruleVersion ∧ f.outcome = e.outcome ∧
      ∃ rule ∈ registry.semanticRules, rule.ruleId = f.ruleId ∧ ∃ outcome : SemanticOutcome,
        outcome.text = e.outcome ∧ rule.resultClass outcome = some f.resultClass := by
  have hmem := h.referenced.mem_iff.mpr (List.mem_map_of_mem hf)
  obtain ⟨e, he, href⟩ := List.mem_flatMap.mp hmem
  -- the evaluation refers to a finding of its own rule, and the identity is that of `f`
  obtain ⟨f', hf', hsame, hrule⟩ :=
    (checkReferences_eq_ok.mp (h.references e he)).2 f.findingId href
  obtain rfl := List.inj_on_of_nodup_map h.identified hf' hf hsame
  obtain ⟨rule, e', outcome, hfoundRule, hfound, -, hversion, houtcome, -, hread, hclass, -⟩ :=
    checkReport_eq_ok.mp (h.reports f' hf)
  obtain ⟨hruleMem, hruleId⟩ := find?_ruleId hfoundRule
  obtain ⟨he', hid⟩ := find?_ruleId hfound
  obtain rfl := h.same_rule he' he (hid.trans hrule)
  refine ⟨e', he', href, fun other hother hrefers => h.referenced_once.2 e' he' other hother _ href
    hrefers, hrule, ?_, houtcome, rule, hruleMem, hruleId, outcome,
    SemanticOutcome.ofText?_eq_some.mp hread, hclass.symm⟩
  rw [hversion, h.version he' hruleMem (hid.trans hruleId.symm)]

theorem passed
    (h : Committed a canonical evidence registry evaluations findings known items)
    (hpassed : a.result = .passed) :
    findings = [] ∧ ∀ e ∈ evaluations, e.outcome ∈ settledOutcomes := by
  have hsettled : ∀ e ∈ evaluations, e.outcome ∈ settledOutcomes := by
    intro e he
    obtain ⟨rule, hrule, hid⟩ := List.mem_map.mp ((h.covered _).mp (List.mem_map_of_mem he))
    obtain ⟨e', he', hid', -, hanswer⟩ := h.answers hrule
    obtain rfl := h.same_rule he' he (hid'.trans hid)
    have hrank := (expectedResult_worst (evaluations.map (·.outcome))).1 e'.outcome
      (List.mem_map_of_mem he)
    rw [← h.result, hpassed] at hrank
    rcases hanswer with ⟨-, hno⟩ | ⟨-, hyes⟩
    · rw [hno]
      decide
    · simp only [applicableOutcomes, List.mem_cons, List.not_mem_nil, or_false] at hyes
      rcases hyes with hyes | hyes | hyes | hyes
      · rw [hyes]
        decide
      all_goals
        rw [hyes] at hrank
        exact absurd hrank (by decide)
  refine ⟨?_, hsettled⟩
  have hnone : evaluations.flatMap (·.findingRefs) = [] :=
    List.flatMap_eq_nil_iff.mpr fun e he =>
      (checkReferences_eq_ok.mp (h.references e he)).1.mp (hsettled e he)
  have hperm := h.referenced
  rw [hnone] at hperm
  exact List.map_eq_nil_iff.mp hperm.nil_eq.symm

theorem answered
    (h : Committed a canonical evidence registry evaluations findings known items)
    (hregistry : (registry.semanticRules.map (·.ruleId)).Nodup) :
    Answered registry canonical a.result evaluations findings where
  complete := (List.perm_ext_iff_of_nodup h.distinct hregistry).mpr h.covered
  answers := fun _ hrule => h.answers hrule
  belongs := fun _ hf => h.belongs hf
  reported := by
    intro e he
    obtain ⟨hsettled, hrefs⟩ := checkReferences_eq_ok.mp (h.references e he)
    refine ⟨h.referenced_once.1 e he, hsettled.symm, fun ref href => ?_⟩
    obtain ⟨f, hf, hid, -⟩ := hrefs ref href
    exact ⟨f, hf, hid⟩
  worst := by
    have hworst := expectedResult_worst (evaluations.map (·.outcome))
    rw [← h.result] at hworst
    simpa only [List.mem_map, exists_exists_and_eq_and, forall_exists_index, and_imp,
      forall_apply_eq_imp_iff₂] using hworst
  passed := h.passed

end Committed

end

end
end DeliverySystem.CommittedAudits

import DeliverySystem.SealedPreviews

/-!
# Audit rules

The registry holds the rules of an audit: gates that the runtime decides, and
semantic rules that an auditor answers. A semantic rule names the class under
which a finding reports an outcome, and the sealed Preview decides whether the
rule applies.
-/
namespace DeliverySystem.AuditRules
open PythonValues CanonicalValues IssueCommands ExecutionContexts
set_option autoImplicit false

inductive RuleCategory where
  | runtimeGate
  | semantic
deriving Repr, DecidableEq

def RuleCategory.text : RuleCategory → String
  | .runtimeGate => "RuntimeGate"
  | .semantic => "Semantic"

inductive SemanticOutcome where
  | passed
  | failed
  | unknown
  | blocked
  | notApplicable
deriving Repr, DecidableEq

namespace SemanticOutcome

def text : SemanticOutcome → String
  | .passed => "Passed"
  | .failed => "Failed"
  | .unknown => "Unknown"
  | .blocked => "Blocked"
  | .notApplicable => "NotApplicable"

/-- `SemanticOutcome(text)`, `none` where it raises. -/
def ofText? (text : String) : Option SemanticOutcome :=
  [passed, failed, unknown, blocked, notApplicable].find? fun outcome => outcome.text = text

theorem ofText?_eq_some {text : String} {outcome : SemanticOutcome} :
    ofText? text = some outcome ↔ outcome.text = text := by
  constructor
  · intro h
    simpa using List.find?_some h
  · rintro rfl
    cases outcome <;> decide

theorem text_injective {a b : SemanticOutcome} (h : a.text = b.text) : a = b := by
  have ha := ofText?_eq_some.mpr h
  rw [ofText?_eq_some.mpr rfl] at ha
  exact (Option.some.inj ha).symm

end SemanticOutcome

inductive ResultClass where
  | workItemContentGap
  | decompositionRisk
  | acceptanceCriteriaGap
  | assumptionClarityGap
  | relationshipRisk
  | dependencyRisk
  | duplicateOverlapRisk
  | missingInformation
  | semanticBlocker
deriving Repr, DecidableEq

namespace ResultClass

def text : ResultClass → String
  | .workItemContentGap => "work_item_content_gap"
  | .decompositionRisk => "decomposition_risk"
  | .acceptanceCriteriaGap => "acceptance_criteria_gap"
  | .assumptionClarityGap => "assumption_clarity_gap"
  | .relationshipRisk => "relationship_risk"
  | .dependencyRisk => "dependency_risk"
  | .duplicateOverlapRisk => "duplicate_overlap_risk"
  | .missingInformation => "missing_information"
  | .semanticBlocker => "semantic_blocker"

def all : List ResultClass :=
  [workItemContentGap, decompositionRisk, acceptanceCriteriaGap, assumptionClarityGap,
    relationshipRisk, dependencyRisk, duplicateOverlapRisk, missingInformation, semanticBlocker]

/-- `ResultClass(text)`, `none` where it raises. -/
def ofText? (text : String) : Option ResultClass := all.find? fun c => c.text = text

theorem ofText?_eq_some {text : String} {c : ResultClass} :
    ofText? text = some c ↔ c.text = text := by
  constructor
  · intro h
    simpa using List.find?_some h
  · rintro rfl
    cases c <;> decide

end ResultClass

/-! ## Rules -/

structure RuleDefinition where
  ruleId : String
  ruleVersion : String
  category : RuleCategory
  mandatory : Bool
  applicability : String
  allowedOutcomes : List String
  inputScope : String
  evaluationContract : String
  failedResultClass : Option String := none
  unknownResultClass : Option String := none
  blockedResultClass : Option String := none
deriving Repr, DecidableEq

namespace RuleDefinition

def toDict (r : RuleDefinition) : Dict :=
  [("rule_id", .str r.ruleId), ("rule_version", .str r.ruleVersion),
    ("category", .str r.category.text), ("mandatory", .bool r.mandatory),
    ("applicability", .str r.applicability), ("allowed_outcomes", .texts r.allowedOutcomes),
    ("input_scope", .str r.inputScope), ("evaluation_contract", .str r.evaluationContract),
    ("failed_result_class", .textOrNone r.failedResultClass),
    ("unknown_result_class", .textOrNone r.unknownResultClass),
    ("blocked_result_class", .textOrNone r.blockedResultClass)]

/-- The class under which a finding of the rule reports an outcome. -/
def resultClass (r : RuleDefinition) : SemanticOutcome → Option String
  | .failed => r.failedResultClass
  | .unknown => r.unknownResultClass
  | .blocked => r.blockedResultClass
  | _ => none

end RuleDefinition

structure RuleRegistry where
  registryVersion : String
  rules : List RuleDefinition
deriving Repr, DecidableEq

namespace RuleRegistry

def runtimeRules (registry : RuleRegistry) : List RuleDefinition :=
  registry.rules.filter (·.category = .runtimeGate)

def semanticRules (registry : RuleRegistry) : List RuleDefinition :=
  registry.rules.filter (·.category = .semantic)

/-- What a registry has to keep: every semantic rule has an id of its own, is mandatory,
and shares no id with a gate. -/
structure Lawful (registry : RuleRegistry) : Prop where
  distinct : (registry.semanticRules.map (·.ruleId)).Nodup
  named : ∀ rule ∈ registry.semanticRules, rule.ruleId ≠ "" ∧ rule.ruleVersion ≠ ""
  mandatory : ∀ rule ∈ registry.semanticRules, rule.mandatory = true
  gates : ∀ rule ∈ registry.semanticRules, rule.ruleId ∉ registry.runtimeRules.map (·.ruleId)

end RuleRegistry

section
variable [PythonLibrary] [UnicodeLibrary]

def RuleRegistry.registryDigest (registry : RuleRegistry) : Py String :=
  canonicalDigest (.dict [("registry_version", .str registry.registryVersion),
    ("rules", .list (registry.rules.map fun rule => .dict rule.toDict))])

end

/-! ## The first registry -/

def runtimeRuleIds : List String :=
  ["RT-PREVIEW-SCHEMA", "RT-PREVIEW-DIGESTS", "RT-PREVIEW-REVISION-CURRENT",
    "RT-PREVIEW-WORKSPACE", "RT-PREVIEW-REMOTE-BINDING", "RT-PREVIEW-EVIDENCE-REFERENCES",
    "RT-AUDIT-CONTEXT-FRESH", "RT-AUDIT-COVERAGE"]

/-- `_semantic` -/
def semanticRule (ruleId contract inputScope : String) (failed : ResultClass)
    (applicability ruleVersion : String) : RuleDefinition where
  ruleId := ruleId
  ruleVersion := ruleVersion
  category := .semantic
  mandatory := true
  applicability := applicability
  allowedOutcomes := ["Passed", "Failed", "Unknown", "Blocked"]
  inputScope := inputScope
  evaluationContract := contract
  failedResultClass := some failed.text
  unknownResultClass := some ResultClass.missingInformation.text
  blockedResultClass := some ResultClass.semanticBlocker.text

def runtimeGate (ruleId : String) : RuleDefinition where
  ruleId := ruleId
  ruleVersion := "1.0"
  category := .runtimeGate
  mandatory := true
  applicability := "Always"
  allowedOutcomes := ["Pass", "Fail"]
  inputScope := "Runtime-owned validation"
  evaluationContract := "Runtime gate validation"

def buildRegistryV1 : RuleRegistry where
  registryVersion := "1.0"
  rules := runtimeRuleIds.map runtimeGate ++
    [semanticRule "SEM-WORK-ITEM-COMPLETENESS"
        ("Checks that each Work Item satisfies its role-specific content contract, with " ++
          "explicit Context/Problem, Outcome, Scope, Acceptance Criteria, and Verification; " ++
          "undeclared inference is not treated as a user fact.")
        "Work Item fields and provenance" .workItemContentGap "Applicable" "1.0",
      semanticRule "SEM-WORK-ITEM-DECOMPOSITION"
        ("Checks that each Work Item represents one coherent, bounded, independently " ++
          "meaningful, and verifiable governed outcome; one coherent outcome is not split " ++
          "merely across implementation layers, files, modules, steps, or commits; " ++
          "independent governed outcomes are not collapsed; decomposition stops before " ++
          "implementation fragments; bounded technical outcomes are valid; and a shared " ++
          "capability is separate only when it is itself an independently governable and " ++
          "verifiable outcome.")
        "Work Item collection, Scope, and Outcome" .decompositionRisk "Applicable" "1.1",
      semanticRule "SEM-ACCEPTANCE-CRITERIA"
        ("Checks that Acceptance Criteria are observable, verifiable, and bounded, and that " ++
          "Verification can prove the result rather than merely describe implementation steps.")
        "Acceptance Criteria and Verification" .acceptanceCriteriaGap "Applicable" "1.0",
      semanticRule "SEM-ASSUMPTION-CLARITY"
        ("Checks that User Asserted, Model Proposed, and Model Assumption values remain " ++
          "distinct; unconfirmed facts affecting scope, acceptance, or relationships must " ++
          "request clarification.")
        "Provenance and assumptions" .assumptionClarityGap "Applicable" "1.0",
      semanticRule "SEM-PARENT-SUBISSUE"
        ("Checks that a child genuinely serves a distinct parent integration/system outcome, " ++
          "that hierarchy is necessary, that parent acceptance is not merely child " ++
          "completion, and that there is no tracking-only container, semantic inversion, " ++
          "orphan child, or unreasonable depth.")
        "Parent/Sub-issue candidates and relationships" .relationshipRisk "Runtime" "1.1",
      semanticRule "SEM-DEPENDENCY"
        ("Checks that dependency direction, blocking cause, and necessity have evidence; " ++
          "implementation-order proximity alone is insufficient.")
        "Dependency candidates and relationships" .dependencyRisk "Runtime" "1.0",
      semanticRule "SEM-DUPLICATE-OVERLAP"
        ("Uses current Remote Evidence to assess Duplicate, Partial Overlap, Related, or " ++
          "other relationships; title, keyword overlap, or similarity alone cannot establish " ++
          "duplication.")
        "Remote Evidence and Work Items" .duplicateOverlapRisk "Runtime" "1.0"]

theorem buildRegistryV1_lawful : buildRegistryV1.Lawful where
  distinct := by decide
  named := by decide
  mandatory := by decide
  gates := by decide

/-! ## Rules that apply -/

/-- `any(value.get("kind") in kinds for value in relationships)` -/
def anyOfKind (kinds : List String) : List Value → Py Bool
  | [] => .ok false
  | .dict entry :: rest =>
      let kind := Dict.get entry "kind"
      if kind.hashable = false then .error .typeError
      else if kinds.any (fun text => kind = .str text) = true then .ok true
      else anyOfKind kinds rest
  | _ :: _ => .error .attributeError

/-- The relationships that the plan of a Preview describes. -/
def plannedRelationships (canonical : Dict) : Py Value := do
  let semantic ← orRaise (getOr canonical "semantic_payload" (.dict [])).mapping? .attributeError
  pure (getOr semantic "planned_relationships" (.list []))

def anyPlannedOfKind (kinds : List String) (canonical : Dict) : Py Bool := do
  let relationships ← plannedRelationships canonical
  let relationships ← Value.iterate relationships
  anyOfKind kinds relationships

/-- `rule_is_applicable` -/
def ruleIsApplicable (rule : RuleDefinition) (canonical : Dict) : Py Bool :=
  if rule.applicability = "Applicable" then .ok true
  else if rule.ruleId = "SEM-PARENT-SUBISSUE" then
    anyPlannedOfKind ["planned_parent", "planned_parent_candidate"] canonical
  else if rule.ruleId = "SEM-DEPENDENCY" then
    anyPlannedOfKind ["planned_dependency", "planned_dependency_candidate"] canonical
  else do
    let _ ← plannedRelationships canonical
    if rule.ruleId = "SEM-DUPLICATE-OVERLAP" then
      pure (decide (canonical.get "preview_level" ≠ .str "Conceptual"))
    else pure false

end DeliverySystem.AuditRules

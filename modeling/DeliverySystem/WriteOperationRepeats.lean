import DeliverySystem.WriteOperations
import Mathlib.Data.List.Nodup

/-!
# Repeated writes in an eligible operation set

An eligible set is exactly the expected sequence: one creation for each item,
then one relationship operation for each planned relationship. Creations are
therefore never repeated. Relationship operations repeat exactly when the plan
does, because the evaluators compare planned and requested relationships as
sets and have no duplicate test for them.

In V2 a plan can also repeat through two endpoint references that are bound to
one existing issue, so the condition there is on resolved endpoints.
-/
namespace DeliverySystem.WriteOperationRepeats
open PythonValues WriteOperations
set_option autoImplicit false

section
variable {op key plan : Type}

/-- No remote write is asked for twice: the operations are pairwise distinct,
each item is created exactly once, and no two relationships have one key. -/
structure WritesOnce (createRef? : op → Option String) (relationshipKey? : op → Option key)
    (items : List Value) (operations : List op) : Prop where
  distinct : operations.Nodup
  created : ∀ ref : String, .str ref ∈ readEach items "client_ref" →
    (operations.filterMap createRef?).count ref = 1
  related : (operations.filterMap relationshipKey?).Nodup

/-- How one operation language encodes creations and planned relationships. -/
structure Encoding (createRef? : op → Option String) (relationshipKey? : op → Option key)
    (create : String → op) (relate : plan → op) (planKey : plan → key) : Prop where
  create_ref : ∀ ref, createRef? (create ref) = some ref
  relate_ref : ∀ p, createRef? (relate p) = none
  create_key : ∀ ref, relationshipKey? (create ref) = none
  relate_key : ∀ p, relationshipKey? (relate p) = some (planKey p)

variable {createRef? : op → Option String} {relationshipKey? : op → Option key}
  {create : String → op} {relate : plan → op} {planKey : plan → key}

theorem Encoding.filterMap_create (enc : Encoding createRef? relationshipKey? create relate planKey)
    (refs : List String) (planned : List plan) :
    (refs.map create ++ planned.map relate).filterMap createRef? = refs := by
  simp only [List.filterMap_append, List.filterMap_map, Function.comp_def, enc.create_ref,
    enc.relate_ref, List.filterMap_some, List.filterMap_none, List.append_nil]

theorem Encoding.filterMap_key (enc : Encoding createRef? relationshipKey? create relate planKey)
    (refs : List String) (planned : List plan) :
    (refs.map create ++ planned.map relate).filterMap relationshipKey? = planned.map planKey := by
  simp only [List.filterMap_append, List.filterMap_map, Function.comp_def, enc.create_key,
    enc.relate_key, List.filterMap_none, List.nil_append]
  rw [List.filterMap_eq_map']

/-- An expected sequence writes once exactly when its plan has distinct keys. -/
theorem Encoding.writesOnce_iff (enc : Encoding createRef? relationshipKey? create relate planKey)
    {items : List Value} {refs : List String} {planned : List plan} (hrefs : refs.Nodup)
    (hitems : ∀ ref, .str ref ∈ readEach items "client_ref" ↔ ref ∈ refs) :
    WritesOnce createRef? relationshipKey? items (refs.map create ++ planned.map relate) ↔
      (planned.map planKey).Nodup := by
  constructor
  · intro h
    rw [← enc.filterMap_key refs planned]
    exact h.related
  · intro h
    have hcreate : Function.Injective create := fun r t hrt => by
      have := congrArg createRef? hrt
      simpa only [enc.create_ref, Option.some.injEq] using this
    refine ⟨List.nodup_append.mpr ⟨hrefs.map hcreate, ?_, ?_⟩, ?_, ?_⟩
    · refine List.pairwise_map.mpr ((List.pairwise_map.mp h).imp fun hpq hrel => hpq ?_)
      have := congrArg relationshipKey? hrel
      simpa only [enc.relate_key, Option.some.injEq] using this
    · intro x hx y hy hxy
      obtain ⟨r, -, rfl⟩ := List.mem_map.mp hx
      obtain ⟨p, -, rfl⟩ := List.mem_map.mp hy
      have := congrArg createRef? hxy
      rw [enc.create_ref, enc.relate_ref] at this
      exact absurd this (by simp)
    · intro ref href
      rw [enc.filterMap_create]
      exact List.count_eq_one_of_mem hrefs ((hitems ref).mp href)
    · rw [enc.filterMap_key]
      exact h
end

theorem mem_of_mapM_text {refs : List Value} {texts : List String}
    (h : refs.mapM Value.nonEmptyText? = some texts) (s : String) :
    .str s ∈ refs ↔ s ∈ texts := by
  induction refs generalizing texts with
  | nil =>
      simp only [List.mapM_nil, Option.pure_def, Option.some.injEq] at h
      simp [← h]
  | cons v refs ih =>
      simp only [List.mapM_cons, Option.pure_def, Option.bind_eq_bind,
        Option.bind_eq_some_iff, Option.some.injEq] at h
      obtain ⟨t, ht, ts, hts, rfl⟩ := h
      obtain ⟨rfl, -⟩ := Value.nonEmptyText?_eq_some.mp ht
      simp only [List.mem_cons, Value.str.injEq, ih hts]

theorem mem_distinctTexts {refs : List Value} {texts : List String}
    (h : distinctTexts refs = some texts) (s : String) : .str s ∈ refs ↔ s ∈ texts := by
  obtain ⟨ts, hts, hsome⟩ := Option.bind_eq_some_iff.mp h
  split_ifs at hsome
  obtain rfl := Option.some.inj hsome
  exact mem_of_mapM_text hts s

/-! ## V1 -/

theorem encoding_v1 : Encoding WriteOperation.createRef? WriteOperation.relationship?
    createOperation relationshipOperation id where
  create_ref _ := rfl
  relate_ref p := by cases p with | mk kind source target => cases kind <;> rfl
  create_key _ := rfl
  relate_key p := by cases p with | mk kind source target => cases kind <;> rfl

/-- The planned triples a V1 payload lists are pairwise distinct. -/
def DistinctPlan (semanticPayload : Dict) : Prop :=
  ∀ planned, plannedPairs semanticPayload = .ok planned → planned.Nodup

theorem itemRefs_spec {items : List Value} {refs : List String} (h : itemRefs items = .ok refs) :
    refs.Nodup ∧ ∀ s : String, .str s ∈ readEach items "client_ref" ↔ s ∈ refs := by
  simp only [itemRefs] at h
  split_ifs at h with hshape
  have hrefs := orRaise_eq_ok.mp h
  exact ⟨distinctTexts_nodup hrefs, mem_distinctTexts hrefs⟩

theorem eligible_expected {operationIntents : Value} {items : List Value} {semanticPayload : Dict}
    {e : WriteOperationEvaluation WriteOperation}
    (h : evaluateWriteOperations operationIntents items semanticPayload = .ok e)
    (he : e.eligible = true) :
    ∃ refs planned, itemRefs items = .ok refs ∧ plannedPairs semanticPayload = .ok planned ∧
      e.operations = expectedOperations refs planned := by
  simp only [evaluateWriteOperations, bind_eq_ok, pure_eq_ok] at h
  obtain ⟨operations, -, refs, hrefs, planned, hplanned, rfl⟩ := h
  refine ⟨refs, planned, hrefs, hplanned, ?_⟩
  have hnil := evaluation_eligible he
  simp only [setBlockers, List.append_eq_nil_iff, blockIf_eq_nil, not_not] at hnil
  exact hnil.2.2

theorem eligible_writesOnce_iff {operationIntents : Value} {items : List Value}
    {semanticPayload : Dict} {e : WriteOperationEvaluation WriteOperation}
    (h : evaluateWriteOperations operationIntents items semanticPayload = .ok e)
    (he : e.eligible = true) :
    WritesOnce WriteOperation.createRef? WriteOperation.relationship? items e.operations ↔
      DistinctPlan semanticPayload := by
  obtain ⟨refs, planned, hrefs, hplanned, hops⟩ := eligible_expected h he
  obtain ⟨hnodup, hmem⟩ := itemRefs_spec hrefs
  have hplan : DistinctPlan semanticPayload ↔ planned.Nodup := by
    simp [DistinctPlan, hplanned]
  rw [hops, hplan, expectedOperations, encoding_v1.writesOnce_iff hnodup hmem, List.map_id]

/-! ## V2 -/

/-- An endpoint after its reference is replaced by the issue it is bound to. -/
inductive ResolvedEndpoint where
  | workItem (clientRef : String)
  | issue (issueId : String)
  | unbound (endpointRef : String)
deriving Repr, DecidableEq

def resolveEndpoint (endpointBindings : List Value) (endpoint : Endpoint) : ResolvedEndpoint :=
  match endpoint.endpointType with
  | .workItem => .workItem endpoint.ref
  | .existingIssue =>
      (bindingIssueId endpointBindings endpoint.ref).text?.elim (.unbound endpoint.ref) .issue

def resolvePlanned (endpointBindings : List Value) (planned : PlannedRelationship Endpoint) :
    PlannedRelationship ResolvedEndpoint :=
  { kind := planned.kind
    source := resolveEndpoint endpointBindings planned.source
    target := resolveEndpoint endpointBindings planned.target }

def resolvedRelationship? (endpointBindings : List Value) (operation : WriteOperationV2) :
    Option (PlannedRelationship ResolvedEndpoint) :=
  operation.relationship?.map (resolvePlanned endpointBindings)

theorem encoding_v2 (endpointBindings : List Value) :
    Encoding WriteOperationV2.createRef? (resolvedRelationship? endpointBindings)
      createOperationV2 relationshipOperationV2 (resolvePlanned endpointBindings) where
  create_ref _ := rfl
  relate_ref _ := rfl
  create_key _ := rfl
  relate_key _ := rfl

/-- The planned triples of a V2 payload stay distinct when every existing
endpoint is replaced by the issue it is bound to. -/
def DistinctPlanV2 (endpointBindings : List Value) (semanticPayload : Dict) : Prop :=
  ∀ planned, plannedPairsV2 semanticPayload = .ok planned →
    (planned.map (resolvePlanned endpointBindings)).Nodup

theorem itemRefsV2_spec {items : List Value} {refs : List String}
    (h : itemRefsV2 items = .ok refs) :
    refs.Nodup ∧ ∀ s : String, .str s ∈ readEach items "client_ref" ↔ s ∈ refs := by
  simp only [itemRefsV2] at h
  split_ifs at h with hshape
  have hrefs := orRaise_eq_ok.mp h
  exact ⟨distinctTexts_nodup hrefs, mem_distinctTexts hrefs⟩

theorem eligible_expectedV2 {operationIntents : Value} {items : List Value}
    {semanticPayload : Dict} {endpointBindings relationshipRecords : List Value}
    {e : WriteOperationEvaluation WriteOperationV2}
    (h : evaluateWriteOperationsV2 operationIntents items semanticPayload endpointBindings
      relationshipRecords = .ok e) (he : e.eligible = true) :
    ∃ refs planned, itemRefsV2 items = .ok refs ∧ plannedPairsV2 semanticPayload = .ok planned ∧
      e.operations = expectedOperationsV2 refs planned := by
  simp only [evaluateWriteOperationsV2, bind_eq_ok, pure_eq_ok] at h
  obtain ⟨operations, -, refs, hrefs, existing, -, _, -, planned, hplanned, rfl⟩ := h
  refine ⟨refs, planned, hrefs, hplanned, ?_⟩
  have hnil := evaluation_eligible he
  simp only [setBlockersV2, List.append_eq_nil_iff, blockIf_eq_nil, not_not] at hnil
  exact hnil.1.2.2

theorem eligible_writesOnceV2_iff {operationIntents : Value} {items : List Value}
    {semanticPayload : Dict} {endpointBindings relationshipRecords : List Value}
    {e : WriteOperationEvaluation WriteOperationV2}
    (h : evaluateWriteOperationsV2 operationIntents items semanticPayload endpointBindings
      relationshipRecords = .ok e) (he : e.eligible = true) :
    WritesOnce WriteOperationV2.createRef? (resolvedRelationship? endpointBindings) items
        e.operations ↔ DistinctPlanV2 endpointBindings semanticPayload := by
  obtain ⟨refs, planned, hrefs, hplanned, hops⟩ := eligible_expectedV2 h he
  obtain ⟨hnodup, hmem⟩ := itemRefsV2_spec hrefs
  have hplan : DistinctPlanV2 endpointBindings semanticPayload ↔
      (planned.map (resolvePlanned endpointBindings)).Nodup := by
    simp [DistinctPlanV2, hplanned]
  rw [hops, hplan, expectedOperationsV2,
    (encoding_v2 endpointBindings).writesOnce_iff hnodup hmem]

/-! ## The theorem, and a plan that names one parent twice -/

def itemEntry (ref : String) : Value := .dict [("client_ref", .str ref)]

def intent (kind : String) (refs : List String) : Value :=
  .dict [("operation_kind", .str kind), ("client_refs", .list (refs.map .str)),
    ("depends_on", .list [])]

def parentEntry (source target : String) : Value :=
  .dict [("kind", .str "planned_parent"), ("from_client_ref", .str source),
    ("to_client_ref", .str target)]

def workItemEndpoint (ref : String) : Value :=
  .dict [("endpoint_type", .str "work_item"), ("client_ref", .str ref)]

def existingEndpoint (ref : String) : Value :=
  .dict [("endpoint_type", .str "existing_issue"), ("endpoint_ref", .str ref)]

def createIntentV2 (ref : String) : Value :=
  .dict [("operation_kind", .str "create_issue"), ("endpoint", workItemEndpoint ref),
    ("depends_on", .list [])]

def parentIntentV2 (first second : Value) : Value :=
  .dict [("operation_kind", .str "add_sub_issue"), ("operands", .list [first, second]),
    ("depends_on", .list [])]

def parentEntryV2 (source target : Value) : Value :=
  .dict [("kind", .str "planned_parent"), ("from_endpoint", source), ("to_endpoint", target)]

def binding (ref issueId : String) : Value :=
  .dict [("endpoint_ref", .str ref), ("issue_id", .str issueId)]

/-- Two references to issue `42`: `E1` and `E2` name one remote endpoint. -/
def aliasBindings : List Value := [binding "E1" "42", binding "E2" "42"]

def aliasIntents : Value :=
  .list [createIntentV2 "A", parentIntentV2 (existingEndpoint "E1") (workItemEndpoint "A"),
    parentIntentV2 (existingEndpoint "E2") (workItemEndpoint "A")]

def aliasPayload : Dict :=
  [("planned_relationships",
    .list [parentEntryV2 (existingEndpoint "E1") (workItemEndpoint "A"),
      parentEntryV2 (existingEndpoint "E2") (workItemEndpoint "A")])]

def parentIntents : Value :=
  .list [intent "create_issue" ["A"], intent "create_issue" ["B"],
    intent "add_sub_issue" ["A", "B"]]

def parentPayload : Dict := [("planned_relationships", .list [parentEntry "A" "B"])]

def parentIntentsV2 : Value :=
  .list [createIntentV2 "A", parentIntentV2 (existingEndpoint "E1") (workItemEndpoint "A")]

def parentPayloadV2 : Dict :=
  [("planned_relationships",
    .list [parentEntryV2 (existingEndpoint "E1") (workItemEndpoint "A")])]

def repeatedIntents : Value :=
  .list [intent "create_issue" ["A"], intent "create_issue" ["B"],
    intent "add_sub_issue" ["A", "B"], intent "add_sub_issue" ["A", "B"]]

def repeatedPayload : Dict :=
  [("planned_relationships", .list [parentEntry "A" "B", parentEntry "A" "B"])]

/-- Under either contract an eligible set repeats no remote write exactly when
its plan names no relationship twice. -/
theorem eligible_set_writes_once_iff (operationIntents : Value) (items : List Value)
    (semanticPayload : Dict) (endpointBindings relationshipRecords : List Value) :
    (∀ e, evaluateWriteOperations operationIntents items semanticPayload = .ok e →
      e.eligible = true →
      (WritesOnce WriteOperation.createRef? WriteOperation.relationship? items e.operations ↔
        DistinctPlan semanticPayload)) ∧
    (∀ e, evaluateWriteOperationsV2 operationIntents items semanticPayload endpointBindings
        relationshipRecords = .ok e → e.eligible = true →
      (WritesOnce WriteOperationV2.createRef? (resolvedRelationship? endpointBindings) items
        e.operations ↔ DistinctPlanV2 endpointBindings semanticPayload)) :=
  ⟨fun _ h he => eligible_writesOnce_iff h he, fun _ h he => eligible_writesOnceV2_iff h he⟩

theorem eligible_set_writes_once_single_parent :
    WritesOnce WriteOperation.createRef? WriteOperation.relationship?
        [itemEntry "A", itemEntry "B"]
        (expectedOperations ["A", "B"] [⟨.plannedParent, "A", "B"⟩]) ∧
      WritesOnce WriteOperationV2.createRef? (resolvedRelationship? aliasBindings)
        [itemEntry "A"] (expectedOperationsV2 ["A"]
          [⟨.plannedParent, ⟨.existingIssue, "E1"⟩, ⟨.workItem, "A"⟩⟩]) := by
  have distinct : DistinctPlan parentPayload := by
    intro planned h
    have hp : plannedPairs parentPayload = .ok [⟨.plannedParent, "A", "B"⟩] := by decide
    rw [hp, Except.ok.injEq] at h
    rw [← h]
    decide
  have distinctV2 : DistinctPlanV2 aliasBindings parentPayloadV2 := by
    intro planned h
    have hp : plannedPairsV2 parentPayloadV2 =
      .ok [⟨.plannedParent, ⟨.existingIssue, "E1"⟩, ⟨.workItem, "A"⟩⟩] := by decide
    rw [hp, Except.ok.injEq] at h
    rw [← h]
    decide
  exact ⟨((eligible_set_writes_once_iff parentIntents [itemEntry "A", itemEntry "B"]
      parentPayload [] []).1 (evaluation (expectedOperations ["A", "B"]
        [⟨.plannedParent, "A", "B"⟩]) []) (by decide) rfl).mpr distinct,
    ((eligible_set_writes_once_iff parentIntentsV2 [itemEntry "A"] parentPayloadV2
      aliasBindings []).2 (evaluation (expectedOperationsV2 ["A"]
        [⟨.plannedParent, ⟨.existingIssue, "E1"⟩, ⟨.workItem, "A"⟩⟩]) []) (by decide)
        rfl).mpr distinctV2⟩

/-- The doubled relationship is eligible although its two operations are equal,
and so are two aliases of one existing parent. -/
theorem eligible_set_repeats_relationship :
    (∃ e, evaluateWriteOperations repeatedIntents [itemEntry "A", itemEntry "B"]
        repeatedPayload = .ok e ∧ e.eligible = true ∧ ¬e.operations.Nodup) ∧
    ∃ e, evaluateWriteOperationsV2 aliasIntents [itemEntry "A"] aliasPayload aliasBindings []
        = .ok e ∧ e.eligible = true ∧
      ¬(e.operations.filterMap (resolvedRelationship? aliasBindings)).Nodup := by
  refine ⟨⟨evaluation (expectedOperations ["A", "B"]
    [⟨.plannedParent, "A", "B"⟩, ⟨.plannedParent, "A", "B"⟩]) [], ?_⟩, ⟨evaluation
    (expectedOperationsV2 ["A"] [⟨.plannedParent, ⟨.existingIssue, "E1"⟩, ⟨.workItem, "A"⟩⟩,
      ⟨.plannedParent, ⟨.existingIssue, "E2"⟩, ⟨.workItem, "A"⟩⟩]) [], ?_⟩⟩
  · refine ⟨by decide, rfl, by decide⟩
  · refine ⟨by decide, rfl, by decide⟩

end DeliverySystem.WriteOperationRepeats

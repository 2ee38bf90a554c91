import DeliverySystem.PythonValues

/-!
# Write-operation evaluation

A planned Preview carries operation intents, items, and a semantic payload.
Evaluation first normalizes the intents, which raises on a malformed entry, and
then collects blockers; the set is write-eligible when no blocker was found.

V1 names work items by `client_ref`. V2 replaces the reference by a tagged
endpoint, so that a relationship may also reach an issue that already exists.
-/
namespace DeliverySystem.WriteOperations
open PythonValues
set_option autoImplicit false

structure WriteOperationEvaluation (op : Type) where
  operations : List op
  eligible : Bool
  blockers : List String
deriving Repr, DecidableEq

/-- The two relationship kinds a plan may ask for. -/
inductive PlannedKind where
  | plannedParent
  | plannedDependency
deriving Repr, DecidableEq

def PlannedKind.parse : String → Option PlannedKind
  | "planned_parent" => some .plannedParent
  | "planned_dependency" => some .plannedDependency
  | _ => none

def PlannedKind.operationKind : PlannedKind → String
  | .plannedParent => "add_sub_issue"
  | .plannedDependency => "add_dependency"

/-- The kind each relationship operation stands for, `_RELATIONSHIP_KINDS`. -/
def relationshipKinds : String → Option PlannedKind
  | "add_sub_issue" => some .plannedParent
  | "add_dependency" => some .plannedDependency
  | _ => none

@[simp] theorem relationshipKinds_operationKind (k : PlannedKind) :
    relationshipKinds k.operationKind = some k := by
  cases k <;> rfl

@[simp] theorem operationKind_ne_create (k : PlannedKind) :
    k.operationKind ≠ "create_issue" := by
  cases k <;> decide

/-- `kind not in {"planned_parent", "planned_dependency"}` hashes `kind` first. -/
def plannedKind (kind : Value) : Py PlannedKind :=
  if kind.hashable then
    orRaise (kind.text?.bind PlannedKind.parse) (.valueError "write_operation_relationships_invalid")
  else .error .typeError

/-- References that are all non-empty text and pairwise distinct. -/
def distinctTexts (refs : List Value) : Option (List String) :=
  (refs.mapM Value.nonEmptyText?).bind fun texts => if texts.Nodup then some texts else none

theorem distinctTexts_nodup {refs : List Value} {texts : List String}
    (h : distinctTexts refs = some texts) : texts.Nodup := by
  obtain ⟨ts, -, hts⟩ := Option.bind_eq_some_iff.mp h
  split_ifs at hts with hn
  exact Option.some.inj hts ▸ hn

/-- The values `[m.get(key) for m in entries if isinstance(m, Mapping)]`. -/
def readEach (entries : List Value) (key : String) : List Value :=
  entries.filterMap fun entry => entry.mapping?.map (Dict.get · key)

/-- `tuple(sorted(set(blockers)))`. -/
def sortedBlockers (blockers : List String) : List String :=
  blockers.dedup.insertionSort (· ≤ ·)

def evaluation {op : Type} (operations : List op) (blockers : List String) :
    WriteOperationEvaluation op :=
  { operations, eligible := blockers.isEmpty, blockers := sortedBlockers blockers }

/-- `blockers.append(code)` under a test. -/
def blockIf (condition : Prop) [Decidable condition] (code : String) : List String :=
  if condition then [code] else []

@[simp] theorem blockIf_eq_nil (condition : Prop) [Decidable condition] (code : String) :
    blockIf condition code = [] ↔ ¬condition := by
  unfold blockIf
  split_ifs with h <;> simp [h]

theorem evaluation_eligible {op : Type} {operations : List op} {blockers : List String}
    (h : (evaluation operations blockers).eligible = true) : blockers = [] := by
  simpa [evaluation] using h

/-! ## V1: operations on client references -/

structure WriteOperation where
  operationKind : String
  clientRefs : List String
  dependsOn : List String
deriving Repr, DecidableEq

def WriteOperation.toDict (operation : WriteOperation) : Value :=
  .dict [("operation_kind", .str operation.operationKind),
    ("client_refs", Value.texts operation.clientRefs),
    ("depends_on", Value.texts operation.dependsOn)]

/-- What `normalize_write_operations` accepts of an entry once it is typed. -/
def WriteOperation.Canonical (operation : WriteOperation) : Prop :=
  operation.operationKind ≠ "" ∧ (∀ ref ∈ operation.clientRefs, ref ≠ "") ∧
    (∀ value ∈ operation.dependsOn, value ≠ "") ∧ operation.clientRefs.Nodup

instance (operation : WriteOperation) : Decidable operation.Canonical :=
  inferInstanceAs (Decidable (_ ∧ _ ∧ _ ∧ _))

def operationFields : List String := ["operation_kind", "client_refs", "depends_on"]

def writeOperationKinds : List String := ["create_issue", "add_sub_issue", "add_dependency"]

/-- A list whose members are all non-empty text. -/
def textList? (value : Value) : Option (List String) :=
  value.list?.bind (·.mapM Value.nonEmptyText?)

def normalizeWriteOperation (operation : Value) : Py WriteOperation := do
  let shape := Raised.valueError "write_operation_shape_invalid"
  let fields ← orRaise operation.mapping? shape
  raiseIf (fields.hasExactly operationFields = false) "write_operation_shape_invalid"
  let kind ← orRaise (fields.get "operation_kind").nonEmptyText? shape
  let refs ← orRaise (textList? (fields.get "client_refs")) shape
  let dependencies ← orRaise (textList? (fields.get "depends_on")) shape
  raiseIf (¬refs.Nodup) "write_operation_client_refs_duplicate"
  pure { operationKind := kind, clientRefs := refs, dependsOn := dependencies }

/-- Validate the canonical operation-entry shape without trusting provider fields. -/
def normalizeWriteOperations (operationIntents : Value) : Py (List WriteOperation) := do
  let entries ← orRaise operationIntents.sequence? (.valueError "write_operation_set_invalid")
  entries.mapM normalizeWriteOperation

theorem textList?_ne_empty {value : Value} {texts : List String}
    (h : textList? value = some texts) : ∀ s ∈ texts, s ≠ "" := by
  obtain ⟨items, -, hitems⟩ := Option.bind_eq_some_iff.mp h
  clear h
  induction items generalizing texts with
  | nil =>
      rw [List.mapM_nil, Option.pure_def, Option.some.injEq] at hitems
      simp [← hitems]
  | cons v items ih =>
      simp only [List.mapM_cons, Option.pure_def, Option.bind_eq_bind,
        Option.bind_eq_some_iff, Option.some.injEq] at hitems
      obtain ⟨t, ht, ts, hts, rfl⟩ := hitems
      rw [Value.nonEmptyText?_eq_some] at ht
      exact List.forall_mem_cons.mpr ⟨ht.2, ih hts⟩

/-- Normalization yields canonical operations only. -/
theorem normalizeWriteOperation_canonical {value : Value} {operation : WriteOperation}
    (h : normalizeWriteOperation value = .ok operation) : operation.Canonical := by
  simp only [normalizeWriteOperation, bind_eq_ok, orRaise_eq_ok, raiseIf_eq_ok, pure_eq_ok,
    not_not] at h
  obtain ⟨fields, -, _, -, kind, hkind, refs, hrefs, deps, hdeps, _, hnodup, rfl⟩ := h
  rw [Value.nonEmptyText?_eq_some] at hkind
  exact ⟨hkind.2, textList?_ne_empty hrefs, textList?_ne_empty hdeps, hnodup⟩

theorem normalizeWriteOperations_canonical {value : Value} {operations : List WriteOperation}
    (h : normalizeWriteOperations value = .ok operations) :
    ∀ operation ∈ operations, operation.Canonical := by
  simp only [normalizeWriteOperations, bind_eq_ok, orRaise_eq_ok] at h
  obtain ⟨entries, -, hmap⟩ := h
  intro operation hmem
  obtain ⟨entry, -, hentry⟩ := exists_of_mem_mapM hmap hmem
  exact normalizeWriteOperation_canonical hentry

structure PlannedRelationship (endpoint : Type) where
  kind : PlannedKind
  source : endpoint
  target : endpoint
deriving Repr, DecidableEq

def plannedRelationship (relationship : Value) : Py (PlannedRelationship String) := do
  let invalid := Raised.valueError "write_operation_relationships_invalid"
  let fields ← orRaise relationship.mapping? invalid
  let kind ← plannedKind (fields.get "kind")
  let source ← orRaise (fields.get "from_client_ref").nonEmptyText? invalid
  let target ← orRaise (fields.get "to_client_ref").nonEmptyText? invalid
  pure { kind, source, target }

/-- V1 has no default for the list: an absent key reads as a tuple and raises. -/
def plannedPairs (semanticPayload : Dict) : Py (List (PlannedRelationship String)) := do
  let planned ← orRaise (semanticPayload.get "planned_relationships").list?
    (.valueError "write_operation_relationships_invalid")
  planned.mapM plannedRelationship

def itemRefs (items : List Value) : Py (List String) :=
  let refs := readEach items "client_ref"
  let invalid := Raised.valueError "write_operation_item_set_invalid"
  if refs.length ≠ items.length ∨ refs = [] then .error invalid
  else orRaise (distinctTexts refs) invalid

/-- The blockers one operation adds by itself. -/
def operationBlockers (knownRefs : List String) (operation : WriteOperation) : List String :=
  let kind := operation.operationKind
  let refs := operation.clientRefs
  blockIf (∃ ref ∈ refs, ref ∉ knownRefs) "write_operation_unknown_client_ref" ++
    blockIf (operation.dependsOn ≠ []) "write_operation_dependencies_unsupported" ++
    if kind ∉ writeOperationKinds then ["write_operation_kind_not_write_eligible"]
    else if kind = "create_issue" then
      blockIf (refs.length ≠ 1) "write_operation_create_issue_shape_invalid"
    else if (relationshipKinds kind).isSome then
      blockIf (refs.length ≠ 2 ∨ refs[0]? = refs[1]?)
        "write_operation_relationship_shape_invalid"
    else []

def WriteOperation.createRef? (operation : WriteOperation) : Option String :=
  match operation.operationKind, operation.clientRefs with
  | "create_issue", [ref] => some ref
  | _, _ => none

/-- The relationship a two-reference operation writes, as a planned triple. -/
def WriteOperation.relationship? (operation : WriteOperation) :
    Option (PlannedRelationship String) :=
  match relationshipKinds operation.operationKind, operation.clientRefs with
  | some kind, [source, target] => some { kind, source, target }
  | _, _ => none

def createOperation (ref : String) : WriteOperation :=
  { operationKind := "create_issue", clientRefs := [ref], dependsOn := [] }

def relationshipOperation (planned : PlannedRelationship String) : WriteOperation :=
  { operationKind := planned.kind.operationKind
    clientRefs := [planned.source, planned.target]
    dependsOn := [] }

def expectedOperations (refs : List String) (planned : List (PlannedRelationship String)) :
    List WriteOperation :=
  refs.map createOperation ++ planned.map relationshipOperation

def setBlockers (refs : List String) (planned : List (PlannedRelationship String))
    (operations : List WriteOperation) : List String :=
  let creates := operations.filterMap WriteOperation.createRef?
  let pairs := operations.filterMap WriteOperation.relationship?
  blockIf (¬creates.Nodup) "write_operation_duplicate_create_issue" ++
    blockIf (¬(creates ⊆ refs ∧ refs ⊆ creates) ∨ creates.length ≠ refs.length)
      "write_operation_create_issue_incomplete" ++
    blockIf (∃ pair ∈ planned, pair ∉ pairs) "write_operation_relationship_incomplete" ++
    blockIf (∃ pair ∈ pairs, pair ∉ planned) "write_operation_relationship_unplanned" ++
    blockIf (operations ≠ expectedOperations refs planned) "write_operation_order_invalid"

/-- Evaluate whether the exact canonical operation sequence is V1 write-eligible. -/
def evaluateWriteOperations (operationIntents : Value) (items : List Value)
    (semanticPayload : Dict) : Py (WriteOperationEvaluation WriteOperation) := do
  let operations ← normalizeWriteOperations operationIntents
  let refs ← itemRefs items
  let planned ← plannedPairs semanticPayload
  pure (evaluation operations
    (operations.flatMap (operationBlockers refs) ++ setBlockers refs planned operations))

/-! ## V2: operations on tagged endpoints -/

inductive EndpointType where
  | workItem
  | existingIssue
deriving Repr, DecidableEq

/-- The tagged pair `(endpoint_type, reference)`. -/
structure Endpoint where
  endpointType : EndpointType
  ref : String
deriving Repr, DecidableEq

def v2EndpointType (fields : Dict) : Option (EndpointType × Value) :=
  if fields.get "endpoint_type" = .str "work_item" ∧
      fields.hasExactly ["endpoint_type", "client_ref"] then
    some (.workItem, fields.get "client_ref")
  else if fields.get "endpoint_type" = .str "existing_issue" ∧
      fields.hasExactly ["endpoint_type", "endpoint_ref"] then
    some (.existingIssue, fields.get "endpoint_ref")
  else none

def v2Endpoint (value : Value) : Py Endpoint := do
  let invalid := Raised.valueError "write_operation_endpoint_invalid"
  let fields ← orRaise value.mapping? invalid
  let (endpointType, ref) ← orRaise (v2EndpointType fields) invalid
  let ref ← orRaise ref.nonEmptyText? invalid
  pure { endpointType, ref }

inductive WriteOperationV2 where
  | createIssue (endpoint : Endpoint) (dependsOn : List String)
  | relationship (kind : PlannedKind) (first second : Endpoint) (dependsOn : List String)
deriving Repr, DecidableEq

def WriteOperationV2.dependsOn : WriteOperationV2 → List String
  | .createIssue _ dependsOn => dependsOn
  | .relationship _ _ _ dependsOn => dependsOn

def normalizeWriteOperationV2 (operation : Value) : Py WriteOperationV2 := do
  let shape := Raised.valueError "write_operation_shape_invalid"
  let fields ← orRaise operation.mapping? shape
  let kind ← orRaise (fields.get "operation_kind").text? shape
  let dependencies ← orRaise (textList? (fields.get "depends_on")) shape
  if kind = "create_issue" then
    raiseIf (fields.hasExactly ["operation_kind", "endpoint", "depends_on"] = false)
      "write_operation_shape_invalid"
    let endpoint ← v2Endpoint (fields.get "endpoint")
    raiseIf (endpoint.endpointType ≠ .workItem) "write_operation_create_endpoint_invalid"
    pure (.createIssue endpoint dependencies)
  else
    let kind ← orRaise (relationshipKinds kind)
      (.valueError "write_operation_kind_not_write_eligible")
    raiseIf (fields.hasExactly ["operation_kind", "operands", "depends_on"] = false)
      "write_operation_shape_invalid"
    match fields.get "operands" with
    | .list [left, right] =>
        let first ← v2Endpoint left
        let second ← v2Endpoint right
        raiseIf (first = second) "write_operation_relationship_shape_invalid"
        pure (.relationship kind first second dependencies)
    | _ => .error (.valueError "write_operation_relationship_shape_invalid")

def normalizeWriteOperationsV2 (operationIntents : Value) : Py (List WriteOperationV2) := do
  let entries ← orRaise operationIntents.sequence? (.valueError "write_operation_set_invalid")
  entries.mapM normalizeWriteOperationV2

/-- V2 skips items that are not mappings instead of counting them. -/
def itemRefsV2 (items : List Value) : Py (List String) :=
  let refs := readEach items "client_ref"
  let invalid := Raised.valueError "write_operation_item_set_invalid"
  if refs = [] then .error invalid else orRaise (distinctTexts refs) invalid

def endpointRefs (endpointBindings : List Value) : Py (List String) :=
  orRaise (distinctTexts (readEach endpointBindings "endpoint_ref"))
    (.valueError "write_operation_endpoint_set_invalid")

def plannedRelationshipV2 (relationship : Value) : Py (PlannedRelationship Endpoint) := do
  let fields ← orRaise relationship.mapping?
    (.valueError "write_operation_relationships_invalid")
  let kind ← plannedKind (fields.get "kind")
  let source ← v2Endpoint (fields.get "from_endpoint")
  let target ← v2Endpoint (fields.get "to_endpoint")
  pure { kind, source, target }

/-- Unlike V1, an absent `planned_relationships` is the empty plan. -/
def plannedPairsV2 (semanticPayload : Dict) : Py (List (PlannedRelationship Endpoint)) := do
  let present := semanticPayload.keys.contains "planned_relationships"
  let planned ← orRaise
    (if present then (semanticPayload.get "planned_relationships").list? else some [])
    (.valueError "write_operation_relationships_invalid")
  planned.mapM plannedRelationshipV2

def endpointUnknown (knownWork knownExisting : List String) (endpoint : Endpoint) : Bool :=
  match endpoint.endpointType with
  | .workItem => !knownWork.contains endpoint.ref
  | .existingIssue => !knownExisting.contains endpoint.ref

def operationBlockersV2 (knownWork knownExisting : List String) (operation : WriteOperationV2) :
    List String :=
  blockIf (operation.dependsOn ≠ []) "write_operation_dependencies_unsupported" ++
    match operation with
    | .createIssue endpoint _ =>
        blockIf (endpoint.endpointType ≠ .workItem ∨ endpoint.ref ∉ knownWork)
          "write_operation_unknown_endpoint"
    | .relationship _ first second _ =>
        blockIf (endpointUnknown knownWork knownExisting first = true)
          "write_operation_unknown_endpoint" ++
        blockIf (endpointUnknown knownWork knownExisting second = true)
          "write_operation_unknown_endpoint"

def plannedBlockersV2 (planned : PlannedRelationship Endpoint) : List String :=
  blockIf (planned.source = planned.target) "write_operation_relationship_shape_invalid" ++
    blockIf (planned.source.endpointType = .existingIssue ∧
      planned.target.endpointType = .existingIssue)
      "write_operation_existing_to_existing_unsupported"

/-- `binding_ids.get(ref)`: the issue a validated binding resolves its reference to. -/
def bindingIssueId (endpointBindings : List Value) (ref : String) : Value :=
  ((endpointBindings.filterMap Value.mapping?).find? fun binding =>
    binding.get "endpoint_ref" = .str ref).elim .null (Dict.get · "issue_id")

def PlannedKind.existingKind : PlannedKind → String
  | .plannedParent => "existing_parent"
  | .plannedDependency => "existing_dependency"

def relationshipExists (endpointBindings relationshipRecords : List Value)
    (planned : PlannedRelationship Endpoint) : Bool :=
  let source := bindingIssueId endpointBindings planned.source.ref
  let target := bindingIssueId endpointBindings planned.target.ref
  planned.source.endpointType = .existingIssue && planned.target.endpointType = .existingIssue &&
    source.text?.isSome && target.text?.isSome &&
    (relationshipRecords.filterMap Value.mapping?).any fun record =>
      record.get "kind" = .str planned.kind.existingKind && record.get "from" = source &&
        record.get "to" = target

def WriteOperationV2.createRef? : WriteOperationV2 → Option String
  | .createIssue endpoint _ => some endpoint.ref
  | .relationship .. => none

def WriteOperationV2.relationship? : WriteOperationV2 → Option (PlannedRelationship Endpoint)
  | .createIssue .. => none
  | .relationship kind source target _ => some { kind, source, target }

def createOperationV2 (ref : String) : WriteOperationV2 :=
  .createIssue { endpointType := .workItem, ref } []

def relationshipOperationV2 (planned : PlannedRelationship Endpoint) : WriteOperationV2 :=
  .relationship planned.kind planned.source planned.target []

def expectedOperationsV2 (refs : List String) (planned : List (PlannedRelationship Endpoint)) :
    List WriteOperationV2 :=
  refs.map createOperationV2 ++ planned.map relationshipOperationV2

def setBlockersV2 (refs : List String) (planned : List (PlannedRelationship Endpoint))
    (operations : List WriteOperationV2) : List String :=
  let creates := operations.filterMap WriteOperationV2.createRef?
  let pairs := operations.filterMap WriteOperationV2.relationship?
  blockIf (¬creates.Nodup ∨ ¬(creates ⊆ refs ∧ refs ⊆ creates))
      "write_operation_create_issue_incomplete" ++
    blockIf (¬(planned ⊆ pairs ∧ pairs ⊆ planned)) "write_operation_relationship_incomplete" ++
    blockIf (operations ≠ expectedOperationsV2 refs planned) "write_operation_order_invalid"

def evaluateWriteOperationsV2 (operationIntents : Value) (items : List Value)
    (semanticPayload : Dict) (endpointBindings relationshipRecords : List Value) :
    Py (WriteOperationEvaluation WriteOperationV2) := do
  let operations ← normalizeWriteOperationsV2 operationIntents
  let refs ← itemRefsV2 items
  let existing ← endpointRefs endpointBindings
  raiseIf (∃ ref ∈ refs, ref ∈ existing) "write_operation_reference_namespace_collision"
  let planned ← plannedPairsV2 semanticPayload
  pure (evaluation operations
    (operations.flatMap (operationBlockersV2 refs existing) ++
      planned.flatMap plannedBlockersV2 ++ setBlockersV2 refs planned operations ++
      planned.flatMap fun pair =>
        blockIf (relationshipExists endpointBindings relationshipRecords pair = true)
          "relationship_already_exists"))

end DeliverySystem.WriteOperations

import DeliverySystem.OperandAgreement

/-!
# The receipt-safe envelope of V2 operations

Durable artifacts keep the V1 operation shape, so a V2 Preview is executed
through an encoding: a creation keeps its bare reference, and the operands of a
relationship become tagged text. The envelope is accepted by the V1 normalizer
as it stands, and every tag is read back at its first colon.
-/
namespace DeliverySystem.OperationEnvelope
open PythonValues WriteOperations ApplicationIdentity ExecutionContexts IssueCommands OperandAgreement
set_option autoImplicit false

/-! ## Reading a tagged reference -/

/-- `text.split(":", 1)[1]`, of a text with a colon. -/
def afterColon (text : String) : String :=
  String.ofList ((text.toList.dropWhile (· ≠ ':')).drop 1)

/-- The prefix tests and the split of `_materialize` and `_resolve_operands`. -/
def decodeReference (ref : String) : Option Endpoint :=
  if "work_item:".toList.isPrefixOf ref.toList then
    some { endpointType := .workItem, ref := afterColon ref }
  else if "existing_issue:".toList.isPrefixOf ref.toList then
    some { endpointType := .existingIssue, ref := afterColon ref }
  else none

theorem afterColon_endpointText (endpoint : Endpoint) :
    afterColon (endpointText endpoint) = endpoint.ref := by
  obtain ⟨endpointType, ref⟩ := endpoint
  rw [afterColon, endpointText, String.toList_append]
  -- a tag ends in its only colon, whatever the reference contains
  cases endpointType with
  | workItem => simp [EndpointType.prefixText]
  | existingIssue => simp [EndpointType.prefixText]

theorem decodeReference_endpointText (endpoint : Endpoint) :
    decodeReference (endpointText endpoint) = some endpoint := by
  obtain ⟨endpointType, ref⟩ := endpoint
  rw [decodeReference, afterColon_endpointText, endpointText, String.toList_append]
  cases endpointType with
  | workItem => simp [EndpointType.prefixText]
  | existingIssue => simp [EndpointType.prefixText]

/-- A reference decodes to an endpoint exactly when it is its tagged text. -/
theorem decodeReference_eq_some {ref : String} {endpoint : Endpoint} :
    decodeReference ref = some endpoint ↔ ref = endpointText endpoint := by
  constructor
  · intro h
    have hsplit : ∀ tag : String, tag.toList.isPrefixOf ref.toList = true →
        ∃ name, ref = tag ++ name := by
      intro tag htag
      obtain ⟨rest, hrest⟩ := List.isPrefixOf_iff_prefix.mp htag
      refine ⟨String.ofList rest, ?_⟩
      rw [← String.toList_inj, String.toList_append, String.toList_ofList, hrest]
    have hread : ∀ found : Endpoint, ref = endpointText found → ref = endpointText endpoint := by
      intro found hfound
      rw [hfound, decodeReference_endpointText, Option.some.injEq] at h
      rw [hfound, h]
    unfold decodeReference at h
    split_ifs at h with hwork hexisting
    · obtain ⟨name, hname⟩ := hsplit _ hwork
      exact hread { endpointType := .workItem, ref := name } hname
    · obtain ⟨name, hname⟩ := hsplit _ hexisting
      exact hread { endpointType := .existingIssue, ref := name } hname
  · intro h
    rw [h, decodeReference_endpointText]

/-- Splitting at the first colon and dropping the tag read the same endpoint. -/
theorem decodeReference_eq_taggedEndpoint? : decodeReference = taggedEndpoint? := by
  funext ref
  ext endpoint
  rw [decodeReference_eq_some, taggedEndpoint?_eq_some]

/-! ## The V1 normalizer on typed operations -/

theorem textList?_texts {texts : List String} (h : ∀ s ∈ texts, s ≠ "") :
    textList? (Value.texts texts) = some texts := by
  rw [textList?, Value.texts, Value.list?, Option.bind_some]
  induction texts with
  | nil => rfl
  | cons s texts ih =>
      rw [List.forall_mem_cons] at h
      have hs : (Value.str s).nonEmptyText? = some s := Value.nonEmptyText?_eq_some.mpr ⟨rfl, h.1⟩
      simp [List.mapM_cons, hs, ih h.2]

theorem normalizeWriteOperation_toDict {operation : WriteOperation} (h : operation.Canonical) :
    normalizeWriteOperation operation.toDict = .ok operation := by
  obtain ⟨hkind, hrefs, hdeps, hdistinct⟩ := h
  simp only [normalizeWriteOperation, bind_eq_ok, orRaise_eq_ok, raiseIf_eq_ok, pure_eq_ok]
  refine ⟨_, rfl, (), ?_, operation.operationKind, ?_, operation.clientRefs, ?_,
    operation.dependsOn, ?_, (), not_not.mpr hdistinct, rfl⟩
  · simp [Dict.hasExactly, Dict.keys, operationFields]
  · exact Value.nonEmptyText?_eq_some.mpr ⟨rfl, hkind⟩
  · exact textList?_texts hrefs
  · exact textList?_texts hdeps

theorem normalizeWriteOperations_toDict {operations : List WriteOperation}
    (h : ∀ operation ∈ operations, operation.Canonical) :
    normalizeWriteOperations (.tuple (operations.map WriteOperation.toDict)) = .ok operations := by
  simp only [normalizeWriteOperations, bind_eq_ok, orRaise_eq_ok]
  refine ⟨_, rfl, ?_⟩
  rw [mapM_eq_ok, List.forall₂_map_left_iff, List.forall₂_same]
  exact fun operation hoperation => normalizeWriteOperation_toDict (h operation hoperation)

theorem toDict_injective : Function.Injective WriteOperation.toDict := by
  rintro ⟨kind, refs, deps⟩ ⟨kind', refs', deps'⟩ h
  have hstr : Function.Injective Value.str := fun _ _ => Value.str.inj
  simp only [WriteOperation.toDict, Value.texts, Value.dict.injEq, List.cons.injEq, Prod.mk.injEq,
    Value.str.injEq, Value.list.injEq, true_and, and_true] at h
  obtain ⟨hkind, hrefs, hdeps⟩ := h
  rw [hkind, List.map_injective_iff.mpr hstr hrefs, List.map_injective_iff.mpr hstr hdeps]

/-! ## The envelope -/

/-- An operation of an accepted list, without declared dependencies. -/
def Accepted (operation : WriteOperationV2) : Prop :=
  operation.dependsOn = [] ∧ ∃ value, normalizeWriteOperationV2 value = .ok operation

theorem Accepted.create_workItem {endpoint : Endpoint} {deps : List String}
    (h : Accepted (.createIssue endpoint deps)) : endpoint.endpointType = .workItem := by
  obtain ⟨-, value, hvalue⟩ := h
  simp only [normalizeWriteOperationV2, bind_eq_ok, orRaise_eq_ok] at hvalue
  obtain ⟨fields, -, kind, -, deps', -, hvalue⟩ := hvalue
  split_ifs at hvalue
  · simp only [bind_eq_ok, raiseIf_eq_ok, pure_eq_ok, not_not] at hvalue
    obtain ⟨_, -, found, -, _, htype, hfound⟩ := hvalue
    injection hfound with hfound
    rw [← hfound, htype]
  · simp only [bind_eq_ok, orRaise_eq_ok, raiseIf_eq_ok] at hvalue
    obtain ⟨k, -, _, -, hvalue⟩ := hvalue
    split at hvalue
    · simp only [bind_eq_ok, raiseIf_eq_ok, pure_eq_ok] at hvalue
      obtain ⟨first, -, second, -, _, -, hfound⟩ := hvalue
      cases hfound
    · cases hvalue

theorem Accepted.canonical {operation : WriteOperationV2} (h : Accepted operation) :
    (encodeOperation operation).Canonical := by
  obtain ⟨-, value, hvalue⟩ := h
  exact encodeOperation_canonical hvalue

theorem operationKind_injective : Function.Injective PlannedKind.operationKind := by
  intro k k' h
  have := congrArg relationshipKinds h
  rwa [relationshipKinds_operationKind, relationshipKinds_operationKind, Option.some.injEq] at this

/-- The kind tells creations from relationships, and tags are read back. -/
theorem encodeOperation_inj {a b : WriteOperationV2} (ha : Accepted a) (hb : Accepted b)
    (h : encodeOperation a = encodeOperation b) : a = b := by
  cases a with
  | createIssue e deps =>
      have hdeps : deps = [] := ha.1
      cases b with
      | createIssue e' deps' =>
          have hdeps' : deps' = [] := hb.1
          simp only [encodeOperation, WriteOperation.mk.injEq, List.cons.injEq, true_and,
            and_true] at h
          have htype : e.endpointType = e'.endpointType :=
            ha.create_workItem.trans hb.create_workItem.symm
          rw [hdeps, hdeps', show e = e' from by cases e; cases e'; simp_all]
      | relationship k first second deps' =>
          exact absurd (congrArg WriteOperation.operationKind h).symm (operationKind_ne_create k)
  | relationship k first second deps =>
      have hdeps : deps = [] := ha.1
      cases b with
      | createIssue e' deps' =>
          exact absurd (congrArg WriteOperation.operationKind h) (operationKind_ne_create k)
      | relationship k' first' second' deps' =>
          have hdeps' : deps' = [] := hb.1
          simp only [encodeOperation, WriteOperation.mk.injEq, List.cons.injEq, and_true] at h
          obtain ⟨hkind, hfirst, hsecond⟩ := h
          rw [hdeps, hdeps', operationKind_injective hkind, endpointText_injective hfirst,
            endpointText_injective hsecond]

theorem map_encodeOperation_inj {xs ys : List WriteOperationV2} (hx : ∀ op ∈ xs, Accepted op)
    (hy : ∀ op ∈ ys, Accepted op) (h : xs.map encodeOperation = ys.map encodeOperation) :
    xs = ys := by
  induction xs generalizing ys with
  | nil => simpa using h.symm
  | cons x xs ih =>
      cases ys with
      | nil => simp at h
      | cons y ys =>
          rw [List.forall_mem_cons] at hx hy
          rw [List.map_cons, List.map_cons, List.cons.injEq] at h
          rw [encodeOperation_inj hx.1 hy.1 h.1, ih hx.2 hy.2 h.2]

/-- What is decoded of the references of a relationship: the list a raising loop
builds, and the list of a loop that skips what it cannot read. -/
theorem decode_encodeOperation (kind : PlannedKind) (first second : Endpoint)
    (deps : List String) :
    (encodeOperation (.relationship kind first second deps)).clientRefs.mapM decodeReference =
        some [first, second] ∧
      (encodeOperation (.relationship kind first second deps)).clientRefs.filterMap
        decodeReference = [first, second] := by
  simp [encodeOperation, decodeReference_endpointText]

/-! ## The envelope of an accepted Preview -/

/-- The dictionary whose digest names an operation at its place. -/
def operationPayload (applicationId : String) (index : Nat) (operation : WriteOperation) : Value :=
  .dict [("domain", .str "delivery-system:operation:v1"),
    ("application_id", .str applicationId), ("operation_index", .int index),
    ("operation", operation.toDict)]

theorem operationIdentity_eq_payload [PythonLibrary] (applicationId : String) (index : Nat)
    (operation : WriteOperation) : operationIdentity applicationId index operation =
      "operation-" ++ PythonLibrary.hexdigest (operationPayload applicationId index operation) :=
  rfl

theorem operationPayload_inj {applicationId applicationId' : String} {index index' : Nat}
    {operation operation' : WriteOperation} :
    operationPayload applicationId index operation =
        operationPayload applicationId' index' operation' ↔
      applicationId = applicationId' ∧ index = index' ∧ operation = operation' := by
  simp only [operationPayload, Value.dict.injEq, List.cons.injEq, Prod.mk.injEq, Value.str.injEq,
    Value.int.injEq, true_and, and_true, Int.natCast_inj, toDict_injective.eq_iff]

/-- A V2 Preview whose intents normalize to operations without dependencies. -/
structure AcceptedPreview (canonical : Dict) (operations : List WriteOperationV2) : Prop where
  version : canonical.get "canonical_version" = .str "2"
  normalized : normalizeWriteOperationsV2 (getOr canonical "operation_intents" (.list [])) =
    .ok operations
  independent : ∀ operation ∈ operations, operation.dependsOn = []

theorem AcceptedPreview.accepted {canonical : Dict} {operations : List WriteOperationV2}
    (h : AcceptedPreview canonical operations) : ∀ operation ∈ operations, Accepted operation := by
  intro operation hoperation
  have hnormalized := h.normalized
  simp only [normalizeWriteOperationsV2, bind_eq_ok, orRaise_eq_ok] at hnormalized
  obtain ⟨entries, -, hmap⟩ := hnormalized
  obtain ⟨entry, -, hentry⟩ := exists_of_mem_mapM hmap hoperation
  exact ⟨h.independent operation hoperation, entry, hentry⟩

theorem AcceptedPreview.executionOperations {canonical : Dict}
    {operations : List WriteOperationV2} (h : AcceptedPreview canonical operations) :
    executionOperations canonical = .ok (operations.map encodeOperation) := by
  rw [ExecutionContexts.executionOperations, if_pos h.version, h.normalized]
  rfl

/-- The envelope loses nothing: it is accepted as it stands, different lists
and different members have different envelopes, every tag reads back to its
endpoint, and an operation keeps its own payload at each place. -/
theorem envelope_loses_nothing {canonical : Dict} {operations : List WriteOperationV2}
    (h : AcceptedPreview canonical operations) :
    ExecutionContexts.executionOperations canonical = .ok (operations.map encodeOperation) ∧
    normalizeWriteOperations
        (.tuple ((operations.map encodeOperation).map WriteOperation.toDict)) =
      .ok (operations.map encodeOperation) ∧
    Set.InjOn encodeOperation {operation | operation ∈ operations} ∧
    (∀ (other : Dict) (others : List WriteOperationV2), AcceptedPreview other others →
      ExecutionContexts.executionOperations other =
        ExecutionContexts.executionOperations canonical → others = operations) ∧
    (∀ endpoint deps, WriteOperationV2.createIssue endpoint deps ∈ operations →
      endpoint.endpointType = .workItem ∧
        (encodeOperation (.createIssue endpoint deps)).clientRefs = [endpoint.ref]) ∧
    (∀ kind first second deps,
      WriteOperationV2.relationship kind first second deps ∈ operations →
        let refs := (encodeOperation (.relationship kind first second deps)).clientRefs
        refs.mapM decodeReference = some [first, second] ∧
          refs.filterMap decodeReference = [first, second]) ∧
    (∀ endpoint : Endpoint, decodeReference (endpointText endpoint) = some endpoint ∧
      taggedEndpoint? (endpointText endpoint) = some endpoint) ∧
    ∀ (other : Dict) (others : List WriteOperationV2), AcceptedPreview other others →
      ∀ (applicationId : String) (index : Nat), ∀ operation ∈ operations, ∀ operation' ∈ others,
        operation ≠ operation' →
          operationPayload applicationId index (encodeOperation operation) ≠
            operationPayload applicationId index (encodeOperation operation') := by
  have haccepted := h.accepted
  have hcanonical : ∀ operation ∈ operations.map encodeOperation, operation.Canonical := by
    intro operation hoperation
    obtain ⟨source, hsource, rfl⟩ := List.mem_map.mp hoperation
    exact (haccepted source hsource).canonical
  refine ⟨h.executionOperations, normalizeWriteOperations_toDict hcanonical, ?_, ?_, ?_, ?_,
    ?_, ?_⟩
  · intro a ha b hb hab
    exact encodeOperation_inj (haccepted a ha) (haccepted b hb) hab
  · intro other others hother heq
    rw [h.executionOperations, hother.executionOperations, Except.ok.injEq] at heq
    exact map_encodeOperation_inj hother.accepted haccepted heq
  · intro endpoint deps hoperation
    exact ⟨(haccepted _ hoperation).create_workItem, rfl⟩
  · intro kind first second deps _
    exact decode_encodeOperation kind first second deps
  · intro endpoint
    rw [← decodeReference_eq_taggedEndpoint?, decodeReference_endpointText]
    exact ⟨rfl, rfl⟩
  · intro other others hother applicationId index a ha b hb hne hpayload
    have hencoded := (operationPayload_inj.mp hpayload).2.2
    exact hne (encodeOperation_inj (haccepted a ha) (hother.accepted b hb) hencoded)

/-- Operands whose references contain colons and start with a tag. -/
def colonPreview : Dict :=
  [("canonical_version", .str "2"), ("operation_intents", .list [
    .dict [("operation_kind", .str "create_issue"),
      ("endpoint", .dict [("endpoint_type", .str "work_item"),
        ("client_ref", .str "existing_issue:a:b")]), ("depends_on", .list [])],
    .dict [("operation_kind", .str "add_sub_issue"), ("operands", .list [
      .dict [("endpoint_type", .str "existing_issue"), ("endpoint_ref", .str "a:b")],
      .dict [("endpoint_type", .str "work_item"), ("client_ref", .str "existing_issue:a:b")]]),
      ("depends_on", .list [])]])]

def colonOperations : List WriteOperationV2 :=
  [.createIssue ⟨.workItem, "existing_issue:a:b"⟩ [],
    .relationship .plannedParent ⟨.existingIssue, "a:b"⟩ ⟨.workItem, "existing_issue:a:b"⟩ []]

theorem colonPreview_accepted : AcceptedPreview colonPreview colonOperations :=
  ⟨rfl, by decide, by decide⟩

theorem colonPreview_loses_nothing :
    ExecutionContexts.executionOperations colonPreview =
        .ok (colonOperations.map encodeOperation) ∧
      Set.InjOn encodeOperation {operation | operation ∈ colonOperations} :=
  have h := envelope_loses_nothing colonPreview_accepted
  ⟨h.1, h.2.2.1⟩

end DeliverySystem.OperationEnvelope

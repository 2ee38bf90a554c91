import DeliverySystem.ClaimPreparation

/-!
# Eligible sequences are executable in order

Eligibility compares sets and a reconstructed sequence; execution looks every
operand of a relationship up among earlier creations. The creations of an
eligible set come first, one for each item, and every reference of a relationship
is known, so that a relationship never waits for an item that was not created.
-/
namespace DeliverySystem.ExecutableSequences
open PythonValues WriteOperations ApplicationIdentity ExecutionRecords ExecutionContexts
open KeyedRows ExecutionStore ExecutionTransactions ApplicationStatus IssueCommands
open PostconditionObservation
open WriteOperationRepeats OperandAgreement RecordedOperands ClaimPreparation
set_option autoImplicit false

/-! ## Exceptions of composed computations -/

section
variable {α β : Type}

theorem bind_eq_error {x : Py α} {f : α → Py β} {e : Raised} :
    x >>= f = .error e ↔ x = .error e ∨ ∃ a, x = .ok a ∧ f a = .error e := by
  cases x with
  | error e' => simp [bind, Except.bind]
  | ok a => simp [bind, Except.bind]

theorem raiseIf_eq_error {condition : Prop} [Decidable condition] {code : String} {e : Raised} :
    raiseIf condition code = .error e ↔ condition ∧ e = .valueError code := by
  unfold raiseIf
  split_ifs with h
  · simp [h, eq_comm]
  · simp [h]

theorem mapM_eq_error {f : α → Py β} {xs : List α} {e : Raised} (h : xs.mapM f = .error e) :
    ∃ x ∈ xs, f x = .error e := by
  induction xs with
  | nil => simp [pure, Except.pure] at h
  | cons x xs ih =>
      rw [List.mapM_cons, bind_eq_error] at h
      rcases h with h | ⟨y, -, h⟩
      · exact ⟨x, List.mem_cons_self, h⟩
      · rw [bind_eq_error] at h
        rcases h with h | ⟨ys, -, h⟩
        · obtain ⟨x', hx', hraised⟩ := ih h
          exact ⟨x', List.mem_cons_of_mem x hx', hraised⟩
        · cases h

theorem forM_eq_error {f : α → Py Unit} {xs : List α} {e : Raised} (h : xs.forM f = .error e) :
    ∃ x ∈ xs, f x = .error e := by
  induction xs with
  | nil => simp [pure, Except.pure] at h
  | cons x xs ih =>
      rw [List.forM_eq_forM, List.forM_cons, bind_eq_error] at h
      rcases h with h | ⟨y, -, h⟩
      · exact ⟨x, List.mem_cons_self, h⟩
      · obtain ⟨x', hx', hraised⟩ := ih h
        exact ⟨x', List.mem_cons_of_mem x hx', hraised⟩

theorem orRaise_raisesOnly {codes : List String} {x : Option α} {code : String}
    (h : code ∈ codes) : RaisesOnly codes (orRaise x (.valueError code)) := by
  intro e he
  cases x with
  | none => exact ⟨code, h, (Except.error.inj he).symm⟩
  | some a => cases he

end

/-! ## Creations before their uses -/

/-- The work item `ref` is created by one operation, which stands before place `k`. -/
def CreatedBefore (operations : List WriteOperation) (k : Nat) (ref : String) : Prop :=
  ∃ j < k, operations[j]? = some (createOperation ref) ∧
    ∀ i operation, operations[i]? = some operation → createsRef ref operation = true → i = j

theorem createdBefore_of_creates {operations : List WriteOperation} {refs : List String}
    (h : CreatesFirst operations refs) {k : Nat} {operation : WriteOperation}
    (hoperation : operations[k]? = some operation)
    (hkind : operation.operationKind ≠ "create_issue") {ref : String} (href : ref ∈ refs) :
    CreatedBefore operations k ref := by
  have hlt := List.idxOf_lt_length_of_mem href
  refine ⟨refs.idxOf ref, hlt.trans_le (h.le_index hoperation hkind), h.operation href, ?_⟩
  intro i other hother hcreates
  have hcreate : other.operationKind = "create_issue" ∧ other.clientRefs = [ref] := by
    simpa [createsRef] using hcreates
  obtain ⟨relationships, rfl, hkinds⟩ := h.rest
  by_cases hi : i < refs.length
  · rw [List.getElem?_append_left (by simpa using hi), List.getElem?_map,
      List.getElem?_eq_getElem hi, Option.map_some, Option.some.injEq] at hother
    have hsame : refs[i] = ref := by
      rw [← hother, createOperation, List.cons.injEq] at hcreate
      exact hcreate.2.1
    rw [← hsame, h.distinct.idxOf_getElem]
  · rw [List.getElem?_append_right (by simpa using hi)] at hother
    exact absurd hcreate.1 (hkinds other (List.mem_of_getElem? hother))

/-- Exactly one binding carries the reference of an existing issue. -/
def BoundOnce (bindings : List Value) (ref : String) : Prop :=
  (readEach bindings "endpoint_ref").count (.str ref) = 1

theorem eq_texts_of_mapM {values : List Value} {texts : List String}
    (h : values.mapM Value.nonEmptyText? = some texts) : values = texts.map .str := by
  induction values generalizing texts with
  | nil =>
      simp only [List.mapM_nil, Option.pure_def, Option.some.injEq] at h
      simp [← h]
  | cons v values ih =>
      simp only [List.mapM_cons, Option.pure_def, Option.bind_eq_bind,
        Option.bind_eq_some_iff, Option.some.injEq] at h
      obtain ⟨s, hs, rest, hrest, rfl⟩ := h
      rw [List.map_cons, (Value.nonEmptyText?_eq_some.mp hs).1, ih hrest]

theorem boundOnce_of_mem {bindings : List Value} {existing : List String}
    (h : endpointRefs bindings = .ok existing) {ref : String} (href : ref ∈ existing) :
    BoundOnce bindings ref := by
  have hsome := orRaise_eq_ok.mp h
  obtain ⟨texts, htexts, hdistinct⟩ := Option.bind_eq_some_iff.mp hsome
  split_ifs at hdistinct with hnodup
  obtain rfl := Option.some.inj hdistinct
  have hinj : Function.Injective Value.str := fun _ _ => Value.str.inj
  rw [BoundOnce, eq_texts_of_mapM htexts]
  exact List.count_eq_one_of_mem (hnodup.map hinj) (List.mem_map_of_mem href)

/-! ## What the two evaluators establish -/

theorem flatMap_eq_nil {α β : Type} {xs : List α} {f : α → List β} (h : xs.flatMap f = []) :
    ∀ x ∈ xs, f x = [] :=
  List.flatMap_eq_nil_iff.mp h

theorem eligible_creates {intents : Value} {items : List Value} {semantic : Dict}
    {e : WriteOperationEvaluation WriteOperation}
    (h : evaluateWriteOperations intents items semantic = .ok e) (he : e.eligible = true) :
    ∃ refs, itemRefs items = .ok refs ∧ CreatesFirst e.operations refs ∧
      ∀ operation ∈ e.operations, ∀ ref ∈ operation.clientRefs, ref ∈ refs := by
  obtain ⟨refs, planned, hrefs, -, hexpected⟩ := eligible_expected h he
  have hcreates : CreatesFirst e.operations refs := by
    refine ⟨(itemRefs_spec hrefs).1, planned.map relationshipOperation, hexpected, ?_⟩
    intro operation hoperation
    obtain ⟨p, -, rfl⟩ := List.mem_map.mp hoperation
    exact operationKind_ne_create p.kind
  refine ⟨refs, hrefs, hcreates, ?_⟩
  simp only [evaluateWriteOperations, bind_eq_ok, pure_eq_ok] at h
  obtain ⟨operations, -, refs', hrefs', planned', -, rfl⟩ := h
  obtain rfl : refs' = refs := Except.ok.inj (hrefs'.symm.trans hrefs)
  have hnil := evaluation_eligible he
  rw [List.append_eq_nil_iff] at hnil
  intro operation hoperation ref href
  have hown := flatMap_eq_nil hnil.1 operation hoperation
  simp only [operationBlockers, List.append_eq_nil_iff, blockIf_eq_nil] at hown
  have hknown := hown.1.1
  push Not at hknown
  exact hknown ref href

/-- What an endpoint of an eligible V2 set refers to. -/
def EndpointKnown (refs existing : List String) (endpoint : Endpoint) : Prop :=
  (endpoint.endpointType = .workItem → endpoint.ref ∈ refs) ∧
    (endpoint.endpointType = .existingIssue → endpoint.ref ∈ existing)

theorem endpointKnown_of_blockers {refs existing : List String} {endpoint : Endpoint}
    (h : endpointUnknown refs existing endpoint ≠ true) : EndpointKnown refs existing endpoint := by
  unfold endpointUnknown at h
  constructor
  · intro htype
    simpa [htype] using h
  · intro htype
    simpa [htype] using h

theorem eligible_createsV2 {intents : Value} {items bindings records : List Value}
    {semantic : Dict} {e : WriteOperationEvaluation WriteOperationV2}
    (h : evaluateWriteOperationsV2 intents items semantic bindings records = .ok e)
    (he : e.eligible = true) :
    ∃ refs existing, itemRefsV2 items = .ok refs ∧ endpointRefs bindings = .ok existing ∧
      CreatesFirst (e.operations.map encodeOperation) refs ∧
      ∀ kind first second deps, WriteOperationV2.relationship kind first second deps ∈ e.operations →
        EndpointKnown refs existing first ∧ EndpointKnown refs existing second := by
  obtain ⟨refs, planned, hrefs, -, hexpected⟩ := eligible_expectedV2 h he
  have hcreates : CreatesFirst (e.operations.map encodeOperation) refs := by
    refine ⟨(itemRefsV2_spec hrefs).1,
      planned.map (encodeOperation ∘ relationshipOperationV2), ?_, ?_⟩
    · rw [hexpected, expectedOperationsV2, List.map_append, List.map_map, List.map_map]
      rfl
    · intro operation hoperation
      obtain ⟨p, -, rfl⟩ := List.mem_map.mp hoperation
      exact operationKind_ne_create p.kind
  simp only [evaluateWriteOperationsV2, bind_eq_ok, pure_eq_ok] at h
  obtain ⟨operations, -, refs', hrefs', existing, hexisting, _, -, planned', -, rfl⟩ := h
  obtain rfl : refs' = refs := Except.ok.inj (hrefs'.symm.trans hrefs)
  refine ⟨refs', existing, hrefs, hexisting, hcreates, ?_⟩
  have hnil := evaluation_eligible he
  simp only [List.append_eq_nil_iff] at hnil
  intro kind first second deps hoperation
  have hown := flatMap_eq_nil hnil.1.1.1 _ hoperation
  simp only [operationBlockersV2, List.append_eq_nil_iff, blockIf_eq_nil] at hown
  exact ⟨endpointKnown_of_blockers hown.2.1, endpointKnown_of_blockers hown.2.2⟩

/-! ## Operations of a context -/

section
variable [PythonLibrary]
variable {context : ExecutionContext} {t : Tables} {refs : List String}

/-- How a relationship of an executable sequence names its operands. -/
structure OperandsKnown (context : ExecutionContext) (refs : List String)
    (operation : WriteOperation) : Prop where
  kind : (relationshipKinds operation.operationKind).isSome
  untagged : context.canonicalVersion ≠ .str "2" →
    ∃ a b, operation.clientRefs = [a, b] ∧ a ∈ refs ∧ b ∈ refs
  tagged : context.canonicalVersion = .str "2" →
    ∃ a b : Endpoint, operation.clientRefs = [endpointText a, endpointText b] ∧
      (a.endpointType = .workItem → a.ref ∈ refs) ∧ (b.endpointType = .workItem → b.ref ∈ refs)

/-- The operations of a context create the listed items first. -/
structure ExecutableOperations (context : ExecutionContext) (items : List Value)
    (refs : List String) : Prop where
  creates : CreatesFirst context.expectedOperations refs
  listed : ∀ ref ∈ refs, .str ref ∈ readEach items "client_ref"
  operands : ∀ operation ∈ context.expectedOperations,
    operation.operationKind ≠ "create_issue" → OperandsKnown context refs operation

theorem evaluated_executable {canonical : Dict} {items : List Value}
    (h : EvaluatedOver canonical items)
    (hoperations : executionOperations canonical = .ok context.expectedOperations)
    (hversion : context.canonicalVersion = Dict.get canonical "canonical_version") :
    ∃ refs, ExecutableOperations context items refs := by
  cases h with
  | @v1 semantic e version evaluated eligible =>
      obtain ⟨hnull, hnormalized⟩ := evaluated_intents evaluated
      obtain ⟨refs, hrefs, hcreates, hknown⟩ := eligible_creates evaluated eligible
      obtain ⟨refs', planned, hrefs', -, hexpected⟩ := eligible_expected evaluated eligible
      have hall : context.expectedOperations = e.operations := by
        rw [executionOperations, if_neg version, getOr_intents hnull, hnormalized,
          Except.ok.injEq] at hoperations
        exact hoperations.symm
      refine ⟨refs, hall ▸ hcreates, fun ref href => ((itemRefs_spec hrefs).2 ref).mpr href, ?_⟩
      intro operation hoperation hkind
      rw [hall] at hoperation
      have hrefsKnown := hknown operation hoperation
      rw [hexpected, expectedOperations, List.mem_append] at hoperation
      rcases hoperation with hmem | hmem
      · obtain ⟨ref, -, rfl⟩ := List.mem_map.mp hmem
        exact absurd rfl hkind
      · obtain ⟨p, -, rfl⟩ := List.mem_map.mp hmem
        refine ⟨by simp [relationshipOperation], fun _ => ?_, fun htwo => ?_⟩
        · exact ⟨p.source, p.target, rfl, hrefsKnown _ (by simp [relationshipOperation]),
            hrefsKnown _ (by simp [relationshipOperation])⟩
        · exact absurd (hversion.symm.trans htwo) version
  | @v2 bindings records semantic e version evaluated eligible =>
      obtain ⟨hnull, hnormalized⟩ := evaluated_intentsV2 evaluated
      obtain ⟨refs, existing, hrefs, -, hcreates, hknown⟩ := eligible_createsV2 evaluated eligible
      have hall : context.expectedOperations = e.operations.map encodeOperation := by
        rw [executionOperations, if_pos version, getOr_intents hnull, hnormalized] at hoperations
        exact (Except.ok.inj hoperations).symm
      refine ⟨refs, hall ▸ hcreates, fun ref href => ((itemRefsV2_spec hrefs).2 ref).mpr href, ?_⟩
      intro operation hoperation hkind
      rw [hall] at hoperation
      obtain ⟨source, hsource, rfl⟩ := List.mem_map.mp hoperation
      cases source with
      | createIssue endpoint deps => exact absurd rfl hkind
      | relationship kind first second deps =>
          obtain ⟨hfirst, hsecond⟩ := hknown kind first second deps hsource
          refine ⟨by simp [encodeOperation], fun hone => ?_, fun _ => ?_⟩
          · exact absurd (hversion.trans version) hone
          · exact ⟨first, second, rfl, hfirst.1, hsecond.1⟩

/-! ## Looking an earlier creation up -/

/-- Every creation before place `k` has a receipt that was stored for it. -/
def ReceiptedBefore (context : ExecutionContext) (t : Tables) (k : Nat) : Prop :=
  ∀ i < k, ∀ ref, context.expectedOperations[i]? = some (createOperation ref) →
    ∃ r, t.operationReceipts.lookup
        (operationIdentity context.identity.applicationId i (createOperation ref)) = some r ∧
      StoredReceipt context i (createOperation ref) r

theorem make_raisesOnly (repository issueNumber numericIssueId nodeId : Value) :
    RaisesOnly ["repository_identity_invalid", "write_reference_invalid"]
      (RemoteIssueReference.make repository issueNumber numericIssueId nodeId) := by
  have hrepository : RaisesOnly ["repository_identity_invalid", "write_reference_invalid"]
      (normalizeRepositoryIdentity repository) := by
    unfold normalizeRepositoryIdentity
    apply bind_raisesOnly (orRaise_raisesOnly (by decide))
    intro text
    split
    · exact bind_raisesOnly (raiseIf_raisesOnly (by decide)) fun _ => pure_raisesOnly _
    · intro e he
      exact ⟨_, List.mem_cons_self, (Except.error.inj he).symm⟩
  unfold RemoteIssueReference.make
  apply bind_raisesOnly hrepository
  intro _
  apply bind_raisesOnly (orRaise_raisesOnly (by decide))
  intro _
  apply bind_raisesOnly (orRaise_raisesOnly (by decide))
  intro _
  apply bind_raisesOnly (orRaise_raisesOnly (by decide))
  intro _
  exact pure_raisesOnly _

/-- The receipt of an earlier creation is found, and is read as the issue it names. -/
theorem referenceFromReceipt_found (hcreates : CreatesFirst context.expectedOperations refs)
    {k : Nat} (hk : refs.length ≤ k) (hreceipts : ReceiptedBefore context t k) {ref : String}
    (href : ref ∈ refs) :
    ∃ r, referenceFromReceipt context.identity.values.workspaceIdentity context t ref =
      issueOf r := by
  have hlt := (List.idxOf_lt_length_of_mem href).trans_le hk
  obtain ⟨r, hrow, hr⟩ := hreceipts _ hlt ref (hcreates.operation href)
  have hcreated := hr.created rfl
  simp only [createdPayload, Bool.and_eq_true, decide_eq_true_eq] at hcreated
  have hexact := hcreated.1.1.1.1.1
  have hget : getOperationReceipt context.identity.values.workspaceIdentity context.applicationId
      (operationIdentity context.applicationId (refs.idxOf ref) (createOperation ref)) t = .ok r :=
    hr.get hrow rfl
  have hmatch : ¬(r.remoteResult.resultKind ≠ "github.create_issue.v1" ∨
      Dict.get r.remoteResult.resultPayload "repository_identity" ≠
        .str context.authority.repositoryIdentity) := by
    rw [authority_repository]
    simp [hr.kind, createOperation, hcreated.1.1.1.1.2]
  have hrequire : ∀ key ∈ ["repository_identity", "issue_number", "numeric_issue_id", "node_id"],
      Dict.require r.remoteResult.resultPayload key =
        .ok (Dict.get r.remoteResult.resultPayload key) := by
    intro key hkey
    apply require_of_created hexact
    revert key
    decide
  simp only [List.forall_mem_cons] at hrequire
  obtain ⟨hrepository, hnumber, hnumeric, hnode, -⟩ := hrequire
  refine ⟨r, ?_⟩
  simp only [referenceFromReceipt, hcreates.find, if_pos href, orRaise, bind, Except.bind, hget,
    raiseIf, if_neg hmatch, hrepository, hnumber, hnumeric, hnode, issueOf]

theorem referenceFromReceipt_available (hcreates : CreatesFirst context.expectedOperations refs)
    {k : Nat} (hk : refs.length ≤ k) (hreceipts : ReceiptedBefore context t k) {ref : String}
    (href : ref ∈ refs) :
    referenceFromReceipt context.identity.values.workspaceIdentity context t ref ≠
      .error (.valueError "write_reference_unavailable") := by
  intro hraised
  obtain ⟨r, hr⟩ := referenceFromReceipt_found hcreates hk hreceipts href
  rw [hr] at hraised
  obtain ⟨code, hcode, heq⟩ := make_raisesOnly _ _ _ _ _ hraised
  obtain rfl := Raised.valueError.inj heq
  revert hcode
  decide

/-! ## Materializing a relationship -/

/-- What else makes an operand of a V2 relationship unavailable: an issue that
exists already and does not resolve or revalidate, or two operands that are one
issue. -/
inductive OtherwiseUnavailable (context : ExecutionContext) (read : Nat → Tables)
    (revalidate : String → Py Unit) (a b : Endpoint) : Prop
  | unresolved {ref : String} (operand : ⟨.existingIssue, ref⟩ ∈ [a, b])
      (raised : referenceFromExistingBinding context ref =
        .error (.valueError "write_reference_unavailable"))
  | same {reference : RemoteIssueReference}
      (first : referenceFromEndpoint context.identity.values.workspaceIdentity context (read 0) a =
        .ok reference)
      (second : referenceFromEndpoint context.identity.values.workspaceIdentity context (read 1) b =
        .ok reference)
  | changed {ref : String} (operand : ⟨.existingIssue, ref⟩ ∈ [a, b])
      (raised : revalidate ref = .error (.valueError "write_reference_unavailable"))

theorem makeRelationship_raisesOnly (repository : String) (first second : RemoteIssueReference) :
    RaisesOnly ["repository_identity_invalid", "write_command_invalid"]
      (RelationshipCommand.make repository first second) := by
  have hrepository : RaisesOnly ["repository_identity_invalid", "write_command_invalid"]
      (normalizeRepositoryIdentity (.str repository)) := by
    unfold normalizeRepositoryIdentity
    apply bind_raisesOnly (orRaise_raisesOnly (by decide))
    intro text
    split
    · exact bind_raisesOnly (raiseIf_raisesOnly (by decide)) fun _ => pure_raisesOnly _
    · intro e he
      exact ⟨_, List.mem_cons_self, (Except.error.inj he).symm⟩
  unfold RelationshipCommand.make
  apply bind_raisesOnly hrepository
  intro _
  exact bind_raisesOnly (raiseIf_raisesOnly (by decide)) fun _ => pure_raisesOnly _

theorem makeRelationship_available (repository : String) (first second : RemoteIssueReference) :
    RelationshipCommand.make repository first second ≠
      .error (.valueError "write_reference_unavailable") := by
  intro hraised
  obtain ⟨code, hcode, heq⟩ := makeRelationship_raisesOnly _ _ _ _ hraised
  obtain rfl := Raised.valueError.inj heq
  revert hcode
  decide

omit [PythonLibrary] in
theorem firstTwo_of_pair {α : Type} (a b : α) : firstTwo [a, b] = .ok (a, b) := rfl

theorem materializeTagged_unavailable (hcreates : CreatesFirst context.expectedOperations refs)
    {k : Nat} (hk : refs.length ≤ k) {read : Nat → Tables}
    (hreceipts : ∀ i, ReceiptedBefore context (read i) k) {a b : Endpoint}
    (ha : a.endpointType = .workItem → a.ref ∈ refs)
    (hb : b.endpointType = .workItem → b.ref ∈ refs) {revalidate : String → Py Unit}
    (h : materializeTagged context.identity.values.workspaceIdentity context
      [endpointText a, endpointText b] read revalidate =
        .error (.valueError "write_reference_unavailable")) :
    OtherwiseUnavailable context read revalidate a b := by
  have hendpoints : [endpointText a, endpointText b].mapM taggedEndpoint? = some [a, b] := by
    simp [taggedEndpoint?_eq_some.mpr rfl]
  -- a work item that does not resolve is excluded, one operand at a time
  have hoperand : ∀ endpoint ∈ [a, b], ∀ i,
      referenceFromEndpoint context.identity.values.workspaceIdentity context (read i) endpoint =
        .error (.valueError "write_reference_unavailable") →
      OtherwiseUnavailable context read revalidate a b := by
    intro endpoint hmem i hraised
    obtain ⟨endpointType, ref⟩ := endpoint
    cases endpointType with
    | existingIssue => exact .unresolved hmem hraised
    | workItem =>
        have href : ref ∈ refs := by
          rcases List.mem_pair.mp hmem with heq | heq
          · rw [← heq] at ha
            exact ha rfl
          · rw [← heq] at hb
            exact hb rfl
        exact absurd hraised (referenceFromReceipt_available hcreates hk (hreceipts i) href)
  simp only [materializeTagged, hendpoints, orRaise, bind_eq_error, Except.ok.injEq,
    reduceCtorEq, false_or] at h
  obtain ⟨_, rfl, h | ⟨references, hreferences, h⟩⟩ := h
  · obtain ⟨⟨endpoint, i⟩, hmem, hraised⟩ := mapM_eq_error h
    exact hoperand endpoint (List.fst_mem_of_mem_zipIdx hmem) i hraised
  · rw [mapM_eq_ok] at hreferences
    obtain _ | ⟨hx, _ | ⟨hy, _ | _⟩⟩ := hreferences
    rw [firstTwo_of_pair] at h
    simp only [reduceCtorEq, Except.ok.injEq, false_or] at h
    obtain ⟨⟨x, y⟩, hpair, h⟩ := h
    obtain ⟨rfl, rfl⟩ := Prod.mk.inj hpair
    rcases h with h | ⟨_, -, h⟩
    · obtain ⟨heq, -⟩ := raiseIf_eq_error.mp h
      simp only at heq
      rw [← heq] at hy
      exact .same hx hy
    · rcases h with h | ⟨_, -, h⟩
      · obtain ⟨ref, hmem, hraised⟩ := forM_eq_error h
        simp only [existingRefs, List.mem_map, List.mem_filter, decide_eq_true_eq] at hmem
        obtain ⟨⟨endpointType, name⟩, ⟨hmem, rfl⟩, rfl⟩ := hmem
        exact .changed hmem hraised
      · exact absurd h (makeRelationship_available _ _ _)

theorem materializeUntagged_available (hcreates : CreatesFirst context.expectedOperations refs)
    {k : Nat} (hk : refs.length ≤ k) {read : Nat → Tables}
    (hreceipts : ∀ i, ReceiptedBefore context (read i) k)
    (hitems : ∀ ref ∈ refs, ∃ item ∈ context.items, Dict.get item "client_ref" = .str ref)
    {a b : String} (ha : a ∈ refs) (hb : b ∈ refs) :
    materializeUntagged context.identity.values.workspaceIdentity context [a, b] read ≠
      .error (.valueError "write_reference_unavailable") := by
  intro h
  have hknown : ∀ ref ∈ [a, b], ref ∈ refs := by
    intro ref href
    rcases List.mem_pair.mp href with rfl | rfl
    · exact ha
    · exact hb
  rw [materializeUntagged, bind_eq_error] at h
  rcases h with h | ⟨_, -, h⟩
  · obtain ⟨⟨ref, href, hmissing⟩, -⟩ := raiseIf_eq_error.mp h
    obtain ⟨item, hitem, heq⟩ := hitems ref (hknown ref href)
    exact hmissing item hitem heq
  · rw [bind_eq_error] at h
    rcases h with h | ⟨references, hreferences, h⟩
    · obtain ⟨⟨ref, i⟩, hmem, hraised⟩ := mapM_eq_error h
      have href := hknown ref (List.fst_mem_of_mem_zipIdx hmem)
      exact referenceFromReceipt_available hcreates hk (hreceipts i) href hraised
    · rw [mapM_eq_ok] at hreferences
      obtain _ | ⟨hx, _ | ⟨hy, _ | _⟩⟩ := hreferences
      rw [firstTwo_of_pair, bind_eq_error] at h
      simp only [reduceCtorEq, Except.ok.injEq, false_or] at h
      obtain ⟨⟨x, y⟩, -, h⟩ := h
      exact makeRelationship_available _ _ _ h

/-- The references of a relationship, as the Applier reads them. -/
structure Executes (context : ExecutionContext) (k : Nat) (attempt : OperationAttemptState)
    (read : Nat → Tables) (revalidate : String → Py Unit) : Prop where
  untagged : context.canonicalVersion ≠ .str "2" →
    (∀ ref ∈ attempt.operation.clientRefs, CreatedBefore context.expectedOperations k ref) ∧
      materialize context.identity.values.workspaceIdentity context attempt read revalidate ≠
        .error (.valueError "write_reference_unavailable")
  tagged : context.canonicalVersion = .str "2" → ∃ a b : Endpoint,
    attempt.operation.clientRefs = [endpointText a, endpointText b] ∧
      (∀ ref, ⟨.workItem, ref⟩ ∈ [a, b] → CreatedBefore context.expectedOperations k ref ∧
        ∀ i, referenceFromEndpoint context.identity.values.workspaceIdentity context (read i)
          ⟨.workItem, ref⟩ ≠ .error (.valueError "write_reference_unavailable")) ∧
      (materialize context.identity.values.workspaceIdentity context attempt read revalidate =
          .error (.valueError "write_reference_unavailable") →
        OtherwiseUnavailable context read revalidate a b)

omit [PythonLibrary] in
theorem mapped_eq_error {α β : Type} {f : α → β} {x : Py α} {e : Raised} :
    f <$> x = .error e ↔ x = .error e := by
  cases x with
  | error e' => simp [Functor.map, Except.map]
  | ok a => simp [Functor.map, Except.map]

theorem executes_of_operands {items : List Value} (h : ExecutableOperations context items refs)
    (hitems : ∀ ref ∈ refs, ∃ item ∈ context.items, Dict.get item "client_ref" = .str ref)
    {k : Nat} {attempt : OperationAttemptState}
    (hoperation : context.expectedOperations[k]? = some attempt.operation)
    (hkind : attempt.operation.operationKind ≠ "create_issue") {read : Nat → Tables}
    (hreceipts : ∀ i, ReceiptedBefore context (read i) k) (revalidate : String → Py Unit) :
    Executes context k attempt read revalidate := by
  have hk : refs.length ≤ k := h.creates.le_index hoperation hkind
  have hknown := h.operands attempt.operation (List.mem_of_getElem? hoperation) hkind
  have hbefore : ∀ ref ∈ refs, CreatedBefore context.expectedOperations k ref := fun ref href =>
    createdBefore_of_creates h.creates hoperation hkind href
  constructor
  · intro hversion
    obtain ⟨a, b, hpair, ha, hb⟩ := hknown.untagged hversion
    constructor
    · intro ref href
      rw [hpair] at href
      rcases List.mem_pair.mp href with rfl | rfl
      · exact hbefore _ ha
      · exact hbefore _ hb
    · intro hraised
      rw [materialize, if_neg hkind, if_pos hknown.kind, if_neg hversion, mapped_eq_error,
        hpair] at hraised
      exact materializeUntagged_available h.creates hk hreceipts hitems ha hb hraised
  · intro hversion
    obtain ⟨a, b, hpair, ha, hb⟩ := hknown.tagged hversion
    refine ⟨a, b, hpair, ?_, ?_⟩
    · intro ref hmem
      have href : ref ∈ refs := by
        rcases List.mem_pair.mp hmem with heq | heq
        · rw [← heq] at ha
          exact ha rfl
        · rw [← heq] at hb
          exact hb rfl
      exact ⟨hbefore ref href, fun i =>
        referenceFromReceipt_available h.creates hk (hreceipts i) href⟩
    · intro hraised
      rw [materialize, if_neg hkind, if_pos hknown.kind, if_pos hversion, mapped_eq_error,
        hpair] at hraised
      exact materializeTagged_unavailable h.creates hk hreceipts ha hb hraised

/-- An eligible sequence is executable in order: a relationship refers to items
that one earlier operation creates and to issues that one binding names, and
with the earlier creations receipted no work item is missing. -/
theorem eligible_sequence_executable :
    (∀ {intents : Value} {items : List Value} {semantic : Dict}
        {e : WriteOperationEvaluation WriteOperation},
      evaluateWriteOperations intents items semantic = .ok e → e.eligible = true →
      ∀ k operation, e.operations[k]? = some operation →
        operation.operationKind ≠ "create_issue" →
        ∀ ref ∈ operation.clientRefs, CreatedBefore e.operations k ref) ∧
    (∀ {intents : Value} {items bindings records : List Value} {semantic : Dict}
        {e : WriteOperationEvaluation WriteOperationV2},
      evaluateWriteOperationsV2 intents items semantic bindings records = .ok e →
      e.eligible = true →
      ∀ k kind first second deps,
        e.operations[k]? = some (.relationship kind first second deps) →
        ∀ endpoint ∈ [first, second],
          (endpoint.endpointType = .workItem →
            CreatedBefore (e.operations.map encodeOperation) k endpoint.ref) ∧
          (endpoint.endpointType = .existingIssue → BoundOnce bindings endpoint.ref)) ∧
    ∀ {authority : ApplicationAuthority} {canonical : Dict} {context : ExecutionContext}
        {items : List Value},
      createExecutionContext authority (.dict canonical) = .ok context →
      getOr canonical "items" (.list []) = .list items → EvaluatedOver canonical items →
      ∀ k (attempt : OperationAttemptState),
        context.expectedOperations[k]? = some attempt.operation →
        attempt.operation.operationKind ≠ "create_issue" →
        ∀ (read : Nat → Tables) (revalidate : String → Py Unit),
          (∀ i, ReceiptedBefore context (read i) k) →
          Executes context k attempt read revalidate := by
  refine ⟨?_, ?_, ?_⟩
  · intro intents items semantic e hevaluated heligible k operation hoperation hkind ref href
    obtain ⟨refs, -, hcreates, hknown⟩ := eligible_creates hevaluated heligible
    have hmem := hknown operation (List.mem_of_getElem? hoperation) ref href
    exact createdBefore_of_creates hcreates hoperation hkind hmem
  · intro intents items bindings records semantic e hevaluated heligible k kind first second deps
      hoperation endpoint hendpoint
    obtain ⟨refs, existing, -, hexisting, hcreates, hknown⟩ :=
      eligible_createsV2 hevaluated heligible
    have hoperands := hknown kind first second deps (List.mem_of_getElem? hoperation)
    have hendpointKnown : EndpointKnown refs existing endpoint := by
      rcases List.mem_pair.mp hendpoint with rfl | rfl
      · exact hoperands.1
      · exact hoperands.2
    have hencoded : (e.operations.map encodeOperation)[k]? =
        some (encodeOperation (.relationship kind first second deps)) := by
      rw [List.getElem?_map, hoperation, Option.map_some]
    constructor
    · intro htype
      exact createdBefore_of_creates hcreates hencoded (operationKind_ne_create kind)
        (hendpointKnown.1 htype)
    · intro htype
      exact boundOnce_of_mem hexisting (hendpointKnown.2 htype)
  · intro authority canonical context items hcreated hlist hevaluated k attempt hoperation hkind
      read revalidate hreceipts
    obtain ⟨hoperations, hversion, -, -⟩ := createExecutionContext_spec hcreated
    obtain ⟨refs, hexecutable⟩ := evaluated_executable hevaluated hoperations hversion
    obtain ⟨entries, hentries, hsealed⟩ := sealedItems_spec (createExecutionContext_items hcreated)
    obtain rfl : items = entries := Value.list.inj (hlist.symm.trans hentries)
    exact executes_of_operands hexecutable
      (fun ref href => hsealed ref (hexecutable.listed ref href)) hoperation hkind hreceipts
      revalidate

/-! ## A relationship between an existing issue and a created one -/

theorem storedParent_receipted {resultIdentity : String} (h : StoredParent resultIdentity t) :
    ReceiptedBefore parentContext t 1 := by
  intro i hi ref hat
  obtain rfl : i = 0 := by omega
  obtain rfl : "A" = ref := by
    have hsame : createOperation "A" = createOperation ref := Option.some.inj hat
    simpa [createOperation] using hsame
  obtain ⟨r, hr, -⟩ := h.receipt
  rw [createReceipt_eq_some parentContext_shape.creates le_rfl h.stored] at hr
  exact ⟨r, hr.2⟩

theorem parentPreview_evaluated : EvaluatedOver parentPreview
    [.dict [("client_ref", .str "A"), ("item_id", .str "item-1")]] := by
  have hevaluated : evaluateWriteOperationsV2 parentIntentsV2
      [.dict [("client_ref", .str "A"), ("item_id", .str "item-1")]] parentPayloadV2
      [existingBinding] [] = .ok (evaluation (expectedOperationsV2 ["A"]
        [⟨.plannedParent, ⟨.existingIssue, "E1"⟩, ⟨.workItem, "A"⟩⟩]) []) := rfl
  exact .v2 rfl hevaluated rfl

end

theorem parent_sequence_executable : ∃ (_ : PythonLibrary) (attempt : OperationAttemptState)
    (t : Tables), attempt.operation = parentOperation ∧ ReceiptedBefore parentContext t 1 ∧
      Executes parentContext 1 attempt (fun _ => t) (fun _ => .ok ()) := by
  let library := ReferenceLibrary.referenceLibrary
  have hplace : parentContext.expectedOperations[1]? = some parentOperation := rfl
  obtain ⟨attempt, hattempt⟩ := newAttempt_ok hplace 20
  have hoperation : attempt.operation = parentOperation := by
    have hmade := (newAttempt_spec hattempt).operation
    exact Option.some.inj hmade.symm
  obtain ⟨t, ht⟩ := storedParent_exists "1001" (by decide)
  have hreceipts := storedParent_receipted ht
  have hexecutes := eligible_sequence_executable.2.2 parentPreview_approved.created rfl
    parentPreview_evaluated 1 attempt (hoperation ▸ hplace) (hoperation ▸ by decide)
    (fun _ => t) (fun _ => .ok ()) fun _ => hreceipts
  exact ⟨library, attempt, t, hoperation, hreceipts, hexecutes⟩

end DeliverySystem.ExecutableSequences

import DeliverySystem.RecordedOperands

/-!
# Preparing the command of a claim

Between its claim and the call a run validates the claim, renders the item or
resolves the two operands, and makes a command. For a write-eligible Preview
whose stored parts have the shape they were saved with, all that can go wrong
there is a `ValueError`, and a command that is made fits its operation.
-/
namespace DeliverySystem.ClaimPreparation
open PythonValues WriteOperations ApplicationIdentity ExecutionRecords ExecutionContexts
open KeyedRows ExecutionStore ExecutionTransactions ExecutionInvariant ApplicationStatus
open IssueCommands Applier SequentialLedger ApplierLedger DispatchHistory
open OperandAgreement WriteOperationRepeats RecordedOperands
set_option autoImplicit false

section
variable [PythonLibrary]
variable {operations : SealedOperations} {identity : LogicalApplicationIdentity}
variable {context : ExecutionContext} {t : Tables}

/-! ## What saving a Preview leaves to its contexts -/

/-- The sealed endpoint bindings and the issue records of the sealed snapshot
are mappings. -/
structure SealedMappings (context : ExecutionContext) : Prop where
  bindings : ∀ value ∈ context.existingEndpointBindings, value.mapping?.isSome
  records : ∀ snapshot, context.remoteSnapshot.mapping? = some snapshot →
    ∃ records, getOr snapshot "issue_records" (.list []) = .list records ∧
      ∀ value ∈ records, value.mapping?.isSome

/-- The operations of a context, over the items that it may create. -/
structure ExecutableShape (context : ExecutionContext) (refs : List String) : Prop where
  shape : EligibleShape context refs
  items : ∀ ref ∈ refs, ∃ item ∈ context.items, Dict.get item "client_ref" = .str ref

/-- The operations were evaluated over these items, and are write-eligible. -/
inductive EvaluatedOver (canonical : Dict) (items : List Value) : Prop
  | v1 {semantic : Dict} {e : WriteOperationEvaluation WriteOperation}
      (version : Dict.get canonical "canonical_version" ≠ .str "2")
      (evaluated : evaluateWriteOperations (Dict.get canonical "operation_intents") items semantic =
        .ok e)
      (eligible : e.eligible = true)
  | v2 {bindings records : List Value} {semantic : Dict}
      {e : WriteOperationEvaluation WriteOperationV2}
      (version : Dict.get canonical "canonical_version" = .str "2")
      (evaluated : evaluateWriteOperationsV2 (Dict.get canonical "operation_intents") items semantic
        bindings records = .ok e)
      (eligible : e.eligible = true)

/-- A context of a write-eligible Preview whose stored parts were validated when
it was saved. -/
structure ExecutablePreview (authority : ApplicationAuthority) (canonical : Dict)
    (context : ExecutionContext) : Prop extends ApprovedPreview authority canonical context where
  mappings : SealedMappings context
  evaluated : ∀ items, getOr canonical "items" (.list []) = .list items →
    EvaluatedOver canonical items

theorem createExecutionContext_items {authority : ApplicationAuthority} {canonical : Dict}
    (h : createExecutionContext authority (.dict canonical) = .ok context) :
    sealedItems canonical = .ok context.items := by
  simp only [createExecutionContext, bind_eq_ok, orRaise_eq_ok, raiseIf_eq_ok, pure_eq_ok,
    Value.mapping?, Option.some.injEq] at h
  obtain ⟨_, rfl, _, -, _, -, _, -, _, -, _, -, items, hitems, _, -, rfl⟩ := h
  exact hitems

omit [PythonLibrary] in
/-- The sealed index names the references of the approved items. -/
theorem sealedItems_spec {canonical : Dict} {items : List Dict}
    (h : sealedItems canonical = .ok items) :
    ∃ entries, getOr canonical "items" (.list []) = .list entries ∧
      ∀ ref : String, .str ref ∈ readEach entries "client_ref" →
        ∃ item ∈ items, Dict.get item "client_ref" = .str ref := by
  simp only [sealedItems, bind_eq_ok, orRaise_eq_ok, raiseIf_eq_ok, pure_eq_ok, not_not] at h
  obtain ⟨made, -, refs, hrefs, entries, hentries, sealed, hsealed, _, hindex, _, -, rfl⟩ := h
  have hlist : getOr canonical "items" (.list []) = .list entries := by
    cases hvalue : getOr canonical "items" (.list []) <;> simp [hvalue, Value.list?] at hentries
    rw [hentries]
  refine ⟨entries, hlist, fun ref href => ?_⟩
  have hread : readEach entries "client_ref" = sealed.map (Dict.get · "client_ref") := by
    clear hlist hentries hindex href
    induction entries generalizing sealed with
    | nil =>
        simp only [List.mapM_nil, Option.pure_def, Option.some.injEq] at hsealed
        simp [← hsealed, readEach]
    | cons entry entries ih =>
        simp only [List.mapM_cons, Option.pure_def, Option.bind_eq_bind, Option.bind_eq_some_iff,
          Option.some.injEq] at hsealed
        obtain ⟨d, hd, rest, hrest, rfl⟩ := hsealed
        have htail := ih rest hrest
        simp only [readEach] at htail ⊢
        simp [hd, htail]
  rw [hread, hindex, List.mem_map] at href
  obtain ⟨name, hname, hsame⟩ := href
  obtain rfl : name = ref := by simpa using hsame
  obtain ⟨item, hitem, heq⟩ := List.mem_map.mp ((mem_distinctTexts hrefs name).mpr hname)
  exact ⟨item, hitem, heq⟩

/-- A creation of evaluated operations is one of a listed item. -/
theorem EvaluatedOver.listed {canonical : Dict} {items : List Value}
    (h : EvaluatedOver canonical items)
    (hoperations : executionOperations canonical = .ok context.expectedOperations) {ref : String}
    (href : createOperation ref ∈ context.expectedOperations) :
    .str ref ∈ readEach items "client_ref" := by
  have hinj : Function.Injective createOperation := fun a b hab => by
    simpa [createOperation] using hab
  cases h with
  | v1 version evaluated eligible =>
      obtain ⟨hnull, hnormalized⟩ := evaluated_intents evaluated
      obtain ⟨refs, planned, hrefs, -, hexpected⟩ := eligible_expected evaluated eligible
      rw [executionOperations, if_neg version, getOr_intents hnull, hnormalized,
        Except.ok.injEq] at hoperations
      rw [← hoperations, hexpected, expectedOperations, List.mem_append,
        List.mem_map_of_injective hinj] at href
      rcases href with href | href
      · exact ((itemRefs_spec hrefs).2 ref).mpr href
      · obtain ⟨p, -, hp⟩ := List.mem_map.mp href
        exact absurd (congrArg WriteOperation.operationKind hp) (operationKind_ne_create p.kind)
  | v2 version evaluated eligible =>
      obtain ⟨hnull, hnormalized⟩ := evaluated_intentsV2 evaluated
      obtain ⟨refs, planned, hrefs, -, hexpected⟩ := eligible_expectedV2 evaluated eligible
      rw [executionOperations, if_pos version, getOr_intents hnull, hnormalized, hexpected]
        at hoperations
      rw [← Except.ok.inj hoperations, expectedOperationsV2, List.map_append, List.map_map,
        List.map_map, List.mem_append] at href
      rcases href with href | href
      · obtain ⟨name, hname, heq⟩ := List.mem_map.mp href
        obtain rfl : name = ref := hinj heq
        exact ((itemRefsV2_spec hrefs).2 name).mpr hname
      · obtain ⟨p, -, hp⟩ := List.mem_map.mp href
        exact absurd (congrArg WriteOperation.operationKind hp) (operationKind_ne_create p.kind)

theorem ExecutablePreview.executable {authority : ApplicationAuthority} {canonical : Dict}
    (h : ExecutablePreview authority canonical context) : ∃ refs, ExecutableShape context refs := by
  obtain ⟨refs, hshape⟩ := h.shape
  refine ⟨refs, hshape, fun ref href => ?_⟩
  have hoperations := (createExecutionContext_spec h.created).1
  obtain ⟨entries, hentries, hlisted⟩ := sealedItems_spec (createExecutionContext_items h.created)
  obtain ⟨relationships, hall, -⟩ := hshape.creates.rest
  have hmem : createOperation ref ∈ context.expectedOperations := by
    rw [hall]
    exact List.mem_append_left _ (List.mem_map_of_mem href)
  exact hlisted ref ((h.evaluated entries hentries).listed hoperations hmem)

/-! ## Stored receipts -/

/-- Every stored receipt of a run carries a result that was trusted. -/
theorem reachable_receipt_trusted {c : Config} (h : Applier.Reachable operations identity c)
    {id : String} {r : OperationReceipt} (hrow : c.tables.operationReceipts.lookup id = some r) :
    ∃ made attempt observation, ContextOf operations identity made ∧
      trustedSuccessResult made attempt observation = .ok r.remoteResult := by
  obtain ⟨l, hl, hrep⟩ := reachable_represents h
  cases hs : c.tables.execution with
  | none =>
      have hempty := hrep.invariant
      unfold ExecutionInvariant.Invariant at hempty
      rw [hs] at hempty
      simp [hempty, Tables.empty, Rows.lookup_empty] at hrow
  | some s =>
      obtain ⟨receipts, closed, opened, hp⟩ := hrep.invariant.progress hs
      rw [Rows.lookup_eq_some_iff, hp.receiptEntries, receiptRows] at hrow
      obtain ⟨stored, hmem, hpair⟩ := List.mem_map.mp hrow
      obtain ⟨-, rfl⟩ := Prod.mk.inj hpair
      obtain ⟨i, hi, hat⟩ := List.mem_iff_getElem.mp hmem
      have hfinished : l.finished[i]? = some stored.remoteResult := by
        rw [hrep.finished, hp.receiptEntries, receiptRows, List.map_map, List.getElem?_map,
          List.getElem?_eq_getElem hi, hat]
        rfl
      obtain ⟨outcome, remote, hremote, made, attempt, observation, hmade, -, -, -, -, htrusted⟩ :=
        hl.finished_accepted (List.getElem?_eq_some_iff.mp hfinished).1
      obtain rfl : stored.remoteResult = remote := Option.some.inj (hfinished.symm.trans hremote)
      exact ⟨made, attempt, observation, hmade, htrusted⟩

/-- A stored result of a creation has all the fields of one. -/
def StoredCreations (t : Tables) : Prop :=
  ∀ id r, t.operationReceipts.lookup id = some r →
    r.remoteResult.resultKind = "github.create_issue.v1" →
      Dict.hasExactly r.remoteResult.resultPayload createdPayloadFields = true

omit [PythonLibrary] in
theorem resultKind_create {kind : String}
    (h : "github." ++ kind ++ ".v1" = "github.create_issue.v1") : kind = "create_issue" := by
  have hlist : "github.".toList ++ kind.toList ++ ".v1".toList =
      "github.".toList ++ "create_issue".toList ++ ".v1".toList := by
    have htext := congrArg String.toList h
    rw [String.toList_append, String.toList_append] at htext
    exact htext
  exact String.toList_inj.mp (List.append_cancel_left (List.append_cancel_right hlist))

theorem reachable_storedCreations {c : Config} (h : Applier.Reachable operations identity c) :
    StoredCreations c.tables := by
  intro id r hrow hkind
  obtain ⟨made, attempt, observation, -, htrusted⟩ := reachable_receipt_trusted h hrow
  rw [(trustedSuccessResult_spec htrusted).2.2] at hkind
  have hcreated := trustedSuccessResult_created htrusted (resultKind_create hkind)
  simp only [createdPayload, Bool.and_eq_true] at hcreated
  exact hcreated.1.1.1.1.1

/-! ## What the parts raise -/

theorem normalizeRepositoryIdentity_raises (repository : Value) :
    RaisesValueErrors (normalizeRepositoryIdentity repository) := by
  unfold normalizeRepositoryIdentity
  apply (RaisesValueErrors.orRaise _ _).bind
  intro text _
  split
  · apply (RaisesValueErrors.raiseIf _ _).bind
    intro _ _
    exact .pure _
  · exact .valueError _

theorem makeReference_raises (repository issueNumber numericIssueId nodeId : Value) :
    RaisesValueErrors (RemoteIssueReference.make repository issueNumber numericIssueId nodeId) := by
  unfold RemoteIssueReference.make
  apply (normalizeRepositoryIdentity_raises repository).bind
  intro _ _
  apply (RaisesValueErrors.orRaise _ _).bind
  intro _ _
  apply (RaisesValueErrors.orRaise _ _).bind
  intro _ _
  apply (RaisesValueErrors.orRaise _ _).bind
  intro _ _
  exact .pure _

theorem makeCreate_raises (repository clientRef title body requestIdentity : String) :
    RaisesValueErrors (CreateIssueCommand.make repository clientRef title body requestIdentity) := by
  unfold CreateIssueCommand.make
  apply (normalizeRepositoryIdentity_raises _).bind
  intro _ _
  apply (RaisesValueErrors.raiseIf _ _).bind
  intro _ _
  exact .pure _

theorem makeRelationship_raises (repository : String) (first second : RemoteIssueReference) :
    RaisesValueErrors (RelationshipCommand.make repository first second) := by
  unfold RelationshipCommand.make
  apply (normalizeRepositoryIdentity_raises _).bind
  intro _ _
  apply (RaisesValueErrors.raiseIf _ _).bind
  intro _ _
  exact .pure _

omit [PythonLibrary] in
theorem source_raises (item : Dict) (field : String) : RaisesValueErrors (source item field) := by
  unfold source
  apply (RaisesValueErrors.orRaise _ _).bind
  intro value _
  apply (RaisesValueErrors.raiseIf _ _).bind
  intro _ _
  apply (RaisesValueErrors.raiseIf _ _).bind
  intro _ _
  exact .pure _

theorem renderCreateIssue_raises (item : Dict) : RaisesValueErrors (renderCreateIssue item) := by
  unfold renderCreateIssue
  apply (RaisesValueErrors.orRaise _ _).bind
  intro clientRef _
  iterate 10
    apply (source_raises item _).bind
    intro _ _
  apply (RaisesValueErrors.orRaise _ _).bind
  intro _ _
  apply (RaisesValueErrors.raiseIf _ _).bind
  intro _ _
  apply (RaisesValueErrors.raiseIf _ _).bind
  intro _ _
  exact .pure _

theorem getOperationReceipt_raises (workspace applicationId id : String) (t : Tables) :
    RaisesValueErrors (getOperationReceipt workspace applicationId id t) := by
  unfold getOperationReceipt
  apply (RaisesValueErrors.orRaise _ _).bind
  intro _ _
  iterate 3
    apply (RaisesValueErrors.raiseIf _ _).bind
    intro _ _
  exact .pure _

/-! ## Operands -/

/-- The fields of a stored creation are there when the reference reads them. -/
theorem referenceFromReceipt_raises (h : StoredCreations t) (workspace clientRef : String) :
    RaisesValueErrors (referenceFromReceipt workspace context t clientRef) := by
  unfold referenceFromReceipt
  apply (RaisesValueErrors.orRaise _ _).bind
  rintro ⟨operation, index⟩ -
  apply (getOperationReceipt_raises _ _ _ _).bind
  intro r hr
  apply (RaisesValueErrors.raiseIf _ _).bind
  intro _ hkind
  rw [raiseIf_eq_ok, not_or, not_not] at hkind
  have hfields := h _ r (getOperationReceipt_eq_ok.mp hr).1 hkind.1
  have hrequire : ∀ key ∈ createdPayloadFields,
      RaisesValueErrors (Dict.require r.remoteResult.resultPayload key) := by
    intro key hkey
    rw [require_of_created hfields hkey]
    exact .pure _
  apply (hrequire _ (by decide)).bind
  intro _ _
  apply (hrequire _ (by decide)).bind
  intro _ _
  apply (hrequire _ (by decide)).bind
  intro _ _
  apply (hrequire _ (by decide)).bind
  intro _ _
  exact makeReference_raises _ _ _ _

omit [PythonLibrary] in
theorem firstEntry_raises (key : String) (wanted : Value) {entries : List Value}
    (h : ∀ value ∈ entries, value.mapping?.isSome) :
    RaisesValueErrors (firstEntry key wanted entries) := by
  induction entries with
  | nil => exact .pure none
  | cons value rest ih =>
      obtain ⟨d, hd⟩ := Option.isSome_iff_exists.mp (h value List.mem_cons_self)
      cases value <;> simp only [Value.mapping?, reduceCtorEq] at hd
      unfold firstEntry
      split_ifs
      · exact .pure _
      · exact ih fun v hv => h v (List.mem_cons_of_mem _ hv)

theorem referenceFromExistingBinding_raises (h : SealedMappings context) (endpointRef : String) :
    RaisesValueErrors (referenceFromExistingBinding context endpointRef) := by
  unfold referenceFromExistingBinding
  apply (RaisesValueErrors.raiseIf _ _).bind
  intro _ _
  apply (firstEntry_raises _ _ h.bindings).bind
  intro _ _
  apply (RaisesValueErrors.orRaise _ _).bind
  intro binding _
  apply (RaisesValueErrors.orRaise _ _).bind
  intro snapshot hsnapshot
  obtain ⟨records, hrecords, hmappings⟩ := h.records snapshot (orRaise_eq_ok.mp hsnapshot)
  have hiterate : Value.iterate (getOr snapshot "issue_records" (.list [])) = .ok records := by
    rw [hrecords]
    rfl
  rw [hiterate]
  apply (RaisesValueErrors.pure records).bind
  intro entries hentries
  obtain rfl := pure_eq_ok.mp hentries
  apply (firstEntry_raises _ _ hmappings).bind
  intro _ _
  apply (RaisesValueErrors.orRaise _ _).bind
  intro _ _
  apply (RaisesValueErrors.raiseIf _ _).bind
  intro _ _
  apply (RaisesValueErrors.raiseIf _ _).bind
  intro _ _
  dsimp only
  split
  · exact .valueError _
  · exact .pure _

theorem referenceFromEndpoint_raises (hstored : StoredCreations t) (h : SealedMappings context)
    (workspace : String) (endpoint : Endpoint) :
    RaisesValueErrors (referenceFromEndpoint workspace context t endpoint) := by
  unfold referenceFromEndpoint
  split
  · exact referenceFromReceipt_raises hstored _ _
  · exact referenceFromExistingBinding_raises h _

omit [PythonLibrary] in
/-- Two operands were asked for, so there is a first and a second. -/
theorem firstTwo_raises {α operand : Type} {f : operand → Py α} {xs : List operand} {ys : List α}
    (h : xs.mapM f = .ok ys) (hlength : xs.length = 2) : RaisesValueErrors (firstTwo ys) := by
  have hys : ys.length = 2 := (mapM_eq_ok.mp h).length_eq.symm.trans hlength
  unfold firstTwo
  apply (RaisesValueErrors.of_isSome (by simp [hys]) _).bind
  intro _ _
  apply (RaisesValueErrors.of_isSome (by simp [hys]) _).bind
  intro _ _
  exact .pure _

theorem materializeTagged_raises (hstored : StoredCreations t) (h : SealedMappings context)
    {revalidate : String → Py Unit} (hrevalidate : ∀ ref, RaisesValueErrors (revalidate ref))
    (workspace a b : String) :
    RaisesValueErrors (materializeTagged workspace context [a, b] (fun _ => t) revalidate) := by
  unfold materializeTagged
  apply (RaisesValueErrors.orRaise _ _).bind
  intro endpoints hendpoints
  have hlength : endpoints.length = 2 := by
    have hsome := orRaise_eq_ok.mp hendpoints
    simp only [List.mapM_cons, List.mapM_nil, Option.pure_def, Option.bind_eq_bind,
      Option.bind_eq_some_iff, Option.some.injEq] at hsome
    obtain ⟨first, -, rest, ⟨second, -, tail, rfl, rfl⟩, rfl⟩ := hsome
    rfl
  apply (RaisesValueErrors.mapM fun entry _ =>
    referenceFromEndpoint_raises hstored h workspace entry.1).bind
  intro references hreferences
  apply (firstTwo_raises hreferences (by simpa using hlength)).bind
  rintro ⟨first, second⟩ -
  apply (RaisesValueErrors.raiseIf _ _).bind
  intro _ _
  apply (RaisesValueErrors.forM fun ref _ => hrevalidate ref).bind
  intro _ _
  exact makeRelationship_raises _ _ _

theorem materializeUntagged_raises (hstored : StoredCreations t) (workspace a b : String) :
    RaisesValueErrors (materializeUntagged workspace context [a, b] (fun _ => t)) := by
  unfold materializeUntagged
  apply (RaisesValueErrors.raiseIf _ _).bind
  intro _ _
  apply (RaisesValueErrors.mapM fun entry _ =>
    referenceFromReceipt_raises hstored workspace entry.1).bind
  intro references hreferences
  apply (firstTwo_raises hreferences rfl).bind
  rintro ⟨first, second⟩ -
  exact makeRelationship_raises _ _ _

/-! ## The command -/

theorem ExecutableShape.create {refs : List String} (h : ExecutableShape context refs)
    {operation : WriteOperation} (hmem : operation ∈ context.expectedOperations)
    (hkind : operation.operationKind = "create_issue") :
    ∃ ref ∈ refs, operation.clientRefs = [ref] := by
  obtain ⟨relationships, hall, hkinds⟩ := h.shape.creates.rest
  rw [hall, List.mem_append] at hmem
  rcases hmem with hmem | hmem
  · obtain ⟨ref, href, rfl⟩ := List.mem_map.mp hmem
    exact ⟨ref, href, rfl⟩
  · exact absurd hkind (hkinds operation hmem)

/-- Making the command of an operation of the Preview raises only `ValueError`s. -/
theorem materialize_raises {refs : List String} (hshape : ExecutableShape context refs)
    (hmappings : SealedMappings context) (hstored : StoredCreations t)
    {attempt : OperationAttemptState} (hmem : attempt.operation ∈ context.expectedOperations)
    {revalidate : String → Py Unit} (hrevalidate : ∀ ref, RaisesValueErrors (revalidate ref))
    (workspace : String) :
    RaisesValueErrors (materialize workspace context attempt (fun _ => t) revalidate) := by
  unfold materialize
  dsimp only
  split_ifs with hkind hrelationship hversion
  · obtain ⟨ref, href, hrefs⟩ := hshape.create hmem hkind
    obtain ⟨item, hitem, hname⟩ := hshape.items ref href
    apply (RaisesValueErrors.of_isSome (by simp [hrefs]) _).bind
    intro found hfound
    obtain rfl : ref = found := by simpa [hrefs] using hfound
    have hfind : (context.items.reverse.find? fun item =>
        decide (Dict.get item "client_ref" = .str ref)).isSome := by
      rw [List.find?_isSome]
      exact ⟨item, List.mem_reverse.mpr hitem, by simpa using hname⟩
    apply (RaisesValueErrors.of_isSome hfind _).bind
    intro item _
    apply (renderCreateIssue_raises item).bind
    rintro ⟨title, body⟩ -
    exact (makeCreate_raises _ _ _ _ _).map _
  · obtain ⟨-, a, b, hrefs, -⟩ := hshape.shape.relationship _ hmem hkind
    rw [hrefs]
    exact (materializeTagged_raises hstored hmappings hrevalidate _ _ _).map _
  · obtain ⟨-, a, b, hrefs, -⟩ := hshape.shape.relationship _ hmem hkind
    rw [hrefs]
    exact (materializeUntagged_raises hstored _ _ _).map _
  · exact .valueError _

theorem getAttempt_raises (workspace applicationId id : String) (t : Tables) :
    RaisesValueErrors (getAttempt workspace applicationId id t) := by
  unfold getAttempt
  apply (RaisesValueErrors.orRaise _ _).bind
  intro _ _
  iterate 3
    apply (RaisesValueErrors.raiseIf _ _).bind
    intro _ _
  exact .pure _

/-- An execution that is read without its operations is not replayed. -/
theorem getExecution_raises (workspace applicationId : String) (read : Schedule) :
    RaisesValueErrors (getExecution workspace applicationId read none) := by
  unfold getExecution loadExecutionState
  apply RaisesValueErrors.bind
  · apply (RaisesValueErrors.orRaise _ _).bind
    intro _ _
    apply (RaisesValueErrors.raiseIf _ _).bind
    intro _ _
    apply (RaisesValueErrors.raiseIf _ _).bind
    intro _ _
    exact .pure _
  · intro state _
    split_ifs
    · exact .valueError _
    · exact .pure _

theorem validateClaim_raises (env : Environment) (claim : Claim) :
    RaisesValueErrors (validateClaim env claim) := by
  unfold validateClaim requireOrchestrationCapability validateExecutionContext requireManaged
  apply (RaisesValueErrors.raiseIf _ _).bind
  intro _ _
  apply (RaisesValueErrors.raiseIf _ _).bind
  intro _ _
  apply (getExecution_raises _ _ _).bind
  intro _ _
  apply (getAttempt_raises _ _ _ _).bind
  intro _ _
  apply (RaisesValueErrors.raiseIf _ _).bind
  intro _ _
  exact .raiseIf _ _

/-- Before the call a run raises only `ValueError`s. -/
theorem prepare_raises {env : Environment} {claim : Claim} {refs : List String}
    (hshape : ExecutableShape claim.context refs) (hmappings : SealedMappings claim.context)
    (hstored : StoredCreations t) (hread : env.operandRead = fun _ => t)
    (hmem : claim.attempt.operation ∈ claim.context.expectedOperations)
    (hrevalidate : ∀ ref, RaisesValueErrors (env.revalidate ref)) :
    RaisesValueErrors (prepare env claim) := by
  unfold prepare
  apply (validateClaim_raises env claim).bind
  intro _ _
  rw [hread]
  exact materialize_raises hshape hmappings hstored hmem hrevalidate _

/-- A command that was made fits the operation and names its repository. -/
inductive Fits (repository kind : String) : IssueCommand → Prop
  | create (command : CreateIssueCommand) (create : kind = "create_issue")
      (normalized : normalizeRepositoryIdentity (.str repository) =
        .ok command.repositoryIdentity) : Fits repository kind (.createIssue command)
  | relationship (command : RelationshipCommand) (create : kind ≠ "create_issue")
      (relates : (relationshipKinds kind).isSome)
      (normalized : normalizeRepositoryIdentity (.str repository) =
        .ok command.repositoryIdentity) : Fits repository kind (.relationship command)

theorem makeCreate_repository {repository clientRef title body requestIdentity : String}
    {command : CreateIssueCommand}
    (h : CreateIssueCommand.make repository clientRef title body requestIdentity = .ok command) :
    normalizeRepositoryIdentity (.str repository) = .ok command.repositoryIdentity := by
  simp only [CreateIssueCommand.make, bind_eq_ok, pure_eq_ok] at h
  obtain ⟨normalized, hnormalized, _, -, rfl⟩ := h
  exact hnormalized

theorem makeRelationship_repository {repository : String} {first second : RemoteIssueReference}
    {command : RelationshipCommand}
    (h : RelationshipCommand.make repository first second = .ok command) :
    normalizeRepositoryIdentity (.str repository) = .ok command.repositoryIdentity := by
  simp only [RelationshipCommand.make, bind_eq_ok, pure_eq_ok] at h
  obtain ⟨normalized, hnormalized, _, -, rfl⟩ := h
  exact hnormalized

theorem materialize_fits {workspace : String} {attempt : OperationAttemptState}
    {read : Nat → Tables} {revalidate : String → Py Unit} {command : IssueCommand}
    (h : materialize workspace context attempt read revalidate = .ok command) :
    Fits context.authority.repositoryIdentity attempt.operation.operationKind command := by
  unfold materialize at h
  dsimp only at h
  split_ifs at h with hkind hrelationship hversion
  · simp only [bind_eq_ok, map_eq_ok] at h
    obtain ⟨ref, -, item, -, ⟨title, body⟩, -, made, hmade, rfl⟩ := h
    exact .create made hkind (makeCreate_repository hmade)
  · obtain ⟨made, hmade, rfl⟩ := map_eq_ok.mp h
    simp only [materializeTagged, bind_eq_ok] at hmade
    obtain ⟨_, -, _, -, ⟨first, second⟩, -, _, -, _, -, hmake⟩ := hmade
    exact .relationship made hkind hrelationship (makeRelationship_repository hmake)
  · obtain ⟨made, hmade, rfl⟩ := map_eq_ok.mp h
    simp only [materializeUntagged, bind_eq_ok] at hmade
    obtain ⟨_, -, _, -, ⟨first, second⟩, -, hmake⟩ := hmade
    exact .relationship made hkind hrelationship (makeRelationship_repository hmake)

theorem prepare_fits {env : Environment} {claim : Claim} {command : IssueCommand}
    (h : prepare env claim = .ok command) :
    Fits claim.context.authority.repositoryIdentity claim.attempt.operation.operationKind
      command := by
  simp only [prepare, bind_eq_ok] at h
  obtain ⟨_, -, hmaterialize⟩ := h
  exact materialize_fits hmaterialize

end
end DeliverySystem.ClaimPreparation

import DeliverySystem.OperandAgreement

/-!
# Operands of recorded operations

In every run the receipts before an operation are receipts that the Applier
stored for them, so what the observer resolves for a relationship can be
compared with the command. The comparison fails for the identity that the
write driver gives to a created issue.
-/
namespace DeliverySystem.RecordedOperands
open PythonValues WriteOperations ApplicationIdentity ExecutionRecords ExecutionContexts
open KeyedRows ExecutionStore ExecutionTransactions ExecutionInvariant ApplicationStatus
open IssueCommands Applier SequentialLedger ApplierLedger PostconditionObservation
open DispatchHistory
open OperandAgreement WriteOperationRepeats
set_option autoImplicit false

section
variable [PythonLibrary]
variable {operations : SealedOperations} {identity : LogicalApplicationIdentity}
variable {context : ExecutionContext} {t : Tables}

/-! ## Receipts of a run -/

/-- The receipts of the finished operations were stored for them. -/
theorem reachable_storedReceipts {c : Config} (h : Applier.Reachable operations identity c)
    (hcontext : ContextOf operations identity context) {s : ApplicationExecutionState}
    (hs : c.tables.execution = some s) :
    StoredReceipts context c.tables s.nextOperationIndex := by
  obtain ⟨l, hl, hrep⟩ := reachable_represents h
  obtain ⟨receipts, closed, opened, hp⟩ := hrep.invariant.progress hs
  have hnamed : s.identity = context.identity := (hrep.named s hs).trans hcontext.identity_eq.symm
  intro i operation r hi hoperation hlookup
  rw [hcontext.sealed, ← hnamed] at hoperation
  obtain ⟨stored, hat, hindex, -, hstored⟩ := hp.receipt_at hi hoperation
  rw [hcontext.identity_eq, hstored, Option.some.injEq] at hlookup
  subst hlookup
  have hrow := hp.receiptRow stored (List.mem_of_getElem? hat)
  have hcanonical := hrow.operation
  rw [hindex, hoperation, Option.some.injEq] at hcanonical
  have hauthority := hrow.authority
  simp only [authorityBindingMatchesExecution, Bool.and_eq_true, decide_eq_true_eq] at hauthority
  -- the evidence of this operation is what its receipt carries
  have hfinished : l.finished[i]? = some stored.remoteResult := by
    rw [hrep.finished, hp.receiptEntries, receiptRows, List.map_map, List.getElem?_map, hat]
    rfl
  obtain ⟨outcome, remote, hremote, made, attempt, observation, hmade, hattempt, -, -, -,
    htrusted⟩ := hl.finished_accepted (List.getElem?_eq_some_iff.mp hfinished).1
  obtain rfl : stored.remoteResult = remote := Option.some.inj (hfinished.symm.trans hremote)
  rw [hrep.named s hs, hattempt, Option.some.injEq] at hoperation
  exact
    { identity := hrow.identity.trans hnamed
      place := hindex
      canonical := hcanonical.symm
      authority := by
        rw [← hnamed]
        exact ⟨hauthority.1.1.1.1.trans s.valid.application, hauthority.1.1.2, hauthority.1.2⟩
      intact := hrow.intact
      kind := hoperation ▸ (trustedSuccessResult_spec htrusted).2.2
      created := by
        intro hkind
        have hcreated := trustedSuccessResult_created htrusted (hoperation ▸ hkind)
        rwa [authority_repository, hmade.identity_eq, ← hcontext.identity_eq] at hcreated }

/-- For a relationship of a write-eligible Preview, the observer resolves the
issues of the command exactly when the references are observable. -/
theorem resolveOperands_iff_observable {authority : ApplicationAuthority} {canonical : Dict}
    (hpreview : ApprovedPreview authority canonical context) {index : Nat}
    {operation : WriteOperation} {attempt : OperationAttemptState}
    {revalidate : String → Py Unit} {command : RelationshipCommand}
    (hstored : StoredReceipts context t index)
    (hoperation : context.expectedOperations[index]? = some operation)
    (hattempt : attempt.operation = operation)
    (hcommand : materialize context.identity.values.workspaceIdentity context attempt (fun _ => t)
      revalidate = .ok (.relationship command)) :
    resolveOperands canonical context.identity context.expectedOperations index operation t =
        .ok (command.first, command.second) ↔ Observable context t operation.clientRefs := by
  obtain ⟨refs, hshape⟩ := hpreview.shape
  obtain ⟨-, hversion, hbindings, hsnapshot⟩ := createExecutionContext_spec hpreview.created
  have hsnapshots : Snapshots canonical context := ⟨hversion, hbindings, hsnapshot⟩
  obtain ⟨hcreate, htagged, huntagged⟩ := materialize_relationship hcommand
  rw [hattempt] at hcreate htagged huntagged
  have hn := hshape.creates.le_index hoperation hcreate
  obtain ⟨hkind, a, b, hrefs, hendpoints⟩ :=
    hshape.relationship operation (List.mem_of_getElem? hoperation) hcreate
  by_cases htwo : context.canonicalVersion = .str "2"
  · obtain ⟨x, y, rfl, rfl⟩ := hendpoints htwo
    exact resolveTaggedCommand_iff hsnapshots hshape hn hstored htwo hkind hrefs (htagged htwo)
  · cases hpreview.eligible with
    | v1 version unbound evaluated eligible =>
        exact resolveUntaggedCommand_iff unbound hshape hn hstored htwo hkind hrefs
          (huntagged htwo)
    | v2 version bound recorded evaluated eligible =>
        exact absurd (hversion.trans version) htwo

/-! ## A V2 Preview with an existing parent -/

def existingRecord : Dict :=
  [("issue_id", .str "I_9"), ("numeric_issue_id", .str "2002"), ("issue_number", .int 9),
    ("repository_identity", .str "acme/widgets"), ("item_type", .str "issue")]

def existingBinding : Value :=
  .dict [("endpoint_ref", .str "E1"), ("issue_id", .str "I_9"),
    ("remote_record_digest", .str (digest (.dict existingRecord)))]

def existingSnapshot : Dict :=
  [("issue_records", .list [.dict existingRecord]), ("relationship_records", .list [])]

def parentPreview : Dict :=
  [("canonical_version", .str "2"), ("operation_set_digest", .str "sha256:operations"),
    ("operation_intents", parentIntentsV2),
    ("existing_endpoint_bindings", .list [existingBinding]),
    ("remote_snapshot", .dict existingSnapshot),
    ("semantic_payload", .dict (("work_items", .list [.dict sampleItem]) :: parentPayloadV2)),
    ("items", .list [.dict [("client_ref", .str "A"), ("item_id", .str "item-1")]])]

def parentOperation : WriteOperation where
  operationKind := "add_sub_issue"
  clientRefs := [endpointText ⟨.existingIssue, "E1"⟩, endpointText ⟨.workItem, "A"⟩]
  dependsOn := []

def parentContext : ExecutionContext :=
  { sampleContext with
    expectedOperations := [createOperation "A", parentOperation]
    canonicalVersion := .str "2"
    existingEndpointBindings := [existingBinding]
    remoteSnapshot := .dict existingSnapshot
    canonical := by decide }

omit [PythonLibrary] in
theorem attach_ok {ε α : Type} {x : Except ε α} {a : α} (h : x = .ok a) :
    attach x = .ok ⟨a, h⟩ := by
  subst h
  rfl

theorem parentPreview_approved : ApprovedPreview sampleAuthority parentPreview parentContext := by
  constructor
  · have hoperations : executionOperations parentPreview = .ok parentContext.expectedOperations :=
      rfl
    simp only [createExecutionContext, bind_eq_ok, orRaise_eq_ok, raiseIf_eq_ok, pure_eq_ok]
    exact ⟨parentPreview, rfl, ⟨_, hoperations⟩, attach_ok hoperations,
      ⟨_, parentContext.identity_eq⟩, attach_ok _, (), not_not.mpr rfl,
      ⟨_, parentContext.anchor_eq⟩, attach_ok _, _, rfl, [sampleItem], rfl,
      ⟨_, parentContext.provenance_eq⟩, attach_ok _, rfl⟩
  · have hevaluated : evaluateWriteOperationsV2 parentIntentsV2 [itemEntry "A"] parentPayloadV2
        [existingBinding] [] = .ok (evaluation (expectedOperationsV2 ["A"]
          [⟨.plannedParent, ⟨.existingIssue, "E1"⟩, ⟨.workItem, "A"⟩⟩]) []) := rfl
    exact .v2 rfl rfl rfl hevaluated rfl

theorem parentContext_shape : EligibleShape parentContext ["A"] where
  creates := ⟨by decide, [parentOperation], rfl, by decide⟩
  relationship := by
    intro operation hmem hkind
    rcases List.mem_pair.mp hmem with rfl | rfl
    · exact absurd rfl hkind
    · exact ⟨by decide, _, _, rfl, fun _ => ⟨_, _, rfl, rfl⟩⟩

/-! ## Its stored creation -/

def createdIssue : Dict :=
  [("repository_identity", .str "acme/widgets"), ("issue_number", .int 7),
    ("numeric_issue_id", .str "1001"), ("node_id", .str "I_1"),
    ("executor_identity", .str writeExecutorIdentity),
    ("contract_version", .str "github-rest-write-v1"), ("response_status", .int 201)]

def createdResult (resultIdentity : String) : RemoteResult where
  resultKind := "github.create_issue.v1"
  resultIdentity := resultIdentity
  resultDigest := digest (.dict createdIssue)
  resultPayload := createdIssue

/-- Tables with the creation of `A` stored under a result identity. -/
structure StoredParent (resultIdentity : String) (t : Tables) : Prop where
  stored : StoredReceipts parentContext t 1
  receipt : ∃ r, createReceipt parentContext t "A" = some r ∧
    r.remoteResult = createdResult resultIdentity

theorem storedParent_exists (resultIdentity : String) (h : resultIdentity ≠ "") :
    ∃ t, StoredParent resultIdentity t := by
  have hkind : "github.create_issue.v1" ≠ "" := by decide
  have hvalid : (createdResult resultIdentity).Valid := ⟨⟨hkind, h, digest_ne_empty _⟩, rfl⟩
  have hoperation : parentContext.expectedOperations[0]? = some (createOperation "A") := rfl
  obtain ⟨r, hreceipt⟩ := newReceipt_ok hoperation hvalid 10 10
  have hr := newReceipt_spec hreceipt
  obtain ⟨rows, hrows⟩ := Rows.insert_isSome r (Rows.lookup_empty
    (operationIdentity parentContext.identity.applicationId 0 (createOperation "A")))
  have hlookup := Rows.lookup_insert hrows
  have hauthority := provenance_fields parentContext
  have hvalues := fromAuthority_values parentContext.identity_eq
  have hstored : StoredReceipts parentContext
      { Tables.empty with operationReceipts := rows } 1 := by
    intro i operation found hi hat hfound
    obtain rfl : i = 0 := by omega
    obtain rfl : createOperation "A" = operation := Option.some.inj (hoperation.symm.trans hat)
    rw [hlookup, if_pos rfl, Option.some.injEq] at hfound
    subst hfound
    exact
      { identity := hr.identity
        place := hr.operationIndex
        canonical := Option.some.inj (hr.operation.symm.trans hoperation)
        authority := by
          rw [hr.authority, hauthority, hvalues]
          exact ⟨rfl, rfl, rfl⟩
        intact := hr.intact
        kind := by
          rw [hr.remoteResult]
          rfl
        created := fun _ => by
          rw [hr.remoteResult]
          rfl }
  refine ⟨_, hstored, r, ?_, hr.remoteResult⟩
  rw [createReceipt_eq_some parentContext_shape.creates le_rfl hstored]
  have hrow : rows.lookup (operationIdentity parentContext.identity.applicationId 0
      (createOperation "A")) = some r := by
    rw [hlookup, if_pos rfl]
  exact ⟨by decide, hrow, hstored 0 _ r Nat.one_pos hoperation hrow⟩

/-- The command that sets issue `9` and the created issue in relation. -/
def parentCommand : RelationshipCommand where
  repositoryIdentity := "acme/widgets"
  first := ⟨"acme/widgets", 9, "2002", "I_9"⟩
  second := ⟨"acme/widgets", 7, "1001", "I_1"⟩

theorem sample_reference (h : SampleText) {number : Int} {numeric node : String} {c d : Char}
    (hnumber : 1 ≤ number) (hnumeric : numeric.toList.head? = some c)
    (hc : c.isWhitespace = false) (hnode : node.toList.head? = some d)
    (hd : d.isWhitespace = false) :
    RemoteIssueReference.make (.str "acme/widgets") (.int number) (.str numeric) (.str node) =
      .ok ⟨"acme/widgets", number, numeric, node⟩ :=
  make_eq_ok.mpr ⟨sample_repository h, positiveInt?_eq_some.mpr ⟨rfl, hnumber⟩,
    presentText?_eq_some.mpr ⟨rfl, h.visible _ c hnumeric hc⟩,
    presentText?_eq_some.mpr ⟨rfl, h.visible _ d hnode hd⟩⟩

/-- The stored creation of `A` is resolved to its issue. -/
theorem parent_created (h : SampleText) {resultIdentity : String} {t : Tables}
    (ht : StoredParent resultIdentity t) :
    referenceFromReceipt parentContext.identity.values.workspaceIdentity parentContext t "A" =
      .ok parentCommand.second := by
  obtain ⟨r, hr, hresult⟩ := ht.receipt
  rw [referenceFromReceipt_eq_ok parentContext_shape.creates le_rfl ht.stored]
  refine ⟨r, hr, ?_⟩
  rw [issueOf, hresult]
  exact sample_reference h (c := '1') (d := 'I') (by decide) rfl rfl rfl rfl

omit [PythonLibrary] in
theorem parentOperation_endpoints : parentOperation.clientRefs.mapM taggedEndpoint? =
    some [⟨.existingIssue, "E1"⟩, ⟨.workItem, "A"⟩] := by
  simp [parentOperation, taggedEndpoint?_eq_some.mpr rfl]

theorem parent_materialized (h : SampleText) {resultIdentity : String} {t : Tables}
    (ht : StoredParent resultIdentity t) :
    ∃ attempt : OperationAttemptState, attempt.operation = parentOperation ∧
      materialize parentContext.identity.values.workspaceIdentity parentContext attempt
        (fun _ => t) (fun _ => .ok ()) = .ok (.relationship parentCommand) := by
  have hplace : parentContext.expectedOperations[1]? = some parentOperation := rfl
  obtain ⟨attempt, hattempt⟩ := newAttempt_ok hplace 20
  have hoperation : attempt.operation = parentOperation := by
    have hmade := (newAttempt_spec hattempt).operation
    exact Option.some.inj hmade.symm
  have hcreated := parent_created h ht
  have hmade : RemoteIssueReference.make (.str "acme/widgets") (.int 9) (.str "2002")
      (.str "I_9") = .ok parentCommand.first :=
    sample_reference h (c := '2') (d := 'I') (by decide) rfl rfl rfl rfl
  have hexisting : referenceFromExistingBinding parentContext "E1" = .ok parentCommand.first := by
    simp only [referenceFromExistingBinding, bind_eq_ok, orRaise_eq_ok, raiseIf_eq_ok]
    refine ⟨(), not_not.mpr rfl, some _, rfl, _, rfl, existingSnapshot, rfl, _, rfl,
      some existingRecord, rfl, existingRecord, rfl, (), not_not.mpr rfl, (), ?_, ?_⟩
    · have hrecord : ¬(Dict.get existingRecord "repository_identity" ≠ .str "acme/widgets" ∨
          Dict.get existingRecord "item_type" ≠ .str "issue") := by decide
      exact hrecord
    · have hread : (do
          let issueNumber ← Dict.require existingRecord "issue_number"
          let numericIssueId ← Dict.require existingRecord "numeric_issue_id"
          let issueId ← Dict.require existingRecord "issue_id"
          RemoteIssueReference.make (.str parentContext.authority.repositoryIdentity) issueNumber
            (.str (Value.toText numericIssueId)) issueId) = .ok parentCommand.first := hmade
      rw [hread]
      rfl
  have hendpoints := parentOperation_endpoints
  have hcommand : RelationshipCommand.make "acme/widgets" parentCommand.first
      parentCommand.second = .ok parentCommand := by
    simp only [RelationshipCommand.make, bind_eq_ok, raiseIf_eq_ok, pure_eq_ok]
    exact ⟨_, sample_repository h, (), by decide, rfl⟩
  have htagged : materializeTagged parentContext.identity.values.workspaceIdentity parentContext
      parentOperation.clientRefs (fun _ => t) (fun _ => .ok ()) = .ok parentCommand := by
    simp only [materializeTagged, hendpoints, bind_eq_ok, orRaise_eq_ok, raiseIf_eq_ok]
    refine ⟨_, rfl, [parentCommand.first, parentCommand.second],
      mapM_eq_ok.mpr (.cons hexisting (.cons hcreated .nil)), _, rfl, (), by decide, (), rfl,
      hcommand⟩
  refine ⟨attempt, hoperation, ?_⟩
  have hversion : parentContext.canonicalVersion = .str "2" := rfl
  simp only [materialize, hoperation, hversion, htagged]
  rfl

theorem parentOperation_tagged (context : ExecutionContext) (t : Tables)
    (hversion : context.canonicalVersion = .str "2") :
    Observable context t parentOperation.clientRefs ↔ CreateObservable context t "A" := by
  have hwork : untagged? "work_item:" (endpointText ⟨.workItem, "A"⟩) = some "A" :=
    untagged?_eq_some.mpr rfl
  have hexisting : untagged? "work_item:" (endpointText ⟨.existingIssue, "E1"⟩) = none := by
    decide
  rw [Observable, if_pos hversion]
  simp [parentOperation, hwork, hexisting]

end

/-- The write driver names the issue it created by the digest of the payload.
The Applier makes the command of the relationship from the stored creation, and
the observer then refuses that creation. -/
theorem resolveOperands_refuses_driver_identity :
    ∃ (_ : PythonLibrary) (t : Tables) (attempt : OperationAttemptState)
      (command : RelationshipCommand),
      ApprovedPreview sampleAuthority parentPreview parentContext ∧
        (∃ r, createReceipt parentContext t "A" = some r ∧
          r.remoteResult.resultIdentity = "github-write-result-" ++
            "8c4b181fac315547321d94c64a9b5fed674ef1cd0d8799a15b9483dbb10e3370") ∧
        StoredReceipts parentContext t 1 ∧
        attempt.operation = parentOperation ∧
        materialize parentContext.identity.values.workspaceIdentity parentContext attempt
          (fun _ => t) (fun _ => .ok ()) = .ok (.relationship command) ∧
        ∀ pair, resolveOperands parentPreview parentContext.identity
          parentContext.expectedOperations 1 parentOperation t ≠ .ok pair := by
  let library := ReferenceLibrary.referenceLibrary
  obtain ⟨t, ht⟩ := storedParent_exists ("github-write-result-" ++
    "8c4b181fac315547321d94c64a9b5fed674ef1cd0d8799a15b9483dbb10e3370")
    (append_ne_empty (by decide))
  obtain ⟨attempt, hattempt, hcommand⟩ := parent_materialized reference_sampleText ht
  obtain ⟨r, hr, hresult⟩ := ht.receipt
  refine ⟨library, t, attempt, parentCommand, parentPreview_approved,
    ⟨r, hr, by rw [hresult]; rfl⟩, ht.stored, hattempt, hcommand, ?_⟩
  intro pair hresolved
  rw [resolveTagged_eq (by decide) rfl (taggedEndpoint?_eq_some.mpr rfl)
    (taggedEndpoint?_eq_some.mpr rfl)] at hresolved
  simp only [bind_eq_ok, mapM_eq_ok] at hresolved
  obtain ⟨resolved, hresolved, -⟩ := hresolved
  obtain _ | ⟨-, _ | ⟨hcreation, _ | _⟩⟩ := hresolved
  have hn : ["A"].length ≤ 1 := le_rfl
  simp only [observedEndpoint, observedCreation_eq_ok parentContext_shape.creates hn ht.stored]
    at hcreation
  obtain ⟨found, hfound, hnames, -⟩ := hcreation
  obtain rfl : r = found := Option.some.inj (hr.symm.trans hfound)
  rw [hresult] at hnames
  exact absurd hnames (by decide)

/-- A creation stored under the identity of its node is found by the observer. -/
theorem resolveOperands_node_identity :
    ∃ (_ : PythonLibrary) (t : Tables), resolveOperands parentPreview parentContext.identity
      parentContext.expectedOperations 1 parentOperation t =
        .ok (parentCommand.first, parentCommand.second) := by
  let library := ReferenceLibrary.referenceLibrary
  obtain ⟨t, ht⟩ := storedParent_exists "github-issue:I_1" (by decide)
  obtain ⟨attempt, hattempt, hcommand⟩ := parent_materialized reference_sampleText ht
  obtain ⟨r, hr, hresult⟩ := ht.receipt
  have hobservable : Observable parentContext t parentOperation.clientRefs := by
    rw [parentOperation_tagged _ _ rfl]
    refine ⟨r, hr, ?_⟩
    rw [hresult]
    decide
  exact ⟨library, t, (resolveOperands_iff_observable parentPreview_approved ht.stored rfl hattempt
    hcommand).mpr hobservable⟩

end DeliverySystem.RecordedOperands

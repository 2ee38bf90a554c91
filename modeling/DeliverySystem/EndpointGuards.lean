import DeliverySystem.ClaimSettlement
import DeliverySystem.EvidenceRoundTrips
import DeliverySystem.RemoteReads
import DeliverySystem.SealedPreviews
import Mathlib.Tactic.IntervalCases

/-!
# The guard before a relationship is written

Before the command of a V2 relationship is made, every existing endpoint is read
again: its issue has to be the sealed one, and the relation must not be there.
The relation that is looked for is the one that the request of the command
inserts, as the read driver orients it.
-/
namespace DeliverySystem.EndpointGuards
open PythonValues CanonicalValues WriteOperations ApplicationIdentity ExecutionRecords
open ExecutionContexts KeyedRows ExecutionStore ExecutionTransactions IssueCommands Applier
open AuditRecords EvidenceRecords RemoteSnapshots RemoteReads SealedPreviews OperandAgreement
open WriteDriver
set_option autoImplicit false

section
variable [PythonLibrary] [UnicodeLibrary] [CasefoldLibrary]

/-! ## The revalidator -/

/-- `_v2_record_from_driver` -/
def v2RecordFromDriver (record : Dict) : Dict :=
  [("issue_id", getOr record "issue_id" (record.get "node_id")),
    ("numeric_issue_id", getOr record "numeric_issue_id" (record.get "numeric_id")),
    ("issue_number", getOr record "issue_number" (record.get "number")),
    ("item_type", record.get "item_type"), ("title", record.get "title"),
    ("body", record.get "body"), ("state", record.get "state"),
    ("updated_at", record.get "updated_at"),
    ("repository_identity", record.get "repository_identity")]

/-- `ExistingEndpointRevalidator`, and how the read for each endpoint ends. -/
structure Revalidator where
  fixedQueryScope : Value
  trustedDriverIdentity : String
  read : String → ReadOutcome

def unavailable : Raised := .valueError "remote_observation_unavailable"

/-- The validated facts of the read for an endpoint. -/
def Revalidator.observe (v : Revalidator) (repository endpointRef : String) :
    Py DriverReadResponse :=
  if v.fixedQueryScope.mapping?.getD [] = [] then .error unavailable
  else
    match validateDriverFacts (v.read endpointRef) repository v.fixedQueryScope
      v.trustedDriverIdentity with
    | .ok response => .ok response
    | .error failures =>
        if failures.any (fun failure => failure.code ∈
          ["repository_identity_mismatch", "requested_repository_mismatch"]) then
          .error (.valueError "existing_endpoint_repository_mismatch")
        else .error unavailable

/-- The issue of an endpoint is the one that was sealed. -/
def checkEndpoint (repository : String) (binding : Dict) (response : DriverReadResponse) :
    Py Unit := do
  let records := ((records? response.issueRecords).getD []).map v2RecordFromDriver
  let record ← orRaise
    (records.find? fun record => Dict.get record "issue_id" = binding.get "issue_id")
    (.valueError "existing_endpoint_not_found")
  raiseIf (Dict.get record "repository_identity" ≠ .str repository ∨
    Dict.get record "item_type" ≠ .str "issue") "existing_endpoint_repository_mismatch"
  let identity ← identityDigest record
  raiseIf (binding.get "identity_digest" ≠ .str identity) "existing_endpoint_identity_mismatch"
  let address ← writeAddressDigest record
  raiseIf (binding.get "write_address_digest" ≠ .str address)
    "existing_endpoint_write_address_invalid"
  let semantic ← semanticDigest record
  raiseIf (binding.get "semantic_digest" ≠ .str semantic) "existing_endpoint_semantic_stale"

def relationKind (operationKind : String) : String :=
  if operationKind = "add_sub_issue" then "existing_parent" else "existing_dependency"

/-- A record of the relation from one issue to another. -/
def relates (operationKind source target : String) (record : Dict) : Bool :=
  record.get "kind" = .str (relationKind operationKind) && record.get "from" = .str source &&
    record.get "to" = .str target

/-- The relation that would be written is not there yet. -/
def checkRelation (operationKind : String) (references : List RemoteIssueReference)
    (response : DriverReadResponse) : Py Unit :=
  if operationKind = "add_sub_issue" ∨ operationKind = "add_dependency" then
    match references with
    | [first, second] =>
        if first.nodeId = second.nodeId then .error unavailable
        else raiseIf (((records? response.relationshipRecords).getD []).any
          (relates operationKind first.nodeId second.nodeId) = true) "relationship_already_exists"
    | _ => .error unavailable
  else .ok ()

/-- `ExistingEndpointRevalidator.__call__` -/
def Revalidator.revalidate (v : Revalidator) (context : ExecutionContext)
    (operationKind : String) (references : List RemoteIssueReference) (endpointRef : String) :
    Py Unit := do
  let binding ← firstEntry "endpoint_ref" (.str endpointRef) context.existingEndpointBindings
  let binding ← orRaise binding (.valueError "existing_endpoint_identity_mismatch")
  let response ← v.observe context.authority.repositoryIdentity endpointRef
  checkEndpoint context.authority.repositoryIdentity binding response
  checkRelation operationKind references response

/-- The references that `_materialize` has resolved when it revalidates. -/
def resolvedReferences (workspace : String) (context : ExecutionContext) (refs : List String)
    (read : Nat → Tables) : Py (List RemoteIssueReference) := do
  let endpoints ← orRaise (refs.mapM taggedEndpoint?) (.valueError "write_reference_unavailable")
  endpoints.zipIdx.mapM fun entry =>
    referenceFromEndpoint workspace context (read entry.2) entry.1

/-- `revalidate_existing_endpoint`, with the kind and the references of the operation. -/
def Revalidator.composed (v : Revalidator) (workspace : String) (context : ExecutionContext)
    (operation : WriteOperation) (read : Nat → Tables) (endpointRef : String) : Py Unit := do
  let references ← resolvedReferences workspace context operation.clientRefs read
  v.revalidate context operation.operationKind references endpointRef

/-! ## What a command was guarded by -/

/-- An issue has what was sealed of it in a binding. -/
structure Sealed (repository : String) (binding record : Dict) : Prop where
  issueId : record.get "issue_id" = binding.get "issue_id"
  issue : record.get "repository_identity" = .str repository ∧
    record.get "item_type" = .str "issue"
  identity : ∃ identity, identityDigest record = .ok identity ∧
    binding.get "identity_digest" = .str identity
  address : ∃ address, writeAddressDigest record = .ok address ∧
    binding.get "write_address_digest" = .str address
  semantic : ∃ semantic, semanticDigest record = .ok semantic ∧
    binding.get "semantic_digest" = .str semantic

/-- The issue of a binding is in the read as it was sealed. -/
def SealedIn (repository : String) (binding : Dict) (response : DriverReadResponse) : Prop :=
  ∃ records, records? response.issueRecords = some records ∧
    ∃ record ∈ records, Sealed repository binding (v2RecordFromDriver record)

theorem checkEndpoint_spec {repository : String} {binding : Dict} {response : DriverReadResponse}
    (h : checkEndpoint repository binding response = .ok ()) :
    SealedIn repository binding response := by
  simp only [checkEndpoint, bind_eq_ok, orRaise_eq_ok, raiseIf_eq_ok, not_or, not_not] at h
  obtain ⟨record, hfound, _, ⟨hrepository, htype⟩, identity, hidentity, _, hsame, address, haddress,
    _, hsame', semantic, hsemantic, hsame''⟩ := h
  have hmem := List.mem_of_find?_eq_some hfound
  have hid := List.find?_some hfound
  cases hrecords : records? response.issueRecords with
  | none => simp [hrecords] at hmem
  | some records =>
      rw [hrecords, Option.getD_some] at hmem
      obtain ⟨raw, hraw, rfl⟩ := List.mem_map.mp hmem
      exact ⟨records, hrecords, raw, hraw, of_decide_eq_true hid, ⟨hrepository, htype⟩,
        ⟨identity, hidentity, hsame⟩, ⟨address, haddress, hsame'⟩, semantic, hsemantic, hsame''⟩

variable {context : ExecutionContext} {workspace : String} {read : Nat → Tables}
variable {command : RelationshipCommand} {refs : List String} {endpoints : List Endpoint}

omit [UnicodeLibrary] [CasefoldLibrary] in
/-- A tagged command holds the resolved references, after every revalidation. -/
theorem materializeTagged_spec {revalidate : String → Py Unit}
    (h : materializeTagged workspace context refs read revalidate = .ok command)
    (hendpoints : refs.mapM taggedEndpoint? = some endpoints) :
    ∃ references, resolvedReferences workspace context refs read = .ok references ∧
      firstTwo references = .ok (command.first, command.second) ∧
      ∀ ref ∈ existingRefs endpoints, revalidate ref = .ok () := by
  simp only [materializeTagged, hendpoints, bind_eq_ok, orRaise_eq_ok, raiseIf_eq_ok,
    Option.some.injEq] at h
  obtain ⟨_, rfl, references, hreferences, ⟨first, second⟩, hpair, _, -, _, hrevalidated,
    hmake⟩ := h
  obtain ⟨hfirst, hsecond, -⟩ := relationshipCommand_eq_ok hmake
  refine ⟨references, ?_, by rw [hfirst, hsecond]; exact hpair, forM_eq_ok.mp hrevalidated⟩
  simp only [resolvedReferences, hendpoints, bind_eq_ok, orRaise_eq_ok, Option.some.injEq]
  exact ⟨endpoints, rfl, hreferences⟩

omit [PythonLibrary] [UnicodeLibrary] [CasefoldLibrary] in
theorem relationshipKinds_cases {operationKind : String}
    (h : relationshipKinds operationKind ≠ none) :
    operationKind = "add_sub_issue" ∨ operationKind = "add_dependency" := by
  unfold relationshipKinds at h
  split at h
  · exact .inl rfl
  · exact .inr rfl
  · exact absurd rfl h

omit [PythonLibrary] [UnicodeLibrary] [CasefoldLibrary] in
theorem checkRelation_spec {operationKind : String} {references : List RemoteIssueReference}
    {response : DriverReadResponse} {first second : RemoteIssueReference}
    (hkind : relationshipKinds operationKind ≠ none)
    (hpair : firstTwo references = .ok (first, second))
    (h : checkRelation operationKind references response = .ok ()) :
    ∀ record ∈ (records? response.relationshipRecords).getD [],
      relates operationKind first.nodeId second.nodeId record = false := by
  unfold checkRelation at h
  rw [if_pos (relationshipKinds_cases hkind)] at h
  split at h
  · rename_i a b
    obtain ⟨rfl, rfl⟩ := firstTwo_pair hpair
    split_ifs at h
    rw [raiseIf_eq_ok, List.any_eq_true, not_exists] at h
    exact fun record hrecord => eq_false_of_ne_true fun hrelates => h record ⟨hrecord, hrelates⟩
  · cases h

/-- A V2 command of a composed service was guarded at each of its existing endpoints. -/
theorem materialize_guarded {v : Revalidator} {attempt : OperationAttemptState}
    (hversion : context.canonicalVersion = .str "2")
    (hendpoints : attempt.operation.clientRefs.mapM taggedEndpoint? = some endpoints)
    (h : materialize workspace context attempt read
      (v.composed workspace context attempt.operation read) = .ok (.relationship command)) :
    ∃ references,
      resolvedReferences workspace context attempt.operation.clientRefs read = .ok references ∧
      firstTwo references = .ok (command.first, command.second) ∧
      ∀ ref ∈ existingRefs endpoints, ∃ binding response,
        firstEntry "endpoint_ref" (.str ref) context.existingEndpointBindings =
          .ok (some binding) ∧
        v.observe context.authority.repositoryIdentity ref = .ok response ∧
        SealedIn context.authority.repositoryIdentity binding response ∧
        ∀ record ∈ (records? response.relationshipRecords).getD [],
          relates attempt.operation.operationKind command.first.nodeId command.second.nodeId
            record = false := by
  obtain ⟨hcreate, htagged, -⟩ := materialize_relationship h
  obtain ⟨references, hreferences, hpair, hrevalidated⟩ :=
    materializeTagged_spec (htagged hversion) hendpoints
  refine ⟨references, hreferences, hpair, fun ref href => ?_⟩
  have hrun := hrevalidated ref href
  simp only [Revalidator.composed, Revalidator.revalidate, hreferences, bind_eq_ok,
    orRaise_eq_ok, Except.ok.injEq] at hrun
  obtain ⟨_, rfl, found, hfound, binding, rfl, response, hobserved, _, hendpoint, hrelation⟩ := hrun
  refine ⟨binding, response, hfound, hobserved, checkEndpoint_spec hendpoint,
    checkRelation_spec (fun hnone => ?_) hpair hrelation⟩
  unfold materialize at h
  dsimp only at h
  rw [if_neg hcreate, if_neg (by simp [hnone])] at h
  cases h

end

/-! ## What the request of a command inserts -/

section
variable [PythonLibrary] [WireLibrary]

/-- The path and the body of the request of a relationship dispatch. -/
def relationshipRequest (endpoint : RelationshipEndpoint) (repository : String)
    (target inserted : RemoteIssueReference) : Py (String × Dict) := do
  let repository ← validateRepository repository
  let number ← safeIssueNumber target.issueNumber
  let id ← safeDecimalId inserted.numericIssueId
  let path ← path repository ("/" ++ toString number ++ endpoint.suffix)
  pure (path, [(endpoint.requestField, .int id)])

/-- The request that is sent for a command of a kind. -/
def commandRequest (operationKind : String) (command : RelationshipCommand) : Py (String × Dict) :=
  if operationKind = "add_sub_issue" then
    relationshipRequest subIssueEndpoint command.repositoryIdentity command.second command.first
  else
    relationshipRequest dependencyEndpoint command.repositoryIdentity command.first command.second

theorem relationshipDispatch_request {endpoint : RelationshipEndpoint} {repository : String}
    {target inserted : RemoteIssueReference} {token : Option String} {exchange : Exchange}
    {observation : WriteObservation}
    (h : relationshipDispatch endpoint repository target inserted token exchange =
      .ok observation) :
    ∃ request result, relationshipRequest endpoint repository target inserted = .ok request ∧
      dispatchRelationship token request.1 request.2 result exchange = .ok observation := by
  simp only [relationshipDispatch, bind_eq_ok] at h
  obtain ⟨validated, hvalidated, number, hnumber, id, hid, made, hmade, h⟩ := h
  refine ⟨(made, [(endpoint.requestField, .int id)]), _, ?_, h⟩
  simp only [relationshipRequest, bind_eq_ok, pure_eq_ok]
  exact ⟨validated, hvalidated, number, hnumber, id, hid, made, hmade, rfl⟩

/-- A relationship is dispatched by sending the request of its command. -/
theorem dispatch_request {operationKind : String} {command : RelationshipCommand}
    {token : Option String} {exchange : Exchange} {observation : WriteObservation}
    (h : WriteDriver.dispatch operationKind (.relationship command) token exchange =
      .ok observation) :
    ∃ request result, commandRequest operationKind command = .ok request ∧
      dispatchRelationship token request.1 request.2 result exchange = .ok observation := by
  unfold WriteDriver.dispatch at h
  unfold commandRequest
  split_ifs at h with hcreate hparent hdependency
  · rw [if_pos hparent]
    exact relationshipDispatch_request h
  · rw [if_neg hparent]
    exact relationshipDispatch_request h

/-- The relation that the remote inserts for a request about two of its issues: the path
names the one by its number, the body the other by its id. -/
inductive Inserts (issues : List IssueFacts) : String × Dict → RemoteRelationshipRecord → Prop
  | subIssue {parent child : IssueFacts} {base : String} {id : Int} (hparent : parent ∈ issues)
      (hchild : child ∈ issues) (hid : child.numericId = toString id) :
      Inserts issues (issuePath base parent.number "/sub_issues", [("sub_issue_id", .int id)])
        (parentRelation child.issueId parent.issueId)
  | blockedBy {dependent prerequisite : IssueFacts} {base : String} {id : Int}
      (hdependent : dependent ∈ issues) (hprerequisite : prerequisite ∈ issues)
      (hid : prerequisite.numericId = toString id) :
      Inserts issues
        (issuePath base dependent.number "/dependencies/blocked_by", [("issue_id", .int id)])
        (dependencyRelation dependent.issueId prerequisite.issueId)

end

/-- A decimal digit is the digit of its value. -/
theorem digitChar_of_digit {c : Char} (hlow : '0' ≤ c) (hhigh : c ≤ '9') :
    c.toNat - '0'.toNat < 10 ∧ Nat.digitChar (c.toNat - '0'.toNat) = c := by
  have h : 48 ≤ c.toNat := hlow
  have h' : c.toNat ≤ 57 := hhigh
  have hc : c = Char.ofNat c.toNat := (Char.ofNat_toNat c).symm
  rw [hc]
  generalize c.toNat = n at h h'
  interval_cases n <;> decide

/-- A decimal text is the text of its value. -/
theorem toDigits_decimal {c : Char} {rest : List Char} (hc : '1' ≤ c ∧ c ≤ '9')
    (hrest : ∀ d ∈ rest, '0' ≤ d ∧ d ≤ '9') :
    ∃ n : Nat, 0 < n ∧ (c :: rest).foldl
        (fun (n : Int) c => 10 * n + (c.toNat - '0'.toNat : Nat)) 0 = n ∧
      Nat.toDigits 10 n = c :: rest := by
  induction rest using List.reverseRecOn with
  | nil =>
      have hlow : '0' ≤ c := le_trans (by decide) hc.1
      obtain ⟨hlt, hchar⟩ := digitChar_of_digit hlow hc.2
      refine ⟨c.toNat - '0'.toNat, ?_, by simp, ?_⟩
      · have hone : 49 ≤ c.toNat := hc.1
        have hzero : '0'.toNat = 48 := rfl
        omega
      · rw [Nat.toDigits_of_lt_base hlt, hchar]
  | append_singleton rest d ih =>
      obtain ⟨n, hpos, hvalue, hdigits⟩ := ih fun e he => hrest e (List.mem_append_left _ he)
      obtain ⟨hlt, hchar⟩ := digitChar_of_digit (hrest d (by simp)).1 (hrest d (by simp)).2
      refine ⟨10 * n + (d.toNat - '0'.toNat), by omega, ?_, ?_⟩
      · rw [← List.cons_append, List.foldl_concat, hvalue]
        push_cast
        rfl
      · rw [← Nat.toDigits_append_toDigits (by decide) hpos hlt, hdigits,
          Nat.toDigits_of_lt_base hlt, hchar]
        rfl

theorem toString_decimalValue {text : String} (h : decimalPattern text.toList = true) :
    toString (decimalValue text) = text := by
  unfold decimalValue
  rw [← String.toList_inj]
  cases htext : text.toList with
  | nil => simp [htext, decimalPattern] at h
  | cons c rest =>
      simp only [htext, decimalPattern, Bool.and_eq_true, decide_eq_true_eq,
        List.all_eq_true] at h
      obtain ⟨n, -, hvalue, hdigits⟩ := toDigits_decimal h.1.1 h.2
      have hrepr : toString (n : Int) = n.repr := rfl
      rw [hvalue, hrepr, Nat.toList_repr, hdigits]

/-- The number in the path of an issue is read back from it. -/
theorem issuePath_inj {base base' suffix : String} {n n' : Int}
    (h : issuePath base n suffix = issuePath base' n' suffix) : n = n' := by
  have hsplit : ∀ (base : String) (n : Int),
      ((base ++ "/issues/" ++ toString n).toList.reverse).takeWhile (· != '/') =
        (toString n).toList.reverse := by
    intro base n
    have hparts : (base ++ "/issues/" ++ toString n).toList.reverse =
        (toString n).toList.reverse ++ '/' :: (base ++ "/issues").toList.reverse := by
      simp [String.toList_append]
    rw [hparts]
    refine (TextLines.takeWhile_split (fun c hc => ?_) ?_).1
    · rcases JsonText.toString_numeral n c (List.mem_reverse.mp hc) with hdigit | rfl
      · exact bne_iff_ne.mpr fun heq => absurd (heq ▸ hdigit) (by decide)
      · decide
    · simp
  have hsame : base ++ "/issues/" ++ toString n = base' ++ "/issues/" ++ toString n' :=
    (String.append_left_inj suffix).mp h
  have htexts := (hsplit base n).symm.trans ((congrArg (fun s : String =>
    s.toList.reverse.takeWhile (· != '/')) hsame).trans (hsplit base' n'))
  have hends : JsonText.Ends [] := by simp [JsonText.Ends]
  have hread := JsonText.scanLiteral_int n hends
  rw [List.reverse_injective htexts, JsonText.scanLiteral_int n' hends] at hread
  simpa using hread.symm

/-- In these issues a reference names its own issue: whatever has its number or its id. -/
def Identified (issues : List IssueFacts) (reference : RemoteIssueReference) : Prop :=
  ∀ i ∈ issues, i.number = reference.issueNumber ∨ i.numericId = reference.numericIssueId →
    i.issueId = reference.nodeId

section
variable [PythonLibrary] [WireLibrary]

theorem relationshipRequest_spec {endpoint : RelationshipEndpoint} {repository : String}
    {target inserted : RemoteIssueReference} {request : String × Dict}
    (h : relationshipRequest endpoint repository target inserted = .ok request) :
    ∃ base id, toString id = inserted.numericIssueId ∧
      request = (issuePath base target.issueNumber endpoint.suffix,
        [(endpoint.requestField, .int id)]) := by
  simp only [relationshipRequest, safeIssueNumber, safeDecimalId, path, bind_eq_ok, raiseIf_eq_ok,
    Bool.not_eq_false, pure_eq_ok] at h
  obtain ⟨_, -, number, ⟨_, -, rfl⟩, id, ⟨_, hid, rfl⟩, made, ⟨validated, -, _, -, rfl⟩, rfl⟩ := h
  refine ⟨"/repos/" ++ validated, _, toString_decimalValue hid, Prod.ext ?_ rfl⟩
  simp only [issuePath, String.append_assoc]
  rfl

/-- The request of a command inserts the relation between the issues of its references. -/
theorem inserts_eq {operationKind : String} {command : RelationshipCommand}
    {request : String × Dict} {issues : List IssueFacts} {record : RemoteRelationshipRecord}
    (hrequest : commandRequest operationKind command = .ok request)
    (h : Inserts issues request record) (hfirst : Identified issues command.first)
    (hsecond : Identified issues command.second) :
    record = ⟨relationKind operationKind, command.first.nodeId, command.second.nodeId⟩ := by
  unfold commandRequest at hrequest
  unfold relationKind
  split_ifs at hrequest ⊢
  · obtain ⟨base, id, hid, rfl⟩ := relationshipRequest_spec hrequest
    generalize hmade : (issuePath base command.second.issueNumber subIssueEndpoint.suffix,
      [(subIssueEndpoint.requestField, Value.int id)]) = request at h
    cases h with
    | @subIssue parent child base' id' hparent hchild hid' =>
        obtain ⟨hpath, hbody⟩ := Prod.mk.inj hmade
        have hnumber := issuePath_inj hpath
        obtain rfl : id = id' := by simpa [subIssueEndpoint] using hbody
        rw [parentRelation, hfirst child hchild (.inr (hid'.trans hid)),
          hsecond parent hparent (.inl hnumber.symm)]
    | blockedBy =>
        obtain ⟨-, hbody⟩ := Prod.mk.inj hmade
        simp [subIssueEndpoint] at hbody
  · obtain ⟨base, id, hid, rfl⟩ := relationshipRequest_spec hrequest
    generalize hmade : (issuePath base command.first.issueNumber dependencyEndpoint.suffix,
      [(dependencyEndpoint.requestField, Value.int id)]) = request at h
    cases h with
    | subIssue =>
        obtain ⟨-, hbody⟩ := Prod.mk.inj hmade
        simp [dependencyEndpoint] at hbody
    | @blockedBy dependent prerequisite base' id' hdependent hprerequisite hid' =>
        obtain ⟨hpath, hbody⟩ := Prod.mk.inj hmade
        have hnumber := issuePath_inj hpath
        obtain rfl : id = id' := by simpa [dependencyEndpoint] using hbody
        rw [dependencyRelation, hfirst dependent hdependent (.inl hnumber.symm),
          hsecond prerequisite hprerequisite (.inr (hid'.trans hid))]

end

/-! ## What was sealed of an endpoint -/

section
variable [PythonLibrary] [UnicodeLibrary]

/-- What the write address of an issue is the digest of. -/
def addressEntries (record : Dict) : Dict :=
  [("domain", .str "delivery-system:existing-issue-address:v1"),
    ("repository_identity", record.get "repository_identity"),
    ("node_id", record.get "issue_id"), ("issue_number", record.get "issue_number"),
    ("numeric_issue_id", record.get "numeric_issue_id")]

theorem writeAddressDigest_spec {record : Dict} {address : String}
    (h : writeAddressDigest record = .ok address) :
    ∃ v, CanonicalValues.normalize (.dict (addressEntries record)) = .ok v ∧
      digest v = address := by
  simp only [writeAddressDigest, canonicalDigest, bind_eq_ok, pure_eq_ok] at h
  obtain ⟨_, hrepository, _, hid, _, hnumber, _, hnumeric, v, hv, haddress⟩ := h
  refine ⟨v, ?_, haddress⟩
  rw [addressEntries, EvidenceRoundTrips.require_eq_ok hrepository,
    EvidenceRoundTrips.require_eq_ok hid, EvidenceRoundTrips.require_eq_ok hnumber,
    EvidenceRoundTrips.require_eq_ok hnumeric]
  exact hv

/-- Issues of one write address have one number and one numeric id. -/
theorem address_fields {record record' : Dict} {v : Value}
    (h : CanonicalValues.normalize (.dict (addressEntries record)) = .ok v)
    (h' : CanonicalValues.normalize (.dict (addressEntries record')) = .ok v) :
    CanonicalValues.normalize (record.get "issue_number") =
        CanonicalValues.normalize (record'.get "issue_number") ∧
      CanonicalValues.normalize (record.get "numeric_issue_id") =
        CanonicalValues.normalize (record'.get "numeric_issue_id") := by
  have hvalues := PreviewEligibility.normalize_dict_values (by rfl) h h'
  simp only [addressEntries, List.forall₂_cons] at hvalues
  exact ⟨hvalues.2.2.2.1, hvalues.2.2.2.2.1⟩

variable [DatetimeLibrary] [CasefoldLibrary]

omit [DatetimeLibrary] [CasefoldLibrary] in
/-- The issues of a snapshot have different ids. -/
theorem fromRecords_distinct {issue : Type} {version : SnapshotVersion issue}
    {r : SnapshotRecords} {s : Snapshot issue} (h : Snapshot.fromRecords version r = .ok s)
    {records : List Value} (hrecords : Value.iterate r.issueRecords = .ok records)
    (read : Value → Option String)
    (hread : ∀ value i, version.fromDict value = .ok i →
      ∃ d, value = .dict d ∧ read (Dict.get d "issue_id") = some (version.issueId i)) :
    ((records.filterMap Value.mapping?).map (Dict.get · "issue_id")).Nodup := by
  simp only [Snapshot.fromRecords, bind_eq_ok, raiseIf_eq_ok, not_not] at h
  obtain ⟨_, -, _, -, _, -, records', hrecords', issues, hissues, _, -, _, -, _, hnodup, -⟩ := h
  rw [hrecords, Except.ok.injEq] at hrecords'
  subst hrecords'
  have hids : ((records.filterMap Value.mapping?).map (Dict.get · "issue_id")).map read =
      (issues.map version.issueId).map some := by
    rw [mapM_eq_ok] at hissues
    clear hnodup hrecords
    induction hissues with
    | nil => rfl
    | cons hissue _ ih =>
        obtain ⟨d, rfl, hid⟩ := hread _ _ hissue
        simp only [List.filterMap_cons, Value.mapping?, List.map_cons, hid, ih]
  exact List.Nodup.of_map read (hids ▸ hnodup.map (Option.some_injective String))

theorem snapshotDigest_distinct {schema : Value} {r : SnapshotRecords} {made : String}
    (h : snapshotDigest schema r = .ok made) {records : List Value}
    (hrecords : Value.iterate r.issueRecords = .ok records) :
    ((records.filterMap Value.mapping?).map (Dict.get · "issue_id")).Nodup := by
  unfold snapshotDigest at h
  split_ifs at h
  · obtain ⟨s, hs, -⟩ := bind_eq_ok.mp h
    refine fromRecords_distinct hs hrecords presentText? fun value i hi => ?_
    simp only [typedRemoteSnapshotV2, RemoteIssueRecordV2.fromDict, bind_eq_ok, orRaise_eq_ok,
      pure_eq_ok] at hi
    obtain ⟨d, hd, _, -, id, hid, _, -, _, -, _, -, _, -, _, -, _, -, _, -, _, -, _, -, _, -, _, -,
      rfl⟩ := hi
    cases value <;> simp only [Value.mapping?, reduceCtorEq, Option.some.injEq] at hd
    exact ⟨d, by rw [hd], hid⟩
  · obtain ⟨s, hs, -⟩ := bind_eq_ok.mp h
    refine fromRecords_distinct hs hrecords textOrInteger? fun value i hi => ?_
    simp only [typedRemoteSnapshot, RemoteIssueRecord.fromDict, bind_eq_ok, orRaise_eq_ok,
      pure_eq_ok] at hi
    obtain ⟨d, hd, id, hid, _, -, _, -, _, -, _, -, _, -, _, -, _, -, rfl⟩ := hi
    cases value <;> simp only [Value.mapping?, reduceCtorEq, Option.some.injEq] at hd
    exact ⟨d, by rw [hd], hid⟩

/-- The issue records of the sealed snapshot. -/
def sealedRecords (context : ExecutionContext) : List Dict :=
  match Value.iterate (getOr (context.remoteSnapshot.mapping?.getD []) "issue_records"
    (.list [])) with
  | .ok entries => entries.filterMap Value.mapping?
  | .error _ => []

omit [PythonLibrary] [UnicodeLibrary] [DatetimeLibrary] [CasefoldLibrary] in
theorem firstEntry_spec {key : String} {wanted : Value} {entries : List Value} {d : Dict}
    (h : firstEntry key wanted entries = .ok (some d)) :
    .dict d ∈ entries ∧ d.get key = wanted := by
  induction entries with
  | nil => cases h
  | cons entry rest ih =>
      unfold firstEntry at h
      split at h
      · cases h
      · rename_i first rest' hlist
        obtain ⟨rfl, rfl⟩ := List.cons.inj hlist
        split_ifs at h with hwanted
        · obtain rfl := Option.some.inj (Except.ok.inj h)
          exact ⟨List.mem_cons_self, hwanted⟩
        · exact ⟨List.mem_cons_of_mem _ (ih h).1, (ih h).2⟩
      · cases h

omit [PythonLibrary] [UnicodeLibrary] [DatetimeLibrary] [CasefoldLibrary] in
theorem getOr_of_get {d : Dict} {key : String} {v : Value} (h : d.get key = v) (hv : v ≠ .null)
    (default : Value) : getOr d key default = v := by
  unfold Dict.get at h
  unfold getOr
  cases hlookup : d.lookup key with
  | none => exact absurd (by simpa [hlookup] using h.symm) hv
  | some value => simpa [hlookup] using h

variable {canonical : Dict} {context : ExecutionContext} {remoteSnapshotDigest : Option String}

/-- The bindings of a Preview that was saved repeat the records of its snapshot. -/
theorem checkRemoteSnapshot_spec (h : checkRemoteSnapshot canonical remoteSnapshotDigest = .ok ())
    (hsnapshots : Snapshots canonical context) (hversion : context.canonicalVersion = .str "2")
    {snapshot : Dict} (hsnapshot : context.remoteSnapshot.mapping? = some snapshot) :
    ((sealedRecords context).map (Dict.get · "issue_id")).Nodup ∧
      ∀ binding ∈ context.existingEndpointBindings,
        checkEndpointBinding (sealedRecords context) binding = .ok () := by
  rw [hsnapshots.snapshot] at hsnapshot
  unfold checkRemoteSnapshot at h
  split at h
  · rename_i hnull
    rw [hnull] at hsnapshot
    cases hsnapshot
  · rename_i remote hremote
    rw [hremote] at hsnapshot
    obtain rfl := Option.some.inj hsnapshot
    have htwo : isVersion2 canonical := hsnapshots.version.symm.trans hversion
    simp only [if_pos htwo, bind_eq_ok, orRaise_eq_ok] at h
    obtain ⟨_, -, made, hmade, _, -, bindings, hbindings, records, hrecords, hchecked⟩ := h
    have hlisted : sealedRecords context = records.filterMap Value.mapping? := by
      rw [sealedRecords, hsnapshots.snapshot, hremote]
      dsimp only [Value.mapping?, Option.getD_some]
      rw [hrecords]
    have hlist : canonical.get "existing_endpoint_bindings" = .list bindings := by
      cases hvalue : canonical.get "existing_endpoint_bindings" <;>
        simp [hvalue, Value.list?] at hbindings
      rw [hbindings]
    have hsame := hsnapshots.bindings
    rw [getOr_of_get hlist (by simp), Value.sequence?, Option.some.injEq] at hsame
    rw [hlisted, ← hsame]
    exact ⟨snapshotDigest_distinct hmade hrecords, forM_eq_ok.mp hchecked⟩
  · cases h

/-- What a reference of an existing endpoint has of its binding and its sealed record. -/
structure SealedReference (context : ExecutionContext) (endpointRef : String)
    (reference : RemoteIssueReference) (binding record : Dict) : Prop where
  found : firstEntry "endpoint_ref" (.str endpointRef) context.existingEndpointBindings =
    .ok (some binding)
  listed : record ∈ sealedRecords context
  issueId : binding.get "issue_id" = .str reference.nodeId
  recordId : record.get "issue_id" = .str reference.nodeId
  issueNumber : record.get "issue_number" = .int reference.issueNumber
  numericIssueId : Value.toText (record.get "numeric_issue_id") = reference.numericIssueId
  address : ∃ address, writeAddressDigest record = .ok address ∧
    binding.get "write_address_digest" = .str address

theorem sealedReference_of_saved (h : checkRemoteSnapshot canonical remoteSnapshotDigest = .ok ())
    (hsnapshots : Snapshots canonical context) {endpointRef : String}
    {reference : RemoteIssueReference}
    (hreference : referenceFromExistingBinding context endpointRef = .ok reference) :
    ∃ binding record, SealedReference context endpointRef reference binding record := by
  simp only [referenceFromExistingBinding, bind_eq_ok, orRaise_eq_ok, raiseIf_eq_ok,
    not_not] at hreference
  obtain ⟨_, hversion, found, hfound, binding, rfl, snapshot, hsnapshot, entries, hentries, _,
    hrecord, record, rfl, _, -, _, -, hmade⟩ := hreference
  obtain ⟨hdistinct, hchecked⟩ := checkRemoteSnapshot_spec h hsnapshots hversion hsnapshot
  have hlisted : sealedRecords context = entries.filterMap Value.mapping? := by
    rw [sealedRecords, hsnapshot, Option.getD_some, hentries]
  obtain ⟨hmem, hid⟩ := firstEntry_spec hrecord
  have hmem' : record ∈ sealedRecords context := by
    rw [hlisted]
    exact List.mem_filterMap.mpr ⟨_, hmem, rfl⟩
  have hbinding := hchecked _ (firstEntry_spec hfound).1
  simp only [checkEndpointBinding, Value.mapping?, bind_eq_ok, orRaise_eq_ok, raiseIf_eq_ok,
    not_not, Option.some.injEq] at hbinding
  obtain ⟨_, rfl, _, -, _, -, record', hfirst, _, -, _, -, _, -, _, -, address, haddress, _, hsame,
    -⟩ := hbinding
  obtain rfl : record' = record := by
    refine List.inj_on_of_nodup_map hdistinct
      (List.mem_reverse.mp (List.mem_of_find?_eq_some hfirst)) hmem' ?_
    have hid' := List.find?_some hfirst
    exact (of_decide_eq_true hid').trans hid.symm
  split at hmade
  · cases hmade
  · rename_i hread
    obtain rfl := pure_eq_ok.mp hmade
    simp only [bind_eq_ok, make_eq_ok, presentText?_eq_some, positiveInt?_eq_some] at hread
    obtain ⟨number, hnumber, numeric, hnumeric, id, hissueId, -, ⟨rfl, -⟩, ⟨htext, -⟩, ⟨rfl, -⟩⟩ :=
      hread
    have hrecordId := EvidenceRoundTrips.require_eq_ok hissueId
    refine ⟨binding, record', hfound, hmem', hid.symm.trans hrecordId, hrecordId,
      EvidenceRoundTrips.require_eq_ok hnumber, ?_, address, haddress, hsame⟩
    · rw [EvidenceRoundTrips.require_eq_ok hnumeric]
      exact Value.str.inj htext

/-! ## The written relation -/

/-- A number, and a numeric id, belong to one issue in two reads of the repository. -/
def SameIssues (issues issues' : List IssueFacts) : Prop :=
  ∀ i ∈ issues, ∀ j ∈ issues',
    i.number = j.number ∨ canonicalText i.numericId = canonicalText j.numericId →
      i.issueId = j.issueId

/-- The digests of the write address of an issue, as it was sealed and as it is read, do not
collide. -/
def CollisionFree (context : ExecutionContext) (issues : List IssueFacts) : Prop :=
  ∀ record ∈ sealedRecords context, ∀ i ∈ issues, Dict.get record "issue_id" = .str i.issueId →
    ∀ v v', CanonicalValues.normalize (.dict (addressEntries record)) = .ok v →
      CanonicalValues.normalize (.dict (addressEntries (v2RecordFromDriver i.toDict))) = .ok v' →
      PythonLibrary.hexdigest v = PythonLibrary.hexdigest v' → v = v'

omit [PythonLibrary] [UnicodeLibrary] [DatetimeLibrary] [CasefoldLibrary] in
theorem address_of_facts (i : IssueFacts) :
    (v2RecordFromDriver i.toDict).get "issue_id" = .str i.issueId ∧
      (v2RecordFromDriver i.toDict).get "issue_number" = .int i.number ∧
      (v2RecordFromDriver i.toDict).get "numeric_issue_id" = .str i.numericId := by
  obtain ⟨issueId, numericId, number, title, updatedAt, repositoryIdentity, url, state, body⟩ := i
  cases state <;> cases body <;> exact ⟨rfl, rfl, rfl⟩

omit [DatetimeLibrary] [CasefoldLibrary] in
theorem normalize_eq_str {v : Value} {text : String}
    (h : CanonicalValues.normalize v = .ok (.str text)) :
    ∃ s, v = .str s ∧ canonicalText s = text := by
  cases v with
  | str s => exact ⟨s, rfl, Value.str.inj (Except.ok.inj h)⟩
  | null | bool | int | float => cases h
  | list | tuple | dict =>
      simp only [CanonicalValues.normalize, bind_eq_ok, pure_eq_ok, reduceCtorEq, and_false,
        exists_false] at h

omit [DatetimeLibrary] in
/-- The reference of an endpoint that one read found as sealed names its issue in another. -/
theorem identified_of_sealed {endpointRef repository : String} {reference : RemoteIssueReference}
    {binding record : Dict} {issues issues' : List IssueFacts} {i : IssueFacts}
    (href : SealedReference context endpointRef reference binding record) (hi : i ∈ issues)
    (hsealed : Sealed repository binding (v2RecordFromDriver i.toDict))
    (hsameIssues : SameIssues issues' issues) (hcollision : CollisionFree context issues) :
    Identified issues' reference := by
  obtain ⟨hissue, hnumber, hnumeric⟩ := address_of_facts i
  have hnode : i.issueId = reference.nodeId :=
    Value.str.inj (hissue.symm.trans (hsealed.issueId.trans href.issueId))
  -- equal addresses are digests of one value
  obtain ⟨address, haddress, hsame⟩ := hsealed.address
  obtain ⟨address', haddress', hsame'⟩ := href.address
  obtain ⟨v, hv, hdigest⟩ := writeAddressDigest_spec haddress'
  obtain ⟨v', hv', hdigest'⟩ := writeAddressDigest_spec haddress
  have htext : digest v = digest v' := by
    rw [hdigest, hdigest', Value.str.inj (hsame'.symm.trans hsame)]
  obtain rfl := hcollision record href.listed i hi (href.recordId.trans (by rw [hnode])) v v' hv hv'
    ((String.append_right_inj "sha256:").mp htext)
  obtain ⟨hsameNumber, hsameId⟩ := address_fields hv hv'
  rw [href.issueNumber, hnumber] at hsameNumber
  have hnumber' : reference.issueNumber = i.number := by
    simpa [CanonicalValues.normalize] using hsameNumber
  rw [hnumeric] at hsameId
  obtain ⟨s, hs, hsid⟩ := normalize_eq_str hsameId
  have hs' : s = reference.numericIssueId := by
    rw [← href.numericIssueId, hs]
    rfl
  rintro j hj (hj' | hj')
  · exact (hsameIssues j hj i hi (.inl (hj'.trans hnumber'))).trans hnode
  · refine (hsameIssues j hj i hi (.inr ?_)).trans hnode
    rw [hj', ← hs', hsid]

end

section
variable [PythonLibrary] [UnicodeLibrary] [CasefoldLibrary] [IntegerLibrary]
variable {context : ExecutionContext} {endpoints : List Endpoint}

omit [CasefoldLibrary] [IntegerLibrary] in
theorem observe_spec {v : Revalidator} {repository endpointRef : String}
    {response : DriverReadResponse} (h : v.observe repository endpointRef = .ok response) :
    v.read endpointRef = .response response := by
  unfold Revalidator.observe at h
  split_ifs at h
  split at h
  · rename_i hfacts
    obtain rfl := Except.ok.inj h
    exact validateDriverFacts_spec hfacts
  · split_ifs at h

omit [PythonLibrary] [UnicodeLibrary] [CasefoldLibrary] [IntegerLibrary] in
/-- The record that is looked for is the one of the relation. -/
theorem relates_iff {operationKind source target : String} {record : RemoteRelationshipRecord}
    {d : Dict} (hd : record.toDict = .dict d) :
    relates operationKind source target d = true ↔
      record = ⟨relationKind operationKind, source, target⟩ := by
  obtain ⟨kind, a, b⟩ := record
  obtain rfl := Value.dict.inj hd
  have hget : Dict.get [("kind", Value.str kind), ("from", .str a), ("to", .str b)] "kind" =
      .str kind ∧ Dict.get [("kind", Value.str kind), ("from", .str a), ("to", .str b)] "from" =
      .str a ∧ Dict.get [("kind", Value.str kind), ("from", .str a), ("to", .str b)] "to" =
      .str b := ⟨rfl, rfl, rfl⟩
  simp only [relates, hget.1, hget.2.1, hget.2.2, Bool.and_eq_true, decide_eq_true_eq,
    Value.str.injEq, RemoteRelationshipRecord.mk.injEq, and_assoc]

/-! ## Reads of the remote -/

/-- A call of the read driver: who reads, and what the remote answers. -/
structure RepositoryRead where
  reader : Reader
  remote : Remote
  repository : String
  requested : String
  queryScope : Dict
  pathPrefix : String
  repo : Dict

def RepositoryRead.records (r : RepositoryRead) :
    Py (List IssueFacts × List RemoteRelationshipRecord) :=
  readRecords r.remote r.pathPrefix r.requested

/-- How the call of the driver ends. -/
def RepositoryRead.outcome (r : RepositoryRead) : ReadOutcome :=
  match readRepositoryAfterAuth r.reader r.remote r.repository r.requested r.queryScope
    r.pathPrefix r.repo with
  | .ok response => .response response
  | .error (.driverError code) => .driverError code
  | .error _ => .raised

/-- The remote that is read reports the relation. -/
def RepositoryRead.Reports (r : RepositoryRead) (issues : List IssueFacts)
    (record : RemoteRelationshipRecord) : Prop :=
  Reported r.remote r.pathPrefix r.requested issues record

theorem RepositoryRead.outcome_eq {r : RepositoryRead} {response : DriverReadResponse}
    (h : r.outcome = .response response) :
    readRepositoryAfterAuth r.reader r.remote r.repository r.requested r.queryScope r.pathPrefix
      r.repo = .ok response := by
  unfold RepositoryRead.outcome at h
  split at h
  · rename_i hread
    rw [hread, ReadOutcome.response.inj h]
  · cases h
  · cases h

theorem RepositoryRead.records_ok {r : RepositoryRead} {response : DriverReadResponse}
    (h : r.outcome = .response response) : ∃ found, r.records = .ok found := by
  have hread := RepositoryRead.outcome_eq h
  simp only [readRepositoryAfterAuth, bind_eq_ok] at hread
  obtain ⟨_, -, _, -, _, -, found, hfound, -⟩ := hread
  exact ⟨found, hfound⟩

/-- A relation is among the records of the response if the remote reports it. -/
theorem RepositoryRead.reports_iff {r : RepositoryRead} {response : DriverReadResponse}
    (h : r.outcome = .response response)
    {found : List IssueFacts × List RemoteRelationshipRecord} (hfound : r.records = .ok found)
    (operationKind source target : String) :
    r.Reports found.1 ⟨relationKind operationKind, source, target⟩ ↔
      ((records? response.relationshipRecords).getD []).any
        (relates operationKind source target) = true := by
  obtain ⟨-, listed, hlisted, hmem⟩ :=
    readRepositoryAfterAuth_spec (RepositoryRead.outcome_eq h) hfound
  rw [RepositoryRead.Reports, ← reported_iff hfound, hlisted, Option.getD_some, List.any_eq_true]
  constructor
  · intro hrecord
    refine ⟨_, (hmem _).mpr ⟨_, hrecord, rfl⟩, ?_⟩
    exact (relates_iff rfl).mpr rfl
  · rintro ⟨d, hd, hrelates⟩
    obtain ⟨record, hrecord, hdict⟩ := (hmem d).mp hd
    obtain rfl := (relates_iff hdict).mp hrelates
    exact hrecord

theorem sealed_issue {r : RepositoryRead} {response : DriverReadResponse}
    (h : r.outcome = .response response)
    {found : List IssueFacts × List RemoteRelationshipRecord} (hfound : r.records = .ok found)
    {repository : String} {binding : Dict} (hsealed : SealedIn repository binding response) :
    ∃ i ∈ found.1, Sealed repository binding (v2RecordFromDriver i.toDict) := by
  obtain ⟨⟨listed, hlisted, hmem⟩, -⟩ :=
    readRepositoryAfterAuth_spec (RepositoryRead.outcome_eq h) hfound
  obtain ⟨records, hrecords, d, hd, hsealed⟩ := hsealed
  obtain rfl := Option.some.inj (hrecords.symm.trans hlisted)
  obtain ⟨i, hi, rfl⟩ := (hmem d).mp hd
  exact ⟨i, hi, hsealed⟩

end
end DeliverySystem.EndpointGuards

import DeliverySystem.EndpointGuards
import DeliverySystem.PreviewHistories

/-!
# The edge that is guarded

A relationship command is made after a read of each of its existing endpoints in
which the relation that its request inserts is not reported. Where the relation
is there, the operation is blocked.
-/
namespace DeliverySystem.GuardedEdges
open PythonValues CanonicalValues WriteOperations ApplicationIdentity ExecutionRecords
open ExecutionContexts KeyedRows ExecutionStore ExecutionTransactions IssueCommands Applier
open AuditRecords EvidenceRecords RemoteSnapshots RemoteReads SealedPreviews OperandAgreement
open WriteDriver ClaimSettlement EndpointGuards PreviewHistories RecordedOperands DispatchHistory
open ExecutionInvariant
set_option autoImplicit false

/-- Checks that pass or raise one error, and do not all pass, raise it. -/
theorem forM_error {α : Type} {f : α → Py Unit} {e : Raised} {xs : List α}
    (hf : ∀ x ∈ xs, f x = .ok () ∨ f x = .error e) {x : α} (hx : x ∈ xs) (h : f x = .error e) :
    xs.forM f = .error e := by
  induction xs with
  | nil => cases hx
  | cons y rest ih =>
      change (f y >>= fun _ => rest.forM f) = .error e
      rcases hf y List.mem_cons_self with hy | hy
      · rw [hy]
        rcases List.mem_cons.mp hx with rfl | hx
        · rw [hy] at h
          cases h
        · exact ih (fun z hz => hf z (List.mem_cons_of_mem _ hz)) hx
      · rw [hy]
        rfl

section
variable [PythonLibrary] [UnicodeLibrary] [CasefoldLibrary] [IntegerLibrary]

/-! ## The guarded operation -/

/-- What is relied on of the remote in the reads of an operation: the number and the numeric
id of an issue stay its own, also those of a created issue that its receipt holds, and the
digests of the write addresses do not collide. -/
structure ConsistentReads (workspace : String) (context : ExecutionContext)
    (tables : Nat → Tables) (endpoints : List Endpoint) (reads : String → RepositoryRead) :
    Prop where
  sameIssues : ∀ ref ∈ existingRefs endpoints, ∀ ref' ∈ existingRefs endpoints,
    ∀ found found', (reads ref).records = .ok found → (reads ref').records = .ok found' →
      SameIssues found.1 found'.1
  created : ∀ ref ∈ existingRefs endpoints, ∀ found, (reads ref).records = .ok found →
    ∀ entry ∈ endpoints.zipIdx, entry.1.endpointType = .workItem → ∀ reference,
      referenceFromEndpoint workspace context (tables entry.2) entry.1 = .ok reference →
        Identified found.1 reference
  collisionFree : ∀ ref ∈ existingRefs endpoints, ∀ found, (reads ref).records = .ok found →
    CollisionFree context found.1

/-- The endpoint was read, and its issue is there as it was sealed. -/
structure Guarded (context : ExecutionContext) (reads : String → RepositoryRead) (ref : String)
    (found : List IssueFacts × List RemoteRelationshipRecord) : Prop where
  records : (reads ref).records = .ok found
  binding : ∃ binding, firstEntry "endpoint_ref" (.str ref) context.existingEndpointBindings =
    .ok (some binding) ∧
      ∃ i ∈ found.1,
        Sealed context.authority.repositoryIdentity binding (v2RecordFromDriver i.toDict)

variable [DatetimeLibrary]
variable {workspace : String} {context : ExecutionContext} {tables : Nat → Tables}
variable {endpoints : List Endpoint} {reads : String → RepositoryRead} {canonical : Dict}
variable {v : Revalidator} {remoteSnapshotDigest : Option String}

/-- Every reference of the operation names its own issue in the read of a guarded endpoint. -/
theorem identified_of_guarded
    (hsaved : checkRemoteSnapshot canonical remoteSnapshotDigest = .ok ())
    (hsnapshots : Snapshots canonical context)
    (hreads : ConsistentReads workspace context tables endpoints reads)
    (hguarded : ∀ ref ∈ existingRefs endpoints, ∃ found, Guarded context reads ref found)
    {ref : String} (href : ref ∈ existingRefs endpoints)
    {found : List IssueFacts × List RemoteRelationshipRecord}
    (hfound : (reads ref).records = .ok found)
    {entry : Endpoint × Nat} (hentry : entry ∈ endpoints.zipIdx) {reference : RemoteIssueReference}
    (hreference : referenceFromEndpoint workspace context (tables entry.2) entry.1 =
      .ok reference) : Identified found.1 reference := by
  cases hkind : entry.1.endpointType with
  | workItem => exact hreads.created ref href found hfound entry hentry hkind reference hreference
  | existingIssue =>
      have href' : entry.1.ref ∈ existingRefs endpoints :=
        List.mem_map.mpr ⟨entry.1, List.mem_filter.mpr
          ⟨(List.mem_zipIdx' hentry).2 ▸ List.getElem_mem _, decide_eq_true hkind⟩, rfl⟩
      rw [referenceFromEndpoint, hkind] at hreference
      obtain ⟨found', hfound', binding', hbinding', i, hi, hsealed⟩ := hguarded _ href'
      obtain ⟨binding, record, hrecord⟩ := sealedReference_of_saved hsaved hsnapshots hreference
      have hsame := hrecord.found
      rw [hbinding', Except.ok.injEq, Option.some.injEq] at hsame
      subst hsame
      exact identified_of_sealed hrecord hi hsealed
        (hreads.sameIssues ref href _ href' found found' hfound hfound')
        (hreads.collisionFree _ href' found' hfound')

variable [WireLibrary]

/-- The relation that the request of a command inserts is in no read that guarded it. -/
theorem unreported_of_guarded
    (hsaved : checkRemoteSnapshot canonical remoteSnapshotDigest = .ok ())
    (hsnapshots : Snapshots canonical context) (hversion : context.canonicalVersion = .str "2")
    (hreads : ConsistentReads workspace context tables endpoints reads)
    {attempt : OperationAttemptState}
    (hendpoints : attempt.operation.clientRefs.mapM taggedEndpoint? = some endpoints)
    (hread : ∀ ref ∈ existingRefs endpoints, v.read ref = (reads ref).outcome)
    {command : RelationshipCommand}
    (h : materialize workspace context attempt tables
      (v.composed workspace context attempt.operation tables) = .ok (.relationship command))
    {ref : String} (href : ref ∈ existingRefs endpoints) :
    ∃ found, Guarded context reads ref found ∧ ∀ request record,
      commandRequest attempt.operation.operationKind command = .ok request →
        Inserts found.1 request record → ¬(reads ref).Reports found.1 record := by
  obtain ⟨references, hreferences, hpair, hchecked⟩ := materialize_guarded hversion hendpoints h
  have hguarded : ∀ ref ∈ existingRefs endpoints, ∃ found, Guarded context reads ref found := by
    intro ref href
    obtain ⟨binding, response, hbinding, hobserved, hsealed, -⟩ := hchecked ref href
    have houtcome := (hread ref href).symm.trans (observe_spec hobserved)
    obtain ⟨found, hfound⟩ := RepositoryRead.records_ok houtcome
    exact ⟨found, hfound, binding, hbinding, sealed_issue houtcome hfound hsealed⟩
  have hresolved : ∀ reference ∈ references, ∃ entry ∈ endpoints.zipIdx,
      referenceFromEndpoint workspace context (tables entry.2) entry.1 = .ok reference := by
    intro reference hreference
    simp only [resolvedReferences, hendpoints, bind_eq_ok, orRaise_eq_ok,
      Option.some.injEq] at hreferences
    obtain ⟨_, rfl, hreferences⟩ := hreferences
    exact exists_of_mem_mapM hreferences hreference
  simp only [firstTwo, bind_eq_ok, orRaise_eq_ok, pure_eq_ok, Prod.mk.injEq] at hpair
  obtain ⟨_, hfirst, _, hsecond, rfl, rfl⟩ := hpair
  obtain ⟨entry, hentry, hfirst⟩ := hresolved _ (List.mem_of_getElem? hfirst)
  obtain ⟨entry', hentry', hsecond⟩ := hresolved _ (List.mem_of_getElem? hsecond)
  obtain ⟨found, hfound⟩ := hguarded ref href
  refine ⟨found, hfound, fun request record hrequest hinserts hreports => ?_⟩
  obtain rfl := inserts_eq hrequest hinserts
    (identified_of_guarded hsaved hsnapshots hreads hguarded href hfound.records hentry hfirst)
    (identified_of_guarded hsaved hsnapshots hreads hguarded href hfound.records hentry' hsecond)
  obtain ⟨_, response, -, hobserved, -, habsent⟩ := hchecked ref href
  have houtcome := (hread ref href).symm.trans (observe_spec hobserved)
  obtain ⟨relation, hrelation, hrelates⟩ := List.any_eq_true.mp
    ((RepositoryRead.reports_iff houtcome hfound.records _ _ _).mp hreports)
  exact absurd hrelates (by rw [habsent relation hrelation]; exact Bool.false_ne_true)

/-! ## A relation that is there -/

/-- The read for an endpoint is accepted, and its issue is there as it was sealed. -/
def Accepted (v : Revalidator) (context : ExecutionContext) (ref : String)
    (response : DriverReadResponse) : Prop :=
  v.observe context.authority.repositoryIdentity ref = .ok response ∧
    ∃ binding, firstEntry "endpoint_ref" (.str ref) context.existingEndpointBindings =
      .ok (some binding) ∧
        checkEndpoint context.authority.repositoryIdentity binding response = .ok ()

omit [IntegerLibrary] [DatetimeLibrary] [WireLibrary] in
/-- An accepted endpoint is refused only where the relation is there. -/
theorem composed_of_accepted {operation : WriteOperation} {first second : RemoteIssueReference}
    (hkind : relationshipKinds operation.operationKind ≠ none)
    (hreferences : resolvedReferences workspace context operation.clientRefs tables =
      .ok [first, second]) (hdifferent : first.nodeId ≠ second.nodeId)
    {ref : String} {response : DriverReadResponse} (h : Accepted v context ref response) :
    v.composed workspace context operation tables ref =
      raiseIf (((records? response.relationshipRecords).getD []).any
        (relates operation.operationKind first.nodeId second.nodeId) = true)
        "relationship_already_exists" := by
  obtain ⟨hobserved, binding, hbinding, hendpoint⟩ := h
  have hknown : operation.operationKind = "add_sub_issue" ∨
      operation.operationKind = "add_dependency" := relationshipKinds_cases hkind
  have hrelation : checkRelation operation.operationKind [first, second] response =
      raiseIf (((records? response.relationshipRecords).getD []).any
        (relates operation.operationKind first.nodeId second.nodeId) = true)
        "relationship_already_exists" := by
    simp only [checkRelation, if_pos hknown, if_neg hdifferent]
  simp only [Revalidator.composed, Revalidator.revalidate, hreferences, hbinding, hobserved,
    hendpoint, bind, Except.bind, orRaise]
  exact hrelation

omit [IntegerLibrary] [DatetimeLibrary] [WireLibrary] in
/-- An endpoint that is not as it was sealed is refused before its relation is looked for. -/
theorem composed_of_refused {operation : WriteOperation} {references : List RemoteIssueReference}
    (hreferences : resolvedReferences workspace context operation.clientRefs tables =
      .ok references) {ref : String} {binding : Dict} {response : DriverReadResponse} {e : Raised}
    (hbinding : firstEntry "endpoint_ref" (.str ref) context.existingEndpointBindings =
      .ok (some binding))
    (hobserved : v.observe context.authority.repositoryIdentity ref = .ok response)
    (h : checkEndpoint context.authority.repositoryIdentity binding response = .error e) :
    v.composed workspace context operation tables ref = .error e := by
  simp only [Revalidator.composed, Revalidator.revalidate, hreferences, hbinding, hobserved, h,
    bind, Except.bind, orRaise]

omit [UnicodeLibrary] [CasefoldLibrary] [IntegerLibrary] [DatetimeLibrary] [WireLibrary] in
/-- A relationship whose references are resolved waits for its revalidations only. -/
theorem materialize_resolved {attempt : OperationAttemptState}
    (hversion : context.canonicalVersion = .str "2")
    (hkind : relationshipKinds attempt.operation.operationKind ≠ none)
    (hendpoints : attempt.operation.clientRefs.mapM taggedEndpoint? = some endpoints)
    {first second : RemoteIssueReference}
    (hreferences : resolvedReferences workspace context attempt.operation.clientRefs tables =
      .ok [first, second]) (hunlike : first ≠ second) {revalidate : String → Py Unit} :
    materialize workspace context attempt tables revalidate =
      .relationship <$> ((existingRefs endpoints).forM revalidate >>= fun _ =>
        RelationshipCommand.make context.authority.repositoryIdentity first second) := by
  have hcommand : materializeTagged workspace context attempt.operation.clientRefs tables
      revalidate = ((existingRefs endpoints).forM revalidate >>= fun _ =>
        RelationshipCommand.make context.authority.repositoryIdentity first second) := by
    simp only [resolvedReferences, hendpoints, bind_eq_ok, orRaise_eq_ok,
      Option.some.injEq] at hreferences
    obtain ⟨_, rfl, hreferences⟩ := hreferences
    have hpair : firstTwo [first, second] = .ok (first, second) := rfl
    simp only [materializeTagged, hendpoints, hreferences, hpair, raiseIf, if_neg hunlike, orRaise,
      bind, Except.bind]
  have hcreate : attempt.operation.operationKind ≠ "create_issue" := by
    rcases relationshipKinds_cases hkind with h | h <;> rw [h] <;> decide
  unfold materialize
  dsimp only
  rw [if_neg hcreate, if_pos (Option.isSome_iff_ne_none.mpr hkind), if_pos hversion, hcommand]

omit [DatetimeLibrary] [WireLibrary] in
/-- No command is made for a relation that an accepted read has. -/
theorem materialize_present {attempt : OperationAttemptState}
    (hversion : context.canonicalVersion = .str "2")
    (hkind : relationshipKinds attempt.operation.operationKind ≠ none)
    (hendpoints : attempt.operation.clientRefs.mapM taggedEndpoint? = some endpoints)
    {first second : RemoteIssueReference}
    (hreferences : resolvedReferences workspace context attempt.operation.clientRefs tables =
      .ok [first, second]) (hdifferent : first.nodeId ≠ second.nodeId)
    (hread : ∀ ref ∈ existingRefs endpoints, v.read ref = (reads ref).outcome)
    (haccepted : ∀ ref ∈ existingRefs endpoints, ∃ response, Accepted v context ref response)
    {ref : String} (href : ref ∈ existingRefs endpoints)
    {found : List IssueFacts × List RemoteRelationshipRecord}
    (hfound : (reads ref).records = .ok found)
    (hreports : (reads ref).Reports found.1
      ⟨relationKind attempt.operation.operationKind, first.nodeId, second.nodeId⟩) :
    materialize workspace context attempt tables
        (v.composed workspace context attempt.operation tables) =
      .error (.valueError "relationship_already_exists") := by
  have hchecked : (existingRefs endpoints).forM
      (v.composed workspace context attempt.operation tables) =
        .error (.valueError "relationship_already_exists") := by
    refine forM_error (fun ref href => ?_) href ?_
    · obtain ⟨response, hresponse⟩ := haccepted ref href
      rw [composed_of_accepted hkind hreferences hdifferent hresponse]
      unfold raiseIf
      split_ifs
      · exact .inr rfl
      · exact .inl rfl
    · obtain ⟨response, hresponse⟩ := haccepted ref href
      rw [composed_of_accepted hkind hreferences hdifferent hresponse]
      have houtcome := (hread ref href).symm.trans (observe_spec hresponse.1)
      rw [raiseIf, if_pos ((RepositoryRead.reports_iff houtcome hfound _ _ _).mp hreports)]
  rw [materialize_resolved hversion hkind hendpoints hreferences
    (fun heq => hdifferent (heq ▸ rfl)), hchecked]
  rfl

/-! ## The operation of a claim -/

/-- The claim is of a V2 relationship with existing endpoints, which the composed service
revalidates by these reads of the remote. -/
structure Revalidated (v : Revalidator) (reads : String → RepositoryRead)
    (endpoints : List Endpoint) (env : Environment) (claim : Claim) : Prop where
  version : claim.context.canonicalVersion = .str "2"
  kind : relationshipKinds claim.attempt.operation.operationKind ≠ none
  operands : claim.attempt.operation.clientRefs.mapM taggedEndpoint? = some endpoints
  existing : existingRefs endpoints ≠ []
  revalidate : env.revalidate = v.composed claim.context.identity.values.workspaceIdentity
    claim.context claim.attempt.operation env.operandRead
  read : ∀ ref ∈ existingRefs endpoints, v.read ref = (reads ref).outcome

/-- The application is blocked with a code. -/
structure BlockedWith (code : String) (t : Tables) (state : ApplicationExecutionState) :
    Prop where
  stored : t.execution = some state
  blocked : state.state = .blocked
  code : state.recoveryCode = some code

/-- What the guard finds absent is the relation that the request of the command inserts; one
that is there leaves no command, and blocks an operation whose endpoints are all accepted. -/
theorem guarded_edge {env : Environment} {claim : Claim}
    (hsaved : checkRemoteSnapshot canonical remoteSnapshotDigest = .ok ())
    (hsnapshots : Snapshots canonical claim.context)
    (hclaim : Revalidated v reads endpoints env claim)
    (hreads : ConsistentReads claim.context.identity.values.workspaceIdentity claim.context
      env.operandRead endpoints reads) :
    (∀ command, materialize claim.context.identity.values.workspaceIdentity claim.context
        claim.attempt env.operandRead env.revalidate = .ok command →
      ∃ made, command = .relationship made ∧ ∀ ref ∈ existingRefs endpoints,
        ∃ found, Guarded claim.context reads ref found ∧ ∀ request record,
          commandRequest claim.attempt.operation.operationKind made = .ok request →
            Inserts found.1 request record → ¬(reads ref).Reports found.1 record) ∧
      ∀ first second, resolvedReferences claim.context.identity.values.workspaceIdentity
          claim.context claim.attempt.operation.clientRefs env.operandRead =
            .ok [first, second] → first.nodeId ≠ second.nodeId →
        (∀ ref ∈ existingRefs endpoints, ∃ response, Accepted v claim.context ref response) →
        ∀ ref ∈ existingRefs endpoints, ∀ found, (reads ref).records = .ok found →
          (reads ref).Reports found.1 ⟨relationKind claim.attempt.operation.operationKind,
            first.nodeId, second.nodeId⟩ →
          ∀ run t, validateClaim env claim = .ok () →
            Applier.advance env run t (.claimed claim) =
                (t, .settling claim .blocked "relationship_already_exists" false, []) ∧
              ∀ env' t', Commits env' t'
                  (.settling claim .blocked "relationship_already_exists" false) →
                ∃ t'' state, BlockedWith "relationship_already_exists" t'' state ∧
                  Applier.advance env' run t'
                      (.settling claim .blocked "relationship_already_exists" false) =
                    (t'', .finished (.ok (applyResult claim.context state none
                      (some "relationship_already_exists"))), []) := by
  constructor
  · intro command hcommand
    rw [hclaim.revalidate] at hcommand
    have hrelationship : ∃ made, command = .relationship made := by
      have hcreate : claim.attempt.operation.operationKind ≠ "create_issue" := by
        rcases relationshipKinds_cases hclaim.kind with h | h <;> rw [h] <;> decide
      unfold materialize at hcommand
      dsimp only at hcommand
      rw [if_neg hcreate, if_pos (Option.isSome_iff_ne_none.mpr hclaim.kind),
        if_pos hclaim.version, map_eq_ok] at hcommand
      obtain ⟨made, -, rfl⟩ := hcommand
      exact ⟨made, rfl⟩
    obtain ⟨made, rfl⟩ := hrelationship
    exact ⟨made, rfl, fun ref href => unreported_of_guarded hsaved hsnapshots hclaim.version hreads
      hclaim.operands hclaim.read hcommand href⟩
  · intro first second hreferences hdifferent haccepted ref href found hfound hreports run t
      hvalid
    have hmaterialize := materialize_present hclaim.version hclaim.kind hclaim.operands
      hreferences hdifferent hclaim.read haccepted href hfound hreports
    rw [← hclaim.revalidate] at hmaterialize
    have hprepare : prepare env claim = .error (.valueError "relationship_already_exists") := by
      unfold prepare
      rw [hvalid]
      exact hmaterialize
    constructor
    · simp only [Applier.advance, hprepare]
      rfl
    · rintro env' t' ⟨⟨t'', state⟩, hsettle⟩
      obtain ⟨previous, attempt, nextAttempt, hdone⟩ := settleOperation_spec hsettle
      have hprogress := hdone.continued.progress
      refine ⟨t'', state, ⟨?_, ?_, ?_⟩, by simp only [Applier.advance, hsettle]⟩
      · rw [hdone.written]
      · exact congrArg ExecutionProgress.state hprogress
      · exact congrArg ExecutionProgress.recoveryCode hprogress

end
/-- Python's parser, on the one time of the sample. -/
@[reducible] def readDatetimes : DatetimeLibrary where
  fromisoformat _ := some ⟨1767225600000000, some 0⟩

/-! ## An issue that is there already -/

/-- An issue as the remote lists it. -/
def listedIssue (node title : String) (number id : Int) : Dict :=
  [("id", .int id), ("node_id", .str node), ("number", .int number), ("title", .str title),
    ("updated_at", .str "2026-01-01T00:00:00Z"), ("state", .str "open"), ("body", .str ""),
    ("repository_url", .str "https://api.github.com/repos/acme/widgets")]

/-- A repository whose issue `9` may be a sub-issue of issue `7`. -/
def widgets (related : Bool) : Remote where
  collection path _ :=
    if path = "/repos/acme/widgets/issues?state=all&per_page=100" then
      .ok [listedIssue "I_9" "Ninth" 9 2002, listedIssue "I_1" "First" 7 1001]
    else if path = "/repos/acme/widgets/issues/7/sub_issues?per_page=100" ∧ related = true then
      .ok [listedIssue "I_9" "Ninth" 9 2002]
    else .ok []
  get _ := .error (.driverError "remote_resource_not_found")

def widgetsRead (related : Bool) : RepositoryRead where
  reader := { trustedDriverIdentity := "driver-1", authenticatedSubject := "subject-1" }
  remote := widgets related
  repository := "acme/widgets"
  requested := "acme/widgets"
  queryScope := [("scope", .str "repository"), ("api_origin", .str apiOrigin)]
  pathPrefix := "/repos/acme/widgets"
  repo := [("id", .int 1), ("node_id", .str "R_1"), ("full_name", .str "acme/widgets"),
    ("visibility", .str "private"),
    ("permissions", .dict [("pull", .bool true), ("push", .bool true)])]

def readIssue (node title : String) (number : Int) (id : String) : IssueFacts where
  issueId := node
  numericId := id
  number := number
  title := title
  updatedAt := "2026-01-01T00:00:00Z"
  repositoryIdentity := "acme/widgets"
  repositoryUrl := "https://api.github.com/repos/acme/widgets"
  state := some "open"
  body := some (.str "")

def widgetsIssues : List IssueFacts :=
  [readIssue "I_9" "Ninth" 9 "2002", readIssue "I_1" "First" 7 "1001"]

section
attribute [local instance] ReferenceLibrary.referenceLibrary referenceUnicode referenceCasefold
  referenceIntegers readDatetimes

theorem widgets_records (related : Bool) : (widgetsRead related).records =
    .ok (widgetsIssues, if related then [parentRelation "I_9" "I_1"] else []) := by
  cases related <;> decide +kernel

def widgetsGuard (related : Bool) : Revalidator where
  fixedQueryScope := .dict [("scope", .str "repository"), ("api_origin", .str apiOrigin)]
  trustedDriverIdentity := "driver-1"
  read _ := (widgetsRead related).outcome

/-- The response of a read, with its digest. -/
def widgetsResponse (related : Bool) (contentDigest : String) : DriverReadResponse :=
  let issues := Value.list [.dict (readIssue "I_1" "First" 7 "1001").toDict,
    .dict (readIssue "I_9" "Ninth" 9 "2002").toDict]
  let relations := Value.list
    ((if related then [parentRelation "I_9" "I_1"] else []).map RemoteRelationshipRecord.toDict)
  let query := Value.dict [("scope", .str "repository"), ("api_origin", .str apiOrigin)]
  { requestedRepository := .str "acme/widgets", canonicalRepository := .str "acme/widgets"
    remoteRepositoryId := .str "1", authenticatedSubject := .str "subject-1"
    visibility := .str "private"
    permissions := .dict [("read", .bool true), ("write", .bool true)]
    capabilities := .dict [("issues", .bool true), ("relationships", .bool true)]
    queryScope := query, queryComplete := .bool true, paginationComplete := .bool true
    issueRecords := issues, relationshipRecords := relations
    evidenceMaterial := .list [.dict
      [("source_identity", .str "driver-1"), ("repository_identity", .str "acme/widgets"),
        ("query_scope", query),
        ("payload", .dict [("issue_records", issues), ("relationship_records", relations)])]]
    sourceIdentity := .str "driver-1", remoteContentDigest := .str contentDigest
    remoteRepositoryNodeId := .str "R_1" }

def widgetsContent (related : Bool) : Dict :=
  remoteContentPayload (widgetsResponse related "") "acme/widgets" "driver-1"

theorem widgets_normalized (related : Bool) :
    (CanonicalValues.normalize (.dict (widgetsContent related))).isOk = true := by
  cases related <;> decide +kernel

/-- What the digest of the driver is of. -/
theorem widgets_digest (related : Bool) : ∃ contentDigest,
    canonicalDigest (.dict (widgetsContent related)) = .ok contentDigest ∧
      PythonLibrary.strip contentDigest ≠ "" ∧
      ∀ content, (widgetsContent related).Perm content →
        canonicalDigest (.dict content) = .ok contentDigest := by
  have hok := widgets_normalized related
  cases hv : CanonicalValues.normalize (.dict (widgetsContent related)) with
  | error e =>
      rw [hv] at hok
      cases hok
  | ok v =>
      refine ⟨digest v, by rw [canonicalDigest, hv]; rfl, ?_, fun content hcontent => ?_⟩
      · have hhead : (digest v).toList.head? = some 's' := by
          rw [digest]
          simp [String.toList_append]
        exact reference_sampleText.visible _ 's' hhead (by decide)
      · rw [canonicalDigest, normalize_dict_perm hcontent hv]
        rfl

theorem widgets_response (related : Bool) : ∃ contentDigest,
    canonicalDigest (.dict (widgetsContent related)) = .ok contentDigest ∧
      PythonLibrary.strip contentDigest ≠ "" ∧
      (widgetsRead related).outcome = .response (widgetsResponse related contentDigest) := by
  obtain ⟨contentDigest, hdigest, hstrip, hcontent⟩ := widgets_digest related
  refine ⟨contentDigest, hdigest, hstrip, ?_⟩
  have hread : readRepositoryAfterAuth (widgetsRead related).reader (widgetsRead related).remote
      (widgetsRead related).repository (widgetsRead related).requested
      (widgetsRead related).queryScope (widgetsRead related).pathPrefix (widgetsRead related).repo =
        .ok (widgetsResponse related contentDigest) := by
    simp only [readRepositoryAfterAuth, bind_eq_ok]
    cases related
    · exact ⟨(), by decide +kernel, (), by decide +kernel, (true, true), by decide +kernel, _,
        widgets_records _, contentDigest, hcontent _ (by decide +kernel), rfl⟩
    · exact ⟨(), by decide +kernel, (), by decide +kernel, (true, true), by decide +kernel, _,
        widgets_records _, contentDigest, hcontent _ (by decide +kernel), rfl⟩
  rw [RepositoryRead.outcome, hread]

theorem widgets_observed (related : Bool) : ∃ contentDigest,
    (widgetsGuard related).observe "acme/widgets" "E1" =
      .ok (widgetsResponse related contentDigest) := by
  obtain ⟨contentDigest, hdigest, hstrip, houtcome⟩ := widgets_response related
  refine ⟨contentDigest, ?_⟩
  have hshape : shapeIsValid (widgetsResponse related contentDigest) = true := by
    have hfacts : shapeIsValid (widgetsResponse related "content-1") = true := by
      cases related <;> decide +kernel
    rw [shapeIsValid, Bool.and_eq_true] at hfacts ⊢
    exact ⟨hfacts.1, Option.isSome_iff_exists.mpr
      ⟨contentDigest, presentText?_eq_some.mpr ⟨rfl, hstrip⟩⟩⟩
  have hfailures : responseFailures (widgetsResponse related "content-1") "acme/widgets"
      "acme/widgets" (some "acme/widgets") (widgetsGuard related).fixedQueryScope
        "driver-1" = [] := by
    cases related <;> decide +kernel
  have hvalid : validateDriverFacts (.response (widgetsResponse related contentDigest))
      "acme/widgets" (widgetsGuard related).fixedQueryScope "driver-1" =
        .ok (widgetsResponse related contentDigest) := by
    have hrepository := sample_repository reference_sampleText
    have htrusted : PythonLibrary.strip "driver-1" ≠ "" := by decide
    refine validateDriverFacts_ok hrepository (fun h => h.elim htrusted fun h => by cases h) hshape
      (presentText?_eq_some.mpr ⟨rfl, htrusted⟩) ?_ hdigest rfl
    have hcanonical : normalizeRepositoryIdentity
        (widgetsResponse related contentDigest).canonicalRepository =
          .ok "acme/widgets" := hrepository
    rw [hcanonical]
    exact hfailures
  have hscope : (widgetsGuard related).fixedQueryScope.mapping?.getD [] ≠ [] :=
    fun h => by cases h
  have hread : (widgetsGuard related).read "E1" =
      .response (widgetsResponse related contentDigest) := houtcome
  unfold Revalidator.observe
  rw [if_neg hscope, hread]
  have hsame : validateDriverFacts (.response (widgetsResponse related contentDigest))
      "acme/widgets" (widgetsGuard related).fixedQueryScope
        (widgetsGuard related).trustedDriverIdentity =
      .ok (widgetsResponse related contentDigest) := hvalid
  rw [hsame]

/-! ### What was sealed -/

/-- Issue `9` as the Preview sealed it; it may have been renamed since. -/
def sealedNinth (renamed : Bool) : Dict :=
  [("body", .str ""), ("issue_id", .str "I_9"), ("issue_number", .int 9),
    ("item_type", .str "issue"), ("numeric_issue_id", .str "2002"),
    ("repository_identity", .str "acme/widgets"), ("state", .str "open"),
    ("title", .str (if renamed then "Former" else "Ninth")),
    ("updated_at", .str "2026-01-01T00:00:00Z")]

/-- The digest that a computation makes. -/
def madeDigest (made : Py String) : Value := .str (made.toOption.getD "")

theorem madeDigest_ok (made : String) : madeDigest (.ok made) = .str made := rfl

def ninthBinding (renamed : Bool) : Dict :=
  [("endpoint_ref", .str "E1"), ("selector_digest", .str "sha256:selector"),
    ("issue_id", .str "I_9"),
    ("remote_record_digest", .str (digest (.dict (sealedNinth renamed)))),
    ("identity_digest", madeDigest (identityDigest (sealedNinth renamed))),
    ("write_address_digest", madeDigest (writeAddressDigest (sealedNinth renamed))),
    ("semantic_digest", madeDigest (semanticDigest (sealedNinth renamed)))]

def ninthSnapshot (renamed : Bool) : Dict :=
  [("repository_identity", .str "acme/widgets"), ("query_scope", .dict []),
    ("query_complete", .bool true), ("pagination_complete", .bool true),
    ("issue_records", .list [.dict (sealedNinth renamed)]), ("permissions", .dict []),
    ("capabilities", .list []), ("relationship_records", .list []), ("evidence_ids", .list []),
    ("schema_version", .str "remote-snapshot-v2"), ("observed_at", .str "2026-01-01T00:00:00Z")]

def ninthPreview (renamed : Bool) : Dict :=
  [("canonical_version", .str "2"),
    ("existing_endpoint_bindings", .list [.dict (ninthBinding renamed)]),
    ("remote_snapshot", .dict (ninthSnapshot renamed))]

def ninthContext (renamed : Bool) : ExecutionContext :=
  { parentContext with
    existingEndpointBindings := [.dict (ninthBinding renamed)]
    remoteSnapshot := .dict (ninthSnapshot renamed) }

theorem ninth_snapshots (renamed : Bool) :
    Snapshots (ninthPreview renamed) (ninthContext renamed) := ⟨rfl, rfl, rfl⟩

theorem ninth_digests (renamed : Bool) :
    canonicalDigest (.dict (sealedNinth renamed)) = .ok (digest (.dict (sealedNinth renamed))) ∧
    (∃ made, identityDigest (sealedNinth renamed) = .ok made) ∧
    (∃ made, writeAddressDigest (sealedNinth renamed) = .ok made) ∧
      ∃ made, semanticDigest (sealedNinth renamed) = .ok made := by
  have hok : ∀ {x : Py String}, x.isOk = true → ∃ made, x = .ok made := by
    intro x hx
    cases x with
    | error => cases hx
    | ok made => exact ⟨made, rfl⟩
  have hnormal : CanonicalValues.normalize (.dict (sealedNinth renamed)) =
      .ok (.dict (sealedNinth renamed)) := by
    cases renamed <;> decide +kernel
  refine ⟨by rw [canonicalDigest, hnormal]; rfl, hok ?_, hok ?_, hok ?_⟩
  all_goals cases renamed <;> decide +kernel

theorem ninth_saved (renamed : Bool) : ∃ made,
    checkRemoteSnapshot (ninthPreview renamed) made = .ok () := by
  obtain ⟨hrecord, ⟨identity, hidentity⟩, ⟨address, haddress⟩, semantic, hsemantic⟩ :=
    ninth_digests renamed
  have hmade : ∃ made, snapshotDigest (.str "remote-snapshot-v2")
      (sealedSnapshotRecords (ninthSnapshot renamed)) = .ok made := by
    have hok : (snapshotDigest (.str "remote-snapshot-v2")
      (sealedSnapshotRecords (ninthSnapshot renamed))).isOk = true := by
      cases renamed <;> decide +kernel
    cases hmade : snapshotDigest (.str "remote-snapshot-v2")
      (sealedSnapshotRecords (ninthSnapshot renamed)) with
    | error e =>
        rw [hmade] at hok
        cases hok
    | ok made => exact ⟨made, rfl⟩
  obtain ⟨made, hmade⟩ := hmade
  have hbinding : checkEndpointBinding [sealedNinth renamed] (.dict (ninthBinding renamed)) =
      .ok () := by
    simp only [checkEndpointBinding, bind_eq_ok, orRaise_eq_ok, raiseIf_eq_ok, not_not]
    refine ⟨ninthBinding renamed, rfl, (), ?_, (), rfl, sealedNinth renamed, ?_, _, hrecord, (),
      rfl, _, hidentity, (), ?_, _, haddress, (), ?_, _, hsemantic, ?_⟩
    · exact Bool.not_eq_false _ ▸ rfl
    · rfl
    · change madeDigest (identityDigest (sealedNinth renamed)) = _
      rw [hidentity, madeDigest_ok]
    · change madeDigest (writeAddressDigest (sealedNinth renamed)) = _
      rw [haddress, madeDigest_ok]
    · change madeDigest (semanticDigest (sealedNinth renamed)) = _
      rw [hsemantic, madeDigest_ok]
  refine ⟨some made, ?_⟩
  have hremote : (ninthPreview renamed).get "remote_snapshot" = .dict (ninthSnapshot renamed) := rfl
  rw [checkRemoteSnapshot, hremote]
  have htwo : isVersion2 (ninthPreview renamed) := rfl
  simp only [bind_eq_ok, raiseIf_eq_ok, if_pos htwo, orRaise_eq_ok]
  exact ⟨(), (by rintro (h | h) <;> cases h), made, hmade, (), by simp, _, rfl, _, rfl,
    forM_eq_ok.mpr fun b hb => by
      obtain rfl := List.mem_singleton.mp hb
      exact hbinding⟩

/-! ### Its claim -/

theorem ninth_existing (renamed : Bool) :
    referenceFromExistingBinding (ninthContext renamed) "E1" = .ok parentCommand.first := by
  have hmade : RemoteIssueReference.make (.str "acme/widgets") (.int 9) (.str "2002")
      (.str "I_9") = .ok parentCommand.first :=
    sample_reference reference_sampleText (c := '2') (d := 'I') (by decide) rfl rfl rfl rfl
  simp only [referenceFromExistingBinding, bind_eq_ok, orRaise_eq_ok, raiseIf_eq_ok]
  refine ⟨(), not_not.mpr rfl, some (ninthBinding renamed), rfl, _, rfl, ninthSnapshot renamed,
    rfl, _, rfl, some (sealedNinth renamed), rfl, sealedNinth renamed, rfl, (), not_not.mpr rfl, (),
    ?_, ?_⟩
  · rintro (h | h)
    · exact h rfl
    · exact h rfl
  · have hread : (do
        let issueNumber ← Dict.require (sealedNinth renamed) "issue_number"
        let numericIssueId ← Dict.require (sealedNinth renamed) "numeric_issue_id"
        let issueId ← Dict.require (sealedNinth renamed) "issue_id"
        RemoteIssueReference.make (.str (ninthContext renamed).authority.repositoryIdentity)
          issueNumber (.str (Value.toText numericIssueId)) issueId) =
        .ok parentCommand.first := by
      cases renamed <;> exact hmade
    rw [hread]
    rfl

theorem ninth_references (renamed : Bool) {t : Tables} (ht : StoredParent "result-1" t) :
    resolvedReferences (ninthContext renamed).identity.values.workspaceIdentity
      (ninthContext renamed) parentOperation.clientRefs (fun _ => t) =
        .ok [parentCommand.first, parentCommand.second] := by
  have hcreated : referenceFromReceipt (ninthContext renamed).identity.values.workspaceIdentity
      (ninthContext renamed) t "A" = .ok parentCommand.second :=
    parent_created reference_sampleText ht
  simp only [resolvedReferences, parentOperation_endpoints, bind_eq_ok, orRaise_eq_ok]
  exact ⟨_, rfl, mapM_eq_ok.mpr (.cons (ninth_existing renamed) (.cons hcreated .nil))⟩

/-- A held claim of the relationship. -/
structure NinthClaim (renamed : Bool) (claim : Claim) (t : Tables) : Prop where
  context : claim.context = ninthContext renamed
  operation : claim.attempt.operation = parentOperation
  stored : StoredParent "result-1" t
  valid : ∀ env, env.capability = true → (∀ i, env.current i = true) →
    (∀ point, env.read point = t) → validateClaim env claim = .ok ()

theorem ninth_claim (renamed : Bool) : ∃ claim t, NinthClaim renamed claim t := by
  obtain ⟨stored, hstored⟩ := storedParent_exists "result-1" (by decide)
  obtain ⟨s, -, hprogress, hstarted, hidentity, hanchor, hmanaged⟩ :=
    newExecutionState_ok (ninthContext renamed) 0
  -- the first operation is done
  let progress : ExecutionProgress :=
    { ExecutionContext.initialProgress 0 with state := .partiallyApplied, nextOperationIndex := 1 }
  obtain ⟨s', hnext⟩ : ∃ next, (ninthContext renamed).continueExecutionState true s.withDigest
      progress = .ok next :=
    continueExecutionState_ok progress ⟨hidentity, hanchor⟩ s.verifyIntegrity_withDigest
      ⟨fun ref href => absurd href List.not_mem_nil, List.nodup_nil⟩ fun _ => ⟨rfl, rfl⟩
  have hcontinued := continueExecutionState_spec hnext
  have hs := hcontinued.progress
  have hindex : s'.withDigest.nextOperationIndex = 1 :=
    congrArg ExecutionProgress.nextOperationIndex hs
  have hupdated : s'.withDigest.updatedAt = 0 := congrArg ExecutionProgress.updatedAt hs
  have hclock : s'.withDigest.startedAt = 0 := hcontinued.startedAt.trans hstarted
  let t : Tables := { Tables.empty with
    operationReceipts := stored.operationReceipts, execution := some s'.withDigest }
  have hplace : (ninthContext renamed).expectedOperations[s'.withDigest.nextOperationIndex]? =
      some parentOperation := by
    rw [hindex]
    rfl
  obtain ⟨t', state, attempt, hclaimed⟩ : ∃ t' state attempt, claimNextOperation true alwaysCurrent
      t (ninthContext renamed).identity.applicationId s'.withDigest.stateDigest
      (ninthContext renamed) sampleOwner 10 = .ok (t', state, attempt) :=
    claimNextOperation_ok rfl (hcontinued.orchestrationPolicy.trans hmanaged) hcontinued.intact
      (.inr (congrArg ExecutionProgress.state hs))
      ⟨congrArg ExecutionProgress.ownerId hs, congrArg ExecutionProgress.currentAttemptId hs⟩
      ⟨hcontinued.identity.trans hidentity, hcontinued.continuityAnchor.trans hanchor⟩ (by decide)
      hplace ⟨by rw [hclock]; decide, by rw [hupdated]; decide⟩ (Rows.lookup_empty _)
  obtain ⟨previous, hspec⟩ := claimNextOperation_spec hclaimed
  obtain rfl : s'.withDigest = previous := Option.some.inj hspec.found
  have hoperation := hspec.made.operation
  rw [hindex] at hoperation
  obtain ⟨attempts, -, htables⟩ := hspec.inserted
  refine ⟨⟨ninthContext renamed, state, attempt, sampleOwner⟩, t', rfl,
    (Option.some.inj hoperation).symm, ?_, fun env hcapability hcurrent hread => ?_⟩
  · rw [htables]
    exact ⟨hstored.stored, hstored.receipt⟩
  · exact validateClaim_ok (claimed_heldClaim hspec)
      (hspec.continued.identity.trans (hcontinued.identity.trans hidentity)) hspec.made.identity
      hread hcapability (hcurrent 0)

/-- What the semantic digest of issue `9` is of. -/
def ninthSemantics (renamed : Bool) : Value :=
  .dict [("body", .str ""), ("domain", .str "delivery-system:existing-issue-semantics:v1"),
    ("item_type", .str "issue"), ("state", .str "open"),
    ("title", .str (if renamed then "Former" else "Ninth"))]

theorem ninth_semantic (renamed : Bool) :
    semanticDigest (sealedNinth renamed) = .ok (digest (ninthSemantics renamed)) := by
  have hnormal : CanonicalValues.normalize (.dict
      [("domain", .str "delivery-system:existing-issue-semantics:v1"), ("item_type", .str "issue"),
        ("title", .str (if renamed then "Former" else "Ninth")), ("body", .str ""),
        ("state", .str "open")]) = .ok (ninthSemantics renamed) := by
    cases renamed <;> decide +kernel
  simp only [semanticDigest, bind_eq_ok]
  refine ⟨.str "issue", rfl, .str (if renamed then "Former" else "Ninth"), rfl,
    if renamed then "Former" else "Ninth", by cases renamed <;> decide +kernel, "",
    by cases renamed <;> decide +kernel, .str "open", rfl, "open", by decide +kernel, ?_⟩
  rw [canonicalDigest, hnormal]
  rfl

theorem ninth_renamed : digest (ninthSemantics false) ≠ digest (ninthSemantics true) := by
  rw [ReferenceLibrary.referenceLibrary_digest, ReferenceLibrary.referenceLibrary_digest]
  decide +kernel

/-- Issue `9` as it is read. -/
def readNinth : Dict := v2RecordFromDriver (readIssue "I_9" "Ninth" 9 "2002").toDict

theorem ninth_checked (renamed related : Bool) (contentDigest : String) :
    checkEndpoint "acme/widgets" (ninthBinding renamed) (widgetsResponse related contentDigest) =
      raiseIf (Dict.get (ninthBinding renamed) "semantic_digest" ≠
        .str (digest (ninthSemantics false))) "existing_endpoint_semantic_stale" := by
  obtain ⟨-, ⟨identity, hidentity⟩, ⟨address, haddress⟩, -⟩ := ninth_digests renamed
  have hfound : (((records? (widgetsResponse related contentDigest).issueRecords).getD []).map
      v2RecordFromDriver).find? (fun record =>
        Dict.get record "issue_id" = (ninthBinding renamed).get "issue_id") = some readNinth := by
    rfl
  have hread : identityDigest readNinth = .ok identity := hidentity
  have hread' : writeAddressDigest readNinth = .ok address := haddress
  have hread'' : semanticDigest readNinth = .ok (digest (ninthSemantics false)) :=
    ninth_semantic false
  have hsame : (ninthBinding renamed).get "identity_digest" = .str identity := by
    change madeDigest (identityDigest (sealedNinth renamed)) = _
    rw [hidentity, madeDigest_ok]
  have hsame' : (ninthBinding renamed).get "write_address_digest" = .str address := by
    change madeDigest (writeAddressDigest (sealedNinth renamed)) = _
    rw [haddress, madeDigest_ok]
  have hissue : ¬(readNinth.get "repository_identity" ≠ .str "acme/widgets" ∨
      readNinth.get "item_type" ≠ .str "issue") := by
    decide +kernel
  simp only [checkEndpoint, hfound, orRaise, hread, hread', hread'', hsame, hsame', raiseIf,
    if_neg hissue, bind, Except.bind, ne_eq, not_true_eq_false, if_false]

theorem ninth_accepted (related : Bool) : ∃ response,
    Accepted (widgetsGuard related) (ninthContext false) "E1" response := by
  obtain ⟨contentDigest, hobserved⟩ := widgets_observed related
  refine ⟨_, hobserved, _, rfl, (ninth_checked false related contentDigest).trans ?_⟩
  rw [raiseIf_eq_ok, not_not]
  change madeDigest (semanticDigest (sealedNinth false)) = _
  rw [ninth_semantic, madeDigest_ok]

/-! ### Its reads -/

/-- The pieces of a run of the claim revalidate its endpoint by a read. -/
def ninthEnvironment (renamed related : Bool) (t : Tables) : Environment :=
  { sampleEnvironment 10 t with
    revalidate := (widgetsGuard related).composed
      (ninthContext renamed).identity.values.workspaceIdentity (ninthContext renamed)
      parentOperation (fun _ => t) }

/-- The endpoints of its operation. -/
def ninthEndpoints : List Endpoint := [⟨.existingIssue, "E1"⟩, ⟨.workItem, "A"⟩]

theorem ninth_revalidated {renamed : Bool} {claim : Claim} {t : Tables}
    (h : NinthClaim renamed claim t) (related : Bool) :
    Revalidated (widgetsGuard related) (fun _ => widgetsRead related) ninthEndpoints
      (ninthEnvironment renamed related t) claim where
  version := by rw [h.context]; rfl
  kind := by rw [h.operation]; decide
  operands := by rw [h.operation]; exact parentOperation_endpoints
  existing := by decide
  revalidate := by rw [h.context, h.operation]; rfl
  read _ _ := rfl

theorem ninth_distinct : SameIssues widgetsIssues widgetsIssues := by
  have hids : canonicalText "2002" ≠ canonicalText "1001" := by decide +kernel
  intro i hi j hj h
  rcases List.mem_pair.mp hi with rfl | rfl <;> rcases List.mem_pair.mp hj with rfl | rfl
  · rfl
  · exact absurd h (not_or.mpr ⟨by decide, hids⟩)
  · exact absurd h (not_or.mpr ⟨by decide, hids.symm⟩)
  · rfl

theorem ninth_consistent (renamed related : Bool) {t : Tables} (ht : StoredParent "result-1" t) :
    ConsistentReads (ninthContext renamed).identity.values.workspaceIdentity
      (ninthContext renamed) (fun _ => t) ninthEndpoints
      (fun _ => widgetsRead related) where
  sameIssues _ _ _ _ found found' hfound hfound' := by
    rw [widgets_records] at hfound hfound'
    obtain rfl := Except.ok.inj hfound
    obtain rfl := Except.ok.inj hfound'
    exact ninth_distinct
  created _ _ found hfound entry hentry hkind reference hreference := by
    rw [widgets_records] at hfound
    obtain rfl := Except.ok.inj hfound
    rcases List.mem_pair.mp hentry with rfl | rfl
    · cases hkind
    · have hcreated : referenceFromReceipt (ninthContext renamed).identity.values.workspaceIdentity
          (ninthContext renamed) t "A" = .ok parentCommand.second :=
        parent_created reference_sampleText ht
      obtain rfl := Except.ok.inj (hcreated.symm.trans hreference)
      intro i hi h
      rcases List.mem_pair.mp hi with rfl | rfl
      · exact absurd h (by decide)
      · rfl
  collisionFree _ _ found hfound record hrecord i hi hid v v' hv hv' _ := by
    rw [widgets_records] at hfound
    obtain rfl := Except.ok.inj hfound
    obtain rfl : record = sealedNinth renamed := List.mem_singleton.mp hrecord
    rcases List.mem_pair.mp hi with rfl | rfl
    · exact Except.ok.inj (hv.symm.trans hv')
    · exact absurd hid (by cases renamed <;> decide)

theorem ninth_reported : (widgetsRead true).Reports
    widgetsIssues
    ⟨relationKind parentOperation.operationKind, parentCommand.first.nodeId,
      parentCommand.second.nodeId⟩ :=
  (reported_iff (widgets_records true) _).mp (List.mem_singleton.mpr rfl)

/-- The command of the claim waits for the revalidation of its one existing endpoint. -/
theorem ninth_materialized {renamed : Bool} {claim : Claim} {t : Tables}
    (h : NinthClaim renamed claim t) (revalidate : String → Py Unit) :
    materialize claim.context.identity.values.workspaceIdentity claim.context claim.attempt
        (fun _ => t) revalidate =
      (revalidate "E1" >>= fun _ => .ok (.relationship parentCommand)) := by
  have hcommand : RelationshipCommand.make "acme/widgets" parentCommand.first
      parentCommand.second = .ok parentCommand := by
    simp only [RelationshipCommand.make, bind_eq_ok, raiseIf_eq_ok, pure_eq_ok]
    exact ⟨_, sample_repository reference_sampleText, (), by decide, rfl⟩
  have hrepository : (ninthContext renamed).authority.repositoryIdentity = "acme/widgets" := rfl
  have hreferences := ninth_references renamed h.stored
  rw [← h.operation] at hreferences
  rw [h.context, materialize_resolved rfl (by rw [h.operation]; decide)
    (by rw [h.operation]; exact parentOperation_endpoints) hreferences (by decide), hrepository,
    hcommand]
  have hrefs : existingRefs [⟨.existingIssue, "E1"⟩, ⟨.workItem, "A"⟩] = ["E1"] := by decide
  rw [hrefs, List.forM_eq_forM, List.forM_cons, List.forM_nil]
  cases revalidate "E1" <;> rfl

/-- The former title is not the one that is read. -/
theorem ninth_unsealed : (ninthBinding true).get "semantic_digest" ≠
    .str (digest (ninthSemantics false)) := by
  change madeDigest (semanticDigest (sealedNinth true)) ≠ _
  rw [ninth_semantic, madeDigest_ok]
  exact fun heq => ninth_renamed (Value.str.inj heq).symm

theorem ninth_refused {claim : Claim} {t : Tables} (h : NinthClaim true claim t) :
    (ninthEnvironment true true t).revalidate "E1" =
      .error (.valueError "existing_endpoint_semantic_stale") := by
  obtain ⟨contentDigest, hobserved⟩ := widgets_observed true
  have hchecked : checkEndpoint "acme/widgets" (ninthBinding true)
      (widgetsResponse true contentDigest) =
        .error (.valueError "existing_endpoint_semantic_stale") := by
    rw [ninth_checked, raiseIf, if_pos ninth_unsealed]
  exact composed_of_refused (ninth_references true h.stored) rfl hobserved hchecked

/-- The relation is there, but the endpoint was renamed: the operation is blocked with the code
of the endpoint. -/
theorem ninth_stale {claim : Claim} {t : Tables} (h : NinthClaim true claim t) (run : Nat) :
    Applier.advance (ninthEnvironment true true t) run t (.claimed claim) =
      (t, .settling claim .blocked "existing_endpoint_semantic_stale" false, []) := by
  have hprepare : prepare (ninthEnvironment true true t) claim =
      .error (.valueError "existing_endpoint_semantic_stale") := by
    have hvalid := h.valid (ninthEnvironment true true t) rfl (fun _ => rfl) fun _ => rfl
    have hcommand := ninth_materialized h (ninthEnvironment true true t).revalidate
    rw [ninth_refused h] at hcommand
    unfold prepare
    rw [hvalid]
    exact hcommand
  simp only [Applier.advance, hprepare]
  rfl

theorem ninth_present {claim : Claim} {t : Tables} (h : NinthClaim false claim t) :
    (∀ ref ∈ existingRefs ninthEndpoints,
      ∃ response, Accepted (widgetsGuard true) claim.context ref response) ∧
    resolvedReferences claim.context.identity.values.workspaceIdentity claim.context
      claim.attempt.operation.clientRefs (fun _ => t) =
        .ok [parentCommand.first, parentCommand.second] ∧
    (widgetsRead true).Reports widgetsIssues
      ⟨relationKind claim.attempt.operation.operationKind, parentCommand.first.nodeId,
        parentCommand.second.nodeId⟩ := by
  rw [h.context, h.operation]
  refine ⟨fun ref href => ?_, ninth_references false h.stored, ninth_reported⟩
  obtain rfl : ref = "E1" := List.mem_singleton.mp href
  exact ninth_accepted true

/-- Where the relation is not there, the command is made. -/
theorem ninth_absent {claim : Claim} {t : Tables} (h : NinthClaim false claim t) :
    materialize claim.context.identity.values.workspaceIdentity claim.context claim.attempt
      (ninthEnvironment false false t).operandRead (ninthEnvironment false false t).revalidate =
        .ok (.relationship parentCommand) := by
  obtain ⟨response, haccepted⟩ := ninth_accepted false
  have houtcome : (widgetsRead false).outcome = .response response := observe_spec haccepted.1
  have hrevalidated : (ninthEnvironment false false t).revalidate "E1" = .ok () := by
    have hkind : relationshipKinds parentOperation.operationKind ≠ none := by decide
    have hrun : (ninthEnvironment false false t).revalidate "E1" = _ :=
      composed_of_accepted hkind (ninth_references false h.stored) (by decide) haccepted
    refine hrun.trans (raiseIf_eq_ok.mpr fun hpresent => ?_)
    have hreported :=
      (RepositoryRead.reports_iff houtcome (widgets_records false) _ _ _).mpr hpresent
    exact List.not_mem_nil ((reported_iff (widgets_records false) _).mpr hreported)
  have hcommand := ninth_materialized h (ninthEnvironment false false t).revalidate
  rw [hrevalidated] at hcommand
  exact hcommand

end

/-- A relation that is there does not show where the endpoint was changed since it was sealed. -/
theorem stale_endpoint_first :
    ∃ (_ : PythonLibrary) (_ : UnicodeLibrary) (_ : CasefoldLibrary) (_ : IntegerLibrary)
      (_ : DatetimeLibrary) (canonical : Dict) (remoteSnapshotDigest : Option String)
      (v : Revalidator) (reads : String → RepositoryRead) (endpoints : List Endpoint)
      (env : Environment) (claim : Claim) (t : Tables) (first second : RemoteIssueReference)
      (ref : String) (found : List IssueFacts × List RemoteRelationshipRecord),
      checkRemoteSnapshot canonical remoteSnapshotDigest = .ok () ∧
        Snapshots canonical claim.context ∧ Revalidated v reads endpoints env claim ∧
        ConsistentReads claim.context.identity.values.workspaceIdentity claim.context
          env.operandRead endpoints reads ∧
        resolvedReferences claim.context.identity.values.workspaceIdentity claim.context
          claim.attempt.operation.clientRefs env.operandRead = .ok [first, second] ∧
        ref ∈ existingRefs endpoints ∧ (reads ref).records = .ok found ∧
        (reads ref).Reports found.1 ⟨relationKind claim.attempt.operation.operationKind,
          first.nodeId, second.nodeId⟩ ∧
        validateClaim env claim = .ok () ∧
        Applier.advance env 0 t (.claimed claim) =
          (t, .settling claim .blocked "existing_endpoint_semantic_stale" false, []) := by
  obtain ⟨claim, t, h⟩ := ninth_claim true
  obtain ⟨made, hsaved⟩ := ninth_saved true
  refine ⟨ReferenceLibrary.referenceLibrary, referenceUnicode, referenceCasefold,
    referenceIntegers, readDatetimes, ninthPreview true, made, widgetsGuard true,
    fun _ => widgetsRead true, ninthEndpoints, ninthEnvironment true true t, claim, t,
    parentCommand.first, parentCommand.second, "E1", _, hsaved, ?_, ninth_revalidated h true,
    ?_, ?_, List.mem_singleton.mpr rfl, widgets_records true, ?_,
    h.valid _ rfl (fun _ => rfl) fun _ => rfl, ninth_stale h 0⟩
  · rw [h.context]
    exact ninth_snapshots true
  · rw [h.context]
    exact ninth_consistent true true h.stored
  · rw [h.context, h.operation]
    exact ninth_references true h.stored
  · rw [h.operation]
    exact ninth_reported

/-- The sealed issue is set below the created one where it is not there yet, and the operation is
blocked where it is. -/
theorem guarded_edge_sample :
    ∃ (_ : PythonLibrary) (_ : UnicodeLibrary) (_ : CasefoldLibrary) (_ : IntegerLibrary)
      (_ : WireLibrary) (read : Bool → RepositoryRead) (env : Bool → Environment)
      (claim : Claim) (t : Tables) (made : RelationshipCommand),
      materialize claim.context.identity.values.workspaceIdentity claim.context claim.attempt
          (env false).operandRead (env false).revalidate = .ok (.relationship made) ∧
        (∃ found, (read false).records = .ok found ∧ ∀ request record,
          commandRequest claim.attempt.operation.operationKind made = .ok request →
            Inserts found.1 request record → ¬(read false).Reports found.1 record) ∧
        Applier.advance (env true) 0 t (.claimed claim) =
          (t, .settling claim .blocked "relationship_already_exists" false, []) := by
  obtain ⟨claim, t, h⟩ := ninth_claim false
  obtain ⟨snapshotDigest, hsaved⟩ := ninth_saved false
  let _ := ReferenceLibrary.referenceLibrary
  let _ := referenceUnicode
  let _ := referenceCasefold
  let _ := referenceIntegers
  let _ := readDatetimes
  let _ := CreationReceipts.sampleWire
  have hsnapshots : Snapshots (ninthPreview false) claim.context := by
    rw [h.context]
    exact ninth_snapshots false
  have hreads (related : Bool) : ConsistentReads claim.context.identity.values.workspaceIdentity
      claim.context (ninthEnvironment false related t).operandRead
      ninthEndpoints (fun _ => widgetsRead related) := by
    rw [h.context]
    exact ninth_consistent false related h.stored
  have hmem : "E1" ∈ existingRefs ninthEndpoints :=
    List.mem_singleton.mpr rfl
  obtain ⟨made, hmade, hguarded⟩ := (guarded_edge hsaved hsnapshots (ninth_revalidated h false)
    (hreads false)).1 _ (ninth_absent h)
  obtain rfl := IssueCommand.relationship.inj hmade
  obtain ⟨found, hfound, hunreported⟩ := hguarded "E1" hmem
  obtain ⟨haccepted, hreferences, hreported⟩ := ninth_present h
  have hblocked := (guarded_edge hsaved hsnapshots (ninth_revalidated h true) (hreads true)).2
    _ _ hreferences (by decide) haccepted "E1" hmem _ (widgets_records true) hreported 0 t
    (h.valid _ rfl (fun _ => rfl) fun _ => rfl)
  exact ⟨ReferenceLibrary.referenceLibrary, referenceUnicode, referenceCasefold, referenceIntegers,
    CreationReceipts.sampleWire, widgetsRead, fun related => ninthEnvironment false related t,
    claim, t, parentCommand, ninth_absent h, ⟨found, hfound.records, hunreported⟩, hblocked.1⟩

end DeliverySystem.GuardedEdges

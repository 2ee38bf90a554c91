import DeliverySystem.PairedLists
import DeliverySystem.RemoteSnapshots

/-!
# Reading a repository

The read driver lists the issues of a repository and asks for the relations of
each: its sub-issues, its parent, what blocks it and what it blocks. Before
anything is taken from a read, the preflight validates what the driver returned.
-/
namespace DeliverySystem.RemoteReads
open PythonValues CanonicalValues ExecutionContexts IssueCommands AuditRecords EvidenceRecords
open RemoteSnapshots
set_option autoImplicit false

/-- `if condition: raise DriverError(code)`. -/
def refuseIf (condition : Prop) [Decidable condition] (code : String) : Py Unit :=
  if condition then .error (.driverError code) else .ok ()

@[simp] theorem refuseIf_eq_ok {condition : Prop} [Decidable condition] {code : String} {u : Unit} :
    refuseIf condition code = .ok u ↔ ¬condition := by
  unfold refuseIf
  split_ifs with h <;> simp [h]

/-- What the remote answers to the requests of one read: a collection of objects that is
read page by page, up to a limit, and a single object. -/
structure Remote where
  collection : String → Option Nat → Py (List Dict)
  get : String → Py Value

def apiOrigin : String := "https://api.github.com"

/-! ## Issues -/

/-- An issue as the driver normalizes it. -/
structure IssueFacts where
  issueId : String
  numericId : String
  number : Int
  title : String
  updatedAt : String
  repositoryIdentity : String
  repositoryUrl : String
  state : Option String
  body : Option Value
deriving DecidableEq

def IssueFacts.toDict (i : IssueFacts) : Dict :=
  [("issue_id", .str i.issueId), ("numeric_id", .str i.numericId), ("node_id", .str i.issueId),
    ("number", .int i.number), ("item_type", .str "issue"), ("title", .str i.title),
    ("updated_at", .str i.updatedAt), ("repository_identity", .str i.repositoryIdentity),
    ("repository_url", .str i.repositoryUrl)] ++
    i.state.toList.map (fun state => ("state", .str state)) ++
    i.body.toList.map fun body => ("body", body)

/-- `text.rstrip("/")` -/
def withoutSlashes (text : String) : String :=
  String.ofList (text.toList.reverse.dropWhile (· = '/')).reverse

section
variable [PythonLibrary] [IntegerLibrary] [CasefoldLibrary]

/-- The name of a repository in an object, compared without case and final slashes. -/
def atRepository (raw : Dict) (url : String) : Bool :=
  PythonLibrary.lower (withoutSlashes (Value.toText (getOr raw "repository_url" (.str "")))) =
    PythonLibrary.lower url

def requiredIssueFields : List String :=
  ["id", "node_id", "number", "title", "updated_at", "repository_url"]

/-- `_issue`; a pull request is no issue. -/
def issue (repository : String) (raw : Dict) : Py (Option IssueFacts) :=
  if raw.get "pull_request" ≠ .null then pure none
  else do
    refuseIf (∃ key ∈ requiredIssueFields, raw.get key = .null) "driver_response_invalid"
    let body := raw.lookup "body"
    refuseIf ((body.any fun body => decide (body ≠ .null ∧ body.text? = none)) = true)
      "driver_response_invalid"
    let number ← match Value.toInteger (raw.get "number") with
      | .error .typeError | .error (.valueError _) =>
          .error (.driverError "driver_response_invalid")
      | result => result
    let title ← orRaise (presentText? (raw.get "title")) (.driverError "driver_response_invalid")
    let updatedAt ← orRaise (presentText? (raw.get "updated_at"))
      (.driverError "driver_response_invalid")
    refuseIf (atRepository raw (apiOrigin ++ "/repos/" ++ repository) = false)
      "relationship_scope_invalid"
    let state := ((raw.get "state").text?.map CasefoldLibrary.casefold).filter
      fun state => state ∈ ["open", "closed"]
    pure (some
      { issueId := Value.toText (raw.get "node_id"), numericId := Value.toText (raw.get "id")
        number, title, updatedAt, repositoryIdentity := repository
        repositoryUrl := Value.toText (raw.get "repository_url"), state, body })

/-! ## Relations -/

/-- An issue that another one is related to, which has to be one of those listed. -/
def relatedIssue (repository : String) (ids : List String) (raw : Dict) : Py IssueFacts := do
  let target ← issue repository raw
  let target ← orRaise target (.driverError "relationship_scope_invalid")
  refuseIf (target.issueId ∉ ids) "relationship_scope_invalid"
  pure target

def issuePath (pathPrefix : String) (number : Int) (suffix : String) : String :=
  pathPrefix ++ "/issues/" ++ toString number ++ suffix

/-- Sub-issues that are not there are out of the scope of the read. -/
def withinScope (answer : Py (List Dict)) : Py (List Dict) :=
  match answer with
  | .error e =>
      if e = .driverError "remote_resource_not_found" ∨ e = .driverError "remote_resource_gone" then
        .error (.driverError "relationship_scope_invalid")
      else .error e
  | .ok raws => .ok raws

/-- The relation of an issue to its parent. -/
def parentRelation (child parent : String) : RemoteRelationshipRecord :=
  ⟨"existing_parent", child, parent⟩

/-- The relation of an issue to one that blocks it. -/
def dependencyRelation (dependent prerequisite : String) : RemoteRelationshipRecord :=
  ⟨"existing_dependency", dependent, prerequisite⟩

variable (remote : Remote) (pathPrefix repository : String) (ids : List String)

def subIssueRelations (item : IssueFacts) : Py (List RemoteRelationshipRecord) := do
  let subs ← withinScope
    (remote.collection (issuePath pathPrefix item.number "/sub_issues?per_page=100") none)
  let targets ← subs.mapM (relatedIssue repository ids)
  pure (targets.map fun target => parentRelation target.issueId item.issueId)

def parentRelations (item : IssueFacts) : Py (List RemoteRelationshipRecord) :=
  match remote.get (issuePath pathPrefix item.number "/parent") with
  | .ok (.dict parent) => do
      let target ← relatedIssue repository ids parent
      pure [parentRelation item.issueId target.issueId]
  | .ok _ => .ok []
  | .error e => if e = .driverError "remote_resource_not_found" then .ok [] else .error e

/-- The two collections of dependencies differ in which issue is the dependent. -/
def dependencyRelations (suffix : String) (relation : String → String → RemoteRelationshipRecord)
    (item : IssueFacts) : Py (List RemoteRelationshipRecord) := do
  let raws ← remote.collection (issuePath pathPrefix item.number (suffix ++ "?per_page=100")) none
  let targets ← raws.mapM (relatedIssue repository ids)
  pure (targets.map fun target => relation item.issueId target.issueId)

def relationsOf (item : IssueFacts) : Py (List RemoteRelationshipRecord) := do
  let children ← subIssueRelations remote pathPrefix repository ids item
  let parents ← parentRelations remote pathPrefix repository ids item
  let blockedBy ← dependencyRelations remote pathPrefix repository ids "/dependencies/blocked_by"
    dependencyRelation item
  let blocking ← dependencyRelations remote pathPrefix repository ids "/dependencies/blocking"
    (fun item target => dependencyRelation target item) item
  pure (children ++ parents ++ blockedBy ++ blocking)

/-- The issues of a repository and their relations. -/
def readRecords : Py (List IssueFacts × List RemoteRelationshipRecord) := do
  let raws ← remote.collection (pathPrefix ++ "/issues?state=all&per_page=100") (some 100)
  refuseIf (∃ raw ∈ raws, Dict.get raw "pull_request" = .null ∧
    atRepository raw (apiOrigin ++ pathPrefix) = false) "repository_identity_mismatch"
  let made ← raws.mapM (issue repository)
  let issues := made.filterMap id
  let relations ← issues.mapM (relationsOf remote pathPrefix repository (issues.map (·.issueId)))
  pure (issues, relations.flatten)

/-- An answer to one of the requests about an issue reports the relation: one of its
sub-issues, its parent, what blocks it or what it blocks. -/
inductive ReportedAt (item : IssueFacts) : RemoteRelationshipRecord → Prop
  | subIssue {child : IssueFacts} {raws : List Dict} {raw : Dict}
      (hraws : remote.collection
        (issuePath pathPrefix item.number "/sub_issues?per_page=100") none = .ok raws)
      (hraw : raw ∈ raws) (hchild : issue repository raw = .ok (some child)) :
      ReportedAt item (parentRelation child.issueId item.issueId)
  | parent {parent : IssueFacts} {raw : Dict}
      (hraw : remote.get (issuePath pathPrefix item.number "/parent") = .ok (.dict raw))
      (hparent : issue repository raw = .ok (some parent)) :
      ReportedAt item (parentRelation item.issueId parent.issueId)
  | blockedBy {prerequisite : IssueFacts} {raws : List Dict} {raw : Dict}
      (hraws : remote.collection
        (issuePath pathPrefix item.number "/dependencies/blocked_by?per_page=100") none = .ok raws)
      (hraw : raw ∈ raws) (hprerequisite : issue repository raw = .ok (some prerequisite)) :
      ReportedAt item (dependencyRelation item.issueId prerequisite.issueId)
  | blocking {dependent : IssueFacts} {raws : List Dict} {raw : Dict}
      (hraws : remote.collection
        (issuePath pathPrefix item.number "/dependencies/blocking?per_page=100") none = .ok raws)
      (hraw : raw ∈ raws) (hdependent : issue repository raw = .ok (some dependent)) :
      ReportedAt item (dependencyRelation dependent.issueId item.issueId)

/-- Some answer of the remote reports the relation. -/
def Reported (issues : List IssueFacts) (record : RemoteRelationshipRecord) : Prop :=
  ∃ item ∈ issues, ReportedAt remote pathPrefix repository item record

end

section
variable [PythonLibrary] [IntegerLibrary] [CasefoldLibrary]
variable {remote : Remote} {pathPrefix repository : String} {ids : List String}

theorem relatedIssue_eq_ok {raw : Dict} {target : IssueFacts} :
    relatedIssue repository ids raw = .ok target ↔
      issue repository raw = .ok (some target) ∧ target.issueId ∈ ids := by
  simp only [relatedIssue, bind_eq_ok, orRaise_eq_ok, refuseIf_eq_ok, not_not, pure_eq_ok]
  constructor
  · rintro ⟨_, hissue, _, rfl, _, hmem, rfl⟩
    exact ⟨hissue, hmem⟩
  · rintro ⟨hissue, hmem⟩
    exact ⟨some target, hissue, target, rfl, (), hmem, rfl⟩

omit [PythonLibrary] [IntegerLibrary] [CasefoldLibrary] in
theorem mem_of_mapM {α β : Type} {f : α → Py β} {xs : List α} {ys : List β}
    (h : xs.mapM f = .ok ys) {y : β} : y ∈ ys ↔ ∃ x ∈ xs, f x = .ok y := by
  refine ⟨exists_of_mem_mapM h, ?_⟩
  rintro ⟨x, hx, hy⟩
  obtain ⟨y', hmem, hy'⟩ := PairedLists.mem_left (mapM_eq_ok.mp h) hx
  rw [Except.ok.inj (hy.symm.trans hy')]
  exact hmem

/-- The targets of one collection. -/
theorem mem_targets {raws : List Dict} {targets : List IssueFacts}
    (h : raws.mapM (relatedIssue repository ids) = .ok targets)
    (relation : IssueFacts → RemoteRelationshipRecord) {record : RemoteRelationshipRecord} :
    record ∈ targets.map relation ↔ ∃ raw ∈ raws, ∃ target,
      issue repository raw = .ok (some target) ∧ relation target = record := by
  rw [List.mem_map]
  constructor
  · rintro ⟨target, hmem, hrecord⟩
    obtain ⟨raw, hraw, htarget⟩ := (mem_of_mapM h).mp hmem
    exact ⟨raw, hraw, target, (relatedIssue_eq_ok.mp htarget).1, hrecord⟩
  · rintro ⟨raw, hraw, target, htarget, hrecord⟩
    obtain ⟨target', htarget'⟩ := exists_of_mem_of_mapM h hraw
    have hsame := (relatedIssue_eq_ok.mp htarget').1
    rw [htarget, Except.ok.injEq, Option.some.injEq] at hsame
    rw [← hsame] at htarget'
    exact ⟨target, (mem_of_mapM h).mpr ⟨raw, hraw, htarget'⟩, hrecord⟩

variable {item : IssueFacts} {found : List RemoteRelationshipRecord}

theorem mem_subIssueRelations
    (h : subIssueRelations remote pathPrefix repository ids item = .ok found)
    (record : RemoteRelationshipRecord) :
    record ∈ found ↔ ∃ raws, remote.collection
        (issuePath pathPrefix item.number "/sub_issues?per_page=100") none = .ok raws ∧
      ∃ raw ∈ raws, ∃ child, issue repository raw = .ok (some child) ∧
        parentRelation child.issueId item.issueId = record := by
  simp only [subIssueRelations, bind_eq_ok, pure_eq_ok] at h
  obtain ⟨subs, hsubs, targets, htargets, rfl⟩ := h
  have hraws : remote.collection
      (issuePath pathPrefix item.number "/sub_issues?per_page=100") none = .ok subs := by
    unfold withinScope at hsubs
    split at hsubs
    · split_ifs at hsubs
    · rename_i hraws
      exact hraws.trans hsubs
  rw [mem_targets htargets fun child => parentRelation child.issueId item.issueId, hraws]
  simp only [Except.ok.injEq, exists_eq_left']

theorem mem_parentRelations
    (h : parentRelations remote pathPrefix repository ids item = .ok found)
    (record : RemoteRelationshipRecord) :
    record ∈ found ↔ ∃ raw,
      remote.get (issuePath pathPrefix item.number "/parent") = .ok (.dict raw) ∧
      ∃ parent, issue repository raw = .ok (some parent) ∧
        parentRelation item.issueId parent.issueId = record := by
  unfold parentRelations at h
  split at h
  · rename_i raw hraw
    simp only [bind_eq_ok, pure_eq_ok] at h
    obtain ⟨target, htarget, rfl⟩ := h
    simp [hraw, (relatedIssue_eq_ok.mp htarget).1, eq_comm]
  · rename_i hother hraw
    obtain rfl := Except.ok.inj h
    simp only [List.not_mem_nil, false_iff, not_exists, not_and]
    intro raw hdict
    exact absurd (Except.ok.inj (hraw.symm.trans hdict)) (hother raw)
  · rename_i hraw
    split_ifs at h
    obtain rfl := Except.ok.inj h
    simp [hraw]

theorem mem_dependencyRelations {suffix : String}
    {relation : String → String → RemoteRelationshipRecord}
    (h : dependencyRelations remote pathPrefix repository ids suffix relation item = .ok found)
    (record : RemoteRelationshipRecord) :
    record ∈ found ↔ ∃ raws, remote.collection
        (issuePath pathPrefix item.number (suffix ++ "?per_page=100")) none = .ok raws ∧
      ∃ raw ∈ raws, ∃ target, issue repository raw = .ok (some target) ∧
        relation item.issueId target.issueId = record := by
  simp only [dependencyRelations, bind_eq_ok, pure_eq_ok] at h
  obtain ⟨raws, hraws, targets, htargets, rfl⟩ := h
  rw [mem_targets htargets fun target => relation item.issueId target.issueId, hraws]
  simp only [Except.ok.injEq, exists_eq_left']

theorem mem_relationsOf (h : relationsOf remote pathPrefix repository ids item = .ok found)
    (record : RemoteRelationshipRecord) :
    record ∈ found ↔ ReportedAt remote pathPrefix repository item record := by
  simp only [relationsOf, bind_eq_ok, pure_eq_ok] at h
  obtain ⟨children, hchildren, parents, hparents, blockedBy, hblockedBy, blocking, hblocking,
    rfl⟩ := h
  simp only [List.mem_append, mem_subIssueRelations hchildren, mem_parentRelations hparents,
    mem_dependencyRelations hblockedBy, mem_dependencyRelations hblocking]
  constructor
  · rintro (((⟨raws, hraws, raw, hraw, child, hchild, rfl⟩ | ⟨raw, hraw, parent, hparent, rfl⟩) |
      ⟨raws, hraws, raw, hraw, target, htarget, rfl⟩) |
      ⟨raws, hraws, raw, hraw, target, htarget, rfl⟩)
    · exact .subIssue hraws hraw hchild
    · exact .parent hraw hparent
    · exact .blockedBy hraws hraw htarget
    · exact .blocking hraws hraw htarget
  · intro hreported
    cases hreported with
    | subIssue hraws hraw hchild =>
        exact .inl (.inl (.inl ⟨_, hraws, _, hraw, _, hchild, rfl⟩))
    | parent hraw hparent => exact .inl (.inl (.inr ⟨_, hraw, _, hparent, rfl⟩))
    | blockedBy hraws hraw hprerequisite =>
        exact .inl (.inr ⟨_, hraws, _, hraw, _, hprerequisite, rfl⟩)
    | blocking hraws hraw hdependent => exact .inr ⟨_, hraws, _, hraw, _, hdependent, rfl⟩

/-- The read driver orients every relation that the remote reports as it was meant. -/
theorem reported_iff {issues : List IssueFacts} {relations : List RemoteRelationshipRecord}
    (h : readRecords remote pathPrefix repository = .ok (issues, relations))
    (record : RemoteRelationshipRecord) :
    record ∈ relations ↔ Reported remote pathPrefix repository issues record := by
  simp only [readRecords, bind_eq_ok, refuseIf_eq_ok, pure_eq_ok, Prod.mk.injEq] at h
  obtain ⟨raws, -, _, -, made, -, found, hfound, rfl, rfl⟩ := h
  rw [List.mem_flatten]
  constructor
  · rintro ⟨relations, hmem, hrecord⟩
    obtain ⟨item, hitem, hrelations⟩ := (mem_of_mapM hfound).mp hmem
    exact ⟨item, hitem, (mem_relationsOf hrelations record).mp hrecord⟩
  · rintro ⟨item, hitem, hreported⟩
    obtain ⟨relations, hrelations⟩ := exists_of_mem_of_mapM hfound hitem
    exact ⟨relations, (mem_of_mapM hfound).mpr ⟨item, hitem, hrelations⟩,
      (mem_relationsOf hrelations record).mpr hreported⟩

end

/-! ## Responses -/

/-- What a driver returned. -/
structure DriverReadResponse where
  requestedRepository : Value
  canonicalRepository : Value
  remoteRepositoryId : Value
  authenticatedSubject : Value
  visibility : Value
  permissions : Value
  capabilities : Value
  queryScope : Value
  queryComplete : Value
  paginationComplete : Value
  issueRecords : Value
  relationshipRecords : Value
  evidenceMaterial : Value
  sourceIdentity : Value
  remoteContentDigest : Value
  remoteRepositoryNodeId : Value := .null
  authenticatedUserId : Value := .null
  authenticatedUserNodeId : Value := .null
  authenticatedLogin : Value := .null

/-- Who reads, and whether a permission of an installation stands for the roles. -/
structure Reader where
  trustedDriverIdentity : String
  authenticatedSubject : String
  userId : Option String := none
  userNodeId : Option String := none
  login : Option String := none
  strictPermissions : Bool := false
  installationIssuesPermission : Option String := none

/-- The optional entries that are not `None`. -/
def present (entries : List (String × Value)) : Dict := entries.filter fun e => e.2 ≠ .null

def permissionBools (reader : Reader) (raw : Value) : Py (Bool × Bool) :=
  if reader.strictPermissions then do
    let invalid := Raised.driverError "driver_response_invalid"
    let permissions ← orRaise raw.mapping? invalid
    let pull ← orRaise (Value.bool? (Dict.get permissions "pull")) invalid
    let push ← orRaise (Value.bool? (Dict.get permissions "push")) invalid
    match reader.installationIssuesPermission with
    | none => pure (pull, push)
    | some permission => pure (permission ∈ ["read", "write"], permission = "write")
  else if Value.truthy raw then do
    let permissions ← orRaise raw.mapping? .attributeError
    pure (Value.truthy (Dict.get permissions "pull"), Value.truthy (Dict.get permissions "push"))
  else pure (false, false)

section
variable [PythonLibrary] [UnicodeLibrary] [IntegerLibrary] [CasefoldLibrary]

/-- The order of the listed issues. -/
def IssueFacts.before (a b : IssueFacts) : Prop :=
  a.repositoryIdentity < b.repositoryIdentity ∨ a.repositoryIdentity = b.repositoryIdentity ∧
    (a.number < b.number ∨ a.number = b.number ∧ a.issueId ≤ b.issueId)

instance (a b : IssueFacts) : Decidable (a.before b) :=
  inferInstanceAs (Decidable (_ ∨ _ ∧ (_ ∨ _ ∧ _)))

/-- `_read_repository_after_auth` -/
def readRepositoryAfterAuth (reader : Reader) (remote : Remote) (repository requested : String)
    (queryScope : Dict) (pathPrefix : String) (repo : Dict) : Py DriverReadResponse := do
  refuseIf (∃ key ∈ ["id", "node_id", "full_name", "visibility"],
    Dict.get repo key = .null ∨ Dict.get repo key = .str "") "driver_response_invalid"
  refuseIf (PythonLibrary.lower (Value.toText (Dict.get repo "full_name")) ≠ requested)
    "repository_identity_mismatch"
  let (readPermission, writePermission) ← permissionBools reader (Dict.get repo "permissions")
  let (issues, relations) ← readRecords remote pathPrefix requested
  let issueRecords := Value.list
    ((issues.insertionSort IssueFacts.before).map fun i => .dict i.toDict)
  let relationshipRecords := Value.list ((relations.dedup.insertionSort
    RemoteRelationshipRecord.before).map RemoteRelationshipRecord.toDict)
  let query := Value.dict (if (queryScope.lookup "api_origin").isSome then queryScope
    else queryScope ++ [("api_origin", .str apiOrigin)])
  let permissions := Value.dict
    [("read", .bool readPermission), ("write", .bool writePermission)]
  let capabilities := Value.dict [("issues", .bool true), ("relationships", .bool true)]
  let repositoryId := Value.str (Value.toText (Dict.get repo "id"))
  let repositoryNodeId := Value.str (Value.toText (Dict.get repo "node_id"))
  let evidenceMaterial := Value.list [.dict
    [("source_identity", .str reader.trustedDriverIdentity),
      ("repository_identity", .str requested), ("query_scope", query),
      ("payload", .dict [("issue_records", issueRecords),
        ("relationship_records", relationshipRecords)])]]
  let content : Dict :=
    [("requested_repository", .str repository), ("canonical_repository", .str requested),
      ("remote_repository_id", repositoryId), ("remote_repository_node_id", repositoryNodeId),
      ("authenticated_subject", .str reader.authenticatedSubject),
      ("visibility", Dict.get repo "visibility"), ("permissions", permissions),
      ("capabilities", capabilities), ("query_scope", query), ("query_complete", .bool true),
      ("pagination_complete", .bool true), ("issue_records", issueRecords),
      ("relationship_records", relationshipRecords), ("evidence_material", evidenceMaterial),
      ("source_identity", .str reader.trustedDriverIdentity)] ++
    present [("schema_version", .str "github-rest-remote-content-v1"),
      ("authenticated_user_id", Value.textOrNone reader.userId),
      ("authenticated_user_node_id", Value.textOrNone reader.userNodeId),
      ("authenticated_login", Value.textOrNone reader.login)]
  let contentDigest ← canonicalDigest (.dict content)
  pure
    { requestedRepository := .str repository, canonicalRepository := .str requested
      remoteRepositoryId := repositoryId
      authenticatedSubject := .str reader.authenticatedSubject
      visibility := .str (Value.toText (Dict.get repo "visibility")), permissions, capabilities
      queryScope := query, queryComplete := .bool true, paginationComplete := .bool true
      issueRecords, relationshipRecords, evidenceMaterial
      sourceIdentity := .str reader.trustedDriverIdentity
      remoteContentDigest := .str contentDigest, remoteRepositoryNodeId := repositoryNodeId
      authenticatedUserId := Value.textOrNone reader.userId
      authenticatedUserNodeId := Value.textOrNone reader.userNodeId
      authenticatedLogin := Value.textOrNone reader.login }

/-! ## Validating a response -/

structure PreflightFailure where
  code : String
  detail : String
deriving DecidableEq

/-- How the call of a driver ends. -/
inductive ReadOutcome where
  | response (response : DriverReadResponse)
  | unexpected
  | driverError (code : String)
  | raised

def failIf (condition : Prop) [Decidable condition] (code detail : String) :
    List PreflightFailure := if condition then [⟨code, detail⟩] else []

/-- `_validate_scope` -/
def sameScope (scope expected : Value) : Bool :=
  match normalize scope, normalize expected with
  | .ok scope, .ok expected => decide (scope = expected)
  | _, _ => false

/-- A mapping of names to answers that may be missing. -/
def namedAnswers (value : Value) : Bool :=
  value.mapping?.any fun entries => entries.all fun e =>
    decide (PythonLibrary.strip e.1 ≠ "") && ((Value.bool? e.2).isSome || decide (e.2 = .null))

/-- The mappings of a sequence of mappings. -/
def records? (value : Value) : Option (List Dict) :=
  value.sequence?.bind fun items => items.mapM Value.mapping?

/-- `_response_shape_is_valid` -/
def shapeIsValid (r : DriverReadResponse) : Bool :=
  namedAnswers r.permissions && namedAnswers r.capabilities && r.queryScope.mapping?.isSome &&
    (records? r.issueRecords).isSome && (records? r.relationshipRecords).isSome &&
    (records? r.evidenceMaterial).isSome && (Value.bool? r.queryComplete).isSome &&
    (Value.bool? r.paginationComplete).isSome && (presentText? r.remoteContentDigest).isSome

def supportedVisibilities : List String := ["public", "private", "internal"]

/-- What is wrong with the answers to the named requirements. -/
def answerFailures (answers : Value) (unknown insufficient : String) (names : List String) :
    List PreflightFailure :=
  names.flatMap fun name =>
    let answer := Dict.get (answers.mapping?.getD []) name
    if answer = .null then [⟨unknown, name⟩]
    else if answer ≠ .bool true then [⟨insufficient, name⟩] else []

def runtimeEvidenceKeys : List String :=
  ["workspace_identity", "preview_id", "revision", "evidence_id", "verification_status"]

/-- Two values that are equal in Python. -/
def sameValue (a b : Value) : Bool := decide (sortKeys a = sortKeys b)

/-- The records of the payload of an evidence material. -/
def sameRecords (payload : Value) (key : String) (records : Value) : Bool :=
  payload.mapping?.any fun entries =>
    sameValue (Dict.get entries key) (.list (records.sequence?.getD []))

/-- What is wrong with one evidence material. -/
def materialFailures (r : DriverReadResponse) (canonical : Option String) (trusted : String)
    (material : Dict) : List PreflightFailure :=
  let payload := material.get "payload"
  if ∃ key ∈ runtimeEvidenceKeys, key ∈ material.map Prod.fst then
    [⟨"driver_response_invalid", "Driver Evidence material contains Runtime-owned identity"⟩]
  else if material.get "source_identity" ≠ .str trusted then
    [⟨"evidence_source_untrusted",
      "Evidence source identity does not match trusted Driver identity"⟩]
  else if material.get "repository_identity" ≠ Value.textOrNone canonical ∨
      sameScope (material.get "query_scope") r.queryScope = false then
    [⟨"evidence_scope_invalid", "Evidence scope does not match the remote read"⟩]
  else if sameRecords payload "issue_records" r.issueRecords = false ∨
      sameRecords payload "relationship_records" r.relationshipRecords = false then
    [⟨"evidence_remote_content_mismatch", "Evidence payload does not match remote records"⟩]
  else []

/-- The failures of the first evidence material that has any. -/
def evidenceFailures (r : DriverReadResponse) (canonical : Option String) (trusted : String) :
    List Dict → List PreflightFailure
  | [] => []
  | material :: rest =>
      match materialFailures r canonical trusted material with
      | [] => evidenceFailures r canonical trusted rest
      | failures => failures

/-- `_remote_content_payload` -/
def remoteContentPayload (r : DriverReadResponse) (canonical trusted : String) : Dict :=
  let stable := [r.remoteRepositoryNodeId, r.authenticatedUserId, r.authenticatedUserNodeId,
    r.authenticatedLogin]
  [("requested_repository", r.requestedRepository), ("canonical_repository", .str canonical),
    ("remote_repository_id", r.remoteRepositoryId),
    ("authenticated_subject", r.authenticatedSubject), ("visibility", r.visibility),
    ("permissions", r.permissions), ("capabilities", r.capabilities),
    ("query_scope", r.queryScope), ("query_complete", r.queryComplete),
    ("pagination_complete", r.paginationComplete),
    ("issue_records", .list (r.issueRecords.sequence?.getD [])),
    ("relationship_records", .list (r.relationshipRecords.sequence?.getD [])),
    ("evidence_material", .list (r.evidenceMaterial.sequence?.getD [])),
    ("source_identity", .str trusted)] ++
  present [("schema_version", if stable.all (· = .null) then .null
      else .str "github-rest-remote-content-v1"),
    ("remote_repository_node_id", r.remoteRepositoryNodeId),
    ("authenticated_user_id", r.authenticatedUserId),
    ("authenticated_user_node_id", r.authenticatedUserNodeId),
    ("authenticated_login", r.authenticatedLogin)]

/-- What is wrong with a response of the right shape from the trusted driver. -/
def responseFailures (r : DriverReadResponse) (repository requested : String)
    (canonical : Option String) (queryScope : Value) (trusted : String) :
    List PreflightFailure :=
  failIf (r.requestedRepository ≠ .str repository) "requested_repository_mismatch"
      "Driver did not preserve the requested repository" ++
    failIf (canonical = none) "remote_identity_unknown"
      "Canonical repository identity is invalid" ++
    failIf (canonical ≠ some requested) "repository_identity_mismatch"
      "Requested and remote repository identities differ" ++
    failIf (presentText? r.remoteRepositoryId = none) "remote_identity_unknown"
      "Stable remote repository identity is missing" ++
    failIf (presentText? r.authenticatedSubject = none) "authenticated_subject_unknown"
      "Authenticated remote subject is missing" ++
    failIf ((presentText? r.visibility).all (fun text => decide (text ∉ supportedVisibilities)) =
      true) "repository_visibility_unknown" "Repository visibility is missing or unsupported" ++
    answerFailures r.permissions "permission_unknown" "permission_insufficient" ["read"] ++
    answerFailures r.capabilities "capability_unknown" "capability_insufficient"
      ["issues", "relationships"] ++
    failIf (r.queryComplete = .bool false) "query_scope_incomplete"
      "Remote query scope is incomplete" ++
    failIf (r.paginationComplete = .bool false) "pagination_incomplete"
      "Remote result pagination is incomplete" ++
    failIf (sameScope r.queryScope queryScope = false) "query_scope_mismatch"
      "Driver response scope differs from requested scope" ++
    evidenceFailures r canonical trusted ((records? r.evidenceMaterial).getD []) ++
    failIf ((records? r.evidenceMaterial).getD [] = []) "evidence_missing"
      "At least one scoped Driver Evidence material is required"

/-- `validate_driver_facts` with the minimum requirements: the response of one read, or
what is wrong with it. -/
def validateDriverFacts (read : ReadOutcome) (repository : String) (queryScope : Value)
    (trusted : String) : Except (List PreflightFailure) DriverReadResponse := do
  let fail (code detail : String) : Except (List PreflightFailure) DriverReadResponse :=
    .error [⟨code, detail⟩]
  match normalizeRepositoryIdentity (.str repository) with
  | .error _ => fail "repository_identity_invalid" "Requested repository is not owner/name"
  | .ok requested =>
  if PythonLibrary.strip trusted = "" ∨ (queryScope.mapping?.getD [] = []) then
    fail "driver_identity_untrusted" "Trusted Driver identity or query scope is invalid"
  else match read with
  | .driverError code => fail code "Driver read failed"
  | .raised => fail "driver_call_failed" "Driver read failed"
  | .unexpected => fail "driver_response_invalid" "Driver returned an unexpected response type"
  | .response r =>
  if shapeIsValid r = false then
    fail "driver_response_invalid" "Driver returned malformed read facts"
  else if presentText? r.sourceIdentity ≠ some trusted then
    fail "driver_identity_untrusted"
      "Response source identity does not match trusted Driver identity"
  else
    let canonical := (normalizeRepositoryIdentity r.canonicalRepository).toOption
    match responseFailures r repository requested canonical queryScope trusted with
    | [] =>
        match canonicalDigest (.dict (remoteContentPayload r requested trusted)) with
        | .error _ => fail "driver_response_invalid" "Remote facts cannot be canonicalized"
        | .ok contentDigest =>
            if r.remoteContentDigest ≠ .str contentDigest then
              fail "remote_state_inconsistent" "Driver content digest does not match remote facts"
            else .ok r
    | failures => .error failures

omit [PythonLibrary] [UnicodeLibrary] [IntegerLibrary] [CasefoldLibrary] in
theorem records?_dicts {α : Type} (f : α → Dict) (xs : List α) :
    records? (.list (xs.map fun x => .dict (f x))) = some (xs.map f) := by
  change (xs.map fun x => Value.dict (f x)).mapM Value.mapping? = _
  rw [PairedLists.mapM_eq_some, List.forall₂_map_left_iff, List.forall₂_map_right_iff]
  exact List.forall₂_same.mpr fun x _ => rfl

/-- What the driver returns of its read is accepted with all of its records. -/
theorem readRepositoryAfterAuth_spec {reader : Reader} {remote : Remote}
    {repository requested pathPrefix : String} {queryScope repo : Dict} {r : DriverReadResponse}
    (h : readRepositoryAfterAuth reader remote repository requested queryScope pathPrefix repo =
      .ok r) {issues : List IssueFacts} {relations : List RemoteRelationshipRecord}
    (hread : readRecords remote pathPrefix requested = .ok (issues, relations)) :
    (∃ listed, records? r.issueRecords = some listed ∧
      ∀ d, d ∈ listed ↔ ∃ i ∈ issues, i.toDict = d) ∧
    ∃ listed, records? r.relationshipRecords = some listed ∧
      ∀ d, d ∈ listed ↔ ∃ record ∈ relations, record.toDict = .dict d := by
  simp only [readRepositoryAfterAuth, hread, bind_eq_ok, Except.ok.injEq] at h
  obtain ⟨_, -, _, -, permissions, -, _, rfl, contentDigest, -, hmade⟩ := h
  obtain rfl := pure_eq_ok.mp hmade
  refine ⟨⟨_, records?_dicts IssueFacts.toDict _, fun d => ?_⟩,
    ⟨_, records?_dicts (fun record : RemoteRelationshipRecord =>
      [("kind", .str record.relationshipType), ("from", .str record.sourceIssueId),
        ("to", .str record.targetIssueId)]) _, fun d => ?_⟩⟩
  · simp only [List.mem_map, List.mem_insertionSort]
  · simp only [List.mem_map, List.mem_insertionSort, List.mem_dedup,
      RemoteRelationshipRecord.toDict, Value.dict.injEq]

omit [IntegerLibrary] [CasefoldLibrary] in
/-- Facts are those of the response that the call returned. -/
theorem validateDriverFacts_spec {read : ReadOutcome} {repository trusted : String}
    {queryScope : Value} {r : DriverReadResponse}
    (h : validateDriverFacts read repository queryScope trusted = .ok r) : read = .response r := by
  unfold validateDriverFacts at h
  dsimp only at h
  split at h
  · cases h
  · split_ifs at h
    split at h
    · cases h
    · cases h
    · cases h
    · split_ifs at h
      split at h
      · split at h
        · cases h
        · split_ifs at h
          rw [Except.ok.inj h]
      · cases h

omit [IntegerLibrary] [CasefoldLibrary] in
/-- A well-formed response of the trusted driver, whose digest is its own, is accepted. -/
theorem validateDriverFacts_ok {r : DriverReadResponse} {repository requested trusted : String}
    {queryScope : Value} {contentDigest : String}
    (hrepository : normalizeRepositoryIdentity (.str repository) = .ok requested)
    (htrusted : ¬(PythonLibrary.strip trusted = "" ∨ queryScope.mapping?.getD [] = []))
    (hshape : shapeIsValid r = true) (hsource : presentText? r.sourceIdentity = some trusted)
    (hfailures : responseFailures r repository requested
      (normalizeRepositoryIdentity r.canonicalRepository).toOption queryScope trusted = [])
    (hdigest : canonicalDigest (.dict (remoteContentPayload r requested trusted)) =
      .ok contentDigest) (hcontent : r.remoteContentDigest = .str contentDigest) :
    validateDriverFacts (.response r) repository queryScope trusted = .ok r := by
  unfold validateDriverFacts
  simp only [hrepository, if_neg htrusted, hshape, hsource, hfailures, hdigest, hcontent,
    Bool.true_eq_false, if_false, ne_eq, not_true_eq_false]

end
end DeliverySystem.RemoteReads

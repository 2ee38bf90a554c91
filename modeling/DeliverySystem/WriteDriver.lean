import DeliverySystem.IssueCommands
import Mathlib.Algebra.Group.Int.Defs
import Mathlib.Data.List.Infix

/-!
# The write driver

One command becomes at most one POST. Everything before the POST is a local
check: of the repository, of the references, of the correlation marker, of the
size of the request, and of the credential. A failed local check raises, either
a `ValueError` or a `DriverError`. Whatever the transport does is turned into
an observation.
-/
namespace DeliverySystem.WriteDriver
open PythonValues IssueCommands
set_option autoImplicit false

/-- Library functions at the edge of the driver. -/
class WireLibrary where
  /-- `str.isspace` of one character -/
  isspace : Char → Bool
  /-- `json.dumps(value, ensure_ascii=False, sort_keys=True).encode("utf-8")`, if it can be
  encoded -/
  requestBytes : Dict → Option (List UInt8)
  /-- `hashlib.sha256(json.dumps(value, ensure_ascii=True, sort_keys=True)).hexdigest()` -/
  resultHexdigest : Dict → String
  /-- `json.loads(body.decode("utf-8"))`, if the body is JSON. The decoder may raise in
  another way. -/
  jsonLoads : List UInt8 → Py (Option Value)

def writeContractVersion : String := "github-rest-write-v1"

def maxWriteRequestBytes : Nat := 256 * 1024

def maxNodeIdLength : Nat := 512

/-- The least number of more than `MAX_GITHUB_DECIMAL_DIGITS` digits. -/
def decimalLimit : Int := 10 ^ 20

/-! ## Patterns -/

def lowerAlnum (c : Char) : Bool := ('a' ≤ c && c ≤ 'z') || ('0' ≤ c && c ≤ '9')

/-- `[a-z0-9](?:[a-z0-9…]{0,n}[a-z0-9])?`, where `inner` accepts the other characters. -/
def edgedPattern (inner : Char → Bool) (limit : Nat) (text : List Char) : Bool :=
  text.length ≤ limit && text.head?.any lowerAlnum && text.getLast?.any lowerAlnum &&
    text.all fun c => lowerAlnum c || inner c

/-- `_OWNER` -/
def ownerPattern : List Char → Bool := edgedPattern (· = '-') 39

/-- `_REPOSITORY` -/
def repositoryPattern : List Char → Bool :=
  edgedPattern (fun c => c = '.' || c = '_' || c = '-') 100

def lowerHex (c : Char) : Bool := ('0' ≤ c && c ≤ '9') || ('a' ≤ c && c ≤ 'f')

/-- `_REQUEST_ID` -/
def requestIdPattern (text : String) : Bool :=
  match untagged? "application-request-" text with
  | some hex => hex.toList.length = 64 && hex.toList.all lowerHex
  | none => false

/-- `[1-9][0-9]{0,19}` -/
def decimalPattern : List Char → Bool
  | [] => false
  | c :: rest => '1' ≤ c && c ≤ '9' && rest.length ≤ 19 && rest.all fun d => '0' ≤ d && d ≤ '9'

/-- The suffix of a path after `/issues`, in its parts. -/
def validSuffix : List (List Char) → Bool
  | [] => true
  | [number, leaf] => decimalPattern number && leaf = "sub_issues".toList
  | [number, group, leaf] =>
      decimalPattern number && group = "dependencies".toList && leaf = "blocked_by".toList
  | _ => false

/-- `HttpsWriteTransport.valid_path`. No part of the pattern contains a slash. -/
def validPath (path : String) : Bool :=
  path.toList.length ≤ 512 && (path.toList.all fun c => 0x21 ≤ c.toNat && c.toNat ≤ 0x7e) &&
    match path.toList.splitOn '/' with
    | [] :: repos :: owner :: name :: issues :: suffix =>
        repos = "repos".toList && ownerPattern owner && repositoryPattern name &&
          issues = "issues".toList && validSuffix suffix
    | _ => false

/-- `int(text)` of decimal digits. -/
def decimalValue (text : String) : Int :=
  text.toList.foldl (fun n c => 10 * n + (c.toNat - '0'.toNat : Nat)) 0

/-! ## Responses -/

structure WriteTransportResponse where
  status : Nat
  headers : List (String × String)
  body : List UInt8
deriving Repr, DecidableEq

/-- What became of a request that was sent. -/
inductive Exchange where
  | answered (response : WriteTransportResponse) (closed : Bool)
  | tooLarge
  | timeout
  | osError
  | malformed
  | raised

def redirects : List Nat := [301, 302, 303, 307, 308]

def knownRejections : List Nat := [400, 401, 403, 404, 409, 410, 422, 429]

/-- `_classify_non_success` -/
def classifyNonSuccess (response : WriteTransportResponse) : WriteObservation :=
  let observed (kind : WriteObservationKind) (code : String) : WriteObservation :=
    { kind, resultIdentity := "", resultPayload := some [("status", .int response.status)], code }
  if response.status ∈ redirects then
    observed .definitiveRejected "github_write_redirect_rejected"
  else if response.status = 429 then observed .definitiveRejected "github_write_rate_limited"
  else if response.status ∈ knownRejections then
    observed .definitiveRejected "github_write_rejected"
  else observed .ambiguous "github_write_ambiguous"

def ambiguous (code : String) : WriteObservation :=
  { kind := .ambiguous, resultIdentity := "", resultPayload := none, code }

section
variable [PythonLibrary] [WireLibrary]

/-- `_header` -/
def header (headers : List (String × String)) (name : String) : Option String :=
  (headers.find? fun entry => PythonLibrary.lower entry.1 = PythonLibrary.lower name).map Prod.snd

def jsonMediaTypes : List String := ["application/json", "application/vnd.github+json"]

/-- `_valid_json_media_type` -/
def validJsonMediaType (headers : List (String × String)) : Bool :=
  match header headers "Content-Type" with
  | none => false
  | some value =>
      let mediaType := String.ofList (value.toList.takeWhile (· ≠ ';'))
      let parameters := PythonLibrary.strip
        (String.ofList ((value.toList.dropWhile (· ≠ ';')).drop 1))
      (';' ∉ value.toList || (parameters ≠ "" && '=' ∈ parameters.toList)) &&
        PythonLibrary.lower (PythonLibrary.strip mediaType) ∈ jsonMediaTypes

/-- `_json_object` -/
def jsonObject (response : WriteTransportResponse) : Py (Option Dict) :=
  if validJsonMediaType response.headers then do
    let value ← WireLibrary.jsonLoads response.body
    pure (value.bind Value.mapping?)
  else pure none

def resultIdentity (value : Dict) : String :=
  "github-write-result-" ++ WireLibrary.resultHexdigest value

/-! ## Local checks -/

/-- `_safe_issue_number` -/
def safeIssueNumber (value : Int) : Py Int := do
  raiseIf (value < 1 ∨ decimalLimit ≤ value) "write_reference_invalid"
  pure value

/-- `_safe_decimal_id` -/
def safeDecimalId (value : String) : Py Int := do
  raiseIf (decimalPattern value.toList = false) "write_reference_invalid"
  pure (decimalValue value)

/-- `_validate_repository` -/
def validateRepository (repository : String) : Py String := do
  let invalid := Raised.valueError "repository_identity_invalid"
  raiseIf (repository.toList.any (fun c => WireLibrary.isspace c || controlChar c) = true)
    "repository_identity_invalid"
  let parts := (repository.toList.splitOn '/').map String.ofList
  raiseIf (parts.length ≠ 2 ∨ ∃ part ∈ parts, part ≠ PythonLibrary.strip part)
    "repository_identity_invalid"
  let normalized ← normalizeRepositoryIdentity (.str repository)
  match normalized.toList.splitOn '/' with
  | [owner, name] =>
      raiseIf (140 < normalized.toList.length ∨
        normalized.toList.any (fun c => c.toNat < 0x21 || 0x7e < c.toNat ||
          "%?#\\".toList.contains c) = true ∨
        ownerPattern owner = false ∨ repositoryPattern name = false)
        "repository_identity_invalid"
      pure normalized
  | _ => .error invalid

/-- `_path`. Quoting leaves the characters of a valid repository alone. -/
def path (repository suffix : String) : Py String := do
  let repository ← validateRepository repository
  let made := "/repos/" ++ repository ++ "/issues" ++ suffix
  raiseIf (validPath made = false) "github_write_path_invalid"
  pure made

/-- `_request_body` -/
def requestBody (value : Dict) : Py (List UInt8) := do
  let encoded ← orRaise (WireLibrary.requestBytes value)
    (.driverError "github_write_request_invalid")
  if maxWriteRequestBytes < encoded.length then
    .error (.driverError "github_write_request_too_large")
  else pure encoded

/-- `_credential_headers`; a provider that raises provides no token. -/
def credentialHeaders (token : Option String) : Py Dict :=
  match token with
  | some token =>
      if token.toList.length < 1 ∨ 4096 < token.toList.length ∨
          token ≠ PythonLibrary.strip token ∨
          token.toList.any (fun c => c.toNat < 0x21 || 0x7e < c.toNat) = true then
        .error (.driverError "github_write_credential_required")
      else .ok [("Authorization", .str ("Bearer " ++ token))]
  | none => .error (.driverError "github_write_credential_required")

/-! ## The request -/

/-- `HttpsWriteTransport.post` -/
def post (path : String) (body : List UInt8) (exchange : Exchange) :
    Py WriteTransportResponse :=
  if validPath path = false then .error (.driverError "github_write_path_invalid")
  else if maxWriteRequestBytes < body.length then
    .error (.driverError "github_write_request_invalid")
  else match exchange with
  | .answered response true => .ok response
  | .answered _ false => .error (.driverError "github_write_transport_ambiguous")
  | .tooLarge => .error (.driverError "github_write_response_too_large")
  | .timeout => .error (.driverError "github_write_timeout")
  | .osError => .error (.driverError "github_write_transport_ambiguous")
  | .malformed => .error (.driverError "github_write_response_invalid")
  | .raised => .error .otherError

/-- Only a missing credential is raised again; any other failure of a request is
an ambiguous outcome. -/
def observeSent (sent : Py WriteTransportResponse)
    (observe : WriteTransportResponse → Py WriteObservation) : Py WriteObservation :=
  match sent with
  | .ok response => observe response
  | .error (.driverError code) =>
      if code = "github_write_credential_required" then .error (.driverError code)
      else .ok (ambiguous code)
  | .error _ => .ok (ambiguous "github_write_transport_ambiguous")

/-- The numeric id, number and node id in the body of a created issue. -/
def createdFields (value : Dict) : Option (Int × Int × String) := do
  let id ← positiveInt? (Dict.get value "id")
  let number ← positiveInt? (Dict.get value "number")
  let node ← (Dict.get value "node_id").text?
  let stripped := (PythonLibrary.strip node).toList.length
  if id < decimalLimit ∧ number < decimalLimit ∧ 1 ≤ stripped ∧ stripped ≤ maxNodeIdLength ∧
      node.toList.any controlChar = false then some (id, number, node)
  else none

def successObservation (result : Dict) : WriteObservation :=
  { kind := .definitiveSuccess
    resultIdentity := resultIdentity result
    resultPayload := some result
    code := "" }

def createdIssuePayload (repository : String) (fields : Int × Int × String) : Dict :=
  [("repository_identity", .str repository), ("issue_number", .int fields.2.1),
    ("numeric_issue_id", .str (toString fields.1)), ("node_id", .str fields.2.2),
    ("executor_identity", .str writeExecutorIdentity),
    ("contract_version", .str writeContractVersion), ("response_status", .int 201)]

/-- What `_create_result` makes of a response. -/
def observeCreated (repository : String) (response : WriteTransportResponse) :
    Py WriteObservation :=
  if response.status ≠ 201 then .ok (classifyNonSuccess response)
  else do
    let value ← jsonObject response
    match value.bind createdFields with
    | none => pure (ambiguous "github_write_response_invalid")
    | some fields => pure (successObservation (createdIssuePayload repository fields))

/-- `_normalize_response` -/
def normalizeResponse (result : Dict) (response : WriteTransportResponse) :
    Py WriteObservation :=
  if response.status = 201 then do
    let value ← jsonObject response
    pure (if value = none then ambiguous "github_write_response_invalid"
      else successObservation result)
  else .ok (classifyNonSuccess response)

/-! ## Dispatch -/

def correlationReserved : String := "<!-- delivery-system-request:"

/-- `text in body` -/
def contains (body text : String) : Bool := decide (text.toList <:+: body.toList)

/-- What a creation posts. -/
def createRequest (command : CreateIssueCommand) : Dict :=
  [("body", .str (command.body ++ "\n\n" ++ correlationReserved ++ command.requestIdentity ++
    " -->")), ("title", .str command.title)]

/-- `_create_issue_dispatch` -/
def createIssueDispatch (command : CreateIssueCommand) (token : Option String)
    (exchange : Exchange) : Py WriteObservation := do
  let repository ← validateRepository command.repositoryIdentity
  if requestIdPattern command.requestIdentity = false then
    .error (.driverError "write_correlation_invalid")
  else if contains command.body correlationReserved then
    .error (.driverError "write_correlation_reserved")
  else
    let body ← requestBody (createRequest command)
    let _headers ← credentialHeaders token
    observeSent (path repository "" >>= fun path => post path body exchange)
      (observeCreated repository)

/-- `_dispatch_relationship` -/
def dispatchRelationship (token : Option String) (path : String) (request result : Dict)
    (exchange : Exchange) : Py WriteObservation := do
  let _headers ← credentialHeaders token
  observeSent (requestBody request >>= fun body => post path body exchange)
    (normalizeResponse result)

/-- The two relationship dispatches differ in the names of what they send: the
number of `target` is part of the path, and the numeric id of `inserted` is sent
in the body. -/
structure RelationshipEndpoint where
  suffix : String
  requestField : String
  targetField : String
  insertedField : String
  direction : String

def relationshipDispatch (endpoint : RelationshipEndpoint) (repository : String)
    (target inserted : RemoteIssueReference) (token : Option String) (exchange : Exchange) :
    Py WriteObservation := do
  let repository ← validateRepository repository
  let number ← safeIssueNumber target.issueNumber
  let id ← safeDecimalId inserted.numericIssueId
  let path ← path repository ("/" ++ toString number ++ endpoint.suffix)
  dispatchRelationship token path [(endpoint.requestField, .int id)]
    [("repository_identity", .str repository), (endpoint.targetField, .int number),
      (endpoint.insertedField, .str (toString id)), ("direction", .str endpoint.direction),
      ("executor_identity", .str writeExecutorIdentity),
      ("contract_version", .str writeContractVersion), ("response_status", .int 201)] exchange

def subIssueEndpoint : RelationshipEndpoint where
  suffix := "/sub_issues"
  requestField := "sub_issue_id"
  targetField := "parent_issue_number"
  insertedField := "child_numeric_issue_id"
  direction := "child_to_parent"

def dependencyEndpoint : RelationshipEndpoint where
  suffix := "/dependencies/blocked_by"
  requestField := "issue_id"
  targetField := "dependent_issue_number"
  insertedField := "prerequisite_numeric_issue_id"
  direction := "dependent_to_prerequisite"

/-- `_sub_issue_dispatch`: the first reference is the child, the second its parent. -/
def subIssueDispatch (command : RelationshipCommand) : Option String → Exchange →
    Py WriteObservation :=
  relationshipDispatch subIssueEndpoint command.repositoryIdentity command.second command.first

/-- `_dependency_dispatch`: the first reference depends on the second. -/
def dependencyDispatch (command : RelationshipCommand) : Option String → Exchange →
    Py WriteObservation :=
  relationshipDispatch dependencyEndpoint command.repositoryIdentity command.first command.second

/-- The executor's choice of the dispatch by the kind of the operation. -/
def dispatch (kind : String) (command : IssueCommand) (token : Option String)
    (exchange : Exchange) : Py WriteObservation :=
  if kind = "create_issue" then
    match command with
    | .createIssue command => createIssueDispatch command token exchange
    | .relationship _ => .error (.driverError "write_command_invalid")
  else if kind = "add_sub_issue" then
    match command with
    | .relationship command => subIssueDispatch command token exchange
    | .createIssue _ => .error (.driverError "write_command_invalid")
  else if kind = "add_dependency" then
    match command with
    | .relationship command => dependencyDispatch command token exchange
    | .createIssue _ => .error (.driverError "write_command_invalid")
  else .error (.valueError "write_operation_kind_invalid")

end
end DeliverySystem.WriteDriver

import DeliverySystem.WriteDriver
import DeliverySystem.ClaimPreparation
import Mathlib.Data.Bool.AllAny

/-!
# What a dispatch returns

A dispatch whose command passes the local checks returns an observation, and
the payload of an observed success is the one that the Applier trusts.
-/
namespace DeliverySystem.WriteDriverOutcomes
open PythonValues WriteOperations ExecutionRecords ExecutionContexts IssueCommands WriteDriver
open ClaimPreparation
set_option autoImplicit false

/-! ## Decimal texts -/

theorem isDigit_bounds {c : Char} (h : c.isDigit = true) : '0' ≤ c ∧ c ≤ '9' := by
  simp only [Char.isDigit, Bool.and_eq_true, decide_eq_true_eq] at h
  exact h

theorem toString_numericIdText {n : Int} (hpos : 1 ≤ n) (hlimit : n < decimalLimit) :
    numericIdText (toString n) = true := by
  obtain ⟨k, rfl⟩ := Int.eq_ofNat_of_zero_le (by omega : 0 ≤ n)
  have hk : 0 < k := by omega
  have hbound : k < 10 ^ 20 := by
    unfold decimalLimit at hlimit
    omega
  have htext : (toString (k : Int)).toList = Nat.toDigits 10 k := by
    have hrepr : toString (k : Int) = k.repr := rfl
    rw [hrepr, Nat.toList_repr]
  have hlength := (Nat.length_toDigits_le_iff (by decide) (by decide)).mpr hbound
  have hone : 1 ≤ (Nat.toDigits 10 k).length := Nat.length_toDigits_pos
  unfold numericIdText
  simp only [htext, Bool.and_eq_true, decide_eq_true_eq, List.all_eq_true]
  refine ⟨⟨⟨hone, hlength⟩, by simpa using JsonText.toDigits_head hk⟩, fun c hc => ?_⟩
  have hdigit := Nat.isDigit_of_mem_toDigits (by decide) (by decide) hc
  simpa using isDigit_bounds hdigit

section
variable [PythonLibrary] [WireLibrary]

/-! ## Observed successes -/

omit [PythonLibrary] [WireLibrary] in
theorem classifyNonSuccess_kind (response : WriteTransportResponse) :
    (classifyNonSuccess response).kind ≠ .definitiveSuccess := by
  unfold classifyNonSuccess
  split_ifs <;> simp

omit [PythonLibrary] [WireLibrary] in
theorem observeSent_success {sent : Py WriteTransportResponse}
    {observe : WriteTransportResponse → Py WriteObservation} {observation : WriteObservation}
    (h : observeSent sent observe = .ok observation) (hkind : observation.kind = .definitiveSuccess) :
    ∃ response, sent = .ok response ∧ observe response = .ok observation := by
  unfold observeSent at h
  split at h
  · exact ⟨_, rfl, h⟩
  · split_ifs at h
    obtain rfl := Except.ok.inj h
    cases hkind
  · obtain rfl := Except.ok.inj h
    cases hkind

/-- What `_create_result` accepts in the body of a created issue. -/
structure CreatedFields (fields : Int × Int × String) : Prop where
  id : 1 ≤ fields.1 ∧ fields.1 < decimalLimit
  number : 1 ≤ fields.2.1 ∧ fields.2.1 < decimalLimit
  node : 1 ≤ (PythonLibrary.strip fields.2.2).toList.length

omit [WireLibrary] in
theorem createdFields_spec {value : Dict} {fields : Int × Int × String}
    (h : createdFields value = some fields) : CreatedFields fields := by
  simp only [createdFields, Option.bind_eq_bind, Option.bind_eq_some_iff] at h
  obtain ⟨id, hid, number, hnumber, node, -, h⟩ := h
  split_ifs at h with hlimits
  obtain rfl := Option.some.inj h
  exact ⟨⟨(positiveInt?_eq_some.mp hid).2, hlimits.1⟩,
    ⟨(positiveInt?_eq_some.mp hnumber).2, hlimits.2.1⟩, hlimits.2.2.1⟩

theorem observeCreated_success {repository : String} {response : WriteTransportResponse}
    {observation : WriteObservation} (h : observeCreated repository response = .ok observation)
    (hkind : observation.kind = .definitiveSuccess) :
    ∃ fields, CreatedFields fields ∧
      observation = successObservation (createdIssuePayload repository fields) := by
  unfold observeCreated at h
  split_ifs at h with hstatus
  · obtain rfl := Except.ok.inj h
    exact absurd hkind (classifyNonSuccess_kind response)
  · simp only [bind_eq_ok] at h
    obtain ⟨value, -, h⟩ := h
    split at h
    · obtain rfl := pure_eq_ok.mp h
      cases hkind
    · rename_i fields hfields
      obtain ⟨entries, -, hfields⟩ := Option.bind_eq_some_iff.mp hfields
      exact ⟨fields, createdFields_spec hfields, (pure_eq_ok.mp h).symm⟩

/-- A successful creation reports the payload that it was answered with. -/
theorem createIssueDispatch_success {command : CreateIssueCommand} {token : Option String}
    {exchange : Exchange} {observation : WriteObservation}
    (h : createIssueDispatch command token exchange = .ok observation)
    (hkind : observation.kind = .definitiveSuccess) :
    ∃ repository fields, validateRepository command.repositoryIdentity = .ok repository ∧
      CreatedFields fields ∧
      observation = successObservation (createdIssuePayload repository fields) := by
  simp only [createIssueDispatch, bind_eq_ok] at h
  obtain ⟨repository, hrepository, h⟩ := h
  split_ifs at h
  simp only [bind_eq_ok] at h
  obtain ⟨body, -, _, -, h⟩ := h
  obtain ⟨response, -, hobserved⟩ := observeSent_success h hkind
  obtain ⟨fields, hfields, hobservation⟩ := observeCreated_success hobserved hkind
  exact ⟨repository, fields, hrepository, hfields, hobservation⟩

theorem normalizeResponse_success {result : Dict} {response : WriteTransportResponse}
    {observation : WriteObservation} (h : normalizeResponse result response = .ok observation)
    (hkind : observation.kind = .definitiveSuccess) : observation = successObservation result := by
  unfold normalizeResponse at h
  split_ifs at h with hstatus
  · simp only [bind_eq_ok, pure_eq_ok] at h
    obtain ⟨value, -, h⟩ := h
    split_ifs at h
    · subst h
      cases hkind
    · exact h.symm
  · obtain rfl := Except.ok.inj h
    exact absurd hkind (classifyNonSuccess_kind response)

/-- A successful relationship reports the repository it was written to. -/
theorem relationshipDispatch_success {endpoint : RelationshipEndpoint} {repository : String}
    {target inserted : RemoteIssueReference} {token : Option String} {exchange : Exchange}
    {observation : WriteObservation}
    (h : relationshipDispatch endpoint repository target inserted token exchange = .ok observation)
    (hkind : observation.kind = .definitiveSuccess) :
    ∃ validated number id, validateRepository repository = .ok validated ∧
      safeIssueNumber target.issueNumber = .ok number ∧
      safeDecimalId inserted.numericIssueId = .ok id ∧
      observation = successObservation
        [("repository_identity", .str validated), (endpoint.targetField, .int number),
          (endpoint.insertedField, .str (toString id)), ("direction", .str endpoint.direction),
          ("executor_identity", .str writeExecutorIdentity),
          ("contract_version", .str writeContractVersion), ("response_status", .int 201)] := by
  simp only [relationshipDispatch, dispatchRelationship, bind_eq_ok] at h
  obtain ⟨validated, hvalidated, number, hnumber, id, hid, path, -, _, -, h⟩ := h
  obtain ⟨response, -, hobserved⟩ := observeSent_success h hkind
  exact ⟨validated, number, id, hvalidated, hnumber, hid, normalizeResponse_success hobserved hkind⟩

/-! ## Paths -/

/-- What `_validate_repository` says of the text it returns. -/
structure RepositoryText (owner name : List Char) (repository : String) : Prop where
  text : repository.toList = owner ++ '/' :: name
  length : repository.toList.length ≤ 140
  visible : ∀ c ∈ repository.toList, 0x21 ≤ c.toNat ∧ c.toNat ≤ 0x7e
  owner : ownerPattern owner = true
  name : repositoryPattern name = true

theorem validateRepository_spec {repository validated : String}
    (h : validateRepository repository = .ok validated) :
    normalizeRepositoryIdentity (.str repository) = .ok validated ∧
      ∃ owner name, RepositoryText owner name validated := by
  simp only [validateRepository, bind_eq_ok] at h
  obtain ⟨_, -, _, -, normalized, hnormalized, h⟩ := h
  split at h
  · rename_i owner name hsplit
    simp only [bind_eq_ok, raiseIf_eq_ok, pure_eq_ok, not_or, not_lt, Bool.not_eq_true,
      Bool.not_eq_false] at h
    obtain ⟨_, ⟨hlength, hvisible, howner, hname⟩, rfl⟩ := h
    refine ⟨hnormalized, owner, name, ?_, hlength, fun c hc => ?_, howner, hname⟩
    · have hjoin : ['/'].intercalate (normalized.toList.splitOn '/') = normalized.toList :=
        List.intercalate_splitOn '/'
      rw [hsplit] at hjoin
      simpa [List.intercalate] using hjoin.symm
    · have hchar := List.any_eq_false.mp hvisible c hc
      simp only [Bool.or_eq_true, decide_eq_true_eq, not_or, not_lt] at hchar
      exact ⟨hchar.1.1, hchar.1.2⟩
  · cases h

omit [PythonLibrary] [WireLibrary] in
theorem edgedPattern_not_mem {inner : Char → Bool} {limit : Nat} {text : List Char}
    (h : edgedPattern inner limit text = true) (hslash : inner '/' = false) : '/' ∉ text := by
  simp only [edgedPattern, Bool.and_eq_true, List.all_eq_true] at h
  intro hmem
  have hchar := h.2 '/' hmem
  rw [hslash, Bool.or_false] at hchar
  exact absurd hchar (by decide)

omit [PythonLibrary] [WireLibrary] in
/-- The path of an issue of a validated repository is valid. -/
theorem issuePath_valid {owner name : List Char} {repository : String}
    (h : RepositoryText owner name repository) {number : Int} (hpos : 1 ≤ number)
    (hlimit : number < decimalLimit) {suffix : String}
    (hsuffix : suffix = "/sub_issues" ∨ suffix = "/dependencies/blocked_by") :
    validPath ("/repos/" ++ repository ++ "/issues" ++ ("/" ++ toString number ++ suffix)) =
      true := by
  have hnumeric := toString_numericIdText hpos hlimit
  have hpattern : decimalPattern (toString number).toList = true :=
    OperandAgreement.numericIdText_pattern hnumeric
  simp only [numericIdText, Bool.and_eq_true, decide_eq_true_eq, List.all_eq_true] at hnumeric
  obtain ⟨⟨⟨-, hdigits⟩, -⟩, hall⟩ := hnumeric
  have howner : '/' ∉ owner := edgedPattern_not_mem h.owner (by decide)
  have hname : '/' ∉ name := edgedPattern_not_mem h.name (by decide)
  have hnumber : '/' ∉ (toString number).toList := fun hmem =>
    absurd (hall '/' hmem) (by decide)
  have hrepos : '/' ∉ "repos".toList := by decide
  have hissues : '/' ∉ "issues".toList := by decide
  obtain ⟨leaf, hleaf, hshort, hvisible, hvalid⟩ : ∃ leaf, suffix.toList = '/' :: leaf ∧
      leaf.length ≤ 24 ∧ (∀ c ∈ leaf, 0x21 ≤ c.toNat ∧ c.toNat ≤ 0x7e) ∧
      validSuffix ((toString number).toList :: leaf.splitOn '/') = true := by
    rcases hsuffix with rfl | rfl
    · refine ⟨"sub_issues".toList, by decide, by decide, List.all_iff_forall_prop.mp (by decide), ?_⟩
      have hone : "sub_issues".toList.splitOn '/' = ["sub_issues".toList] := by decide
      rw [hone]
      simp only [validSuffix, hpattern, Bool.true_and, decide_true]
    · refine ⟨"dependencies/blocked_by".toList, by decide, by decide,
        List.all_iff_forall_prop.mp (by decide), ?_⟩
      have htwo : "dependencies/blocked_by".toList.splitOn '/' =
          ["dependencies".toList, "blocked_by".toList] := by decide
      rw [htwo]
      simp only [validSuffix, hpattern, Bool.true_and, decide_true]
  have hparts : ("/repos/" ++ repository ++ "/issues" ++
      ("/" ++ toString number ++ suffix)).toList =
        [] ++ '/' :: ("repos".toList ++ '/' :: (owner ++ '/' :: (name ++ '/' ::
          ("issues".toList ++ '/' :: ((toString number).toList ++ '/' :: leaf))))) := by
    simp [String.toList_append, h.text, hleaf]
  have hlength : (owner ++ '/' :: name).length ≤ 140 := h.text ▸ h.length
  have hchars : ∀ c ∈ owner ++ '/' :: name, 0x21 ≤ c.toNat ∧ c.toNat ≤ 0x7e :=
    fun c hc => h.visible c (h.text ▸ hc)
  have hdigit : ∀ c ∈ (toString number).toList, 0x21 ≤ c.toNat ∧ c.toNat ≤ 0x7e := by
    intro c hc
    have hlow : ('0').toNat ≤ c.toNat := (hall c hc).1
    have hhigh : c.toNat ≤ ('9').toNat := (hall c hc).2
    exact ⟨le_trans (by decide) hlow, le_trans hhigh (by decide)⟩
  unfold validPath
  rw [hparts, List.splitOn_append_cons_self_of_not_mem List.not_mem_nil,
    List.splitOn_append_cons_self_of_not_mem hrepos,
    List.splitOn_append_cons_self_of_not_mem howner,
    List.splitOn_append_cons_self_of_not_mem hname,
    List.splitOn_append_cons_self_of_not_mem hissues,
    List.splitOn_append_cons_self_of_not_mem hnumber]
  simp only [Bool.and_eq_true, decide_eq_true_eq, List.all_eq_true]
  refine ⟨⟨?_, ?_⟩, ⟨⟨⟨trivial, h.owner⟩, h.name⟩, trivial⟩, hvalid⟩
  · simp only [List.length_append, List.length_cons] at hlength ⊢
    have hrepos : "repos".toList.length = 5 := by decide
    have hissues : "issues".toList.length = 6 := by decide
    simp only [List.length_nil]
    omega
  · have htext : ∀ c ∈ "repos".toList ++ "issues".toList ++ ['/'],
        0x21 ≤ c.toNat ∧ c.toNat ≤ 0x7e := List.all_iff_forall_prop.mp (by decide)
    intro c hc
    simp only [List.mem_append, List.mem_cons, List.not_mem_nil, or_false, false_or] at hc htext
    simp only [List.mem_append, List.mem_cons] at hchars
    grind

/-! ## Accepted commands -/

/-- The issue whose number is in the path of a relationship, and the issue whose
id is in its body. -/
def addressed (kind : String) (command : RelationshipCommand) :
    RemoteIssueReference × RemoteIssueReference :=
  if kind = "add_sub_issue" then (command.second, command.first)
  else (command.first, command.second)

/-- What the local checks of the driver ask of one command. -/
inductive AcceptedCommand (kind : String) : IssueCommand → Prop
  | create (command : CreateIssueCommand)
      (correlation : requestIdPattern command.requestIdentity = true)
      (unreserved : contains command.body correlationReserved = false)
      (encoded : ∃ bytes, WireLibrary.requestBytes (createRequest command) = some bytes ∧
        bytes.length ≤ maxWriteRequestBytes) : AcceptedCommand kind (.createIssue command)
  | relationship (command : RelationshipCommand)
      (number : 1 ≤ (addressed kind command).1.issueNumber ∧
        (addressed kind command).1.issueNumber < decimalLimit)
      (id : decimalPattern (addressed kind command).2.numericIssueId.toList = true) :
      AcceptedCommand kind (.relationship command)

/-- A call that the driver does not reject before its request is posted, for a
sealed repository identity that it leaves as it is, and an answer that is JSON
or is found not to be. -/
structure LocallyAccepted (repository kind : String) (command : IssueCommand)
    (token : Option String) (exchange : Exchange) : Prop where
  repository : validateRepository repository = .ok repository
  command : AcceptedCommand kind command
  credential : ∃ headers, credentialHeaders token = .ok headers
  decoded : ∀ response closed, exchange = .answered response closed →
    ∃ value, WireLibrary.jsonLoads response.body = .ok value

omit [PythonLibrary] [WireLibrary] in
theorem observeSent_answers {sent : Py WriteTransportResponse}
    {observe : WriteTransportResponse → Py WriteObservation}
    (hsent : sent ≠ .error (.driverError "github_write_credential_required"))
    (hobserve : ∀ response, sent = .ok response → ∃ observation, observe response = .ok observation) :
    ∃ observation, observeSent sent observe = .ok observation := by
  unfold observeSent
  split
  · exact hobserve _ rfl
  · split_ifs with hcode
    · exact absurd (by rw [hcode]) hsent
    · exact ⟨_, rfl⟩
  · exact ⟨_, rfl⟩

omit [PythonLibrary] [WireLibrary] in
/-- A transport never asks for a credential. -/
theorem post_ne_credential (path : String) (body : List UInt8) (exchange : Exchange) :
    post path body exchange ≠ .error (.driverError "github_write_credential_required") := by
  unfold post
  split_ifs
  · decide
  · decide
  · rcases exchange with ⟨response, closed | closed⟩ | _ | _ | _ | _ | _ <;> simp

omit [PythonLibrary] [WireLibrary] in
theorem post_eq_ok {path : String} {body : List UInt8} {exchange : Exchange}
    {response : WriteTransportResponse} (h : post path body exchange = .ok response) :
    exchange = .answered response true := by
  unfold post at h
  split_ifs at h
  rcases exchange with ⟨answer, closed | closed⟩ | _ | _ | _ | _ | _ <;> simp at h
  rw [h]

theorem jsonObject_answers {response : WriteTransportResponse}
    (h : ∃ value, WireLibrary.jsonLoads response.body = .ok value) :
    ∃ value, jsonObject response = .ok value := by
  obtain ⟨value, hvalue⟩ := h
  unfold jsonObject
  split_ifs
  · exact ⟨_, by rw [hvalue]; rfl⟩
  · exact ⟨_, rfl⟩

theorem observeCreated_answers (repository : String) {response : WriteTransportResponse}
    (h : ∃ value, WireLibrary.jsonLoads response.body = .ok value) :
    ∃ observation, observeCreated repository response = .ok observation := by
  obtain ⟨value, hvalue⟩ := jsonObject_answers h
  unfold observeCreated
  rw [hvalue]
  split_ifs
  · exact ⟨_, rfl⟩
  · cases hfields : value.bind createdFields with
    | none => exact ⟨_, by simp [bind, Except.bind, hfields]; rfl⟩
    | some fields => exact ⟨_, by simp [bind, Except.bind, hfields]; rfl⟩

theorem normalizeResponse_answers (result : Dict) {response : WriteTransportResponse}
    (h : ∃ value, WireLibrary.jsonLoads response.body = .ok value) :
    ∃ observation, normalizeResponse result response = .ok observation := by
  obtain ⟨value, hvalue⟩ := jsonObject_answers h
  unfold normalizeResponse
  rw [hvalue]
  split_ifs
  · exact ⟨_, rfl⟩
  · exact ⟨_, rfl⟩

theorem validateRepository_raises (repository : String) :
    RaisesValueErrors (validateRepository repository) := by
  unfold validateRepository
  apply (RaisesValueErrors.raiseIf _ _).bind
  intro _ _
  apply (RaisesValueErrors.raiseIf _ _).bind
  intro _ _
  apply (normalizeRepositoryIdentity_raises _).bind
  intro normalized _
  split
  · apply (RaisesValueErrors.raiseIf _ _).bind
    intro _ _
    exact .pure _
  · exact .valueError _

theorem path_raises (repository suffix : String) : RaisesValueErrors (path repository suffix) := by
  unfold path
  apply (validateRepository_raises repository).bind
  intro _ _
  apply (RaisesValueErrors.raiseIf _ _).bind
  intro _ _
  exact .pure _

omit [PythonLibrary] [WireLibrary] in
/-- A request that is made without asking for a credential is sent so. -/
theorem bind_post_ne_credential {α : Type} {x : Py α}
    (hx : x ≠ .error (.driverError "github_write_credential_required"))
    {sent : α → Py WriteTransportResponse}
    (hsent : ∀ a, sent a ≠ .error (.driverError "github_write_credential_required")) :
    (x >>= sent) ≠ .error (.driverError "github_write_credential_required") := by
  cases x with
  | error e => exact fun h => hx (congrArg _ (Except.error.inj h))
  | ok a => exact hsent a

omit [PythonLibrary] in
theorem requestBody_ne_credential (value : Dict) :
    requestBody value ≠ .error (.driverError "github_write_credential_required") := by
  unfold requestBody
  cases WireLibrary.requestBytes value with
  | none => simp [orRaise, bind, Except.bind]
  | some bytes =>
      simp only [orRaise, bind, Except.bind]
      split_ifs
      · decide
      · simp [pure, Except.pure]

/-- A repository that the driver leaves as it is was normalized before. -/
theorem normalized_eq {repository normalized : String}
    (h : validateRepository repository = .ok repository)
    (hnormalized : normalizeRepositoryIdentity (.str repository) = .ok normalized) :
    normalized = repository :=
  Except.ok.inj (hnormalized.symm.trans (validateRepository_spec h).1)

theorem createIssueDispatch_answers {repository : String} {command : CreateIssueCommand}
    {token : Option String} {exchange : Exchange}
    (h : LocallyAccepted repository "create_issue" (.createIssue command) token exchange)
    (hnormalized : normalizeRepositoryIdentity (.str repository) = .ok command.repositoryIdentity) :
    ∃ observation, createIssueDispatch command token exchange = .ok observation := by
  obtain ⟨headers, hheaders⟩ := h.credential
  cases h.command with
  | create _ correlation unreserved encoded =>
      obtain ⟨bytes, hbytes, hlimit⟩ := encoded
      have hbody : requestBody (createRequest command) = .ok bytes := by
        simp [requestBody, hbytes, orRaise, not_lt.mpr hlimit, bind, Except.bind, pure, Except.pure]
      have hpath : path repository "" ≠
          .error (.driverError "github_write_credential_required") := by
        intro herror
        obtain ⟨code, hcode⟩ := path_raises repository "" _ herror
        cases hcode
      have hanswers : ∀ response,
          (path repository "" >>= fun path => post path bytes exchange) = .ok response →
            ∃ observation, observeCreated repository response = .ok observation := by
        intro response hresponse
        obtain ⟨made, -, hpost⟩ := bind_eq_ok.mp hresponse
        exact observeCreated_answers repository (h.decoded response true (post_eq_ok hpost))
      obtain ⟨observation, hobserved⟩ := observeSent_answers
        (bind_post_ne_credential hpath fun made => post_ne_credential made bytes exchange) hanswers
      refine ⟨observation, ?_⟩
      simp only [createIssueDispatch, bind_eq_ok]
      refine ⟨repository, by rw [normalized_eq h.repository hnormalized]; exact h.repository, ?_⟩
      rw [if_neg (by simp [correlation]), if_neg (by simp [unreserved])]
      simp only [bind_eq_ok]
      exact ⟨bytes, hbody, headers, hheaders, hobserved⟩

theorem relationshipDispatch_answers {endpoint : RelationshipEndpoint}
    (hsuffix : endpoint.suffix = "/sub_issues" ∨ endpoint.suffix = "/dependencies/blocked_by")
    {repository : String} (hrepository : validateRepository repository = .ok repository)
    {target inserted : RemoteIssueReference}
    (hnumber : 1 ≤ target.issueNumber ∧ target.issueNumber < decimalLimit)
    (hid : decimalPattern inserted.numericIssueId.toList = true) {token : Option String}
    (hcredential : ∃ headers, credentialHeaders token = .ok headers) {exchange : Exchange}
    (hdecoded : ∀ response closed, exchange = .answered response closed →
      ∃ value, WireLibrary.jsonLoads response.body = .ok value) :
    ∃ observation, relationshipDispatch endpoint repository target inserted token exchange =
      .ok observation := by
  obtain ⟨headers, hheaders⟩ := hcredential
  obtain ⟨-, owner, name, htext⟩ := validateRepository_spec hrepository
  have hsafe : safeIssueNumber target.issueNumber = .ok target.issueNumber := by
    simp only [safeIssueNumber, bind_eq_ok, raiseIf_eq_ok, not_or, not_lt, not_le, pure_eq_ok]
    exact ⟨(), hnumber, trivial⟩
  have hdecimal : safeDecimalId inserted.numericIssueId =
      .ok (decimalValue inserted.numericIssueId) := by
    simp only [safeDecimalId, bind_eq_ok, raiseIf_eq_ok, Bool.not_eq_false, pure_eq_ok]
    exact ⟨(), hid, trivial⟩
  have hvalid := issuePath_valid htext hnumber.1 hnumber.2 hsuffix
  have hpath : path repository ("/" ++ toString target.issueNumber ++ endpoint.suffix) =
      .ok ("/repos/" ++ repository ++ "/issues" ++
        ("/" ++ toString target.issueNumber ++ endpoint.suffix)) := by
    simp only [path, bind_eq_ok, raiseIf_eq_ok, Bool.not_eq_false, pure_eq_ok]
    exact ⟨repository, hrepository, (), hvalid, rfl⟩
  have hanswers : ∀ (path : String) (request result : Dict) (response : WriteTransportResponse),
      (requestBody request >>= fun body => post path body exchange) = .ok response →
        ∃ observation, normalizeResponse result response = .ok observation := by
    intro path request result response hresponse
    obtain ⟨body, -, hpost⟩ := bind_eq_ok.mp hresponse
    exact normalizeResponse_answers result (hdecoded response true (post_eq_ok hpost))
  obtain ⟨observation, hobserved⟩ := observeSent_answers
    (bind_post_ne_credential (requestBody_ne_credential _) fun body => post_ne_credential _ body _)
    (hanswers _ _ _)
  refine ⟨observation, ?_⟩
  simp only [relationshipDispatch, dispatchRelationship, bind_eq_ok]
  exact ⟨repository, hrepository, _, hsafe, _, hdecimal, _, hpath, headers, hheaders, hobserved⟩

omit [PythonLibrary] [WireLibrary] in
theorem relationshipKinds_isSome {kind : String} (h : (relationshipKinds kind).isSome) :
    kind = "add_sub_issue" ∨ kind = "add_dependency" := by
  unfold relationshipKinds at h
  split at h
  · exact .inl rfl
  · exact .inr rfl
  · cases h

/-- A call that is locally accepted is answered by an observation. -/
theorem dispatch_answers {repository kind : String} {command : IssueCommand}
    {token : Option String} {exchange : Exchange}
    (h : LocallyAccepted repository kind command token exchange)
    (hfits : Fits repository kind command) :
    ∃ observation, dispatch kind command token exchange = .ok observation := by
  cases hfits with
  | create command create normalized =>
      subst create
      exact createIssueDispatch_answers h normalized
  | relationship command create relates normalized =>
      have hsame := normalized_eq h.repository normalized
      have hrepository : validateRepository command.repositoryIdentity =
          .ok command.repositoryIdentity := by
        rw [hsame]
        exact h.repository
      cases h.command with
      | relationship _ number id =>
          rcases relationshipKinds_isSome relates with rfl | rfl
          · exact relationshipDispatch_answers (.inl rfl) hrepository number id h.credential
              h.decoded
          · exact relationshipDispatch_answers (.inr rfl) hrepository number id h.credential
              h.decoded

/-! ## Trusted successes -/

omit [WireLibrary] in
/-- The payload of an observed creation is one of a creation. -/
theorem createdIssuePayload_created (hstrip : PythonLibrary.strip "" = "") (repository : String)
    {fields : Int × Int × String} (h : CreatedFields fields) :
    createdPayload repository (createdIssuePayload repository fields) = true := by
  obtain ⟨id, number, node⟩ := fields
  have hnumeric : numericIdText (toString id) = true := toString_numericIdText h.id.1 h.id.2
  have hnode : node ≠ "" := by
    rintro rfl
    have hlength := h.node
    rw [hstrip] at hlength
    exact absurd hlength (by decide)
  have hnumber : (positiveInt? (.int number)).isSome := by
    simp [positiveInt?, h.number.1]
  have hpresent : (Value.nonEmptyText? (.str node)).isSome := by
    simp [Value.nonEmptyText?, hnode]
  have hrepository : decide (Value.str repository = .str repository) = true := decide_eq_true rfl
  simp only [createdPayload, Bool.and_eq_true]
  exact ⟨⟨⟨⟨⟨rfl, hrepository⟩, hnumber⟩, hnumeric⟩, hpresent⟩, rfl⟩

omit [WireLibrary] in
theorem trusted_valid {context : ExecutionContext} {attempt : OperationAttemptState}
    {observation : WriteObservation} {remote : RemoteResult}
    (h : trustedSuccessResult context attempt observation = .ok remote) : remote.Valid := by
  simp only [trustedSuccessResult, bind_eq_ok, orRaise_eq_ok] at h
  obtain ⟨payload, -, h⟩ := h
  have hkind : "github." ++ attempt.operation.operationKind ++ ".v1" ≠ "" :=
    append_ne_empty (append_ne_empty (by decide))
  split_ifs at h
  · simp only [bind_eq_ok, raiseIf_eq_ok, pure_eq_ok] at h
    obtain ⟨_, -, _, hidentity, rfl⟩ := h
    exact ⟨⟨hkind, hidentity, digest_ne_empty _⟩, rfl⟩
  · simp only [bind_eq_ok, raiseIf_eq_ok, pure_eq_ok] at h
    obtain ⟨_, -, _, hidentity, rfl⟩ := h
    exact ⟨⟨hkind, hidentity, digest_ne_empty _⟩, rfl⟩
  · cases h

/-- The payload of an observed relationship names the repository and its writer. -/
theorem relationship_success_payload {kind : String} {command : RelationshipCommand}
    {token : Option String} {exchange : Exchange} {observation : WriteObservation}
    (create : kind ≠ "create_issue") (relates : (relationshipKinds kind).isSome)
    (hrepository : validateRepository command.repositoryIdentity = .ok command.repositoryIdentity)
    (h : dispatch kind (.relationship command) token exchange = .ok observation)
    (hsuccess : observation.kind = .definitiveSuccess) :
    ∃ payload, observation = successObservation payload ∧
      relationshipPayload command.repositoryIdentity payload = true := by
  rcases relationshipKinds_isSome relates with rfl | rfl
  · have hsent : subIssueDispatch command token exchange = .ok observation := h
    obtain ⟨repository, number, id, hvalidated, -, -, rfl⟩ :=
      relationshipDispatch_success hsent hsuccess
    rw [hrepository, Except.ok.injEq] at hvalidated
    subst hvalidated
    refine ⟨_, rfl, ?_⟩
    simp only [relationshipPayload, Bool.and_eq_true]
    exact ⟨decide_eq_true rfl, rfl⟩
  · have hsent : dependencyDispatch command token exchange = .ok observation := h
    obtain ⟨repository, number, id, hvalidated, -, -, rfl⟩ :=
      relationshipDispatch_success hsent hsuccess
    rw [hrepository, Except.ok.injEq] at hvalidated
    subst hvalidated
    refine ⟨_, rfl, ?_⟩
    simp only [relationshipPayload, Bool.and_eq_true]
    exact ⟨decide_eq_true rfl, rfl⟩

/-- The Applier trusts every success that the driver observes of a command for
its repository. -/
theorem dispatch_trusted (hstrip : PythonLibrary.strip "" = "") {context : ExecutionContext}
    {attempt : OperationAttemptState} {command : IssueCommand} {token : Option String}
    {exchange : Exchange} {observation : WriteObservation}
    (hfits : Fits context.authority.repositoryIdentity attempt.operation.operationKind command)
    (hrepository : validateRepository context.authority.repositoryIdentity =
      .ok context.authority.repositoryIdentity)
    (h : dispatch attempt.operation.operationKind command token exchange = .ok observation)
    (hsuccess : observation.kind = .definitiveSuccess) :
    ∃ remote, trustedSuccessResult context attempt observation = .ok remote := by
  have hnamed : ∀ value : Dict, resultIdentity value ≠ "" := fun value =>
    append_ne_empty (by decide)
  cases hfits with
  | create command create normalized =>
      have hsame := normalized_eq hrepository normalized
      rw [dispatch, if_pos create] at h
      obtain ⟨repository, fields, hvalidated, hfields, rfl⟩ := createIssueDispatch_success h hsuccess
      rw [hsame, hrepository, Except.ok.injEq] at hvalidated
      subst hvalidated
      have hcreated := createdIssuePayload_created hstrip
        context.authority.repositoryIdentity hfields
      simp only [trustedSuccessResult, if_pos create, bind_eq_ok, orRaise_eq_ok, raiseIf_eq_ok,
        pure_eq_ok]
      exact ⟨_, _, rfl, (), by simp [hcreated], (), hnamed _, rfl⟩
  | relationship command create relates normalized =>
      have hsame := normalized_eq hrepository normalized
      rw [← hsame] at hrepository
      obtain ⟨payload, hpayload, htrusted⟩ := relationship_success_payload create relates hrepository
        h hsuccess
      rw [hsame] at htrusted
      simp only [trustedSuccessResult, if_neg create, if_pos relates, bind_eq_ok, orRaise_eq_ok,
        raiseIf_eq_ok, pure_eq_ok]
      subst hpayload
      exact ⟨_, _, rfl, (), by simp [htrusted], (), hnamed _, rfl⟩

end
end DeliverySystem.WriteDriverOutcomes

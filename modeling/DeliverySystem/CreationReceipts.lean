import DeliverySystem.RecordedOperands
import DeliverySystem.WriteDriverOutcomes

/-!
# Receipts of created issues

The write driver names an issue it created by the digest of its payload. The
Applier stores that name in the receipt of the creation. The observer of
postconditions wants the name to be spelled from the node of the issue, so it
reads no receipt that the Applier stored for an answer of the driver.
-/
namespace DeliverySystem.CreationReceipts
open PythonValues WriteOperations ApplicationIdentity ExecutionRecords ExecutionContexts
open KeyedRows ExecutionStore ExecutionTransactions ExecutionInvariant IssueCommands Applier
open PostconditionObservation OperandAgreement RecordedOperands DispatchHistory
open WriteDriver WriteDriverOutcomes
set_option autoImplicit false

section
variable [PythonLibrary]

theorem mintReceipt_spec {context : ExecutionContext} {current : Bool} {index : Nat}
    {remote : RemoteResult} {startedAt completedAt : Instant} {receipt : LiveReceipt context}
    (h : mintReceipt context current index remote startedAt completedAt = .ok receipt) :
    receipt.val.remoteResult = remote := by
  unfold mintReceipt at h
  split_ifs at h
  split at h
  · rename_i made hmade
    obtain rfl := Except.ok.inj h
    exact (newReceipt_spec hmade).remoteResult
  · cases h

/-- What is stored does not depend on how the call was answered. -/
theorem completeObserved_dispatch (env : Environment) (answer : Py WriteObservation) (t : Tables)
    (claim : Claim) (observation : WriteObservation) :
    completeObserved { env with dispatch := answer } t claim observation =
      completeObserved env t claim observation := rfl

/-- The receipt of an observed success carries what was observed. -/
theorem completeObserved_stored {env : Environment} {t t' : Tables} {claim : Claim}
    {observation : WriteObservation} {s : ApplicationExecutionState}
    (h : completeObserved env t claim observation = .ok (t', s)) :
    ∃ r, t'.operationReceipts.lookup r.operationIdentity = some r ∧
      r.remoteResult.resultIdentity = observation.resultIdentity ∧
      observation.resultPayload = some r.remoteResult.resultPayload := by
  simp only [completeObserved, bind_eq_ok] at h
  obtain ⟨remote, htrusted, receipt, hmint, hcomplete⟩ := h
  obtain ⟨previous, attempt, nextAttempt, hdone⟩ := completeOperationSuccess_spec hcomplete
  obtain ⟨receipts, hinsert, rfl⟩ := hdone.inserted
  have hremote := mintReceipt_spec hmint
  obtain ⟨hpayload, hidentity, -⟩ := trustedSuccessResult_spec htrusted
  refine ⟨receipt.val, (Rows.lookup_insert hinsert _).trans (if_pos rfl), ?_, ?_⟩
  · rw [hremote, hidentity]
  · rw [hremote, hpayload]

/-- An accepted receipt is named by its node. -/
theorem receiptOperand_names {r : OperationReceipt} {identity : LogicalApplicationIdentity}
    {operationId : String} {index : Nat} {operation : WriteOperation}
    {reference : RemoteIssueReference}
    (h : receiptOperand r identity operationId index operation = .ok reference) :
    identityNamesNode r.remoteResult = true := by
  simp only [receiptOperand, bind_eq_ok, raiseIf_eq_ok] at h
  obtain ⟨_, -, h⟩ := h
  obtain ⟨_, -, h⟩ := h
  obtain ⟨_, -, h⟩ := h
  obtain ⟨_, hchecks, -⟩ := h
  simp only [not_or, Bool.not_eq_false] at hchecks
  exact hchecks.2.2.2.2.2.1

variable [WireLibrary]

omit [PythonLibrary] in
/-- No node spells the name of a result. -/
theorem resultIdentity_ne (value : Dict) (node : String) :
    resultIdentity value ≠ "github-issue:" ++ node := by
  have hresult : ∀ s, ("github-write-result-" ++ s).toList[7]? = some 'w' := by
    intro s
    rw [String.toList_append, List.getElem?_append_left (by decide +kernel)]
    decide +kernel
  have hissue : ∀ s, ("github-issue:" ++ s).toList[7]? = some 'i' := by
    intro s
    rw [String.toList_append, List.getElem?_append_left (by decide +kernel)]
    decide +kernel
  unfold resultIdentity
  intro h
  have hchar := hresult (WireLibrary.resultHexdigest value)
  rw [h, hissue node] at hchar
  exact absurd hchar (by decide)

omit [PythonLibrary] in
theorem not_identityNamesNode {remote : RemoteResult} {value : Dict}
    (h : remote.resultIdentity = resultIdentity value) : identityNamesNode remote ≠ true := by
  unfold identityNamesNode
  split
  · rw [h, ne_eq, decide_eq_true_eq]
    exact resultIdentity_ne _ _
  · exact Bool.false_ne_true

/-- Whatever the driver observed of a creation, the receipt that is stored from
it is accepted by the observer for no operation. -/
theorem created_receipt_unreadable {command : CreateIssueCommand} {token : Option String}
    {exchange : Exchange} {observation : WriteObservation} {env : Environment} {t t' : Tables}
    {claim : Claim} {s : ApplicationExecutionState}
    (hdispatch : createIssueDispatch command token exchange = .ok observation)
    (hsuccess : observation.kind = .definitiveSuccess)
    (hstored : completeObserved env t claim observation = .ok (t', s)) :
    ∃ r, t'.operationReceipts.lookup r.operationIdentity = some r ∧
      observation.resultPayload = some r.remoteResult.resultPayload ∧
      ∀ identity operationId index operation reference,
        receiptOperand r identity operationId index operation ≠ .ok reference := by
  obtain ⟨r, hrow, hidentity, hpayload⟩ := completeObserved_stored hstored
  obtain ⟨repository, fields, -, -, rfl⟩ := createIssueDispatch_success hdispatch hsuccess
  refine ⟨r, hrow, hpayload, fun identity operationId index operation reference haccepted => ?_⟩
  exact not_identityNamesNode hidentity (receiptOperand_names haccepted)

end

/-! ## A created issue of the sample -/

def createdResponse : Dict := [("id", .int 1001), ("number", .int 7), ("node_id", .str "I_1")]

/-- JSON of ASCII values. -/
def encodeJson (value : Dict) : List UInt8 :=
  (JsonText.dumps (.dict value)).toUTF8.data.toList

/-- The edge of the driver on ASCII text, where the remote answers one body. -/
@[reducible] def sampleWire : WireLibrary where
  isspace := Char.isWhitespace
  requestBytes value := some (encodeJson value)
  resultHexdigest value := ReferenceLibrary.sha256Hex (encodeJson value)
  jsonLoads body := .ok (if body = encodeJson createdResponse then some (.dict createdResponse)
    else none)

def sampleCommand : CreateIssueCommand where
  repositoryIdentity := "acme/widgets"
  clientRef := "A"
  title := "First"
  body := "Text"
  requestIdentity := "application-request-" ++
    "8c4b181fac315547321d94c64a9b5fed674ef1cd0d8799a15b9483dbb10e3370"

def sampleResponse : WriteTransportResponse where
  status := 201
  headers := [("content-type", "application/json; charset=utf-8")]
  body := encodeJson createdResponse

section
attribute [local instance] ReferenceLibrary.referenceLibrary sampleWire

/-- The observation of the issue that the sample creates. -/
def createdObservation : WriteObservation :=
  successObservation (createdIssuePayload "acme/widgets" (1001, 7, "I_1"))

theorem sample_created_observation :
    createIssueDispatch sampleCommand (some "ghs_sample") (.answered sampleResponse true) =
      .ok createdObservation := by
  have hbody : requestBody (createRequest sampleCommand) =
      .ok (encodeJson (createRequest sampleCommand)) := by
    decide +kernel
  have hsent : (path "acme/widgets" "" >>= fun path => post path (encodeJson
      (createRequest sampleCommand)) (.answered sampleResponse true)) = .ok sampleResponse := by
    decide +kernel
  have hcreated : jsonObject sampleResponse = .ok (some createdResponse) := by decide
  have hfields : createdFields createdResponse = some (1001, 7, "I_1") := by decide
  have hobserved : observeCreated "acme/widgets" sampleResponse = .ok createdObservation := by
    rw [observeCreated, if_neg (by decide), hcreated]
    simp only [bind, Except.bind, Option.bind_some, hfields]
    rfl
  simp only [createIssueDispatch, bind_eq_ok]
  refine ⟨"acme/widgets", by decide, ?_⟩
  rw [if_neg (by decide), if_neg (by decide)]
  simp only [bind_eq_ok]
  exact ⟨_, hbody, _, rfl, by rw [hsent]; exact hobserved⟩

theorem sample_created_trusted {attempt : OperationAttemptState}
    (hoperation : attempt.operation = createOperation "A") :
    ∃ remote, trustedSuccessResult sampleContext attempt createdObservation = .ok remote ∧
      remote.Valid := by
  have hrepository : sampleContext.authority.repositoryIdentity = "acme/widgets" := rfl
  have htrusted : trustedSuccessResult sampleContext attempt createdObservation = .ok
      { resultKind := "github." ++ "create_issue" ++ ".v1"
        resultIdentity := createdObservation.resultIdentity
        resultDigest := digest (.dict (createdIssuePayload "acme/widgets" (1001, 7, "I_1")))
        resultPayload := createdIssuePayload "acme/widgets" (1001, 7, "I_1") } := by
    simp only [trustedSuccessResult, hoperation, createOperation, hrepository]
    rfl
  have hidentity : createdObservation.resultIdentity ≠ "" := append_ne_empty (by decide)
  exact ⟨_, htrusted, ⟨append_ne_empty (append_ne_empty (by decide)), hidentity,
    digest_ne_empty _⟩, rfl⟩

/-- The sample run up to the answer of the driver, and the receipt it stores. -/
theorem sample_created_stored :
    ∃ (claim : Claim) (t t' : Tables) (s : ApplicationExecutionState) (r : OperationReceipt)
      (trace : List Event),
      completeObserved (sampleEnvironment 10 t) t claim createdObservation = .ok (t', s) ∧
        t'.execution = some s ∧ s.nextOperationIndex = 1 ∧
        finalReceipt t' sampleContext.identity.applicationId 10 (createOperation "A", 0) = .ok r ∧
        r.remoteResult.resultIdentity = createdObservation.resultIdentity ∧
        createdObservation.resultPayload = some r.remoteResult.resultPayload ∧
        Visits t' (.looping sampleContext s) trace := by
  obtain ⟨claim, t, hclaim, hpasses⟩ := sample_claim
  let env := { sampleEnvironment 10 t with dispatch := .ok createdObservation }
  obtain ⟨command, hcommand⟩ := sample_materialized reference_sampleText hclaim.operation.1 env
  have hvalidate : validateClaim env claim = .ok () :=
    validateClaim_ok hclaim.rows (by rw [hclaim.context]; exact hclaim.state.1)
      (by rw [hclaim.context]; exact hclaim.attempt.1) (fun _ => rfl) rfl rfl
  have hprepare : prepare env claim = .ok command := by
    simp only [prepare, bind_eq_ok, hclaim.context]
    exact ⟨(), hvalidate, hcommand⟩
  obtain ⟨remote, htrusted, hremote⟩ := sample_created_trusted hclaim.operation.1
  obtain ⟨s, receipt, t', hs, hresult, hcomplete⟩ := sample_stored hclaim htrusted hremote
  have hready : Applier.advance env 0 t (.claimed claim) = (t, .ready claim command, []) := by
    simp only [Applier.advance, hprepare]
  have hcompleted : Applier.advance env 0 t (.observed claim createdObservation) =
      (t', .looping sampleContext s, []) := by
    have hcompleteEnv : completeObserved env t claim createdObservation = .ok (t', s) :=
      (completeObserved_dispatch _ _ _ _ _).trans hcomplete
    simp only [Applier.advance, hcompleteEnv, hclaim.context]
    rfl
  have hdispatched := ((hpasses.visits.advance env hready).advance env rfl).advance env rfl
  exact ⟨claim, t, t', s, receipt, _, hcomplete, hs.found, hs.progress.2.1, hs.stored,
    hresult ▸ (trustedSuccessResult_spec htrusted).2.1,
    hresult ▸ (trustedSuccessResult_spec htrusted).1,
    (hdispatched.advance env rfl).advance env hcompleted⟩

theorem sample_creates : CreatesFirst sampleContext.expectedOperations ["A"] :=
  ⟨List.nodup_singleton _, [], rfl, by simp⟩

end

/-- The receipt of the sample creation is refused by the observer. -/
theorem created_receipt_unreadable_sample :
    ∃ (_ : PythonLibrary) (_ : WireLibrary) (t' : Tables) (r : OperationReceipt),
      t'.operationReceipts.lookup r.operationIdentity = some r ∧
        createdObservation.resultPayload = some r.remoteResult.resultPayload ∧
        ∀ identity operationId index operation reference,
          receiptOperand r identity operationId index operation ≠ .ok reference := by
  let library := ReferenceLibrary.referenceLibrary
  let wire := sampleWire
  obtain ⟨claim, t, t', s, -, -, hstored, -⟩ := sample_created_stored
  exact ⟨library, wire, t',
    created_receipt_unreadable sample_created_observation rfl hstored⟩

/-- The Applier reads the issue of a receipt that the observer refuses. -/
theorem observer_refuses_created_receipt :
    ∃ (_ : PythonLibrary) (_ : WireLibrary) (env : Environment) (t t' : Tables) (claim : Claim)
      (s : ApplicationExecutionState) (r : OperationReceipt),
      createIssueDispatch sampleCommand (some "ghs_sample") (.answered sampleResponse true) =
          .ok createdObservation ∧
        createdObservation.kind = .definitiveSuccess ∧
        completeObserved env t claim createdObservation = .ok (t', s) ∧
        t'.operationReceipts.lookup (operationIdentity sampleContext.identity.applicationId 0
          (createOperation "A")) = some r ∧
        referenceFromReceipt sampleContext.identity.values.workspaceIdentity sampleContext t' "A" =
          .ok ⟨"acme/widgets", 7, "1001", "I_1"⟩ ∧
        ∀ reference, receiptOperand r sampleContext.identity
          (operationIdentity sampleContext.identity.applicationId 0 (createOperation "A")) 0
          (createOperation "A") ≠ .ok reference := by
  let library := ReferenceLibrary.referenceLibrary
  let wire := sampleWire
  obtain ⟨claim, t, t', s, r, trace, hstored, hs, hnext, hfinal, hidentity, hpayload, c, hc, rfl, -⟩ :=
    sample_created_stored
  simp only [finalReceipt, bind_eq_ok, orRaise_eq_ok] at hfinal
  obtain ⟨found, hrow, _, -, _, -, hfound⟩ := hfinal
  obtain rfl := pure_eq_ok.mp hfound
  have hcontext : ContextOf sampleOperations sampleIdentity sampleContext := ⟨sample_sealed, rfl⟩
  have hreceipts := reachable_storedReceipts hc hcontext hs
  rw [hnext] at hreceipts
  have hreceipt : StoredReceipt sampleContext 0 (createOperation "A") found :=
    hreceipts 0 _ found Nat.one_pos rfl hrow
  have hcreate : createReceipt sampleContext c.tables "A" = some found :=
    (createReceipt_eq_some sample_creates le_rfl hreceipts).mpr
      ⟨List.mem_singleton_self _, hrow, hreceipt⟩
  have hissue : issueOf found = .ok ⟨"acme/widgets", 7, "1001", "I_1"⟩ := by
    have hcreated : found.remoteResult.resultPayload =
        createdIssuePayload "acme/widgets" (1001, 7, "I_1") := (Option.some.inj hpayload).symm
    rw [issueOf, hcreated]
    exact sample_reference reference_sampleText (c := '1') (d := 'I') (by decide) rfl rfl rfl rfl
  refine ⟨library, wire, _, t, _, claim, s, found, sample_created_observation, rfl, hstored, hrow,
    (referenceFromReceipt_eq_ok sample_creates le_rfl hreceipts).mpr ⟨found, hcreate, hissue⟩,
    fun reference haccepted => ?_⟩
  exact not_identityNamesNode hidentity (receiptOperand_names haccepted)

end DeliverySystem.CreationReceipts

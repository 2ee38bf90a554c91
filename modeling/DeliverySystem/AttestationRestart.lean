import DeliverySystem.FallibleRuns
import DeliverySystem.RestartConsistency
import DeliverySystem.RevalidationAttempts

/-!
# Offline revalidation

The restart service revalidates a stored artifact without a signature: it checks
the stored evidence, takes an attempt, reads the clock and the revocation status,
and appends one event that says what came of it. The decision service calls it and
reads the event that was appended.
-/
namespace DeliverySystem.AttestationRestart
open PythonValues CanonicalValues JsonText AuthorityBindings AttestationClaims
open AttestationArtifacts AttestationRecords AttestationStoreContract AttestationBoundary
open AttestationVerification RemoteSnapshots RevalidationAttempts RestartEvidence
open FallibleRuns (Run.ofExcept Run.start)
set_option autoImplicit false

/-! ## The host of a service -/

/-- What a call of the service raises. -/
inductive RestartRaised where
  /-- An error of a record or of the attempt boundary. -/
  | record (e : Raised)
  /-- `RestartRevalidationError` -/
  | service (code : String)
  /-- `StoreContractError` -/
  | store (code : String)
  /-- A name that no branch has bound is read. -/
  | unboundLocal
  | pairing
deriving DecidableEq

section
variable [PythonLibrary] [UnicodeLibrary] [ZonedTimeLibrary]

/-- The store, and the attempt boundary with its objects. -/
structure Host (state : Type) where
  stored : state
  boundary : RevalidationAttemptBoundary
  objects : Objects
  /-- Every object so far is below it. -/
  allocated : ℕ

/-- What a call reads from outside: the entropy of its attempt, the clock, where a datetime may
lack a time zone, and the revocation reader, which may answer nothing. -/
structure Surroundings where
  entropy : Option (List UInt8)
  clock : Reply (Option ZonedDatetime)
  readStatus : String → String → String → String → String → Reply (Option RevocationStatus)

abbrev Service (state α : Type) := FallibleRuns.Run (Host state) RestartRaised α

section
variable {state : Type}

def ofRecord {α : Type} (x : Py α) : Service state α := Run.ofExcept (x.mapError .record)

def serviceError {α : Type} (code : String) : Service state α :=
  Run.ofExcept (.error (.service code))

/-! ## Parts of a revalidation -/

/-- An argument that is a text and passes its check. -/
def checkedText (value : Value) (valid : Bool) : Except RestartRaised String :=
  match value.text? with
  | some text =>
      if valid then .ok text else .error (.service "attestation_restart_identity_mismatch")
  | none => .error (.service "attestation_restart_identity_mismatch")

/-- `get_artifact_aggregate`, and what follows where it finds nothing. -/
def storedAggregate (store : AttestationPersistenceStore state) (workspace artifactId : String)
    (stored : state) : Except RestartRaised AttestationArtifactAggregate :=
  match store.getArtifactAggregate stored workspace artifactId with
  | .error code => .error (.store code)
  | .ok none => .error (.store "attestation_artifact_not_found")
  | .ok (some aggregate) => .ok aggregate

/-- `create_attempt`, with the object it makes. -/
def createAttempt (workspaceIdentity artifactId : Value) (entropy : Option (List UInt8))
    (host : Host state) : Py (ℕ × Host state) := do
  let fields ← attemptFields workspaceIdentity artifactId entropy
  let boundary ← host.boundary.create host.allocated fields
  pure (host.allocated,
    { host with
      boundary := boundary
      objects := Function.update host.objects host.allocated (some (boundary.instantiate fields))
      allocated := host.allocated + 1 })

/-- The three properties of an attempt; one that is not set raises. -/
def attemptProperties (objects : Objects) (attempt : ℕ) : Py (Value × Value × Value) :=
  match objects attempt with
  | some ⟨some attemptId, some workspace, some artifact, _⟩ => .ok (attemptId, workspace, artifact)
  | _ => .error attemptTampered

/-- `finalize`, from the reading of the properties to the second region of its lock. -/
def finalizeAttempt (attempt : ℕ) (e : AttestationRevalidationEvent) (host : Host state) :
    Py (AttestationRevalidationEvent × Host state) := do
  let (attemptId, workspace, artifact) ← attemptProperties host.objects attempt
  let fields ← host.boundary.owned host.objects attempt attemptId workspace artifact
  let (_, returned, boundary) ←
    host.boundary.finalize host.objects attempt fields (.record e)
  pure (returned, { host with boundary })

/-- `_read_clock` -/
def readClock : Reply (Option ZonedDatetime) → Except RestartRaised Instant
  | .returned (some value) =>
      if value.offset = 0 then .ok value.instant
      else .error (.service "attestation_restart_clock_invalid")
  | _ => .error (.service "attestation_restart_clock_invalid")

/-- `_timestamp_value` -/
def timestampValue (text : String) : Py Instant := do
  let parsed ← orRaise (ZonedTimeLibrary.parse text) (.valueError "")
  pure parsed.instant

/-- `_read_revocation_status` -/
def readRevocationStatus
    (reader : String → String → String → String → String → Reply (Option RevocationStatus))
    (claims : CredentialCapabilityAttestationClaims) : Except RestartRaised RevocationStatus :=
  match reader claims.attestationId claims.credentialInstanceId claims.issuerId claims.keyId
      claims.attestationVersion with
  | .raised => .error (.service "attestation_restart_revocation_unavailable")
  | .returned none => .error (.service "attestation_restart_revocation_unknown")
  | .foreign => .error (.service "attestation_restart_revocation_invalid")
  | .returned (some status) => .ok status

def resultDomain : String := "delivery-system:attestation-revalidation-result:v1"

/-- `_result_digest` -/
def resultDigest (contextDigest referenceDigest : String) : Py String :=
  canonicalDigest (.dict [("domain", .str resultDomain), ("outcome", .str "Successful"),
    ("revalidation_context_digest", .str contextDigest),
    ("binding_reference_digest", .str referenceDigest)])

structure RestartRevalidationResult where
  outcome : String
  failureCode : Option String
  resultDigest : Option String
  event : SequencedAttestationRevalidationEvent

/-- What the event of a revalidation says. -/
structure Conclusion where
  outcome : String
  failureCode : Option String
  resultDigest : Option String
deriving DecidableEq

def Conclusion.failed (code : String) : Conclusion := ⟨"Failed", some code, none⟩

/-- `_append_outcome` -/
def appendOutcome (store : AttestationPersistenceStore state) (attempt : ℕ)
    (aggregate : AttestationArtifactAggregate) (contextDigest : String) (now : Instant)
    (conclusion : Conclusion) : Service state RestartRevalidationResult := do
  let host ← get
  let attemptId ← ofRecord (orRaise
    ((host.objects attempt).bind RevalidationAttempt.attemptId) .attributeError)
  let e ← ofRecord (AttestationRevalidationEvent.create
    (.str aggregate.artifact.workspaceIdentity) (.str aggregate.artifact.artifactId)
    (.str aggregate.artifact.artifactDigest) attemptId (.str contextDigest)
    (.str aggregate.bindingReference.bindingReferenceDigest) conclusion.outcome
    (Value.timestamp now) conclusion.failureCode conclusion.resultDigest)
  let (finalized, host) ← ofRecord (finalizeAttempt attempt e host)
  let appended := store.appendRevalidationEvent host.stored finalized
  set { host with stored := appended.2 }
  let sequenced ← Run.ofExcept (appended.1.mapError .store)
  pure ⟨conclusion.outcome, conclusion.failureCode, conclusion.resultDigest, sequenced⟩

/-- What comes of version 1 claims: they have expired, or the status decides. -/
def concludeV1 (call : Surroundings) (claims : CredentialCapabilityAttestationClaims)
    (contextDigest referenceDigest : String) (now : Instant) : Except RestartRaised Conclusion := do
  let expires ← (timestampValue claims.expiresAt).mapError RestartRaised.record
  if expires ≤ now then pure (.failed "attestation_revalidation_expired")
  else do
    let status ← readRevocationStatus call.readStatus claims
    (status.validate now).mapError fun _ =>
      RestartRaised.service "attestation_restart_revocation_invalid"
    if status.attestationRevoked || status.credentialInstanceRevoked then
      pure (.failed "attestation_revalidation_revoked")
    else do
      let digest ← (resultDigest contextDigest referenceDigest).mapError RestartRaised.record
      pure ⟨"Successful", none, some digest⟩

/-- `revalidate`, after the stored evidence was found valid. -/
def concludeRevalidation (store : AttestationPersistenceStore state) (call : Surroundings)
    (aggregate : AttestationArtifactAggregate) (contextDigest : String) (attempt : ℕ)
    (now : Instant) : Service state RestartRevalidationResult :=
  if aggregate.artifact.claimsPayload.attestationVersion = "2" then do
    let recorded ← appendOutcome store attempt aggregate contextDigest now
      (.failed "attestation_revalidation_verifier_unavailable")
    pure ⟨"Failed", some "attestation_restart_fresh_challenge_required", none, recorded.event⟩
  else do
    let conclusion ← Run.ofExcept (concludeV1 call aggregate.artifact.claimsPayload contextDigest
      aggregate.bindingReference.bindingReferenceDigest now)
    appendOutcome store attempt aggregate contextDigest now conclusion

/-- `RestartRevalidationService.revalidate` -/
def revalidate (store : AttestationPersistenceStore state) (call : Surroundings)
    (workspaceIdentity artifactId : Value) (reference : Option Attributes)
    (request : Option RequestFields) : Service state RestartRevalidationResult := do
  let workspace ← Run.ofExcept (checkedText workspaceIdentity (validText workspaceIdentity))
  let artifact ← Run.ofExcept
    (checkedText artifactId (validId artifactId (hexPattern "artifact-")))
  let host ← get
  let aggregate ← Run.ofExcept (storedAggregate store workspace artifact host.stored)
  let (validArtifact, validReference) ← ofRecord (validateRestartRevalidationContextAggregate
    (some (aggregateObject aggregate)) workspaceIdentity artifactId reference request)
  let payload ← ofRecord (contextPayload validArtifact validReference)
  let contextDigest ← ofRecord (canonicalDigest (.dict payload))
  let (attempt, host) ← ofRecord
    (createAttempt workspaceIdentity artifactId call.entropy host)
  set host
  let now ← Run.ofExcept (readClock call.clock)
  concludeRevalidation store call aggregate contextDigest attempt now

/-! ## The decision service -/

inductive OfflineCapabilityDecision where
  | satisfied
  | notSatisfied
deriving Repr, DecidableEq

/-- `_VALID_PAIRS` -/
def validPairs : List (OfflineCapabilityDecision × String) :=
  [(.satisfied, "offline_capability_satisfied"),
    (.notSatisfied, "attestation_revalidation_expired"),
    (.notSatisfied, "attestation_revalidation_revoked")]

/-- The decision and its reason are one of the valid pairs. -/
structure OfflineCredentialCapabilityDecisionResult where
  decision : OfflineCapabilityDecision
  reasonCode : String
  workspaceIdentity : String
  artifactId : String
  requestedCapabilities : List String
  revalidationAttemptId : String
  eventSequence : Int
  revalidationContextDigest : String
  revalidatedAt : String
  paired : (decision, reasonCode) ∈ validPairs

/-- The branches of `decide`; `none` where no branch is taken. -/
def decisionOf (e : EventFields) : Option (OfflineCapabilityDecision × String) :=
  if e.outcome = "Successful" ∧ e.failureCode = none then
    some (.satisfied, "offline_capability_satisfied")
  else if e.outcome = "Failed" ∧ e.failureCode = some "attestation_revalidation_expired" then
    some (.notSatisfied, "attestation_revalidation_expired")
  else if e.outcome = "Failed" ∧ e.failureCode = some "attestation_revalidation_revoked" then
    some (.notSatisfied, "attestation_revalidation_revoked")
  else none

/-- What `decide` makes of the event that was appended. -/
def decisionResult (sequenced : SequencedAttestationRevalidationEvent)
    (request : Option RequestFields) :
    Except RestartRaised OfflineCredentialCapabilityDecisionResult :=
  match decisionOf sequenced.event.toEventFields, request with
  | none, _ => .error .unboundLocal
  | some _, none => .error (.record .attributeError)
  | some (decision, reasonCode), some request =>
      if h : (decision, reasonCode) ∈ validPairs then
        .ok
          { decision := decision
            reasonCode := reasonCode
            workspaceIdentity := sequenced.event.workspaceIdentity
            artifactId := sequenced.event.artifactId
            requestedCapabilities := request.requiredCapabilities
            revalidationAttemptId := sequenced.event.revalidationAttemptId
            eventSequence := sequenced.eventSequence
            revalidationContextDigest := sequenced.event.revalidationContextDigest
            revalidatedAt := sequenced.event.revalidatedAt
            paired := h }
      else .error .pairing

/-- `OfflineCredentialCapabilityDecisionService.decide` -/
def decideOffline (store : AttestationPersistenceStore state) (call : Surroundings)
    (workspaceIdentity artifactId : Value) (reference : Option Attributes)
    (request : Option RequestFields) :
    Service state OfflineCredentialCapabilityDecisionResult := do
  let result ← revalidate store call workspaceIdentity artifactId reference request
  Run.ofExcept (decisionResult result.event request)

/-! ## What a revalidation leaves -/

/-- The attempt is an object of the boundary that no event was registered for. -/
structure Open (host : Host state) (attempt : ℕ) (fields : String × String × String) : Prop where
  object : host.objects attempt = some (host.boundary.instantiate fields)
  entry : host.boundary.attempts fields.1 = some ⟨attempt, fields.2, none⟩

theorem ofRecord_eq_ok {α : Type} {x : Py α} {a : α} {host host' : Host state} :
    (ofRecord x : Service state α).start host = (.ok a, host') ↔ x = .ok a ∧ host = host' := by
  rw [ofRecord, FallibleRuns.start_ofExcept_eq_ok]
  cases x <;> simp [Except.mapError]

omit [PythonLibrary] [UnicodeLibrary] [ZonedTimeLibrary] in
theorem mapError_eq_ok {ε ε' α : Type} {f : ε → ε'} {x : Except ε α} {a : α} :
    x.mapError f = .ok a ↔ x = .ok a := by
  cases x <;> simp [Except.mapError]

theorem createAttempt_eq_ok {workspaceIdentity artifactId : Value}
    {entropy : Option (List UInt8)} {host host' : Host state} {attempt : ℕ}
    (h : createAttempt workspaceIdentity artifactId entropy host = .ok (attempt, host')) :
    host'.stored = host.stored ∧ ∃ fields, Open host' attempt fields := by
  simp only [createAttempt, bind_eq_ok, pure_eq_ok] at h
  obtain ⟨fields, -, boundary, hcreate, hpair⟩ := h
  obtain ⟨rfl, rfl⟩ := Prod.mk.inj hpair
  refine ⟨rfl, fields, ⟨Function.update_self .., ?_⟩⟩
  rw [(create_eq_ok hcreate).2]
  exact Function.update_self ..

variable [TimestampLibrary] [LawfulTextLibrary] [LawfulZonedTimeLibrary] [LawfulInfixLibrary]

/-- The event that is finalized for an open attempt is the one that is given. -/
theorem finalizeAttempt_eq_ok {host host' : Host state} {attempt : ℕ}
    {fields : String × String × String} {e finalized : AttestationRevalidationEvent}
    (hopen : Open host attempt fields)
    (h : finalizeAttempt attempt e host = .ok (finalized, host')) :
    finalized = e ∧ host'.stored = host.stored := by
  simp only [finalizeAttempt, attemptProperties, hopen.object,
    RevalidationAttemptBoundary.instantiate, bind_eq_ok, pure_eq_ok, Except.ok.injEq] at h
  obtain ⟨_, rfl, owned, howned, ⟨given, returned, boundary⟩, hfinalize, hpair⟩ := h
  obtain ⟨rfl, rfl⟩ := Prod.mk.inj hpair
  obtain ⟨hproperties, -⟩ := owned_eq_ok howned
  have hid : owned.1 = fields.1 :=
    (Value.str.inj (List.cons.inj hproperties).1).symm
  have hgiven : given = e := by
    simp only [RevalidationAttemptBoundary.finalize, readEvent, Supplied.read, e.again_eq,
      bind_eq_ok, pure_eq_ok, Except.ok.injEq] at hfinalize
    obtain ⟨_, rfl, _, -, _, -, heq⟩ := hfinalize
    exact (Prod.mk.inj heq).1.symm
  obtain ⟨-, entry, hentry, -, hcases⟩ := finalize_eq_ok hfinalize
  rw [hid, hopen.entry] at hentry
  obtain rfl := Option.some.inj hentry
  rcases hcases with ⟨-, hreturned, -⟩ | ⟨-, _, hregistered⟩
  · exact ⟨hreturned.trans hgiven, rfl⟩
  · cases hregistered

/-- One event is appended, and it says the conclusion. -/
theorem appendOutcome_eq_ok {store : AttestationPersistenceStore state} {host host' : Host state}
    {attempt : ℕ} {fields : String × String × String} {aggregate : AttestationArtifactAggregate}
    {contextDigest : String} {now : Instant} {conclusion : Conclusion}
    {result : RestartRevalidationResult} (hopen : Open host attempt fields)
    (h : (appendOutcome store attempt aggregate contextDigest now conclusion).start host =
      (.ok result, host')) :
    ∃ e, store.appendRevalidationEvent host.stored e = (.ok result.event, host'.stored) ∧
      e.outcome = conclusion.outcome ∧ e.failureCode = conclusion.failureCode ∧
      e.resultDigest = conclusion.resultDigest ∧
      result = ⟨conclusion.outcome, conclusion.failureCode, conclusion.resultDigest,
        result.event⟩ := by
  simp only [appendOutcome, FallibleRuns.start_bind_eq_ok, FallibleRuns.start_get_eq_ok,
    ofRecord_eq_ok, FallibleRuns.start_set_eq_ok, FallibleRuns.start_ofExcept_eq_ok,
    FallibleRuns.start_pure_eq_ok, mapError_eq_ok] at h
  obtain ⟨_, _, ⟨rfl, rfl⟩, attemptId, _, ⟨-, rfl⟩, e, _, ⟨hcreate, rfl⟩, ⟨finalized, hostF⟩, _,
    ⟨hfinalize, rfl⟩, _, _, rfl, sequenced, _, ⟨happended, rfl⟩, rfl, rfl⟩ := h
  obtain ⟨houtcome, hfailure, hresult, -⟩ := AttestationRevalidationEvent.create_holds hcreate
  obtain ⟨rfl, hstored⟩ := finalizeAttempt_eq_ok hopen hfinalize
  rw [← hstored]
  exact ⟨finalized, Prod.ext happended rfl, houtcome, hfailure, hresult, rfl⟩

/-- What a revalidation that returns has read and recorded. -/
structure Recorded (store : AttestationPersistenceStore state) (call : Surroundings)
    (workspaceIdentity artifactId : Value) (host host' : Host state)
    (aggregate : AttestationArtifactAggregate) (now : Instant) (conclusion : Conclusion)
    (e : AttestationRevalidationEvent) (result : RestartRevalidationResult) : Prop where
  found : ∃ workspace artifact, workspaceIdentity = .str workspace ∧ artifactId = .str artifact ∧
    store.getArtifactAggregate host.stored workspace artifact = .ok (some aggregate)
  clock : readClock call.clock = .ok now
  appended : store.appendRevalidationEvent host.stored e = (.ok result.event, host'.stored)
  outcome : e.outcome = conclusion.outcome
  failureCode : e.failureCode = conclusion.failureCode
  resultDigest : e.resultDigest = conclusion.resultDigest
  second : aggregate.artifact.claimsPayload.attestationVersion = "2" →
    conclusion = .failed "attestation_revalidation_verifier_unavailable" ∧
      result = ⟨"Failed", some "attestation_restart_fresh_challenge_required", none, result.event⟩
  first : aggregate.artifact.claimsPayload.attestationVersion ≠ "2" →
    (∃ contextDigest, concludeV1 call aggregate.artifact.claimsPayload contextDigest
        aggregate.bindingReference.bindingReferenceDigest now = .ok conclusion) ∧
      result = ⟨conclusion.outcome, conclusion.failureCode, conclusion.resultDigest, result.event⟩

omit [PythonLibrary] [UnicodeLibrary] [ZonedTimeLibrary] [TimestampLibrary] [LawfulTextLibrary]
  [LawfulZonedTimeLibrary] [LawfulInfixLibrary] in
theorem checkedText_eq_ok {value : Value} {valid : Bool} {text : String}
    (h : checkedText value valid = .ok text) : value = .str text := by
  unfold checkedText at h
  cases value <;> simp only [Value.text?, reduceCtorEq] at h
  split_ifs at h
  rw [Except.ok.inj h]

omit [TimestampLibrary] [LawfulTextLibrary] [LawfulZonedTimeLibrary] [LawfulInfixLibrary] in
theorem storedAggregate_eq_ok {store : AttestationPersistenceStore state}
    {workspace artifactId : String} {stored : state} {aggregate : AttestationArtifactAggregate}
    (h : storedAggregate store workspace artifactId stored = .ok aggregate) :
    store.getArtifactAggregate stored workspace artifactId = .ok (some aggregate) := by
  unfold storedAggregate at h
  split at h
  · cases h
  · cases h
  · rename_i found hfound
    rw [hfound, Except.ok.inj h]

/-- A revalidation that returns has appended one event that says what it concluded. -/
theorem revalidate_recorded {store : AttestationPersistenceStore state} {call : Surroundings}
    {workspaceIdentity artifactId : Value} {reference : Option Attributes}
    {request : Option RequestFields} {host host' : Host state}
    {result : RestartRevalidationResult}
    (h : (revalidate store call workspaceIdentity artifactId reference request).start host =
      (.ok result, host')) :
    request.isSome ∧ ∃ aggregate now conclusion e, Recorded store call workspaceIdentity artifactId
      host host' aggregate now conclusion e result := by
  simp only [revalidate, FallibleRuns.start_bind_eq_ok, FallibleRuns.start_get_eq_ok,
    ofRecord_eq_ok, FallibleRuns.start_set_eq_ok, FallibleRuns.start_ofExcept_eq_ok] at h
  obtain ⟨workspace, _, ⟨hworkspace, rfl⟩, artifact, _, ⟨hartifact, rfl⟩, _, _, ⟨rfl, rfl⟩,
    aggregate, _, ⟨hfound, rfl⟩, ⟨validArtifact, validReference⟩, _, ⟨hvalid, rfl⟩, payload, _,
    ⟨-, rfl⟩, contextDigest, _, ⟨-, rfl⟩, ⟨attempt, opened⟩, _, ⟨hcreate, rfl⟩, _, _, rfl, now, _,
    ⟨hclock, rfl⟩, hconclude⟩ := h
  obtain ⟨hstored, fields, hopen⟩ := createAttempt_eq_ok hcreate
  have hrequest : request.isSome := by
    simp only [validateRestartRevalidationContextAggregate, bind_eq_ok, orRaise_eq_ok] at hvalid
    obtain ⟨_, -, _, -, _, -, _, -, _, -, _, -, _, -, _, -, _, -, _, -, _, -, _, hsome, -⟩ := hvalid
    rw [hsome]
    rfl
  have hread : ∃ workspace artifact, workspaceIdentity = .str workspace ∧
      artifactId = .str artifact ∧
        store.getArtifactAggregate host.stored workspace artifact = .ok (some aggregate) :=
    ⟨workspace, artifact, checkedText_eq_ok hworkspace, checkedText_eq_ok hartifact,
      storedAggregate_eq_ok hfound⟩
  refine ⟨hrequest, aggregate, now, ?_⟩
  rw [concludeRevalidation] at hconclude
  split_ifs at hconclude with hversion
  · simp only [FallibleRuns.start_bind_eq_ok, FallibleRuns.start_pure_eq_ok] at hconclude
    obtain ⟨recorded, _, happend, rfl, rfl⟩ := hconclude
    obtain ⟨e, happended, houtcome, hfailure, hresult, -⟩ := appendOutcome_eq_ok hopen happend
    rw [hstored] at happended
    exact ⟨_, e,
      { found := hread, clock := hclock, appended := happended, outcome := houtcome
        failureCode := hfailure, resultDigest := hresult, second := fun _ => ⟨rfl, rfl⟩
        first := fun hnot => absurd hversion hnot }⟩
  · simp only [FallibleRuns.start_bind_eq_ok, FallibleRuns.start_ofExcept_eq_ok] at hconclude
    obtain ⟨conclusion, _, ⟨hconclusion, rfl⟩, happend⟩ := hconclude
    obtain ⟨e, happended, houtcome, hfailure, hresult, hreturned⟩ :=
      appendOutcome_eq_ok hopen happend
    rw [hstored] at happended
    exact ⟨conclusion, e,
      { found := hread, clock := hclock, appended := happended, outcome := houtcome
        failureCode := hfailure, resultDigest := hresult
        second := fun htwo => absurd htwo hversion
        first := fun _ => ⟨⟨contextDigest, hconclusion⟩, hreturned⟩ }⟩

end

end
end DeliverySystem.AttestationRestart

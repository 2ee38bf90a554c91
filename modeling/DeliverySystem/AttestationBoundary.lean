import DeliverySystem.AttestationVerification
import Mathlib.Data.Rat.Defs
import Mathlib.Logic.Function.Basic

/-!
# The attestation boundary of a runtime

A boundary hands out requests, verifies attestations against them, and turns
the ticket of a verification into an event, each ticket once. Its checks run
outside the lock; only the registries are read and written inside. A step here
is one region of the lock, or the work of one call between two of them.
-/
namespace DeliverySystem.AttestationBoundary
open PythonValues CanonicalValues JsonText AuthorityBindings AttestationClaims
open AttestationArtifacts AttestationVerification Dict
set_option autoImplicit false

section
variable [PythonLibrary] [UnicodeLibrary] [ZonedTimeLibrary]

/-! ## Requests -/

/-- The attributes of a request, which its snapshot repeats. -/
structure RequestFields where
  repositoryIdentity : String
  githubSubjectIdentity : String
  requiredCapabilities : List String
  driverIdentity : String
  remoteAuthority : String
  previewId : String
  revision : Int
  operationSetDigest : String
  remoteSnapshotDigest : String
  evidenceDigest : String
  challengeDigest : String
deriving Repr, DecidableEq

/-- `_normalized_values`, with the challenge still to come. -/
def normalizedValues (values : Dict) : Py RequestFields := do
  let repositoryIdentity ← safeText (get values "repository_identity") "repository_identity"
  let githubSubjectIdentity ←
    safeText (get values "github_subject_identity") "github_subject_identity"
  let requiredCapabilities ←
    capabilities (get values "required_capabilities") "required_capabilities"
  let driverIdentity ← safeText (get values "driver_identity") "driver_identity"
  let remoteAuthority ← digestText (get values "remote_authority") "remote_authority"
  let previewId ← safeId (get values "preview_id") "preview_id"
  require (requiredCapabilities ≠ []) (failure "required_capabilities_missing")
  let revision ← orRaise (Value.positive? (get values "revision")) (failure "revision_invalid")
  let operationSetDigest ← digestText (get values "operation_set_digest") "operation_set_digest"
  let remoteSnapshotDigest ←
    digestText (get values "remote_snapshot_digest") "remote_snapshot_digest"
  let evidenceDigest ← digestText (get values "evidence_digest") "evidence_digest"
  pure
    { repositoryIdentity, githubSubjectIdentity, requiredCapabilities, driverIdentity
      remoteAuthority, previewId, revision, operationSetDigest, remoteSnapshotDigest
      evidenceDigest, challengeDigest := "" }

def challengeDomain : String := "delivery-system:runtime-attestation-challenge:v1"

/-- The normalized values under their names, in sorted order. -/
def RequestFields.context (f : RequestFields) : Dict :=
  [("driver_identity", .str f.driverIdentity), ("evidence_digest", .str f.evidenceDigest),
    ("github_subject_identity", .str f.githubSubjectIdentity),
    ("operation_set_digest", .str f.operationSetDigest), ("preview_id", .str f.previewId),
    ("remote_authority", .str f.remoteAuthority),
    ("remote_snapshot_digest", .str f.remoteSnapshotDigest),
    ("repository_identity", .str f.repositoryIdentity),
    ("required_capabilities", .tuple (f.requiredCapabilities.map .str)),
    ("revision", .int f.revision)]

/-- The part of `create_request` before its lock: the snapshot of a request with
a fresh challenge value. -/
def requestSnapshot (policy : Option (String → Reply Bool)) (values : Dict)
    (challenge : String) : Py RequestFields := do
  let normalized ← normalizedValues values
  let challengeDigest ← canonicalDigest (.dict [("domain", .str challengeDomain),
    ("challenge", .str challenge), ("context", .dict normalized.context)])
  checkCapabilities policy normalized.requiredCapabilities
  pure { normalized with challengeDigest }

/-- `_request_mismatch` -/
def requestMismatch (claims : ClaimsFields) (request : RequestFields) : Option String :=
  if claims.repositoryIdentity ≠ request.repositoryIdentity ∨
      claims.githubSubjectIdentity ≠ request.githubSubjectIdentity ∨
      claims.driverIdentity ≠ request.driverIdentity ∨
      claims.remoteAuthority ≠ request.remoteAuthority ∨ claims.previewId ≠ request.previewId ∨
      claims.revision ≠ request.revision ∨
      claims.operationSetDigest ≠ request.operationSetDigest ∨
      claims.remoteSnapshotDigest ≠ request.remoteSnapshotDigest ∨
      claims.evidenceDigest ≠ request.evidenceDigest then some "attestation_binding_mismatch"
  else if ¬∀ capability ∈ request.requiredCapabilities,
      capability ∈ claims.grantedCapabilities then some "credential_capability_insufficient"
  else if claims.attestationVersion = "2" ∧ claims.challengeDigest ≠ request.challengeDigest then
    some "attestation_challenge_mismatch"
  else if claims.attestationVersion = "2" ∧ claims.credentialPrincipalIdentity = "" then
    some "attestation_credential_principal_missing"
  else none

/-! ## Registries and objects -/

/-- The state of a challenge, with the reading of the monotonic clock at its issue. -/
structure Challenge where
  issued : ℚ
  consumed : Bool
deriving DecidableEq

inductive TicketState where
  | active
  | consumed
deriving Repr, DecidableEq

/-- `_TicketRecord`. Every record of a boundary names that boundary as its owner,
so the owner is left out; claims and envelope are references to objects. -/
structure TicketRecord where
  claims : Nat
  envelope : Nat
  claimsPayload : String
  envelopeProof : String
  verifiedAt : String
  eventId : String
  state : TicketState
deriving DecidableEq

/-- A request object: its attributes and whether it names this boundary. -/
structure RequestObject where
  fields : RequestFields
  belongs : Bool
deriving DecidableEq

structure EnvelopeObject where
  claims : Nat
  proof : Value
deriving DecidableEq

structure EventObject where
  envelope : Nat
  claims : Nat
  verifiedAt : String
  eventId : String
deriving DecidableEq

/-- What a call of `verify` has worked out once the envelope has passed. -/
structure Locals where
  now : Instant
  snapshot : RequestFields
  envelope : SignedCredentialCapabilityAttestation

/-- Where a call of `verify` stands. -/
inductive Phase where
  | entered
  /-- The snapshot was read. -/
  | found (now : Instant) (snapshot : RequestFields)
  /-- The request object agrees with the snapshot. -/
  | compared (now : Instant) (snapshot : RequestFields)
  /-- Trust, capabilities and request were checked. -/
  | trusted (locals : Locals)
  /-- `challenge_is_current` answered yes. -/
  | current (locals : Locals)
  /-- The challenge was consumed at a reading of the clock; version 1 has none. -/
  | bound (locals : Locals) (consumedAt : Option ℚ)
  /-- Time window and revocation were checked. -/
  | valid (locals : Locals) (consumedAt : Option ℚ)
  /-- The ticket was registered and returned. -/
  | returned (locals : Locals) (consumedAt : Option ℚ)
  | failed (code : String)

/-- A call of `verify`: its arguments, the dependencies as they answer it, and
where it stands. A request that is no request object has no number. -/
structure VerifyCall where
  submitted : Submitted
  request : Option Nat
  time : Option ZonedDatetime
  dependencies : BoundaryDependencies
  phase : Phase

/-- A call of `consume_ticket` or `consume_verified_event` and its outcome. -/
inductive ConsumeOutcome where
  | refused (code : String)
  /-- `consume_ticket` returned the claims of the record. -/
  | claims
  /-- `consume_verified_event` has the record and has not registered its event. -/
  | taken
  /-- `consume_verified_event` returned its event. -/
  | event
deriving Repr, DecidableEq

/-- The call got the record of the ticket. -/
def ConsumeOutcome.succeeded : ConsumeOutcome → Bool
  | .refused _ => false
  | .claims | .taken | .event => true

structure ConsumeCall where
  ticket : Nat
  outcome : ConsumeOutcome
deriving Repr, DecidableEq

/-- The registries of a boundary, the objects they refer to, and the calls. Calls
are numbered; the request, ticket or event that a call makes has its number, and
so have the claims and the envelope of a verification. An object that is gone
leaves the weak registries, but nobody can present it any more, so the
registries here keep it. -/
structure Config where
  requests : Nat → Option RequestFields
  challenges : Nat → Option Challenge
  tickets : Nat → Option TicketRecord
  /-- The ticket whose record the event was registered with. -/
  events : Nat → Option Nat
  requestObjects : Nat → Option RequestObject
  claimsObjects : Nat → Option ClaimsFields
  envelopeObjects : Nat → Option EnvelopeObject
  eventObjects : Nat → Option EventObject
  verifications : Nat → Option VerifyCall
  consumptions : Nat → Option ConsumeCall

def Config.initial : Config :=
  ⟨fun _ => none, fun _ => none, fun _ => none, fun _ => none, fun _ => none, fun _ => none,
    fun _ => none, fun _ => none, fun _ => none, fun _ => none⟩

/-! ## Regions of the lock -/

/-- `reading - issued < 300.0` -/
def Challenge.young (challenge : Challenge) (reading : ℚ) : Prop :=
  reading - challenge.issued < 300

instance (challenge : Challenge) (reading : ℚ) : Decidable (challenge.young reading) :=
  inferInstanceAs (Decidable (_ < _))

/-- `challenge_is_current` -/
def challengeIsCurrent (c : Config) (request : Nat) (reading : ℚ) : Bool :=
  (c.challenges request).any fun challenge =>
    !challenge.consumed && decide (challenge.young reading)

/-- The region of `consume_challenge`; the consumed challenge. -/
def consumedChallenge (c : Config) (request : Nat) (reading : ℚ) : Except String Challenge :=
  match c.challenges request with
  | none => .error "attestation_challenge_replayed"
  | some challenge =>
      if challenge.consumed then .error "attestation_challenge_replayed"
      else if ¬challenge.young reading then .error "attestation_challenge_expired"
      else .ok { challenge with consumed := true }

/-- The region of `_consume_ticket_record`; the consumed record. -/
def consumedRecord (c : Config) (ticket : Nat) : Except String TicketRecord :=
  match c.tickets ticket with
  | none => .error "attestation_boundary_mismatch"
  | some record =>
      if record.state = .active then .ok { record with state := .consumed }
      else .error "attestation_replayed"

/-- `canonical_payload(claims.to_payload())` -/
def claimsText (f : ClaimsFields) : Py String := do
  let value ← CanonicalValues.normalize f.toPayload
  pure (dumps value)

/-- The comparison of `accepts_verified_event`, on the objects as they are now. -/
def Config.intact (c : Config) (event : EventObject) (record : TicketRecord) : Prop :=
  event.envelope = record.envelope ∧ event.claims = record.claims ∧
  (c.claimsObjects record.claims).map claimsText = some (.ok record.claimsPayload) ∧
  ((c.envelopeObjects record.envelope).bind fun envelope =>
    c.claimsObjects envelope.claims).map claimsText = some (.ok record.claimsPayload) ∧
  (c.envelopeObjects record.envelope).map EnvelopeObject.proof = some (.str record.envelopeProof) ∧
  event.verifiedAt = record.verifiedAt ∧ event.eventId = record.eventId

instance (c : Config) (event : EventObject) (record : TicketRecord) :
    Decidable (c.intact event record) := by
  unfold Config.intact
  infer_instance

/-- `accepts_verified_event` -/
def Config.acceptsVerifiedEvent (c : Config) (event : Nat) : Bool :=
  match c.eventObjects event, (c.events event).bind c.tickets with
  | some object, some record => decide (c.intact object record)
  | _, _ => false

/-! ## The phases of a verification -/

/-- The contract errors that `verify` reports under their own code. -/
def reportedCodes : List String :=
  ["attestation_invalid", "attestation_version_unsupported", "attestation_algorithm_unsupported",
    "attestation_id_mismatch", "attestation_expiry_invalid", "attestation_binding_mismatch",
    "attestation_capability_insufficient", "credential_capability_insufficient", "proof_invalid",
    "required_capabilities_missing", "attestation_credential_class_unsupported",
    "credential_capability_unknown", "attestation_capability_policy_unavailable",
    "attestation_request_unavailable", "attestation_request_tampered",
    "attestation_challenge_mismatch", "attestation_challenge_expired",
    "attestation_challenge_replayed", "attestation_credential_principal_missing",
    "attestation_v1_extension_forbidden"]

def codeOf : Raised → String
  | .valueError code => code
  | _ => "attestation_invalid"

/-- The code that `verify` makes of an exception. -/
def reported (e : Raised) : String :=
  if codeOf e ∈ reportedCodes then codeOf e else "attestation_invalid"

/-- A failure that `verify` reports as an exception's. -/
def reporting {α : Type} (x : Py α) : Except String α := x.mapError reported

/-- A failure that `verify` returns under the code it has. -/
def returning {α : Type} (x : Py α) : Except String α := x.mapError codeOf

def failIf (condition : Prop) [Decidable condition] (code : String) : Except String Unit :=
  if condition then .error code else .ok ()

/-- `_failure(code)` where there is one. -/
def noMismatch : Option String → Except String Unit
  | none => .ok ()
  | some code => .error code

/-- From the entry to the region that reads the snapshot. -/
def findRequest (c : Config) (call : VerifyCall) : Except String Phase := do
  let now ← reporting (currentTime call.time)
  match call.request.bind c.requests with
  | none => .error "attestation_request_unavailable"
  | some snapshot => pure (.found now snapshot)

/-- The request object against the boundary and the snapshot. -/
def compareRequest (c : Config) (call : VerifyCall) (now : Instant) (snapshot : RequestFields) :
    Except String Phase :=
  match call.request.bind c.requestObjects with
  | none => .error "attestation_request_unavailable"
  | some object => do
      failIf (object.belongs = false) "attestation_binding_mismatch"
      failIf (object.fields ≠ snapshot) "attestation_request_tampered"
      pure (.compared now snapshot)

/-- From the envelope to the comparison of the claims with the request. -/
def checkEnvelope (call : VerifyCall) (now : Instant) (snapshot : RequestFields) :
    Except String Phase :=
  match call.submitted with
  | .missing => .error "attestation_missing"
  | submitted => do
      let envelope ← reporting (parseUntrustedSignedAttestation submitted)
      returning (trustChecks call.dependencies envelope)
      noMismatch (requestMismatch envelope.claims.toClaimsFields snapshot)
      pure (.trusted ⟨now, snapshot, envelope⟩)

/-- The region of `challenge_is_current`, for version 2. -/
def checkChallenge (c : Config) (call : VerifyCall) (locals : Locals) (reading : ℚ) :
    Except String Phase :=
  if locals.envelope.claims.attestationVersion = "2" then do
    failIf (call.request.any (challengeIsCurrent c · reading) = false)
      "attestation_challenge_expired"
    pure (.current locals)
  else pure (.bound locals none)

/-- `now.isoformat(timespec="microseconds").replace("+00:00", "Z")` -/
def verifiedAt (now : Instant) : String := ZonedTimeLibrary.isoformatMicroseconds now

/-- The record of the ticket that call number `call` registers. -/
def ticketRecord (call : Nat) (locals : Locals) (token : String) : Py TicketRecord := do
  let _ ← locals.envelope.claims.claimsDigest
  let payload ← claimsText locals.envelope.claims.toClaimsFields
  pure
    { claims := call
      envelope := call
      claimsPayload := payload
      envelopeProof := locals.envelope.proof
      verifiedAt := verifiedAt locals.now
      eventId := "verification-event-" ++ token
      state := .active }

/-- The call goes on, or it fails with a code. -/
def Config.proceed (c : Config) (number : Nat) (call : VerifyCall) (next : Except String Phase) :
    Config :=
  let phase := match next with
    | .ok phase => phase
    | .error code => .failed code
  { c with verifications := Function.update c.verifications number (some { call with phase }) }

/-- The region of `consume_challenge` that a verification enters. -/
def Config.bindChallenge (c : Config) (number : Nat) (call : VerifyCall) (locals : Locals)
    (reading : ℚ) : Config :=
  match call.request with
  | none => c.proceed number call (.error "attestation_request_unavailable")
  | some request =>
      match consumedChallenge c request reading with
      | .error code => c.proceed number call (.error code)
      | .ok challenge =>
          { c with challenges := Function.update c.challenges request (some challenge) }.proceed
            number call (.ok (.bound locals (some reading)))

/-- The region that registers the ticket. -/
def Config.registerTicket (c : Config) (number : Nat) (call : VerifyCall) (locals : Locals)
    (consumedAt : Option ℚ) (token : String) : Config :=
  match ticketRecord number locals token with
  | .error e => c.proceed number call (.error (reported e))
  | .ok record =>
      { c with
        tickets := Function.update c.tickets number (some record)
        claimsObjects := Function.update c.claimsObjects number
          (some locals.envelope.claims.toClaimsFields)
        envelopeObjects := Function.update c.envelopeObjects number
          (some ⟨number, .str locals.envelope.proof⟩) }.proceed
        number call (.ok (.returned locals consumedAt))

/-- The next step of a verification. -/
def Config.advance (c : Config) (number : Nat) (call : VerifyCall) (reading : ℚ)
    (token : String) : Config :=
  match call.phase with
  | .entered => c.proceed number call (findRequest c call)
  | .found now snapshot => c.proceed number call (compareRequest c call now snapshot)
  | .compared now snapshot => c.proceed number call (checkEnvelope call now snapshot)
  | .trusted locals => c.proceed number call (checkChallenge c call locals reading)
  | .current locals => c.bindChallenge number call locals reading
  | .bound locals consumedAt => c.proceed number call (do
      returning (validityChecks call.dependencies locals.envelope.claims locals.now)
      pure (.valid locals consumedAt))
  | .valid locals consumedAt => c.registerTicket number call locals consumedAt token
  | .returned _ _ | .failed _ => c

/-! ## Steps -/

inductive Action where
  /-- `create_request`, with the challenge value and the reading of the clock it draws -/
  | createRequest (number : Nat) (policy : Option (String → Reply Bool)) (values : Dict)
      (challenge : String) (reading : ℚ)
  /-- A call of `verify` begins. -/
  | verify (number : Nat) (submitted : Submitted) (request : Option Nat)
      (time : Option ZonedDatetime) (dependencies : BoundaryDependencies)
  /-- A verification takes its next step, with what it draws there. -/
  | advance (number : Nat) (reading : ℚ) (token : String)
  /-- `consume_challenge` -/
  | consumeChallenge (request : Nat) (reading : ℚ)
  /-- `consume_ticket` -/
  | consumeTicket (number ticket : Nat)
  /-- The first region of `consume_verified_event`. -/
  | takeRecord (number ticket : Nat)
  /-- The second region of `consume_verified_event`. -/
  | registerEvent (number : Nat)
  /-- Somebody writes to an object past its guards. -/
  | tamperRequest (request : Nat) (object : RequestObject)
  | tamperClaims (claims : Nat) (fields : ClaimsFields)
  | tamperEnvelope (envelope : Nat) (object : EnvelopeObject)
  | tamperEvent (event : Nat) (object : EventObject)

def Config.createRequest (c : Config) (number : Nat) (policy : Option (String → Reply Bool))
    (values : Dict) (challenge : String) (reading : ℚ) : Config :=
  match c.requests number, requestSnapshot policy values challenge with
  | none, .ok snapshot =>
      { c with
        requests := Function.update c.requests number (some snapshot)
        challenges := Function.update c.challenges number (some ⟨reading, false⟩)
        requestObjects := Function.update c.requestObjects number (some ⟨snapshot, true⟩) }
  | _, _ => c

def Config.beginVerify (c : Config) (number : Nat) (call : VerifyCall) : Config :=
  match c.verifications number with
  | none => { c with verifications := Function.update c.verifications number (some call) }
  | some _ => c

def Config.consumeChallenge (c : Config) (request : Nat) (reading : ℚ) : Config :=
  match consumedChallenge c request reading with
  | .ok challenge =>
      { c with challenges := Function.update c.challenges request (some challenge) }
  | .error _ => c

/-- A call that consumes a ticket, with the outcome it has when it gets the record. -/
def Config.consume (c : Config) (number ticket : Nat) (outcome : ConsumeOutcome) : Config :=
  match c.consumptions number, consumedRecord c ticket with
  | some _, _ => c
  | none, .ok record =>
      { c with
        tickets := Function.update c.tickets ticket (some record)
        consumptions := Function.update c.consumptions number (some ⟨ticket, outcome⟩) }
  | none, .error code =>
      { c with
        consumptions := Function.update c.consumptions number (some ⟨ticket, .refused code⟩) }

def Config.registerEvent (c : Config) (number : Nat) : Config :=
  match c.consumptions number with
  | some ⟨ticket, .taken⟩ =>
      match c.tickets ticket with
      | some record =>
          { c with
            consumptions := Function.update c.consumptions number (some ⟨ticket, .event⟩)
            events := Function.update c.events number (some ticket)
            eventObjects := Function.update c.eventObjects number
              (some ⟨record.envelope, record.claims, record.verifiedAt, record.eventId⟩) }
      | none => c
  | _ => c

def Config.step (c : Config) : Action → Config
  | .createRequest number policy values challenge reading =>
      c.createRequest number policy values challenge reading
  | .verify number submitted request time dependencies =>
      c.beginVerify number ⟨submitted, request, time, dependencies, .entered⟩
  | .advance number reading token =>
      match c.verifications number with
      | some call => c.advance number call reading token
      | none => c
  | .consumeChallenge request reading => c.consumeChallenge request reading
  | .consumeTicket number ticket => c.consume number ticket .claims
  | .takeRecord number ticket => c.consume number ticket .taken
  | .registerEvent number => c.registerEvent number
  | .tamperRequest request object =>
      { c with requestObjects := Function.update c.requestObjects request (some object) }
  | .tamperClaims claims fields =>
      { c with claimsObjects := Function.update c.claimsObjects claims (some fields) }
  | .tamperEnvelope envelope object =>
      { c with envelopeObjects := Function.update c.envelopeObjects envelope (some object) }
  | .tamperEvent event object =>
      { c with eventObjects := Function.update c.eventObjects event (some object) }

/-- The state after any interleaving of steps. -/
def run (actions : List Action) : Config := actions.foldl Config.step Config.initial

end
end DeliverySystem.AttestationBoundary

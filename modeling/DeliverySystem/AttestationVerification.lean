import DeliverySystem.AttestationReference

/-!
# Verifying an attestation, live and after a restart

The checks of the live boundary on an envelope, and those of the restart
verifier on the artifact persisted from it. Both ask the same four dependencies
and come to one condition on the claims, the proof and the instant: that the
dependencies vouch for them.
-/
namespace DeliverySystem.AttestationVerification
open PythonValues CanonicalValues JsonText AuthorityBindings AttestationClaims
open AttestationArtifacts
set_option autoImplicit false

/-! ## Injected dependencies -/

/-- What comes back from an injected dependency: an exception, an object of
another type, or an answer. -/
inductive Reply (α : Type) where
  | raised
  | foreign
  | returned (value : α)
deriving DecidableEq

/-- The reply is an answer, and the answer passes. -/
def Reply.any {α : Type} (test : α → Bool) : Reply α → Bool
  | .returned value => test value
  | _ => false

theorem Reply.any_eq_true {α : Type} {test : α → Bool} {reply : Reply α} :
    reply.any test = true ↔ ∃ value, reply = .returned value ∧ test value = true := by
  cases reply <;> simp [Reply.any]

def issuerFailureCodes : List String :=
  ["attestation_issuer_untrusted", "attestation_credential_class_unsupported",
    "attestation_version_unsupported", "attestation_algorithm_unsupported"]

structure IssuerTrustDecision where
  accepted : Bool
  failureCode : String
  allowed : failureCode ∈ issuerFailureCodes

section
variable [PythonLibrary] [UnicodeLibrary] [ZonedTimeLibrary]

structure StatusFields where
  attestationRevoked : Bool
  credentialInstanceRevoked : Bool
  revokedAt : Option String
  reason : Option String
  version : String
deriving Repr, DecidableEq

def statusInvalid : Raised := .valueError "revocation_status_invalid"

/-- `revoked_at`, normalized where it is there. -/
def revokedTime : Option String → Py (Option String)
  | none => .ok none
  | some text => (fun written => some written.1) <$> utcTimestamp (.str text)

/-- `RevocationStatus.__post_init__` -/
def StatusFields.postInit (s : StatusFields) : Py StatusFields := do
  require (s.version ≠ "") statusInvalid
  let revokedAt ← revokedTime s.revokedAt
  if s.attestationRevoked || s.credentialInstanceRevoked then do
    let revokedAt ← orRaise revokedAt statusInvalid
    let reason ← orRaise s.reason statusInvalid
    let reason ← safeId (.str reason) "revocation_reason"
    pure { s with revokedAt := some revokedAt, reason := some reason }
  else do
    require (revokedAt = none ∧ s.reason = none) statusInvalid
    pure { s with revokedAt }

/-- A status that the constructor made. -/
structure RevocationStatus extends StatusFields where
  made : ∃ fields : StatusFields, fields.postInit = .ok toStatusFields

/-- `RevocationStatus.validate` -/
def StatusFields.validate (s : StatusFields) (now : Instant) : Py Unit := do
  require (s.version = "1") (.valueError "attestation_revocation_version_unsupported")
  match s.revokedAt with
  | none => pure ()
  | some text => do
      let revokedAt ← utcTimestamp (.str text)
      require (revokedAt.2 ≤ now) (.valueError "attestation_revocation_invalid")

/-- The four dependencies of a verification. -/
structure TrustDependencies where
  /-- `evaluate(issuer_id, key_id, signature_algorithm, attestation_version, credential_class)` -/
  issuerPolicy : String → String → String → String → String → Reply IssuerTrustDecision
  /-- `verify(payload, proof, issuer_id, key_id, signature_algorithm)` -/
  proofVerifier : ByteArray → String → String → String → String → Reply Bool
  /-- `read_status(attestation_id, credential_instance_id, issuer_id, key_id, version)` -/
  revocationReader : String → String → String → String → String → Reply RevocationStatus
  /-- `is_supported(capability)` -/
  capabilityPolicy : String → Reply Bool

/-- The dependencies of a live boundary, any of which may be missing. -/
structure BoundaryDependencies where
  issuerPolicy : Option (String → String → String → String → String → Reply IssuerTrustDecision)
  proofVerifier : Option (ByteArray → String → String → String → String → Reply Bool)
  revocationReader : Option (String → String → String → String → String → Reply RevocationStatus)
  capabilityPolicy : Option (String → Reply Bool)

def TrustDependencies.boundary (d : TrustDependencies) : BoundaryDependencies where
  issuerPolicy := some d.issuerPolicy
  proofVerifier := some d.proofVerifier
  revocationReader := some d.revocationReader
  capabilityPolicy := some d.capabilityPolicy

def failure (code : String) : Raised := .valueError code

/-! ## The live checks -/

/-- `_current_time`; `none` is a datetime without a time zone. -/
def currentTime (t : Option ZonedDatetime) : Py Instant := do
  let zoned ← orRaise t (failure "current_time_invalid")
  require (zoned.offset = 0) (failure "current_time_invalid")
  pure zoned.instant

/-- One capability in `_check_capabilities`. -/
def checkCapability (policy : String → Reply Bool) (capability : String) : Py Unit :=
  match policy capability with
  | .returned true => .ok ()
  | .returned false => .error (failure "credential_capability_unknown")
  | _ => .error (failure "attestation_capability_policy_unavailable")

/-- `_check_capabilities` -/
def checkCapabilities (policy : Option (String → Reply Bool)) (capabilities : List String) :
    Py Unit := do
  let policy ← orRaise policy (failure "attestation_capability_policy_unavailable")
  capabilities.forM (checkCapability policy)

/-- The answer of the issuer policy, made again by `_revalidate_issuer_decision`. -/
def acceptedByIssuer (reply : Reply IssuerTrustDecision) : Py Unit :=
  match reply with
  | .returned decision => require (decision.accepted = true) (failure decision.failureCode)
  | _ => .error (failure "attestation_verifier_unavailable")

/-- `valid_signature is not True` -/
def validSignature (reply : Reply Bool) : Py Unit :=
  match reply with
  | .returned true => .ok ()
  | .raised => .error (failure "attestation_verifier_unavailable")
  | _ => .error (failure "attestation_signature_invalid")

/-- The part of `verify` from the version to the capability policy. -/
def trustChecks (d : BoundaryDependencies) (envelope : SignedCredentialCapabilityAttestation) :
    Py Unit := do
  let claims := envelope.claims
  require (claims.attestationVersion = "1" ∨ claims.attestationVersion = "2")
    (failure "attestation_version_unsupported")
  require (claims.signatureAlgorithm = "ed25519") (failure "attestation_algorithm_unsupported")
  let issuerPolicy ← orRaise d.issuerPolicy (failure "attestation_verifier_unavailable")
  let proofVerifier ← orRaise d.proofVerifier (failure "attestation_verifier_unavailable")
  acceptedByIssuer (issuerPolicy claims.issuerId claims.keyId claims.signatureAlgorithm
    claims.attestationVersion claims.credentialClass)
  let payload ← claims.signedBytes
  validSignature (proofVerifier payload envelope.proof claims.issuerId claims.keyId
    claims.signatureAlgorithm)
  checkCapabilities d.capabilityPolicy claims.grantedCapabilities

/-- `_revalidate_revocation_status` and what `verify` makes of it. -/
def notRevoked (reply : Reply RevocationStatus) (now : Instant) : Py Unit :=
  match reply with
  | .raised => .error (failure "attestation_revocation_unavailable")
  | .foreign => .error (failure "attestation_revocation_invalid")
  | .returned status => do
      let status ← guarded status.postInit (failure "attestation_revocation_invalid")
      require (status.version = "1") (failure "attestation_revocation_version_unsupported")
      guarded (status.validate now) (failure "attestation_revocation_invalid")
      require (status.attestationRevoked = false) (failure "attestation_revoked")
      require (status.credentialInstanceRevoked = false) (failure "credential_instance_revoked")

/-- The part of `verify` after the request: time window and revocation. -/
def validityChecks (d : BoundaryDependencies) (claims : CredentialCapabilityAttestationClaims)
    (now : Instant) : Py Unit := do
  let issued ← utcTimestamp (.str claims.issuedAt)
  let expires ← utcTimestamp (.str claims.expiresAt)
  require (issued.2 ≤ now) (failure "attestation_not_yet_valid")
  require (now < expires.2) (failure "attestation_expired")
  let reader ← orRaise d.revocationReader (failure "attestation_revocation_unavailable")
  notRevoked (reader claims.attestationId claims.credentialInstanceId claims.issuerId claims.keyId
    "1") now

/-- Every check of the live `verify` but those that ask the request and the challenge. -/
def liveChecks (d : BoundaryDependencies) (submitted : Submitted) (t : Option ZonedDatetime) :
    Py Unit := do
  let now ← currentTime t
  let envelope ← parseUntrustedSignedAttestation submitted
  trustChecks d envelope
  validityChecks d envelope.claims now

/-! ## The restart verifier -/

def restartFailure (code : String) : Raised := .valueError ("restart_reconstruction_" ++ code)

structure RestartVerifiedCredentialEvidence where
  workspaceIdentity : String
  artifactId : String
  artifactDigest : String
  claims : CredentialCapabilityAttestationClaims
  claimsDigest : String
  originalVerifiedAt : String
deriving DecidableEq

/-- The constructor of the evidence. -/
def RestartVerifiedCredentialEvidence.make (e : RestartVerifiedCredentialEvidence) :
    Py RestartVerifiedCredentialEvidence := do
  let digest ← e.claims.claimsDigest
  require (e.workspaceIdentity ≠ "" ∧ e.artifactId ≠ "" ∧ e.artifactDigest ≠ "" ∧
    e.claimsDigest = digest ∧ e.originalVerifiedAt ≠ "")
    (restartFailure "credential_evidence_invalid")
  pure e

/-- The bytes that the restart verifier hands to the proof verifier. -/
def restartSignedBytes (artifact : PersistedAttestationArtifact) : Py ByteArray :=
  artifact.claimsPayload.signedBytes

/-- `datetime.fromisoformat` of a time of the claims. -/
def claimsInstant (text : String) : Py Instant := do
  let parsed ← orRaise (ZonedTimeLibrary.parse text)
    (restartFailure "credential_evidence_invalid")
  pure parsed.instant

/-- The answer of the revocation reader. -/
def restartStatus : Reply RevocationStatus → Py RevocationStatus
  | .raised => .error (restartFailure "revocation_unavailable")
  | .foreign => .error (restartFailure "revocation_unknown")
  | .returned status => .ok status

/-- `DefaultRestartCredentialAttestationVerifier.verify` -/
def restartVerify (d : TrustDependencies) (artifact : PersistedAttestationArtifact)
    (t : Option ZonedDatetime) : Py RestartVerifiedCredentialEvidence := do
  let normalized ← guarded artifact.again (restartFailure "credential_evidence_invalid")
  let zoned ← orRaise t (restartFailure "clock_invalid")
  let now := zoned.instant
  let claims := normalized.claimsPayload
  require (claims.attestationVersion = "1" ∨ claims.attestationVersion = "2")
    (restartFailure "credential_untrusted")
  require (claims.signatureAlgorithm = "ed25519") (restartFailure "credential_untrusted")
  require ((d.issuerPolicy claims.issuerId claims.keyId claims.signatureAlgorithm
    claims.attestationVersion claims.credentialClass).any (·.accepted) = true)
    (restartFailure "credential_untrusted")
  let payload ← guarded (restartSignedBytes normalized)
    (restartFailure "credential_proof_invalid")
  require (d.proofVerifier payload normalized.detachedProof claims.issuerId claims.keyId
    claims.signatureAlgorithm = .returned true) (restartFailure "credential_proof_invalid")
  claims.grantedCapabilities.forM fun capability =>
    require (d.capabilityPolicy capability = .returned true)
      (restartFailure "capability_rejected")
  let issued ← claimsInstant claims.issuedAt
  let expires ← claimsInstant claims.expiresAt
  require (issued ≤ now) (restartFailure "credential_not_yet_valid")
  require (now < expires) (restartFailure "credential_expired")
  let status ← restartStatus (d.revocationReader claims.attestationId claims.credentialInstanceId
    claims.issuerId claims.keyId "1")
  guarded (status.validate now) (restartFailure "revocation_invalid")
  require (status.attestationRevoked = false ∧ status.credentialInstanceRevoked = false)
    (restartFailure "credential_revoked")
  let digest ← claims.claimsDigest
  RestartVerifiedCredentialEvidence.make
    { workspaceIdentity := normalized.workspaceIdentity
      artifactId := normalized.artifactId
      artifactDigest := normalized.artifactDigest
      claims := claims
      claimsDigest := digest
      originalVerifiedAt := normalized.originalVerifiedAt }

/-! ## What both verifications establish -/

/-- The dependencies vouch for claims with a proof at an instant. -/
structure Vouched (d : BoundaryDependencies) (claims : CredentialCapabilityAttestationClaims)
    (proof : String) (now : Instant) : Prop where
  version : claims.attestationVersion = "1" ∨ claims.attestationVersion = "2"
  algorithm : claims.signatureAlgorithm = "ed25519"
  issuer : ∃ policy decision, d.issuerPolicy = some policy ∧
    policy claims.issuerId claims.keyId claims.signatureAlgorithm claims.attestationVersion
      claims.credentialClass = .returned decision ∧ decision.accepted = true
  signature : ∃ verifier payload, d.proofVerifier = some verifier ∧
    claims.signedBytes = .ok payload ∧
    verifier payload proof claims.issuerId claims.keyId claims.signatureAlgorithm = .returned true
  capabilities : ∃ policy, d.capabilityPolicy = some policy ∧
    ∀ capability ∈ claims.grantedCapabilities, policy capability = .returned true
  window : ∃ issued expires, ZonedTimeLibrary.parse claims.issuedAt = some ⟨issued, 0⟩ ∧
    ZonedTimeLibrary.parse claims.expiresAt = some ⟨expires, 0⟩ ∧ issued ≤ now ∧ now < expires
  revocation : ∃ reader status, d.revocationReader = some reader ∧
    reader claims.attestationId claims.credentialInstanceId claims.issuerId claims.keyId "1" =
      .returned status ∧ status.validate now = .ok () ∧ status.attestationRevoked = false ∧
      status.credentialInstanceRevoked = false

omit [PythonLibrary] [UnicodeLibrary] [ZonedTimeLibrary] in
theorem acceptedByIssuer_eq_ok {reply : Reply IssuerTrustDecision} {u : Unit} :
    acceptedByIssuer reply = .ok u ↔
      ∃ decision, reply = .returned decision ∧ decision.accepted = true := by
  cases reply <;> simp [acceptedByIssuer]

omit [PythonLibrary] [UnicodeLibrary] [ZonedTimeLibrary] in
theorem validSignature_eq_ok {reply : Reply Bool} {u : Unit} :
    validSignature reply = .ok u ↔ reply = .returned true := by
  rcases reply with _ | _ | _ | _ <;> simp [validSignature]

omit [PythonLibrary] [UnicodeLibrary] [ZonedTimeLibrary] in
theorem checkCapability_eq_ok {policy : String → Reply Bool} {capability : String} {u : Unit} :
    checkCapability policy capability = .ok u ↔ policy capability = .returned true := by
  unfold checkCapability
  rcases policy capability with _ | _ | _ | _ <;> simp

omit [PythonLibrary] [UnicodeLibrary] [ZonedTimeLibrary] in
theorem checkCapabilities_eq_ok {policy : Option (String → Reply Bool)}
    {capabilities : List String} {u : Unit} : checkCapabilities policy capabilities = .ok u ↔
      ∃ p, policy = some p ∧ ∀ capability ∈ capabilities, p capability = .returned true := by
  cases u
  simp only [checkCapabilities, bind_eq_ok, orRaise_eq_ok, forM_eq_ok, checkCapability_eq_ok]

theorem trustChecks_eq_ok {d : BoundaryDependencies}
    {envelope : SignedCredentialCapabilityAttestation} {u : Unit} :
    trustChecks d envelope = .ok u ↔
      (envelope.claims.attestationVersion = "1" ∨ envelope.claims.attestationVersion = "2") ∧
      envelope.claims.signatureAlgorithm = "ed25519" ∧
      (∃ policy decision, d.issuerPolicy = some policy ∧
        policy envelope.claims.issuerId envelope.claims.keyId envelope.claims.signatureAlgorithm
          envelope.claims.attestationVersion envelope.claims.credentialClass =
            .returned decision ∧ decision.accepted = true) ∧
      (∃ verifier payload, d.proofVerifier = some verifier ∧
        envelope.claims.signedBytes = .ok payload ∧
        verifier payload envelope.proof envelope.claims.issuerId envelope.claims.keyId
          envelope.claims.signatureAlgorithm = .returned true) ∧
      ∃ policy, d.capabilityPolicy = some policy ∧
        ∀ capability ∈ envelope.claims.grantedCapabilities,
          policy capability = .returned true := by
  simp only [trustChecks, bind_eq_ok, require_eq_ok, orRaise_eq_ok, acceptedByIssuer_eq_ok,
    validSignature_eq_ok, checkCapabilities_eq_ok]
  constructor
  · rintro ⟨_, hversion, _, halgorithm, policy, hpolicy, verifier, hverifier, _,
      ⟨decision, hdecision⟩, payload, hpayload, _, hvalid, hcapabilities⟩
    exact ⟨hversion, halgorithm, ⟨policy, decision, hpolicy, hdecision⟩,
      ⟨verifier, payload, hverifier, hpayload, hvalid⟩, hcapabilities⟩
  · rintro ⟨hversion, halgorithm, ⟨policy, decision, hpolicy, hdecision⟩,
      ⟨verifier, payload, hverifier, hpayload, hvalid⟩, hcapabilities⟩
    exact ⟨(), hversion, (), halgorithm, policy, hpolicy, verifier, hverifier, (),
      ⟨decision, hdecision⟩, payload, hpayload, (), hvalid, hcapabilities⟩

end

section
variable [PythonLibrary] [UnicodeLibrary] [TimestampLibrary] [LawfulTextLibrary]
  [ZonedTimeLibrary] [LawfulZonedTimeLibrary]

/-- The constructor of a status keeps what it made. -/
theorem RevocationStatus.again (status : RevocationStatus) :
    status.toStatusFields.postInit = .ok status.toStatusFields := by
  obtain ⟨fields, ⟨raw, hraw⟩⟩ := status
  simp only [StatusFields.postInit, bind_eq_ok, require_eq_ok] at hraw ⊢
  obtain ⟨_, hversion, revokedAt, hrevokedAt, hfields⟩ := hraw
  have htime : ∀ text, revokedAt = some text →
      revokedTime (some text) = .ok (some text) := by
    rintro text rfl
    cases hraw' : raw.revokedAt with
    | none =>
        rw [hraw'] at hrevokedAt
        cases hrevokedAt
    | some source =>
        rw [hraw'] at hrevokedAt
        obtain ⟨⟨written, t⟩, hwritten, hsame⟩ := map_eq_ok.mp hrevokedAt
        obtain rfl : written = text := Option.some.inj hsame
        rw [revokedTime, (utcTimestamp_written hwritten).utcTimestamp]
        rfl
  split_ifs at hfields with hrevoked
  · simp only [bind_eq_ok, orRaise_eq_ok, pure_eq_ok] at hfields
    obtain ⟨text, rfl, reason, -, safe, hsafe, rfl⟩ := hfields
    refine ⟨(), hversion, some text, htime text rfl, ?_⟩
    rw [if_pos hrevoked]
    simp only [bind_eq_ok, orRaise_eq_ok, pure_eq_ok]
    exact ⟨text, rfl, safe, rfl, safe, (patternText_again hsafe).2, rfl⟩
  · simp only [bind_eq_ok, require_eq_ok, pure_eq_ok] at hfields
    obtain ⟨_, ⟨rfl, hreason⟩, rfl⟩ := hfields
    refine ⟨(), hversion, none, rfl, ?_⟩
    rw [if_neg hrevoked]
    simp only [bind_eq_ok, require_eq_ok, pure_eq_ok]
    exact ⟨(), ⟨trivial, hreason⟩, trivial⟩

omit [UnicodeLibrary] [TimestampLibrary] [LawfulTextLibrary] [LawfulZonedTimeLibrary] in
theorem validate_version [UnicodeLibrary] {s : StatusFields} {now : Instant} {u : Unit}
    (h : s.validate now = .ok u) : s.version = "1" := by
  simp only [StatusFields.validate, bind_eq_ok, require_eq_ok] at h
  obtain ⟨_, hversion, -⟩ := h
  exact hversion

theorem notRevoked_eq_ok {reply : Reply RevocationStatus} {now : Instant} {u : Unit} :
    notRevoked reply now = .ok u ↔ ∃ status, reply = .returned status ∧
      status.validate now = .ok () ∧ status.attestationRevoked = false ∧
      status.credentialInstanceRevoked = false := by
  rcases reply with _ | _ | status
  · simp [notRevoked]
  · simp [notRevoked]
  · simp only [notRevoked, bind_eq_ok, guarded_eq_ok, require_eq_ok, Reply.returned.injEq]
    constructor
    · rintro ⟨fields, hfields, _, -, _, hvalid, _, hattestation, hcredential⟩
      obtain rfl := Except.ok.inj (hfields.symm.trans status.again)
      exact ⟨status, rfl, hvalid, hattestation, hcredential⟩
    · rintro ⟨_, rfl, hvalid, hattestation, hcredential⟩
      exact ⟨_, status.again, (), validate_version hvalid, (), hvalid, (), hattestation,
        hcredential⟩

variable [LawfulDigestLibrary]

omit [TimestampLibrary] [LawfulTextLibrary] [LawfulZonedTimeLibrary] [LawfulDigestLibrary] in
theorem utcTimestamp_parse {s : String} {t : Instant} (h : WrittenTime s t) :
    ∀ written, utcTimestamp (.str s) = .ok written ↔ written = (s, t) := by
  intro written
  rw [h.utcTimestamp]
  exact ⟨fun hsame => (Except.ok.inj hsame).symm, fun hsame => by rw [hsame]⟩

theorem validityChecks_eq_ok {d : BoundaryDependencies}
    {claims : CredentialCapabilityAttestationClaims} {now : Instant} {u : Unit} :
    validityChecks d claims now = .ok u ↔
      (∃ issued expires, ZonedTimeLibrary.parse claims.issuedAt = some ⟨issued, 0⟩ ∧
        ZonedTimeLibrary.parse claims.expiresAt = some ⟨expires, 0⟩ ∧
        issued ≤ now ∧ now < expires) ∧
      ∃ reader status, d.revocationReader = some reader ∧
        reader claims.attestationId claims.credentialInstanceId claims.issuerId claims.keyId "1" =
          .returned status ∧ status.validate now = .ok () ∧ status.attestationRevoked = false ∧
        status.credentialInstanceRevoked = false := by
  obtain ⟨issued, expires, hissued, hexpires, -⟩ := claims.sound.lasting
  simp only [validityChecks, bind_eq_ok, utcTimestamp_parse hissued, utcTimestamp_parse hexpires,
    require_eq_ok, orRaise_eq_ok, notRevoked_eq_ok, exists_eq_left, hissued.parse, hexpires.parse,
    Option.some.injEq, ZonedDatetime.mk.injEq, and_true]
  constructor
  · rintro ⟨_, hfrom, _, huntil, reader, hreader, status, hstatus⟩
    exact ⟨⟨issued, expires, rfl, rfl, hfrom, huntil⟩, reader, status, hreader, hstatus⟩
  · rintro ⟨⟨_, _, rfl, rfl, hfrom, huntil⟩, reader, status, hreader, hstatus⟩
    exact ⟨(), hfrom, (), huntil, reader, hreader, status, hstatus⟩

/-- The live checks accept exactly what the dependencies vouch for. -/
theorem liveChecks_eq_ok {d : BoundaryDependencies}
    {envelope : SignedCredentialCapabilityAttestation} {t : Option ZonedDatetime} {u : Unit} :
    liveChecks d (.signed envelope) t = .ok u ↔
      ∃ now, t = some ⟨now, 0⟩ ∧ Vouched d envelope.claims envelope.proof now := by
  simp only [liveChecks, currentTime, bind_eq_ok, orRaise_eq_ok, require_eq_ok, pure_eq_ok,
    parse_signed, Except.ok.injEq, exists_eq_left', trustChecks_eq_ok, validityChecks_eq_ok]
  constructor
  · rintro ⟨now, ⟨⟨instant, offset⟩, rfl, _, hoffset, rfl⟩, _, ⟨hversion, halgorithm, hissuer,
      hsignature, hcapabilities⟩, hwindow, hrevocation⟩
    obtain rfl : offset = 0 := hoffset
    exact ⟨instant, rfl, hversion, halgorithm, hissuer, hsignature, hcapabilities, hwindow,
      hrevocation⟩
  · rintro ⟨now, rfl, h⟩
    exact ⟨now, ⟨_, rfl, (), rfl, rfl⟩, (), ⟨h.version, h.algorithm, h.issuer, h.signature,
      h.capabilities⟩, h.window, h.revocation⟩

omit [PythonLibrary] [UnicodeLibrary] [TimestampLibrary] [LawfulTextLibrary]
  [LawfulZonedTimeLibrary] [LawfulDigestLibrary] in
theorem claimsInstant_eq_ok [PythonLibrary] [UnicodeLibrary] {text : String} {t instant : Instant}
    (h : ZonedTimeLibrary.parse text = some ⟨t, 0⟩) :
    claimsInstant text = .ok instant ↔ instant = t := by
  simp only [claimsInstant, bind_eq_ok, orRaise_eq_ok, pure_eq_ok, h, Option.some.injEq,
    exists_eq_left']
  exact eq_comm

omit [PythonLibrary] [UnicodeLibrary] [TimestampLibrary] [LawfulTextLibrary] [ZonedTimeLibrary]
  [LawfulZonedTimeLibrary] [LawfulDigestLibrary] in
theorem restartStatus_eq_ok [PythonLibrary] [UnicodeLibrary] [ZonedTimeLibrary]
    {reply : Reply RevocationStatus} {status : RevocationStatus} :
    restartStatus reply = .ok status ↔ reply = .returned status := by
  cases reply <;> simp [restartStatus]

omit [PythonLibrary] [UnicodeLibrary] [TimestampLibrary] [LawfulTextLibrary] [ZonedTimeLibrary]
  [LawfulZonedTimeLibrary] [LawfulDigestLibrary] in
theorem forM_require_eq_ok {α : Type} {xs : List α} {condition : α → Prop}
    [∀ x, Decidable (condition x)] {e : Raised} {u : Unit} :
    (xs.forM fun x => require (condition x) e) = .ok u ↔ ∀ x ∈ xs, condition x := by
  cases u
  simp only [forM_eq_ok, require_eq_ok]

variable [LawfulInfixLibrary]

/-- The restart verifier accepts exactly what the dependencies vouch for, at the
instant it is given. -/
theorem restartVerify_isOk {d : TrustDependencies} {artifact : PersistedAttestationArtifact}
    {t : Option ZonedDatetime} : (∃ evidence, restartVerify d artifact t = .ok evidence) ↔
      ∃ z, t = some z ∧
        Vouched d.boundary artifact.claimsPayload artifact.detachedProof z.instant := by
  obtain ⟨issued, expires, hissued, hexpires, -⟩ := artifact.claimsPayload.sound.lasting
  have hsound := artifact.sound
  obtain ⟨original, created, _, _, horiginal, -⟩ := hsound.times
  have hartifact := (hexPattern_graphic (by decide) hsound.artifactIdForm).2
  have hdigest := (hexPattern_graphic (by decide) hsound.contentForm).2
  simp only [restartVerify, bind_eq_ok, guarded_eq_ok, artifact.again_eq, Except.ok.injEq,
    exists_eq_left', orRaise_eq_ok, require_eq_ok, forM_require_eq_ok, restartStatus_eq_ok,
    claimsInstant_eq_ok hissued.parse, claimsInstant_eq_ok hexpires.parse, exists_eq_left,
    hsound.claimsDigest, RestartVerifiedCredentialEvidence.make, pure_eq_ok, Reply.any_eq_true,
    restartSignedBytes]
  constructor
  · rintro ⟨_, z, rfl, _, hversion, _, halgorithm, _, ⟨decision, hdecision⟩, payload, hpayload, _,
      hvalid, _, hcapabilities, _, hfrom, _, huntil, status, hstatus, _, hvalidated, _,
      ⟨hattestation, hcredential⟩, -⟩
    exact ⟨z, rfl, hversion, halgorithm, ⟨_, decision, rfl, hdecision⟩,
      ⟨_, payload, rfl, hpayload, hvalid⟩, ⟨_, rfl, hcapabilities⟩,
      ⟨issued, expires, hissued.parse, hexpires.parse, hfrom, huntil⟩,
      ⟨_, status, rfl, hstatus, hvalidated, hattestation, hcredential⟩⟩
  · rintro ⟨z, rfl, h⟩
    obtain ⟨_, decision, hpolicy, hdecision⟩ := h.issuer
    obtain ⟨_, payload, hverifier, hpayload, hvalid⟩ := h.signature
    obtain ⟨_, hcapability, hcapabilities⟩ := h.capabilities
    obtain ⟨issued', expires', hissued', hexpires', hfrom, huntil⟩ := h.window
    obtain ⟨_, status, hreader, hstatus, hvalidated, hattestation, hcredential⟩ := h.revocation
    obtain rfl := Option.some.inj hpolicy
    obtain rfl := Option.some.inj hverifier
    obtain rfl := Option.some.inj hcapability
    obtain rfl := Option.some.inj hreader
    rw [hissued.parse, Option.some.injEq, ZonedDatetime.mk.injEq] at hissued'
    rw [hexpires.parse, Option.some.injEq, ZonedDatetime.mk.injEq] at hexpires'
    obtain ⟨rfl, -⟩ := hissued'
    obtain ⟨rfl, -⟩ := hexpires'
    exact ⟨_, z, rfl, (), h.version, (), h.algorithm, (), ⟨decision, hdecision⟩, payload,
      hpayload, (), hvalid, (), hcapabilities, (), hfrom, (), huntil, status, hstatus, (),
      hvalidated, (), ⟨hattestation, hcredential⟩, (),
      ⟨hsound.workspace.nonEmpty, hartifact, hdigest, trivial, horiginal.settled.nonEmpty⟩, rfl⟩

/-! ## The two verifications agree -/

/-- The restart verifier succeeds on the artifact of an envelope exactly when the
live checks accept the envelope at the same instant, told in UTC, and both hand
the same bytes to the proof verifier. A time told in another offset is never
accepted by the live checks. -/
theorem restart_agrees_with_live (d : TrustDependencies)
    (envelope : SignedCredentialCapabilityAttestation) (artifact : PersistedAttestationArtifact)
    (workspace original created : Value)
    (hpersisted : PersistedAttestationArtifact.create workspace (.object envelope.claims)
      (.str envelope.proof) original created = .ok artifact) (t : Option ZonedDatetime) :
    ((∃ evidence, restartVerify d artifact t = .ok evidence) ↔
      liveChecks d.boundary (.signed envelope) (t.map fun z => ⟨z.instant, 0⟩) = .ok ()) ∧
    (liveChecks d.boundary (.signed envelope) t = .ok () → ∃ now, t = some ⟨now, 0⟩) ∧
    ∃ payload, envelope.claims.signedBytes = .ok payload ∧
      restartSignedBytes artifact = .ok payload := by
  obtain ⟨hclaims, hproof⟩ := PersistedAttestationArtifact.create_holds hpersisted
  obtain hproof := Value.str.inj hproof
  refine ⟨?_, ?_, ?_⟩
  · rw [restartVerify_isOk, liveChecks_eq_ok, hclaims, ← hproof]
    constructor
    · rintro ⟨z, rfl, h⟩
      exact ⟨z.instant, rfl, h⟩
    · rintro ⟨now, hnow, h⟩
      obtain ⟨z, rfl, hz⟩ := Option.map_eq_some_iff.mp hnow
      obtain rfl := (ZonedDatetime.mk.inj hz).1
      exact ⟨z, rfl, h⟩
  · rw [liveChecks_eq_ok]
    rintro ⟨now, rfl, -⟩
    exact ⟨now, rfl⟩
  · refine ⟨_, CredentialCapabilityAttestationClaims.signedBytes_eq _, ?_⟩
    rw [restartSignedBytes, hclaims]
    exact CredentialCapabilityAttestationClaims.signedBytes_eq _

end

/-! ## A time told with an offset -/

section
attribute [local instance] ReferenceLibrary.referenceLibrary
  IssuanceHistories.referenceTimestamps IssuanceHistories.referenceUnicode
  AttestationReference.referenceTimes IssuanceHistories.referenceLibrary_lawful
  AttestationReference.referenceTimes_lawful AttestationReference.referenceLibrary_digests
  AttestationReference.referenceLibrary_infix

theorem activeStatus_made :
    ({ attestationRevoked := false, credentialInstanceRevoked := false, revokedAt := none
       reason := none, version := "1" } : StatusFields).postInit =
      .ok { attestationRevoked := false, credentialInstanceRevoked := false, revokedAt := none
            reason := none, version := "1" } := by
  simp only [StatusFields.postInit, bind_eq_ok, require_eq_ok]
  exact ⟨(), by decide, none, rfl, rfl⟩

/-- A status that revokes nothing. -/
def activeStatus : RevocationStatus := ⟨_, _, activeStatus_made⟩

/-- Dependencies that accept everything. -/
def trustingDependencies : TrustDependencies where
  issuerPolicy _ _ _ _ _ := .returned ⟨true, "attestation_issuer_untrusted", by decide⟩
  proofVerifier _ _ _ _ _ := .returned true
  revocationReader _ _ _ _ _ := .returned activeStatus
  capabilityPolicy _ := .returned true

theorem trusting_vouches {nonce : String} {claims : CredentialCapabilityAttestationClaims}
    (hclaims : claims.toClaimsFields =
      { AttestationReference.sampleClaimsFields nonce with
        attestationId := claims.attestationId }) (proof : String) :
    Vouched trustingDependencies.boundary claims proof AttestationReference.issuedInstant where
  version := .inr (by rw [hclaims]; rfl)
  algorithm := by rw [hclaims]; rfl
  issuer := ⟨_, _, rfl, rfl, rfl⟩
  signature := ⟨_, _, rfl, CredentialCapabilityAttestationClaims.signedBytes_eq claims, rfl⟩
  capabilities := ⟨_, rfl, fun _ _ => rfl⟩
  window := ⟨AttestationReference.issuedInstant, AttestationReference.expiresInstant,
    by rw [hclaims]; rfl, by rw [hclaims]; rfl, le_refl _, by decide⟩
  revocation := ⟨_, activeStatus, rfl, rfl, rfl, rfl, rfl⟩

theorem sampleNonce : Matching idPattern "nonce-1" :=
  AttestationReference.matching_of_graphic (by decide) (by decide) (by decide)

end

/-- An attestation that both verifications accept in the instant it is issued. -/
theorem restart_agrees_with_live_sample :
    ∃ (_ : PythonLibrary) (_ : UnicodeLibrary) (_ : ZonedTimeLibrary) (d : TrustDependencies)
      (envelope : SignedCredentialCapabilityAttestation) (artifact : PersistedAttestationArtifact),
      (∃ evidence, restartVerify d artifact
        (some ⟨AttestationReference.issuedInstant, 0⟩) = .ok evidence) ∧
      liveChecks d.boundary (.signed envelope)
        (some ⟨AttestationReference.issuedInstant, 0⟩) = .ok () := by
  have hlawful := IssuanceHistories.referenceLibrary_lawful
  have htimes := AttestationReference.referenceTimes_lawful
  have hdigests := AttestationReference.referenceLibrary_digests
  have hinfix := AttestationReference.referenceLibrary_infix
  let _ := ReferenceLibrary.referenceLibrary
  let _ := IssuanceHistories.referenceUnicode
  let _ := IssuanceHistories.referenceTimestamps
  let _ := AttestationReference.referenceTimes
  obtain ⟨claims, envelope, artifact, hclaims, rfl, hproof, hpersisted⟩ :=
    AttestationReference.exists_sample sampleNonce
  rw [← hproof] at hpersisted
  have hlive : liveChecks trustingDependencies.boundary (.signed envelope)
      (some ⟨AttestationReference.issuedInstant, 0⟩) = .ok () :=
    liveChecks_eq_ok.mpr ⟨_, rfl, trusting_vouches hclaims _⟩
  exact ⟨_, _, _, trustingDependencies, envelope, artifact,
    (restart_agrees_with_live trustingDependencies envelope artifact _ _ _ hpersisted
      (some ⟨AttestationReference.issuedInstant, 0⟩)).1.mpr hlive, hlive⟩

/-- Two hours east of UTC the restart verifier accepts what the live checks reject. -/
theorem restart_accepts_other_offsets :
    ¬∀ (_ : PythonLibrary) (_ : UnicodeLibrary) (_ : TimestampLibrary) (_ : ZonedTimeLibrary)
      (_ : LawfulTextLibrary) (_ : LawfulZonedTimeLibrary) (_ : LawfulDigestLibrary)
      (_ : LawfulInfixLibrary) (d : TrustDependencies)
      (envelope : SignedCredentialCapabilityAttestation) (artifact : PersistedAttestationArtifact)
      (workspace original created : Value) (t : Option ZonedDatetime),
      PersistedAttestationArtifact.create workspace (.object envelope.claims)
          (.str envelope.proof) original created = .ok artifact →
        ((∃ evidence, restartVerify d artifact t = .ok evidence) ↔
          liveChecks d.boundary (.signed envelope) t = .ok ()) := by
  intro h
  have hlawful := IssuanceHistories.referenceLibrary_lawful
  have htimes := AttestationReference.referenceTimes_lawful
  have hdigests := AttestationReference.referenceLibrary_digests
  have hinfix := AttestationReference.referenceLibrary_infix
  let _ := ReferenceLibrary.referenceLibrary
  let _ := IssuanceHistories.referenceUnicode
  let _ := IssuanceHistories.referenceTimestamps
  let _ := AttestationReference.referenceTimes
  obtain ⟨claims, envelope, artifact, hclaims, henvelope, hproof, hpersisted⟩ :=
    AttestationReference.exists_sample sampleNonce
  rw [← henvelope, ← hproof] at hpersisted
  have hholds := PersistedAttestationArtifact.create_holds hpersisted
  have hsame := h _ _ _ _ hlawful htimes hdigests hinfix trustingDependencies envelope artifact _
    _ _ (some ⟨AttestationReference.issuedInstant, 7200⟩) hpersisted
  have hlive := hsame.mp (restartVerify_isOk.mpr ⟨_, rfl, by
    rw [hholds.1, henvelope]
    exact trusting_vouches hclaims _⟩)
  obtain ⟨now, hnow, -⟩ := liveChecks_eq_ok.mp hlive
  cases hnow

end DeliverySystem.AttestationVerification

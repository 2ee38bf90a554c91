import DeliverySystem.AuthorityBindings

/-!
# Attestation claims

What an issuer attests of a credential, and the proof that is detached from it.
The constructors bring every field to one form and derive the identity of the
claims from them, so claims and envelopes are what their constructors made. The
module has no cryptography: a proof is a text of the right form.
-/
namespace DeliverySystem.AttestationClaims
open PythonValues CanonicalValues JsonText AuthorityBindings
set_option autoImplicit false

/-! ## Times -/

/-- A datetime with a time zone: its instant, and the offset it is written in. -/
structure ZonedDatetime where
  instant : Instant
  offset : Int
deriving Repr, DecidableEq

class ZonedTimeLibrary where
  /-- `datetime.fromisoformat(text.replace("Z", "+00:00"))`; `none` where it
  raises, names no time zone, or has no instant in UTC. -/
  parse : String → Option ZonedDatetime
  /-- `isoformat(timespec="microseconds")` of a UTC instant, with the suffix `Z`. -/
  isoformatMicroseconds : Instant → String

/-- Both ways to write a UTC instant are read back. -/
class LawfulZonedTimeLibrary [PythonLibrary] [ZonedTimeLibrary] : Prop where
  isoformat {s : String} {z : ZonedDatetime} (h : ZonedTimeLibrary.parse s = some z) :
    Graphic (PythonLibrary.isoformat z.instant) ∧ PythonLibrary.isoformat z.instant ≠ "" ∧
      ZonedTimeLibrary.parse (PythonLibrary.isoformat z.instant) = some ⟨z.instant, 0⟩
  isoformatMicroseconds {s : String} {z : ZonedDatetime} (h : ZonedTimeLibrary.parse s = some z) :
    Graphic (ZonedTimeLibrary.isoformatMicroseconds z.instant) ∧
      ZonedTimeLibrary.isoformatMicroseconds z.instant ≠ "" ∧
      ZonedTimeLibrary.parse (ZonedTimeLibrary.isoformatMicroseconds z.instant) =
        some ⟨z.instant, 0⟩

/-- `hexdigest` writes sixty-four lowercase hexadecimal digits. -/
class LawfulDigestLibrary [PythonLibrary] : Prop where
  hexdigest (value : Value) : hexPattern "" (PythonLibrary.hexdigest value) = true

/-! ## Fields -/

section
variable [PythonLibrary] [UnicodeLibrary]

/-- `_safe_text`, the same function as the `_text` of an authority binding. -/
abbrev safeText (value : Value) (field : String) : Py String := text value field

/-- `_safe_id` -/
abbrev safeId (value : Value) (field : String) : Py String := patternText value field idPattern

/-- `_digest` -/
abbrev digestText (value : Value) (field : String) : Py String :=
  patternText value field (hexPattern "sha256:")

/-- `isinstance(revision, int) and not isinstance(revision, bool) and revision >= 1` -/
def Value.positive? : Value → Option Int
  | .int n => if 1 ≤ n then some n else none
  | _ => none

/-- `_capabilities` -/
def capabilities (value : Value) (field : String) : Py (List String) := do
  let items ← orRaise value.sequence? (invalid field)
  let normalized ← items.mapM (safeText · field)
  raiseIf (¬normalized.Nodup) (field ++ "_duplicate")
  raiseIf (∃ item ∈ normalized, capabilityPattern item = false) (field ++ "_invalid")
  pure (normalized.insertionSort (· ≤ ·))

/-- `_proof` -/
def proofText (value : Value) (algorithm : String) : Py String := do
  raiseIf (algorithm ≠ "ed25519") "attestation_algorithm_unsupported"
  let value ← orRaise value.text? (.valueError "proof_invalid")
  raiseIf (proofPattern value = false) "proof_invalid"
  pure value

variable [ZonedTimeLibrary]

/-- `_utc_timestamp` -/
def utcTimestamp (value : Value) : Py (String × Instant) := do
  let normalized ← safeText value "timestamp"
  let parsed ← orRaise (ZonedTimeLibrary.parse normalized) (invalid "timestamp")
  raiseIf (parsed.offset ≠ 0) "timestamp_invalid"
  pure (PythonLibrary.isoformat parsed.instant, parsed.instant)

/-! ## Claims -/

def attestationDomain : String := "delivery-system:credential-capability-attestation:v1"

def attestationV2Domain : String := "delivery-system:credential-capability-attestation:v2"

def claimsFieldsV1 : List String :=
  ["attestation_version", "attestation_id", "issuer_id", "key_id", "signature_algorithm",
    "credential_class", "credential_instance_id", "github_subject_identity",
    "repository_identity", "granted_capabilities", "driver_identity", "remote_authority",
    "preview_id", "revision", "operation_set_digest", "remote_snapshot_digest",
    "evidence_digest", "issued_at", "expires_at", "nonce", "source_verification_digest"]

def claimsFieldsV2 : List String :=
  claimsFieldsV1 ++ ["challenge_digest", "credential_principal_identity"]

structure ClaimsFields where
  attestationVersion : String
  attestationId : String
  issuerId : String
  keyId : String
  signatureAlgorithm : String
  credentialClass : String
  credentialInstanceId : String
  githubSubjectIdentity : String
  repositoryIdentity : String
  grantedCapabilities : List String
  driverIdentity : String
  remoteAuthority : String
  previewId : String
  revision : Int
  operationSetDigest : String
  remoteSnapshotDigest : String
  evidenceDigest : String
  issuedAt : String
  expiresAt : String
  nonce : String
  sourceVerificationDigest : String
  challengeDigest : String
  credentialPrincipalIdentity : String
deriving Repr, DecidableEq

/-- What version 2 adds to the payload. -/
def ClaimsFields.extension (f : ClaimsFields) : Dict :=
  if f.attestationVersion = "2" then
    [("challenge_digest", .str f.challengeDigest),
      ("credential_principal_identity", .str f.credentialPrincipalIdentity)]
  else []

/-- `_identity_payload` -/
def ClaimsFields.identityPayload (f : ClaimsFields) : Dict :=
  [("attestation_version", .str f.attestationVersion), ("issuer_id", .str f.issuerId),
    ("key_id", .str f.keyId), ("signature_algorithm", .str f.signatureAlgorithm),
    ("credential_class", .str f.credentialClass),
    ("credential_instance_id", .str f.credentialInstanceId),
    ("github_subject_identity", .str f.githubSubjectIdentity),
    ("repository_identity", .str f.repositoryIdentity),
    ("granted_capabilities", Value.texts f.grantedCapabilities),
    ("driver_identity", .str f.driverIdentity), ("remote_authority", .str f.remoteAuthority),
    ("preview_id", .str f.previewId), ("revision", .int f.revision),
    ("operation_set_digest", .str f.operationSetDigest),
    ("remote_snapshot_digest", .str f.remoteSnapshotDigest),
    ("evidence_digest", .str f.evidenceDigest), ("issued_at", .str f.issuedAt),
    ("expires_at", .str f.expiresAt), ("nonce", .str f.nonce),
    ("source_verification_digest", .str f.sourceVerificationDigest)] ++ f.extension

/-- `_domain` -/
def ClaimsFields.domain (f : ClaimsFields) : String :=
  if f.attestationVersion = "2" then attestationV2Domain else attestationDomain

def ClaimsFields.derivedAttestationId (f : ClaimsFields) : Py String := do
  let material ← CanonicalValues.normalize
    (.dict [("domain", .str f.domain), ("claims", .dict f.identityPayload)])
  pure ("attestation-" ++ PythonLibrary.hexdigest material)

def ClaimsFields.claimsDigest (f : ClaimsFields) : Py String :=
  canonicalDigest (.dict [("domain", .str f.domain), ("claims", .dict f.identityPayload)])

/-- `{**self._identity_payload(), "attestation_id": self.attestation_id}` -/
def ClaimsFields.claimsEntries (f : ClaimsFields) : Dict :=
  f.identityPayload ++ [("attestation_id", .str f.attestationId)]

def ClaimsFields.toPayload (f : ClaimsFields) : Value :=
  .dict [("domain", .str f.domain), ("claims", .dict f.claimsEntries)]

/-- `canonical_payload(claims.to_payload()).encode("utf-8")`, the bytes that are signed. -/
def ClaimsFields.signedBytes (f : ClaimsFields) : Py ByteArray := do
  let value ← CanonicalValues.normalize f.toPayload
  pure (dumps value).toUTF8

/-- The two fields that only version 2 has. -/
def extensionFields (version : String) (raw : Dict) : Py (String × String) :=
  if version = "2" then do
    let challenge ← digestText (raw.get "challenge_digest") "challenge_digest"
    let principal ← safeText (raw.get "credential_principal_identity")
      "credential_principal_identity"
    pure (challenge, principal)
  else if version ≠ "1" then .error (.valueError "attestation_version_unsupported")
  else if raw.get "challenge_digest" ∉ [.null, .str ""] ∨
      raw.get "credential_principal_identity" ∉ [.null, .str ""] then
    .error (.valueError "attestation_v1_extension_forbidden")
  else .ok ("", "")

/-- `attestation_id`, where an empty one is still to be derived. -/
def claimedId (value : Value) : Py String :=
  if value = .str "" then .ok "" else safeId value "attestation_id"

/-- `CredentialCapabilityAttestationClaims.__post_init__`. The arguments of
version 1 leave the two later fields out. -/
def postInit (raw : Dict) : Py ClaimsFields := do
  let version ← safeId (raw.get "attestation_version") "attestation_version"
  let issuer ← safeId (raw.get "issuer_id") "issuer_id"
  let key ← safeId (raw.get "key_id") "key_id"
  let algorithm ← safeId (raw.get "signature_algorithm") "signature_algorithm"
  let credentialClass ← safeId (raw.get "credential_class") "credential_class"
  let credential ← safeId (raw.get "credential_instance_id") "credential_instance_id"
  let preview ← safeId (raw.get "preview_id") "preview_id"
  let nonce ← safeId (raw.get "nonce") "nonce"
  let subject ← safeText (raw.get "github_subject_identity") "github_subject_identity"
  let repository ← safeText (raw.get "repository_identity") "repository_identity"
  let driver ← safeText (raw.get "driver_identity") "driver_identity"
  let claimed ← claimedId (raw.get "attestation_id")
  let revision ← orRaise (Value.positive? (raw.get "revision")) (invalid "revision")
  let granted ← capabilities (raw.get "granted_capabilities") "granted_capabilities"
  let issued ← utcTimestamp (raw.get "issued_at")
  let expires ← utcTimestamp (raw.get "expires_at")
  raiseIf (expires.2 ≤ issued.2) "attestation_expiry_invalid"
  let authority ← digestText (raw.get "remote_authority") "remote_authority"
  let operations ← digestText (raw.get "operation_set_digest") "operation_set_digest"
  let snapshot ← digestText (raw.get "remote_snapshot_digest") "remote_snapshot_digest"
  let evidence ← digestText (raw.get "evidence_digest") "evidence_digest"
  let source ← digestText (raw.get "source_verification_digest") "source_verification_digest"
  let extension ← extensionFields version raw
  let fields : ClaimsFields :=
    { attestationVersion := version
      attestationId := claimed
      issuerId := issuer
      keyId := key
      signatureAlgorithm := algorithm
      credentialClass := credentialClass
      credentialInstanceId := credential
      githubSubjectIdentity := subject
      repositoryIdentity := repository
      grantedCapabilities := granted
      driverIdentity := driver
      remoteAuthority := authority
      previewId := preview
      revision := revision
      operationSetDigest := operations
      remoteSnapshotDigest := snapshot
      evidenceDigest := evidence
      issuedAt := issued.1
      expiresAt := expires.1
      nonce := nonce
      sourceVerificationDigest := source
      challengeDigest := extension.1
      credentialPrincipalIdentity := extension.2 }
  let expected ← fields.derivedAttestationId
  raiseIf (claimed ≠ "" ∧ claimed ≠ expected) "attestation_id_mismatch"
  pure { fields with attestationId := expected }

/-- Claims that the constructor made. -/
structure CredentialCapabilityAttestationClaims extends ClaimsFields where
  made : ∃ raw : Dict, postInit raw = .ok toClaimsFields

instance : DecidableEq CredentialCapabilityAttestationClaims := fun a b =>
  decidable_of_iff (a.toClaimsFields = b.toClaimsFields)
    ⟨fun h => by cases a; cases b; cases h; rfl, fun h => h ▸ rfl⟩

def CredentialCapabilityAttestationClaims.make (raw : Dict) :
    Py CredentialCapabilityAttestationClaims :=
  match h : postInit raw with
  | .ok fields => .ok ⟨fields, raw, h⟩
  | .error e => .error e

/-- The fields of version 1 by name. -/
def ClaimsFields.baseRaw (f : ClaimsFields) : Dict :=
  [("attestation_version", .str f.attestationVersion), ("attestation_id", .str f.attestationId),
    ("issuer_id", .str f.issuerId), ("key_id", .str f.keyId),
    ("signature_algorithm", .str f.signatureAlgorithm),
    ("credential_class", .str f.credentialClass),
    ("credential_instance_id", .str f.credentialInstanceId),
    ("github_subject_identity", .str f.githubSubjectIdentity),
    ("repository_identity", .str f.repositoryIdentity),
    ("granted_capabilities", .tuple (f.grantedCapabilities.map .str)),
    ("driver_identity", .str f.driverIdentity), ("remote_authority", .str f.remoteAuthority),
    ("preview_id", .str f.previewId), ("revision", .int f.revision),
    ("operation_set_digest", .str f.operationSetDigest),
    ("remote_snapshot_digest", .str f.remoteSnapshotDigest),
    ("evidence_digest", .str f.evidenceDigest), ("issued_at", .str f.issuedAt),
    ("expires_at", .str f.expiresAt), ("nonce", .str f.nonce),
    ("source_verification_digest", .str f.sourceVerificationDigest)]

/-- `_claims_projection` of a claims object: its fields by name. -/
def ClaimsFields.raw (f : ClaimsFields) : Dict := f.baseRaw ++ f.extension

/-- `_claims_projection` of a mapping. -/
def claimsProjection (value : Value) : Py Dict := do
  let fields ← orRaise value.mapping? (.valueError "attestation_invalid")
  raiseIf ("attestation_version" ∉ Dict.keys fields) "attestation_invalid"
  raiseIf (Dict.hasExactly fields
      (if fields.get "attestation_version" = .str "2" then claimsFieldsV2 else claimsFieldsV1) =
    false) "claims_invalid"
  pure fields

/-! ## The envelope -/

structure SignedFields where
  claims : CredentialCapabilityAttestationClaims
  proof : String
deriving DecidableEq

/-- `SignedCredentialCapabilityAttestation.__post_init__` -/
def signedPostInit (claims : CredentialCapabilityAttestationClaims) (proof : Value) :
    Py SignedFields := do
  let proof ← proofText proof claims.signatureAlgorithm
  pure { claims, proof }

/-- An envelope that the constructor made. -/
structure SignedCredentialCapabilityAttestation extends SignedFields where
  made : ∃ proof : Value, signedPostInit claims proof = .ok toSignedFields

theorem signedPostInit_claims {claims : CredentialCapabilityAttestationClaims} {proof : Value}
    {fields : SignedFields} (h : signedPostInit claims proof = .ok fields) :
    fields.claims = claims := by
  simp only [signedPostInit, bind_eq_ok, pure_eq_ok] at h
  obtain ⟨_, -, rfl⟩ := h
  rfl

def SignedCredentialCapabilityAttestation.make (claims : CredentialCapabilityAttestationClaims)
    (proof : Value) : Py SignedCredentialCapabilityAttestation :=
  match h : signedPostInit claims proof with
  | .ok fields => .ok ⟨fields, proof, by rw [signedPostInit_claims h, h]⟩
  | .error e => .error e

/-- What a caller hands to a verification. -/
inductive Submitted where
  | missing
  | signed (envelope : SignedCredentialCapabilityAttestation)
  | claimsWithProof (claims : CredentialCapabilityAttestationClaims) (proof : Value)
  | mapping (value : Value)

/-- `_parse_untrusted_signed_attestation` -/
def parseUntrustedSignedAttestation :
    Submitted → Py SignedCredentialCapabilityAttestation
  | .missing => .error (.valueError "attestation_invalid")
  | .signed envelope => do
      let claims ← CredentialCapabilityAttestationClaims.make envelope.claims.raw
      SignedCredentialCapabilityAttestation.make claims (.str envelope.proof)
  | .claimsWithProof claims proof => do
      let claims ← CredentialCapabilityAttestationClaims.make claims.raw
      SignedCredentialCapabilityAttestation.make claims proof
  | .mapping value => do
      let fields ← orRaise value.mapping? (.valueError "attestation_invalid")
      raiseIf (Dict.hasExactly fields ["claims", "proof"] = false) "attestation_invalid"
      let raw ← claimsProjection (fields.get "claims")
      let claims ← CredentialCapabilityAttestationClaims.make raw
      SignedCredentialCapabilityAttestation.make claims (fields.get "proof")

end

/-! ## What a constructor made, it makes again -/

section
variable [PythonLibrary] [UnicodeLibrary] [TimestampLibrary] [LawfulTextLibrary]

theorem capabilities_sound {value : Value} {field : String} {items : List String}
    (h : capabilities value field = .ok items) :
    (∀ item ∈ items, Settled item) ∧ items.Nodup ∧ items.insertionSort (· ≤ ·) = items ∧
      ∀ item ∈ items, capabilityPattern item = true := by
  simp only [capabilities, bind_eq_ok, raiseIf_eq_ok, orRaise_eq_ok, pure_eq_ok,
    not_not] at h
  obtain ⟨raw, -, normalized, hmap, _, hnodup, _, hpattern, rfl⟩ := h
  have hperm := List.perm_insertionSort (· ≤ ·) normalized
  refine ⟨?_, hperm.nodup_iff.mpr hnodup,
    (List.pairwise_insertionSort (· ≤ ·) normalized).insertionSort_eq, ?_⟩
  · intro item hitem
    obtain ⟨source, -, htext⟩ := exists_of_mem_mapM hmap (hperm.mem_iff.mp hitem)
    exact text_settled htext
  · intro item hitem
    by_contra hfails
    exact hpattern ⟨item, hperm.mem_iff.mp hitem, by simpa using hfails⟩

omit [TimestampLibrary] [LawfulTextLibrary] in
/-- A sorted list of settled capabilities is kept. -/
theorem capabilities_again {value : Value} {field : String} {items : List String}
    (hvalue : value.sequence? = some (items.map .str)) (hsettled : ∀ item ∈ items, Settled item)
    (hdistinct : items.Nodup) (hsorted : items.insertionSort (· ≤ ·) = items)
    (hcapable : ∀ item ∈ items, capabilityPattern item = true) :
    capabilities value field = .ok items := by
  have hmap : (items.map Value.str).mapM (safeText · field) = .ok items := by
    rw [mapM_eq_ok, List.forall₂_map_left_iff]
    exact List.forall₂_same.mpr fun item hitem => (hsettled item hitem).text field
  simp only [capabilities, bind_eq_ok, raiseIf_eq_ok, orRaise_eq_ok, pure_eq_ok, not_not]
  refine ⟨_, hvalue, _, hmap, (), hdistinct, (), ?_, hsorted⟩
  rintro ⟨item, hitem, hfails⟩
  rw [hcapable item hitem] at hfails
  cases hfails

omit [PythonLibrary] [UnicodeLibrary] [TimestampLibrary] [LawfulTextLibrary] in
theorem proofText_again {value : Value} {algorithm s : String}
    (h : proofText value algorithm = .ok s) :
    algorithm = "ed25519" ∧ proofPattern s = true ∧ proofText (.str s) algorithm = .ok s := by
  simp only [proofText, bind_eq_ok, raiseIf_eq_ok, orRaise_eq_ok, pure_eq_ok, not_not,
    Value.text?_eq_some] at h ⊢
  obtain ⟨_, halgorithm, raw, -, _, hpattern, rfl⟩ := h
  exact ⟨halgorithm, by simpa using hpattern, (), halgorithm, raw, rfl, (), hpattern, rfl⟩

omit [PythonLibrary] [UnicodeLibrary] [TimestampLibrary] [LawfulTextLibrary] in
theorem hexPattern_append {tag hex : String} (h : hexPattern "" hex = true) :
    hexPattern tag (tag ++ hex) = true := by
  simp only [hexPattern, String.toList_append, List.isPrefixOf_iff_prefix, Bool.and_eq_true,
    decide_eq_true_eq, List.drop_left, List.prefix_append, true_and] at h ⊢
  simpa using h

omit [PythonLibrary] [UnicodeLibrary] [TimestampLibrary] [LawfulTextLibrary] in
theorem hexDigit_graphic {c : Char} (h : c.isDigit = true ∨ 'a' ≤ c ∧ c ≤ 'f') :
    0x21 ≤ c.toNat ∧ c.toNat ≤ 0x7e := by
  rcases h with hdigit | ⟨hlow, hhigh⟩
  · simp only [Char.isDigit, Bool.and_eq_true, decide_eq_true_eq, UInt32.le_iff_toNat_le] at hdigit
    have hlow : 48 ≤ c.toNat := hdigit.1
    have hhigh : c.toNat ≤ 57 := hdigit.2
    omega
  · have hlow' : 97 ≤ c.toNat := hlow
    have hhigh' : c.toNat ≤ 102 := hhigh
    omega

omit [PythonLibrary] [UnicodeLibrary] [TimestampLibrary] [LawfulTextLibrary] in
theorem hexPattern_graphic {tag s : String} (htag : Graphic tag) (h : hexPattern tag s = true) :
    Graphic s ∧ s ≠ "" := by
  simp only [hexPattern, Bool.and_eq_true, decide_eq_true_eq, List.isPrefixOf_iff_prefix,
    List.all_eq_true, Bool.or_eq_true] at h
  obtain ⟨⟨⟨rest, hrest⟩, hlength⟩, hdigits⟩ := h
  rw [← hrest, List.drop_left] at hlength hdigits
  refine ⟨?_, ?_⟩
  · intro c hc
    rw [← hrest, List.mem_append] at hc
    rcases hc with hc | hc
    · exact htag c hc
    · exact hexDigit_graphic (hdigits c hc)
  · rintro rfl
    rw [String.toList_empty, List.append_eq_nil_iff] at hrest
    rw [hrest.2] at hlength
    cases hlength

omit [PythonLibrary] [UnicodeLibrary] [TimestampLibrary] [LawfulTextLibrary] in
/-- An identity of a lowercase word and a digest is an identity. -/
theorem idPattern_append {tag hex : String} (htag : idPattern tag = true)
    (hlength : tag.toList.length ≤ 64) (h : hexPattern "" hex = true) :
    idPattern (tag ++ hex) = true := by
  simp only [hexPattern, String.toList_empty, List.length_nil, List.drop_zero, Bool.and_eq_true,
    decide_eq_true_eq, List.all_eq_true, Bool.or_eq_true] at h
  obtain ⟨⟨-, hhex⟩, hdigits⟩ := h
  unfold idPattern at htag ⊢
  rw [String.toList_append]
  cases hlist : tag.toList with
  | nil => simp [hlist] at htag
  | cons c rest =>
      rw [hlist] at htag hlength
      simp only [List.cons_append, Bool.and_eq_true, decide_eq_true_eq, List.all_eq_true,
        List.length_append] at htag ⊢
      simp only [List.length_cons] at hlength
      refine ⟨⟨htag.1.1, by omega⟩, ?_⟩
      intro d hd
      rcases List.mem_append.mp hd with hd | hd
      · exact htag.2 d hd
      · simp only [idCharacter, Bool.or_eq_true, Bool.and_eq_true, decide_eq_true_eq]
        rcases hdigits d hd with hdigit | ⟨hlow, hhigh⟩
        · exact .inl (.inr hdigit)
        · exact .inl (.inl ⟨hlow, hhigh.trans (by decide)⟩)

variable [ZonedTimeLibrary] [LawfulZonedTimeLibrary]

/-- A text that `_utc_timestamp` writes for an instant. -/
structure WrittenTime (s : String) (t : Instant) : Prop where
  settled : Settled s
  written : s = PythonLibrary.isoformat t
  parse : ZonedTimeLibrary.parse s = some ⟨t, 0⟩

theorem utcTimestamp_written {value : Value} {s : String} {t : Instant}
    (h : utcTimestamp value = .ok (s, t)) : WrittenTime s t := by
  simp only [utcTimestamp, bind_eq_ok, raiseIf_eq_ok, orRaise_eq_ok, pure_eq_ok, not_not,
    Prod.mk.injEq] at h
  obtain ⟨normalized, -, parsed, hparsed, -, -, rfl, rfl⟩ := h
  obtain ⟨hgraphic, hne, hagain⟩ := LawfulZonedTimeLibrary.isoformat hparsed
  exact ⟨hgraphic.settled hne, rfl, hagain⟩

omit [TimestampLibrary] [LawfulTextLibrary] [LawfulZonedTimeLibrary] in
theorem WrittenTime.utcTimestamp {s : String} {t : Instant} (h : WrittenTime s t) :
    utcTimestamp (.str s) = .ok (s, t) := by
  simp only [AttestationClaims.utcTimestamp, bind_eq_ok, raiseIf_eq_ok, orRaise_eq_ok,
    pure_eq_ok, not_not]
  exact ⟨s, h.settled.text _, _, h.parse, (), rfl, by rw [← h.written]⟩

/-- A settled text that matches a pattern. -/
structure Matching (pattern : String → Bool) (s : String) : Prop where
  settled : Settled s
  pattern : pattern s = true

omit [LawfulZonedTimeLibrary] [ZonedTimeLibrary] in
theorem patternText_matching {value : Value} {field s : String} {pattern : String → Bool}
    (h : patternText value field pattern = .ok s) : Matching pattern s := by
  refine ⟨(patternText_again h).1, ?_⟩
  simp only [patternText, bind_eq_ok, raiseIf_eq_ok, pure_eq_ok] at h
  obtain ⟨_, -, _, hpattern, rfl⟩ := h
  simpa using hpattern

omit [TimestampLibrary] [LawfulTextLibrary] [LawfulZonedTimeLibrary] [ZonedTimeLibrary] in
theorem Matching.patternText {pattern : String → Bool} {s : String} (h : Matching pattern s)
    (field : String) : patternText (.str s) field pattern = .ok s := by
  simp only [AuthorityBindings.patternText, bind_eq_ok, raiseIf_eq_ok, pure_eq_ok]
  exact ⟨s, h.settled.text field, (), by simp [h.pattern], rfl⟩

/-- What the constructor asks of the fields, but for the identity it derives. -/
structure ClaimsFields.Valid (f : ClaimsFields) : Prop where
  version : Matching idPattern f.attestationVersion
  issuer : Matching idPattern f.issuerId
  key : Matching idPattern f.keyId
  algorithm : Matching idPattern f.signatureAlgorithm
  credentialClass : Matching idPattern f.credentialClass
  credential : Matching idPattern f.credentialInstanceId
  subject : Settled f.githubSubjectIdentity
  repository : Settled f.repositoryIdentity
  granted : ∀ item ∈ f.grantedCapabilities, Settled item
  distinct : f.grantedCapabilities.Nodup
  sorted : f.grantedCapabilities.insertionSort (· ≤ ·) = f.grantedCapabilities
  capable : ∀ item ∈ f.grantedCapabilities, capabilityPattern item = true
  driver : Settled f.driverIdentity
  authority : Matching (hexPattern "sha256:") f.remoteAuthority
  preview : Matching idPattern f.previewId
  revision : 1 ≤ f.revision
  operations : Matching (hexPattern "sha256:") f.operationSetDigest
  snapshot : Matching (hexPattern "sha256:") f.remoteSnapshotDigest
  evidence : Matching (hexPattern "sha256:") f.evidenceDigest
  lasting : ∃ issued expires : Instant, WrittenTime f.issuedAt issued ∧
    WrittenTime f.expiresAt expires ∧ issued < expires
  nonce : Matching idPattern f.nonce
  source : Matching (hexPattern "sha256:") f.sourceVerificationDigest
  extension : f.attestationVersion = "1" ∧ f.challengeDigest = "" ∧
      f.credentialPrincipalIdentity = "" ∨
    f.attestationVersion = "2" ∧ Matching (hexPattern "sha256:") f.challengeDigest ∧
      Settled f.credentialPrincipalIdentity

/-- What the constructor makes sure of. -/
structure ClaimsFields.Sound (f : ClaimsFields) : Prop extends f.Valid where
  attestation : Matching idPattern f.attestationId
  derived : f.derivedAttestationId = .ok f.attestationId

/-- Arguments that name the fields as they are; times may be written otherwise. -/
structure ReadsAs (raw : Dict) (f : ClaimsFields) : Prop where
  version : raw.get "attestation_version" = .str f.attestationVersion
  attestation : raw.get "attestation_id" = .str f.attestationId
  issuer : raw.get "issuer_id" = .str f.issuerId
  key : raw.get "key_id" = .str f.keyId
  algorithm : raw.get "signature_algorithm" = .str f.signatureAlgorithm
  credentialClass : raw.get "credential_class" = .str f.credentialClass
  credential : raw.get "credential_instance_id" = .str f.credentialInstanceId
  subject : raw.get "github_subject_identity" = .str f.githubSubjectIdentity
  repository : raw.get "repository_identity" = .str f.repositoryIdentity
  granted : (raw.get "granted_capabilities").sequence? = some (f.grantedCapabilities.map .str)
  driver : raw.get "driver_identity" = .str f.driverIdentity
  authority : raw.get "remote_authority" = .str f.remoteAuthority
  preview : raw.get "preview_id" = .str f.previewId
  revision : raw.get "revision" = .int f.revision
  operations : raw.get "operation_set_digest" = .str f.operationSetDigest
  snapshot : raw.get "remote_snapshot_digest" = .str f.remoteSnapshotDigest
  evidence : raw.get "evidence_digest" = .str f.evidenceDigest
  issued : utcTimestamp (raw.get "issued_at") = utcTimestamp (.str f.issuedAt)
  expires : utcTimestamp (raw.get "expires_at") = utcTimestamp (.str f.expiresAt)
  nonce : raw.get "nonce" = .str f.nonce
  source : raw.get "source_verification_digest" = .str f.sourceVerificationDigest
  extended : f.attestationVersion = "2" → raw.get "challenge_digest" = .str f.challengeDigest ∧
    raw.get "credential_principal_identity" = .str f.credentialPrincipalIdentity
  bare : f.attestationVersion ≠ "2" → raw.get "challenge_digest" ∈ [.null, .str ""] ∧
    raw.get "credential_principal_identity" ∈ [.null, .str ""]

omit [LawfulZonedTimeLibrary] [ZonedTimeLibrary] in
theorem extensionFields_sound {version : String} {raw : Dict} {extension : String × String}
    (h : extensionFields version raw = .ok extension) :
    version = "1" ∧ extension.1 = "" ∧ extension.2 = "" ∨
      version = "2" ∧ Matching (hexPattern "sha256:") extension.1 ∧ Settled extension.2 := by
  unfold extensionFields at h
  split_ifs at h with hv2 hv1 hforbidden
  · simp only [bind_eq_ok, pure_eq_ok] at h
    obtain ⟨challenge, hchallenge, principal, hprincipal, rfl⟩ := h
    exact .inr ⟨hv2, patternText_matching hchallenge, text_settled hprincipal⟩
  · cases h
    exact .inl ⟨not_not.mp hv1, rfl, rfl⟩

omit [TimestampLibrary] [LawfulTextLibrary] [LawfulZonedTimeLibrary] in
theorem ReadsAs.extensionFields {raw : Dict} {f : ClaimsFields} (h : ReadsAs raw f)
    (hf : f.Valid) : extensionFields f.attestationVersion raw =
      .ok (f.challengeDigest, f.credentialPrincipalIdentity) := by
  unfold AttestationClaims.extensionFields
  rcases hf.extension with ⟨hversion, hchallenge, hprincipal⟩ | ⟨hversion, hchallenge, hprincipal⟩
  · obtain ⟨hfirst, hsecond⟩ := h.bare (by rw [hversion]; decide)
    rw [if_neg (by rw [hversion]; decide), if_neg (not_not.mpr hversion),
      if_neg (by simp only [not_or, not_not]; exact ⟨hfirst, hsecond⟩), hchallenge, hprincipal]
  · obtain ⟨hfirst, hsecond⟩ := h.extended hversion
    rw [if_pos hversion, hfirst, hsecond]
    simp only [bind_eq_ok, pure_eq_ok]
    exact ⟨_, hchallenge.patternText _, _, hprincipal.text _, rfl⟩

variable [LawfulDigestLibrary]

omit [LawfulZonedTimeLibrary] [ZonedTimeLibrary] in
theorem derivedAttestationId_matching {f : ClaimsFields} {id : String}
    (h : f.derivedAttestationId = .ok id) : Matching idPattern id := by
  simp only [ClaimsFields.derivedAttestationId, bind_eq_ok, pure_eq_ok] at h
  obtain ⟨material, -, rfl⟩ := h
  have hhex := LawfulDigestLibrary.hexdigest material
  obtain ⟨hgraphic, hne⟩ := hexPattern_graphic (by decide : Graphic "attestation-")
    (hexPattern_append hhex)
  exact ⟨hgraphic.settled hne, idPattern_append (by decide) (by decide) hhex⟩

theorem postInit_sound {raw : Dict} {f : ClaimsFields} (h : postInit raw = .ok f) : f.Sound := by
  simp only [postInit, bind_eq_ok, raiseIf_eq_ok, orRaise_eq_ok, pure_eq_ok] at h
  obtain ⟨version, hversion, issuer, hissuer, key, hkey, algorithm, halgorithm, credentialClass,
    hclass, credential, hcredential, preview, hpreview, nonce, hnonce, subject, hsubject,
    repository, hrepository, driver, hdriver, claimed, -, revision, hrevision, granted, hgranted,
    ⟨issued, issuedAt⟩, hissued, ⟨expires, expiresAt⟩, hexpires, _, hlasting, authority,
    hauthority, operations, hoperations, snapshot, hsnapshot, evidence, hevidence, source,
    hsource, extension, hextension, expected, hexpected, _, -, rfl⟩ := h
  obtain ⟨hsettled, hdistinct, hsorted, hcapable⟩ := capabilities_sound hgranted
  exact
    { version := patternText_matching hversion
      attestation := derivedAttestationId_matching hexpected
      issuer := patternText_matching hissuer
      key := patternText_matching hkey
      algorithm := patternText_matching halgorithm
      credentialClass := patternText_matching hclass
      credential := patternText_matching hcredential
      subject := text_settled hsubject
      repository := text_settled hrepository
      granted := hsettled
      distinct := hdistinct
      sorted := hsorted
      capable := hcapable
      driver := text_settled hdriver
      authority := patternText_matching hauthority
      preview := patternText_matching hpreview
      revision := by
        unfold Value.positive? at hrevision
        split at hrevision
        · split_ifs at hrevision with hpositive
          cases hrevision
          exact hpositive
        · cases hrevision
      operations := patternText_matching hoperations
      snapshot := patternText_matching hsnapshot
      evidence := patternText_matching hevidence
      lasting := ⟨issuedAt, expiresAt, utcTimestamp_written hissued,
        utcTimestamp_written hexpires, not_le.mp hlasting⟩
      nonce := patternText_matching hnonce
      source := patternText_matching hsource
      extension := extensionFields_sound hextension
      derived := hexpected }

omit [TimestampLibrary] [LawfulTextLibrary] [LawfulZonedTimeLibrary] [LawfulDigestLibrary] in
/-- The constructor keeps what it made. -/
theorem ReadsAs.postInit {raw : Dict} {f : ClaimsFields} (h : ReadsAs raw f) (hf : f.Sound) :
    postInit raw = .ok f := by
  obtain ⟨issuedAt, expiresAt, hissued, hexpires, hlasting⟩ := hf.lasting
  simp only [AttestationClaims.postInit, bind_eq_ok, raiseIf_eq_ok, orRaise_eq_ok, pure_eq_ok,
    h.version, h.attestation, h.issuer, h.key, h.algorithm, h.credentialClass, h.credential,
    h.subject, h.repository, h.driver, h.authority, h.preview, h.revision, h.operations,
    h.snapshot, h.evidence, h.issued, h.expires, h.nonce, h.source]
  have hclaimed : claimedId (.str f.attestationId) = .ok f.attestationId := by
    rw [claimedId, if_neg (by simpa using hf.attestation.settled.nonEmpty)]
    exact hf.attestation.patternText _
  exact ⟨_, hf.version.patternText _, _, hf.issuer.patternText _, _, hf.key.patternText _, _,
    hf.algorithm.patternText _, _, hf.credentialClass.patternText _, _,
    hf.credential.patternText _, _, hf.preview.patternText _, _, hf.nonce.patternText _, _,
    hf.subject.text _, _, hf.repository.text _, _, hf.driver.text _, _, hclaimed, _,
    if_pos hf.revision, _,
    capabilities_again h.granted hf.granted hf.distinct hf.sorted hf.capable, _, hissued.utcTimestamp, _,
    hexpires.utcTimestamp, (), not_le.mpr hlasting, _, hf.authority.patternText _, _,
    hf.operations.patternText _, _, hf.snapshot.patternText _, _, hf.evidence.patternText _, _,
    hf.source.patternText _, _, h.extensionFields hf.toValid, _, hf.derived, (),
    fun hmismatch => hmismatch.2 rfl, rfl⟩

omit [TimestampLibrary] [LawfulTextLibrary] [LawfulZonedTimeLibrary] [LawfulDigestLibrary] in
theorem ClaimsFields.raw_reads (f : ClaimsFields) : ReadsAs f.raw f := by
  by_cases hversion : f.attestationVersion = "2"
  · constructor <;>
      simp [ClaimsFields.raw, ClaimsFields.baseRaw, ClaimsFields.extension, hversion, Dict.get,
        List.lookup_cons, Value.sequence?]
  · constructor <;>
      simp [ClaimsFields.raw, ClaimsFields.baseRaw, ClaimsFields.extension, hversion, Dict.get,
        List.lookup_cons, Value.sequence?]

omit [TimestampLibrary] [LawfulTextLibrary] [LawfulZonedTimeLibrary] [LawfulDigestLibrary] in
theorem CredentialCapabilityAttestationClaims.make_eq_ok {raw : Dict}
    {claims : CredentialCapabilityAttestationClaims} :
    CredentialCapabilityAttestationClaims.make raw = .ok claims ↔
      AttestationClaims.postInit raw = .ok claims.toClaimsFields := by
  obtain ⟨fields, hmade⟩ := claims
  unfold CredentialCapabilityAttestationClaims.make
  split
  · rename_i fields' hfields
    simp [hfields]
  · rename_i e herror
    simp [herror]

theorem CredentialCapabilityAttestationClaims.sound
    (claims : CredentialCapabilityAttestationClaims) : claims.toClaimsFields.Sound := by
  obtain ⟨raw, h⟩ := claims.made
  exact postInit_sound h

/-- Claims are made again from arguments that name their fields. -/
theorem CredentialCapabilityAttestationClaims.make_again {raw : Dict}
    {claims : CredentialCapabilityAttestationClaims} (h : ReadsAs raw claims.toClaimsFields) :
    CredentialCapabilityAttestationClaims.make raw = .ok claims :=
  CredentialCapabilityAttestationClaims.make_eq_ok.mpr (h.postInit claims.sound)

omit [TimestampLibrary] [LawfulTextLibrary] [LawfulZonedTimeLibrary] [LawfulDigestLibrary] in
theorem SignedCredentialCapabilityAttestation.make_again
    (envelope : SignedCredentialCapabilityAttestation) :
    SignedCredentialCapabilityAttestation.make envelope.claims (.str envelope.proof) =
      .ok envelope := by
  obtain ⟨⟨claims, proof⟩, raw, hmade⟩ := envelope
  have hagain : signedPostInit claims (.str proof) = .ok { claims, proof } := by
    simp only [signedPostInit, bind_eq_ok, pure_eq_ok] at hmade ⊢
    obtain ⟨proof', hproof, hfields⟩ := hmade
    obtain rfl : proof' = proof := congrArg SignedFields.proof hfields
    exact ⟨proof', (proofText_again hproof).2.2, rfl⟩
  unfold SignedCredentialCapabilityAttestation.make
  split
  · rename_i fields hfields
    obtain rfl := Except.ok.inj (hfields.symm.trans hagain)
    rfl
  · rename_i e herror
    simp only at herror
    rw [hagain] at herror
    cases herror

/-- An envelope is read as itself. -/
theorem parse_signed (envelope : SignedCredentialCapabilityAttestation) :
    parseUntrustedSignedAttestation (.signed envelope) = .ok envelope := by
  simp only [parseUntrustedSignedAttestation, bind_eq_ok]
  exact ⟨envelope.claims,
    CredentialCapabilityAttestationClaims.make_again envelope.claims.raw_reads,
    envelope.make_again⟩

/-! ## The signed payload -/

omit [TimestampLibrary] [ZonedTimeLibrary] [LawfulZonedTimeLibrary] [LawfulDigestLibrary]
  [LawfulTextLibrary] in
/-- A mapping of graphic keys and normal values is only put in order. -/
theorem normalize_entries [TimestampLibrary] [LawfulTextLibrary] {entries : Dict}
    (hkeys : ∀ key ∈ Dict.keys entries, Graphic key) (hdistinct : (Dict.keys entries).Nodup)
    (hvalues : ∀ e ∈ entries, CanonicalValues.normalize e.2 = .ok e.2) :
    CanonicalValues.normalize (.dict entries) = .ok (.dict (sortEntries entries)) := by
  have hsame : List.Forall₂ (fun e e' : String × Value =>
      e'.1 = UnicodeLibrary.nfc e.1 ∧ CanonicalValues.normalize e.2 = .ok e'.2) entries entries :=
    List.forall₂_same.mpr fun e he =>
      ⟨(LawfulTextLibrary.graphic (hkeys e.1 (List.mem_map_of_mem he))).1.symm, hvalues e he⟩
  simp only [CanonicalValues.normalize, bind_eq_ok, normalizeEntries_eq_ok, raiseIf_eq_ok, pure_eq_ok, not_not]
  exact ⟨entries, hsame, (), hdistinct, rfl⟩

omit [PythonLibrary] [UnicodeLibrary] [TimestampLibrary] [ZonedTimeLibrary]
  [LawfulZonedTimeLibrary] [LawfulDigestLibrary] [LawfulTextLibrary] in
theorem ClaimsFields.claimsEntries_keys (f : ClaimsFields) :
    (Dict.keys f.claimsEntries).Nodup ∧ ∀ key ∈ Dict.keys f.claimsEntries, Graphic key := by
  by_cases hversion : f.attestationVersion = "2"
  · simp only [Dict.keys, claimsEntries, identityPayload, extension, hversion, if_true,
      List.map_append, List.map_cons, List.map_nil]
    decide
  · simp only [Dict.keys, claimsEntries, identityPayload, extension, hversion, if_false,
      List.map_append, List.map_cons, List.map_nil]
    decide

omit [PythonLibrary] [UnicodeLibrary] [TimestampLibrary] [ZonedTimeLibrary]
  [LawfulZonedTimeLibrary] [LawfulDigestLibrary] [LawfulTextLibrary] in
theorem ClaimsFields.identityPayload_keys (f : ClaimsFields) :
    (Dict.keys f.identityPayload).Nodup ∧ ∀ key ∈ Dict.keys f.identityPayload, Graphic key := by
  obtain ⟨hdistinct, hgraphic⟩ := f.claimsEntries_keys
  rw [Dict.keys, ClaimsFields.claimsEntries, List.map_append] at hdistinct hgraphic
  exact ⟨hdistinct.of_append_left, fun key hkey => hgraphic key (List.mem_append_left _ hkey)⟩

omit [TimestampLibrary] [LawfulTextLibrary] [LawfulZonedTimeLibrary] [LawfulDigestLibrary] in
theorem ClaimsFields.Valid.normalize_identity {f : ClaimsFields} (h : f.Valid) :
    ∀ e ∈ f.identityPayload, CanonicalValues.normalize e.2 = .ok e.2 := by
  obtain ⟨issued, expires, hissued, hexpires, -⟩ := h.lasting
  have hextension : ∀ e ∈ f.extension, CanonicalValues.normalize e.2 = .ok e.2 := by
    unfold ClaimsFields.extension
    split_ifs with hversion
    · rcases h.extension with ⟨hone, -⟩ | ⟨-, hchallenge, hprincipal⟩
      · rw [hversion] at hone
        exact absurd hone (by decide)
      · simp only [List.forall_mem_cons, List.not_mem_nil, false_implies, implies_true, and_true]
        exact ⟨normalize_text hchallenge.settled, normalize_text hprincipal⟩
    · simp
  simp only [ClaimsFields.identityPayload, List.forall_mem_append, List.forall_mem_cons,
    List.not_mem_nil, false_implies, implies_true, and_true]
  exact ⟨⟨normalize_text h.version.settled, normalize_text h.issuer.settled,
    normalize_text h.key.settled, normalize_text h.algorithm.settled,
    normalize_text h.credentialClass.settled, normalize_text h.credential.settled,
    normalize_text h.subject, normalize_text h.repository, normalize_texts h.granted,
    normalize_text h.driver, normalize_text h.authority.settled, normalize_text h.preview.settled,
    rfl, normalize_text h.operations.settled, normalize_text h.snapshot.settled,
    normalize_text h.evidence.settled, normalize_text hissued.settled,
    normalize_text hexpires.settled, normalize_text h.nonce.settled,
    normalize_text h.source.settled⟩, hextension⟩

omit [TimestampLibrary] [LawfulTextLibrary] [LawfulZonedTimeLibrary] [LawfulDigestLibrary] in
theorem ClaimsFields.Sound.normalize_claims {f : ClaimsFields} (h : f.Sound) :
    ∀ e ∈ f.claimsEntries, CanonicalValues.normalize e.2 = .ok e.2 := by
  simp only [ClaimsFields.claimsEntries, List.forall_mem_append, List.forall_mem_singleton]
  exact ⟨h.toValid.normalize_identity, normalize_text h.attestation.settled⟩

/-- The payload with its keys in order. -/
def ClaimsFields.canonicalPayload (f : ClaimsFields) : Dict :=
  sortEntries [("domain", .str f.domain), ("claims", .dict (sortEntries f.claimsEntries))]

end

section
variable [PythonLibrary] [UnicodeLibrary] [TimestampLibrary] [LawfulTextLibrary]
  [ZonedTimeLibrary] [LawfulZonedTimeLibrary] [LawfulDigestLibrary]

omit [ZonedTimeLibrary] [LawfulZonedTimeLibrary] [LawfulDigestLibrary] in
theorem ClaimsFields.domain_settled (f : ClaimsFields) : Settled f.domain := by
  unfold ClaimsFields.domain
  split_ifs
  · exact (by decide : Graphic attestationV2Domain).settled (by decide)
  · exact (by decide : Graphic attestationDomain).settled (by decide)

omit [ZonedTimeLibrary] [LawfulZonedTimeLibrary] [LawfulDigestLibrary] in
/-- A payload of the claims' domain is only put in order. -/
theorem ClaimsFields.normalize_domain (f : ClaimsFields) {entries : Dict}
    (hkeys : (Dict.keys entries).Nodup ∧ ∀ key ∈ Dict.keys entries, Graphic key)
    (hvalues : ∀ e ∈ entries, CanonicalValues.normalize e.2 = .ok e.2) :
    CanonicalValues.normalize (.dict [("domain", .str f.domain), ("claims", .dict entries)]) =
      .ok (.dict (sortEntries [("domain", .str f.domain),
        ("claims", .dict (sortEntries entries))])) := by
  have hclaims := normalize_entries hkeys.2 hkeys.1 hvalues
  have hdomain := normalize_text f.domain_settled
  have hgraphic : ∀ key ∈ ["domain", "claims"], Graphic key := by decide
  have hnfc := fun key hkey => (LawfulTextLibrary.graphic (hgraphic key hkey)).1.symm
  simp only [CanonicalValues.normalize, bind_eq_ok, normalizeEntries_eq_ok, raiseIf_eq_ok,
    pure_eq_ok, not_not]
  exact ⟨[("domain", .str f.domain), ("claims", .dict (sortEntries entries))],
    .cons ⟨hnfc "domain" (by decide), hdomain⟩
      (.cons ⟨hnfc "claims" (by decide), hclaims⟩ .nil), (), by simp, rfl⟩

omit [LawfulZonedTimeLibrary] [LawfulDigestLibrary] in
theorem ClaimsFields.Sound.normalize {f : ClaimsFields} (h : f.Sound) :
    CanonicalValues.normalize f.toPayload = .ok (.dict f.canonicalPayload) :=
  f.normalize_domain f.claimsEntries_keys h.normalize_claims

theorem CredentialCapabilityAttestationClaims.signedBytes_eq
    (claims : CredentialCapabilityAttestationClaims) :
    claims.signedBytes = .ok (dumps (.dict claims.canonicalPayload)).toUTF8 := by
  simp only [ClaimsFields.signedBytes, bind_eq_ok, pure_eq_ok]
  exact ⟨_, claims.sound.normalize, rfl⟩

omit [LawfulZonedTimeLibrary] in
/-- The constructor makes claims of valid fields. -/
theorem ClaimsFields.Valid.exists_claims {f : ClaimsFields} (h : f.Valid) :
    ∃ claims : CredentialCapabilityAttestationClaims,
      claims.toClaimsFields = { f with attestationId := claims.attestationId } := by
  have hmaterial := f.normalize_domain f.identityPayload_keys h.normalize_identity
  obtain ⟨id, hid⟩ : ∃ id, f.derivedAttestationId = .ok id := by
    simp only [ClaimsFields.derivedAttestationId, bind_eq_ok, pure_eq_ok]
    exact ⟨_, _, hmaterial, rfl⟩
  have hsound : ({ f with attestationId := id } : ClaimsFields).Sound :=
    { h with
      attestation := derivedAttestationId_matching hid
      derived := hid }
  exact ⟨⟨{ f with attestationId := id }, _, (ClaimsFields.raw_reads _).postInit hsound⟩, rfl⟩

end
end DeliverySystem.AttestationClaims

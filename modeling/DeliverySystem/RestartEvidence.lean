import DeliverySystem.AttestationBoundary
import DeliverySystem.AttestationStoreContract
import DeliverySystem.CivilTimes

/-!
# What the restart validator accepts

The validator takes any objects, also ones that no constructor made: it asks for
the class of an object, for the attributes that are set on it, and then for the
shape of each. An object here is the attributes that are set on it, so every
check is made on the same values as in the source.
-/
namespace DeliverySystem.RestartEvidence
open PythonValues CanonicalValues JsonText AuthorityBindings AttestationClaims
open AttestationArtifacts AttestationRecords AttestationStoreContract AttestationBoundary
open RemoteSnapshots CivilTimes Dict
set_option autoImplicit false

/-! ## Timestamps -/

/-- `_canonical_timestamp` -/
def canonicalTimestamp (value : Value) : Bool := value.text?.any canonicalCivil

/-- `isoformat` writes the text of a civil time. -/
class LawfulCivilTimes [PythonLibrary] [ZonedTimeLibrary] : Prop where
  isoformat {s : String} {z : ZonedDatetime} (h : ZonedTimeLibrary.parse s = some z) :
    ∃ t fraction, CivilTime.Valid t ∧ PythonLibrary.isoformat z.instant = civilText t fraction
  isoformatMicroseconds {s : String} {z : ZonedDatetime} (h : ZonedTimeLibrary.parse s = some z) :
    ∃ t, CivilTime.Valid t ∧ ZonedTimeLibrary.isoformatMicroseconds z.instant = civilText t true

section
variable [PythonLibrary] [UnicodeLibrary] [ZonedTimeLibrary]

/-! ## Values -/

/-- `_valid_text` -/
def validText : Value → Bool
  | .str s =>
      s ≠ "" && PythonLibrary.strip (UnicodeLibrary.nfc s) ≠ "" &&
        s = PythonLibrary.strip (UnicodeLibrary.nfc s) && !s.toList.any isControl
  | _ => false

/-- `_valid_id` -/
def validId (value : Value) (pattern : String → Bool) : Bool := value.text?.any pattern

/-- `_valid_digest` -/
def validDigest (value : Value) : Bool := validId value (hexPattern "sha256:")

/-- `type(value) is int and value >= 1` -/
def validRevision (value : Value) : Bool := (Value.positive? value).isSome

/-- `value in {...}`, a set of texts. -/
def inSet (value : Value) (texts : List String) : Py Bool :=
  if value.hashable then .ok (value ∈ texts.map Value.str) else .error .typeError

/-- `a == b`, where a truth value is the number that it is. -/
def equal : Value → Value → Bool
  | .bool a, .int n => (if a then 1 else 0) = n
  | .int n, .bool b => n = if b then 1 else 0
  | a, b => a = b

/-- The texts among some values. -/
def textsOf (items : List Value) : List String := items.filterMap Value.text?

/-- A tuple of capabilities: not empty, valid, distinct, and in order. -/
def validCapabilities : Value → Bool
  | .tuple items =>
      items ≠ [] && items.all validText && (textsOf items).Nodup &&
        (textsOf items).insertionSort (· ≤ ·) = textsOf items
  | _ => false

mutual
/-- `_json_compatible` -/
def jsonCompatible : Value → Bool
  | .str _ | .int _ | .bool _ | .null => true
  | .list items => jsonCompatibleItems items
  | .dict entries =>
      (entries.map fun e => UnicodeLibrary.nfc e.1).Nodup && jsonCompatibleEntries entries
  | _ => false

def jsonCompatibleItems : List Value → Bool
  | [] => true
  | item :: rest => jsonCompatible item && jsonCompatibleItems rest

def jsonCompatibleEntries : List (String × Value) → Bool
  | [] => true
  | (_, value) :: rest => jsonCompatible value && jsonCompatibleEntries rest
end

/-! ## Objects -/

/-- The attributes that are set on an object. -/
abbrev Attributes := Dict

/-- An artifact object; the claims are an object of their own, where they are claims. -/
structure ArtifactObject where
  attributes : Attributes
  claimsPayload : Option (Option Attributes)

/-- An aggregate object. An attribute is not set, an object of another class, or what it
should be. -/
structure AggregateObject where
  artifact : Option (Option ArtifactObject)
  bindingReference : Option (Option Attributes)

/-- `getattr(claims, field)`; the fields with a default are attributes of the class too. -/
def claimsAttribute? (claims : Attributes) (field : String) : Option Value :=
  match claims.lookup field with
  | some value => some value
  | none =>
      if field ∈ ["challenge_digest", "credential_principal_identity"] then some (.str "") else none

/-- An attribute of claims that have it. -/
def claimsAttribute (claims : Attributes) (field : String) : Value :=
  (claimsAttribute? claims field).getD .null

/-- `hasattr` for each of these fields. -/
def hasFields (attributes : Attributes) (fields : List String) : Bool :=
  fields.all fun field => (attributes.lookup field).isSome

/-! ## Claims -/

/-- The names in `_identity_payload`. -/
def identityFields : List String :=
  ["attestation_version", "issuer_id", "key_id", "signature_algorithm", "credential_class",
    "credential_instance_id", "github_subject_identity", "repository_identity",
    "granted_capabilities", "driver_identity", "remote_authority", "preview_id", "revision",
    "operation_set_digest", "remote_snapshot_digest", "evidence_digest", "issued_at",
    "expires_at", "nonce", "source_verification_digest"]

/-- The fields of claims of this version. -/
def claimsFieldNames (claims : Attributes) : List String :=
  if claimsAttribute claims "attestation_version" = .str "2" then claimsFieldsV2
  else claimsFieldsV1

/-- One entry of `_identity_payload`, where the capabilities are a list. -/
def identityEntry (claims : Attributes) (field : String) : String × Value :=
  (field,
    if field = "granted_capabilities" then
      .list ((claimsAttribute claims field).sequence?.getD [])
    else claimsAttribute claims field)

/-- `_identity_payload` -/
def identityPayload (claims : Attributes) : Dict :=
  (identityFields ++
    if claimsAttribute claims "attestation_version" = .str "2" then
      ["challenge_digest", "credential_principal_identity"]
    else []).map (identityEntry claims)

/-- `_domain` -/
def claimsDomain (claims : Attributes) : String :=
  if claimsAttribute claims "attestation_version" = .str "2" then attestationV2Domain
  else attestationDomain

/-- `derived_attestation_id` -/
def derivedAttestationId (claims : Attributes) : Py String := do
  let material ← CanonicalValues.normalize
    (.dict [("domain", .str (claimsDomain claims)), ("claims", .dict (identityPayload claims))])
  pure ("attestation-" ++ PythonLibrary.hexdigest material)

/-- `claims_digest` -/
def claimsDigest (claims : Attributes) : Py String :=
  canonicalDigest
    (.dict [("domain", .str (claimsDomain claims)), ("claims", .dict (identityPayload claims))])

/-- The claims in `to_payload`. -/
def claimsEntries (claims : Attributes) : Dict :=
  identityPayload claims ++ [("attestation_id", claimsAttribute claims "attestation_id")]

/-- `to_payload` -/
def claimsPayload (claims : Attributes) : Dict :=
  [("domain", .str (claimsDomain claims)), ("claims", .dict (claimsEntries claims))]

/-- What `_claims_shape_is_valid` asks of the attributes. -/
def ClaimsShape (claims : Attributes) : Prop :=
  (∀ field ∈ claimsFieldsV2, (claimsAttribute? claims field).isSome = true) ∧
    (∀ field ∈ claimsFieldNames claims, field ∉ ["granted_capabilities", "revision"] →
      validText (claimsAttribute claims field) = true) ∧
    validId (claimsAttribute claims "attestation_id") (hexPattern "attestation-") = true ∧
    validRevision (claimsAttribute claims "revision") = true ∧
    validCapabilities (claimsAttribute claims "granted_capabilities") = true ∧
    (∀ field ∈ ["remote_authority", "operation_set_digest", "remote_snapshot_digest",
      "evidence_digest", "source_verification_digest"],
      validDigest (claimsAttribute claims field) = true) ∧
    canonicalTimestamp (claimsAttribute claims "issued_at") = true ∧
    canonicalTimestamp (claimsAttribute claims "expires_at") = true

instance (claims : Attributes) : Decidable (ClaimsShape claims) := by
  unfold ClaimsShape
  infer_instance

/-- `_claims_shape_is_valid` -/
def claimsShapeIsValid : Option Attributes → Py Bool
  | none => .ok false
  | some claims => do
      let version ← orRaise (claimsAttribute? claims "attestation_version") .attributeError
      let supported ← inSet version ["1", "2"]
      pure (supported && ClaimsShape claims)

/-! ## Artifacts -/

/-- The claims of an artifact, where they are claims. -/
def ArtifactObject.claims (artifact : ArtifactObject) : Attributes :=
  (artifact.claimsPayload.getD none).getD []

/-- The attributes of an artifact but for the claims. -/
def artifactAttributeNames : List String :=
  ["artifact_contract_version", "artifact_id", "workspace_identity", "attestation_id",
    "detached_proof", "claims_digest", "artifact_digest", "original_verified_at", "created_at"]

/-- `getattr(artifact, field)`, but for the claims. -/
def ArtifactObject.get (artifact : ArtifactObject) (field : String) : Value :=
  Dict.get artifact.attributes field

/-- The content that the digest of an artifact is taken over. -/
def objectContent (artifact : ArtifactObject) : Dict :=
  [("domain", .str artifactContentDomain),
    ("artifact_contract_version", artifact.get "artifact_contract_version"),
    ("workspace_identity", artifact.get "workspace_identity"),
    ("attestation_id", artifact.get "attestation_id"),
    ("claims_payload", .dict (claimsPayload artifact.claims)),
    ("detached_proof", artifact.get "detached_proof"),
    ("claims_digest", artifact.get "claims_digest"),
    ("original_verified_at", artifact.get "original_verified_at"),
    ("created_at", artifact.get "created_at")]

/-- What `_artifact_shape_is_valid` asks before it looks at the claims. -/
def ArtifactHead (artifact : ArtifactObject) : Prop :=
  hasFields artifact.attributes artifactAttributeNames = true ∧
    artifact.claimsPayload.isSome = true ∧
    artifact.get "artifact_contract_version" = .str artifactContractVersion ∧
    validId (artifact.get "artifact_id") (hexPattern "artifact-") = true ∧
    validText (artifact.get "workspace_identity") = true ∧
    validText (artifact.get "attestation_id") = true

instance (artifact : ArtifactObject) : Decidable (ArtifactHead artifact) := by
  unfold ArtifactHead
  infer_instance

/-- What it asks after the shape of the claims, but for the two digests. -/
def ArtifactTail (artifact : ArtifactObject) : Prop :=
  artifact.get "attestation_id" = claimsAttribute artifact.claims "attestation_id" ∧
    validText (artifact.get "detached_proof") = true ∧
    validDigest (artifact.get "claims_digest") = true ∧
    validDigest (artifact.get "artifact_digest") = true ∧
    canonicalTimestamp (artifact.get "original_verified_at") = true ∧
    canonicalTimestamp (artifact.get "created_at") = true

instance (artifact : ArtifactObject) : Decidable (ArtifactTail artifact) := by
  unfold ArtifactTail
  infer_instance

/-- `if not condition: return False` -/
def orFalse (condition : Prop) [Decidable condition] (rest : Py Bool) : Py Bool :=
  if condition then rest else .ok false

/-- `_artifact_shape_is_valid` -/
def artifactShapeIsValid : Option ArtifactObject → Py Bool
  | none => .ok false
  | some artifact => orFalse (ArtifactHead artifact) do
      let claimsValid ← claimsShapeIsValid (artifact.claimsPayload.getD none)
      orFalse (claimsValid = true ∧ ArtifactTail artifact) do
        let claimsDigest ← claimsDigest artifact.claims
        orFalse (artifact.get "claims_digest" = .str claimsDigest) do
          let derived ← canonicalDigest (.dict (objectContent artifact))
          pure (artifact.get "artifact_digest" = .str derived)

/-! ## References -/

/-- The names in the content of a reference. -/
def referenceContentFields : List String :=
  ["workspace_identity", "artifact_id", "artifact_digest", "binding_id", "repository_identity",
    "github_subject_identity", "driver_identity", "remote_authority", "preview_id", "revision",
    "plan_digest", "sealed_preview_digest", "operation_set_digest", "remote_snapshot_digest",
    "audit_id", "audit_digest", "evidence_id", "evidence_digest", "original_verified_at"]

/-- The fields of a reference that are digests in both versions. -/
def referenceDigestFields : List String :=
  ["artifact_digest", "remote_authority", "plan_digest", "sealed_preview_digest",
    "operation_set_digest", "remote_snapshot_digest", "audit_digest", "evidence_digest",
    "binding_reference_digest"]

/-- The fields whose text is checked, of a reference of this version. -/
def referenceTextFields (reference : Attributes) : List String :=
  (if reference.get "reference_contract_version" = .str referenceV2ContractVersion then
      referenceFieldNames
    else legacyReferenceFields).filter fun field =>
    field ∉ ["revision", "reference_contract_version", "reference_id", "binding_id",
      "original_verified_at"] ++ referenceDigestFields

/-- What `_reference_shape_is_valid` asks of the attributes, but for the digest. -/
def ReferenceShape (reference : Attributes) : Prop :=
  validId (reference.get "reference_id") (hexPattern "binding-reference-") = true ∧
    validId (reference.get "binding_id") (hexPattern "binding-") = true ∧
    (∀ field ∈ referenceTextFields reference, validText (reference.get field) = true) ∧
    (if reference.get "reference_contract_version" = .str referenceContractVersion then
      Value.truthy (reference.get "credential_principal_identity") = false ∧
        Value.truthy (reference.get "challenge_digest") = false
    else validDigest (reference.get "challenge_digest") = true) ∧
    validRevision (reference.get "revision") = true ∧
    (∀ field ∈ referenceDigestFields, validDigest (reference.get field) = true) ∧
    canonicalTimestamp (reference.get "original_verified_at") = true

instance (reference : Attributes) : Decidable (ReferenceShape reference) := by
  unfold ReferenceShape
  infer_instance

/-- The content that the digest of a reference is taken over. -/
def referenceContent (reference : Attributes) : Dict :=
  [("domain", .str referenceContentDomain),
    ("reference_contract_version", reference.get "reference_contract_version")] ++
    (referenceContentFields ++
      if reference.get "reference_contract_version" = .str referenceV2ContractVersion then
        ["credential_principal_identity", "challenge_digest"]
      else []).map fun field => (field, reference.get field)

/-- `_reference_shape_is_valid` -/
def referenceShapeIsValid : Option Attributes → Py Bool
  | none => .ok false
  | some reference => orFalse (hasFields reference referenceFieldNames = true) do
      let supported ← inSet (reference.get "reference_contract_version")
        [referenceContractVersion, referenceV2ContractVersion]
      orFalse (supported = true ∧ ReferenceShape reference) do
        let derived ← canonicalDigest (.dict (referenceContent reference))
        pure (reference.get "binding_reference_digest" = .str derived)

/-- `to_payload`, which makes the reference again. -/
def referencePayload (reference : Attributes) : Py Dict := do
  let normalized ← AttestationBindingReference.make (ReferenceArguments.named reference)
  pure normalized.projection

/-! ## Requests -/

/-- `_request_shape_is_valid`, of a request whose attributes have their types. -/
def RequestShape (request : RequestFields) : Prop :=
  (∀ s ∈ [request.repositoryIdentity, request.githubSubjectIdentity, request.driverIdentity,
    request.previewId], validText (.str s) = true) ∧
    validDigest (.str request.remoteAuthority) = true ∧ 1 ≤ request.revision ∧
    request.requiredCapabilities ≠ [] ∧ request.requiredCapabilities.Nodup ∧
    request.requiredCapabilities.insertionSort (· ≤ ·) = request.requiredCapabilities ∧
    (∀ capability ∈ request.requiredCapabilities, validText (.str capability) = true) ∧
    ∀ s ∈ [request.operationSetDigest, request.remoteSnapshotDigest, request.evidenceDigest],
      validDigest (.str s) = true

instance (request : RequestFields) : Decidable (RequestShape request) := by
  unfold RequestShape
  infer_instance

/-! ## The aggregate -/

/-- The nine fields that a reference and a request have in common with the claims. -/
def crosswalkFields : List String :=
  ["repository_identity", "github_subject_identity", "driver_identity", "remote_authority",
    "preview_id", "revision", "operation_set_digest", "remote_snapshot_digest", "evidence_digest"]

/-- The request names the claims and requires granted capabilities only. -/
def RequestMatches (request : RequestFields) (claims : Attributes) : Prop :=
  [Value.str request.repositoryIdentity, .str request.githubSubjectIdentity,
    .str request.driverIdentity, .str request.remoteAuthority, .str request.previewId,
    .int request.revision, .str request.operationSetDigest, .str request.remoteSnapshotDigest,
    .str request.evidenceDigest] = crosswalkFields.map (claimsAttribute claims) ∧
    ∀ capability ∈ request.requiredCapabilities, Value.str capability ∈
      (claimsAttribute claims "granted_capabilities").sequence?.getD []

instance (request : RequestFields) (claims : Attributes) :
    Decidable (RequestMatches request claims) := by
  unfold RequestMatches
  infer_instance

/-- The artifact in the context of a revalidation. -/
def contextArtifact (artifact : ArtifactObject) : Dict :=
  [("artifact_contract_version", artifact.get "artifact_contract_version"),
    ("artifact_digest", artifact.get "artifact_digest"),
    ("artifact_id", artifact.get "artifact_id"),
    ("attestation_id", artifact.get "attestation_id"),
    ("claims_digest", artifact.get "claims_digest"),
    ("claims_payload", .dict (claimsPayload artifact.claims)),
    ("created_at", artifact.get "created_at"),
    ("original_verified_at", artifact.get "original_verified_at"),
    ("workspace_identity", artifact.get "workspace_identity")]

def contextDomain : String := "delivery-system:attestation-revalidation-context:v1"

def contextRootFields : List String :=
  ["domain", "payload_version", "workspace_identity", "artifact", "binding_reference"]

def contextArtifactFields : List String :=
  ["artifact_contract_version", "artifact_digest", "artifact_id", "attestation_id",
    "claims_digest", "claims_payload", "created_at", "original_verified_at",
    "workspace_identity"]

/-- `_build_restart_revalidation_context_payload` -/
def contextPayload (artifact : ArtifactObject) (reference : Attributes) : Py Dict := do
  let bindingReference ← referencePayload reference
  pure [("domain", .str contextDomain), ("payload_version", .str "1"),
    ("workspace_identity", artifact.get "workspace_identity"),
    ("artifact", .dict (contextArtifact artifact)), ("binding_reference", .dict bindingReference)]

/-- `_payload_keysets_are_valid` -/
def payloadKeysetsAreValid (artifact : ArtifactObject) (reference : Attributes) : Py Bool := do
  let context ← contextPayload artifact reference
  pure (Dict.hasExactly (claimsPayload artifact.claims) ["domain", "claims"] &&
    Dict.hasExactly (claimsEntries artifact.claims) (claimsFieldNames artifact.claims) &&
    Dict.hasExactly (contextArtifact artifact) contextArtifactFields &&
    Dict.hasExactly context contextRootFields && jsonCompatible (.dict context))

def contextInvalid : Raised := .valueError "attestation_restart_context_invalid"

def identityMismatch : Raised := .valueError "attestation_restart_identity_mismatch"

/-- `_validate_restart_revalidation_context_aggregate` -/
def validateRestartRevalidationContextAggregate (aggregate : Option AggregateObject)
    (workspaceIdentity artifactId : Value) (expectedReference : Option Attributes)
    (expectedRequest : Option RequestFields) : Py (ArtifactObject × Attributes) := do
  let aggregate ← orRaise aggregate contextInvalid
  let artifact ← orRaise aggregate.artifact contextInvalid
  let bindingReference ← orRaise aggregate.bindingReference contextInvalid
  let artifactValid ← artifactShapeIsValid artifact
  require (artifactValid = true) contextInvalid
  let referenceValid ← referenceShapeIsValid bindingReference
  require (referenceValid = true) contextInvalid
  let artifact ← orRaise artifact contextInvalid
  let reference ← orRaise bindingReference contextInvalid
  let claims := artifact.claims
  require (workspaceIdentity.text?.isSome ∧ artifactId.text?.isSome) contextInvalid
  require (artifact.get "workspace_identity" = workspaceIdentity ∧
    artifact.get "artifact_id" = artifactId) contextInvalid
  let request ← orRaise expectedRequest identityMismatch
  require (RequestShape request) identityMismatch
  let expectedValid ← referenceShapeIsValid expectedReference
  require (expectedValid = true) identityMismatch
  let expected ← orRaise expectedReference identityMismatch
  require (∀ field ∈ referenceFieldNames,
    equal (expected.get field) (reference.get field) = true) identityMismatch
  let derived ← derivedAttestationId claims
  require (Value.str derived = claimsAttribute claims "attestation_id") contextInvalid
  let digest ← claimsDigest claims
  require (artifact.get "claims_digest" = .str digest) contextInvalid
  require (∀ field ∈ crosswalkFields, reference.get field = claimsAttribute claims field)
    contextInvalid
  require (reference.get "workspace_identity" = artifact.get "workspace_identity" ∧
    reference.get "artifact_id" = artifact.get "artifact_id") contextInvalid
  require (reference.get "artifact_digest" = artifact.get "artifact_digest") contextInvalid
  require (reference.get "original_verified_at" = artifact.get "original_verified_at")
    contextInvalid
  require (claimsAttribute claims "attestation_id" = artifact.get "attestation_id")
    contextInvalid
  require (RequestMatches request claims) identityMismatch
  let keysets ← payloadKeysetsAreValid artifact reference
  require (keysets = true) contextInvalid
  pure (artifact, reference)

/-! ## Records as objects -/

/-- The attributes of claims that their constructor made. -/
def claimsAttributes (f : ClaimsFields) : Attributes :=
  f.baseRaw ++ [("challenge_digest", .str f.challengeDigest),
    ("credential_principal_identity", .str f.credentialPrincipalIdentity)]

/-- The attributes of an artifact that its constructor made, but for the claims. -/
def artifactAttributes (a : ArtifactFields) : Attributes :=
  [("artifact_contract_version", .str artifactContractVersion), ("artifact_id", .str a.artifactId),
    ("workspace_identity", .str a.workspaceIdentity), ("attestation_id", .str a.attestationId),
    ("detached_proof", .str a.detachedProof), ("claims_digest", .str a.claimsDigest),
    ("artifact_digest", .str a.artifactDigest),
    ("original_verified_at", .str a.originalVerifiedAt), ("created_at", .str a.createdAt)]

/-- The attributes of a reference that its constructor made. -/
def referenceAttributes (r : ReferenceFields) : Attributes :=
  [("reference_contract_version", .str r.referenceContractVersion),
    ("reference_id", .str r.referenceId), ("workspace_identity", .str r.workspaceIdentity),
    ("artifact_id", .str r.artifactId), ("artifact_digest", .str r.artifactDigest),
    ("binding_id", .str r.bindingId), ("repository_identity", .str r.repositoryIdentity),
    ("github_subject_identity", .str r.githubSubjectIdentity),
    ("driver_identity", .str r.driverIdentity), ("remote_authority", .str r.remoteAuthority),
    ("preview_id", .str r.previewId), ("revision", .int r.revision),
    ("plan_digest", .str r.planDigest), ("sealed_preview_digest", .str r.sealedPreviewDigest),
    ("operation_set_digest", .str r.operationSetDigest),
    ("remote_snapshot_digest", .str r.remoteSnapshotDigest), ("audit_id", .str r.auditId),
    ("audit_digest", .str r.auditDigest), ("evidence_id", .str r.evidenceId),
    ("evidence_digest", .str r.evidenceDigest),
    ("original_verified_at", .str r.originalVerifiedAt),
    ("binding_reference_digest", .str r.bindingReferenceDigest),
    ("credential_principal_identity", .str r.credentialPrincipalIdentity),
    ("challenge_digest", .str r.challengeDigest)]

def artifactObject (a : ArtifactFields) : ArtifactObject where
  attributes := artifactAttributes a
  claimsPayload := some (some (claimsAttributes a.claimsPayload.toClaimsFields))

/-- The aggregate as the validator reads it. -/
def aggregateObject (aggregate : AttestationArtifactAggregate) : AggregateObject where
  artifact := some (some (artifactObject aggregate.artifact.toArtifactFields))
  bindingReference := some (some (referenceAttributes aggregate.bindingReference.toReferenceFields))

end
end DeliverySystem.RestartEvidence

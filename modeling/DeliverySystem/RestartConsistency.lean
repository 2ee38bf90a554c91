import DeliverySystem.AttestationStores
import DeliverySystem.RestartAcceptance

/-!
# The restart validator and the constructors

The validator checks the shapes of stored objects by itself, and the constructors
check them again when a record is made of each. What the constructors make, and
a store reads back, the validator accepts. What it accepts the constructors make
again as it stands exactly when the objects also pass the few checks that only the
constructors have.
-/
namespace DeliverySystem.RestartConsistency
open PythonValues CanonicalValues JsonText AuthorityBindings AttestationClaims
open AttestationArtifacts AttestationRecords AttestationStoreContract AttestationBoundary
open AttestationVerification RemoteSnapshots CivilTimes RestartEvidence RestartAcceptance Dict
set_option autoImplicit false

section
variable [PythonLibrary] [UnicodeLibrary] [ZonedTimeLibrary]

/-! ## Records made of objects -/

/-- `_claims_object` of any object. -/
def claimsOfObject : Option Attributes → Py CredentialCapabilityAttestationClaims
  | none => .error typeInvalid
  | some claims => do
      let fields := claimsFieldNames claims
      require (∀ field ∈ fields, (claimsAttribute? claims field).isSome = true) payloadInvalid
      match claimsAttribute claims "granted_capabilities" with
      | .tuple items =>
          claimsFields (fields.map fun field => (field, claimsAttribute claims field)) fields items
      | _ => .error typeInvalid

/-- `PersistedAttestationArtifact.from_untrusted` of any object. The claims are made before
the rest, as the constructor makes them. -/
def artifactOfObject : Option ArtifactObject → Py PersistedAttestationArtifact
  | none => .error typeInvalid
  | some artifact => do
      require (hasFields artifact.attributes artifactAttributeNames = true ∧
        artifact.claimsPayload.isSome = true) payloadInvalid
      require (artifact.get "artifact_contract_version" = .str artifactContractVersion)
        payloadInvalid
      let _ ← persistedText (artifact.get "workspace_identity")
      let claims ← claimsOfObject (artifact.claimsPayload.getD none)
      PersistedAttestationArtifact.make
        { artifactContractVersion := artifact.get "artifact_contract_version"
          artifactId := artifact.get "artifact_id"
          workspaceIdentity := artifact.get "workspace_identity"
          attestationId := artifact.get "attestation_id"
          claimsPayload := .object claims
          detachedProof := artifact.get "detached_proof"
          claimsDigest := artifact.get "claims_digest"
          artifactDigest := artifact.get "artifact_digest"
          originalVerifiedAt := artifact.get "original_verified_at"
          createdAt := artifact.get "created_at" }

/-- `AttestationBindingReference.from_untrusted` of any object. -/
def referenceOfObject : Option Attributes → Py AttestationBindingReference
  | none => .error typeInvalid
  | some reference => do
      require (hasFields reference referenceFieldNames = true) payloadInvalid
      AttestationBindingReference.make (ReferenceArguments.named reference)

/-- `validate_artifact_aggregate` of any objects. -/
def validateArtifactObjects (artifact : Option ArtifactObject) (reference : Option Attributes) :
    Py (PersistedAttestationArtifact × AttestationBindingReference) := do
  let artifact ← artifactOfObject artifact
  let reference ← referenceOfObject reference
  require (Matches artifact.toArtifactFields reference.toReferenceFields) payloadInvalid
  pure (artifact, reference)

/-- `artifact_id_for`, of the values of an object. -/
def objectArtifactId (artifact : ArtifactObject) : Py String :=
  shaId artifactIdDomain [("identity_version", .str "1"),
    ("workspace_identity", artifact.get "workspace_identity"),
    ("attestation_id", artifact.get "attestation_id")] "artifact-"

/-- The identity that is derived for a reference, of the values of an object. -/
def objectReferenceId (reference : Attributes) : Py String :=
  shaId referenceIdDomain
    [("reference_version", .str
        (if reference.get "reference_contract_version" = .str referenceV2ContractVersion then "2"
        else "1")),
      ("workspace_identity", reference.get "workspace_identity"),
      ("artifact_id", reference.get "artifact_id"), ("binding_id", reference.get "binding_id")]
    "binding-reference-"

/-- A computation gives the text of this attribute. -/
def Gives (x : Py String) (value : Value) : Prop := ∃ s, x = .ok s ∧ value = .str s

/-- The objects are an artifact and a reference as they stand, and every digest and identity is
the one that their own fields give. -/
structure Consistent (artifact : ArtifactObject) (reference : Attributes) : Prop where
  aggregate : ∃ a r, validateArtifactObjects (some artifact) (some reference) = .ok (a, r) ∧
    DescribesArtifact artifact a.toArtifactFields ∧
    DescribesReference reference r.toReferenceFields
  attestationId : Gives (derivedAttestationId artifact.claims) (artifact.get "attestation_id")
  claimsDigest : Gives (claimsDigest artifact.claims) (artifact.get "claims_digest")
  artifactDigest : Gives (canonicalDigest (.dict (objectContent artifact)))
    (artifact.get "artifact_digest")
  artifactId : Gives (objectArtifactId artifact) (artifact.get "artifact_id")
  referenceDigest : Gives (canonicalDigest (.dict (referenceContent reference)))
    (reference.get "binding_reference_digest")
  referenceId : Gives (objectReferenceId reference) (reference.get "reference_id")

/-- The claims whose form is that of an identity. -/
def claimsIdentities : List String :=
  ["attestation_version", "issuer_id", "key_id", "signature_algorithm", "credential_class",
    "credential_instance_id", "preview_id", "nonce"]

/-- The text of a value is written as a persisted time. -/
def StoredAs (value : Value) (t : Instant) : Prop := ∃ s, value = .str s ∧ StoredTime s t

/-- The text of a value is written as a time of claims. -/
def WrittenAs (value : Value) (t : Instant) : Prop := ∃ s, value = .str s ∧ WrittenTime s t

/-- What only the constructors check. -/
structure LeftToConstructors (artifact : ArtifactObject) (reference : Attributes) : Prop where
  identities : ∀ field ∈ claimsIdentities,
    validId (claimsAttribute artifact.claims field) idPattern = true
  algorithm : claimsAttribute artifact.claims "signature_algorithm" = .str "ed25519"
  capable : ∀ capability ∈
    textsOf ((claimsAttribute artifact.claims "granted_capabilities").sequence?.getD []),
      capabilityPattern capability = true
  challenge : claimsAttribute artifact.claims "attestation_version" = .str "2" →
    validDigest (claimsAttribute artifact.claims "challenge_digest") = true
  proof : validId (artifact.get "detached_proof") proofPattern = true
  times : ∃ issued original expires created : Instant,
    WrittenAs (claimsAttribute artifact.claims "issued_at") issued ∧
    StoredAs (artifact.get "original_verified_at") original ∧
    WrittenAs (claimsAttribute artifact.claims "expires_at") expires ∧
    StoredAs (artifact.get "created_at") created ∧
    issued ≤ original ∧ original < expires ∧ original ≤ created
  artifactId : Gives (objectArtifactId artifact) (artifact.get "artifact_id")
  extension : claimsAttribute artifact.claims "attestation_version" = .str "2" →
    reference.get "reference_contract_version" = .str referenceV2ContractVersion ∧
      reference.get "credential_principal_identity" =
        claimsAttribute artifact.claims "credential_principal_identity" ∧
      reference.get "challenge_digest" = claimsAttribute artifact.claims "challenge_digest"

/-! ## What was accepted -/

/-- What the validator has made sure of when it returns. -/
structure Accepted (artifact : ArtifactObject) (reference : Attributes) : Prop where
  artifactShape : artifactShapeIsValid (some artifact) = .ok true
  referenceShape : referenceShapeIsValid (some reference) = .ok true
  derived : Gives (derivedAttestationId artifact.claims)
    (claimsAttribute artifact.claims "attestation_id")
  crosswalk : ∀ field ∈ crosswalkFields,
    reference.get field = claimsAttribute artifact.claims field
  workspace : reference.get "workspace_identity" = artifact.get "workspace_identity"
  artifactId : reference.get "artifact_id" = artifact.get "artifact_id"
  artifactDigest : reference.get "artifact_digest" = artifact.get "artifact_digest"
  original : reference.get "original_verified_at" = artifact.get "original_verified_at"
  made : ∃ r, AttestationBindingReference.make (ReferenceArguments.named reference) = .ok r

theorem accepted_of_validate {aggregate : Option AggregateObject} {workspace artifactId : Value}
    {expectedReference : Option Attributes} {expectedRequest : Option RequestFields}
    {artifact : ArtifactObject} {reference : Attributes}
    (h : validateRestartRevalidationContextAggregate aggregate workspace artifactId
      expectedReference expectedRequest = .ok (artifact, reference)) :
    Accepted artifact reference := by
  simp only [validateRestartRevalidationContextAggregate, bind_eq_ok, orRaise_eq_ok,
    require_eq_ok, pure_eq_ok] at h
  obtain ⟨_, -, _, -, _, -, _, hartifact, _, rfl, _, hreference, _, rfl, found, rfl, named, rfl,
    _, -, _, -, request, -, _, -, _, -, _, -, expected, -, _, -, derived, hderived, _, hid, _, -,
    _, -, _, hcrosswalk, _, ⟨hworkspace, hartifactId⟩, _, hdigest, _, horiginal, _, -, _, -, _,
    hkeysets, _, -, hpair⟩ := h
  obtain ⟨rfl, rfl⟩ := Prod.mk.inj hpair
  simp only [payloadKeysetsAreValid, contextPayload, referencePayload, bind_eq_ok, pure_eq_ok]
    at hkeysets
  obtain ⟨_, ⟨_, ⟨r, hmade, -⟩, -⟩, -⟩ := hkeysets
  exact
    { artifactShape := hartifact
      referenceShape := hreference
      derived := ⟨derived, hderived, hid.symm⟩
      crosswalk := hcrosswalk
      workspace := hworkspace
      artifactId := hartifactId
      artifactDigest := hdigest
      original := horiginal
      made := ⟨r, hmade⟩ }

/-- A text of an object. -/
def textOf (value : Value) : String := value.text?.getD ""

/-- The fields that the attributes of a claims object hold. -/
def claimsFieldsOf (claims : Attributes) : ClaimsFields where
  attestationVersion := textOf (claimsAttribute claims "attestation_version")
  attestationId := textOf (claimsAttribute claims "attestation_id")
  issuerId := textOf (claimsAttribute claims "issuer_id")
  keyId := textOf (claimsAttribute claims "key_id")
  signatureAlgorithm := textOf (claimsAttribute claims "signature_algorithm")
  credentialClass := textOf (claimsAttribute claims "credential_class")
  credentialInstanceId := textOf (claimsAttribute claims "credential_instance_id")
  githubSubjectIdentity := textOf (claimsAttribute claims "github_subject_identity")
  repositoryIdentity := textOf (claimsAttribute claims "repository_identity")
  grantedCapabilities :=
    textsOf ((claimsAttribute claims "granted_capabilities").sequence?.getD [])
  driverIdentity := textOf (claimsAttribute claims "driver_identity")
  remoteAuthority := textOf (claimsAttribute claims "remote_authority")
  previewId := textOf (claimsAttribute claims "preview_id")
  revision := (Value.positive? (claimsAttribute claims "revision")).getD 0
  operationSetDigest := textOf (claimsAttribute claims "operation_set_digest")
  remoteSnapshotDigest := textOf (claimsAttribute claims "remote_snapshot_digest")
  evidenceDigest := textOf (claimsAttribute claims "evidence_digest")
  issuedAt := textOf (claimsAttribute claims "issued_at")
  expiresAt := textOf (claimsAttribute claims "expires_at")
  nonce := textOf (claimsAttribute claims "nonce")
  sourceVerificationDigest := textOf (claimsAttribute claims "source_verification_digest")
  challengeDigest :=
    if claimsAttribute claims "attestation_version" = .str "2" then
      textOf (claimsAttribute claims "challenge_digest")
    else ""
  credentialPrincipalIdentity :=
    if claimsAttribute claims "attestation_version" = .str "2" then
      textOf (claimsAttribute claims "credential_principal_identity")
    else ""

end

section
variable [PythonLibrary] [UnicodeLibrary] [TimestampLibrary] [LawfulTextLibrary]

theorem validText_textOf {value : Value} (h : validText value = true) :
    value = .str (textOf value) ∧ Settled (textOf value) := by
  obtain ⟨s, rfl, hs⟩ := validText_iff.mp h
  exact ⟨rfl, hs⟩

omit [PythonLibrary] [UnicodeLibrary] [TimestampLibrary] [LawfulTextLibrary] in
theorem validId_textOf {value : Value} {pattern : String → Bool}
    (h : validId value pattern = true) :
    value = .str (textOf value) ∧ pattern (textOf value) = true := by
  obtain ⟨s, rfl, hs⟩ := validId_iff.mp h
  exact ⟨rfl, hs⟩

/-- The text fields of claims are settled texts. -/
theorem claimsText {claims : Attributes} (h : ClaimsShape claims) {field : String}
    (hfield : field ∈ claimsFieldsV1)
    (hplain : field ∉ ["granted_capabilities", "revision"]) :
    claimsAttribute claims field = .str (textOf (claimsAttribute claims field)) ∧
      Settled (textOf (claimsAttribute claims field)) := by
  refine validText_textOf (h.2.1 field ?_ hplain)
  unfold claimsFieldNames
  split_ifs
  · exact List.mem_append_left _ hfield
  · exact hfield

theorem claimsExtension {claims : Attributes} (h : ClaimsShape claims)
    (hversion : claimsAttribute claims "attestation_version" = .str "2") {field : String}
    (hfield : field ∈ ["challenge_digest", "credential_principal_identity"]) :
    claimsAttribute claims field = .str (textOf (claimsAttribute claims field)) ∧
      Settled (textOf (claimsAttribute claims field)) := by
  have hplain : ∀ field ∈ ["challenge_digest", "credential_principal_identity"],
      field ∉ ["granted_capabilities", "revision"] := by decide
  refine validText_textOf (h.2.1 field ?_ (hplain field hfield))
  rw [claimsFieldNames, if_pos hversion]
  exact List.mem_append_right _ hfield

/-- The attributes of claims of the shape that is asked for hold fields. -/
theorem claimsFieldsOf_describes {claims : Attributes} (h : ClaimsShape claims) :
    DescribesClaims claims (claimsFieldsOf claims) := by
  have htext := fun {field : String} (hfield : field ∈ claimsFieldsV1)
    (hplain : field ∉ ["granted_capabilities", "revision"]) => (claimsText h hfield hplain).1
  constructor
  case isSet => exact h.1
  case granted =>
    obtain ⟨items, hitems, -⟩ := validCapabilities_iff.mp h.2.2.2.2.1
    rw [claimsFieldsOf, hitems]
    simp only [Value.sequence?, Option.getD_some, textsOf_map]
  case revision =>
    obtain ⟨n, hn, hpositive⟩ := validRevision_iff.mp h.2.2.2.1
    rw [claimsFieldsOf, hn]
    simp only [Value.positive?, if_pos hpositive, Option.getD_some]
  case extended =>
    intro hversion
    have hplainVersion : claimsAttribute claims "attestation_version" =
        .str (textOf (claimsAttribute claims "attestation_version")) :=
      htext (by decide) (by decide)
    have htwo : claimsAttribute claims "attestation_version" = .str "2" := by
      rw [hplainVersion]
      exact congrArg Value.str hversion
    simp only [claimsFieldsOf, if_pos htwo]
    exact ⟨(claimsExtension h htwo (by decide)).1, (claimsExtension h htwo (by decide)).1⟩
  all_goals exact htext (by decide) (by decide)

theorem claimsIdentity {claims : Attributes} (h : ClaimsShape claims)
    (hleft : ∀ field ∈ claimsIdentities, validId (claimsAttribute claims field) idPattern = true)
    {field : String} (hfield : field ∈ claimsIdentities) :
    Matching idPattern (textOf (claimsAttribute claims field)) := by
  have hnamed : ∀ field ∈ claimsIdentities, field ∈ claimsFieldsV1 ∧
      field ∉ ["granted_capabilities", "revision"] := by decide
  exact ⟨(claimsText h (hnamed field hfield).1 (hnamed field hfield).2).2,
    (validId_textOf (hleft field hfield)).2⟩

theorem claimsDigestText {claims : Attributes} (h : ClaimsShape claims) {field : String}
    (hfield : field ∈ ["remote_authority", "operation_set_digest", "remote_snapshot_digest",
      "evidence_digest", "source_verification_digest"]) :
    Matching (hexPattern "sha256:") (textOf (claimsAttribute claims field)) := by
  have hnamed : ∀ field ∈ ["remote_authority", "operation_set_digest", "remote_snapshot_digest",
      "evidence_digest", "source_verification_digest"], field ∈ claimsFieldsV1 ∧
        field ∉ ["granted_capabilities", "revision"] := by decide
  exact ⟨(claimsText h (hnamed field hfield).1 (hnamed field hfield).2).2,
    (validId_textOf (h.2.2.2.2.2.1 field hfield)).2⟩

variable [ZonedTimeLibrary]

omit [TimestampLibrary] [LawfulTextLibrary] in
theorem WrittenAs.text {value : Value} {t : Instant} (h : WrittenAs value t) :
    WrittenTime (textOf value) t := by
  obtain ⟨s, rfl, hs⟩ := h
  exact hs

omit [TimestampLibrary] [LawfulTextLibrary] in
theorem StoredAs.text {value : Value} {t : Instant} (h : StoredAs value t) :
    value = .str (textOf value) ∧ StoredTime (textOf value) t := by
  obtain ⟨s, rfl, hs⟩ := h
  exact ⟨rfl, hs⟩

/-- The fields are those of claims that the constructor makes. -/
theorem claimsFieldsOf_sound [LawfulZonedTimeLibrary] [LawfulDigestLibrary]
    {artifact : ArtifactObject} {reference : Attributes}
    (hversion : claimsAttribute artifact.claims "attestation_version" = .str "1" ∨
      claimsAttribute artifact.claims "attestation_version" = .str "2")
    (h : ClaimsShape artifact.claims)
    (hderived : Gives (derivedAttestationId artifact.claims)
      (claimsAttribute artifact.claims "attestation_id"))
    (hleft : LeftToConstructors artifact reference) : (claimsFieldsOf artifact.claims).Sound := by
  have hdescribes := claimsFieldsOf_describes h
  obtain ⟨issued, original, expires, created, hissued, -, hexpires, -, hfrom, huntil, -⟩ :=
    hleft.times
  obtain ⟨items, hitems, -, hsettled, hdistinct, hsorted⟩ :=
    validCapabilities_iff.mp h.2.2.2.2.1
  have hgranted : (claimsFieldsOf artifact.claims).grantedCapabilities = items := by
    rw [claimsFieldsOf, hitems]
    simp only [Value.sequence?, Option.getD_some, textsOf_map]
  have htext := fun {field : String} (hfield : field ∈ claimsFieldsV1)
    (hplain : field ∉ ["granted_capabilities", "revision"]) => (claimsText h hfield hplain).2
  have hidentity := fun {field : String} (hfield : field ∈ claimsIdentities) =>
    claimsIdentity h hleft.identities hfield
  have hgives : (claimsFieldsOf artifact.claims).derivedAttestationId =
      .ok (claimsFieldsOf artifact.claims).attestationId := by
    obtain ⟨derived, hok, hid⟩ := hderived
    rw [hdescribes.derivedId] at hok
    rw [hok, ← Value.str.inj (hid.symm.trans hdescribes.attestation)]
  exact
    { version := hidentity (by decide)
      attestation := derivedAttestationId_matching hgives
      issuer := hidentity (by decide)
      key := hidentity (by decide)
      algorithm := hidentity (by decide)
      credentialClass := hidentity (by decide)
      credential := hidentity (by decide)
      subject := htext (by decide) (by decide)
      repository := htext (by decide) (by decide)
      granted := by rw [hgranted]; exact hsettled
      distinct := by rw [hgranted]; exact hdistinct
      sorted := by rw [hgranted]; exact hsorted
      capable := hleft.capable
      driver := htext (by decide) (by decide)
      authority := claimsDigestText h (by decide)
      preview := hidentity (by decide)
      revision := by
        obtain ⟨n, hn, hpositive⟩ := validRevision_iff.mp h.2.2.2.1
        rw [Value.int.inj (hdescribes.revision.symm.trans hn)]
        exact hpositive
      operations := claimsDigestText h (by decide)
      snapshot := claimsDigestText h (by decide)
      evidence := claimsDigestText h (by decide)
      lasting := ⟨issued, expires, hissued.text, hexpires.text, lt_of_le_of_lt hfrom huntil⟩
      nonce := hidentity (by decide)
      source := claimsDigestText h (by decide)
      extension := by
        rcases hversion with hone | htwo
        · have hnot : claimsAttribute artifact.claims "attestation_version" ≠ .str "2" := by
            rw [hone]
            exact fun heq => absurd (Value.str.inj heq) (by decide)
          refine .inl ⟨?_, if_neg hnot, if_neg hnot⟩
          rw [claimsFieldsOf, hone]
          rfl
        · refine .inr ⟨?_, ?_, ?_⟩
          · rw [claimsFieldsOf, htwo]
            rfl
          · simp only [claimsFieldsOf, if_pos htwo]
            exact ⟨(claimsExtension h htwo (by decide)).2,
              (validId_textOf (hleft.challenge htwo)).2⟩
          · simp only [claimsFieldsOf, if_pos htwo]
            exact (claimsExtension h htwo (by decide)).2
      derived := hgives }

/-! ## Claims made of an object -/

omit [PythonLibrary] [UnicodeLibrary] [TimestampLibrary] [LawfulTextLibrary]
  [ZonedTimeLibrary] in
theorem get_map (read : String → Value) (fields : List String) (field : String) :
    Dict.get (fields.map fun name => (name, read name)) field =
      if field ∈ fields then read field else Value.null := by
  induction fields with
  | nil => rfl
  | cons name rest ih =>
      rw [Dict.get] at ih ⊢
      rw [List.map_cons, List.lookup_cons]
      by_cases hname : field = name
      · rw [hname, if_pos List.mem_cons_self, beq_self_eq_true]
        rfl
      · rw [beq_eq_false_iff_ne.mpr hname]
        change (List.lookup field (rest.map fun name => (name, read name))).getD Value.null = _
        rw [ih]
        simp only [List.mem_cons, hname, false_or]

omit [PythonLibrary] [UnicodeLibrary] [TimestampLibrary] [LawfulTextLibrary]
  [ZonedTimeLibrary] in
theorem names_of_describes [PythonLibrary] [UnicodeLibrary] [ZonedTimeLibrary]
    {claims : Attributes} {f : ClaimsFields} (h : DescribesClaims claims f) :
    Names ((claimsFieldNames claims).map fun field => (field, claimsAttribute claims field)) f := by
  have hbase : ∀ field ∈ claimsFieldsV1, Dict.get ((claimsFieldNames claims).map fun field =>
      (field, claimsAttribute claims field)) field = claimsAttribute claims field := by
    intro field hfield
    rw [get_map, if_pos]
    unfold claimsFieldNames
    split_ifs
    · exact List.mem_append_left _ hfield
    · exact hfield
  have hextension : ∀ field ∈ ["challenge_digest", "credential_principal_identity"],
      Dict.get ((claimsFieldNames claims).map fun field => (field, claimsAttribute claims field))
        field = if f.attestationVersion = "2" then claimsAttribute claims field else .null := by
    intro field hfield
    have hnot : ∀ field ∈ ["challenge_digest", "credential_principal_identity"],
        field ∉ claimsFieldsV1 := by decide
    have htwo : field ∈ claimsFieldsV2 := List.mem_append_right _ hfield
    rw [get_map, claimsFieldNames]
    by_cases hversion : f.attestationVersion = "2"
    · rw [if_pos ((h.version_iff "2").mpr hversion), if_pos htwo, if_pos hversion]
    · rw [if_neg (mt (h.version_iff "2").mp hversion), if_neg (hnot field hfield), if_neg hversion]
  refine
    { version := (hbase _ (by decide)).trans h.version
      attestation := (hbase _ (by decide)).trans h.attestation
      issuer := (hbase _ (by decide)).trans h.issuer
      key := (hbase _ (by decide)).trans h.key
      algorithm := (hbase _ (by decide)).trans h.algorithm
      credentialClass := (hbase _ (by decide)).trans h.credentialClass
      credential := (hbase _ (by decide)).trans h.credential
      subject := (hbase _ (by decide)).trans h.subject
      repository := (hbase _ (by decide)).trans h.repository
      granted := by rw [hbase _ (by decide), h.granted]; rfl
      driver := (hbase _ (by decide)).trans h.driver
      authority := (hbase _ (by decide)).trans h.authority
      preview := (hbase _ (by decide)).trans h.preview
      revision := (hbase _ (by decide)).trans h.revision
      operations := (hbase _ (by decide)).trans h.operations
      snapshot := (hbase _ (by decide)).trans h.snapshot
      evidence := (hbase _ (by decide)).trans h.evidence
      issued := by rw [hbase _ (by decide), h.issued]
      expires := by rw [hbase _ (by decide), h.expires]
      nonce := (hbase _ (by decide)).trans h.nonce
      source := (hbase _ (by decide)).trans h.source
      extended := ?_
      bare := ?_
      issuedAt := (hbase _ (by decide)).trans h.issued
      expiresAt := (hbase _ (by decide)).trans h.expires }
  · intro hversion
    rw [hextension _ (by decide), hextension _ (by decide), if_pos hversion, if_pos hversion]
    exact h.extended hversion
  · intro hversion
    rw [hextension _ (by decide), hextension _ (by decide), if_neg hversion, if_neg hversion]
    exact ⟨List.mem_cons_self, List.mem_cons_self⟩

/-- Claims whose fields an object holds are made of it. -/
theorem claimsOfObject_eq [LawfulZonedTimeLibrary] [LawfulDigestLibrary] {claims : Attributes}
    {made : CredentialCapabilityAttestationClaims} (h : DescribesClaims claims made.toClaimsFields)
    (hgranted : made.grantedCapabilities ≠ []) (halgorithm : made.signatureAlgorithm = "ed25519") :
    claimsOfObject (some claims) = .ok made := by
  have hfields : claimsFieldNames claims = namedFields made.toClaimsFields := by
    rw [claimsFieldNames, namedFields]
    by_cases hversion : made.attestationVersion = "2"
    · rw [if_pos ((h.version_iff "2").mpr hversion), if_pos hversion]
    · rw [if_neg (mt (h.version_iff "2").mp hversion), if_neg hversion]
  have hset : ∀ field ∈ claimsFieldNames claims, (claimsAttribute? claims field).isSome = true := by
    intro field hfield
    refine h.isSet field ?_
    unfold claimsFieldNames at hfield
    split_ifs at hfield
    · exact hfield
    · exact List.mem_append_left _ hfield
  have hnames := claimsFields_names (names_of_describes h) hgranted halgorithm
  simp only [claimsOfObject, bind_eq_ok, require_eq_ok]
  refine ⟨(), hset, ?_⟩
  rw [h.granted]
  dsimp only
  rw [← hfields] at hnames
  exact hnames

/-! ## Artifacts made of an object -/

/-- What the shape of an artifact tells. -/
structure ArtifactShape (artifact : ArtifactObject) : Prop where
  head : ArtifactHead artifact
  areClaims : artifact.claimsPayload = some (some artifact.claims)
  version : claimsAttribute artifact.claims "attestation_version" = .str "1" ∨
    claimsAttribute artifact.claims "attestation_version" = .str "2"
  claims : ClaimsShape artifact.claims
  tail : ArtifactTail artifact
  claimsDigest : Gives (claimsDigest artifact.claims) (artifact.get "claims_digest")
  artifactDigest : Gives (canonicalDigest (.dict (objectContent artifact)))
    (artifact.get "artifact_digest")

omit [TimestampLibrary] [LawfulTextLibrary] [ZonedTimeLibrary] in
theorem artifactShape_of_valid {artifact : ArtifactObject}
    (h : artifactShapeIsValid (some artifact) = .ok true) : ArtifactShape artifact := by
  simp only [artifactShapeIsValid, orFalse_eq_true, bind_eq_ok, pure_eq_ok, decide_eq_true_eq] at h
  obtain ⟨hhead, claimsValid, hclaims, ⟨rfl, htail⟩, digest, hdigest, hdigestIs, content, hcontent,
    hcontentIs⟩ := h
  have hpayload : artifact.claimsPayload = some (some artifact.claims) := by
    have hset := hhead.2.1
    cases hcarrier : artifact.claimsPayload with
    | none =>
        rw [hcarrier] at hset
        cases hset
    | some inner =>
        cases inner with
        | none =>
            rw [hcarrier] at hclaims
            cases hclaims
        | some claims => rw [ArtifactObject.claims, hcarrier, Option.getD_some, Option.getD_some]
  rw [hpayload, Option.getD_some] at hclaims
  obtain ⟨hversion, hshape⟩ := claimsShapeIsValid_eq_true.mp hclaims
  exact ⟨hhead, hpayload, hversion, hshape, htail, ⟨_, hdigest, hdigestIs⟩,
    ⟨_, hcontent, hcontentIs⟩⟩

omit [TimestampLibrary] [LawfulTextLibrary] [ZonedTimeLibrary] in
theorem ArtifactShape.valid {artifact : ArtifactObject} (h : ArtifactShape artifact) :
    artifactShapeIsValid (some artifact) = .ok true := by
  obtain ⟨digest, hdigest, hdigestIs⟩ := h.claimsDigest
  obtain ⟨content, hcontent, hcontentIs⟩ := h.artifactDigest
  have hclaims : claimsShapeIsValid (artifact.claimsPayload.getD none) = .ok true := by
    rw [h.areClaims]
    exact claimsShapeIsValid_eq_true.mpr ⟨h.version, h.claims⟩
  simp only [artifactShapeIsValid, orFalse_eq_true, bind_eq_ok, pure_eq_ok, decide_eq_true_eq]
  exact ⟨h.head, true, hclaims, ⟨rfl, h.tail⟩, digest, hdigest, hdigestIs, content, hcontent,
    hcontentIs⟩

/-- The fields that the attributes of an artifact object hold, with these claims. -/
def artifactFieldsOf (artifact : ArtifactObject) (claims : CredentialCapabilityAttestationClaims) :
    ArtifactFields where
  artifactId := textOf (artifact.get "artifact_id")
  workspaceIdentity := textOf (artifact.get "workspace_identity")
  attestationId := textOf (artifact.get "attestation_id")
  claimsPayload := claims
  detachedProof := textOf (artifact.get "detached_proof")
  claimsDigest := textOf (artifact.get "claims_digest")
  artifactDigest := textOf (artifact.get "artifact_digest")
  originalVerifiedAt := textOf (artifact.get "original_verified_at")
  createdAt := textOf (artifact.get "created_at")

theorem artifactFieldsOf_describes {artifact : ArtifactObject} {reference : Attributes}
    {claims : CredentialCapabilityAttestationClaims} (h : ArtifactShape artifact)
    (hleft : LeftToConstructors artifact reference)
    (hclaims : DescribesClaims artifact.claims claims.toClaimsFields) :
    DescribesArtifact artifact (artifactFieldsOf artifact claims) := by
  obtain ⟨hset, -, hversion, hid, hworkspace, hattestation⟩ := h.head
  obtain ⟨-, hproof, hclaimsDigest, hdigest, -⟩ := h.tail
  obtain ⟨-, original, -, created, -, horiginal, -, hcreated, -⟩ := hleft.times
  exact
    { isSet := hset
      areClaims := h.areClaims
      claims := hclaims
      version := hversion
      artifactId := (validId_textOf hid).1
      workspace := (validText_textOf hworkspace).1
      attestation := (validText_textOf hattestation).1
      proof := (validText_textOf hproof).1
      claimsDigest := (validId_textOf hclaimsDigest).1
      artifactDigest := (validId_textOf hdigest).1
      original := horiginal.text.1
      created := hcreated.text.1 }

omit [PythonLibrary] [UnicodeLibrary] [TimestampLibrary] [LawfulTextLibrary]
  [ZonedTimeLibrary] in
theorem gives_textOf {x : Py String} {value : Value} (h : Gives x value) :
    x = .ok (textOf value) := by
  obtain ⟨s, hs, rfl⟩ := h
  exact hs

/-- The fields are those of an artifact that the constructor makes. -/
theorem artifactFieldsOf_sound [LawfulZonedTimeLibrary] [LawfulDigestLibrary]
    [LawfulInfixLibrary] {artifact : ArtifactObject} {reference : Attributes}
    {claims : CredentialCapabilityAttestationClaims} (h : ArtifactShape artifact)
    (hleft : LeftToConstructors artifact reference)
    (hfields : claims.toClaimsFields = claimsFieldsOf artifact.claims) :
    (artifactFieldsOf artifact claims).Sound := by
  have hclaims : DescribesClaims artifact.claims claims.toClaimsFields :=
    hfields ▸ claimsFieldsOf_describes h.claims
  have hdescribes := artifactFieldsOf_describes h hleft hclaims
  obtain ⟨issued, original, expires, created, hissued, horiginal, hexpires, hcreated, hfrom,
    huntil, hcreation⟩ := hleft.times
  have hattestation : (artifactFieldsOf artifact claims).attestationId = claims.attestationId :=
    Value.str.inj (hdescribes.attestation.symm.trans (h.tail.1.trans hclaims.attestation))
  have hdigest := gives_textOf h.claimsDigest
  have hcontent := gives_textOf h.artifactDigest
  have hid := gives_textOf hleft.artifactId
  rw [hclaims.claimsDigest] at hdigest
  rw [hdescribes.content hattestation] at hcontent
  rw [objectArtifactId, hdescribes.workspace, hdescribes.attestation] at hid
  exact
    { workspace := (validText_textOf h.head.2.2.2.2.1).2
      attestation := hattestation
      granted := by
        obtain ⟨items, hitems, hne, -⟩ := validCapabilities_iff.mp h.claims.2.2.2.2.1
        change claims.toClaimsFields.grantedCapabilities ≠ []
        rw [hfields, claimsFieldsOf, hitems]
        simpa only [Value.sequence?, Option.getD_some, textsOf_map] using hne
      algorithm := Value.str.inj (hclaims.algorithm.symm.trans hleft.algorithm)
      proof := (validId_textOf hleft.proof).2
      claimsDigest := hdigest
      claimsDigestForm := (validId_textOf h.tail.2.2.1).2
      times := by
        refine ⟨original, created, issued, expires, horiginal.text.2, hcreated.text.2, ?_, ?_,
          hfrom, huntil, hcreation⟩
        · change WrittenTime claims.toClaimsFields.issuedAt issued
          rw [hfields]
          exact hissued.text
        · change WrittenTime claims.toClaimsFields.expiresAt expires
          rw [hfields]
          exact hexpires.text
      content := hcontent
      contentForm := (validId_textOf h.tail.2.2.2.1).2
      artifactId := hid
      artifactIdForm := (validId_textOf h.head.2.2.2.1).2 }

/-! ## References made of an object -/

omit [ZonedTimeLibrary] in
/-- A settled text is read as itself. -/
theorem persistedText_valid {value : Value} {s : String} (hvalid : validText value = true)
    (h : persistedText value = .ok s) : value = .str s := by
  obtain ⟨t, rfl, ht⟩ := validText_iff.mp hvalid
  rw [Except.ok.inj (h.symm.trans (Settled.persistedText ht))]

/-- The reference that is made of an object holds its attributes. -/
theorem reference_describes {reference : Attributes} {r : AttestationBindingReference}
    {t : Instant} (hshape : referenceShapeIsValid (some reference) = .ok true)
    (hmade : AttestationBindingReference.make (ReferenceArguments.named reference) = .ok r)
    (horiginal : StoredAs (reference.get "original_verified_at") t) :
    DescribesReference reference r.toReferenceFields := by
  simp only [referenceShapeIsValid, orFalse_eq_true, bind_eq_ok] at hshape
  obtain ⟨hset, _, -, ⟨-, -, -, htext, -⟩, -⟩ := hshape
  have hpostInit := AttestationBindingReference.make_eq_ok.mp hmade
  simp only [ReferenceArguments.postInit, ReferenceArguments.named, bind_eq_ok, orRaise_eq_ok,
    require_eq_ok, pure_eq_ok, exactText_eq_ok, persistedInteger_eq_ok,
    Value.text?_eq_some] at hpostInit
  obtain ⟨version, hversion, _, hsupported, workspace, hworkspace, _, -, _, -, repository,
    hrepository, subject, hsubject, driver, hdriver, preview, hpreview, audit, haudit, evidence,
    hevidence, artifactId, ⟨hartifactId, -⟩, bindingId, ⟨hbindingId, -⟩, artifactDigest,
    ⟨hartifactDigest, -⟩, authority, ⟨hauthority, -⟩, plan, ⟨hplan, -⟩, sealedPreview,
    ⟨hsealed, -⟩, operations, ⟨hoperations, -⟩, snapshot, ⟨hsnapshot, -⟩, auditDigest,
    ⟨hauditDigest, -⟩, evidenceDigest, ⟨hevidenceDigest, -⟩, revision, ⟨hrevision, -⟩, time,
    htime, extension, hextension, _, -, digest, ⟨hdigest, -⟩, referenceId, ⟨hreferenceId, -⟩, _,
    -, _, -, _, -, hfields⟩ := hpostInit
  have hbase : ∀ field ∈ ["workspace_identity", "repository_identity",
      "github_subject_identity", "driver_identity", "preview_id", "audit_id", "evidence_id"],
      validText (reference.get field) = true := by
    intro field hfield
    refine htext field ?_
    unfold referenceTextFields
    split_ifs <;> revert hfield field <;> decide
  have hwritten : reference.get "original_verified_at" = .str time.1 := by
    obtain ⟨s, hs, hstored⟩ := horiginal
    rw [hs] at htime ⊢
    rw [Except.ok.inj (htime.symm.trans hstored.persistedTimestamp)]
  rw [← hfields]
  refine
    { isSet := hset
      version := hversion
      referenceId := hreferenceId
      workspace := persistedText_valid (hbase _ (by decide)) hworkspace
      artifactId := hartifactId
      artifactDigest := hartifactDigest
      bindingId := hbindingId
      repository := persistedText_valid (hbase _ (by decide)) hrepository
      subject := persistedText_valid (hbase _ (by decide)) hsubject
      driver := persistedText_valid (hbase _ (by decide)) hdriver
      authority := hauthority
      preview := persistedText_valid (hbase _ (by decide)) hpreview
      revision := hrevision
      plan := hplan
      sealedPreview := hsealed
      operations := hoperations
      snapshot := hsnapshot
      auditId := persistedText_valid (hbase _ (by decide)) haudit
      auditDigest := hauditDigest
      evidenceId := persistedText_valid (hbase _ (by decide)) hevidence
      evidenceDigest := hevidenceDigest
      original := hwritten
      digest := hdigest
      extended := ?_
      bare := ?_ }
  · intro htwo
    rw [referenceExtension, if_pos htwo] at hextension
    simp only [bind_eq_ok, pure_eq_ok, exactText_eq_ok] at hextension
    obtain ⟨principal, hprincipal, challenge, ⟨hchallenge, -⟩, rfl⟩ := hextension
    refine ⟨persistedText_valid (htext _ ?_) hprincipal, hchallenge⟩
    rw [referenceTextFields, if_pos (hversion.trans (congrArg Value.str htwo))]
    decide
  · intro hone
    rw [referenceExtension, if_neg hone] at hextension
    simp only [bind_eq_ok, require_eq_ok] at hextension
    obtain ⟨_, hbare, -⟩ := hextension
    exact hbare

/-! ## What the validator leaves open -/

variable [LawfulZonedTimeLibrary] [LawfulDigestLibrary] [LawfulInfixLibrary]

omit [TimestampLibrary] [LawfulTextLibrary] [LawfulZonedTimeLibrary] [LawfulDigestLibrary]
  [LawfulInfixLibrary] in
theorem matches_of_validateObjects {artifact : Option ArtifactObject}
    {reference : Option Attributes} {a : PersistedAttestationArtifact}
    {r : AttestationBindingReference}
    (h : validateArtifactObjects artifact reference = .ok (a, r)) :
    Matches a.toArtifactFields r.toReferenceFields := by
  simp only [validateArtifactObjects, bind_eq_ok, require_eq_ok, pure_eq_ok] at h
  obtain ⟨_, -, _, -, _, hmatches, hpair⟩ := h
  obtain ⟨rfl, rfl⟩ := Prod.mk.inj hpair
  exact hmatches

/-- Objects that hold an artifact and a matching reference pass every check of the
constructors. -/
theorem left_of_describes {artifact : ArtifactObject} {reference : Attributes}
    {a : PersistedAttestationArtifact} {r : AttestationBindingReference}
    (hmatches : Matches a.toArtifactFields r.toReferenceFields)
    (ha : DescribesArtifact artifact a.toArtifactFields)
    (hr : DescribesReference reference r.toReferenceFields) :
    LeftToConstructors artifact reference := by
  have hsound := a.sound
  have hclaims := a.claimsPayload.sound
  obtain ⟨original, created, issued, expires, horiginal, hcreated, hissued, hexpires, hfrom,
    huntil, hcreation⟩ := hsound.times
  have hversion : ∀ {version : String}, claimsAttribute artifact.claims "attestation_version" =
      .str version → a.claimsPayload.attestationVersion = version :=
    fun h => (ha.claims.version_iff _).mp h
  refine
    { identities := ?_
      algorithm := ha.claims.algorithm.trans (congrArg Value.str hsound.algorithm)
      capable := ?_
      challenge := ?_
      proof := validId_iff.mpr ⟨_, ha.proof, hsound.proof⟩
      times := ⟨issued, original, expires, created, ⟨_, ha.claims.issued, hissued⟩,
        ⟨_, ha.original, horiginal⟩, ⟨_, ha.claims.expires, hexpires⟩, ⟨_, ha.created, hcreated⟩,
        hfrom, huntil, hcreation⟩
      artifactId := ?_
      extension := ?_ }
  · simp only [claimsIdentities, List.forall_mem_cons, List.not_mem_nil, false_implies,
      implies_true, and_true]
    exact ⟨validId_iff.mpr ⟨_, ha.claims.version, hclaims.version.pattern⟩,
      validId_iff.mpr ⟨_, ha.claims.issuer, hclaims.issuer.pattern⟩,
      validId_iff.mpr ⟨_, ha.claims.key, hclaims.key.pattern⟩,
      validId_iff.mpr ⟨_, ha.claims.algorithm, hclaims.algorithm.pattern⟩,
      validId_iff.mpr ⟨_, ha.claims.credentialClass, hclaims.credentialClass.pattern⟩,
      validId_iff.mpr ⟨_, ha.claims.credential, hclaims.credential.pattern⟩,
      validId_iff.mpr ⟨_, ha.claims.preview, hclaims.preview.pattern⟩,
      validId_iff.mpr ⟨_, ha.claims.nonce, hclaims.nonce.pattern⟩⟩
  · rw [ha.claims.granted]
    simp only [Value.sequence?, Option.getD_some, textsOf_map]
    exact hclaims.capable
  · intro htwo
    rcases hclaims.extension with ⟨hone, -⟩ | ⟨hsecond, hchallenge, -⟩
    · rw [hversion htwo] at hone
      exact absurd hone (by decide)
    · exact validId_iff.mpr ⟨_, (ha.claims.extended hsecond).1, hchallenge.pattern⟩
  · refine ⟨_, ?_, ha.artifactId⟩
    rw [objectArtifactId, ha.workspace, ha.attestation]
    exact hsound.artifactId
  · intro htwo
    have hsecond := hversion htwo
    obtain ⟨hcontract, hprincipal, hchallenge⟩ :=
      hmatches.2.2.2.2.2.2.2.2.2.2.2.2.2 hsecond
    obtain ⟨hprincipalIs, hchallengeIs⟩ := hr.extended hcontract
    obtain ⟨hchallengeOf, hprincipalOf⟩ := ha.claims.extended hsecond
    rw [hr.version, hcontract, hprincipalIs, hchallengeIs, hprincipalOf, hchallengeOf, hprincipal,
      hchallenge]
    exact ⟨rfl, rfl, rfl⟩

omit [LawfulInfixLibrary] in
/-- An object whose fields the constructor keeps is read as the artifact of these fields. -/
theorem artifactOfObject_eq {artifact : ArtifactObject} {a : PersistedAttestationArtifact}
    (h : DescribesArtifact artifact a.toArtifactFields) (hsound : a.Sound) :
    artifactOfObject (some artifact) = .ok a := by
  have hclaims := claimsOfObject_eq h.claims hsound.granted hsound.algorithm
  simp only [artifactOfObject, bind_eq_ok, require_eq_ok]
  refine ⟨(), ⟨h.isSet, by rw [h.areClaims]; rfl⟩, (), h.version, a.workspaceIdentity, ?_,
    a.claimsPayload, ?_, ?_⟩
  · rw [h.workspace]
    exact Settled.persistedText hsound.workspace
  · rw [h.areClaims]
    exact hclaims
  · rw [h.version, h.artifactId, h.workspace, h.attestation, h.proof, h.claimsDigest,
      h.artifactDigest, h.original, h.created]
    exact PersistedAttestationArtifact.make_eq_ok.mpr (hsound.postInit
      (claimsObject_object.mpr ⟨rfl, hsound.granted, hsound.algorithm⟩))

omit [TimestampLibrary] [LawfulTextLibrary] [LawfulZonedTimeLibrary] [LawfulDigestLibrary]
  [LawfulInfixLibrary] in
/-- Records that objects hold match where the objects agree. -/
theorem matches_of_accepted {artifact : ArtifactObject} {reference : Attributes}
    {a : ArtifactFields} {r : ReferenceFields} (h : Accepted artifact reference)
    (hleft : LeftToConstructors artifact reference) (ha : DescribesArtifact artifact a)
    (hr : DescribesReference reference r) : Matches a r := by
  have hcrosswalk := h.crosswalk
  simp only [crosswalkFields, List.forall_mem_cons, List.not_mem_nil, false_implies, implies_true,
    and_true, hr.repository, hr.subject, hr.driver, hr.authority, hr.preview, hr.revision,
    hr.operations, hr.snapshot, hr.evidenceDigest, ha.claims.repository, ha.claims.subject,
    ha.claims.driver, ha.claims.authority, ha.claims.preview, ha.claims.revision,
    ha.claims.operations, ha.claims.snapshot, ha.claims.evidence, Value.str.injEq,
    Value.int.injEq] at hcrosswalk
  obtain ⟨hrepository, hsubject, hdriver, hauthority, hpreview, hrevision, hoperations, hsnapshot,
    hevidence⟩ := hcrosswalk
  have hworkspace := h.workspace
  have hid := h.artifactId
  have hdigest := h.artifactDigest
  have horiginal := h.original
  rw [hr.workspace, ha.workspace, Value.str.injEq] at hworkspace
  rw [hr.artifactId, ha.artifactId, Value.str.injEq] at hid
  rw [hr.artifactDigest, ha.artifactDigest, Value.str.injEq] at hdigest
  rw [hr.original, ha.original, Value.str.injEq] at horiginal
  refine ⟨hworkspace.symm, hid.symm, hdigest.symm, hrepository, hsubject, hdriver, hauthority,
    hpreview, hrevision, hoperations, hsnapshot, hevidence, horiginal, fun htwo => ?_⟩
  obtain ⟨hcontract, hprincipal, hchallenge⟩ :=
    hleft.extension ((ha.claims.version_iff "2").mpr htwo)
  have hsecond := Value.str.inj (hr.version.symm.trans hcontract)
  obtain ⟨hprincipalIs, hchallengeIs⟩ := hr.extended hsecond
  obtain ⟨hchallengeOf, hprincipalOf⟩ := ha.claims.extended htwo
  rw [hprincipalIs, hprincipalOf, Value.str.injEq] at hprincipal
  rw [hchallengeIs, hchallengeOf, Value.str.injEq] at hchallenge
  exact ⟨hsecond, hprincipal, hchallenge⟩

/-- What was accepted is consistent exactly when it passes the checks that are left to the
constructors. -/
theorem Accepted.consistent_iff {artifact : ArtifactObject} {reference : Attributes}
    (h : Accepted artifact reference) :
    Consistent artifact reference ↔ LeftToConstructors artifact reference := by
  constructor
  · intro hconsistent
    obtain ⟨a, r, hvalidated, ha, hr⟩ := hconsistent.aggregate
    exact left_of_describes (matches_of_validateObjects hvalidated) ha hr
  · intro hleft
    have hshape := artifactShape_of_valid h.artifactShape
    have hsound := claimsFieldsOf_sound hshape.version hshape.claims h.derived hleft
    let claims : CredentialCapabilityAttestationClaims :=
      ⟨claimsFieldsOf artifact.claims, _, (ClaimsFields.raw_reads _).postInit hsound⟩
    have hclaims : DescribesClaims artifact.claims claims.toClaimsFields :=
      claimsFieldsOf_describes hshape.claims
    have ha := artifactFieldsOf_describes hshape hleft hclaims
    have haSound : (artifactFieldsOf artifact claims).Sound :=
      artifactFieldsOf_sound hshape hleft rfl
    let a : PersistedAttestationArtifact := ⟨artifactFieldsOf artifact claims, _,
      haSound.postInit (claimsObject_object.mpr ⟨rfl, haSound.granted, haSound.algorithm⟩)⟩
    obtain ⟨r, hmade⟩ := h.made
    obtain ⟨-, original, -, -, -, horiginal, -⟩ := hleft.times
    have hr : DescribesReference reference r.toReferenceFields :=
      reference_describes h.referenceShape hmade (t := original) (by rwa [h.original])
    have hreferenceDigest : Gives (canonicalDigest (.dict (referenceContent reference)))
        (reference.get "binding_reference_digest") := by
      rw [hr.content]
      exact ⟨_, r.sound.content, hr.digest⟩
    refine
      { aggregate := ⟨a, r, ?_, ha, hr⟩
        attestationId := by rw [hshape.tail.1]; exact h.derived
        claimsDigest := hshape.claimsDigest
        artifactDigest := hshape.artifactDigest
        artifactId := hleft.artifactId
        referenceDigest := hreferenceDigest
        referenceId := ⟨_, ?_, hr.referenceId⟩ }
    · simp only [validateArtifactObjects, bind_eq_ok, require_eq_ok, pure_eq_ok]
      refine ⟨a, artifactOfObject_eq ha haSound, r, ?_, (), matches_of_accepted h hleft ha hr, rfl⟩
      simp only [referenceOfObject, bind_eq_ok, require_eq_ok]
      exact ⟨(), hr.isSet, hmade⟩
    · rw [objectReferenceId, hr.version, hr.workspace, hr.artifactId, hr.bindingId]
      simp only [Value.str.injEq]
      exact r.sound.referenceId

/-! ## Both directions -/

/-- The request names the claims in the nine fields and requires what they grant. -/
structure Agrees (request : RequestFields) (claims : ClaimsFields) : Prop where
  repository : request.repositoryIdentity = claims.repositoryIdentity
  subject : request.githubSubjectIdentity = claims.githubSubjectIdentity
  driver : request.driverIdentity = claims.driverIdentity
  authority : request.remoteAuthority = claims.remoteAuthority
  preview : request.previewId = claims.previewId
  revision : request.revision = claims.revision
  operations : request.operationSetDigest = claims.operationSetDigest
  snapshot : request.remoteSnapshotDigest = claims.remoteSnapshotDigest
  evidence : request.evidenceDigest = claims.evidenceDigest
  granted : ∀ capability ∈ request.requiredCapabilities, capability ∈ claims.grantedCapabilities

omit [PythonLibrary] [UnicodeLibrary] [TimestampLibrary] [LawfulTextLibrary] [ZonedTimeLibrary]
  [LawfulZonedTimeLibrary] [LawfulDigestLibrary] [LawfulInfixLibrary] in
theorem Agrees.matches {request : RequestFields} {claims : Attributes} {f : ClaimsFields}
    (h : Agrees request f) (hclaims : DescribesClaims claims f) :
    RequestMatches request claims := by
  refine ⟨?_, fun capability hcapability => ?_⟩
  · simp only [crosswalkFields, List.map_cons, List.map_nil, hclaims.repository, hclaims.subject,
      hclaims.driver, hclaims.authority, hclaims.preview, hclaims.revision, hclaims.operations,
      hclaims.snapshot, hclaims.evidence, h.repository, h.subject, h.driver, h.authority,
      h.preview, h.revision, h.operations, h.snapshot, h.evidence]
  · rw [hclaims.granted]
    exact List.mem_map_of_mem (h.granted capability hcapability)

/-- An aggregate that a store reads after the artifact and the reference were persisted in it,
whatever else is called before, between and after. -/
inductive ReadBack (a : PersistedAttestationArtifact) (r : AttestationBindingReference) :
    AttestationArtifactAggregate → Prop
  | memory {s s' s'' : AttestationMemoryStore.InMemoryAttestationPersistenceStore}
      {persisted found : AttestationArtifactAggregate} :
      AttestationStores.Run AttestationMemoryStore.InMemoryAttestationPersistenceStore.store
        .empty s →
      AttestationMemoryStore.InMemoryAttestationPersistenceStore.store.persistArtifact s a r =
        (.ok persisted, s') →
      AttestationStores.Run AttestationMemoryStore.InMemoryAttestationPersistenceStore.store
        s' s'' →
      AttestationMemoryStore.InMemoryAttestationPersistenceStore.store.getArtifactAggregate s''
        a.workspaceIdentity a.artifactId = .ok (some found) → ReadBack a r found
  | tables {workspace : String} {s s' s'' : AttestationTables.Database}
      {persisted found : AttestationArtifactAggregate} :
      AttestationTables.validateWorkspace workspace = .ok () →
      AttestationStores.Run (AttestationTables.store workspace) .empty s →
      (AttestationTables.store workspace).persistArtifact s a r = (.ok persisted, s') →
      AttestationStores.Run (AttestationTables.store workspace) s' s'' →
      (AttestationTables.store workspace).getArtifactAggregate s'' a.workspaceIdentity
        a.artifactId = .ok (some found) → ReadBack a r found

theorem ReadBack.eq {a : PersistedAttestationArtifact} {r : AttestationBindingReference}
    {found : AttestationArtifactAggregate} (h : ReadBack a r found) :
    found.artifact = a ∧ found.bindingReference = r := by
  cases h with
  | memory hbefore hpersist hafter hget =>
      obtain ⟨hartifact, hreference, -, hread⟩ :=
        (AttestationStores.memory_follows.logKept
          AttestationMemoryStore.InMemoryAttestationPersistenceStore.empty_represents).persisted
            hbefore hpersist
      obtain rfl := Option.some.inj (Except.ok.inj (hget.symm.trans (hread _ hafter)))
      exact ⟨hartifact, hreference⟩
  | tables hopen hbefore hpersist hafter hget =>
      obtain ⟨hartifact, hreference, -, hread⟩ :=
        ((AttestationStores.tables_follow hopen).logKept
          ⟨[], AttestationTables.empty_stands _⟩).persisted hbefore hpersist
      obtain rfl := Option.some.inj (Except.ok.inj (hget.symm.trans (hread _ hafter)))
      exact ⟨hartifact, hreference⟩

variable [LawfulCivilTimes]

/-- An aggregate that was read back is accepted with its own reference, and what is accepted is
consistent exactly when it passes the checks that only the constructors have. -/
theorem restart_validator_consistent_iff :
    (∀ {a : PersistedAttestationArtifact} {r : AttestationBindingReference}
      {accepted : PersistedAttestationArtifact × AttestationBindingReference}
      {found : AttestationArtifactAggregate} {policy : Option (String → Reply Bool)}
      {values : Dict} {challenge : String} {request : RequestFields},
      validateArtifactAggregate a r = .ok accepted → ReadBack a r found →
      requestSnapshot policy values challenge = .ok request →
      Agrees request a.claimsPayload.toClaimsFields →
        validateRestartRevalidationContextAggregate (some (aggregateObject found))
          (.str a.workspaceIdentity) (.str a.artifactId)
          (some (referenceAttributes r.toReferenceFields)) (some request) =
            .ok (artifactObject a.toArtifactFields, referenceAttributes r.toReferenceFields)) ∧
    ∀ {aggregate : Option AggregateObject} {workspace artifactId : Value}
      {expectedReference : Option Attributes} {expectedRequest : Option RequestFields}
      {artifact : ArtifactObject} {reference : Attributes},
      validateRestartRevalidationContextAggregate aggregate workspace artifactId
        expectedReference expectedRequest = .ok (artifact, reference) →
          (Consistent artifact reference ↔ LeftToConstructors artifact reference) := by
  refine ⟨fun {a r accepted found policy values challenge request} haccepted hread hsnapshot
    hagrees => ?_, fun h => (accepted_of_validate h).consistent_iff⟩
  have hmatches : Matches a.toArtifactFields r.toReferenceFields := by
    simp only [validateArtifactAggregate, a.again_eq, r.again_eq, bind_eq_ok, require_eq_ok,
      Except.ok.injEq] at haccepted
    obtain ⟨_, rfl, _, rfl, _, hmatches, -⟩ := haccepted
    exact hmatches
  obtain ⟨rfl, rfl⟩ := hread.eq
  have hclaims := claimsAttributes_describe found.artifact.claimsPayload.toClaimsFields
  have hbare := found.bindingReference.sound.extension
  refine validate_accepts (artifactObject_describes _) found.artifact.sound
    (referenceAttributes_describe fun hversion => ?_) found.bindingReference.sound hmatches
    (requestShape_of_snapshot hsnapshot) (hagrees.matches hclaims)
  exact (hbare.resolve_right fun h => hversion h.1).2

omit [LawfulCivilTimes] in
/-- A matching artifact and reference are read back from a store that they are persisted in. -/
theorem exists_readBack {a : PersistedAttestationArtifact} {r : AttestationBindingReference}
    (hmatches : Matches a.toArtifactFields r.toReferenceFields) :
    ReadBack a r ⟨a, r, hmatches⟩ := by
  obtain ⟨hpersisted, -⟩ :=
    AttestationMemoryStore.InMemoryAttestationPersistenceStore.empty_represents.persist
      ⟨a, r, hmatches⟩
  obtain ⟨s', hpersist⟩ : ∃ s',
      AttestationMemoryStore.InMemoryAttestationPersistenceStore.store.persistArtifact .empty a r =
        (.ok ⟨a, r, hmatches⟩, s') := ⟨_, Prod.ext hpersisted rfl⟩
  obtain ⟨-, -, -, hread⟩ := (AttestationStores.memory_follows.logKept
    AttestationMemoryStore.InMemoryAttestationPersistenceStore.empty_represents).persisted
      Relation.ReflTransGen.refl hpersist
  exact .memory .refl hpersist .refl (hread _ .refl)

omit [TimestampLibrary] [LawfulTextLibrary] [LawfulZonedTimeLibrary] [LawfulDigestLibrary]
  [LawfulInfixLibrary] [LawfulCivilTimes] in
/-- The shape of an artifact object stays when another proof comes with its digest. -/
theorem artifactShape_reproved {a : ArtifactFields} {proof digest : String}
    (h : ArtifactShape (artifactObject a))
    (hattestation : a.attestationId = a.claimsPayload.attestationId)
    (hproof : validText (.str proof) = true)
    (hcontent : canonicalDigest (artifactContent a.workspaceIdentity a.claimsPayload proof
      a.claimsDigest a.originalVerifiedAt a.createdAt) = .ok digest)
    (hdigest : hexPattern "sha256:" digest = true) :
    ArtifactShape (artifactObject { a with detachedProof := proof, artifactDigest := digest }) := by
  have hdescribes := artifactObject_describes
    { a with detachedProof := proof, artifactDigest := digest }
  obtain ⟨hid, -, hclaimsDigest, -, horiginal, hcreated⟩ := h.tail
  refine
    { head := h.head, areClaims := rfl, version := h.version, claims := h.claims
      tail := ⟨hid, hproof, hclaimsDigest, validId_iff.mpr ⟨_, hdescribes.artifactDigest, hdigest⟩,
        horiginal, hcreated⟩
      claimsDigest := h.claimsDigest
      artifactDigest := ⟨digest, ?_, hdescribes.artifactDigest⟩ }
  rw [hdescribes.content hattestation]
  exact hcontent

/-- An artifact with a text for a proof, the digest of its content and a reference to it, is
accepted. -/
theorem exists_forged (a : PersistedAttestationArtifact) :
    ∃ (aggregate : AggregateObject) (artifact : ArtifactObject) (reference : Attributes)
      (request : RequestFields),
      validateRestartRevalidationContextAggregate (some aggregate) (.str a.workspaceIdentity)
          (.str a.artifactId) (some reference) (some request) = .ok (artifact, reference) ∧
        artifact.get "detached_proof" = .str "proof" := by
  have hsound := a.sound
  obtain ⟨original, -, -, -, horiginal, -⟩ := hsound.times
  obtain ⟨digest, hcontent, hdigest⟩ := artifactContent_ok a.claimsPayload a.claimsPayload.sound
    a.workspaceIdentity "proof" a.claimsDigest a.originalVerifiedAt a.createdAt
  obtain ⟨forged, hforged⟩ : ∃ forged : ArtifactFields,
      forged = { a.toArtifactFields with detachedProof := "proof", artifactDigest := digest } :=
    ⟨_, rfl⟩
  have hshape : ArtifactShape (artifactObject forged) := by
    rw [hforged]
    exact artifactShape_reproved
      (artifactShape_of_valid ((artifactObject_describes a.toArtifactFields).shape hsound))
      hsound.attestation
      (validText_of_settled ((by decide : Graphic "proof").settled (by decide))) hcontent hdigest
  obtain ⟨r, referenceId, referenceDigest, hr⟩ := exists_referenceTo (a := forged)
    (by rw [hforged]; exact hsound.workspace) (by rw [hforged]; exact hsound.artifactIdForm)
    (by rw [hforged]; exact hdigest) (by rw [hforged]; exact horiginal)
    (hexPattern_append (by decide : hexPattern "" AttestationReference.zeros = true))
  have hbare : r.referenceContractVersion ≠ referenceV2ContractVersion →
      r.credentialPrincipalIdentity = "" ∧ r.challengeDigest = "" := fun hversion =>
    (r.sound.extension.resolve_right fun h => hversion h.1).2
  have hmatches : Matches forged r.toReferenceFields := by
    rw [hr]
    exact referenceTo_matches ..
  obtain ⟨challengeDigest, hrequest⟩ := exists_request a.claimsPayload.sound hsound.granted
  have hagrees : Agrees (requestFor a.claimsPayload.toClaimsFields challengeDigest)
      forged.claimsPayload.toClaimsFields := by
    rw [hforged]
    exact ⟨rfl, rfl, rfl, rfl, rfl, rfl, rfl, rfl, rfl, fun _ h => h⟩
  have haccepted := validate_accepts_shapes (artifactObject_describes forged) hshape.valid
    (by rw [hforged]; exact hsound.claimsDigest) (by rw [hforged]; exact hsound.attestation)
    (referenceAttributes_describe hbare) r.sound hmatches (requestShape_of_snapshot hrequest)
    (hagrees.matches (claimsAttributes_describe _))
  have hproof : forged.detachedProof = "proof" := by rw [hforged]
  have hkey : forged.workspaceIdentity = a.workspaceIdentity ∧
      forged.artifactId = a.artifactId := by
    rw [hforged]
    exact ⟨rfl, rfl⟩
  rw [hkey.1, hkey.2] at haccepted
  exact ⟨_, _, _, _, haccepted,
    (artifactObject_describes forged).proof.trans (congrArg Value.str hproof)⟩

end

/-- An artifact that is read back, accepted with a request for what it grants, and consistent. -/
theorem restart_validator_consistent_sample :
    ∃ (_ : PythonLibrary) (_ : UnicodeLibrary) (_ : ZonedTimeLibrary)
      (a : PersistedAttestationArtifact) (r : AttestationBindingReference)
      (found : AttestationArtifactAggregate) (request : RequestFields),
      ReadBack a r found ∧
      validateRestartRevalidationContextAggregate (some (aggregateObject found))
          (.str a.workspaceIdentity) (.str a.artifactId)
          (some (referenceAttributes r.toReferenceFields)) (some request) =
        .ok (artifactObject a.toArtifactFields, referenceAttributes r.toReferenceFields) ∧
      Consistent (artifactObject a.toArtifactFields) (referenceAttributes r.toReferenceFields) := by
  have hlawful := IssuanceHistories.referenceLibrary_lawful
  have htimes := AttestationReference.referenceTimes_lawful
  have hdigests := AttestationReference.referenceLibrary_digests
  have hinfix := AttestationReference.referenceLibrary_infix
  have hcivil := referenceTimes_civil
  let _ := ReferenceLibrary.referenceLibrary
  let _ := IssuanceHistories.referenceUnicode
  let _ := IssuanceHistories.referenceTimestamps
  let _ := AttestationReference.referenceTimes
  obtain ⟨a, -⟩ := AttestationReference.exists_artifact_of_revision (le_refl 1)
  obtain ⟨r, hmatches, -⟩ := exists_reference a
    (hexPattern_append (by decide : hexPattern "" AttestationReference.zeros = true))
  obtain ⟨challengeDigest, hrequest⟩ := exists_request a.claimsPayload.sound a.sound.granted
  have hagrees : Agrees (requestFor a.claimsPayload.toClaimsFields challengeDigest)
      a.claimsPayload.toClaimsFields :=
    ⟨rfl, rfl, rfl, rfl, rfl, rfl, rfl, rfl, rfl, fun _ h => h⟩
  have hread := exists_readBack hmatches
  have haccepted := restart_validator_consistent_iff.1 (validateArtifactAggregate_eq hmatches) hread
    hrequest hagrees
  have hbare : r.referenceContractVersion ≠ referenceV2ContractVersion →
      r.credentialPrincipalIdentity = "" ∧ r.challengeDigest = "" := fun hversion =>
    (r.sound.extension.resolve_right fun h => hversion h.1).2
  exact ⟨_, _, _, a, r, _, _, hread, haccepted,
    (restart_validator_consistent_iff.2 haccepted).mpr (left_of_describes hmatches
      (artifactObject_describes _) (referenceAttributes_describe hbare))⟩

/-- An artifact whose proof is no proof, with the digest of its content and a reference to it, is
accepted. -/
theorem restart_validator_accepts_inconsistent :
    ¬∀ (_ : PythonLibrary) (_ : UnicodeLibrary) (_ : TimestampLibrary) (_ : ZonedTimeLibrary)
      (_ : LawfulTextLibrary) (_ : LawfulZonedTimeLibrary) (_ : LawfulDigestLibrary)
      (_ : LawfulInfixLibrary) (_ : LawfulCivilTimes) (aggregate : Option AggregateObject)
      (workspace artifactId : Value) (expectedReference : Option Attributes)
      (expectedRequest : Option RequestFields) (artifact : ArtifactObject)
      (reference : Attributes),
      validateRestartRevalidationContextAggregate aggregate workspace artifactId
        expectedReference expectedRequest = .ok (artifact, reference) →
          Consistent artifact reference := by
  intro h
  have hlawful := IssuanceHistories.referenceLibrary_lawful
  have htimes := AttestationReference.referenceTimes_lawful
  have hdigests := AttestationReference.referenceLibrary_digests
  have hinfix := AttestationReference.referenceLibrary_infix
  have hcivil := referenceTimes_civil
  let _ := ReferenceLibrary.referenceLibrary
  let _ := IssuanceHistories.referenceUnicode
  let _ := IssuanceHistories.referenceTimestamps
  let _ := AttestationReference.referenceTimes
  obtain ⟨a, -⟩ := AttestationReference.exists_artifact_of_revision (le_refl 1)
  obtain ⟨aggregate, artifact, reference, request, haccepted, hproof⟩ := exists_forged a
  have hinconsistent := h _ _ _ _ hlawful htimes hdigests hinfix hcivil _ _ _ _ _ _ _ haccepted
  have hleft := (accepted_of_validate haccepted).consistent_iff.mp hinconsistent
  have hnot := hleft.proof
  rw [hproof] at hnot
  exact absurd hnot (by decide)

end DeliverySystem.RestartConsistency

import DeliverySystem.AttestationReference
import DeliverySystem.RestartEvidence

/-!
# Stored evidence is accepted

The objects that the constructors made have the shapes that the restart validator
asks for. An object describes a record when its attributes hold the fields of the
record; what the validator derives from the object is then what the constructor
derived from the record.
-/
namespace DeliverySystem.RestartAcceptance
open PythonValues CanonicalValues JsonText AuthorityBindings AttestationClaims
open AttestationArtifacts AttestationRecords AttestationStoreContract AttestationBoundary
open AttestationVerification RemoteSnapshots CivilTimes RestartEvidence Dict
set_option autoImplicit false

/-! ## Objects that describe records -/

/-- The attributes of a claims object hold these fields; version 1 has no extension. -/
structure DescribesClaims (claims : Attributes) (f : ClaimsFields) : Prop where
  isSet : ∀ field ∈ claimsFieldsV2, (claimsAttribute? claims field).isSome = true
  version : claimsAttribute claims "attestation_version" = .str f.attestationVersion
  attestation : claimsAttribute claims "attestation_id" = .str f.attestationId
  issuer : claimsAttribute claims "issuer_id" = .str f.issuerId
  key : claimsAttribute claims "key_id" = .str f.keyId
  algorithm : claimsAttribute claims "signature_algorithm" = .str f.signatureAlgorithm
  credentialClass : claimsAttribute claims "credential_class" = .str f.credentialClass
  credential : claimsAttribute claims "credential_instance_id" = .str f.credentialInstanceId
  subject : claimsAttribute claims "github_subject_identity" = .str f.githubSubjectIdentity
  repository : claimsAttribute claims "repository_identity" = .str f.repositoryIdentity
  granted : claimsAttribute claims "granted_capabilities" =
    .tuple (f.grantedCapabilities.map .str)
  driver : claimsAttribute claims "driver_identity" = .str f.driverIdentity
  authority : claimsAttribute claims "remote_authority" = .str f.remoteAuthority
  preview : claimsAttribute claims "preview_id" = .str f.previewId
  revision : claimsAttribute claims "revision" = .int f.revision
  operations : claimsAttribute claims "operation_set_digest" = .str f.operationSetDigest
  snapshot : claimsAttribute claims "remote_snapshot_digest" = .str f.remoteSnapshotDigest
  evidence : claimsAttribute claims "evidence_digest" = .str f.evidenceDigest
  issued : claimsAttribute claims "issued_at" = .str f.issuedAt
  expires : claimsAttribute claims "expires_at" = .str f.expiresAt
  nonce : claimsAttribute claims "nonce" = .str f.nonce
  source : claimsAttribute claims "source_verification_digest" = .str f.sourceVerificationDigest
  extended : f.attestationVersion = "2" →
    claimsAttribute claims "challenge_digest" = .str f.challengeDigest ∧
      claimsAttribute claims "credential_principal_identity" = .str f.credentialPrincipalIdentity

/-- The attributes of a reference object hold these fields; those that only version 2 has are
empty in version 1. -/
structure DescribesReference (reference : Attributes) (r : ReferenceFields) : Prop where
  isSet : hasFields reference referenceFieldNames = true
  version : reference.get "reference_contract_version" = .str r.referenceContractVersion
  referenceId : reference.get "reference_id" = .str r.referenceId
  workspace : reference.get "workspace_identity" = .str r.workspaceIdentity
  artifactId : reference.get "artifact_id" = .str r.artifactId
  artifactDigest : reference.get "artifact_digest" = .str r.artifactDigest
  bindingId : reference.get "binding_id" = .str r.bindingId
  repository : reference.get "repository_identity" = .str r.repositoryIdentity
  subject : reference.get "github_subject_identity" = .str r.githubSubjectIdentity
  driver : reference.get "driver_identity" = .str r.driverIdentity
  authority : reference.get "remote_authority" = .str r.remoteAuthority
  preview : reference.get "preview_id" = .str r.previewId
  revision : reference.get "revision" = .int r.revision
  plan : reference.get "plan_digest" = .str r.planDigest
  sealedPreview : reference.get "sealed_preview_digest" = .str r.sealedPreviewDigest
  operations : reference.get "operation_set_digest" = .str r.operationSetDigest
  snapshot : reference.get "remote_snapshot_digest" = .str r.remoteSnapshotDigest
  auditId : reference.get "audit_id" = .str r.auditId
  auditDigest : reference.get "audit_digest" = .str r.auditDigest
  evidenceId : reference.get "evidence_id" = .str r.evidenceId
  evidenceDigest : reference.get "evidence_digest" = .str r.evidenceDigest
  original : reference.get "original_verified_at" = .str r.originalVerifiedAt
  digest : reference.get "binding_reference_digest" = .str r.bindingReferenceDigest
  extended : r.referenceContractVersion = referenceV2ContractVersion →
    reference.get "credential_principal_identity" = .str r.credentialPrincipalIdentity ∧
      reference.get "challenge_digest" = .str r.challengeDigest
  bare : r.referenceContractVersion ≠ referenceV2ContractVersion →
    Value.truthy (reference.get "credential_principal_identity") = false ∧
      Value.truthy (reference.get "challenge_digest") = false

theorem claimsAttributes_describe (f : ClaimsFields) : DescribesClaims (claimsAttributes f) f := by
  constructor
  · simp [claimsFieldsV2, claimsFieldsV1, claimsAttribute?, claimsAttributes,
      ClaimsFields.baseRaw, List.lookup_cons]
  all_goals
    simp [claimsAttribute, claimsAttribute?, claimsAttributes, ClaimsFields.baseRaw,
      List.lookup_cons]

theorem referenceAttributes_describe {r : ReferenceFields}
    (hbare : r.referenceContractVersion ≠ referenceV2ContractVersion →
      r.credentialPrincipalIdentity = "" ∧ r.challengeDigest = "") :
    DescribesReference (referenceAttributes r) r := by
  constructor
  case bare =>
    intro hversion
    obtain ⟨hprincipal, hchallenge⟩ := hbare hversion
    simp [referenceAttributes, Dict.get, List.lookup_cons, hprincipal, hchallenge, Value.truthy]
  case isSet =>
    simp [hasFields, referenceFieldNames, legacyReferenceFields, referenceAttributes,
      List.lookup_cons]
  all_goals simp [referenceAttributes, Dict.get, List.lookup_cons]

section
variable {claims : Attributes} {f : ClaimsFields} {reference : Attributes} {r : ReferenceFields}

theorem DescribesClaims.version_iff (h : DescribesClaims claims f) (version : String) :
    claimsAttribute claims "attestation_version" = .str version ↔
      f.attestationVersion = version := by
  rw [h.version, Value.str.injEq]

/-- The payload of the object is that of the record. -/
theorem DescribesClaims.identityPayload (h : DescribesClaims claims f) :
    RestartEvidence.identityPayload claims = f.identityPayload := by
  have hentries : identityFields.map (identityEntry claims) =
      [("attestation_version", .str f.attestationVersion), ("issuer_id", .str f.issuerId),
        ("key_id", .str f.keyId), ("signature_algorithm", .str f.signatureAlgorithm),
        ("credential_class", .str f.credentialClass),
        ("credential_instance_id", .str f.credentialInstanceId),
        ("github_subject_identity", .str f.githubSubjectIdentity),
        ("repository_identity", .str f.repositoryIdentity),
        ("granted_capabilities", Value.texts f.grantedCapabilities),
        ("driver_identity", .str f.driverIdentity), ("remote_authority", .str f.remoteAuthority),
        ("preview_id", .str f.previewId), ("revision", .int f.revision),
        ("operation_set_digest", .str f.operationSetDigest),
        ("remote_snapshot_digest", .str f.remoteSnapshotDigest),
        ("evidence_digest", .str f.evidenceDigest), ("issued_at", .str f.issuedAt),
        ("expires_at", .str f.expiresAt), ("nonce", .str f.nonce),
        ("source_verification_digest", .str f.sourceVerificationDigest)] := by
    simp [identityFields, identityEntry, h.version, h.issuer, h.key, h.algorithm,
      h.credentialClass, h.credential, h.subject, h.repository, h.granted, h.driver, h.authority,
      h.preview, h.revision, h.operations, h.snapshot, h.evidence, h.issued, h.expires, h.nonce,
      h.source, Value.sequence?, Value.texts]
  rw [RestartEvidence.identityPayload, List.map_append, hentries, ClaimsFields.identityPayload,
    ClaimsFields.extension]
  by_cases hversion : f.attestationVersion = "2"
  · obtain ⟨hchallenge, hprincipal⟩ := h.extended hversion
    rw [if_pos ((h.version_iff "2").mpr hversion), if_pos hversion]
    simp [identityEntry, hchallenge, hprincipal]
  · rw [if_neg (mt (h.version_iff "2").mp hversion), if_neg hversion, List.map_nil]

theorem DescribesClaims.domain (h : DescribesClaims claims f) : claimsDomain claims = f.domain := by
  rw [claimsDomain, ClaimsFields.domain]
  by_cases hversion : f.attestationVersion = "2"
  · rw [if_pos ((h.version_iff "2").mpr hversion), if_pos hversion]
  · rw [if_neg (mt (h.version_iff "2").mp hversion), if_neg hversion]

theorem DescribesClaims.derivedId [PythonLibrary] [UnicodeLibrary] (h : DescribesClaims claims f) :
    derivedAttestationId claims = f.derivedAttestationId := by
  rw [derivedAttestationId, h.domain, h.identityPayload, ClaimsFields.derivedAttestationId]

theorem DescribesClaims.claimsDigest [PythonLibrary] [UnicodeLibrary]
    (h : DescribesClaims claims f) :
    RestartEvidence.claimsDigest claims = f.claimsDigest := by
  rw [RestartEvidence.claimsDigest, h.domain, h.identityPayload, ClaimsFields.claimsDigest]

theorem DescribesClaims.claimsEntries (h : DescribesClaims claims f) :
    RestartEvidence.claimsEntries claims = f.claimsEntries := by
  rw [RestartEvidence.claimsEntries, h.identityPayload, h.attestation, ClaimsFields.claimsEntries]

theorem DescribesClaims.payload (h : DescribesClaims claims f) :
    .dict (claimsPayload claims) = f.toPayload := by
  rw [claimsPayload, h.domain, h.claimsEntries, ClaimsFields.toPayload]

/-- The content of the object is that of the record. -/
theorem DescribesReference.content (h : DescribesReference reference r) :
    referenceContent reference = r.content := by
  have hfields : referenceContentFields.map (fun field => (field, reference.get field)) =
      [("workspace_identity", .str r.workspaceIdentity), ("artifact_id", .str r.artifactId),
        ("artifact_digest", .str r.artifactDigest), ("binding_id", .str r.bindingId),
        ("repository_identity", .str r.repositoryIdentity),
        ("github_subject_identity", .str r.githubSubjectIdentity),
        ("driver_identity", .str r.driverIdentity), ("remote_authority", .str r.remoteAuthority),
        ("preview_id", .str r.previewId), ("revision", .int r.revision),
        ("plan_digest", .str r.planDigest),
        ("sealed_preview_digest", .str r.sealedPreviewDigest),
        ("operation_set_digest", .str r.operationSetDigest),
        ("remote_snapshot_digest", .str r.remoteSnapshotDigest), ("audit_id", .str r.auditId),
        ("audit_digest", .str r.auditDigest), ("evidence_id", .str r.evidenceId),
        ("evidence_digest", .str r.evidenceDigest),
        ("original_verified_at", .str r.originalVerifiedAt)] := by
    simp [referenceContentFields, h.workspace, h.artifactId, h.artifactDigest, h.bindingId,
      h.repository, h.subject, h.driver, h.authority, h.preview, h.revision, h.plan,
      h.sealedPreview, h.operations, h.snapshot, h.auditId, h.auditDigest, h.evidenceId,
      h.evidenceDigest, h.original]
  rw [referenceContent, List.map_append, hfields, h.version, ReferenceFields.content,
    ReferenceFields.extension]
  by_cases hversion : r.referenceContractVersion = referenceV2ContractVersion
  · obtain ⟨hprincipal, hchallenge⟩ := h.extended hversion
    rw [if_pos (congrArg Value.str hversion), if_pos hversion]
    simp [hprincipal, hchallenge]
  · rw [if_neg (fun heq => hversion (Value.str.inj heq)), if_neg hversion]
    rfl

end

/-! ## Shapes of what was made -/

@[simp] theorem orFalse_eq_true {condition : Prop} [Decidable condition] {rest : Py Bool} :
    orFalse condition rest = .ok true ↔ condition ∧ rest = .ok true := by
  unfold orFalse
  split_ifs with h <;> simp [h]

theorem inSet_eq_true {value : Value} {texts : List String} :
    inSet value texts = .ok true ↔ ∃ s ∈ texts, value = .str s := by
  unfold inSet
  split_ifs with h
  · simp only [Except.ok.injEq, decide_eq_true_eq, List.mem_map]
    exact ⟨fun ⟨s, hs, heq⟩ => ⟨s, hs, heq.symm⟩, fun ⟨s, hs, heq⟩ => ⟨s, hs, heq.symm⟩⟩
  · simp only [false_iff, not_exists, not_and]
    rintro s - rfl
    exact h rfl

theorem claimsShapeIsValid_eq_true [PythonLibrary] [UnicodeLibrary] {claims : Attributes} :
    claimsShapeIsValid (some claims) = .ok true ↔
      (claimsAttribute claims "attestation_version" = .str "1" ∨
        claimsAttribute claims "attestation_version" = .str "2") ∧ ClaimsShape claims := by
  simp only [claimsShapeIsValid, bind_eq_ok, orRaise_eq_ok, pure_eq_ok, Bool.and_eq_true,
    decide_eq_true_eq, claimsAttribute]
  constructor
  · rintro ⟨version, hversion, _, hsupported, rfl, hshape⟩
    obtain ⟨s, hs, rfl⟩ := inSet_eq_true.mp hsupported
    rw [hversion]
    exact ⟨by simpa using hs, hshape⟩
  · rintro ⟨hversion, hshape⟩
    cases hset : claimsAttribute? claims "attestation_version" with
    | none =>
        rw [hset] at hversion
        simp at hversion
    | some version =>
        rw [hset, Option.getD_some] at hversion
        refine ⟨version, rfl, true, inSet_eq_true.mpr ?_, rfl, hshape⟩
        rcases hversion with rfl | rfl
        · exact ⟨"1", by simp, rfl⟩
        · exact ⟨"2", by simp, rfl⟩

section
variable [PythonLibrary] [UnicodeLibrary] [TimestampLibrary] [LawfulTextLibrary]

/-- The validator accepts the texts that the constructors settle on. -/
theorem validText_iff {value : Value} :
    validText value = true ↔ ∃ s, value = .str s ∧ Settled s := by
  cases value with
  | str s =>
      simp only [validText, Bool.and_eq_true, decide_eq_true_eq, Bool.not_eq_true',
        Value.str.injEq, exists_eq_left']
      constructor
      · rintro ⟨⟨⟨hne, -⟩, hsame⟩, hprintable⟩
        refine ⟨?_, ?_, ?_, hne, hprintable⟩
        · rw [hsame]
          exact LawfulTextLibrary.nfc_strip s
        · rw [hsame]
          exact LawfulTextLibrary.strip_strip _
        · rw [hsame]
          exact LawfulTextLibrary.rstrip_strip _
      · intro h
        have hnormal : PythonLibrary.strip (UnicodeLibrary.nfc s) = s := by rw [h.nfc, h.strip]
        rw [hnormal]
        exact ⟨⟨⟨h.nonEmpty, h.nonEmpty⟩, rfl⟩, h.printable⟩
  | _ => simp [validText]

theorem validText_of_settled {s : String} (h : Settled s) : validText (.str s) = true :=
  validText_iff.mpr ⟨s, rfl, h⟩

omit [PythonLibrary] [UnicodeLibrary] [TimestampLibrary] [LawfulTextLibrary] in
theorem validId_iff {value : Value} {pattern : String → Bool} :
    validId value pattern = true ↔ ∃ s, value = .str s ∧ pattern s = true := by
  cases value <;> simp [validId, Value.text?]

omit [PythonLibrary] [UnicodeLibrary] [TimestampLibrary] [LawfulTextLibrary] in
theorem validRevision_iff {value : Value} :
    validRevision value = true ↔ ∃ n : Int, value = .int n ∧ 1 ≤ n := by
  cases value with
  | int n =>
      simp only [validRevision, Value.positive?, Value.int.injEq, exists_eq_left']
      split_ifs with hpositive <;> simp [hpositive]
  | _ => simp [validRevision, Value.positive?]

omit [PythonLibrary] [UnicodeLibrary] [TimestampLibrary] [LawfulTextLibrary] in
theorem textsOf_map (items : List String) : textsOf (items.map .str) = items := by
  rw [textsOf, List.filterMap_map]
  exact List.filterMap_some

theorem validCapabilities_iff {value : Value} :
    validCapabilities value = true ↔ ∃ items : List String, value = .tuple (items.map .str) ∧
      items ≠ [] ∧ (∀ item ∈ items, Settled item) ∧ items.Nodup ∧
        items.insertionSort (· ≤ ·) = items := by
  cases value with
  | tuple values =>
      simp only [validCapabilities, Bool.and_eq_true, decide_eq_true_eq, List.all_eq_true,
        Value.tuple.injEq]
      constructor
      · rintro ⟨⟨⟨hne, hvalid⟩, hdistinct⟩, hsorted⟩
        have hvalues : values = (textsOf values).map .str := by
          clear hne hdistinct hsorted
          induction values with
          | nil => rfl
          | cons value rest ih =>
              obtain ⟨s, rfl, -⟩ := validText_iff.mp (hvalid value List.mem_cons_self)
              have hrest := ih fun v hv => hvalid v (List.mem_cons_of_mem _ hv)
              change Value.str s :: rest = Value.str s :: (textsOf rest).map .str
              rw [← hrest]
        refine ⟨textsOf values, hvalues, ?_, ?_, hdistinct, hsorted⟩
        · intro hnil
          rw [hvalues, hnil] at hne
          exact hne rfl
        · intro item hitem
          have hmem : Value.str item ∈ values := by
            rw [hvalues]
            exact List.mem_map_of_mem hitem
          obtain ⟨s, hs, hsettled⟩ := validText_iff.mp (hvalid _ hmem)
          rw [Value.str.inj hs]
          exact hsettled
      · rintro ⟨items, rfl, hne, hsettled, hdistinct, hsorted⟩
        rw [textsOf_map]
        refine ⟨⟨⟨by simpa using hne, ?_⟩, hdistinct⟩, hsorted⟩
        intro value hvalue
        obtain ⟨item, hitem, rfl⟩ := List.mem_map.mp hvalue
        exact validText_of_settled (hsettled item hitem)
  | _ => simp [validCapabilities]

omit [PythonLibrary] [UnicodeLibrary] [TimestampLibrary] [LawfulTextLibrary] in
theorem canonicalTimestamp_of_civil {s : String} {t : CivilTime} {fraction : Bool}
    (ht : t.Valid) (hs : s = civilText t fraction) : canonicalTimestamp (.str s) = true := by
  change canonicalCivil s = true
  rw [hs]
  exact canonicalCivil_text ht fraction

variable [ZonedTimeLibrary] [LawfulCivilTimes]

omit [TimestampLibrary] [LawfulTextLibrary] in
theorem canonical_of_written {s : String} {t : Instant} (h : WrittenTime s t) :
    canonicalTimestamp (.str s) = true := by
  obtain ⟨civil, fraction, hvalid, hwritten⟩ := LawfulCivilTimes.isoformat h.parse
  exact canonicalTimestamp_of_civil hvalid (h.written.trans hwritten)

omit [TimestampLibrary] [LawfulTextLibrary] in
theorem canonical_of_stored {s : String} {t : Instant} (h : StoredTime s t) :
    canonicalTimestamp (.str s) = true := by
  obtain ⟨civil, hvalid, hwritten⟩ := LawfulCivilTimes.isoformatMicroseconds h.parse
  exact canonicalTimestamp_of_civil hvalid (h.written.trans hwritten)

/-- Claims with a capability have the shape that is asked for. -/
theorem DescribesClaims.shape {claims : Attributes} {f : ClaimsFields}
    (h : DescribesClaims claims f) (hf : f.Sound) (hgranted : f.grantedCapabilities ≠ [])
    (hattestation : hexPattern "attestation-" f.attestationId = true) :
    claimsShapeIsValid (some claims) = .ok true := by
  obtain ⟨issued, expires, hissued, hexpires, -⟩ := hf.lasting
  have htext := fun {s : String} (hs : Settled s) => validText_of_settled hs
  have hdigest : ∀ {s : String}, Matching (hexPattern "sha256:") s →
      validDigest (.str s) = true := fun hs => validId_iff.mpr ⟨_, rfl, hs.pattern⟩
  have hbase : ∀ field ∈ claimsFieldsV1, field ∉ ["granted_capabilities", "revision"] →
      validText (claimsAttribute claims field) = true := by
    simp only [claimsFieldsV1, List.forall_mem_cons, List.not_mem_nil, false_implies,
      implies_true, and_true, h.version, h.attestation, h.issuer, h.key, h.algorithm,
      h.credentialClass, h.credential, h.subject, h.repository, h.driver, h.authority, h.preview,
      h.operations, h.snapshot, h.evidence, h.issued, h.expires, h.nonce, h.source]
    exact ⟨fun _ => htext hf.version.settled, fun _ => htext hf.attestation.settled,
      fun _ => htext hf.issuer.settled, fun _ => htext hf.key.settled,
      fun _ => htext hf.algorithm.settled, fun _ => htext hf.credentialClass.settled,
      fun _ => htext hf.credential.settled, fun _ => htext hf.subject,
      fun _ => htext hf.repository, fun hnot => absurd (by decide) hnot,
      fun _ => htext hf.driver, fun _ => htext hf.authority.settled,
      fun _ => htext hf.preview.settled, fun hnot => absurd (by decide) hnot,
      fun _ => htext hf.operations.settled, fun _ => htext hf.snapshot.settled,
      fun _ => htext hf.evidence.settled, fun _ => htext hissued.settled,
      fun _ => htext hexpires.settled, fun _ => htext hf.nonce.settled,
      fun _ => htext hf.source.settled⟩
  have hfields : ∀ field ∈ claimsFieldNames claims, field ∉ ["granted_capabilities", "revision"] →
      validText (claimsAttribute claims field) = true := by
    unfold claimsFieldNames
    split_ifs with hversion
    · rcases hf.extension with ⟨hone, -⟩ | ⟨htwo, hchallenge, hprincipal⟩
      · rw [h.version, hone] at hversion
        exact absurd (Value.str.inj hversion) (by decide)
      · obtain ⟨hsecond, hthird⟩ := h.extended htwo
        rw [claimsFieldsV2, List.forall_mem_append]
        refine ⟨hbase, ?_⟩
        simp only [List.forall_mem_cons, List.not_mem_nil, false_implies, implies_true, and_true,
          hsecond, hthird]
        exact ⟨fun _ => htext hchallenge.settled, fun _ => htext hprincipal⟩
    · exact hbase
  refine claimsShapeIsValid_eq_true.mpr ⟨?_, h.isSet, hfields, ?_, ?_, ?_, ?_, ?_, ?_⟩
  · rw [h.version]
    rcases hf.extension with ⟨hone, -⟩ | ⟨htwo, -⟩
    · exact .inl (congrArg Value.str hone)
    · exact .inr (congrArg Value.str htwo)
  · rw [h.attestation]
    exact validId_iff.mpr ⟨_, rfl, hattestation⟩
  · rw [h.revision]
    exact validRevision_iff.mpr ⟨_, rfl, hf.revision⟩
  · rw [h.granted]
    exact validCapabilities_iff.mpr ⟨_, rfl, hgranted, hf.granted, hf.distinct, hf.sorted⟩
  · simp only [List.forall_mem_cons, List.not_mem_nil, false_implies, implies_true, and_true,
      h.authority, h.operations, h.snapshot, h.evidence, h.source]
    exact ⟨hdigest hf.authority, hdigest hf.operations, hdigest hf.snapshot, hdigest hf.evidence,
      hdigest hf.source⟩
  · rw [h.issued]
    exact canonical_of_written hissued
  · rw [h.expires]
    exact canonical_of_written hexpires

end

section
variable [PythonLibrary] [UnicodeLibrary]

/-- The identity of claims is a word and a digest. -/
theorem attestationId_pattern [LawfulDigestLibrary] {f : ClaimsFields} {id : String}
    (h : f.derivedAttestationId = .ok id) : hexPattern "attestation-" id = true := by
  simp only [ClaimsFields.derivedAttestationId, bind_eq_ok, pure_eq_ok] at h
  obtain ⟨material, -, rfl⟩ := h
  exact hexPattern_append (LawfulDigestLibrary.hexdigest material)

variable [ZonedTimeLibrary]

/-- The attributes of an artifact object hold these fields, and its claims these claims. -/
structure DescribesArtifact (artifact : ArtifactObject) (a : ArtifactFields) : Prop where
  isSet : hasFields artifact.attributes artifactAttributeNames = true
  areClaims : artifact.claimsPayload = some (some artifact.claims)
  claims : DescribesClaims artifact.claims a.claimsPayload.toClaimsFields
  version : artifact.get "artifact_contract_version" = .str artifactContractVersion
  artifactId : artifact.get "artifact_id" = .str a.artifactId
  workspace : artifact.get "workspace_identity" = .str a.workspaceIdentity
  attestation : artifact.get "attestation_id" = .str a.attestationId
  proof : artifact.get "detached_proof" = .str a.detachedProof
  claimsDigest : artifact.get "claims_digest" = .str a.claimsDigest
  artifactDigest : artifact.get "artifact_digest" = .str a.artifactDigest
  original : artifact.get "original_verified_at" = .str a.originalVerifiedAt
  created : artifact.get "created_at" = .str a.createdAt

theorem artifactObject_describes (a : ArtifactFields) : DescribesArtifact (artifactObject a) a := by
  constructor
  case isSet =>
    simp [hasFields, artifactAttributeNames, artifactObject, artifactAttributes, List.lookup_cons]
  case areClaims => rfl
  case claims => exact claimsAttributes_describe _
  all_goals
    simp [ArtifactObject.get, artifactObject, artifactAttributes, Dict.get, List.lookup_cons]

/-- The content of the object is that of the record. -/
theorem DescribesArtifact.content {artifact : ArtifactObject} {a : ArtifactFields}
    (h : DescribesArtifact artifact a)
    (hattestation : a.attestationId = a.claimsPayload.attestationId) :
    .dict (objectContent artifact) = artifactContent a.workspaceIdentity a.claimsPayload
      a.detachedProof a.claimsDigest a.originalVerifiedAt a.createdAt := by
  rw [objectContent, artifactContent, h.version, h.workspace, h.attestation, h.proof,
    h.claimsDigest, h.original, h.created, h.claims.payload, hattestation]

end

section
variable [PythonLibrary] [UnicodeLibrary] [ZonedTimeLibrary] [TimestampLibrary]
  [LawfulTextLibrary] [LawfulCivilTimes] [LawfulZonedTimeLibrary] [LawfulDigestLibrary]
  [LawfulInfixLibrary]

omit [LawfulInfixLibrary] in
/-- The object of an artifact that was made has the shape that is asked for. -/
theorem DescribesArtifact.shape {artifact : ArtifactObject} {a : ArtifactFields}
    (h : DescribesArtifact artifact a) (ha : a.Sound) :
    artifactShapeIsValid (some artifact) = .ok true := by
  obtain ⟨original, created, -, -, horiginal, hcreated, -⟩ := ha.times
  have hclaims := a.claimsPayload.sound
  obtain ⟨hproof, hproofNonEmpty⟩ := proofPattern_graphic ha.proof
  have hattestation : Settled a.attestationId := by
    rw [ha.attestation]
    exact hclaims.attestation.settled
  simp only [artifactShapeIsValid, orFalse_eq_true, bind_eq_ok, pure_eq_ok, decide_eq_true_eq]
  refine ⟨⟨h.isSet, by rw [h.areClaims]; rfl, h.version, ?_, ?_, ?_⟩, true, ?_,
    ⟨rfl, ?_, ?_, ?_, ?_, ?_, ?_⟩, _, ?_, h.claimsDigest, _, ?_, h.artifactDigest⟩
  · rw [h.artifactId]
    exact validId_iff.mpr ⟨_, rfl, ha.artifactIdForm⟩
  · rw [h.workspace]
    exact validText_of_settled ha.workspace
  · rw [h.attestation]
    exact validText_of_settled hattestation
  · rw [h.areClaims]
    exact h.claims.shape hclaims ha.granted (attestationId_pattern hclaims.derived)
  · rw [h.attestation, h.claims.attestation, ha.attestation]
  · rw [h.proof]
    exact validText_of_settled (hproof.settled hproofNonEmpty)
  · rw [h.claimsDigest]
    exact validId_iff.mpr ⟨_, rfl, ha.claimsDigestForm⟩
  · rw [h.artifactDigest]
    exact validId_iff.mpr ⟨_, rfl, ha.contentForm⟩
  · rw [h.original]
    exact canonical_of_stored horiginal
  · rw [h.created]
    exact canonical_of_stored hcreated
  · rw [h.claims.claimsDigest]
    exact ha.claimsDigest
  · rw [h.content ha.attestation]
    exact ha.content

omit [LawfulZonedTimeLibrary] [LawfulDigestLibrary] [LawfulInfixLibrary] in
/-- The object of a reference that was made has the shape that is asked for. -/
theorem DescribesReference.shape {reference : Attributes} {r : ReferenceFields}
    (h : DescribesReference reference r) (hr : r.Sound) :
    referenceShapeIsValid (some reference) = .ok true := by
  obtain ⟨original, horiginal⟩ := hr.original
  have htext : ∀ {s : String}, s ∈ [r.workspaceIdentity, r.repositoryIdentity,
      r.githubSubjectIdentity, r.driverIdentity, r.previewId, r.auditId, r.evidenceId] →
      validText (.str s) = true := fun hs => validText_of_settled (hr.texts _ hs)
  have hdigest : ∀ {s : String}, s ∈ [r.artifactDigest, r.remoteAuthority, r.planDigest,
      r.sealedPreviewDigest, r.operationSetDigest, r.remoteSnapshotDigest, r.auditDigest,
      r.evidenceDigest, r.bindingReferenceDigest] → validDigest (.str s) = true :=
    fun hs => validId_iff.mpr ⟨_, rfl, hr.digests _ hs⟩
  have hartifact : validText (.str r.artifactId) = true :=
    validText_of_settled (hexPattern_settled (by decide) hr.artifactId)
  have hbase : ∀ field ∈ ["workspace_identity", "artifact_id", "repository_identity",
      "github_subject_identity", "driver_identity", "preview_id", "audit_id", "evidence_id"],
      validText (reference.get field) = true := by
    simp only [List.forall_mem_cons, List.not_mem_nil, false_implies, implies_true, and_true,
      h.workspace, h.artifactId, h.repository, h.subject, h.driver, h.preview, h.auditId,
      h.evidenceId]
    exact ⟨htext (by simp), hartifact, htext (by simp), htext (by simp), htext (by simp),
      htext (by simp), htext (by simp), htext (by simp)⟩
  have hfields : ∀ field ∈ referenceTextFields reference,
      validText (reference.get field) = true := by
    rw [referenceTextFields, h.version]
    rcases hr.extension with ⟨hversion, -⟩ | ⟨hversion, hprincipal, hchallenge⟩
    · rw [if_neg fun heq => hversion (Value.str.inj heq)]
      exact hbase
    · obtain ⟨hsecond, hthird⟩ := h.extended hversion
      rw [if_pos (congrArg Value.str hversion)]
      have hlist : referenceFieldNames.filter (fun field => field ∉ ["revision",
          "reference_contract_version", "reference_id", "binding_id", "original_verified_at"] ++
            referenceDigestFields) = ["workspace_identity", "artifact_id", "repository_identity",
          "github_subject_identity", "driver_identity", "preview_id", "audit_id",
          "evidence_id"] ++ ["credential_principal_identity", "challenge_digest"] := by decide
      rw [hlist, List.forall_mem_append]
      refine ⟨hbase, ?_⟩
      simp only [List.forall_mem_cons, List.not_mem_nil, false_implies, implies_true, and_true,
        hsecond, hthird]
      exact ⟨validText_of_settled hprincipal,
        validText_of_settled (hexPattern_settled (by decide) hchallenge)⟩
  simp only [referenceShapeIsValid, orFalse_eq_true, bind_eq_ok, pure_eq_ok, decide_eq_true_eq]
  refine ⟨h.isSet, true, inSet_eq_true.mpr ⟨_, ?_, h.version⟩,
    ⟨rfl, ?_, ?_, hfields, ?_, ?_, ?_, ?_⟩, _, ?_, h.digest⟩
  · rcases hr.version with hversion | hversion
    · rw [hversion]
      exact List.mem_cons_self
    · rw [hversion]
      exact List.mem_cons_of_mem _ List.mem_cons_self
  · rw [h.referenceId]
    exact validId_iff.mpr ⟨_, rfl, hr.referenceIdForm⟩
  · rw [h.bindingId]
    exact validId_iff.mpr ⟨_, rfl, hr.bindingId⟩
  · rw [h.version]
    rcases hr.extension with ⟨hversion, -⟩ | ⟨hversion, -, hchallenge⟩
    · rcases hr.version with hone | htwo
      · rw [if_pos (congrArg Value.str hone)]
        exact h.bare hversion
      · exact absurd htwo hversion
    · rw [hversion, if_neg (by decide), (h.extended hversion).2]
      exact validId_iff.mpr ⟨_, rfl, hchallenge⟩
  · rw [h.revision]
    exact validRevision_iff.mpr ⟨_, rfl, hr.revision⟩
  · simp only [referenceDigestFields, List.forall_mem_cons, List.not_mem_nil, false_implies,
      implies_true, and_true, h.artifactDigest, h.authority, h.plan, h.sealedPreview,
      h.operations, h.snapshot, h.auditDigest, h.evidenceDigest, h.digest]
    exact ⟨hdigest (by simp), hdigest (by simp), hdigest (by simp), hdigest (by simp),
      hdigest (by simp), hdigest (by simp), hdigest (by simp), hdigest (by simp),
      hdigest (by simp)⟩
  · rw [h.original]
    exact canonical_of_stored horiginal
  · rw [h.content]
    exact hr.content

omit [LawfulCivilTimes] [LawfulZonedTimeLibrary] [LawfulDigestLibrary]
  [LawfulInfixLibrary] in
/-- The reference that is made again from the object. -/
theorem DescribesReference.postInit {reference : Attributes} {r : ReferenceFields}
    (h : DescribesReference reference r) (hr : r.Sound) :
    (ReferenceArguments.named reference).postInit = .ok r := by
  have hnamed : ReferenceArguments.named reference =
      { r.arguments with
        credentialPrincipalIdentity := reference.get "credential_principal_identity"
        challengeDigest := reference.get "challenge_digest" } := by
    simp only [ReferenceArguments.named, ReferenceFields.arguments, h.version, h.referenceId,
      h.workspace, h.artifactId, h.artifactDigest, h.bindingId, h.repository, h.subject, h.driver,
      h.authority, h.preview, h.revision, h.plan, h.sealedPreview, h.operations, h.snapshot,
      h.auditId, h.auditDigest, h.evidenceId, h.evidenceDigest, h.original, h.digest]
  rw [hnamed]
  refine hr.postInit_of ?_
  rcases hr.extension with ⟨hversion, hprincipal, hchallenge⟩ | ⟨hversion, -⟩
  · obtain ⟨hfirst, hsecond⟩ := h.bare hversion
    rw [referenceExtension, if_neg hversion, hprincipal, hchallenge]
    simp only [bind_eq_ok, require_eq_ok, pure_eq_ok]
    exact ⟨(), ⟨hfirst, hsecond⟩, trivial⟩
  · obtain ⟨hfirst, hsecond⟩ := h.extended hversion
    rw [hfirst, hsecond]
    exact referenceExtension_eq_ok hr.extension

/-! ## The context is JSON -/

omit [PythonLibrary] [UnicodeLibrary] [ZonedTimeLibrary] [TimestampLibrary] [LawfulTextLibrary]
  [LawfulCivilTimes] [LawfulZonedTimeLibrary] [LawfulDigestLibrary] [LawfulInfixLibrary] in
theorem jsonCompatibleEntries_iff [UnicodeLibrary] {entries : Dict} :
    jsonCompatibleEntries entries = true ↔ ∀ e ∈ entries, jsonCompatible e.2 = true := by
  induction entries with
  | nil => simp [jsonCompatibleEntries]
  | cons e rest ih =>
      obtain ⟨key, value⟩ := e
      simp only [jsonCompatibleEntries, Bool.and_eq_true, ih, List.forall_mem_cons]

omit [ZonedTimeLibrary] [LawfulCivilTimes] [LawfulZonedTimeLibrary] [LawfulDigestLibrary]
  [LawfulInfixLibrary] in
theorem jsonCompatible_dict {entries : Dict} (hkeys : ∀ key ∈ Dict.keys entries, Graphic key)
    (hdistinct : (Dict.keys entries).Nodup)
    (hvalues : ∀ e ∈ entries, jsonCompatible e.2 = true) :
    jsonCompatible (.dict entries) = true := by
  have hnfc : entries.map (fun e => UnicodeLibrary.nfc e.1) = Dict.keys entries :=
    List.map_congr_left fun e he =>
      (LawfulTextLibrary.graphic (hkeys e.1 (List.mem_map_of_mem he))).1
  rw [jsonCompatible, hnfc]
  simp only [Bool.and_eq_true, decide_eq_true_eq]
  exact ⟨hdistinct, jsonCompatibleEntries_iff.mpr hvalues⟩

omit [PythonLibrary] [UnicodeLibrary] [ZonedTimeLibrary] [TimestampLibrary] [LawfulTextLibrary]
  [LawfulCivilTimes] [LawfulZonedTimeLibrary] [LawfulDigestLibrary] [LawfulInfixLibrary] in
theorem jsonCompatible_texts [UnicodeLibrary] (items : List String) :
    jsonCompatible (Value.texts items) = true := by
  rw [Value.texts, jsonCompatible]
  induction items with
  | nil => rfl
  | cons item rest ih =>
      rw [List.map_cons, jsonCompatibleItems, ih, jsonCompatible]
      rfl

omit [ZonedTimeLibrary] [LawfulCivilTimes] [LawfulZonedTimeLibrary] [LawfulDigestLibrary]
  [LawfulInfixLibrary] in
theorem jsonCompatible_claims (f : ClaimsFields) : jsonCompatible f.toPayload = true := by
  have hextension : ∀ e ∈ f.extension, jsonCompatible e.2 = true := by
    unfold ClaimsFields.extension
    split_ifs <;> simp [jsonCompatible]
  have hclaims : jsonCompatible (.dict f.claimsEntries) = true := by
    refine jsonCompatible_dict f.claimsEntries_keys.2 f.claimsEntries_keys.1 ?_
    simp only [ClaimsFields.claimsEntries, ClaimsFields.identityPayload, List.forall_mem_append,
      List.forall_mem_cons, List.not_mem_nil, false_implies, implies_true, and_true,
      jsonCompatible, jsonCompatible_texts, true_and]
    exact hextension
  rw [ClaimsFields.toPayload]
  refine jsonCompatible_dict ?_ ?_ ?_
  · simp only [Dict.keys, List.map_cons, List.map_nil]
    decide
  · simp only [Dict.keys, List.map_cons, List.map_nil]
    decide
  · simp only [List.forall_mem_cons, List.not_mem_nil, false_implies, implies_true, and_true,
      hclaims]
    rfl

omit [ZonedTimeLibrary] [LawfulCivilTimes] [LawfulZonedTimeLibrary] [LawfulDigestLibrary]
  [LawfulInfixLibrary] in
theorem jsonCompatible_reference (r : ReferenceFields) :
    jsonCompatible (.dict r.projection) = true := by
  have hextension : ∀ e ∈ r.extension, jsonCompatible e.2 = true := by
    unfold ReferenceFields.extension
    split_ifs <;> simp [jsonCompatible]
  refine jsonCompatible_dict r.projection_keys.2.1 r.projection_keys.1 ?_
  simp only [ReferenceFields.projection, List.forall_mem_append, List.forall_mem_cons,
    List.not_mem_nil, false_implies, implies_true, and_true, jsonCompatible, true_and]
  exact hextension

omit [LawfulCivilTimes] [LawfulZonedTimeLibrary] [LawfulDigestLibrary]
  [LawfulInfixLibrary] in
/-- The key sets of the context are those that are asked for. -/
theorem payloadKeysets_valid {artifact : ArtifactObject} {a : ArtifactFields}
    {reference : Attributes} {r : ReferenceFields} (ha : DescribesArtifact artifact a)
    (hr : DescribesReference reference r) (hsound : r.Sound) :
    payloadKeysetsAreValid artifact reference = .ok true := by
  have hreference : referencePayload reference = .ok r.projection := by
    simp only [referencePayload, bind_eq_ok, pure_eq_ok]
    exact ⟨⟨r, _, hr.postInit hsound⟩,
      AttestationBindingReference.make_eq_ok.mpr (hr.postInit hsound), rfl⟩
  have hnames : Dict.hasExactly (claimsEntries artifact.claims)
      (claimsFieldNames artifact.claims) = true := by
    rw [Dict.hasExactly_iff, ha.claims.claimsEntries]
    intro key
    rw [claimsEntries_fields, namedFields, claimsFieldNames]
    by_cases hversion : a.claimsPayload.attestationVersion = "2"
    · rw [if_pos hversion, if_pos ((ha.claims.version_iff "2").mpr hversion)]
    · rw [if_neg hversion, if_neg (mt (ha.claims.version_iff "2").mp hversion)]
  have hcontext : jsonCompatible (.dict (contextArtifact artifact)) = true := by
    rw [contextArtifact, ha.claims.payload, ha.version, ha.artifactDigest, ha.artifactId,
      ha.attestation, ha.claimsDigest, ha.created, ha.original, ha.workspace]
    refine jsonCompatible_dict ?_ ?_ ?_
    · simp only [Dict.keys, List.map_cons, List.map_nil]
      decide
    · simp only [Dict.keys, List.map_cons, List.map_nil]
      decide
    · simp only [List.forall_mem_cons, List.not_mem_nil, false_implies, implies_true, and_true,
        jsonCompatible_claims, jsonCompatible]
  simp only [payloadKeysetsAreValid, contextPayload, bind_eq_ok, pure_eq_ok, Bool.and_eq_true]
  refine ⟨_, ⟨_, hreference, rfl⟩, ⟨⟨⟨?_, hnames⟩, ?_⟩, ?_⟩, ?_⟩
  · rfl
  · rfl
  · rfl
  · refine jsonCompatible_dict ?_ ?_ ?_
    · simp only [Dict.keys, List.map_cons, List.map_nil]
      decide
    · simp only [Dict.keys, List.map_cons, List.map_nil]
      decide
    · simp only [List.forall_mem_cons, List.not_mem_nil, false_implies, implies_true, and_true,
        hcontext, jsonCompatible_reference, ha.workspace]
      exact ⟨rfl, rfl, rfl⟩

/-! ## The aggregate is accepted -/

omit [PythonLibrary] [UnicodeLibrary] [ZonedTimeLibrary] [TimestampLibrary] [LawfulTextLibrary]
  [LawfulCivilTimes] [LawfulZonedTimeLibrary] [LawfulDigestLibrary] [LawfulInfixLibrary] in
theorem equal_refl (value : Value) : equal value value = true := by
  cases value <;> simp [equal]

omit [ZonedTimeLibrary] [LawfulCivilTimes] [LawfulZonedTimeLibrary] [LawfulDigestLibrary]
  [LawfulInfixLibrary] in
/-- A request that a boundary created has the shape that is asked for. -/
theorem requestShape_of_snapshot {policy : Option (String → Reply Bool)} {values : Dict}
    {challenge : String} {request : RequestFields}
    (h : requestSnapshot policy values challenge = .ok request) : RequestShape request := by
  simp only [requestSnapshot, normalizedValues, bind_eq_ok, require_eq_ok, orRaise_eq_ok,
    pure_eq_ok] at h
  obtain ⟨_, ⟨repository, hrepository, subject, hsubject, required, hrequired, driver, hdriver,
    authority, hauthority, preview, hpreview, _, hne, revision, hrevision, operations, hoperations,
    snapshot, hsnapshot, evidence, hevidence, rfl⟩, _, -, _, -, rfl⟩ := h
  obtain ⟨hsettled, hdistinct, hsorted, -⟩ := capabilities_sound hrequired
  have hdigest : ∀ {value : Value} {field s : String}, digestText value field = .ok s →
      validDigest (.str s) = true :=
    fun hs => validId_iff.mpr ⟨_, rfl, (patternText_matching hs).pattern⟩
  refine ⟨?_, hdigest hauthority, (persistedInteger_eq_ok.mp (orRaise_eq_ok.mpr hrevision)).2, hne,
    hdistinct, hsorted,
    fun capability hcapability => validText_of_settled (hsettled capability hcapability), ?_⟩
  · simp only [List.forall_mem_cons, List.not_mem_nil, false_implies, implies_true, and_true]
    exact ⟨validText_of_settled (text_settled hrepository),
      validText_of_settled (text_settled hsubject), validText_of_settled (text_settled hdriver),
      validText_of_settled (patternText_matching hpreview).settled⟩
  · simp only [List.forall_mem_cons, List.not_mem_nil, false_implies, implies_true, and_true]
    exact ⟨hdigest hoperations, hdigest hsnapshot, hdigest hevidence⟩

omit [LawfulInfixLibrary] in
/-- Objects of the shapes that are asked for are accepted where they match, with a request that
names the claims. -/
theorem validate_accepts_shapes {artifact : ArtifactObject} {a : ArtifactFields}
    {reference : Attributes} {r : ReferenceFields} {request : RequestFields}
    (ha : DescribesArtifact artifact a) (hshape : artifactShapeIsValid (some artifact) = .ok true)
    (hclaimsDigest : a.claimsPayload.claimsDigest = .ok a.claimsDigest)
    (hattestation : a.attestationId = a.claimsPayload.attestationId)
    (hr : DescribesReference reference r) (hreference : r.Sound) (hmatches : Matches a r)
    (hrequestShape : RequestShape request)
    (hrequest : RequestMatches request artifact.claims) :
    validateRestartRevalidationContextAggregate
        (some ⟨some (some artifact), some (some reference)⟩) (.str a.workspaceIdentity)
        (.str a.artifactId) (some reference) (some request) = .ok (artifact, reference) := by
  obtain ⟨hworkspace, hid, hdigest, hrepository, hsubject, hdriver, hauthority, hpreview,
    hrevision, hoperations, hsnapshot, hevidence, horiginal, -⟩ := hmatches
  have hreferenceShape := hr.shape hreference
  have hderived : derivedAttestationId artifact.claims =
      .ok a.claimsPayload.attestationId := by
    rw [ha.claims.derivedId]
    exact a.claimsPayload.sound.derived
  have hclaimsDigestIs : claimsDigest artifact.claims = .ok a.claimsDigest := by
    rw [ha.claims.claimsDigest]
    exact hclaimsDigest
  have hcrosswalk : ∀ field ∈ crosswalkFields,
      reference.get field = claimsAttribute artifact.claims field := by
    simp only [crosswalkFields, List.forall_mem_cons, List.not_mem_nil, false_implies,
      implies_true, and_true, hr.repository, hr.subject, hr.driver, hr.authority, hr.preview,
      hr.revision, hr.operations, hr.snapshot, hr.evidenceDigest, ha.claims.repository,
      ha.claims.subject, ha.claims.driver, ha.claims.authority, ha.claims.preview,
      ha.claims.revision, ha.claims.operations, ha.claims.snapshot, ha.claims.evidence,
      Value.str.injEq, Value.int.injEq]
    exact ⟨hrepository, hsubject, hdriver, hauthority, hpreview, hrevision, hoperations, hsnapshot,
      hevidence⟩
  simp only [validateRestartRevalidationContextAggregate, bind_eq_ok, orRaise_eq_ok,
    require_eq_ok, pure_eq_ok]
  refine ⟨_, rfl, _, rfl, _, rfl, true, hshape, (), rfl, true, hreferenceShape, (), rfl,
    artifact, rfl, reference, rfl, (), ⟨rfl, rfl⟩, (), ⟨ha.workspace, ha.artifactId⟩, request,
    rfl, (), hrequestShape, true, hreferenceShape, (), rfl, reference, rfl, (),
    fun _ _ => equal_refl _, _, hderived, (), ha.claims.attestation.symm, _, hclaimsDigestIs, (),
    ha.claimsDigest, (), hcrosswalk, (), ⟨?_, ?_⟩, (), ?_, (), ?_, (), ?_, (), hrequest, true,
    payloadKeysets_valid ha hr hreference, (), rfl, rfl⟩
  · rw [hr.workspace, ha.workspace, hworkspace]
  · rw [hr.artifactId, ha.artifactId, hid]
  · rw [hr.artifactDigest, ha.artifactDigest, hdigest]
  · rw [hr.original, ha.original, horiginal]
  · rw [ha.attestation, ha.claims.attestation, hattestation]

omit [LawfulInfixLibrary] in
/-- Objects that describe a matching artifact and reference are accepted. -/
theorem validate_accepts {artifact : ArtifactObject} {a : ArtifactFields}
    {reference : Attributes} {r : ReferenceFields} {request : RequestFields}
    (ha : DescribesArtifact artifact a) (hsound : a.Sound) (hr : DescribesReference reference r)
    (hreference : r.Sound) (hmatches : Matches a r) (hrequestShape : RequestShape request)
    (hrequest : RequestMatches request artifact.claims) :
    validateRestartRevalidationContextAggregate
        (some ⟨some (some artifact), some (some reference)⟩) (.str a.workspaceIdentity)
        (.str a.artifactId) (some reference) (some request) = .ok (artifact, reference) :=
  validate_accepts_shapes ha (ha.shape hsound) hsound.claimsDigest hsound.attestation hr hreference
    hmatches hrequestShape hrequest

end

/-! ## Over the reference library -/

section
attribute [local instance] ReferenceLibrary.referenceLibrary IssuanceHistories.referenceTimestamps
  IssuanceHistories.referenceUnicode AttestationReference.referenceTimes

theorem referenceTimes_civil : LawfulCivilTimes where
  isoformat h := by
    rcases AttestationReference.parse_moment h with hz | hz
    · exact ⟨⟨2026, 1, 1, 0, 0, 0, 0⟩, false, by decide, by rw [hz]; decide +kernel⟩
    · exact ⟨⟨2026, 2, 1, 0, 0, 0, 0⟩, false, by decide, by rw [hz]; decide +kernel⟩
  isoformatMicroseconds h := by
    rcases AttestationReference.parse_moment h with hz | hz
    · exact ⟨⟨2026, 1, 1, 0, 0, 0, 0⟩, by decide, by rw [hz]; decide +kernel⟩
    · exact ⟨⟨2026, 2, 1, 0, 0, 0, 0⟩, by decide, by rw [hz]; decide +kernel⟩

end

section
variable [PythonLibrary] [UnicodeLibrary] [ZonedTimeLibrary] [TimestampLibrary]
  [LawfulTextLibrary] [LawfulZonedTimeLibrary] [LawfulDigestLibrary]

/-- The values of a request for all that the claims grant. -/
def requestValues (f : ClaimsFields) : Dict :=
  [("repository_identity", .str f.repositoryIdentity),
    ("github_subject_identity", .str f.githubSubjectIdentity),
    ("required_capabilities", .tuple (f.grantedCapabilities.map .str)),
    ("driver_identity", .str f.driverIdentity), ("remote_authority", .str f.remoteAuthority),
    ("preview_id", .str f.previewId), ("revision", .int f.revision),
    ("operation_set_digest", .str f.operationSetDigest),
    ("remote_snapshot_digest", .str f.remoteSnapshotDigest),
    ("evidence_digest", .str f.evidenceDigest)]

/-- The request for all that the claims grant, with this challenge. -/
def requestFor (f : ClaimsFields) (challengeDigest : String) : RequestFields where
  repositoryIdentity := f.repositoryIdentity
  githubSubjectIdentity := f.githubSubjectIdentity
  requiredCapabilities := f.grantedCapabilities
  driverIdentity := f.driverIdentity
  remoteAuthority := f.remoteAuthority
  previewId := f.previewId
  revision := f.revision
  operationSetDigest := f.operationSetDigest
  remoteSnapshotDigest := f.remoteSnapshotDigest
  evidenceDigest := f.evidenceDigest
  challengeDigest := challengeDigest

omit [LawfulZonedTimeLibrary] [LawfulDigestLibrary] in
/-- A boundary creates the request for what claims grant. -/
theorem exists_request {f : ClaimsFields} (hf : f.Sound) (hgranted : f.grantedCapabilities ≠ []) :
    ∃ challengeDigest, requestSnapshot (some fun _ => .returned true) (requestValues f)
      "challenge" = .ok (requestFor f challengeDigest) := by
  have hnormalized : normalizedValues (requestValues f) = .ok (requestFor f "") := by
    simp only [normalizedValues, requestValues, bind_eq_ok, require_eq_ok, orRaise_eq_ok,
      pure_eq_ok, Dict.get, List.lookup_cons]
    exact ⟨_, hf.repository.text _, _, hf.subject.text _, _,
      capabilities_again rfl hf.granted hf.distinct hf.sorted hf.capable, _, hf.driver.text _, _,
      hf.authority.patternText _, _, hf.preview.patternText _, (), hgranted, _,
      if_pos hf.revision, _, hf.operations.patternText _, _, hf.snapshot.patternText _, _,
      hf.evidence.patternText _, rfl⟩
  have hitems : ∃ items, CanonicalValues.normalize
      (.tuple (f.grantedCapabilities.map .str)) = .ok items := by
    have hmap : ∀ items : List String,
        ∃ normalized, normalizeItems (items.map .str) = .ok normalized := by
      intro items
      induction items with
      | nil => exact ⟨_, rfl⟩
      | cons item rest ih =>
          obtain ⟨normalized, hrest⟩ := ih
          simp only [List.map_cons, normalizeItems, hrest]
          exact ⟨_, rfl⟩
    obtain ⟨normalized, hnormalizedItems⟩ := hmap f.grantedCapabilities
    simp only [CanonicalValues.normalize, hnormalizedItems]
    exact ⟨_, rfl⟩
  obtain ⟨context, hcontext⟩ := normalize_mapping (requestFor f "").context
    (by simp only [RequestFields.context, Dict.keys, List.map_cons, List.map_nil]; decide)
    (by simp only [RequestFields.context, Dict.keys, List.map_cons, List.map_nil]; decide)
    (by
      simp only [RequestFields.context, List.forall_mem_cons, List.not_mem_nil, false_implies,
        implies_true, and_true]
      exact ⟨⟨_, rfl⟩, ⟨_, rfl⟩, ⟨_, rfl⟩, ⟨_, rfl⟩, ⟨_, rfl⟩, ⟨_, rfl⟩, ⟨_, rfl⟩, ⟨_, rfl⟩,
        hitems, _, rfl⟩)
  obtain ⟨material, hmaterial⟩ := normalize_mapping
    [("domain", .str challengeDomain), ("challenge", .str "challenge"),
      ("context", .dict (requestFor f "").context)]
    (by simp only [Dict.keys, List.map_cons, List.map_nil]; decide)
    (by simp only [Dict.keys, List.map_cons, List.map_nil]; decide)
    (by
      simp only [List.forall_mem_cons, List.not_mem_nil, false_implies, implies_true, and_true]
      exact ⟨⟨_, rfl⟩, ⟨_, rfl⟩, context, hcontext⟩)
  refine ⟨digest material, ?_⟩
  simp only [requestSnapshot, hnormalized, bind_eq_ok, pure_eq_ok, Except.ok.injEq,
    exists_eq_left', canonicalDigest]
  exact ⟨_, ⟨material, hmaterial, rfl⟩, (),
    checkCapabilities_eq_ok.mpr ⟨_, rfl, fun _ _ => rfl⟩, rfl⟩

end

end DeliverySystem.RestartAcceptance

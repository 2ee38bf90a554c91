import DeliverySystem.AttestationArtifacts
import DeliverySystem.IssuanceHistories
import DeliverySystem.NormalForms

/-!
# Attestations over the reference library

The text and digest functions of the reference library obey the laws that the
attestation records rely on, and so do the two moments whose texts it reads. Over
any library of this kind there are claims and artifacts: the constructors accept
the fields of an ordinary attestation.
-/
namespace DeliverySystem.AttestationReference
open PythonValues CanonicalValues AuthorityBindings AttestationClaims AttestationArtifacts
open IssuanceHistories
set_option autoImplicit false

/-! ## Two moments -/

def issuedInstant : Instant := 1767225600000000

def expiresInstant : Instant := 1769904000000000

/-- `isoformat` with the fraction of the second always written. -/
def isoformatMicroseconds (t : Instant) : String :=
  if t % 1000000 = 0 then
    String.ofList (((ReferenceLibrary.isoformat t).toList.dropLast)) ++ ".000000Z"
  else ReferenceLibrary.isoformat t

/-- The parser on the texts of the two moments. -/
@[reducible] def referenceTimes : ZonedTimeLibrary where
  parse s :=
    if s = "2026-01-01T00:00:00Z" ∨ s = "2026-01-01T00:00:00.000000Z" then
      some ⟨issuedInstant, 0⟩
    else if s = "2026-02-01T00:00:00Z" ∨ s = "2026-02-01T00:00:00.000000Z" then
      some ⟨expiresInstant, 0⟩
    else none
  isoformatMicroseconds := isoformatMicroseconds

section
attribute [local instance] ReferenceLibrary.referenceLibrary referenceTimestamps referenceUnicode
  referenceTimes

theorem parse_moment {s : String} {z : ZonedDatetime} (h : ZonedTimeLibrary.parse s = some z) :
    z.instant = issuedInstant ∨ z.instant = expiresInstant := by
  change (if s = "2026-01-01T00:00:00Z" ∨ s = "2026-01-01T00:00:00.000000Z" then
      some (⟨issuedInstant, 0⟩ : ZonedDatetime)
    else if s = "2026-02-01T00:00:00Z" ∨ s = "2026-02-01T00:00:00.000000Z" then
      some ⟨expiresInstant, 0⟩
    else none) = some z at h
  split_ifs at h
  · obtain rfl := Option.some.inj h
    exact .inl rfl
  · obtain rfl := Option.some.inj h
    exact .inr rfl

theorem referenceTimes_lawful : LawfulZonedTimeLibrary where
  isoformat h := by
    rcases parse_moment h with hz | hz
    · rw [hz]
      decide +kernel
    · rw [hz]
      decide +kernel
  isoformatMicroseconds h := by
    rcases parse_moment h with hz | hz
    · rw [hz]
      decide +kernel
    · rw [hz]
      decide +kernel

theorem referenceLibrary_infix : LawfulInfixLibrary where
  nfc_infix _ _ := rfl
  nfc_nfc _ := rfl
  strip_infix s := by
    change (String.ofList (ReferenceLibrary.stripText s.toList)).toList <:+: s.toList
    rw [String.toList_ofList]
    exact (List.rdropWhile_prefix _ _).isInfix.trans (List.dropWhile_suffix _).isInfix
  rstrip_infix s := by
    change (String.ofList (ReferenceLibrary.stripRight s.toList)).toList <:+: s.toList
    rw [String.toList_ofList]
    exact (List.rdropWhile_prefix _ _).isInfix

theorem referenceLibrary_digests : LawfulDigestLibrary where
  hexdigest value := by
    obtain ⟨hlength, hdigits⟩ := ReferenceLibrary.sha256Hex_hexadecimal
      (ReferenceLibrary.canonicalJson value).toUTF8.toList
    change hexPattern "" (ReferenceLibrary.sha256Hex _) = true
    simp only [hexPattern, String.toList_empty, List.isPrefixOf_nil_left, List.length_nil,
      List.drop_zero, Bool.true_and, Bool.and_eq_true, decide_eq_true_eq, List.all_eq_true]
    exact ⟨hlength, hdigits⟩

theorem referenceLibrary_spacing : NormalForms.LawfulSpacing :=
  .of_fixed (fun _ => rfl) Char.isWhitespace (fun _ => String.toList_ofList)
    fun _ => String.toList_ofList

end

/-! ## An ordinary attestation -/

def zeros : String := "0000000000000000000000000000000000000000000000000000000000000000"

/-- Version 2 claims, told apart by their nonce; the identity is still to be derived. -/
def sampleClaimsFields (nonce : String) : ClaimsFields where
  attestationVersion := "2"
  attestationId := ""
  issuerId := "issuer-1"
  keyId := "key-1"
  signatureAlgorithm := "ed25519"
  credentialClass := "github-app-installation-token"
  credentialInstanceId := "credential-1"
  githubSubjectIdentity := "app-1"
  repositoryIdentity := "owner/repository"
  grantedCapabilities := ["issues:read", "issues:write"]
  driverIdentity := "github-rest-v1"
  remoteAuthority := "sha256:" ++ zeros
  previewId := "preview-1"
  revision := 1
  operationSetDigest := "sha256:" ++ zeros
  remoteSnapshotDigest := "sha256:" ++ zeros
  evidenceDigest := "sha256:" ++ zeros
  issuedAt := "2026-01-01T00:00:00Z"
  expiresAt := "2026-02-01T00:00:00Z"
  nonce := nonce
  sourceVerificationDigest := "sha256:" ++ zeros
  challengeDigest := "sha256:" ++ zeros
  credentialPrincipalIdentity := "installation-1"

section
variable [PythonLibrary] [UnicodeLibrary] [TimestampLibrary] [LawfulTextLibrary]
  [ZonedTimeLibrary] [LawfulZonedTimeLibrary] [LawfulDigestLibrary]

omit [ZonedTimeLibrary] [LawfulZonedTimeLibrary] [LawfulDigestLibrary] in
theorem matching_of_graphic {pattern : String → Bool} {s : String} (hgraphic : Graphic s)
    (hne : s ≠ "") (hpattern : pattern s = true) : Matching pattern s :=
  ⟨hgraphic.settled hne, hpattern⟩

omit [LawfulZonedTimeLibrary] [LawfulDigestLibrary] in
theorem sampleClaimsFields_valid {nonce : String} (hnonce : Matching idPattern nonce)
    (hissued : WrittenTime "2026-01-01T00:00:00Z" issuedInstant)
    (hexpires : WrittenTime "2026-02-01T00:00:00Z" expiresInstant) :
    (sampleClaimsFields nonce).Valid := by
  have hid : ∀ s ∈ ["2", "issuer-1", "key-1", "ed25519", "github-app-installation-token",
      "credential-1", "preview-1"], Graphic s ∧ s ≠ "" ∧ idPattern s = true := by decide
  have htext : ∀ s ∈ ["app-1", "owner/repository", "github-rest-v1", "installation-1",
      "issues:read", "issues:write"], Graphic s ∧ s ≠ "" := by decide
  have hdigest : Matching (hexPattern "sha256:") ("sha256:" ++ zeros) :=
    matching_of_graphic (by decide) (by decide) (by decide)
  have hgranted : (∀ item ∈ ["issues:read", "issues:write"], item ∈ ["app-1", "owner/repository",
      "github-rest-v1", "installation-1", "issues:read", "issues:write"]) ∧
      ["issues:read", "issues:write"].Nodup ∧
      ["issues:read", "issues:write"].insertionSort (· ≤ ·) = ["issues:read", "issues:write"] ∧
      ∀ item ∈ ["issues:read", "issues:write"], capabilityPattern item = true := by decide
  have hmatching := fun s hs =>
    matching_of_graphic (hid s hs).1 (hid s hs).2.1 (hid s hs).2.2
  have hsettled := fun s hs => (htext s hs).1.settled (htext s hs).2
  exact
    { version := hmatching "2" (by decide)
      issuer := hmatching "issuer-1" (by decide)
      key := hmatching "key-1" (by decide)
      algorithm := hmatching "ed25519" (by decide)
      credentialClass := hmatching "github-app-installation-token" (by decide)
      credential := hmatching "credential-1" (by decide)
      subject := hsettled "app-1" (by decide)
      repository := hsettled "owner/repository" (by decide)
      granted := fun item hitem => hsettled item (hgranted.1 item hitem)
      distinct := hgranted.2.1
      sorted := hgranted.2.2.1
      capable := hgranted.2.2.2
      driver := hsettled "github-rest-v1" (by decide)
      authority := hdigest
      preview := hmatching "preview-1" (by decide)
      revision := le_refl _
      operations := hdigest
      snapshot := hdigest
      evidence := hdigest
      lasting := ⟨issuedInstant, expiresInstant, hissued, hexpires, by decide⟩
      nonce := hnonce
      source := hdigest
      extension := .inr ⟨rfl, hdigest, hsettled "installation-1" (by decide)⟩ }

end

section
attribute [local instance] ReferenceLibrary.referenceLibrary referenceTimestamps referenceUnicode
  referenceTimes referenceLibrary_lawful referenceTimes_lawful referenceLibrary_digests
  referenceLibrary_infix

theorem reference_written :
    WrittenTime "2026-01-01T00:00:00Z" issuedInstant ∧
      WrittenTime "2026-02-01T00:00:00Z" expiresInstant := by
  refine ⟨⟨Graphic.settled (by decide) (by decide), by decide +kernel, rfl⟩,
    ⟨Graphic.settled (by decide) (by decide), by decide +kernel, rfl⟩⟩

/-- An ordinary attestation with its envelope and the artifact persisted from it. -/
theorem exists_sample {nonce : String} (hnonce : Matching idPattern nonce) :
    ∃ (claims : CredentialCapabilityAttestationClaims)
      (envelope : SignedCredentialCapabilityAttestation) (artifact : PersistedAttestationArtifact),
      claims.toClaimsFields =
          { sampleClaimsFields nonce with attestationId := claims.attestationId } ∧
        envelope.claims = claims ∧ envelope.proof = sampleProof ∧
        PersistedAttestationArtifact.create (.str "workspace-1") (.object claims)
          (.str sampleProof) (.str "2026-01-01T00:00:00Z") (.str "2026-01-01T00:00:00Z") =
            .ok artifact := by
  obtain ⟨hissued, hexpires⟩ := reference_written
  obtain ⟨claims, hclaims⟩ := (sampleClaimsFields_valid hnonce hissued hexpires).exists_claims
  have hproof : proofPattern sampleProof = true := by decide
  have halgorithm : claims.signatureAlgorithm = "ed25519" := by rw [hclaims]; rfl
  have hgranted : claims.grantedCapabilities = ["issues:read", "issues:write"] := by
    rw [hclaims]; rfl
  have hissuedAt : claims.issuedAt = "2026-01-01T00:00:00Z" := by rw [hclaims]; rfl
  have hexpiresAt : claims.expiresAt = "2026-02-01T00:00:00Z" := by rw [hclaims]; rfl
  have hsigned : AttestationClaims.signedPostInit claims (.str sampleProof) = .ok { claims, proof := sampleProof } := by
    simp only [AttestationClaims.signedPostInit, proofText, bind_eq_ok, raiseIf_eq_ok, orRaise_eq_ok, pure_eq_ok,
      not_not, Value.text?_eq_some]
    exact ⟨_, ⟨(), halgorithm, _, rfl, (), by simp [hproof], rfl⟩, rfl⟩
  obtain ⟨artifact, hartifact⟩ := PersistedAttestationArtifact.create_ok
    (by rw [hgranted]; decide) halgorithm
    ((by decide : Graphic "workspace-1").settled (by decide)) hproof
    (by rw [hissuedAt]; exact hissued) (by rw [hexpiresAt]; exact hexpires) hissued.parse
    hissued.parse (le_refl _) (by decide) (le_refl _)
  exact ⟨claims, ⟨{ claims, proof := sampleProof }, _, hsigned⟩, artifact, hclaims, rfl, rfl,
    hartifact⟩

/-- The revision of an attestation has no greatest value. -/
theorem exists_artifact_of_revision {n : Int} (hn : 1 ≤ n) :
    ∃ a : PersistedAttestationArtifact, a.claimsPayload.revision = n := by
  obtain ⟨hissued, hexpires⟩ := reference_written
  have hnonce : Matching idPattern "nonce-1" :=
    matching_of_graphic (by decide) (by decide) (by decide)
  have hvalid : ({ sampleClaimsFields "nonce-1" with revision := n } : ClaimsFields).Valid :=
    { sampleClaimsFields_valid hnonce hissued hexpires with revision := hn }
  obtain ⟨claims, hclaims⟩ := hvalid.exists_claims
  have hfields : claims.grantedCapabilities = ["issues:read", "issues:write"] ∧
      claims.signatureAlgorithm = "ed25519" ∧ claims.issuedAt = "2026-01-01T00:00:00Z" ∧
      claims.expiresAt = "2026-02-01T00:00:00Z" ∧ claims.revision = n := by
    rw [hclaims]
    exact ⟨rfl, rfl, rfl, rfl, rfl⟩
  obtain ⟨hgranted, halgorithm, hissuedAt, hexpiresAt, hrevision⟩ := hfields
  obtain ⟨artifact, hartifact⟩ := PersistedAttestationArtifact.create_ok
    (by rw [hgranted]; decide) halgorithm
    ((by decide : Graphic "workspace-1").settled (by decide))
    (by decide : proofPattern sampleProof = true) (by rw [hissuedAt]; exact hissued)
    (by rw [hexpiresAt]; exact hexpires) hissued.parse hissued.parse (le_refl _) (by decide)
    (le_refl _)
  refine ⟨artifact, ?_⟩
  rw [(PersistedAttestationArtifact.create_holds hartifact).1, hrevision]

end
end DeliverySystem.AttestationReference

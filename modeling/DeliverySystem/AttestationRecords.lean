import DeliverySystem.AttestationArtifacts
import DeliverySystem.RemoteSnapshots

/-!
# Binding references and revalidation events

The two records that accompany a persisted artifact. Each constructor normalizes
its fields and derives an identity and a content digest from them, so a record
that was made is made again from its fields. The payload of a record determines
it, also after it went through JSON text.
-/
namespace DeliverySystem.AttestationRecords
open PythonValues CanonicalValues JsonText AuthorityBindings AttestationClaims
open AttestationArtifacts RemoteSnapshots Dict
set_option autoImplicit false

/-! ## Binding references -/

def referenceContractVersion : String := "attestation-binding-reference-v1"

def referenceV2ContractVersion : String := "attestation-binding-reference-v2"

def referenceIdDomain : String := "delivery-system:attestation-binding-reference-identity:v1"

def referenceContentDomain : String := "delivery-system:attestation-binding-reference-content:v1"

structure ReferenceArguments where
  referenceContractVersion : Value
  referenceId : Value
  workspaceIdentity : Value
  artifactId : Value
  artifactDigest : Value
  bindingId : Value
  repositoryIdentity : Value
  githubSubjectIdentity : Value
  driverIdentity : Value
  remoteAuthority : Value
  previewId : Value
  revision : Value
  planDigest : Value
  sealedPreviewDigest : Value
  operationSetDigest : Value
  remoteSnapshotDigest : Value
  auditId : Value
  auditDigest : Value
  evidenceId : Value
  evidenceDigest : Value
  originalVerifiedAt : Value
  bindingReferenceDigest : Value
  credentialPrincipalIdentity : Value
  challengeDigest : Value

structure ReferenceFields where
  referenceContractVersion : String
  referenceId : String
  workspaceIdentity : String
  artifactId : String
  artifactDigest : String
  bindingId : String
  repositoryIdentity : String
  githubSubjectIdentity : String
  driverIdentity : String
  remoteAuthority : String
  previewId : String
  revision : Int
  planDigest : String
  sealedPreviewDigest : String
  operationSetDigest : String
  remoteSnapshotDigest : String
  auditId : String
  auditDigest : String
  evidenceId : String
  evidenceDigest : String
  originalVerifiedAt : String
  bindingReferenceDigest : String
  credentialPrincipalIdentity : String
  challengeDigest : String
deriving DecidableEq

/-- The two fields that only version 2 has. -/
def ReferenceFields.extension (r : ReferenceFields) : Dict :=
  if r.referenceContractVersion = referenceV2ContractVersion then
    [("credential_principal_identity", .str r.credentialPrincipalIdentity),
      ("challenge_digest", .str r.challengeDigest)]
  else []

/-- `_content_payload_for` -/
def ReferenceFields.content (r : ReferenceFields) : Dict :=
  [("domain", .str referenceContentDomain),
    ("reference_contract_version", .str r.referenceContractVersion),
    ("workspace_identity", .str r.workspaceIdentity), ("artifact_id", .str r.artifactId),
    ("artifact_digest", .str r.artifactDigest), ("binding_id", .str r.bindingId),
    ("repository_identity", .str r.repositoryIdentity),
    ("github_subject_identity", .str r.githubSubjectIdentity),
    ("driver_identity", .str r.driverIdentity), ("remote_authority", .str r.remoteAuthority),
    ("preview_id", .str r.previewId), ("revision", .int r.revision),
    ("plan_digest", .str r.planDigest), ("sealed_preview_digest", .str r.sealedPreviewDigest),
    ("operation_set_digest", .str r.operationSetDigest),
    ("remote_snapshot_digest", .str r.remoteSnapshotDigest), ("audit_id", .str r.auditId),
    ("audit_digest", .str r.auditDigest), ("evidence_id", .str r.evidenceId),
    ("evidence_digest", .str r.evidenceDigest),
    ("original_verified_at", .str r.originalVerifiedAt)] ++ r.extension

/-- `_reference_projection` -/
def ReferenceFields.projection (r : ReferenceFields) : Dict :=
  [("reference_contract_version", .str r.referenceContractVersion),
    ("reference_id", .str r.referenceId), ("workspace_identity", .str r.workspaceIdentity),
    ("artifact_id", .str r.artifactId), ("artifact_digest", .str r.artifactDigest),
    ("binding_id", .str r.bindingId), ("repository_identity", .str r.repositoryIdentity),
    ("github_subject_identity", .str r.githubSubjectIdentity),
    ("driver_identity", .str r.driverIdentity), ("remote_authority", .str r.remoteAuthority),
    ("preview_id", .str r.previewId), ("revision", .int r.revision),
    ("plan_digest", .str r.planDigest), ("sealed_preview_digest", .str r.sealedPreviewDigest),
    ("operation_set_digest", .str r.operationSetDigest),
    ("remote_snapshot_digest", .str r.remoteSnapshotDigest), ("audit_id", .str r.auditId),
    ("audit_digest", .str r.auditDigest), ("evidence_id", .str r.evidenceId),
    ("evidence_digest", .str r.evidenceDigest),
    ("original_verified_at", .str r.originalVerifiedAt),
    ("binding_reference_digest", .str r.bindingReferenceDigest)] ++ r.extension

def legacyReferenceFields : List String :=
  ["reference_contract_version", "reference_id", "workspace_identity", "artifact_id",
    "artifact_digest", "binding_id", "repository_identity", "github_subject_identity",
    "driver_identity", "remote_authority", "preview_id", "revision", "plan_digest",
    "sealed_preview_digest", "operation_set_digest", "remote_snapshot_digest", "audit_id",
    "audit_digest", "evidence_id", "evidence_digest", "original_verified_at",
    "binding_reference_digest"]

def referenceFieldNames : List String :=
  legacyReferenceFields ++ ["credential_principal_identity", "challenge_digest"]

section
variable [PythonLibrary] [UnicodeLibrary] [ZonedTimeLibrary]

/-- What version 2 asks of its two fields, and version 1 of their absence. -/
def referenceExtension (version : String) (principal challenge : Value) : Py (String × String) :=
  if version = referenceV2ContractVersion then do
    let principal ← persistedText principal
    let challenge ← digestValue challenge
    pure (principal, challenge)
  else do
    require (Value.truthy principal = false ∧ Value.truthy challenge = false) payloadInvalid
    pure ("", "")

/-- The identity that is derived for a reference. -/
def ReferenceFields.derivedId (r : ReferenceFields) : Py String :=
  shaId referenceIdDomain
    [("reference_version",
        .str (if r.referenceContractVersion = referenceV2ContractVersion then "2" else "1")),
      ("workspace_identity", .str r.workspaceIdentity), ("artifact_id", .str r.artifactId),
      ("binding_id", .str r.bindingId)] "binding-reference-"

/-- `AttestationBindingReference.__post_init__` -/
def ReferenceArguments.postInit (a : ReferenceArguments) : Py ReferenceFields := do
  let version ← orRaise a.referenceContractVersion.text? payloadInvalid
  require (version = AttestationRecords.referenceContractVersion ∨
    version = referenceV2ContractVersion) payloadInvalid
  let workspace ← persistedText a.workspaceIdentity
  let _ ← persistedText a.artifactId
  let _ ← persistedText a.bindingId
  let repository ← persistedText a.repositoryIdentity
  let subject ← persistedText a.githubSubjectIdentity
  let driver ← persistedText a.driverIdentity
  let preview ← persistedText a.previewId
  let audit ← persistedText a.auditId
  let evidence ← persistedText a.evidenceId
  let artifactId ← exactText a.artifactId (hexPattern "artifact-")
  let bindingId ← exactText a.bindingId (hexPattern "binding-")
  let artifactDigest ← digestValue a.artifactDigest
  let authority ← digestValue a.remoteAuthority
  let plan ← digestValue a.planDigest
  let sealedPreview ← digestValue a.sealedPreviewDigest
  let operations ← digestValue a.operationSetDigest
  let snapshot ← digestValue a.remoteSnapshotDigest
  let auditDigest ← digestValue a.auditDigest
  let evidenceDigest ← digestValue a.evidenceDigest
  let revision ← persistedInteger a.revision
  let original ← persistedTimestamp a.originalVerifiedAt
  let extension ← referenceExtension version a.credentialPrincipalIdentity a.challengeDigest
  let normalized : ReferenceFields :=
    { referenceContractVersion := version
      referenceId := ""
      workspaceIdentity := workspace
      artifactId := artifactId
      artifactDigest := artifactDigest
      bindingId := bindingId
      repositoryIdentity := repository
      githubSubjectIdentity := subject
      driverIdentity := driver
      remoteAuthority := authority
      previewId := preview
      revision := revision
      planDigest := plan
      sealedPreviewDigest := sealedPreview
      operationSetDigest := operations
      remoteSnapshotDigest := snapshot
      auditId := audit
      auditDigest := auditDigest
      evidenceId := evidence
      evidenceDigest := evidenceDigest
      originalVerifiedAt := original.1
      bindingReferenceDigest := ""
      credentialPrincipalIdentity := extension.1
      challengeDigest := extension.2 }
  let expectedDigest ← canonicalDigest (.dict normalized.content)
  let bindingReferenceDigest ← digestValue a.bindingReferenceDigest
  let referenceId ← exactText a.referenceId (hexPattern "binding-reference-")
  require (bindingReferenceDigest = expectedDigest) payloadInvalid
  let expectedId ← normalized.derivedId
  require (referenceId = expectedId) payloadInvalid
  pure { normalized with referenceId, bindingReferenceDigest }

/-- A reference that the constructor made. -/
structure AttestationBindingReference extends ReferenceFields where
  made : ∃ arguments : ReferenceArguments, arguments.postInit = .ok toReferenceFields

instance : DecidableEq AttestationBindingReference := fun a b =>
  decidable_of_iff (a.toReferenceFields = b.toReferenceFields)
    ⟨fun h => by cases a; cases b; cases h; rfl, fun h => h ▸ rfl⟩

def AttestationBindingReference.make (a : ReferenceArguments) : Py AttestationBindingReference :=
  match h : a.postInit with
  | .ok fields => .ok ⟨fields, a, h⟩
  | .error e => .error e

def ReferenceFields.arguments (r : ReferenceFields) : ReferenceArguments where
  referenceContractVersion := .str r.referenceContractVersion
  referenceId := .str r.referenceId
  workspaceIdentity := .str r.workspaceIdentity
  artifactId := .str r.artifactId
  artifactDigest := .str r.artifactDigest
  bindingId := .str r.bindingId
  repositoryIdentity := .str r.repositoryIdentity
  githubSubjectIdentity := .str r.githubSubjectIdentity
  driverIdentity := .str r.driverIdentity
  remoteAuthority := .str r.remoteAuthority
  previewId := .str r.previewId
  revision := .int r.revision
  planDigest := .str r.planDigest
  sealedPreviewDigest := .str r.sealedPreviewDigest
  operationSetDigest := .str r.operationSetDigest
  remoteSnapshotDigest := .str r.remoteSnapshotDigest
  auditId := .str r.auditId
  auditDigest := .str r.auditDigest
  evidenceId := .str r.evidenceId
  evidenceDigest := .str r.evidenceDigest
  originalVerifiedAt := .str r.originalVerifiedAt
  bindingReferenceDigest := .str r.bindingReferenceDigest
  credentialPrincipalIdentity := .str r.credentialPrincipalIdentity
  challengeDigest := .str r.challengeDigest

/-- The arguments under the names of the fields. -/
def ReferenceArguments.named (raw : Dict) : ReferenceArguments where
  referenceContractVersion := raw.get "reference_contract_version"
  referenceId := raw.get "reference_id"
  workspaceIdentity := raw.get "workspace_identity"
  artifactId := raw.get "artifact_id"
  artifactDigest := raw.get "artifact_digest"
  bindingId := raw.get "binding_id"
  repositoryIdentity := raw.get "repository_identity"
  githubSubjectIdentity := raw.get "github_subject_identity"
  driverIdentity := raw.get "driver_identity"
  remoteAuthority := raw.get "remote_authority"
  previewId := raw.get "preview_id"
  revision := raw.get "revision"
  planDigest := raw.get "plan_digest"
  sealedPreviewDigest := raw.get "sealed_preview_digest"
  operationSetDigest := raw.get "operation_set_digest"
  remoteSnapshotDigest := raw.get "remote_snapshot_digest"
  auditId := raw.get "audit_id"
  auditDigest := raw.get "audit_digest"
  evidenceId := raw.get "evidence_id"
  evidenceDigest := raw.get "evidence_digest"
  originalVerifiedAt := raw.get "original_verified_at"
  bindingReferenceDigest := raw.get "binding_reference_digest"
  credentialPrincipalIdentity := raw.get "credential_principal_identity"
  challengeDigest := raw.get "challenge_digest"

/-- `from_untrusted` of a reference object. -/
def AttestationBindingReference.again (r : AttestationBindingReference) :
    Py AttestationBindingReference :=
  AttestationBindingReference.make r.arguments

/-- `from_untrusted` of decoded data; a mapping without the two fields is completed. -/
def AttestationBindingReference.fromUntrusted (value : Value) :
    Py AttestationBindingReference := do
  let raw ← orRaise value.mapping? typeInvalid
  if Dict.hasExactly raw legacyReferenceFields = true then
    AttestationBindingReference.make
      { ReferenceArguments.named raw with
        credentialPrincipalIdentity := .str ""
        challengeDigest := .str "" }
  else do
    require (Dict.hasExactly raw referenceFieldNames = true) keysetInvalid
    AttestationBindingReference.make (ReferenceArguments.named raw)

/-- `to_payload` -/
def AttestationBindingReference.toPayload (r : AttestationBindingReference) : Py Dict := do
  let normalized ← r.again
  pure normalized.projection

end

/-! ## References that were made are made again -/

section
variable [PythonLibrary] [UnicodeLibrary] [ZonedTimeLibrary] [TimestampLibrary]
  [LawfulTextLibrary] [LawfulZonedTimeLibrary] [LawfulInfixLibrary]

/-- What the constructor of a reference makes sure of. -/
structure ReferenceFields.Sound (r : ReferenceFields) : Prop where
  version : r.referenceContractVersion = AttestationRecords.referenceContractVersion ∨
    r.referenceContractVersion = referenceV2ContractVersion
  texts : ∀ s ∈ [r.workspaceIdentity, r.repositoryIdentity, r.githubSubjectIdentity,
    r.driverIdentity, r.previewId, r.auditId, r.evidenceId], Settled s
  artifactId : hexPattern "artifact-" r.artifactId = true
  bindingId : hexPattern "binding-" r.bindingId = true
  digests : ∀ s ∈ [r.artifactDigest, r.remoteAuthority, r.planDigest, r.sealedPreviewDigest,
    r.operationSetDigest, r.remoteSnapshotDigest, r.auditDigest, r.evidenceDigest,
    r.bindingReferenceDigest], hexPattern "sha256:" s = true
  revision : 1 ≤ r.revision
  original : ∃ t, StoredTime r.originalVerifiedAt t
  extension : (r.referenceContractVersion ≠ referenceV2ContractVersion ∧
      r.credentialPrincipalIdentity = "" ∧ r.challengeDigest = "") ∨
    (r.referenceContractVersion = referenceV2ContractVersion ∧
      Settled r.credentialPrincipalIdentity ∧ hexPattern "sha256:" r.challengeDigest = true)
  content : canonicalDigest (.dict r.content) = .ok r.bindingReferenceDigest
  referenceId : r.derivedId = .ok r.referenceId
  referenceIdForm : hexPattern "binding-reference-" r.referenceId = true

omit [LawfulZonedTimeLibrary] [ZonedTimeLibrary] in
theorem referenceExtension_sound {version : String} {principal challenge : Value}
    {extension : String × String}
    (h : referenceExtension version principal challenge = .ok extension) :
    (version ≠ referenceV2ContractVersion ∧ extension.1 = "" ∧ extension.2 = "") ∨
      (version = referenceV2ContractVersion ∧ Settled extension.1 ∧
        hexPattern "sha256:" extension.2 = true) := by
  unfold referenceExtension at h
  split_ifs at h with hversion
  · simp only [bind_eq_ok, pure_eq_ok, exactText_eq_ok] at h
    obtain ⟨principal', hprincipal, challenge', ⟨-, hchallenge⟩, rfl⟩ := h
    exact .inr ⟨hversion, persistedText_settled hprincipal, hchallenge⟩
  · simp only [bind_eq_ok, pure_eq_ok] at h
    obtain ⟨_, -, rfl⟩ := h
    exact .inl ⟨hversion, rfl, rfl⟩

omit [PythonLibrary] [UnicodeLibrary] [LawfulZonedTimeLibrary] [ZonedTimeLibrary]
  [TimestampLibrary] [LawfulTextLibrary] [LawfulInfixLibrary] in
theorem persistedInteger_eq_ok {value : Value} {n : Int} :
    persistedInteger value = .ok n ↔ value = .int n ∧ 1 ≤ n := by
  simp only [persistedInteger, orRaise_eq_ok]
  cases value <;> simp only [Value.positive?, reduceCtorEq, false_and]
  split_ifs with hpositive
  · simp only [Option.some.injEq, Value.int.injEq]
    exact ⟨by rintro rfl; exact ⟨rfl, hpositive⟩, And.left⟩
  · simp only [Value.int.injEq, false_iff, not_and]
    rintro rfl
    exact hpositive

theorem ReferenceArguments.postInit_sound {arguments : ReferenceArguments} {r : ReferenceFields}
    (h : arguments.postInit = .ok r) : r.Sound := by
  simp only [ReferenceArguments.postInit, bind_eq_ok, orRaise_eq_ok, require_eq_ok, pure_eq_ok,
    exactText_eq_ok, persistedInteger_eq_ok] at h
  obtain ⟨version, -, _, hversion, workspace, hworkspace, _, -, _, -, repository, hrepository,
    subject, hsubject, driver, hdriver, preview, hpreview, audit, haudit, evidence, hevidence,
    artifactId, ⟨-, hartifactId⟩, bindingId, ⟨-, hbindingId⟩, artifactDigest, ⟨-, hartifact⟩,
    authority, ⟨-, hauthority⟩, plan, ⟨-, hplan⟩, sealedPreview, ⟨-, hsealed⟩, operations,
    ⟨-, hoperations⟩, snapshot, ⟨-, hsnapshot⟩, auditDigest, ⟨-, hauditDigest⟩, evidenceDigest,
    ⟨-, hevidenceDigest⟩, revision, ⟨-, hrevision⟩, ⟨original, t⟩, horiginal, extension,
    hextension, expectedDigest, hcontent, digest, ⟨-, hdigest⟩, referenceId, ⟨-, hidForm⟩, _, rfl,
    expectedId, hid, _, rfl, rfl⟩ := h
  exact
    { version := hversion
      texts := by
        simp only [List.forall_mem_cons, List.not_mem_nil, false_implies, implies_true, and_true]
        exact ⟨persistedText_settled hworkspace, persistedText_settled hrepository,
          persistedText_settled hsubject, persistedText_settled hdriver,
          persistedText_settled hpreview, persistedText_settled haudit,
          persistedText_settled hevidence⟩
      artifactId := hartifactId
      bindingId := hbindingId
      digests := by
        simp only [List.forall_mem_cons, List.not_mem_nil, false_implies, implies_true, and_true]
        exact ⟨hartifact, hauthority, hplan, hsealed, hoperations, hsnapshot, hauditDigest,
          hevidenceDigest, hdigest⟩
      revision := hrevision
      original := ⟨t, persistedTimestamp_stored horiginal⟩
      extension := referenceExtension_sound hextension
      content := hcontent
      referenceId := hid
      referenceIdForm := hidForm }

omit [TimestampLibrary] [LawfulTextLibrary] [LawfulZonedTimeLibrary] [ZonedTimeLibrary]
  [LawfulInfixLibrary] in
theorem referenceExtension_eq_ok {version principal challenge : String}
    (h : (version ≠ referenceV2ContractVersion ∧ principal = "" ∧ challenge = "") ∨
      (version = referenceV2ContractVersion ∧ Settled principal ∧
        hexPattern "sha256:" challenge = true)) :
    referenceExtension version (.str principal) (.str challenge) = .ok (principal, challenge) := by
  unfold referenceExtension
  rcases h with ⟨hversion, rfl, rfl⟩ | ⟨hversion, hprincipal, hchallenge⟩
  · rw [if_neg hversion]
    simp only [bind_eq_ok, require_eq_ok, pure_eq_ok]
    exact ⟨(), by simp [Value.truthy], trivial⟩
  · rw [if_pos hversion]
    simp only [bind_eq_ok, pure_eq_ok, exactText_eq_ok]
    exact ⟨_, Settled.persistedText hprincipal, _, ⟨rfl, hchallenge⟩, rfl⟩

omit [ZonedTimeLibrary] [LawfulZonedTimeLibrary] [LawfulInfixLibrary] in
theorem hexPattern_settled {tag s : String} (htag : Graphic tag) (hs : hexPattern tag s = true) :
    Settled s := by
  obtain ⟨hgraphic, hne⟩ := hexPattern_graphic htag hs
  exact hgraphic.settled hne

omit [ZonedTimeLibrary] [LawfulZonedTimeLibrary] [LawfulInfixLibrary] in
theorem normalize_hex {tag s : String} (htag : Graphic tag) (hs : hexPattern tag s = true) :
    CanonicalValues.normalize (.str s) = .ok (.str s) := normalize_text (hexPattern_settled htag hs)

omit [LawfulZonedTimeLibrary] [LawfulInfixLibrary] in
/-- The constructor keeps a reference, whatever stands for the fields that version 1 lacks. -/
theorem ReferenceFields.Sound.postInit_of {r : ReferenceFields} (h : r.Sound)
    {principal challenge : Value}
    (hextension : referenceExtension r.referenceContractVersion principal challenge =
      .ok (r.credentialPrincipalIdentity, r.challengeDigest)) :
    ({ r.arguments with
      credentialPrincipalIdentity := principal
      challengeDigest := challenge } : ReferenceArguments).postInit = .ok r := by
  obtain ⟨t, horiginal⟩ := h.original
  have htext : ∀ s ∈ [r.workspaceIdentity, r.repositoryIdentity, r.githubSubjectIdentity,
      r.driverIdentity, r.previewId, r.auditId, r.evidenceId],
      persistedText (.str s) = .ok s := fun s hs => Settled.persistedText (h.texts s hs)
  have hartifactId := Settled.persistedText (hexPattern_settled (by decide) h.artifactId)
  have hbindingId := Settled.persistedText (hexPattern_settled (by decide) h.bindingId)
  simp only [ReferenceArguments.postInit, ReferenceFields.arguments, bind_eq_ok, orRaise_eq_ok,
    require_eq_ok, pure_eq_ok, exactText_eq_ok, persistedInteger_eq_ok, Value.text?_eq_some]
  exact ⟨_, rfl, (), h.version, _, htext _ (by simp), _, hartifactId, _, hbindingId, _,
    htext _ (by simp), _, htext _ (by simp), _, htext _ (by simp), _, htext _ (by simp), _,
    htext _ (by simp), _, htext _ (by simp), _, ⟨rfl, h.artifactId⟩, _, ⟨rfl, h.bindingId⟩, _,
    ⟨rfl, h.digests _ (by simp)⟩, _, ⟨rfl, h.digests _ (by simp)⟩, _,
    ⟨rfl, h.digests _ (by simp)⟩, _, ⟨rfl, h.digests _ (by simp)⟩, _,
    ⟨rfl, h.digests _ (by simp)⟩, _, ⟨rfl, h.digests _ (by simp)⟩, _,
    ⟨rfl, h.digests _ (by simp)⟩, _, ⟨rfl, h.digests _ (by simp)⟩, _, ⟨rfl, h.revision⟩, _,
    horiginal.persistedTimestamp, _, hextension, _, h.content, _, ⟨rfl, h.digests _ (by simp)⟩, _,
    ⟨rfl, h.referenceIdForm⟩, (), rfl, _, h.referenceId, (), rfl, rfl⟩

omit [LawfulZonedTimeLibrary] [LawfulInfixLibrary] in
theorem ReferenceFields.Sound.postInit {r : ReferenceFields} (h : r.Sound) :
    r.arguments.postInit = .ok r := h.postInit_of (referenceExtension_eq_ok h.extension)

theorem AttestationBindingReference.sound (r : AttestationBindingReference) :
    r.toReferenceFields.Sound := by
  obtain ⟨arguments, h⟩ := r.made
  exact ReferenceArguments.postInit_sound h

omit [TimestampLibrary] [LawfulTextLibrary] [LawfulZonedTimeLibrary] [LawfulInfixLibrary] in
theorem AttestationBindingReference.make_eq_ok {arguments : ReferenceArguments}
    {r : AttestationBindingReference} :
    AttestationBindingReference.make arguments = .ok r ↔
      arguments.postInit = .ok r.toReferenceFields := by
  obtain ⟨fields, hmade⟩ := r
  unfold AttestationBindingReference.make
  split
  · rename_i fields' hfields
    simp [hfields]
  · rename_i e herror
    simp [herror]

/-- A reference is read as itself. -/
theorem AttestationBindingReference.again_eq (r : AttestationBindingReference) :
    r.again = .ok r :=
  AttestationBindingReference.make_eq_ok.mpr r.sound.postInit

theorem AttestationBindingReference.toPayload_eq (r : AttestationBindingReference) :
    r.toPayload = .ok r.projection := by
  simp only [AttestationBindingReference.toPayload, bind_eq_ok, pure_eq_ok]
  exact ⟨r, r.again_eq, rfl⟩

end

/-! ## Payloads as JSON text -/

theorem renderEntries_eq_map (text : String → List Char) (entries : Dict) :
    renderEntries text entries = entries.map fun e => (e.1, render text e.2) := by
  induction entries with
  | nil => rfl
  | cons e entries ih =>
      obtain ⟨key, value⟩ := e
      rw [renderEntries, ih, List.map_cons]

/-- The order of the members of an object does not show in its text. -/
theorem render_perm (text : String → List Char) {a b : Dict} (h : a.Perm b)
    (hkeys : (Dict.keys a).Nodup) : render text (.dict a) = render text (.dict b) := by
  have hsame : (renderEntries text a).Perm (renderEntries text b) := by
    rw [renderEntries_eq_map, renderEntries_eq_map]
    exact h.map _
  have hsorted : sortEntries (renderEntries text a) = sortEntries (renderEntries text b) :=
    sortEntries_eq_of_perm hsame (by rw [keys_renderEntries]; exact hkeys)
  rw [render, render]
  simp only [sortEntries] at hsorted
  simp only [hsorted]

theorem dumps_perm {a b : Dict} (h : a.Perm b) (hkeys : (Dict.keys a).Nodup) :
    dumps (.dict a) = dumps (.dict b) := by
  rw [dumps, dumps, render_perm String.toList h hkeys]

/-- The object of these pairs; of two members with one name the later one counts. -/
def jsonObject (pairs : Dict) : Option Value :=
  some (.dict (pairs.foldl (fun d pair => Dict.set d pair.1 pair.2) []))

theorem jsonObject_keeps : KeepsDistinct jsonObject := by
  have hfold : ∀ (pairs d : Dict), ((d ++ pairs).map Prod.fst).Nodup →
      pairs.foldl (fun d pair => Dict.set d pair.1 pair.2) d = d ++ pairs := by
    intro pairs
    induction pairs with
    | nil => intro d _; rw [List.append_nil]; rfl
    | cons pair pairs ih =>
        intro d hnodup
        have hfresh : (d.lookup pair.1).isSome = false := by
          rw [Option.isSome_eq_false_iff, Option.isNone_iff_eq_none, List.lookup_eq_none_iff]
          intro e he
          rw [List.map_append, List.nodup_append] at hnodup
          have hne := hnodup.2.2 e.1 (List.mem_map_of_mem he) pair.1 (by simp)
          simpa using fun heq => hne heq.symm
        rw [List.foldl_cons, Dict.set, hfresh, if_neg (by decide), ih (d ++ [pair])
          (by simpa using hnodup), List.append_assoc, List.singleton_append]
  intro entries hnodup
  rw [jsonObject, hfold entries [] (by simpa using hnodup), List.nil_append]

/-- What is read under a name does not depend on the order of the members. -/
theorem get_perm {a b : Dict} (h : a.Perm b) (hkeys : (Dict.keys a).Nodup) (key : String) :
    Dict.get a key = Dict.get b key := by
  rw [Dict.get, Dict.get, lookup_eq_of_perm h hkeys]

theorem keys_perm {a b : Dict} (h : a.Perm b) : (Dict.keys a).Perm (Dict.keys b) := h.map _

theorem hasExactly_perm {a b : Dict} (h : a.Perm b) (fields : List String) :
    Dict.hasExactly a fields = Dict.hasExactly b fields := by
  rw [Bool.eq_iff_iff, Dict.hasExactly_iff, Dict.hasExactly_iff]
  exact forall_congr' fun key => by rw [(keys_perm h).mem_iff]

theorem ReferenceFields.projection_keys (r : ReferenceFields) :
    (Dict.keys r.projection).Nodup ∧ (∀ key ∈ Dict.keys r.projection, Graphic key) ∧
      Dict.keys r.projection = if r.referenceContractVersion = referenceV2ContractVersion then
        referenceFieldNames else legacyReferenceFields := by
  unfold ReferenceFields.projection ReferenceFields.extension
  split_ifs with hversion
  · simp only [Dict.keys, List.map_append, List.map_cons, List.map_nil]
    decide
  · simp only [Dict.keys, List.map_append, List.map_cons, List.map_nil]
    decide

theorem ReferenceFields.named_projection {r : ReferenceFields} {raw : Dict}
    (h : raw.Perm r.projection) :
    ReferenceArguments.named raw =
      if r.referenceContractVersion = referenceV2ContractVersion then r.arguments
      else { r.arguments with credentialPrincipalIdentity := .null, challengeDigest := .null } := by
  have hget := get_perm h ((keys_perm h).nodup_iff.mpr r.projection_keys.1)
  unfold ReferenceArguments.named
  simp only [hget]
  split_ifs with hversion
  · simp [ReferenceFields.projection, ReferenceFields.extension, hversion, Dict.get, List.lookup_cons,
      ReferenceFields.arguments]
  · simp [ReferenceFields.projection, ReferenceFields.extension, hversion, Dict.get, List.lookup_cons,
      ReferenceFields.arguments]

section
variable [PythonLibrary] [UnicodeLibrary] [ZonedTimeLibrary] [TimestampLibrary]
  [LawfulTextLibrary] [LawfulZonedTimeLibrary] [LawfulInfixLibrary]

/-- A reference is read from its payload, in any order of the members. -/
theorem AttestationBindingReference.fromUntrusted_perm {r : AttestationBindingReference}
    {raw : Dict} (h : raw.Perm r.projection) :
    AttestationBindingReference.fromUntrusted (.dict raw) = .ok r := by
  have hkeys := r.projection_keys.2.2
  have hnamed := ReferenceFields.named_projection h
  have hagain := r.again_eq
  have hnames : Dict.hasExactly r.projection legacyReferenceFields = true ↔
      r.referenceContractVersion ≠ referenceV2ContractVersion := by
    rw [Dict.hasExactly_iff, hkeys]
    split_ifs with hversion
    · refine iff_of_false (fun hall => ?_) (fun hne => hne hversion)
      exact absurd ((hall "challenge_digest").mp (by decide)) (by decide)
    · exact iff_of_true (fun key => Iff.rfl) hversion
  simp only [AttestationBindingReference.fromUntrusted, bind_eq_ok, orRaise_eq_ok]
  refine ⟨raw, rfl, ?_⟩
  rw [hasExactly_perm h]
  by_cases hversion : r.referenceContractVersion = referenceV2ContractVersion
  · rw [if_neg (fun hlegacy => hnames.mp hlegacy hversion)]
    rw [if_pos hversion] at hnamed hkeys
    simp only [bind_eq_ok, require_eq_ok]
    refine ⟨(), ?_, by rw [hnamed]; exact hagain⟩
    rw [hasExactly_perm h, Dict.hasExactly_iff, hkeys]
    exact fun key => Iff.rfl
  · rw [if_pos (hnames.mpr hversion)]
    rw [if_neg hversion] at hnamed
    rcases r.sound.extension with ⟨-, hprincipal, hchallenge⟩ | ⟨htwo, -⟩
    · rw [hnamed]
      rw [AttestationBindingReference.again] at hagain
      rw [← hagain]
      simp only [ReferenceFields.arguments, hprincipal, hchallenge]
    · exact absurd htwo hversion

omit [LawfulZonedTimeLibrary] [LawfulInfixLibrary] in
theorem ReferenceFields.Sound.normalize {r : ReferenceFields} (h : r.Sound) :
    ∀ e ∈ r.projection, CanonicalValues.normalize e.2 = .ok e.2 := by
  obtain ⟨t, horiginal⟩ := h.original
  have htext := fun s hs => normalize_text (h.texts s hs)
  have hdigest := fun s hs => normalize_hex (by decide : Graphic "sha256:") (h.digests s hs)
  have hversion : CanonicalValues.normalize (.str r.referenceContractVersion) =
      .ok (.str r.referenceContractVersion) := by
    rcases h.version with hversion | hversion
    · rw [hversion]
      exact normalize_text ((by decide : Graphic _).settled (by decide))
    · rw [hversion]
      exact normalize_text ((by decide : Graphic _).settled (by decide))
  have hextension : ∀ e ∈ r.extension, CanonicalValues.normalize e.2 = .ok e.2 := by
    unfold ReferenceFields.extension
    split_ifs with htwo
    · rcases h.extension with ⟨hone, -⟩ | ⟨-, hprincipal, hchallenge⟩
      · exact absurd htwo hone
      · simp only [List.forall_mem_cons, List.not_mem_nil, false_implies, implies_true, and_true]
        exact ⟨normalize_text hprincipal, normalize_hex (by decide) hchallenge⟩
    · simp
  simp only [ReferenceFields.projection, List.forall_mem_append, List.forall_mem_cons,
    List.not_mem_nil, false_implies, implies_true, and_true]
  exact ⟨⟨hversion, normalize_hex (by decide) h.referenceIdForm, htext _ (by simp),
    normalize_hex (by decide) h.artifactId, hdigest _ (by simp), normalize_hex (by decide) h.bindingId,
    htext _ (by simp), htext _ (by simp), htext _ (by simp), hdigest _ (by simp),
    htext _ (by simp), rfl, hdigest _ (by simp), hdigest _ (by simp), hdigest _ (by simp),
    hdigest _ (by simp), htext _ (by simp), hdigest _ (by simp), htext _ (by simp),
    hdigest _ (by simp), normalize_text horiginal.settled, hdigest _ (by simp)⟩, hextension⟩

end

theorem ReferenceFields.projection_plain (r : ReferenceFields) :
    Plain (.dict (sortEntries r.projection)) := by
  have hextension : ∀ e ∈ r.extension, Plain e.2 := by
    unfold ReferenceFields.extension
    split_ifs
    · simp only [List.forall_mem_cons, List.not_mem_nil, false_implies, implies_true, and_true]
      exact ⟨trivial, trivial⟩
    · simp
  refine plain_sorted r.projection_keys.1 ?_
  simp only [ReferenceFields.projection, List.forall_mem_append, List.forall_mem_cons,
    List.not_mem_nil, false_implies, implies_true, and_true, Plain]
  exact ⟨trivial, hextension⟩

/-! ## Revalidation events -/

def eventIdDomain : String := "delivery-system:attestation-revalidation-event-identity:v1"

def eventContentDomain : String := "delivery-system:attestation-revalidation-event-content:v1"

def attestationRevalidationFailureCodes : List String :=
  ["attestation_revalidation_preview_stale", "attestation_revalidation_audit_stale",
    "attestation_revalidation_evidence_mismatch", "attestation_revalidation_expired",
    "attestation_revalidation_revoked", "attestation_revalidation_verifier_unavailable",
    "attestation_revalidation_revocation_unavailable", "attestation_signature_invalid",
    "credential_capability_insufficient"]

/-- `attempt-` and thirty-two lowercase hexadecimal digits. -/
def attemptPattern (s : String) : Bool :=
  "attempt-".toList.isPrefixOf s.toList && (s.toList.drop 8).length = 32 &&
    (s.toList.drop 8).all fun c => c.isDigit || ('a' ≤ c && c ≤ 'f')

structure EventArguments where
  eventIdentityVersion : Value
  eventPayloadVersion : Value
  eventId : Value
  workspaceIdentity : Value
  artifactId : Value
  artifactDigest : Value
  revalidationAttemptId : Value
  revalidationContextDigest : Value
  bindingReferenceDigest : Value
  outcome : Value
  revalidatedAt : Value
  failureCode : Value
  resultDigest : Value
  eventPayloadDigest : Value

/-- Both versions of an event are `"1"`. -/
structure EventFields where
  eventId : String
  workspaceIdentity : String
  artifactId : String
  artifactDigest : String
  revalidationAttemptId : String
  revalidationContextDigest : String
  bindingReferenceDigest : String
  outcome : String
  revalidatedAt : String
  failureCode : Option String
  resultDigest : Option String
  eventPayloadDigest : String
deriving DecidableEq

/-- `_content_payload_for` -/
def EventFields.content (e : EventFields) : Dict :=
  [("domain", .str eventContentDomain), ("event_payload_version", .str "1"),
    ("workspace_identity", .str e.workspaceIdentity), ("artifact_id", .str e.artifactId),
    ("artifact_digest", .str e.artifactDigest),
    ("revalidation_attempt_id", .str e.revalidationAttemptId),
    ("revalidation_context_digest", .str e.revalidationContextDigest),
    ("binding_reference_digest", .str e.bindingReferenceDigest), ("outcome", .str e.outcome),
    ("revalidated_at", .str e.revalidatedAt), ("failure_code", .textOrNone e.failureCode),
    ("result_digest", .textOrNone e.resultDigest)]

/-- `_event_projection` -/
def EventFields.projection (e : EventFields) : Dict :=
  [("event_identity_version", .str "1"), ("event_payload_version", .str "1"),
    ("event_id", .str e.eventId), ("workspace_identity", .str e.workspaceIdentity),
    ("artifact_id", .str e.artifactId), ("artifact_digest", .str e.artifactDigest),
    ("revalidation_attempt_id", .str e.revalidationAttemptId),
    ("revalidation_context_digest", .str e.revalidationContextDigest),
    ("binding_reference_digest", .str e.bindingReferenceDigest), ("outcome", .str e.outcome),
    ("revalidated_at", .str e.revalidatedAt), ("failure_code", .textOrNone e.failureCode),
    ("result_digest", .textOrNone e.resultDigest),
    ("event_payload_digest", .str e.eventPayloadDigest)]

def eventFieldNames : List String :=
  ["event_identity_version", "event_payload_version", "event_id", "workspace_identity",
    "artifact_id", "artifact_digest", "revalidation_attempt_id", "revalidation_context_digest",
    "binding_reference_digest", "outcome", "revalidated_at", "failure_code", "result_digest",
    "event_payload_digest"]

section
variable [PythonLibrary] [UnicodeLibrary] [ZonedTimeLibrary]

/-- A successful event has a result and no failure, a failed one the reverse. -/
def eventConclusion (outcome : String) (failure result : Value) :
    Py (Option String × Option String) :=
  if outcome = "Successful" then do
    require (failure = .null) payloadInvalid
    let result ← digestValue result
    pure (none, some result)
  else do
    let failure ← orRaise failure.text? payloadInvalid
    require (failure ∈ attestationRevalidationFailureCodes) payloadInvalid
    require (result = .null) payloadInvalid
    pure (some failure, none)

/-- The identity that is derived for an event. -/
def EventFields.derivedId (e : EventFields) : Py String := do
  let material ← CanonicalValues.normalize (.dict
    [("domain", .str eventIdDomain), ("event_identity_version", .str "1"),
      ("workspace_identity", .str e.workspaceIdentity), ("artifact_id", .str e.artifactId),
      ("revalidation_attempt_id", .str e.revalidationAttemptId)])
  pure ("revalidation-event-" ++ PythonLibrary.hexdigest material)

/-- `AttestationRevalidationEvent.__post_init__` -/
def EventArguments.postInit (a : EventArguments) : Py EventFields := do
  require (a.eventIdentityVersion = .str "1") payloadInvalid
  require (a.eventPayloadVersion = .str "1") payloadInvalid
  let workspace ← persistedText a.workspaceIdentity
  let artifactId ← exactText a.artifactId (hexPattern "artifact-")
  let artifactDigest ← digestValue a.artifactDigest
  let attempt ← exactText a.revalidationAttemptId attemptPattern
  let context ← digestValue a.revalidationContextDigest
  let reference ← digestValue a.bindingReferenceDigest
  let timestamp ← persistedTimestamp a.revalidatedAt
  let outcome ← orRaise a.outcome.text? payloadInvalid
  require (outcome = "Successful" ∨ outcome = "Failed") payloadInvalid
  let conclusion ← eventConclusion outcome a.failureCode a.resultDigest
  let normalized : EventFields :=
    { eventId := ""
      workspaceIdentity := workspace
      artifactId := artifactId
      artifactDigest := artifactDigest
      revalidationAttemptId := attempt
      revalidationContextDigest := context
      bindingReferenceDigest := reference
      outcome := outcome
      revalidatedAt := timestamp.1
      failureCode := conclusion.1
      resultDigest := conclusion.2
      eventPayloadDigest := "" }
  let expectedEventId ← normalized.derivedId
  let eventId ← exactText a.eventId (hexPattern "revalidation-event-")
  let eventPayloadDigest ← digestValue a.eventPayloadDigest
  require (eventId = expectedEventId) payloadInvalid
  let expectedPayloadDigest ← canonicalDigest (.dict normalized.content)
  require (eventPayloadDigest = expectedPayloadDigest) payloadInvalid
  pure { normalized with eventId, eventPayloadDigest }

/-- An event that the constructor made. -/
structure AttestationRevalidationEvent extends EventFields where
  made : ∃ arguments : EventArguments, arguments.postInit = .ok toEventFields

instance : DecidableEq AttestationRevalidationEvent := fun a b =>
  decidable_of_iff (a.toEventFields = b.toEventFields)
    ⟨fun h => by cases a; cases b; cases h; rfl, fun h => h ▸ rfl⟩

def AttestationRevalidationEvent.make (a : EventArguments) : Py AttestationRevalidationEvent :=
  match h : a.postInit with
  | .ok fields => .ok ⟨fields, a, h⟩
  | .error e => .error e

def EventFields.arguments (e : EventFields) : EventArguments where
  eventIdentityVersion := .str "1"
  eventPayloadVersion := .str "1"
  eventId := .str e.eventId
  workspaceIdentity := .str e.workspaceIdentity
  artifactId := .str e.artifactId
  artifactDigest := .str e.artifactDigest
  revalidationAttemptId := .str e.revalidationAttemptId
  revalidationContextDigest := .str e.revalidationContextDigest
  bindingReferenceDigest := .str e.bindingReferenceDigest
  outcome := .str e.outcome
  revalidatedAt := .str e.revalidatedAt
  failureCode := .textOrNone e.failureCode
  resultDigest := .textOrNone e.resultDigest
  eventPayloadDigest := .str e.eventPayloadDigest

/-- `AttestationRevalidationEvent.create` -/
def AttestationRevalidationEvent.create (workspaceIdentity artifactId artifactDigest
    revalidationAttemptId revalidationContextDigest bindingReferenceDigest : Value)
    (outcome : String) (revalidatedAt : Value) (failureCode resultDigest : Option String) :
    Py AttestationRevalidationEvent := do
  let workspace ← persistedText workspaceIdentity
  let artifactId ← exactText artifactId (hexPattern "artifact-")
  let attempt ← exactText revalidationAttemptId attemptPattern
  let timestamp ← persistedTimestamp revalidatedAt
  let artifactDigest ← digestValue artifactDigest
  let context ← digestValue revalidationContextDigest
  let reference ← digestValue bindingReferenceDigest
  let draft : EventFields :=
    { eventId := ""
      workspaceIdentity := workspace
      artifactId := artifactId
      artifactDigest := artifactDigest
      revalidationAttemptId := attempt
      revalidationContextDigest := context
      bindingReferenceDigest := reference
      outcome := outcome
      revalidatedAt := timestamp.1
      failureCode := failureCode
      resultDigest := resultDigest
      eventPayloadDigest := "" }
  let eventId ← draft.derivedId
  let eventPayloadDigest ← canonicalDigest (.dict draft.content)
  AttestationRevalidationEvent.make
    ({ draft with eventId, eventPayloadDigest } : EventFields).arguments

/-- `from_untrusted` of an event object. -/
def AttestationRevalidationEvent.again (e : AttestationRevalidationEvent) :
    Py AttestationRevalidationEvent :=
  AttestationRevalidationEvent.make e.arguments

/-- The arguments under the names of the fields. -/
def EventArguments.named (raw : Dict) : EventArguments where
  eventIdentityVersion := raw.get "event_identity_version"
  eventPayloadVersion := raw.get "event_payload_version"
  eventId := raw.get "event_id"
  workspaceIdentity := raw.get "workspace_identity"
  artifactId := raw.get "artifact_id"
  artifactDigest := raw.get "artifact_digest"
  revalidationAttemptId := raw.get "revalidation_attempt_id"
  revalidationContextDigest := raw.get "revalidation_context_digest"
  bindingReferenceDigest := raw.get "binding_reference_digest"
  outcome := raw.get "outcome"
  revalidatedAt := raw.get "revalidated_at"
  failureCode := raw.get "failure_code"
  resultDigest := raw.get "result_digest"
  eventPayloadDigest := raw.get "event_payload_digest"

/-- `from_untrusted` of decoded data. -/
def AttestationRevalidationEvent.fromUntrusted (value : Value) :
    Py AttestationRevalidationEvent := do
  let raw ← orRaise value.mapping? typeInvalid
  require (Dict.hasExactly raw eventFieldNames = true) keysetInvalid
  AttestationRevalidationEvent.make (EventArguments.named raw)

/-- An argument that `from_untrusted` reads: an object, or any other value. -/
inductive Supplied (R : Type) where
  | record (r : R)
  | value (v : Value)

def Supplied.read {R : Type} (again : R → Py R) (fromUntrusted : Value → Py R) :
    Supplied R → Py R
  | .record r => again r
  | .value v => fromUntrusted v

def readArtifact : Supplied PersistedAttestationArtifact → Py PersistedAttestationArtifact :=
  Supplied.read PersistedAttestationArtifact.again PersistedAttestationArtifact.fromUntrusted

def readReference : Supplied AttestationBindingReference → Py AttestationBindingReference :=
  Supplied.read AttestationBindingReference.again AttestationBindingReference.fromUntrusted

def readEvent : Supplied AttestationRevalidationEvent → Py AttestationRevalidationEvent :=
  Supplied.read AttestationRevalidationEvent.again AttestationRevalidationEvent.fromUntrusted

/-- `to_payload` -/
def AttestationRevalidationEvent.toPayload (e : AttestationRevalidationEvent) : Py Dict := do
  let normalized ← e.again
  pure normalized.projection

end

/-! ## Events that were made are made again -/

section
variable [PythonLibrary] [UnicodeLibrary] [ZonedTimeLibrary] [TimestampLibrary]
  [LawfulTextLibrary] [LawfulZonedTimeLibrary] [LawfulInfixLibrary]

/-- What the constructor of an event makes sure of. -/
structure EventFields.Sound (e : EventFields) : Prop where
  workspace : Settled e.workspaceIdentity
  artifactId : hexPattern "artifact-" e.artifactId = true
  attempt : attemptPattern e.revalidationAttemptId = true
  digests : ∀ s ∈ [e.artifactDigest, e.revalidationContextDigest, e.bindingReferenceDigest,
    e.eventPayloadDigest], hexPattern "sha256:" s = true
  revalidated : ∃ t, StoredTime e.revalidatedAt t
  conclusion : (e.outcome = "Successful" ∧ e.failureCode = none ∧
      ∃ result, e.resultDigest = some result ∧ hexPattern "sha256:" result = true) ∨
    (e.outcome = "Failed" ∧ e.resultDigest = none ∧
      ∃ failure ∈ attestationRevalidationFailureCodes, e.failureCode = some failure)
  eventId : e.derivedId = .ok e.eventId
  eventIdForm : hexPattern "revalidation-event-" e.eventId = true
  content : canonicalDigest (.dict e.content) = .ok e.eventPayloadDigest

omit [PythonLibrary] [UnicodeLibrary] [ZonedTimeLibrary] [TimestampLibrary] [LawfulTextLibrary]
  [LawfulZonedTimeLibrary] [LawfulInfixLibrary] in
theorem eventConclusion_eq_ok {outcome : String} {failure result : Value}
    {conclusion : Option String × Option String}
    (houtcome : outcome = "Successful" ∨ outcome = "Failed") :
    eventConclusion outcome failure result = .ok conclusion ↔
      (failure = .textOrNone conclusion.1 ∧ result = .textOrNone conclusion.2) ∧
        ((outcome = "Successful" ∧ conclusion.1 = none ∧
            ∃ digest, conclusion.2 = some digest ∧ hexPattern "sha256:" digest = true) ∨
          (outcome = "Failed" ∧ conclusion.2 = none ∧
            ∃ code ∈ attestationRevalidationFailureCodes, conclusion.1 = some code)) := by
  obtain ⟨failureCode, resultDigest⟩ := conclusion
  unfold eventConclusion
  rcases houtcome with rfl | rfl
  · rw [if_pos rfl]
    simp only [bind_eq_ok, require_eq_ok, pure_eq_ok, exactText_eq_ok, Prod.mk.injEq]
    constructor
    · rintro ⟨_, rfl, digest, ⟨rfl, hdigest⟩, rfl, rfl⟩
      exact ⟨⟨rfl, rfl⟩, .inl ⟨trivial, rfl, digest, rfl, hdigest⟩⟩
    · rintro ⟨⟨rfl, rfl⟩, ⟨-, rfl, digest, rfl, hdigest⟩ | ⟨hfailed, -⟩⟩
      · exact ⟨(), rfl, digest, ⟨rfl, hdigest⟩, rfl, rfl⟩
      · exact absurd hfailed (by decide)
  · rw [if_neg (by decide)]
    simp only [bind_eq_ok, orRaise_eq_ok, require_eq_ok, pure_eq_ok, Prod.mk.injEq,
      Value.text?_eq_some]
    constructor
    · rintro ⟨code, rfl, _, hcode, _, rfl, rfl, rfl⟩
      exact ⟨⟨rfl, rfl⟩, .inr ⟨trivial, rfl, code, hcode, rfl⟩⟩
    · rintro ⟨⟨rfl, rfl⟩, ⟨hsuccessful, -⟩ | ⟨-, rfl, code, hcode, rfl⟩⟩
      · exact absurd hsuccessful (by decide)
      · exact ⟨code, rfl, (), hcode, (), rfl, rfl, rfl⟩

theorem EventArguments.postInit_sound {arguments : EventArguments} {e : EventFields}
    (h : arguments.postInit = .ok e) : e.Sound := by
  simp only [EventArguments.postInit, bind_eq_ok, orRaise_eq_ok, require_eq_ok, pure_eq_ok,
    exactText_eq_ok] at h
  obtain ⟨_, -, _, -, workspace, hworkspace, artifactId, ⟨-, hartifactId⟩, artifactDigest,
    ⟨-, hartifact⟩, attempt, ⟨-, hattempt⟩, context, ⟨-, hcontext⟩, reference, ⟨-, hreference⟩,
    ⟨timestamp, t⟩, htimestamp, outcome, -, _, houtcome, conclusion, hconclusion, expectedId, hid,
    eventId, ⟨-, hidForm⟩, digest, ⟨-, hdigest⟩, _, rfl, expectedDigest, hcontent, _, rfl, rfl⟩ := h
  exact
    { workspace := persistedText_settled hworkspace
      artifactId := hartifactId
      attempt := hattempt
      digests := by
        simp only [List.forall_mem_cons, List.not_mem_nil, false_implies, implies_true, and_true]
        exact ⟨hartifact, hcontext, hreference, hdigest⟩
      revalidated := ⟨t, persistedTimestamp_stored htimestamp⟩
      conclusion := ((eventConclusion_eq_ok houtcome).mp hconclusion).2
      eventId := hid
      eventIdForm := hidForm
      content := hcontent }

omit [TimestampLibrary] [LawfulTextLibrary] [LawfulZonedTimeLibrary] [LawfulInfixLibrary] in
theorem EventFields.Sound.outcome [TimestampLibrary] [LawfulTextLibrary] {e : EventFields}
    (h : e.Sound) : e.outcome = "Successful" ∨ e.outcome = "Failed" :=
  h.conclusion.imp And.left And.left

omit [LawfulZonedTimeLibrary] [LawfulInfixLibrary] in
theorem EventFields.Sound.postInit {e : EventFields} (h : e.Sound) :
    e.arguments.postInit = .ok e := by
  obtain ⟨t, hrevalidated⟩ := h.revalidated
  simp only [EventArguments.postInit, EventFields.arguments, bind_eq_ok, orRaise_eq_ok,
    require_eq_ok, pure_eq_ok, exactText_eq_ok, Value.text?_eq_some]
  exact ⟨(), trivial, (), trivial, _, Settled.persistedText h.workspace, _, ⟨rfl, h.artifactId⟩, _,
    ⟨rfl, h.digests _ (by simp)⟩, _, ⟨rfl, h.attempt⟩, _, ⟨rfl, h.digests _ (by simp)⟩, _,
    ⟨rfl, h.digests _ (by simp)⟩, _, hrevalidated.persistedTimestamp, _, rfl, (), h.outcome,
    (e.failureCode, e.resultDigest),
    (eventConclusion_eq_ok h.outcome).mpr ⟨⟨rfl, rfl⟩, h.conclusion⟩, _, h.eventId, _,
    ⟨rfl, h.eventIdForm⟩, _, ⟨rfl, h.digests _ (by simp)⟩, (), rfl, _, h.content, (), rfl, rfl⟩

theorem AttestationRevalidationEvent.sound (e : AttestationRevalidationEvent) :
    e.toEventFields.Sound := by
  obtain ⟨arguments, h⟩ := e.made
  exact EventArguments.postInit_sound h

omit [TimestampLibrary] [LawfulTextLibrary] [LawfulZonedTimeLibrary] [LawfulInfixLibrary] in
theorem AttestationRevalidationEvent.make_eq_ok {arguments : EventArguments}
    {e : AttestationRevalidationEvent} :
    AttestationRevalidationEvent.make arguments = .ok e ↔
      arguments.postInit = .ok e.toEventFields := by
  obtain ⟨fields, hmade⟩ := e
  unfold AttestationRevalidationEvent.make
  split
  · rename_i fields' hfields
    simp [hfields]
  · rename_i e herror
    simp [herror]

omit [PythonLibrary] [UnicodeLibrary] [ZonedTimeLibrary] [TimestampLibrary] [LawfulTextLibrary]
  [LawfulZonedTimeLibrary] [LawfulInfixLibrary] in
theorem textOrNone_injective {a b : Option String} (h : Value.textOrNone a = .textOrNone b) :
    a = b := by
  cases a <;> cases b <;> simp_all [Value.textOrNone]

omit [TimestampLibrary] [LawfulTextLibrary] [LawfulZonedTimeLibrary] [LawfulInfixLibrary] in
/-- What an event made by `create` concludes, and of which attempt. -/
theorem AttestationRevalidationEvent.create_holds {workspaceIdentity artifactId artifactDigest
    revalidationAttemptId revalidationContextDigest bindingReferenceDigest revalidatedAt : Value}
    {outcome : String} {failureCode resultDigest : Option String}
    {e : AttestationRevalidationEvent}
    (h : AttestationRevalidationEvent.create workspaceIdentity artifactId artifactDigest
      revalidationAttemptId revalidationContextDigest bindingReferenceDigest outcome revalidatedAt
      failureCode resultDigest = .ok e) :
    e.outcome = outcome ∧ e.failureCode = failureCode ∧ e.resultDigest = resultDigest ∧
      revalidationAttemptId = .str e.revalidationAttemptId := by
  simp only [AttestationRevalidationEvent.create, bind_eq_ok, exactText_eq_ok] at h
  obtain ⟨workspace, -, _, -, attempt, ⟨hattempt, -⟩, timestamp, -, _, -, _, -, _, -, eventId, -,
    payloadDigest, -, hmake⟩ := h
  have hpostInit := AttestationRevalidationEvent.make_eq_ok.mp hmake
  simp only [EventArguments.postInit, EventFields.arguments, bind_eq_ok, orRaise_eq_ok,
    require_eq_ok, pure_eq_ok, exactText_eq_ok, Value.text?_eq_some, Value.str.injEq] at hpostInit
  obtain ⟨_, -, _, -, _, -, _, -, _, -, _, ⟨rfl, -⟩, _, -, _, -, _, -, _, rfl, _, houtcome,
    conclusion, hconclusion, _, -, _, -, _, -, _, -, _, -, _, -, hfields⟩ := hpostInit
  obtain ⟨⟨hfailure, hresult⟩, -⟩ := (eventConclusion_eq_ok houtcome).mp hconclusion
  rw [← hfields]
  exact ⟨rfl, (textOrNone_injective hfailure).symm, (textOrNone_injective hresult).symm, hattempt⟩

/-- An event is read as itself. -/
theorem AttestationRevalidationEvent.again_eq (e : AttestationRevalidationEvent) :
    e.again = .ok e :=
  AttestationRevalidationEvent.make_eq_ok.mpr e.sound.postInit

theorem AttestationRevalidationEvent.toPayload_eq (e : AttestationRevalidationEvent) :
    e.toPayload = .ok e.projection := by
  simp only [AttestationRevalidationEvent.toPayload, bind_eq_ok, pure_eq_ok]
  exact ⟨e, e.again_eq, rfl⟩

omit [PythonLibrary] [UnicodeLibrary] [ZonedTimeLibrary] [TimestampLibrary] [LawfulTextLibrary]
  [LawfulZonedTimeLibrary] [LawfulInfixLibrary] in
theorem EventFields.projection_keys (e : EventFields) :
    (Dict.keys e.projection).Nodup ∧ (∀ key ∈ Dict.keys e.projection, Graphic key) ∧
      Dict.keys e.projection = eventFieldNames := by
  simp only [EventFields.projection, Dict.keys, List.map_cons, List.map_nil]
  decide

/-- An event is read from its payload, in any order of the members. -/
theorem AttestationRevalidationEvent.fromUntrusted_perm {e : AttestationRevalidationEvent}
    {raw : Dict} (h : raw.Perm e.projection) :
    AttestationRevalidationEvent.fromUntrusted (.dict raw) = .ok e := by
  have hget := get_perm h ((keys_perm h).nodup_iff.mpr e.projection_keys.1)
  have hnamed : EventArguments.named raw = e.arguments := by
    unfold EventArguments.named
    simp only [hget]
    simp [EventFields.projection, Dict.get, List.lookup_cons, EventFields.arguments]
  simp only [AttestationRevalidationEvent.fromUntrusted, bind_eq_ok, orRaise_eq_ok,
    require_eq_ok]
  refine ⟨raw, rfl, (), ?_, by rw [hnamed]; exact e.again_eq⟩
  rw [hasExactly_perm h, Dict.hasExactly_iff, e.projection_keys.2.2]
  exact fun key => Iff.rfl

omit [PythonLibrary] [UnicodeLibrary] [ZonedTimeLibrary] [TimestampLibrary] [LawfulTextLibrary]
  [LawfulZonedTimeLibrary] [LawfulInfixLibrary] in
theorem attemptPattern_graphic {s : String} (h : attemptPattern s = true) : Graphic s ∧ s ≠ "" := by
  simp only [attemptPattern, Bool.and_eq_true, decide_eq_true_eq, List.isPrefixOf_iff_prefix,
    List.all_eq_true, Bool.or_eq_true] at h
  obtain ⟨⟨⟨rest, hrest⟩, -⟩, hdigits⟩ := h
  have hdrop : s.toList.drop 8 = rest := by
    rw [← hrest]
    exact (List.drop_left : List.drop "attempt-".toList.length ("attempt-".toList ++ rest) = rest)
  rw [hdrop] at hdigits
  have htag : Graphic "attempt-" := by decide
  refine ⟨?_, ?_⟩
  · intro c hc
    rw [← hrest, List.mem_append] at hc
    rcases hc with hc | hc
    · exact htag c hc
    · exact hexDigit_graphic (hdigits c hc)
  · rintro rfl
    exact absurd (congrArg List.length hrest) (by simp)

omit [LawfulZonedTimeLibrary] [LawfulInfixLibrary] in
theorem EventFields.Sound.normalize {e : EventFields} (h : e.Sound) :
    ∀ entry ∈ e.projection, CanonicalValues.normalize entry.2 = .ok entry.2 := by
  obtain ⟨t, hrevalidated⟩ := h.revalidated
  have hdigest := fun s hs => normalize_hex (by decide : Graphic "sha256:") (h.digests s hs)
  have hone : CanonicalValues.normalize (.str "1") = .ok (.str "1") :=
    normalize_text ((by decide : Graphic _).settled (by decide))
  have houtcome : CanonicalValues.normalize (.str e.outcome) = .ok (.str e.outcome) := by
    rcases h.outcome with houtcome | houtcome
    · rw [houtcome]
      exact normalize_text ((by decide : Graphic _).settled (by decide))
    · rw [houtcome]
      exact normalize_text ((by decide : Graphic _).settled (by decide))
  have hconclusion : CanonicalValues.normalize (.textOrNone e.failureCode) =
        .ok (.textOrNone e.failureCode) ∧
      CanonicalValues.normalize (.textOrNone e.resultDigest) = .ok (.textOrNone e.resultDigest) := by
    rcases h.conclusion with ⟨-, hfailure, result, hresult, hform⟩ |
      ⟨-, hresult, failure, hmem, hfailure⟩
    · rw [hfailure, hresult]
      exact ⟨rfl, normalize_hex (by decide) hform⟩
    · have hcodes : ∀ code ∈ attestationRevalidationFailureCodes, Graphic code ∧ code ≠ "" := by
        decide
      obtain ⟨hgraphic, hne⟩ := hcodes failure hmem
      rw [hfailure, hresult]
      exact ⟨normalize_text (hgraphic.settled hne), rfl⟩
  have hattempt := (attemptPattern_graphic h.attempt).1.settled (attemptPattern_graphic h.attempt).2
  simp only [EventFields.projection, List.forall_mem_cons,
    List.not_mem_nil, false_implies, implies_true, and_true]
  exact ⟨hone, hone, normalize_hex (by decide) h.eventIdForm, normalize_text h.workspace,
    normalize_hex (by decide) h.artifactId, hdigest _ (by simp), normalize_text hattempt,
    hdigest _ (by simp), hdigest _ (by simp), houtcome, normalize_text hrevalidated.settled,
    hconclusion.1, hconclusion.2, hdigest _ (by simp)⟩

end

theorem EventFields.projection_plain (e : EventFields) :
    Plain (.dict (sortEntries e.projection)) := by
  refine plain_sorted e.projection_keys.1 ?_
  have hoption : ∀ s : Option String, Plain (.textOrNone s) := by
    rintro (_ | s)
    · trivial
    · trivial
  simp only [EventFields.projection, List.forall_mem_cons, List.not_mem_nil, false_implies,
    implies_true, and_true]
  exact ⟨trivial, trivial, trivial, trivial, trivial, trivial, trivial, trivial, trivial, trivial,
    trivial, hoption e.failureCode, hoption e.resultDigest, trivial⟩

/-! ## Artifacts as JSON text -/

theorem proofPattern_graphic {s : String} (h : proofPattern s = true) : Graphic s ∧ s ≠ "" := by
  simp only [proofPattern, Bool.and_eq_true, decide_eq_true_eq, List.all_eq_true] at h
  obtain ⟨⟨hlength, hcharacters⟩, -⟩ := h
  refine ⟨?_, ?_⟩
  · intro c hc
    have hcharacter := hcharacters c hc
    simp only [base64Character] at hcharacter
    delta Char.isAlphanum at hcharacter
    delta Char.isAlpha at hcharacter
    delta Char.isUpper Char.isLower Char.isDigit at hcharacter
    simp only [Bool.or_eq_true, Bool.and_eq_true, decide_eq_true_eq,
      UInt32.le_iff_toNat_le] at hcharacter
    rcases hcharacter with ((((⟨hlow, hhigh⟩ | ⟨hlow, hhigh⟩) | ⟨hlow, hhigh⟩) | rfl) | rfl)
    · have hlow' : 65 ≤ c.toNat := hlow
      have hhigh' : c.toNat ≤ 90 := hhigh
      omega
    · have hlow' : 97 ≤ c.toNat := hlow
      have hhigh' : c.toNat ≤ 122 := hhigh
      omega
    · have hlow' : 48 ≤ c.toNat := hlow
      have hhigh' : c.toNat ≤ 57 := hhigh
      omega
    · decide
    · decide
  · rintro rfl
    cases hlength

section
variable [PythonLibrary] [UnicodeLibrary] [ZonedTimeLibrary]

/-- The payload of an artifact with the claims in order. -/
def canonicalEntries (a : ArtifactFields) : Dict :=
  [("artifact_contract_version", .str artifactContractVersion), ("artifact_id", .str a.artifactId),
    ("workspace_identity", .str a.workspaceIdentity), ("attestation_id", .str a.attestationId),
    ("claims_payload", .dict a.claimsPayload.canonicalPayload),
    ("detached_proof", .str a.detachedProof), ("claims_digest", .str a.claimsDigest),
    ("artifact_digest", .str a.artifactDigest),
    ("original_verified_at", .str a.originalVerifiedAt), ("created_at", .str a.createdAt)]

theorem canonicalEntries_keys (a : ArtifactFields) :
    (Dict.keys (canonicalEntries a)).Nodup ∧
      (∀ key ∈ Dict.keys (canonicalEntries a), Graphic key) ∧
      Dict.keys (canonicalEntries a) = artifactFieldNames := by
  simp only [canonicalEntries, Dict.keys, List.map_cons, List.map_nil]
  decide

theorem canonicalEntries_plain (a : ArtifactFields) :
    Plain (.dict (sortEntries (canonicalEntries a))) := by
  refine plain_sorted (canonicalEntries_keys a).1 ?_
  simp only [canonicalEntries, List.forall_mem_cons, List.not_mem_nil, false_implies,
    implies_true, and_true]
  exact ⟨trivial, trivial, trivial, trivial, canonicalPayload_plain _, trivial, trivial, trivial,
    trivial, trivial⟩

variable [TimestampLibrary] [LawfulTextLibrary] [LawfulZonedTimeLibrary] [LawfulDigestLibrary]
  [LawfulInfixLibrary]

/-- An artifact is read from its payload, in any order of the members. -/
theorem artifact_fromUntrusted {a : PersistedAttestationArtifact} {raw : Dict}
    (h : raw.Perm (canonicalEntries a.toArtifactFields)) :
    PersistedAttestationArtifact.fromUntrusted (.dict raw) = .ok a := by
  have hkeys := canonicalEntries_keys a.toArtifactFields
  have hget := get_perm h ((keys_perm h).nodup_iff.mpr hkeys.1)
  have hclaims := claimsObject_payload a.sound.granted a.sound.algorithm
  simp only [PersistedAttestationArtifact.fromUntrusted, bind_eq_ok, orRaise_eq_ok,
    require_eq_ok]
  refine ⟨raw, rfl, (), ?_, ?_⟩
  · rw [hasExactly_perm h, Dict.hasExactly_iff, hkeys.2.2]
    exact fun key => Iff.rfl
  · refine PersistedAttestationArtifact.make_eq_ok.mpr ?_
    rw [← a.sound.postInit hclaims]
    simp only [hget]
    simp [canonicalEntries, Dict.get, List.lookup_cons, ArtifactFields.arguments]

omit [LawfulInfixLibrary] in
/-- The payload of an artifact is only put in order. -/
theorem artifact_normalize {a : ArtifactFields} (h : a.Sound) :
    CanonicalValues.normalize (.dict a.projection) = .ok (.dict (sortEntries (canonicalEntries a))) := by
  obtain ⟨original, created, issued, expires, horiginal, hcreated, -⟩ := h.times
  obtain ⟨hproofGraphic, hproofNonEmpty⟩ := proofPattern_graphic h.proof
  have hproof := normalize_text (hproofGraphic.settled hproofNonEmpty)
  have hattestation : CanonicalValues.normalize (.str a.attestationId) = .ok (.str a.attestationId) := by
    rw [h.attestation]
    exact normalize_text a.claimsPayload.sound.attestation.settled
  have hnfc : ∀ key ∈ artifactFieldNames, key = UnicodeLibrary.nfc key := by
    have hgraphic : ∀ key ∈ artifactFieldNames, Graphic key := by decide
    exact fun key hkey => (LawfulTextLibrary.graphic (hgraphic key hkey)).1.symm
  simp only [CanonicalValues.normalize, bind_eq_ok, normalizeEntries_eq_ok, raiseIf_eq_ok, pure_eq_ok, not_not]
  refine ⟨canonicalEntries a, ?_, (), (canonicalEntries_keys a).1, rfl⟩
  exact .cons ⟨hnfc _ (by simp [artifactFieldNames]),
      normalize_text ((by decide : Graphic artifactContractVersion).settled (by decide))⟩
    (.cons ⟨hnfc _ (by simp [artifactFieldNames]), normalize_hex (by decide) h.artifactIdForm⟩
    (.cons ⟨hnfc _ (by simp [artifactFieldNames]), normalize_text h.workspace⟩
    (.cons ⟨hnfc _ (by simp [artifactFieldNames]), hattestation⟩
    (.cons ⟨hnfc _ (by simp [artifactFieldNames]), a.claimsPayload.sound.normalize⟩
    (.cons ⟨hnfc _ (by simp [artifactFieldNames]), hproof⟩
    (.cons ⟨hnfc _ (by simp [artifactFieldNames]), normalize_hex (by decide) h.claimsDigestForm⟩
    (.cons ⟨hnfc _ (by simp [artifactFieldNames]), normalize_hex (by decide) h.contentForm⟩
    (.cons ⟨hnfc _ (by simp [artifactFieldNames]), normalize_text horiginal.settled⟩
    (.cons ⟨hnfc _ (by simp [artifactFieldNames]), normalize_text hcreated.settled⟩ .nil)))))))))

end

/-! ## The texts of records -/

section
variable [PythonLibrary] [UnicodeLibrary] [ZonedTimeLibrary]

def artifactText (a : ArtifactFields) : String := dumps (.dict (sortEntries (canonicalEntries a)))

def referenceText (r : ReferenceFields) : String := dumps (.dict (sortEntries r.projection))

def eventText (e : EventFields) : String := dumps (.dict (sortEntries e.projection))

variable [TimestampLibrary] [LawfulTextLibrary] [LawfulZonedTimeLibrary] [LawfulDigestLibrary]
  [LawfulInfixLibrary]

/-- The text of an artifact determines it. -/
theorem artifactText_injective {a b : PersistedAttestationArtifact}
    (h : artifactText a.toArtifactFields = artifactText b.toArtifactFields) : a = b := by
  have hread := congrArg (loads jsonObject) h
  rw [artifactText, artifactText, loads_dumps jsonObject_keeps (canonicalEntries_plain _),
    loads_dumps jsonObject_keeps (canonicalEntries_plain _), Option.some.injEq] at hread
  have ha := artifact_fromUntrusted (sortEntries_perm (canonicalEntries a.toArtifactFields))
  have hb := artifact_fromUntrusted (sortEntries_perm (canonicalEntries b.toArtifactFields))
  rw [hread, hb] at ha
  exact (Except.ok.inj ha).symm

omit [LawfulDigestLibrary] in
theorem referenceText_injective {r s : AttestationBindingReference}
    (h : referenceText r.toReferenceFields = referenceText s.toReferenceFields) : r = s := by
  have hread := congrArg (loads jsonObject) h
  rw [referenceText, referenceText, loads_dumps jsonObject_keeps r.projection_plain,
    loads_dumps jsonObject_keeps s.projection_plain, Option.some.injEq] at hread
  have hr := AttestationBindingReference.fromUntrusted_perm (sortEntries_perm r.projection)
  have hs := AttestationBindingReference.fromUntrusted_perm (sortEntries_perm s.projection)
  rw [hread, hs] at hr
  exact (Except.ok.inj hr).symm

omit [LawfulDigestLibrary] in
theorem eventText_injective {e f : AttestationRevalidationEvent}
    (h : eventText e.toEventFields = eventText f.toEventFields) : e = f := by
  have hread := congrArg (loads jsonObject) h
  rw [eventText, eventText, loads_dumps jsonObject_keeps e.projection_plain,
    loads_dumps jsonObject_keeps f.projection_plain, Option.some.injEq] at hread
  have he := AttestationRevalidationEvent.fromUntrusted_perm (sortEntries_perm e.projection)
  have hf := AttestationRevalidationEvent.fromUntrusted_perm (sortEntries_perm f.projection)
  rw [hread, hf] at he
  exact (Except.ok.inj he).symm

end
end DeliverySystem.AttestationRecords

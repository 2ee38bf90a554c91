import DeliverySystem.AttestationReference
import DeliverySystem.AttestationTables

/-!
# Attestation records round trip

A persisted artifact, a binding reference and a revalidation event are each read
again from the JSON text of their payload and from the row that a store inserts.
An artifact and an event also project the content that their digest is taken of.
The projection of a reference leaves out the contract version that its content
is built from, and so never returns.
-/
namespace DeliverySystem.AttestationRoundTrips
open PythonValues CanonicalValues JsonText IssueCommands AuthorityBindings AttestationClaims
open AttestationArtifacts AttestationRecords AttestationStoreContract AttestationTables
open RemoteSnapshots
set_option autoImplicit false

/-! ## Content payloads -/

section
variable [PythonLibrary] [UnicodeLibrary] [ZonedTimeLibrary]

/-- `content_payload` of an artifact. -/
def PersistedAttestationArtifact.contentPayload (a : PersistedAttestationArtifact) : Py Value := do
  let normalized ← a.again
  pure (artifactContent normalized.workspaceIdentity normalized.claimsPayload
    normalized.detachedProof normalized.claimsDigest normalized.originalVerifiedAt
    normalized.createdAt)

/-- The fields that the content of a reference names. -/
def referenceContentFields : List String :=
  ["workspace_identity", "artifact_id", "artifact_digest", "binding_id", "repository_identity",
    "github_subject_identity", "driver_identity", "remote_authority", "preview_id", "revision",
    "plan_digest", "sealed_preview_digest", "operation_set_digest", "remote_snapshot_digest",
    "audit_id", "audit_digest", "evidence_id", "evidence_digest", "original_verified_at"]

/-- The same with the two fields of version 2. -/
def versionedContentFields (version : Value) : List String :=
  if version = .str referenceV2ContractVersion then
    referenceContentFields ++ ["credential_principal_identity", "challenge_digest"]
  else referenceContentFields

/-- `AttestationBindingReference._content_payload_for` -/
def contentPayloadFor (values : Dict) : Py Dict := do
  let version ← Dict.require values "reference_contract_version"
  let entries ← (versionedContentFields version).mapM fun field => do
    let value ← Dict.require values field
    pure (field, value)
  pure ([("domain", .str referenceContentDomain), ("reference_contract_version", version)] ++
    entries)

/-- `content_payload` of a reference. -/
def AttestationBindingReference.contentPayload (r : AttestationBindingReference) : Py Dict := do
  let normalized ← r.again
  let fields := versionedContentFields (.str normalized.referenceContractVersion)
  contentPayloadFor (fields.map fun field => (field, normalized.projection.get field))

/-- `content_payload` of an event. -/
def AttestationRevalidationEvent.contentPayload (e : AttestationRevalidationEvent) : Py Dict := do
  let normalized ← e.again
  pure normalized.content

omit [PythonLibrary] [UnicodeLibrary] [ZonedTimeLibrary] in
/-- Of all the fields of a reference the content is what its digest is taken of. -/
theorem contentPayloadFor_projection (r : ReferenceFields) :
    contentPayloadFor r.projection = .ok r.content := by
  by_cases hversion : r.referenceContractVersion = referenceV2ContractVersion
  · simp [contentPayloadFor, versionedContentFields, referenceContentFields, Dict.require,
      ReferenceFields.projection, ReferenceFields.content, ReferenceFields.extension, hversion,
      List.lookup_cons, orRaise, bind, Except.bind, pure, Except.pure]
  · simp [contentPayloadFor, versionedContentFields, referenceContentFields, Dict.require,
      ReferenceFields.projection, ReferenceFields.content, ReferenceFields.extension, hversion,
      List.lookup_cons, orRaise, bind, Except.bind, pure, Except.pure]

/-! ## Records -/

/-- A record that can be constructed. -/
inductive AttestationRecord where
  | artifact (a : PersistedAttestationArtifact)
  | reference (r : AttestationBindingReference)
  | event (e : AttestationRevalidationEvent)

/-- The record is read from the JSON text of its payload. -/
def AttestationRecord.ReadBack : AttestationRecord → Prop
  | .artifact a => ∃ payload decoded, a.toPayload = .ok payload ∧
      loads jsonObject (dumps (.dict payload)) = some decoded ∧
      PersistedAttestationArtifact.fromUntrusted decoded = .ok a
  | .reference r => ∃ payload decoded, r.toPayload = .ok payload ∧
      loads jsonObject (dumps (.dict payload)) = some decoded ∧
      AttestationBindingReference.fromUntrusted decoded = .ok r
  | .event e => ∃ payload decoded, e.toPayload = .ok payload ∧
      loads jsonObject (dumps (.dict payload)) = some decoded ∧
      AttestationRevalidationEvent.fromUntrusted decoded = .ok e

/-- The content is projected, and its digest is the one that the record holds. -/
def AttestationRecord.ContentDigested : AttestationRecord → Prop
  | .artifact a => ∃ content, PersistedAttestationArtifact.contentPayload a = .ok content ∧
      canonicalDigest content = .ok a.artifactDigest
  | .reference r => ∃ content, AttestationBindingReference.contentPayload r = .ok content ∧
      canonicalDigest (.dict content) = .ok r.bindingReferenceDigest
  | .event e => ∃ content, AttestationRevalidationEvent.contentPayload e = .ok content ∧
      canonicalDigest (.dict content) = .ok e.eventPayloadDigest

/-- The row that a store inserts is decoded to the record. -/
def AttestationRecord.RowRead : AttestationRecord → Prop
  | .artifact a => ∃ payload, a.toPayload = .ok payload ∧
      readArtifactRow (artifactRow a.toArtifactFields payload) = .ok a
  | .reference r => ∃ payload, r.toPayload = .ok payload ∧
      readReferenceRow (referenceRow payload) = .ok r
  | .event e => ∃ payload, e.toPayload = .ok payload ∧ ∀ sequence,
      readEventRow (eventRow payload sequence) = .ok (.int sequence, e)

/-- What is asked of a record. -/
structure AttestationRecord.Survives (x : AttestationRecord) : Prop where
  readBack : x.ReadBack
  content : x.ContentDigested
  rowRead : x.RowRead

variable [TimestampLibrary] [LawfulTextLibrary] [LawfulZonedTimeLibrary] [LawfulInfixLibrary]

/-- The projection of a reference has no contract version to build the content from. -/
theorem reference_contentPayload (r : AttestationBindingReference) :
    AttestationBindingReference.contentPayload r = .error .keyError := by
  have hmissing : ∀ fields : List String, "reference_contract_version" ∉ fields →
      Dict.require (fields.map fun field => (field, r.projection.get field))
        "reference_contract_version" = .error .keyError := by
    intro fields hfields
    have hlookup : (fields.map fun field => (field, r.projection.get field)).lookup
        "reference_contract_version" = none := by
      rw [List.lookup_eq_none_iff]
      simp only [List.forall_mem_map, bne_iff_ne]
      intro field hfield heq
      exact hfields (heq ▸ hfield)
    rw [Dict.require, hlookup]
    rfl
  have hfields : ∀ version, "reference_contract_version" ∉ versionedContentFields version := by
    intro version
    unfold versionedContentFields
    split_ifs <;> decide
  simp only [AttestationBindingReference.contentPayload, r.again_eq, contentPayloadFor,
    hmissing _ (hfields _), bind, Except.bind]

variable [LawfulDigestLibrary]

theorem AttestationRecord.readBack (x : AttestationRecord) : x.ReadBack := by
  cases x with
  | artifact a =>
      have hread := loads_dumps jsonObject_keeps (canonicalEntries_plain a.toArtifactFields)
      refine ⟨a.projection, _, a.toPayload_eq, ?_, artifact_fromUntrusted (sortEntries_perm _)⟩
      rw [dumps_artifact, artifactText]
      exact hread
  | reference r =>
      have hread := loads_dumps jsonObject_keeps r.projection_plain
      refine ⟨r.projection, _, r.toPayload_eq, ?_,
        AttestationBindingReference.fromUntrusted_perm (sortEntries_perm _)⟩
      rw [dumps_reference, referenceText]
      exact hread
  | event e =>
      have hread := loads_dumps jsonObject_keeps e.projection_plain
      refine ⟨e.projection, _, e.toPayload_eq, ?_,
        AttestationRevalidationEvent.fromUntrusted_perm (sortEntries_perm _)⟩
      rw [dumps_event, eventText]
      exact hread

theorem AttestationRecord.rowRead (x : AttestationRecord) : x.RowRead := by
  cases x with
  | artifact a => exact ⟨a.projection, a.toPayload_eq, readArtifactRow_eq a⟩
  | reference r => exact ⟨r.projection, r.toPayload_eq, readReferenceRow_eq r⟩
  | event e => exact ⟨e.projection, e.toPayload_eq, readEventRow_eq e⟩

theorem artifact_contentDigested (a : PersistedAttestationArtifact) :
    (AttestationRecord.artifact a).ContentDigested := by
  refine ⟨_, ?_, a.sound.content⟩
  simp only [PersistedAttestationArtifact.contentPayload, a.again_eq, bind, Except.bind, pure,
    Except.pure]

omit [LawfulDigestLibrary] in
theorem event_contentDigested (e : AttestationRevalidationEvent) :
    (AttestationRecord.event e).ContentDigested := by
  refine ⟨_, ?_, e.sound.content⟩
  simp only [AttestationRevalidationEvent.contentPayload, e.again_eq, bind, Except.bind, pure,
    Except.pure]

omit [LawfulDigestLibrary] in
theorem reference_not_contentDigested (r : AttestationBindingReference) :
    ¬(AttestationRecord.reference r).ContentDigested := by
  rintro ⟨content, hcontent, -⟩
  rw [reference_contentPayload] at hcontent
  cases hcontent

/-- Every record is read again from its JSON text and from its row; exactly the
artifacts and the events also project the content that their digest is taken of. -/
theorem record_survives_iff (x : AttestationRecord) :
    x.ReadBack ∧ x.RowRead ∧ (x.Survives ↔ ∀ r, x ≠ .reference r) := by
  refine ⟨x.readBack, x.rowRead, ?_⟩
  constructor
  · rintro hsurvives r rfl
    exact reference_not_contentDigested r hsurvives.content
  · intro hother
    cases x with
    | artifact a => exact ⟨AttestationRecord.readBack _, artifact_contentDigested a,
        AttestationRecord.rowRead _⟩
    | reference r => exact absurd rfl (hother r)
    | event e => exact ⟨AttestationRecord.readBack _, event_contentDigested e,
        AttestationRecord.rowRead _⟩

end

/-- The content of the reference to an ordinary artifact is not projected. -/
theorem reference_content_missing :
    ∃ (_ : PythonLibrary) (_ : UnicodeLibrary) (_ : ZonedTimeLibrary)
      (r : AttestationBindingReference),
      AttestationBindingReference.contentPayload r = .error .keyError ∧
        ¬(AttestationRecord.reference r).Survives := by
  have hlawful := IssuanceHistories.referenceLibrary_lawful
  have htimes := AttestationReference.referenceTimes_lawful
  have hdigests := AttestationReference.referenceLibrary_digests
  have hinfix := AttestationReference.referenceLibrary_infix
  let _ := ReferenceLibrary.referenceLibrary
  let _ := IssuanceHistories.referenceUnicode
  let _ := IssuanceHistories.referenceTimestamps
  let _ := AttestationReference.referenceTimes
  obtain ⟨a, -⟩ := AttestationReference.exists_artifact_of_revision (le_refl 1)
  obtain ⟨r, -, -⟩ := exists_reference a
    (hexPattern_append (by decide : hexPattern "" AttestationReference.zeros = true))
  exact ⟨_, _, _, r, reference_contentPayload r,
    fun hsurvives => reference_not_contentDigested r hsurvives.content⟩

/-- An ordinary artifact survives. -/
theorem artifact_survives :
    ∃ (_ : PythonLibrary) (_ : UnicodeLibrary) (_ : ZonedTimeLibrary)
      (a : PersistedAttestationArtifact), (AttestationRecord.artifact a).Survives := by
  have hlawful := IssuanceHistories.referenceLibrary_lawful
  have htimes := AttestationReference.referenceTimes_lawful
  have hdigests := AttestationReference.referenceLibrary_digests
  have hinfix := AttestationReference.referenceLibrary_infix
  let _ := ReferenceLibrary.referenceLibrary
  let _ := IssuanceHistories.referenceUnicode
  let _ := IssuanceHistories.referenceTimestamps
  let _ := AttestationReference.referenceTimes
  obtain ⟨a, -⟩ := AttestationReference.exists_artifact_of_revision (le_refl 1)
  refine ⟨_, _, _, a, (record_survives_iff (.artifact a)).2.2.mpr fun r heq => ?_⟩
  cases heq

end DeliverySystem.AttestationRoundTrips

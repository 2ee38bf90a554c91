import DeliverySystem.AttestationClaims

/-!
# Persisted attestation artifacts

The historical record of one verified envelope. Its constructor normalizes the
claims once more, by rules of its own, and derives the identity of the artifact
and the digest of its content. Claims that were made keep their form under these
rules, so an artifact holds the claims of its envelope.
-/
namespace DeliverySystem.AttestationArtifacts
open PythonValues CanonicalValues JsonText AuthorityBindings AttestationClaims
set_option autoImplicit false

def typeInvalid : Raised := .valueError "attestation_persistence_type_invalid"

def payloadInvalid : Raised := .valueError "attestation_persistence_payload_invalid"

def keysetInvalid : Raised := .valueError "attestation_persistence_keyset_invalid"

/-- `try: ... except Exception: _error(code)`. -/
def guarded {α : Type} (x : Py α) (e : Raised) : Py α :=
  match x with
  | .ok a => .ok a
  | .error _ => .error e

@[simp] theorem guarded_eq_ok {α : Type} {x : Py α} {e : Raised} {a : α} :
    guarded x e = .ok a ↔ x = .ok a := by
  cases x <;> simp [guarded]

/-- `raise` of this exception unless the condition holds. -/
def require (condition : Prop) [Decidable condition] (e : Raised) : Py Unit :=
  if condition then .ok () else .error e

@[simp] theorem require_eq_ok {condition : Prop} [Decidable condition] {e : Raised} {u : Unit} :
    require condition e = .ok u ↔ condition := by
  unfold require
  split_ifs with h <;> simp [h]

section
variable [PythonLibrary] [UnicodeLibrary] [ZonedTimeLibrary]

/-! ## Fields -/

/-- `_text` -/
def persistedText (value : Value) : Py String := do
  let value ← orRaise value.nonEmptyText? typeInvalid
  let normalized := canonicalText value
  require (normalized ≠ "" ∧ ¬normalized.toList.any isControl) payloadInvalid
  pure normalized

/-- `_integer` -/
def persistedInteger (value : Value) : Py Int := orRaise (Value.positive? value) typeInvalid

/-- `_digest_value`, `_prefixed_id`, and `_canonical_proof`: a text that matches
as it is. -/
def exactText (value : Value) (pattern : String → Bool) : Py String := do
  let value ← orRaise value.text? payloadInvalid
  require (pattern value = true) payloadInvalid
  pure value

abbrev digestValue (value : Value) : Py String := exactText value (hexPattern "sha256:")

/-- `_timestamp`, with the instant the text denotes. -/
def persistedTimestamp (value : Value) : Py (String × Instant) := do
  let value ← orRaise value.text? typeInvalid
  let parsed ← orRaise (ZonedTimeLibrary.parse value) payloadInvalid
  pure (ZonedTimeLibrary.isoformatMicroseconds parsed.instant, parsed.instant)

/-- `_sha_id` -/
def shaId (domain : String) (payload : Dict) (tag : String) : Py String := do
  let material ← CanonicalValues.normalize (.dict [("domain", .str domain), ("payload", .dict payload)])
  pure (tag ++ PythonLibrary.hexdigest material)

/-! ## Claims, normalized again -/

/-- The fields whose names end in `_digest`, and `remote_authority`. -/
def digestFields : List String :=
  ["remote_authority", "operation_set_digest", "remote_snapshot_digest", "evidence_digest",
    "source_verification_digest", "challenge_digest"]

/-- One field of `_claims_fields`; the capabilities are there already. -/
def claimsField (granted : List String) (raw : Dict) (field : String) : Py Value :=
  if field = "granted_capabilities" then .ok (.tuple (granted.map .str))
  else if field = "revision" then .int <$> persistedInteger (raw.get field)
  else if field ∈ digestFields then .str <$> digestValue (raw.get field)
  else if field = "issued_at" ∨ field = "expires_at" then
    (fun written => .str written.1) <$> persistedTimestamp (raw.get field)
  else .str <$> persistedText (raw.get field)

/-- `_claims_fields`, after the carrier gave its fields and the capabilities. -/
def claimsFields (raw : Dict) (fields : List String) (items : List Value) :
    Py CredentialCapabilityAttestationClaims := do
  require (items ≠ [] ∧ ∀ item ∈ items, item.text?.isSome) payloadInvalid
  let granted ← items.mapM persistedText
  require granted.Nodup payloadInvalid
  let entries ← fields.mapM fun field => do
    let value ← claimsField (granted.insertionSort (· ≤ ·)) raw field
    pure (field, value)
  require (Dict.get entries "attestation_version" ∈ [Value.str "1", .str "2"] ∧
    Dict.get entries "signature_algorithm" = .str "ed25519") payloadInvalid
  guarded (CredentialCapabilityAttestationClaims.make entries) payloadInvalid

/-- Claims come as an object, or as the mapping of their payload. -/
inductive ClaimsCarrier where
  | object (claims : CredentialCapabilityAttestationClaims)
  | payload (value : Value)

/-- `_claims_object` -/
def claimsObject : ClaimsCarrier → Py CredentialCapabilityAttestationClaims
  | .object claims =>
      claimsFields claims.raw
        (if claims.attestationVersion = "2" then claimsFieldsV2 else claimsFieldsV1)
        (claims.grantedCapabilities.map .str)
  | .payload value => do
      let outer ← orRaise value.mapping? typeInvalid
      require (Dict.hasExactly outer ["domain", "claims"] = true) keysetInvalid
      let domain ← orRaise (outer.get "domain").text? typeInvalid
      require (domain = attestationDomain ∨ domain = attestationV2Domain) payloadInvalid
      let fields := if domain = attestationV2Domain then claimsFieldsV2 else claimsFieldsV1
      let nested ← orRaise (outer.get "claims").mapping? keysetInvalid
      require (Dict.hasExactly nested fields = true) keysetInvalid
      let items ← orRaise (nested.get "granted_capabilities").list? typeInvalid
      claimsFields nested fields items

/-! ## The artifact -/

def artifactContractVersion : String := "offline-attestation-artifact-v1"

def artifactIdDomain : String := "delivery-system:attestation-artifact-identity:v1"

def artifactContentDomain : String := "delivery-system:attestation-artifact-content:v1"

structure ArtifactArguments where
  artifactContractVersion : Value
  artifactId : Value
  workspaceIdentity : Value
  attestationId : Value
  claimsPayload : ClaimsCarrier
  detachedProof : Value
  claimsDigest : Value
  artifactDigest : Value
  originalVerifiedAt : Value
  createdAt : Value

structure ArtifactFields where
  artifactId : String
  workspaceIdentity : String
  attestationId : String
  claimsPayload : CredentialCapabilityAttestationClaims
  detachedProof : String
  claimsDigest : String
  artifactDigest : String
  originalVerifiedAt : String
  createdAt : String
deriving DecidableEq

/-- `_content_payload_for` -/
def artifactContent (workspace : String) (claims : CredentialCapabilityAttestationClaims)
    (proof claimsDigest original created : String) : Value :=
  .dict [("domain", .str artifactContentDomain),
    ("artifact_contract_version", .str artifactContractVersion),
    ("workspace_identity", .str workspace), ("attestation_id", .str claims.attestationId),
    ("claims_payload", claims.toPayload), ("detached_proof", .str proof),
    ("claims_digest", .str claimsDigest), ("original_verified_at", .str original),
    ("created_at", .str created)]

/-- `artifact_id_for`, of texts that are normalized already. -/
def artifactIdFor (workspace attestationId : String) : Py String :=
  shaId artifactIdDomain [("identity_version", .str "1"), ("workspace_identity", .str workspace),
    ("attestation_id", .str attestationId)] "artifact-"

/-- `PersistedAttestationArtifact.__post_init__` -/
def ArtifactArguments.postInit (a : ArtifactArguments) : Py ArtifactFields := do
  require (a.artifactContractVersion = .str AttestationArtifacts.artifactContractVersion)
    payloadInvalid
  let workspace ← persistedText a.workspaceIdentity
  let claims ← claimsObject a.claimsPayload
  let proof ← exactText a.detachedProof proofPattern
  let attestationId ← persistedText a.attestationId
  require (attestationId = claims.attestationId) payloadInvalid
  let claimsDigest ← digestValue a.claimsDigest
  let derived ← claims.claimsDigest
  require (claimsDigest = derived) payloadInvalid
  let original ← persistedTimestamp a.originalVerifiedAt
  let created ← persistedTimestamp a.createdAt
  let issued ← persistedTimestamp (.str claims.issuedAt)
  let expires ← persistedTimestamp (.str claims.expiresAt)
  require (issued.2 ≤ original.2 ∧ original.2 < expires.2 ∧ original.2 ≤ created.2)
    payloadInvalid
  let expectedDigest ← canonicalDigest
    (artifactContent workspace claims proof claimsDigest original.1 created.1)
  let artifactDigest ← digestValue a.artifactDigest
  let artifactId ← exactText a.artifactId (hexPattern "artifact-")
  require (artifactDigest = expectedDigest) payloadInvalid
  let expectedId ← artifactIdFor workspace attestationId
  require (artifactId = expectedId) payloadInvalid
  pure
    { artifactId := artifactId
      workspaceIdentity := workspace
      attestationId := attestationId
      claimsPayload := claims
      detachedProof := proof
      claimsDigest := claimsDigest
      artifactDigest := artifactDigest
      originalVerifiedAt := original.1
      createdAt := created.1 }

/-- An artifact that the constructor made. -/
structure PersistedAttestationArtifact extends ArtifactFields where
  made : ∃ arguments : ArtifactArguments, arguments.postInit = .ok toArtifactFields

instance : DecidableEq PersistedAttestationArtifact := fun a b =>
  decidable_of_iff (a.toArtifactFields = b.toArtifactFields)
    ⟨fun h => by cases a; cases b; cases h; rfl, fun h => h ▸ rfl⟩

def PersistedAttestationArtifact.make (a : ArtifactArguments) : Py PersistedAttestationArtifact :=
  match h : a.postInit with
  | .ok fields => .ok ⟨fields, a, h⟩
  | .error e => .error e

/-- `PersistedAttestationArtifact.create` -/
def PersistedAttestationArtifact.create (workspaceIdentity : Value) (claimsPayload : ClaimsCarrier)
    (detachedProof originalVerifiedAt createdAt : Value) : Py PersistedAttestationArtifact := do
  let workspace ← persistedText workspaceIdentity
  let claims ← claimsObject claimsPayload
  let proof ← exactText detachedProof proofPattern
  let original ← persistedTimestamp originalVerifiedAt
  let created ← persistedTimestamp createdAt
  let claimsDigest ← claims.claimsDigest
  let artifactId ← artifactIdFor workspace claims.attestationId
  let artifactDigest ← canonicalDigest
    (artifactContent workspace claims proof claimsDigest original.1 created.1)
  PersistedAttestationArtifact.make
    { artifactContractVersion := .str artifactContractVersion
      artifactId := .str artifactId
      workspaceIdentity := .str workspace
      attestationId := .str claims.attestationId
      claimsPayload := .object claims
      detachedProof := .str proof
      claimsDigest := .str claimsDigest
      artifactDigest := .str artifactDigest
      originalVerifiedAt := .str original.1
      createdAt := .str created.1 }

/-- The arguments that hold the fields of an artifact, with its claims so carried. -/
def ArtifactFields.arguments (a : ArtifactFields) (claims : ClaimsCarrier) :
    ArtifactArguments where
  artifactContractVersion := .str artifactContractVersion
  artifactId := .str a.artifactId
  workspaceIdentity := .str a.workspaceIdentity
  attestationId := .str a.attestationId
  claimsPayload := claims
  detachedProof := .str a.detachedProof
  claimsDigest := .str a.claimsDigest
  artifactDigest := .str a.artifactDigest
  originalVerifiedAt := .str a.originalVerifiedAt
  createdAt := .str a.createdAt

def artifactFieldNames : List String :=
  ["artifact_contract_version", "artifact_id", "workspace_identity", "attestation_id",
    "claims_payload", "detached_proof", "claims_digest", "artifact_digest",
    "original_verified_at", "created_at"]

/-- `from_untrusted` of an artifact object. -/
def PersistedAttestationArtifact.again (a : PersistedAttestationArtifact) :
    Py PersistedAttestationArtifact :=
  PersistedAttestationArtifact.make (a.arguments (.object a.claimsPayload))

/-- `from_untrusted` of decoded data. -/
def PersistedAttestationArtifact.fromUntrusted (value : Value) :
    Py PersistedAttestationArtifact := do
  let raw ← orRaise value.mapping? typeInvalid
  require (Dict.hasExactly raw artifactFieldNames = true) keysetInvalid
  PersistedAttestationArtifact.make
    { artifactContractVersion := raw.get "artifact_contract_version"
      artifactId := raw.get "artifact_id"
      workspaceIdentity := raw.get "workspace_identity"
      attestationId := raw.get "attestation_id"
      claimsPayload := .payload (raw.get "claims_payload")
      detachedProof := raw.get "detached_proof"
      claimsDigest := raw.get "claims_digest"
      artifactDigest := raw.get "artifact_digest"
      originalVerifiedAt := raw.get "original_verified_at"
      createdAt := raw.get "created_at" }

/-- `_artifact_projection`, of an artifact that was made again. -/
def ArtifactFields.projection (a : ArtifactFields) : Dict :=
  [("artifact_contract_version", .str artifactContractVersion), ("artifact_id", .str a.artifactId),
    ("workspace_identity", .str a.workspaceIdentity), ("attestation_id", .str a.attestationId),
    ("claims_payload", a.claimsPayload.toPayload), ("detached_proof", .str a.detachedProof),
    ("claims_digest", .str a.claimsDigest), ("artifact_digest", .str a.artifactDigest),
    ("original_verified_at", .str a.originalVerifiedAt), ("created_at", .str a.createdAt)]

/-- `to_payload` -/
def PersistedAttestationArtifact.toPayload (a : PersistedAttestationArtifact) : Py Dict := do
  let normalized ← a.again
  pure normalized.projection

end

/-! ## Canonical text is settled -/

/-- A part of an NFC text is in NFC, and stripping leaves a part of a text. -/
class LawfulInfixLibrary [PythonLibrary] [UnicodeLibrary] : Prop where
  nfc_infix {s x : String} (hx : UnicodeLibrary.nfc x = x) (h : s.toList <:+: x.toList) :
    UnicodeLibrary.nfc s = s
  nfc_nfc (s : String) : UnicodeLibrary.nfc (UnicodeLibrary.nfc s) = UnicodeLibrary.nfc s
  strip_infix (s : String) : (PythonLibrary.strip s).toList <:+: s.toList
  rstrip_infix (s : String) : (UnicodeLibrary.rstrip s).toList <:+: s.toList

theorem infix_intercalate {α : Type} {sep part : List α} {parts : List (List α)}
    (h : part ∈ parts) : part <:+: sep.intercalate parts := by
  induction parts with
  | nil => cases h
  | cons first rest ih =>
      cases rest with
      | nil =>
          obtain rfl := List.mem_singleton.mp h
          simp
      | cons second rest =>
          rw [List.intercalate_cons_cons]
          rcases List.mem_cons.mp h with rfl | h
          · exact (List.prefix_append part _).isInfix.trans
              ⟨[], [], by rw [List.nil_append, List.append_nil, List.append_assoc]⟩
          · exact (ih h).trans (List.suffix_append _ _).isInfix

/-- What has no separator in it lies within one part. -/
theorem exists_infix_of_infix_intercalate {α : Type} {a : α} {s : List α}
    {parts : List (List α)} (ha : a ∉ s) (hs : s ≠ [])
    (h : s <:+: [a].intercalate parts) : ∃ part ∈ parts, s <:+: part := by
  induction parts with
  | nil => exact absurd (List.infix_nil.mp h) hs
  | cons first rest ih =>
      cases rest with
      | nil => exact ⟨first, List.mem_cons_self, by simpa using h⟩
      | cons second rest =>
          rw [List.intercalate_cons_cons, List.append_assoc, List.singleton_append,
            List.infix_append_iff] at h
          have hopen : ∀ l, l <+: a :: [a].intercalate (second :: rest) → a ∉ l → l = [] := by
            intro l hl hnot
            rcases List.prefix_cons_iff.mp hl with hnil | ⟨t, rfl, -⟩
            · exact hnil
            · exact absurd List.mem_cons_self hnot
          rcases h with hfirst | hrest | ⟨before, after, rfl, hbefore, hafter⟩
          · exact ⟨first, List.mem_cons_self, hfirst⟩
          · rcases List.infix_cons_iff.mp hrest with hprefix | hinner
            · exact absurd (hopen s hprefix ha) hs
            · obtain ⟨part, hpart, hpartOf⟩ := ih hinner
              exact ⟨part, List.mem_cons_of_mem _ hpart, hpartOf⟩
          · obtain rfl := hopen after hafter fun hmem => ha (List.mem_append_right _ hmem)
            rw [List.append_nil]
            exact ⟨first, List.mem_cons_self, hbefore.isInfix⟩

section
variable [PythonLibrary] [UnicodeLibrary] [TimestampLibrary] [LawfulTextLibrary]
  [LawfulInfixLibrary]

/-- A printable canonical text is one line, and canonical. -/
theorem canonicalText_settled {value : String} (hne : canonicalText value ≠ "")
    (hprintable : (canonicalText value).toList.any isControl = false) :
    Settled (canonicalText value) := by
  have hnfc : UnicodeLibrary.nfc (canonicalText value) = canonicalText value := by
    have hbreak : '\n' ∉ (canonicalText value).toList := by
      intro hmem
      exact List.any_eq_false.mp hprintable _ hmem (by decide)
    have hchars : (canonicalText value).toList ≠ [] := by
      rwa [ne_eq, String.toList_eq_nil_iff]
    unfold canonicalText at hbreak hchars ⊢
    refine LawfulInfixLibrary.nfc_infix (LawfulInfixLibrary.nfc_nfc
      (String.ofList (unifyBreaks value.toList))) ?_
    have hstrip := LawfulInfixLibrary.strip_infix (String.ofList (['\n'].intercalate
      (((UnicodeLibrary.nfc (String.ofList (unifyBreaks value.toList))).toList.splitOn '\n').map
        fun line => (UnicodeLibrary.rstrip (String.ofList line)).toList)))
    rw [String.toList_ofList] at hstrip
    obtain ⟨part, hpart, hinfix⟩ := exists_infix_of_infix_intercalate hbreak hchars hstrip
    obtain ⟨line, hline, rfl⟩ := List.mem_map.mp hpart
    have hrstrip := LawfulInfixLibrary.rstrip_infix (String.ofList line)
    rw [String.toList_ofList] at hrstrip
    have hwhole : line <:+: ['\n'].intercalate
        ((UnicodeLibrary.nfc (String.ofList (unifyBreaks value.toList))).toList.splitOn '\n') :=
      infix_intercalate hline
    rw [List.intercalate_splitOn] at hwhole
    exact hinfix.trans (hrstrip.trans hwhole)
  exact ⟨hnfc, LawfulTextLibrary.strip_strip _, LawfulTextLibrary.rstrip_strip _, hne, hprintable⟩

end

/-! ## Fields that were normalized stay -/

section
variable [PythonLibrary] [UnicodeLibrary] [TimestampLibrary] [LawfulTextLibrary]

omit [TimestampLibrary] [LawfulTextLibrary] in
theorem Settled.persistedText {s : String} (h : Settled s) : persistedText (.str s) = .ok s := by
  simp only [AttestationArtifacts.persistedText, bind_eq_ok, orRaise_eq_ok, require_eq_ok,
    pure_eq_ok, Value.nonEmptyText?_eq_some]
  refine ⟨s, ⟨rfl, h.nonEmpty⟩, (), ?_, h.canonicalText⟩
  rw [h.canonicalText]
  exact ⟨h.nonEmpty, by rw [h.printable]; decide⟩

omit [TimestampLibrary] [LawfulTextLibrary] in
theorem mapM_persistedText {items : List String} (h : ∀ item ∈ items, Settled item) :
    (items.map Value.str).mapM persistedText = .ok items := by
  rw [mapM_eq_ok, List.forall₂_map_left_iff]
  exact List.forall₂_same.mpr fun item hitem => Settled.persistedText (h item hitem)

theorem persistedText_settled [LawfulInfixLibrary] {value : Value} {s : String}
    (h : persistedText value = .ok s) : Settled s := by
  simp only [persistedText, bind_eq_ok, orRaise_eq_ok, require_eq_ok, pure_eq_ok] at h
  obtain ⟨raw, -, _, ⟨hne, hprintable⟩, rfl⟩ := h
  exact canonicalText_settled hne (by simpa using hprintable)

omit [PythonLibrary] [UnicodeLibrary] [TimestampLibrary] [LawfulTextLibrary] in
theorem exactText_eq_ok {value : Value} {pattern : String → Bool} {s : String} :
    exactText value pattern = .ok s ↔ value = .str s ∧ pattern s = true := by
  simp only [exactText, bind_eq_ok, orRaise_eq_ok, require_eq_ok, pure_eq_ok,
    Value.text?_eq_some]
  constructor
  · rintro ⟨_, rfl, _, hpattern, rfl⟩
    exact ⟨rfl, hpattern⟩
  · rintro ⟨rfl, hpattern⟩
    exact ⟨s, rfl, (), hpattern, rfl⟩

variable [ZonedTimeLibrary] [LawfulZonedTimeLibrary]

/-- A text that `_timestamp` writes for an instant. -/
structure StoredTime (s : String) (t : Instant) : Prop where
  settled : Settled s
  written : s = ZonedTimeLibrary.isoformatMicroseconds t
  parse : ZonedTimeLibrary.parse s = some ⟨t, 0⟩

theorem persistedTimestamp_stored {value : Value} {s : String} {t : Instant}
    (h : persistedTimestamp value = .ok (s, t)) : StoredTime s t := by
  simp only [persistedTimestamp, bind_eq_ok, orRaise_eq_ok, pure_eq_ok, Prod.mk.injEq] at h
  obtain ⟨raw, -, parsed, hparsed, rfl, rfl⟩ := h
  obtain ⟨hgraphic, hne, hagain⟩ := LawfulZonedTimeLibrary.isoformatMicroseconds hparsed
  exact ⟨hgraphic.settled hne, rfl, hagain⟩

omit [TimestampLibrary] [LawfulTextLibrary] [LawfulZonedTimeLibrary] in
theorem StoredTime.persistedTimestamp {s : String} {t : Instant} (h : StoredTime s t) :
    persistedTimestamp (.str s) = .ok (s, t) := by
  simp only [AttestationArtifacts.persistedTimestamp, bind_eq_ok, orRaise_eq_ok, pure_eq_ok,
    Value.text?_eq_some]
  exact ⟨s, rfl, _, h.parse, by rw [← h.written]⟩

/-- A time of the claims, as an artifact writes it. -/
theorem WrittenTime.persistedTimestamp {s : String} {t : Instant} (h : WrittenTime s t) :
    ∃ stored, persistedTimestamp (.str s) = .ok (stored, t) ∧ StoredTime stored t ∧
      utcTimestamp (.str stored) = utcTimestamp (.str s) := by
  obtain ⟨hgraphic, hne, hagain⟩ := LawfulZonedTimeLibrary.isoformatMicroseconds h.parse
  have hstored : StoredTime (ZonedTimeLibrary.isoformatMicroseconds t) t :=
    ⟨hgraphic.settled hne, rfl, hagain⟩
  refine ⟨_, ?_, hstored, ?_⟩
  · simp only [AttestationArtifacts.persistedTimestamp, bind_eq_ok, orRaise_eq_ok, pure_eq_ok,
      Value.text?_eq_some]
    exact ⟨s, rfl, _, h.parse, rfl⟩
  · rw [h.utcTimestamp]
    simp only [AttestationClaims.utcTimestamp, bind_eq_ok, raiseIf_eq_ok, orRaise_eq_ok,
      pure_eq_ok, not_not]
    exact ⟨_, hstored.settled.text _, _, hagain, (), rfl, by rw [← h.written]⟩

/-! ## Claims that were made keep their form -/

/-- Arguments that name every field of the claims as it is. -/
structure Names (raw : Dict) (f : ClaimsFields) : Prop extends ReadsAs raw f where
  issuedAt : raw.get "issued_at" = .str f.issuedAt
  expiresAt : raw.get "expires_at" = .str f.expiresAt

omit [TimestampLibrary] [LawfulTextLibrary] [LawfulZonedTimeLibrary] in
theorem raw_names (f : ClaimsFields) : Names f.raw f where
  toReadsAs := f.raw_reads
  issuedAt := by simp [ClaimsFields.raw, ClaimsFields.baseRaw, Dict.get, List.lookup_cons]
  expiresAt := by simp [ClaimsFields.raw, ClaimsFields.baseRaw, Dict.get, List.lookup_cons]

/-- The fields an artifact asks for. -/
def namedFields (f : ClaimsFields) : List String :=
  if f.attestationVersion = "2" then claimsFieldsV2 else claimsFieldsV1

section
variable {raw : Dict} {granted : List String} {field s : String}

omit [TimestampLibrary] [LawfulTextLibrary] [LawfulZonedTimeLibrary] in
theorem claimsField_text (hname : field ∉ "granted_capabilities" :: "revision" :: "issued_at" ::
      "expires_at" :: digestFields) (hraw : raw.get field = .str s) (hs : Settled s) :
    claimsField granted raw field = .ok (.str s) := by
  simp only [List.mem_cons, not_or] at hname
  obtain ⟨hgranted, hrevision, hissued, hexpires, hdigest⟩ := hname
  rw [claimsField, if_neg hgranted, if_neg hrevision, if_neg hdigest,
    if_neg (not_or.mpr ⟨hissued, hexpires⟩), hraw, Settled.persistedText hs]
  rfl

omit [TimestampLibrary] [LawfulTextLibrary] [LawfulZonedTimeLibrary] in
theorem claimsField_digest (hname : field ∈ digestFields) (hraw : raw.get field = .str s)
    (hs : hexPattern "sha256:" s = true) : claimsField granted raw field = .ok (.str s) := by
  have hgranted : field ≠ "granted_capabilities" := by rintro rfl; revert hname; decide
  have hrevision : field ≠ "revision" := by rintro rfl; revert hname; decide
  rw [claimsField, if_neg hgranted, if_neg hrevision, if_pos hname, hraw, digestValue,
    exactText_eq_ok.mpr ⟨rfl, hs⟩]
  rfl

omit [TimestampLibrary] [LawfulTextLibrary] [LawfulZonedTimeLibrary] in
theorem claimsField_time (hname : field = "issued_at" ∨ field = "expires_at") {stored : String}
    {t : Instant} (hraw : raw.get field = .str s)
    (hs : persistedTimestamp (.str s) = .ok (stored, t)) :
    claimsField granted raw field = .ok (.str stored) := by
  rcases hname with rfl | rfl
  all_goals
    rw [claimsField, if_neg (by decide), if_neg (by decide), if_neg (by decide),
      if_pos (by decide), hraw, hs]
    rfl
end

variable [LawfulDigestLibrary]

omit [LawfulDigestLibrary] in
/-- The fields of sound claims are normalized to themselves, with other times. -/
theorem mapM_claimsField {raw : Dict} {f : ClaimsFields} (hf : f.Sound) (hraw : Names raw f) :
    ∃ issued expires, utcTimestamp (.str issued) = utcTimestamp (.str f.issuedAt) ∧
      utcTimestamp (.str expires) = utcTimestamp (.str f.expiresAt) ∧
      (namedFields f).mapM (fun field => do
        let value ← claimsField f.grantedCapabilities raw field
        pure (field, value)) =
          .ok ({ f with issuedAt := issued, expiresAt := expires } : ClaimsFields).raw := by
  obtain ⟨issuedAt, expiresAt, hissued, hexpires, -⟩ := hf.lasting
  obtain ⟨issued, hissuedStored, -, hissuedSame⟩ := WrittenTime.persistedTimestamp hissued
  obtain ⟨expires, hexpiresStored, -, hexpiresSame⟩ := WrittenTime.persistedTimestamp hexpires
  refine ⟨issued, expires, hissuedSame, hexpiresSame, ?_⟩
  have hpair : ∀ {field : String} {value : Value},
      claimsField f.grantedCapabilities raw field = .ok value →
      (do let value ← claimsField f.grantedCapabilities raw field; pure (field, value)) =
        (.ok (field, value) : Py (String × Value)) := by
    intro field value hvalue
    rw [hvalue]
    rfl
  have hbase : List.Forall₂ (fun field entry =>
      (do let value ← claimsField f.grantedCapabilities raw field; pure (field, value)) =
        (.ok entry : Py (String × Value))) claimsFieldsV1
      ({ f with issuedAt := issued, expiresAt := expires } : ClaimsFields).baseRaw := by
    have hrevision : claimsField f.grantedCapabilities raw "revision" = .ok (.int f.revision) := by
      rw [claimsField, if_neg (by decide), if_pos rfl, hraw.revision, persistedInteger,
        Value.positive?, if_pos hf.revision]
      rfl
    refine .cons (hpair (claimsField_text (by decide) hraw.version hf.version.settled)) ?_
    refine .cons (hpair (claimsField_text (by decide) hraw.attestation
      hf.attestation.settled)) ?_
    refine .cons (hpair (claimsField_text (by decide) hraw.issuer hf.issuer.settled)) ?_
    refine .cons (hpair (claimsField_text (by decide) hraw.key hf.key.settled)) ?_
    refine .cons (hpair (claimsField_text (by decide) hraw.algorithm hf.algorithm.settled)) ?_
    refine .cons (hpair (claimsField_text (by decide) hraw.credentialClass
      hf.credentialClass.settled)) ?_
    refine .cons (hpair (claimsField_text (by decide) hraw.credential hf.credential.settled)) ?_
    refine .cons (hpair (claimsField_text (by decide) hraw.subject hf.subject)) ?_
    refine .cons (hpair (claimsField_text (by decide) hraw.repository hf.repository)) ?_
    refine .cons (hpair rfl) ?_
    refine .cons (hpair (claimsField_text (by decide) hraw.driver hf.driver)) ?_
    refine .cons (hpair (claimsField_digest (by decide) hraw.authority hf.authority.pattern)) ?_
    refine .cons (hpair (claimsField_text (by decide) hraw.preview hf.preview.settled)) ?_
    refine .cons (hpair hrevision) ?_
    refine .cons (hpair (claimsField_digest (by decide) hraw.operations
      hf.operations.pattern)) ?_
    refine .cons (hpair (claimsField_digest (by decide) hraw.snapshot hf.snapshot.pattern)) ?_
    refine .cons (hpair (claimsField_digest (by decide) hraw.evidence hf.evidence.pattern)) ?_
    refine .cons (hpair (claimsField_time (.inl rfl) hraw.issuedAt hissuedStored)) ?_
    refine .cons (hpair (claimsField_time (.inr rfl) hraw.expiresAt hexpiresStored)) ?_
    refine .cons (hpair (claimsField_text (by decide) hraw.nonce hf.nonce.settled)) ?_
    exact .cons (hpair (claimsField_digest (by decide) hraw.source hf.source.pattern)) .nil
  rw [mapM_eq_ok]
  unfold namedFields ClaimsFields.raw ClaimsFields.extension
  rcases hf.extension with ⟨hversion, -⟩ | ⟨hversion, hchallenge, hprincipal⟩
  · rw [if_neg (by rw [hversion]; decide), if_neg (by simp only [hversion]; decide),
      List.append_nil]
    exact hbase
  · obtain ⟨hrawChallenge, hrawPrincipal⟩ := hraw.extended hversion
    rw [if_pos hversion, if_pos hversion]
    refine List.rel_append hbase (.cons (hpair ?_) (.cons (hpair ?_) .nil))
    · exact claimsField_digest (by decide) hrawChallenge hchallenge.pattern
    · exact claimsField_text (by decide) hrawPrincipal hprincipal

omit [TimestampLibrary] [LawfulTextLibrary] [LawfulZonedTimeLibrary] [LawfulDigestLibrary] in
/-- Arguments that only write the times otherwise name the same claims. -/
theorem ReadsAs.retimed {raw : Dict} {f : ClaimsFields} {issued expires : String}
    (h : ReadsAs raw { f with issuedAt := issued, expiresAt := expires })
    (hissued : utcTimestamp (.str issued) = utcTimestamp (.str f.issuedAt))
    (hexpires : utcTimestamp (.str expires) = utcTimestamp (.str f.expiresAt)) :
    ReadsAs raw f :=
  { version := h.version, attestation := h.attestation, issuer := h.issuer, key := h.key
    algorithm := h.algorithm, credentialClass := h.credentialClass, credential := h.credential
    subject := h.subject, repository := h.repository, granted := h.granted, driver := h.driver
    authority := h.authority, preview := h.preview, revision := h.revision
    operations := h.operations, snapshot := h.snapshot, evidence := h.evidence
    issued := h.issued.trans hissued, expires := h.expires.trans hexpires, nonce := h.nonce
    source := h.source, extended := h.extended, bare := h.bare }

/-- Claims with a capability and a supported algorithm are normalized to themselves. -/
theorem claimsFields_names {raw : Dict} {claims : CredentialCapabilityAttestationClaims}
    (hraw : Names raw claims.toClaimsFields) (hgranted : claims.grantedCapabilities ≠ [])
    (halgorithm : claims.signatureAlgorithm = "ed25519") :
    claimsFields raw (namedFields claims.toClaimsFields)
      (claims.grantedCapabilities.map .str) = .ok claims := by
  have hf := claims.sound
  obtain ⟨issued, expires, hissued, hexpires, hentries⟩ := mapM_claimsField hf hraw
  have hreads := ReadsAs.retimed (ClaimsFields.raw_reads _) hissued hexpires
  have hversion : Value.str claims.attestationVersion ∈ [Value.str "1", .str "2"] := by
    rcases hf.extension with ⟨h, -⟩ | ⟨h, -⟩ <;> simp [h]
  simp only [claimsFields, bind_eq_ok, require_eq_ok, guarded_eq_ok]
  refine ⟨(), ⟨by simpa using hgranted, by simp [Value.text?]⟩, _,
    mapM_persistedText hf.granted, (), hf.distinct, _, ?_,
    (), ?_, CredentialCapabilityAttestationClaims.make_again hreads⟩
  · rw [hf.sorted]
    exact hentries
  · rw [hreads.version, hreads.algorithm, halgorithm]
    exact ⟨hversion, rfl⟩

/-- What `_claims_object` returns for claims is these claims. -/
theorem claimsObject_object {claims claims' : CredentialCapabilityAttestationClaims} :
    claimsObject (.object claims) = .ok claims' ↔ claims' = claims ∧
      claims.grantedCapabilities ≠ [] ∧ claims.signatureAlgorithm = "ed25519" := by
  have hraw := raw_names claims.toClaimsFields
  constructor
  · intro h
    have hf := claims.sound
    have hgranted : claims.grantedCapabilities ≠ [] ∧ claims.signatureAlgorithm = "ed25519" := by
      simp only [claimsObject, claimsFields, bind_eq_ok, require_eq_ok] at h
      obtain ⟨_, ⟨hgranted, -⟩, granted, htexts, _, -, entries, hentries, _, ⟨-, halgorithm⟩,
        -⟩ := h
      obtain rfl : granted = claims.grantedCapabilities :=
        Except.ok.inj (htexts.symm.trans (mapM_persistedText hf.granted))
      obtain ⟨issued, expires, -, -, hnamed⟩ := mapM_claimsField hf hraw
      rw [hf.sorted] at hentries
      obtain rfl := Except.ok.inj (hentries.symm.trans hnamed)
      rw [(ClaimsFields.raw_reads _).algorithm] at halgorithm
      exact ⟨by simpa using hgranted, by simpa using halgorithm⟩
    have hsame := claimsFields_names hraw hgranted.1 hgranted.2
    exact ⟨Except.ok.inj (h.symm.trans hsame), hgranted⟩
  · rintro ⟨rfl, hgranted, halgorithm⟩
    exact claimsFields_names hraw hgranted halgorithm

omit [PythonLibrary] [UnicodeLibrary] [TimestampLibrary] [LawfulTextLibrary]
  [ZonedTimeLibrary] [LawfulZonedTimeLibrary] [LawfulDigestLibrary] in
/-- Sorting the members of a mapping with distinct keys keeps what they hold. -/
theorem sortEntries_get {entries : Dict} (h : (Dict.keys entries).Nodup) (key : String) :
    Dict.get (sortEntries entries) key = Dict.get entries key := by
  have hperm := sortEntries_perm entries
  rw [Dict.get, Dict.get, lookup_eq_of_perm hperm ((hperm.map Prod.fst).nodup_iff.mpr h)]

omit [PythonLibrary] [UnicodeLibrary] [TimestampLibrary] [LawfulTextLibrary]
  [ZonedTimeLibrary] [LawfulZonedTimeLibrary] [LawfulDigestLibrary] in
theorem sortEntries_hasExactly {entries : Dict} {fields : List String}
    (h : ∀ key, key ∈ Dict.keys entries ↔ key ∈ fields) :
    Dict.hasExactly (sortEntries entries) fields = true := by
  rw [Dict.hasExactly_iff]
  intro key
  rw [← h key]
  exact ((sortEntries_perm entries).map Prod.fst).mem_iff

omit [TimestampLibrary] [LawfulTextLibrary] [LawfulZonedTimeLibrary] [LawfulDigestLibrary] in
theorem claimsEntries_names (f : ClaimsFields) : Names (sortEntries f.claimsEntries) f := by
  have hget := sortEntries_get f.claimsEntries_keys.1
  by_cases hversion : f.attestationVersion = "2"
  · refine { toReadsAs := ?_, issuedAt := ?_, expiresAt := ?_ }
    · constructor <;> simp only [hget] <;>
        simp [ClaimsFields.claimsEntries, ClaimsFields.identityPayload, ClaimsFields.extension,
          hversion, Dict.get, List.lookup_cons, Value.sequence?, Value.texts]
    all_goals
      rw [hget]
      simp [ClaimsFields.claimsEntries, ClaimsFields.identityPayload, Dict.get, List.lookup_cons]
  · refine { toReadsAs := ?_, issuedAt := ?_, expiresAt := ?_ }
    · constructor <;> simp only [hget] <;>
        simp [ClaimsFields.claimsEntries, ClaimsFields.identityPayload, ClaimsFields.extension,
          hversion, Dict.get, List.lookup_cons, Value.sequence?, Value.texts]
    all_goals
      rw [hget]
      simp [ClaimsFields.claimsEntries, ClaimsFields.identityPayload, Dict.get, List.lookup_cons]

omit [PythonLibrary] [UnicodeLibrary] [TimestampLibrary] [LawfulTextLibrary]
  [ZonedTimeLibrary] [LawfulZonedTimeLibrary] [LawfulDigestLibrary] in
theorem claimsEntries_fields (f : ClaimsFields) (key : String) :
    key ∈ Dict.keys f.claimsEntries ↔ key ∈ namedFields f := by
  have hperm : (Dict.keys f.claimsEntries).Perm (namedFields f) := by
    unfold namedFields ClaimsFields.claimsEntries ClaimsFields.identityPayload
      ClaimsFields.extension
    split_ifs with hversion
    · simp only [Dict.keys, List.map_append, List.map_cons, List.map_nil]
      decide
    · simp only [Dict.keys, List.map_append, List.map_cons, List.map_nil]
      decide
  exact hperm.mem_iff

omit [PythonLibrary] [UnicodeLibrary] [TimestampLibrary] [LawfulTextLibrary]
  [ZonedTimeLibrary] [LawfulZonedTimeLibrary] [LawfulDigestLibrary] in
theorem plain_sorted {entries : Dict} (hkeys : (Dict.keys entries).Nodup)
    (hvalues : ∀ e ∈ entries, Plain e.2) : Plain (.dict (sortEntries entries)) :=
  ⟨sortEntries_sorted hkeys,
    plainEntries_of_forall fun e he => hvalues e ((sortEntries_perm _).mem_iff.mp he)⟩

omit [PythonLibrary] [UnicodeLibrary] [TimestampLibrary] [LawfulTextLibrary]
  [ZonedTimeLibrary] [LawfulZonedTimeLibrary] [LawfulDigestLibrary] in
theorem claimsEntries_plain (f : ClaimsFields) : Plain (.dict (sortEntries f.claimsEntries)) := by
  have hextension : ∀ e ∈ f.extension, Plain e.2 := by
    unfold ClaimsFields.extension
    split_ifs
    · simp only [List.forall_mem_cons, List.not_mem_nil, false_implies, implies_true, and_true]
      exact ⟨trivial, trivial⟩
    · simp
  have hvalues : ∀ e ∈ f.claimsEntries, Plain e.2 := by
    simp only [ClaimsFields.claimsEntries, ClaimsFields.identityPayload, List.forall_mem_append,
      List.forall_mem_cons, List.not_mem_nil, false_implies, implies_true, and_true]
    exact ⟨⟨⟨trivial, trivial, trivial, trivial, trivial, trivial, trivial, trivial,
      plain_texts _, trivial, trivial, trivial, trivial, trivial, trivial, trivial, trivial,
      trivial, trivial, trivial⟩, hextension⟩, trivial⟩
  exact plain_sorted f.claimsEntries_keys.1 hvalues

omit [PythonLibrary] [UnicodeLibrary] [TimestampLibrary] [LawfulTextLibrary]
  [ZonedTimeLibrary] [LawfulZonedTimeLibrary] [LawfulDigestLibrary] in
theorem canonicalPayload_eq (f : ClaimsFields) : f.canonicalPayload =
    [("claims", .dict (sortEntries f.claimsEntries)), ("domain", .str f.domain)] := by
  have hsorted : ([("claims", .dict (sortEntries f.claimsEntries)),
      ("domain", .str f.domain)] : Dict).Pairwise fun a b => a.1 ≤ b.1 := by
    simp only [List.pairwise_cons, List.mem_singleton, forall_eq, List.not_mem_nil,
      false_implies, implies_true, List.Pairwise.nil, and_true]
    decide
  rw [ClaimsFields.canonicalPayload, ← hsorted.insertionSort_eq, sortEntries]
  exact sortEntries_eq_of_perm (List.Perm.swap ..) (by simp)

omit [PythonLibrary] [UnicodeLibrary] [TimestampLibrary] [LawfulTextLibrary]
  [ZonedTimeLibrary] [LawfulZonedTimeLibrary] [LawfulDigestLibrary] in
theorem canonicalPayload_plain (f : ClaimsFields) : Plain (.dict f.canonicalPayload) := by
  rw [canonicalPayload_eq]
  simp only [Plain, PlainEntries, List.map_cons, List.map_nil, and_true]
  exact ⟨by simpa using (by decide : "claims" < "domain"), claimsEntries_plain f⟩

/-- Claims are read from their canonical payload. -/
theorem claimsObject_payload {claims : CredentialCapabilityAttestationClaims}
    (hgranted : claims.grantedCapabilities ≠ [])
    (halgorithm : claims.signatureAlgorithm = "ed25519") :
    claimsObject (.payload (.dict claims.canonicalPayload)) = .ok claims := by
  have hnodup : (Dict.keys [("domain", Value.str claims.domain),
      ("claims", Value.dict (sortEntries claims.claimsEntries))]).Nodup := by
    simp [Dict.keys]
  have hget := sortEntries_get hnodup
  have hnested := sortEntries_hasExactly (claimsEntries_fields claims.toClaimsFields)
  have hitems : Dict.get (sortEntries claims.claimsEntries) "granted_capabilities" =
      Value.texts claims.grantedCapabilities := by
    rw [sortEntries_get claims.claimsEntries_keys.1]
    simp [ClaimsFields.claimsEntries, ClaimsFields.identityPayload, Dict.get, List.lookup_cons]
  have hdomain : claims.domain = attestationDomain ∨ claims.domain = attestationV2Domain := by
    unfold ClaimsFields.domain
    split_ifs
    · exact .inr rfl
    · exact .inl rfl
  have hfields : (if claims.domain = attestationV2Domain then claimsFieldsV2 else claimsFieldsV1) =
      namedFields claims.toClaimsFields := by
    unfold ClaimsFields.domain namedFields
    by_cases hversion : claims.attestationVersion = "2"
    · rw [if_pos hversion, if_pos hversion, if_pos rfl]
    · rw [if_neg hversion, if_neg hversion, if_neg (by decide)]
  simp only [claimsObject, bind_eq_ok, orRaise_eq_ok, require_eq_ok, Value.text?_eq_some]
  refine ⟨claims.canonicalPayload, rfl, (), sortEntries_hasExactly fun key => Iff.rfl,
    claims.domain, (hget "domain").trans rfl, (), hdomain, sortEntries claims.claimsEntries, ?_,
    (), ?_, claims.grantedCapabilities.map .str, ?_, ?_⟩
  · rw [ClaimsFields.canonicalPayload, hget]
    rfl
  · rw [hfields]
    exact hnested
  · rw [hitems]
    rfl
  · rw [hfields]
    exact claimsFields_names (claimsEntries_names _) hgranted halgorithm

omit [PythonLibrary] [UnicodeLibrary] [TimestampLibrary] [LawfulTextLibrary]
  [ZonedTimeLibrary] [LawfulZonedTimeLibrary] [LawfulDigestLibrary] in
theorem get_of_mapM {read : String → Py Value} {fields : List String} {entries : Dict}
    (h : (fields.mapM fun field => do let value ← read field; pure (field, value)) = .ok entries)
    {field : String} (hmem : field ∈ fields) : read field = .ok (Dict.get entries field) := by
  rw [mapM_eq_ok] at h
  induction h with
  | nil => cases hmem
  | @cons name entry names entries hentry hrest ih =>
      simp only [bind_eq_ok, pure_eq_ok] at hentry
      obtain ⟨value, hvalue, rfl⟩ := hentry
      by_cases hname : field = name
      · rw [hname, hvalue]
        simp [Dict.get]
      · rw [ih ((List.mem_cons.mp hmem).resolve_left hname)]
        simp only [Dict.get, List.lookup_cons, beq_eq_false_iff_ne.mpr hname]

omit [LawfulZonedTimeLibrary] [LawfulDigestLibrary] in
/-- Claims that an artifact accepts have a capability and the supported algorithm. -/
theorem claimsFields_accepts {raw : Dict} {fields : List String} {items : List Value}
    {claims : CredentialCapabilityAttestationClaims}
    (hfield : "granted_capabilities" ∈ fields) (h : claimsFields raw fields items = .ok claims) :
    claims.grantedCapabilities ≠ [] ∧ claims.signatureAlgorithm = "ed25519" := by
  simp only [claimsFields, bind_eq_ok, require_eq_ok, guarded_eq_ok] at h
  obtain ⟨_, ⟨hitems, -⟩, granted, htexts, _, -, entries, hentries, _, ⟨-, halgorithm⟩, hmake⟩ := h
  have hread := get_of_mapM hentries hfield
  rw [claimsField, if_pos rfl] at hread
  have hpostInit := CredentialCapabilityAttestationClaims.make_eq_ok.mp hmake
  simp only [AttestationClaims.postInit, bind_eq_ok, raiseIf_eq_ok, orRaise_eq_ok,
    pure_eq_ok] at hpostInit
  obtain ⟨_, -, _, -, _, -, algorithm, hsafe, _, -, _, -, _, -, _, -, _, -, _, -, _, -, _, -, _, -,
    caps, hcaps, _, -, _, -, _, -, _, -, _, -, _, -, _, -, _, -, _, -, _, -, _, -, hfields⟩ :=
      hpostInit
  have hclaimsAlgorithm := congrArg ClaimsFields.signatureAlgorithm hfields
  have hclaimsGranted := congrArg ClaimsFields.grantedCapabilities hfields
  simp only at hclaimsAlgorithm hclaimsGranted
  rw [← hclaimsAlgorithm, ← hclaimsGranted]
  constructor
  · rintro rfl
    simp only [capabilities, ← Except.ok.inj hread, bind_eq_ok, raiseIf_eq_ok, orRaise_eq_ok,
      pure_eq_ok, Value.sequence?, Option.some.injEq] at hcaps
    obtain ⟨_, rfl, normalized, hnormalized, _, -, _, -, hsorted⟩ := hcaps
    have hlength := (mapM_eq_ok.mp hnormalized).length_eq
    have hcount := (mapM_eq_ok.mp htexts).length_eq
    rw [List.length_map, List.length_insertionSort] at hlength
    have hzero := congrArg List.length hsorted
    rw [List.length_insertionSort, List.length_nil] at hzero
    exact hitems (List.length_eq_zero_iff.mp (hcount.trans (hlength.trans hzero)))
  · have hgraphic := LawfulTextLibrary.graphic (by decide : Graphic "ed25519")
    rw [halgorithm] at hsafe
    simp only [patternText, text, bind_eq_ok, raiseIf_eq_ok, orRaise_eq_ok, pure_eq_ok,
      Value.text?_eq_some, Value.str.injEq] at hsafe
    obtain ⟨_, ⟨_, rfl, _, -, rfl⟩, _, -, rfl⟩ := hsafe
    rw [hgraphic.1, hgraphic.2.1]

omit [LawfulZonedTimeLibrary] [LawfulDigestLibrary] in
theorem claimsObject_accepts {carrier : ClaimsCarrier}
    {claims : CredentialCapabilityAttestationClaims} (h : claimsObject carrier = .ok claims) :
    claims.grantedCapabilities ≠ [] ∧ claims.signatureAlgorithm = "ed25519" := by
  cases carrier with
  | object claims' => exact claimsFields_accepts (by split_ifs <;> decide) h
  | payload value =>
      simp only [claimsObject, bind_eq_ok] at h
      obtain ⟨_, -, _, -, _, -, _, -, _, -, _, -, _, -, h⟩ := h
      exact claimsFields_accepts (by split_ifs <;> decide) h

/-! ## Artifacts that were made are made again -/

variable [LawfulInfixLibrary]

/-- What the constructor of an artifact makes sure of. -/
structure ArtifactFields.Sound (a : ArtifactFields) : Prop where
  workspace : Settled a.workspaceIdentity
  attestation : a.attestationId = a.claimsPayload.attestationId
  granted : a.claimsPayload.grantedCapabilities ≠ []
  algorithm : a.claimsPayload.signatureAlgorithm = "ed25519"
  proof : proofPattern a.detachedProof = true
  claimsDigest : a.claimsPayload.claimsDigest = .ok a.claimsDigest
  claimsDigestForm : hexPattern "sha256:" a.claimsDigest = true
  times : ∃ original created issued expires : Instant, StoredTime a.originalVerifiedAt original ∧
    StoredTime a.createdAt created ∧ WrittenTime a.claimsPayload.issuedAt issued ∧
    WrittenTime a.claimsPayload.expiresAt expires ∧ issued ≤ original ∧ original < expires ∧
    original ≤ created
  content : canonicalDigest (artifactContent a.workspaceIdentity a.claimsPayload a.detachedProof
    a.claimsDigest a.originalVerifiedAt a.createdAt) = .ok a.artifactDigest
  contentForm : hexPattern "sha256:" a.artifactDigest = true
  artifactId : artifactIdFor a.workspaceIdentity a.attestationId = .ok a.artifactId
  artifactIdForm : hexPattern "artifact-" a.artifactId = true

omit [LawfulInfixLibrary] in
/-- The instants of the claims, read as an artifact reads them. -/
theorem claims_instants {claims : CredentialCapabilityAttestationClaims}
    {issued expires : String × Instant}
    (hissued : persistedTimestamp (.str claims.issuedAt) = .ok issued)
    (hexpires : persistedTimestamp (.str claims.expiresAt) = .ok expires) :
    WrittenTime claims.issuedAt issued.2 ∧ WrittenTime claims.expiresAt expires.2 := by
  obtain ⟨issuedAt, expiresAt, hissuedAt, hexpiresAt, -⟩ := claims.sound.lasting
  obtain ⟨_, hissued', -, -⟩ := WrittenTime.persistedTimestamp hissuedAt
  obtain ⟨_, hexpires', -, -⟩ := WrittenTime.persistedTimestamp hexpiresAt
  obtain rfl := Except.ok.inj (hissued.symm.trans hissued')
  obtain rfl := Except.ok.inj (hexpires.symm.trans hexpires')
  exact ⟨hissuedAt, hexpiresAt⟩

theorem ArtifactArguments.postInit_sound {arguments : ArtifactArguments} {a : ArtifactFields}
    (h : arguments.postInit = .ok a) : a.Sound := by
  simp only [ArtifactArguments.postInit, bind_eq_ok, require_eq_ok, pure_eq_ok,
    exactText_eq_ok] at h
  obtain ⟨_, -, workspace, hworkspace, claims, hclaims, proof, ⟨-, hproof⟩, attestationId, -, _,
    hattestation, claimsDigest, ⟨-, hclaimsForm⟩, derived, hderived, _, rfl, ⟨original, originalAt⟩,
    horiginal, ⟨created, createdAt⟩, hcreated, issued, hissued, expires, hexpires, _,
    ⟨hfrom, huntil, hcreation⟩, expectedDigest, hcontent, artifactDigest, ⟨-, hcontentForm⟩,
    artifactId, ⟨-, hidForm⟩, _, rfl, expectedId, hid, _, rfl, rfl⟩ := h
  obtain ⟨hgranted, halgorithm⟩ := claimsObject_accepts hclaims
  obtain ⟨hissuedAt, hexpiresAt⟩ := claims_instants hissued hexpires
  exact
    { workspace := persistedText_settled hworkspace
      attestation := hattestation
      granted := hgranted
      algorithm := halgorithm
      proof := hproof
      claimsDigest := hderived
      claimsDigestForm := hclaimsForm
      times := ⟨originalAt, createdAt, issued.2, expires.2, persistedTimestamp_stored horiginal,
        persistedTimestamp_stored hcreated, hissuedAt, hexpiresAt, hfrom, huntil, hcreation⟩
      content := hcontent
      contentForm := hcontentForm
      artifactId := hid
      artifactIdForm := hidForm }

omit [LawfulInfixLibrary] in
/-- The constructor keeps an artifact, whichever way its claims are carried. -/
theorem ArtifactFields.Sound.postInit {a : ArtifactFields} (h : a.Sound)
    {carrier : ClaimsCarrier} (hclaims : claimsObject carrier = .ok a.claimsPayload) :
    (a.arguments carrier).postInit = .ok a := by
  obtain ⟨original, created, issued, expires, horiginal, hcreated, hissued, hexpires, hfrom,
    huntil, hcreation⟩ := h.times
  obtain ⟨_, hissuedStored, -, -⟩ := WrittenTime.persistedTimestamp hissued
  obtain ⟨_, hexpiresStored, -, -⟩ := WrittenTime.persistedTimestamp hexpires
  have hattestation : Settled a.attestationId := by
    rw [h.attestation]
    exact a.claimsPayload.sound.attestation.settled
  simp only [ArtifactArguments.postInit, ArtifactFields.arguments, bind_eq_ok, require_eq_ok,
    pure_eq_ok, exactText_eq_ok]
  exact ⟨(), trivial, _, Settled.persistedText h.workspace, _, hclaims, _, ⟨rfl, h.proof⟩, _,
    Settled.persistedText hattestation, (), h.attestation, _, ⟨rfl, h.claimsDigestForm⟩, _,
    h.claimsDigest, (), rfl, _, horiginal.persistedTimestamp, _, hcreated.persistedTimestamp, _,
    hissuedStored, _, hexpiresStored, (), ⟨hfrom, huntil, hcreation⟩, _, h.content, _,
    ⟨rfl, h.contentForm⟩, _, ⟨rfl, h.artifactIdForm⟩, (), rfl, _, h.artifactId, (), rfl, rfl⟩

theorem PersistedAttestationArtifact.sound (a : PersistedAttestationArtifact) :
    a.toArtifactFields.Sound := by
  obtain ⟨arguments, h⟩ := a.made
  exact ArtifactArguments.postInit_sound h

omit [TimestampLibrary] [LawfulTextLibrary] [LawfulZonedTimeLibrary] [LawfulDigestLibrary]
  [LawfulInfixLibrary] in
theorem PersistedAttestationArtifact.make_eq_ok {arguments : ArtifactArguments}
    {a : PersistedAttestationArtifact} :
    PersistedAttestationArtifact.make arguments = .ok a ↔
      arguments.postInit = .ok a.toArtifactFields := by
  obtain ⟨fields, hmade⟩ := a
  unfold PersistedAttestationArtifact.make
  split
  · rename_i fields' hfields
    simp [hfields]
  · rename_i e herror
    simp [herror]

/-- An artifact is read as itself. -/
theorem PersistedAttestationArtifact.again_eq (a : PersistedAttestationArtifact) :
    a.again = .ok a :=
  PersistedAttestationArtifact.make_eq_ok.mpr (a.sound.postInit
    (claimsObject_object.mpr ⟨rfl, a.sound.granted, a.sound.algorithm⟩))

theorem PersistedAttestationArtifact.toPayload_eq (a : PersistedAttestationArtifact) :
    a.toPayload = .ok a.projection := by
  simp only [PersistedAttestationArtifact.toPayload, bind_eq_ok, pure_eq_ok]
  exact ⟨a, a.again_eq, rfl⟩

omit [LawfulInfixLibrary] in
/-- What `create` made holds the claims and the proof it was given. -/
theorem PersistedAttestationArtifact.create_holds {workspace original created proof : Value}
    {claims : CredentialCapabilityAttestationClaims} {a : PersistedAttestationArtifact}
    (h : PersistedAttestationArtifact.create workspace (.object claims) proof original created =
      .ok a) : a.claimsPayload = claims ∧ proof = .str a.detachedProof := by
  simp only [PersistedAttestationArtifact.create, bind_eq_ok, exactText_eq_ok] at h
  obtain ⟨_, -, claims', hclaims, proof', ⟨rfl, -⟩, _, -, _, -, _, -, _, -, _, -, hmake⟩ := h
  obtain ⟨rfl, -⟩ := claimsObject_object.mp hclaims
  have hpostInit := PersistedAttestationArtifact.make_eq_ok.mp hmake
  simp only [ArtifactArguments.postInit, bind_eq_ok, require_eq_ok, pure_eq_ok,
    exactText_eq_ok, claimsObject_object] at hpostInit
  obtain ⟨_, -, _, -, _, ⟨rfl, -⟩, _, ⟨hproof, -⟩, _, -, _, -, _, -, _, -, _, -, _, -, _, -, _, -,
    _, -, _, -, _, -, _, -, _, -, _, -, _, -, _, -, hfields⟩ := hpostInit
  have hclaims' := congrArg ArtifactFields.claimsPayload hfields
  have hproof' := congrArg ArtifactFields.detachedProof hfields
  simp only at hclaims' hproof'
  rw [← hclaims', ← hproof', hproof]
  exact ⟨rfl, rfl⟩

omit [ZonedTimeLibrary] [LawfulZonedTimeLibrary] [LawfulDigestLibrary] [LawfulInfixLibrary] in
/-- A mapping with graphic keys whose values are normalized is normalized. -/
theorem normalize_mapping (entries : Dict)
    (hkeys : ∀ key ∈ Dict.keys entries, Graphic key) (hdistinct : (Dict.keys entries).Nodup)
    (hvalues : ∀ e ∈ entries, ∃ v, CanonicalValues.normalize e.2 = .ok v) :
    ∃ material, CanonicalValues.normalize (.dict entries) = .ok material := by
  have hforall : ∀ entries : Dict, (∀ key ∈ Dict.keys entries, Graphic key) →
      (∀ e ∈ entries, ∃ v, CanonicalValues.normalize e.2 = .ok v) → ∃ entries' : Dict,
        List.Forall₂ (fun e e' : String × Value =>
          e'.1 = UnicodeLibrary.nfc e.1 ∧ CanonicalValues.normalize e.2 = .ok e'.2) entries entries' ∧
        Dict.keys entries' = Dict.keys entries := by
    intro entries hkeys hvalues
    induction entries with
    | nil => exact ⟨[], .nil, rfl⟩
    | cons e rest ih =>
        obtain ⟨v, hv⟩ := hvalues e List.mem_cons_self
        obtain ⟨rest', hrest', hsame⟩ := ih
          (fun key hkey => hkeys key (List.mem_cons_of_mem _ hkey))
          (fun e he => hvalues e (List.mem_cons_of_mem _ he))
        have hkey := (LawfulTextLibrary.graphic (hkeys e.1 List.mem_cons_self)).1
        refine ⟨(e.1, v) :: rest', .cons ⟨hkey.symm, hv⟩ hrest', ?_⟩
        simp only [Dict.keys, List.map_cons, List.cons.injEq, true_and]
        exact hsame
  obtain ⟨entries', hentries, hsame⟩ := hforall entries hkeys hvalues
  simp only [CanonicalValues.normalize, bind_eq_ok, normalizeEntries_eq_ok, raiseIf_eq_ok, pure_eq_ok, not_not]
  exact ⟨_, entries', hentries, (), by rw [← Dict.keys, hsame]; exact hdistinct, rfl⟩

omit [ZonedTimeLibrary] [LawfulZonedTimeLibrary] [LawfulInfixLibrary] in
theorem shaId_ok {domain tag : String} {payload : Dict} (hdomain : Settled domain)
    (hkeys : ∀ key ∈ Dict.keys payload, Graphic key) (hdistinct : (Dict.keys payload).Nodup)
    (hvalues : ∀ e ∈ payload, CanonicalValues.normalize e.2 = .ok e.2) :
    ∃ id, shaId domain payload tag = .ok id ∧ hexPattern tag id = true := by
  obtain ⟨material, hmaterial⟩ := normalize_mapping
    [("domain", .str domain), ("payload", .dict payload)]
    (by simp only [Dict.keys, List.map_cons, List.map_nil]; decide)
    (by simp only [Dict.keys, List.map_cons, List.map_nil]; decide)
    (by
      simp only [List.forall_mem_cons, List.not_mem_nil, false_implies, implies_true, and_true]
      exact ⟨⟨_, normalize_text hdomain⟩, _, normalize_entries hkeys hdistinct hvalues⟩)
  simp only [shaId, bind_eq_ok, pure_eq_ok]
  exact ⟨_, ⟨material, hmaterial, rfl⟩, hexPattern_append (LawfulDigestLibrary.hexdigest material)⟩

omit [LawfulInfixLibrary] [LawfulZonedTimeLibrary] in
theorem claimsDigest_ok (claims : CredentialCapabilityAttestationClaims)
    (hsound : claims.toClaimsFields.Sound) :
    ∃ d, claims.claimsDigest = .ok d ∧ hexPattern "sha256:" d = true := by
  have hmaterial := claims.normalize_domain claims.identityPayload_keys
    hsound.toValid.normalize_identity
  simp only [ClaimsFields.claimsDigest, canonicalDigest, bind_eq_ok, pure_eq_ok]
  exact ⟨_, ⟨_, hmaterial, rfl⟩, hexPattern_append (LawfulDigestLibrary.hexdigest _)⟩

omit [LawfulInfixLibrary] [LawfulZonedTimeLibrary] in
/-- The content of an artifact has a digest. -/
theorem artifactContent_ok (claims : CredentialCapabilityAttestationClaims)
    (hsound : claims.toClaimsFields.Sound) (workspace proof claimsDigest original created : String) :
    ∃ d, canonicalDigest (artifactContent workspace claims proof claimsDigest original created) =
      .ok d ∧ hexPattern "sha256:" d = true := by
  obtain ⟨material, hmaterial⟩ : ∃ material, CanonicalValues.normalize
      (artifactContent workspace claims proof claimsDigest original created) = .ok material := by
    refine normalize_mapping _ ?_ ?_ ?_
    · simp only [Dict.keys, List.map_cons, List.map_nil]
      decide
    · simp only [Dict.keys, List.map_cons, List.map_nil]
      decide
    · simp only [List.forall_mem_cons, List.not_mem_nil, false_implies, implies_true, and_true]
      exact ⟨⟨_, rfl⟩, ⟨_, rfl⟩, ⟨_, rfl⟩, ⟨_, rfl⟩, ⟨_, hsound.normalize⟩, ⟨_, rfl⟩, ⟨_, rfl⟩,
        ⟨_, rfl⟩, ⟨_, rfl⟩⟩
  simp only [canonicalDigest, bind_eq_ok, pure_eq_ok]
  exact ⟨_, ⟨material, hmaterial, rfl⟩, hexPattern_append (LawfulDigestLibrary.hexdigest material)⟩

omit [LawfulInfixLibrary] in
/-- An artifact is made of claims that it accepts, verified within their window. -/
theorem PersistedAttestationArtifact.create_ok
    {claims : CredentialCapabilityAttestationClaims} {workspace proof original created : String}
    {issuedAt originalAt createdAt expiresAt : Instant}
    (hgranted : claims.grantedCapabilities ≠ [])
    (halgorithm : claims.signatureAlgorithm = "ed25519") (hworkspace : Settled workspace)
    (hproof : proofPattern proof = true) (hissued : WrittenTime claims.issuedAt issuedAt)
    (hexpires : WrittenTime claims.expiresAt expiresAt)
    (horiginal : ZonedTimeLibrary.parse original = some ⟨originalAt, 0⟩)
    (hcreated : ZonedTimeLibrary.parse created = some ⟨createdAt, 0⟩)
    (hfrom : issuedAt ≤ originalAt) (huntil : originalAt < expiresAt)
    (hcreation : originalAt ≤ createdAt) :
    ∃ a, PersistedAttestationArtifact.create (.str workspace) (.object claims) (.str proof)
      (.str original) (.str created) = .ok a := by
  have hsound := claims.sound
  obtain ⟨claimsDigest, hclaimsDigest, hdigestForm⟩ := claimsDigest_ok claims hsound
  obtain ⟨id, hid, hidForm⟩ : ∃ id, artifactIdFor workspace claims.attestationId = .ok id ∧
      hexPattern "artifact-" id = true := by
    refine shaId_ok ((by decide : Graphic artifactIdDomain).settled (by decide)) ?_ ?_ ?_
    · simp only [Dict.keys, List.map_cons, List.map_nil]
      decide
    · simp only [Dict.keys, List.map_cons, List.map_nil]
      decide
    · simp only [List.forall_mem_cons, List.not_mem_nil, false_implies, implies_true, and_true]
      exact ⟨normalize_text ((by decide : Graphic "1").settled (by decide)),
        normalize_text hworkspace, normalize_text hsound.attestation.settled⟩
  have hread : ∀ {s : String} {t : Instant}, ZonedTimeLibrary.parse s = some ⟨t, 0⟩ →
      ∃ stored, persistedTimestamp (.str s) = .ok (stored, t) ∧ StoredTime stored t := by
    intro s t hparse
    have hwritten : persistedTimestamp (.str s) =
        .ok (ZonedTimeLibrary.isoformatMicroseconds t, t) := by
      simp only [persistedTimestamp, bind_eq_ok, orRaise_eq_ok, pure_eq_ok, Value.text?_eq_some]
      exact ⟨s, rfl, _, hparse, rfl⟩
    exact ⟨_, hwritten, persistedTimestamp_stored hwritten⟩
  obtain ⟨storedOriginal, horiginal', horiginalStored⟩ := hread horiginal
  obtain ⟨storedCreated, hcreated', hcreatedStored⟩ := hread hcreated
  obtain ⟨artifactDigest, hcontent, hcontentForm⟩ := artifactContent_ok claims hsound workspace
    proof claimsDigest storedOriginal storedCreated
  let fields : ArtifactFields :=
    { artifactId := id, workspaceIdentity := workspace, attestationId := claims.attestationId
      claimsPayload := claims, detachedProof := proof, claimsDigest := claimsDigest
      artifactDigest := artifactDigest, originalVerifiedAt := storedOriginal
      createdAt := storedCreated }
  have hfields : fields.Sound :=
    { workspace := hworkspace, attestation := rfl, granted := hgranted, algorithm := halgorithm
      proof := hproof, claimsDigest := hclaimsDigest, claimsDigestForm := hdigestForm
      times := ⟨originalAt, createdAt, issuedAt, expiresAt, horiginalStored, hcreatedStored,
        hissued, hexpires, hfrom, huntil, hcreation⟩
      content := hcontent
      contentForm := hcontentForm
      artifactId := hid, artifactIdForm := hidForm }
  have hobject : claimsObject (.object claims) = .ok claims :=
    claimsObject_object.mpr ⟨rfl, hgranted, halgorithm⟩
  have hmade := hfields.postInit hobject
  refine ⟨⟨fields, _, hmade⟩, ?_⟩
  simp only [PersistedAttestationArtifact.create, bind_eq_ok, exactText_eq_ok]
  exact ⟨_, Settled.persistedText hworkspace, _, hobject, _, ⟨rfl, hproof⟩, _, horiginal', _,
    hcreated', _, hclaimsDigest, _, hid, _, hcontent,
    PersistedAttestationArtifact.make_eq_ok.mpr hmade⟩

end
end DeliverySystem.AttestationArtifacts

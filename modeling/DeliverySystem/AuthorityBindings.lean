import DeliverySystem.CanonicalValues
import DeliverySystem.JsonText

/-!
# Signed authority bindings

The payload that assigns operations to one issuance of an authority, and the
envelope with its detached proof. The constructors bring every field to one
form, so a record is what its constructor made. A record written as canonical
JSON and read back is the same record.
-/
namespace DeliverySystem.AuthorityBindings
open PythonValues CanonicalValues JsonText
set_option autoImplicit false

class TimestampLibrary where
  /-- `datetime.fromisoformat(text.replace("Z", "+00:00"))` brought to UTC, as
  `isoformat` writes it, with the suffix `Z`; `none` where the text is no
  timestamp with an offset. -/
  utcText : String → Option String

/-! ## Patterns -/

def isControl (c : Char) : Bool := c.toNat < 0x20 || c.toNat = 0x7f

def idCharacter (c : Char) : Bool := ('a' ≤ c && c ≤ 'z') || c.isDigit || c = '-'

/-- `^[a-z0-9][a-z0-9-]{0,127}$` -/
def idPattern (s : String) : Bool :=
  match s.toList with
  | [] => false
  | c :: rest => idCharacter c && c ≠ '-' && rest.length ≤ 127 && rest.all idCharacter

/-- The tag and sixty-four lowercase hexadecimal digits. -/
def hexPattern (tag s : String) : Bool :=
  tag.toList.isPrefixOf s.toList && (s.toList.drop tag.toList.length).length = 64 &&
    (s.toList.drop tag.toList.length).all fun c => c.isDigit || ('a' ≤ c && c ≤ 'f')

/-- `[a-z][a-z0-9-]{0,limit}` -/
def wordPattern (limit : Nat) (s : List Char) : Bool :=
  match s with
  | [] => false
  | c :: rest => 'a' ≤ c && c ≤ 'z' && rest.length ≤ limit && rest.all idCharacter

/-- `^[a-z][a-z0-9-]{0,31}:[a-z][a-z0-9-]{0,63}$` -/
def capabilityPattern (s : String) : Bool :=
  wordPattern 31 (s.toList.takeWhile (· ≠ ':')) &&
    match s.toList.dropWhile (· ≠ ':') with
    | [] => false
    | _ :: action => wordPattern 63 action

def base64Character (c : Char) : Bool := c.isAlphanum || c = '-' || c = '_'

/-- Eighty-six characters are sixty-four bytes when the last one has no spare bits. -/
def proofPattern (s : String) : Bool :=
  s.toList.length = 86 && s.toList.all base64Character &&
    (s.toList.getLast?.any fun c => c ∈ ['A', 'Q', 'g', 'w'])

section
variable [PythonLibrary] [UnicodeLibrary] [TimestampLibrary]

/-! ## Fields -/

def invalid (field : String) : Raised := .valueError (field ++ "_invalid")

/-- `_text` -/
def text (value : Value) (field : String) : Py String := do
  let value ← orRaise value.text? (invalid field)
  let normalized := PythonLibrary.strip (UnicodeLibrary.nfc value)
  raiseIf (normalized = "" ∨ normalized.toList.any isControl) (field ++ "_invalid")
  pure normalized

/-- `_id`, `_exact_id`, and `_digest`: a text that matches a pattern. -/
def patternText (value : Value) (field : String) (pattern : String → Bool) : Py String := do
  let normalized ← text value field
  raiseIf (pattern normalized = false) (field ++ "_invalid")
  pure normalized

def timestamp (value : Value) : Py String := do
  let normalized ← text value "authority_issued_at"
  orRaise (TimestampLibrary.utcText normalized) (invalid "authority_issued_at")

/-- `_canonical_collection` -/
def canonicalCollection (value : Value) (field : String) (pattern : String → Bool) :
    Py (List String) := do
  let items ← orRaise value.sequence? (invalid field)
  raiseIf (items = []) (field ++ "_invalid")
  let normalized ← items.mapM (text · field)
  raiseIf (∃ item ∈ normalized, pattern item = false) (field ++ "_invalid")
  raiseIf (¬normalized.Nodup) (field ++ "_duplicate")
  pure (normalized.insertionSort (· ≤ ·))

/-- `_proof` -/
def detachedProof (value : Value) : Py String := do
  let value ← orRaise value.text? (.valueError "authority_binding_proof_invalid")
  raiseIf (proofPattern value = false) "authority_binding_proof_invalid"
  pure value

/-! ## The payload -/

def bindingDomain : String := "delivery-system:authority-binding:v1"

structure BindingArguments where
  domain : Value
  payloadVersion : Value
  workspaceIdentity : Value
  applicationId : Value
  credentialBindingId : Value
  requiredCapabilities : Value
  authorityIssuedAt : Value
  attestationArtifactId : Value
  attestationArtifactDigest : Value
  authorizedOperationIdentities : Value

structure BindingFields where
  domain : String
  payloadVersion : Int
  workspaceIdentity : String
  applicationId : String
  credentialBindingId : String
  requiredCapabilities : List String
  authorityIssuedAt : String
  attestationArtifactId : String
  attestationArtifactDigest : String
  authorizedOperationIdentities : List String
deriving Repr, DecidableEq

/-- `AuthorityBindingRecord.__post_init__` -/
def BindingArguments.postInit (a : BindingArguments) : Py BindingFields := do
  raiseIf (a.domain ≠ .str bindingDomain) "authority_binding_domain_invalid"
  raiseIf (a.payloadVersion ≠ .int 1) "authority_binding_version_unsupported"
  let workspace ← text a.workspaceIdentity "workspace_identity"
  let application ← patternText a.applicationId "application_id" (hexPattern "application-")
  let binding ← patternText a.credentialBindingId "credential_binding_id" (hexPattern "binding-")
  let required ← canonicalCollection a.requiredCapabilities "required_capabilities"
    capabilityPattern
  let issuedAt ← timestamp a.authorityIssuedAt
  let artifact ← patternText a.attestationArtifactId "attestation_artifact_id"
    (hexPattern "artifact-")
  let artifactDigest ← patternText a.attestationArtifactDigest "attestation_artifact_digest"
    (hexPattern "sha256:")
  let operations ← canonicalCollection a.authorizedOperationIdentities
    "authorized_operation_identities" (hexPattern "operation-")
  pure
    { domain := bindingDomain
      payloadVersion := 1
      workspaceIdentity := workspace
      applicationId := application
      credentialBindingId := binding
      requiredCapabilities := required
      authorityIssuedAt := issuedAt
      attestationArtifactId := artifact
      attestationArtifactDigest := artifactDigest
      authorizedOperationIdentities := operations }

/-- A payload that the constructor made. -/
structure AuthorityBindingRecord extends BindingFields where
  made : ∃ arguments : BindingArguments, arguments.postInit = .ok toBindingFields

instance : DecidableEq AuthorityBindingRecord := fun a b =>
  decidable_of_iff (a.toBindingFields = b.toBindingFields)
    ⟨fun h => by cases a; cases b; cases h; rfl, fun h => h ▸ rfl⟩

def AuthorityBindingRecord.make (a : BindingArguments) : Py AuthorityBindingRecord :=
  match h : a.postInit with
  | .ok fields => .ok ⟨fields, a, h⟩
  | .error e => .error e

def bindingFieldNames : List String :=
  ["domain", "payload_version", "workspace_identity", "application_id", "credential_binding_id",
    "required_capabilities", "authority_issued_at", "attestation_artifact_id",
    "attestation_artifact_digest", "authorized_operation_identities"]

def AuthorityBindingRecord.fromDict (value : Value) : Py AuthorityBindingRecord := do
  let fields ← orRaise value.mapping? (.valueError "authority_binding_payload_invalid")
  raiseIf (fields.hasExactly bindingFieldNames = false) "authority_binding_payload_invalid"
  AuthorityBindingRecord.make
    { domain := fields.get "domain"
      payloadVersion := fields.get "payload_version"
      workspaceIdentity := fields.get "workspace_identity"
      applicationId := fields.get "application_id"
      credentialBindingId := fields.get "credential_binding_id"
      requiredCapabilities := fields.get "required_capabilities"
      authorityIssuedAt := fields.get "authority_issued_at"
      attestationArtifactId := fields.get "attestation_artifact_id"
      attestationArtifactDigest := fields.get "attestation_artifact_digest"
      authorizedOperationIdentities := fields.get "authorized_operation_identities" }

def BindingFields.toDict (f : BindingFields) : Value :=
  .dict [("domain", .str f.domain), ("payload_version", .int f.payloadVersion),
    ("workspace_identity", .str f.workspaceIdentity), ("application_id", .str f.applicationId),
    ("credential_binding_id", .str f.credentialBindingId),
    ("required_capabilities", Value.texts f.requiredCapabilities),
    ("authority_issued_at", .str f.authorityIssuedAt),
    ("attestation_artifact_id", .str f.attestationArtifactId),
    ("attestation_artifact_digest", .str f.attestationArtifactDigest),
    ("authorized_operation_identities", Value.texts f.authorizedOperationIdentities)]

/-- `canonical_payload(self.to_dict()).encode("utf-8")` -/
def BindingFields.canonicalBytes (f : BindingFields) : Py ByteArray := do
  let value ← CanonicalValues.normalize f.toDict
  pure (dumps value).toUTF8

def BindingFields.authorityIssuanceId (f : BindingFields) : Py String := do
  let value ← CanonicalValues.normalize f.toDict
  pure ("authority-issuance-" ++ PythonLibrary.hexdigest value)

/-! ## The envelope -/

def signatureAlgorithm : String := "ed25519"

structure SignedFields where
  payload : AuthorityBindingRecord
  issuerId : String
  keyId : String
  signatureAlgorithm : String
  proof : String

instance : DecidableEq SignedFields := fun a b =>
  decidable_of_iff (a.payload = b.payload ∧ a.issuerId = b.issuerId ∧ a.keyId = b.keyId ∧
      a.signatureAlgorithm = b.signatureAlgorithm ∧ a.proof = b.proof)
    ⟨fun h => by cases a; cases b; simp_all, fun h => by subst h; simp⟩

/-- `SignedAuthorityBinding.__post_init__` -/
def signedPostInit (payload : AuthorityBindingRecord)
    (issuerId keyId algorithm proof : Value) : Py SignedFields := do
  let issuer ← patternText issuerId "issuer_id" idPattern
  let key ← patternText keyId "key_id" idPattern
  raiseIf (algorithm ≠ .str signatureAlgorithm) "authority_binding_algorithm_unsupported"
  let proof ← detachedProof proof
  pure { payload, issuerId := issuer, keyId := key, signatureAlgorithm, proof }

/-- An envelope that the constructor made. -/
structure SignedAuthorityBinding extends SignedFields where
  made : ∃ issuerId keyId algorithm proof : Value,
    signedPostInit payload issuerId keyId algorithm proof = .ok toSignedFields

instance : DecidableEq SignedAuthorityBinding := fun a b =>
  decidable_of_iff (a.toSignedFields = b.toSignedFields)
    ⟨fun h => by cases a; cases b; cases h; rfl, fun h => h ▸ rfl⟩

theorem signedPostInit_payload {payload : AuthorityBindingRecord}
    {issuerId keyId algorithm proof : Value} {fields : SignedFields}
    (h : signedPostInit payload issuerId keyId algorithm proof = .ok fields) :
    fields.payload = payload := by
  simp only [signedPostInit, bind_eq_ok, pure_eq_ok] at h
  obtain ⟨_, -, _, -, _, -, _, -, rfl⟩ := h
  rfl

def SignedAuthorityBinding.make (payload : AuthorityBindingRecord)
    (issuerId keyId algorithm proof : Value) : Py SignedAuthorityBinding :=
  match h : signedPostInit payload issuerId keyId algorithm proof with
  | .ok fields => .ok ⟨fields, issuerId, keyId, algorithm, proof,
      by rw [signedPostInit_payload h, h]⟩
  | .error e => .error e

/-! ## What a constructor made, it makes again -/

/-- Visible ASCII characters only. -/
def Graphic (s : String) : Prop := ∀ c ∈ s.toList, 0x21 ≤ c.toNat ∧ c.toNat ≤ 0x7e

instance (s : String) : Decidable (Graphic s) := List.decidableBAll _ _

end

/-- What Python documents of its text functions: visible ASCII text is in NFC and
has nothing to strip, a part of an NFC text is in NFC, stripped text stays as it
is, and a written timestamp is read back. -/
class LawfulTextLibrary [PythonLibrary] [UnicodeLibrary] [TimestampLibrary] : Prop where
  graphic {s : String} (h : Graphic s) :
    UnicodeLibrary.nfc s = s ∧ PythonLibrary.strip s = s ∧ UnicodeLibrary.rstrip s = s
  nfc_strip (s : String) : UnicodeLibrary.nfc (PythonLibrary.strip (UnicodeLibrary.nfc s)) =
    PythonLibrary.strip (UnicodeLibrary.nfc s)
  strip_strip (s : String) : PythonLibrary.strip (PythonLibrary.strip s) = PythonLibrary.strip s
  rstrip_strip (s : String) : UnicodeLibrary.rstrip (PythonLibrary.strip s) = PythonLibrary.strip s
  utcText {s written : String} (h : TimestampLibrary.utcText s = some written) :
    Graphic written ∧ written ≠ "" ∧ TimestampLibrary.utcText written = some written

section
variable [PythonLibrary] [UnicodeLibrary] [TimestampLibrary] [LawfulTextLibrary]

/-- A text that `_text` returns. -/
structure Settled (s : String) : Prop where
  nfc : UnicodeLibrary.nfc s = s
  strip : PythonLibrary.strip s = s
  rstrip : UnicodeLibrary.rstrip s = s
  nonEmpty : s ≠ ""
  printable : s.toList.any isControl = false

theorem Graphic.settled {s : String} (h : Graphic s) (hs : s ≠ "") : Settled s := by
  obtain ⟨hnfc, hstrip, hrstrip⟩ := LawfulTextLibrary.graphic h
  refine ⟨hnfc, hstrip, hrstrip, hs, ?_⟩
  rw [List.any_eq_false]
  intro c hc
  have hrange := h c hc
  simp only [isControl, Bool.or_eq_true, decide_eq_true_eq, not_or]
  omega

theorem text_settled {value : Value} {field s : String} (h : text value field = .ok s) :
    Settled s := by
  simp only [text, bind_eq_ok, raiseIf_eq_ok, pure_eq_ok, not_or] at h
  obtain ⟨raw, -, _, ⟨hempty, hcontrol⟩, rfl⟩ := h
  exact ⟨LawfulTextLibrary.nfc_strip raw, LawfulTextLibrary.strip_strip _,
    LawfulTextLibrary.rstrip_strip _, hempty, by simpa using hcontrol⟩

omit [TimestampLibrary] [LawfulTextLibrary] in
theorem Settled.text {s : String} (h : Settled s) (field : String) :
    text (.str s) field = .ok s := by
  have hnormal : PythonLibrary.strip (UnicodeLibrary.nfc s) = s := by rw [h.nfc, h.strip]
  simp only [AuthorityBindings.text, bind_eq_ok, orRaise_eq_ok, raiseIf_eq_ok, pure_eq_ok]
  exact ⟨s, rfl, (), by rw [hnormal]; simp [h.nonEmpty, h.printable], hnormal⟩

omit [TimestampLibrary] [LawfulTextLibrary] in
/-- Canonical serialization keeps a settled text. -/
theorem Settled.canonicalText {s : String} (h : Settled s) : canonicalText s = s := by
  have hnot : ∀ c, isControl c = true → c ∉ s.toList := by
    intro c hc hmem
    have hprintable := List.any_eq_false.mp h.printable c hmem
    exact hprintable hc
  have hline := List.splitOn_eq_singleton (hnot '\n' (by decide))
  simp only [CanonicalValues.canonicalText, unifyBreaks_eq (hnot '\r' (by decide)),
    String.ofList_toList, h.nfc, hline, List.map_cons, List.map_nil, h.rstrip,
    List.intercalate_singleton, h.strip]

theorem patternText_again {value : Value} {field s : String} {pattern : String → Bool}
    (h : patternText value field pattern = .ok s) :
    Settled s ∧ patternText (.str s) field pattern = .ok s := by
  simp only [patternText, bind_eq_ok, raiseIf_eq_ok, pure_eq_ok] at h
  obtain ⟨normalized, htext, _, hpattern, rfl⟩ := h
  have hsettled := text_settled htext
  refine ⟨hsettled, ?_⟩
  simp only [patternText, bind_eq_ok, raiseIf_eq_ok, pure_eq_ok]
  exact ⟨normalized, hsettled.text field, (), hpattern, rfl⟩

theorem timestamp_again {value : Value} {s : String} (h : timestamp value = .ok s) :
    Settled s ∧ timestamp (.str s) = .ok s := by
  simp only [timestamp, bind_eq_ok, orRaise_eq_ok] at h
  obtain ⟨normalized, -, hwritten⟩ := h
  obtain ⟨hgraphic, hs, hagain⟩ := LawfulTextLibrary.utcText hwritten
  have hsettled := hgraphic.settled hs
  refine ⟨hsettled, ?_⟩
  simp only [timestamp, bind_eq_ok, orRaise_eq_ok]
  exact ⟨s, hsettled.text _, hagain⟩

theorem canonicalCollection_again {value : Value} {field : String} {pattern : String → Bool}
    {items : List String} (h : canonicalCollection value field pattern = .ok items) :
    (∀ item ∈ items, Settled item) ∧ items.Nodup ∧
      canonicalCollection (Value.texts items) field pattern = .ok items := by
  simp only [canonicalCollection, bind_eq_ok, raiseIf_eq_ok, orRaise_eq_ok, pure_eq_ok,
    not_not] at h
  obtain ⟨raw, -, _, hraw, normalized, hmap, _, hpattern, _, hnodup, rfl⟩ := h
  have hperm := List.perm_insertionSort (· ≤ ·) normalized
  have hsettled : ∀ item ∈ normalized.insertionSort (· ≤ ·), Settled item := by
    intro item hitem
    obtain ⟨source, -, htext⟩ := exists_of_mem_mapM hmap (hperm.mem_iff.mp hitem)
    exact text_settled htext
  have hnodup' := hperm.nodup_iff.mpr hnodup
  refine ⟨hsettled, hnodup', ?_⟩
  have hlength : raw.length = normalized.length := (mapM_eq_ok.mp hmap).length_eq
  have hnonempty : (normalized.insertionSort (· ≤ ·)).map Value.str ≠ [] := by
    rw [ne_eq, List.map_eq_nil_iff, ← List.length_eq_zero_iff, hperm.length_eq, ← hlength,
      List.length_eq_zero_iff]
    exact hraw
  have hmap' : ((normalized.insertionSort (· ≤ ·)).map Value.str).mapM (text · field) =
      .ok (normalized.insertionSort (· ≤ ·)) := by
    rw [mapM_eq_ok, List.forall₂_map_left_iff]
    exact List.forall₂_same.mpr fun item hitem => (hsettled item hitem).text field
  have hsorted : (normalized.insertionSort (· ≤ ·)).insertionSort (· ≤ ·) =
      normalized.insertionSort (· ≤ ·) :=
    (List.pairwise_insertionSort (· ≤ ·) normalized).insertionSort_eq
  simp only [canonicalCollection, Value.texts, bind_eq_ok, raiseIf_eq_ok, orRaise_eq_ok,
    pure_eq_ok, not_not]
  refine ⟨_, rfl, (), hnonempty, _, hmap', (), ?_, (), hnodup', hsorted⟩
  rintro ⟨item, hitem, hfails⟩
  exact hpattern ⟨item, hperm.mem_iff.mp hitem, hfails⟩

omit [PythonLibrary] [UnicodeLibrary] [TimestampLibrary] [LawfulTextLibrary] in
theorem detachedProof_again {value : Value} {s : String} (h : detachedProof value = .ok s) :
    detachedProof (.str s) = .ok s := by
  simp only [detachedProof, bind_eq_ok, orRaise_eq_ok, raiseIf_eq_ok, pure_eq_ok,
    Value.text?_eq_some] at h ⊢
  obtain ⟨raw, -, _, hpattern, rfl⟩ := h
  exact ⟨raw, rfl, (), hpattern, rfl⟩

/-- The arguments that hold the fields as they are. -/
def BindingFields.arguments (f : BindingFields) : BindingArguments where
  domain := .str f.domain
  payloadVersion := .int f.payloadVersion
  workspaceIdentity := .str f.workspaceIdentity
  applicationId := .str f.applicationId
  credentialBindingId := .str f.credentialBindingId
  requiredCapabilities := Value.texts f.requiredCapabilities
  authorityIssuedAt := .str f.authorityIssuedAt
  attestationArtifactId := .str f.attestationArtifactId
  attestationArtifactDigest := .str f.attestationArtifactDigest
  authorizedOperationIdentities := Value.texts f.authorizedOperationIdentities

/-- The texts of a payload are settled. -/
structure BindingFields.Settled (f : BindingFields) : Prop where
  domain : f.domain = bindingDomain
  workspace : AuthorityBindings.Settled f.workspaceIdentity
  application : AuthorityBindings.Settled f.applicationId
  binding : AuthorityBindings.Settled f.credentialBindingId
  capabilities : ∀ item ∈ f.requiredCapabilities, AuthorityBindings.Settled item
  issuedAt : AuthorityBindings.Settled f.authorityIssuedAt
  artifact : AuthorityBindings.Settled f.attestationArtifactId
  artifactDigest : AuthorityBindings.Settled f.attestationArtifactDigest
  operations : ∀ item ∈ f.authorizedOperationIdentities, AuthorityBindings.Settled item
  distinct : f.authorizedOperationIdentities.Nodup

/-- The constructor keeps the fields it made. -/
theorem postInit_again {arguments : BindingArguments} {f : BindingFields}
    (h : arguments.postInit = .ok f) : f.Settled ∧ f.arguments.postInit = .ok f := by
  simp only [BindingArguments.postInit, bind_eq_ok, raiseIf_eq_ok, pure_eq_ok] at h
  obtain ⟨_, -, _, -, workspace, hworkspace, application, happlication, binding, hbinding,
    required, hrequired, issuedAt, hissuedAt, artifact, hartifact, artifactDigest, hdigest,
    operations, hoperations, rfl⟩ := h
  have hworkspace' := text_settled hworkspace
  have happlication' := patternText_again happlication
  have hbinding' := patternText_again hbinding
  have hrequired' := canonicalCollection_again hrequired
  have hissuedAt' := timestamp_again hissuedAt
  have hartifact' := patternText_again hartifact
  have hdigest' := patternText_again hdigest
  have hoperations' := canonicalCollection_again hoperations
  refine ⟨⟨rfl, hworkspace', happlication'.1, hbinding'.1, hrequired'.1, hissuedAt'.1,
    hartifact'.1, hdigest'.1, hoperations'.1, hoperations'.2.1⟩, ?_⟩
  simp only [BindingArguments.postInit, BindingFields.arguments, bind_eq_ok, pure_eq_ok]
  exact ⟨(), by simp, (), by simp, workspace, hworkspace'.text _, application, happlication'.2,
    binding, hbinding'.2, required, hrequired'.2.2, issuedAt, hissuedAt'.2, artifact,
    hartifact'.2, artifactDigest, hdigest'.2, operations, hoperations'.2.2, rfl⟩

theorem AuthorityBindingRecord.settled (r : AuthorityBindingRecord) :
    r.toBindingFields.Settled := by
  obtain ⟨arguments, h⟩ := r.made
  exact (postInit_again h).1

omit [LawfulTextLibrary] in
theorem AuthorityBindingRecord.make_eq_ok {a : BindingArguments} {r : AuthorityBindingRecord}
    (h : a.postInit = .ok r.toBindingFields) : AuthorityBindingRecord.make a = .ok r := by
  obtain ⟨fields, hmade⟩ := r
  unfold AuthorityBindingRecord.make
  split
  · rename_i fields' hfields
    obtain rfl : fields' = fields := Except.ok.inj (hfields.symm.trans h)
    rfl
  · rename_i e herror
    rw [h] at herror
    cases herror

/-- An envelope is made again from its own fields. -/
theorem SignedAuthorityBinding.make_again (b : SignedAuthorityBinding) :
    SignedAuthorityBinding.make b.payload (.str b.issuerId) (.str b.keyId)
      (.str b.signatureAlgorithm) (.str b.proof) = .ok b := by
  obtain ⟨⟨payload, issuerId, keyId, algorithm, proof⟩, hmade⟩ := b
  obtain ⟨rawIssuer, rawKey, rawAlgorithm, rawProof, h⟩ := hmade
  have hagain : signedPostInit payload (.str issuerId) (.str keyId) (.str algorithm)
      (.str proof) = .ok { payload, issuerId, keyId, signatureAlgorithm := algorithm, proof } := by
    simp only [signedPostInit, bind_eq_ok, raiseIf_eq_ok, pure_eq_ok, SignedFields.mk.injEq] at h ⊢
    obtain ⟨issuer, hissuer, key, hkey, _, halgorithm, proof', hproof, -, rfl, rfl, rfl, rfl⟩ := h
    exact ⟨issuer, (patternText_again hissuer).2, key, (patternText_again hkey).2, (), by simp,
      proof', detachedProof_again hproof, trivial, rfl, rfl, rfl, rfl⟩
  unfold SignedAuthorityBinding.make
  split
  · rename_i fields hfields
    obtain rfl := Except.ok.inj (hfields.symm.trans hagain)
    rfl
  · rename_i e herror
    simp only at herror
    rw [hagain] at herror
    cases herror

end

/-! ## The canonical bytes hold the record -/

/-- The members of a payload, in the order of `to_dict`. -/
def BindingFields.entries (f : BindingFields) : Dict :=
  [("domain", .str f.domain), ("payload_version", .int f.payloadVersion),
    ("workspace_identity", .str f.workspaceIdentity), ("application_id", .str f.applicationId),
    ("credential_binding_id", .str f.credentialBindingId),
    ("required_capabilities", Value.texts f.requiredCapabilities),
    ("authority_issued_at", .str f.authorityIssuedAt),
    ("attestation_artifact_id", .str f.attestationArtifactId),
    ("attestation_artifact_digest", .str f.attestationArtifactDigest),
    ("authorized_operation_identities", Value.texts f.authorizedOperationIdentities)]

theorem bindingFieldNames_nodup : bindingFieldNames.Nodup := by decide

theorem bindingFieldNames_graphic : ∀ name ∈ bindingFieldNames, Graphic name := by decide

/-- The payload with its keys in order. -/
def BindingFields.canonical (f : BindingFields) : Dict := sortEntries f.entries

theorem plain_texts (items : List String) : Plain (Value.texts items) := by
  rw [Value.texts, Plain]
  induction items with
  | nil => trivial
  | cons item items ih => exact ⟨trivial, ih⟩

theorem plainEntries_of_forall {entries : Dict} (h : ∀ e ∈ entries, Plain e.2) :
    PlainEntries entries := by
  induction entries with
  | nil => trivial
  | cons e entries ih =>
      obtain ⟨key, value⟩ := e
      exact ⟨h _ List.mem_cons_self, ih fun e he => h e (List.mem_cons_of_mem _ he)⟩

theorem BindingFields.canonical_plain (f : BindingFields) : Plain (.dict f.canonical) := by
  have hperm : f.canonical.Perm f.entries := sortEntries_perm f.entries
  constructor
  · exact sortEntries_sorted bindingFieldNames_nodup
  · refine plainEntries_of_forall fun e he => ?_
    have hmem := hperm.mem_iff.mp he
    simp only [BindingFields.entries, List.mem_cons, List.not_mem_nil, or_false] at hmem
    rcases hmem with rfl | rfl | rfl | rfl | rfl | rfl | rfl | rfl | rfl | rfl
    all_goals first
      | exact plain_texts _
      | trivial

section
variable [PythonLibrary] [UnicodeLibrary] [TimestampLibrary] [LawfulTextLibrary]

omit [TimestampLibrary] [LawfulTextLibrary] in
theorem normalize_texts {items : List String} (h : ∀ item ∈ items, Settled item) :
    CanonicalValues.normalize (Value.texts items) = .ok (Value.texts items) := by
  simp only [Value.texts, CanonicalValues.normalize, bind_eq_ok, normalizeItems_eq_ok, pure_eq_ok]
  refine ⟨_, ?_, rfl⟩
  rw [List.forall₂_map_left_iff, List.forall₂_map_right_iff]
  refine List.forall₂_same.mpr fun item hitem => ?_
  rw [CanonicalValues.normalize, (h item hitem).canonicalText]

omit [TimestampLibrary] [LawfulTextLibrary] in
theorem normalize_text {s : String} (h : Settled s) : CanonicalValues.normalize (.str s) = .ok (.str s) := by
  rw [CanonicalValues.normalize, h.canonicalText]

theorem BindingFields.Settled.normalize {f : BindingFields} (h : f.Settled) :
    CanonicalValues.normalize f.toDict = .ok (.dict f.canonical) := by
  have hdomain : AuthorityBindings.Settled f.domain := by
    have hgraphic : Graphic bindingDomain := by decide
    rw [h.domain]
    exact hgraphic.settled (by decide)
  have hkeys : ∀ name ∈ bindingFieldNames, name = UnicodeLibrary.nfc name := fun name hname =>
    (LawfulTextLibrary.graphic (bindingFieldNames_graphic name hname)).1.symm
  have hvalues : List.Forall₂ (fun e e' : String × Value =>
      e'.1 = UnicodeLibrary.nfc e.1 ∧ CanonicalValues.normalize e.2 = .ok e'.2)
        f.entries f.entries := by
    refine List.forall₂_same.mpr fun e he => ⟨hkeys e.1 (List.mem_map_of_mem he), ?_⟩
    simp only [BindingFields.entries, List.mem_cons, List.not_mem_nil, or_false] at he
    rcases he with rfl | rfl | rfl | rfl | rfl | rfl | rfl | rfl | rfl | rfl
    · exact normalize_text hdomain
    · rfl
    · exact normalize_text h.workspace
    · exact normalize_text h.application
    · exact normalize_text h.binding
    · exact normalize_texts h.capabilities
    · exact normalize_text h.issuedAt
    · exact normalize_text h.artifact
    · exact normalize_text h.artifactDigest
    · exact normalize_texts h.operations
  have hentries : f.toDict = .dict f.entries := rfl
  rw [hentries]
  simp only [CanonicalValues.normalize, bind_eq_ok, normalizeEntries_eq_ok, raiseIf_eq_ok,
    pure_eq_ok, not_not]
  exact ⟨f.entries, hvalues, (), bindingFieldNames_nodup, rfl⟩

/-- A payload is read from its canonical mapping. -/
theorem AuthorityBindingRecord.fromDict_canonical (r : AuthorityBindingRecord) :
    AuthorityBindingRecord.fromDict (.dict r.canonical) = .ok r := by
  have hperm : r.canonical.Perm r.entries := sortEntries_perm r.entries
  have hget : ∀ key, Dict.get r.canonical key = Dict.get r.entries key := fun key => by
    rw [Dict.get, Dict.get, lookup_eq_of_perm hperm
      ((hperm.map Prod.fst).nodup_iff.mpr bindingFieldNames_nodup)]
  have hexactly : Dict.hasExactly r.canonical bindingFieldNames = true := by
    rw [Dict.hasExactly_iff]
    intro key
    exact (hperm.map Prod.fst).mem_iff
  obtain ⟨arguments, hmade⟩ := r.made
  have hmake := AuthorityBindingRecord.make_eq_ok (postInit_again hmade).2
  simp only [AuthorityBindingRecord.fromDict, bind_eq_ok, orRaise_eq_ok, raiseIf_eq_ok]
  refine ⟨r.canonical, rfl, (), by simp [hexactly], ?_⟩
  simp only [hget]
  exact hmake

theorem AuthorityBindingRecord.canonicalBytes_eq (r : AuthorityBindingRecord) :
    r.canonicalBytes = .ok (dumps (.dict r.canonical)).toUTF8 := by
  simp only [BindingFields.canonicalBytes, bind_eq_ok, pure_eq_ok]
  exact ⟨_, r.settled.normalize, rfl⟩

theorem AuthorityBindingRecord.authorityIssuanceId_eq (r : AuthorityBindingRecord) :
    r.authorityIssuanceId =
      .ok ("authority-issuance-" ++ PythonLibrary.hexdigest (.dict r.canonical)) := by
  simp only [BindingFields.authorityIssuanceId, bind_eq_ok, pure_eq_ok]
  exact ⟨_, r.settled.normalize, rfl⟩

end
end DeliverySystem.AuthorityBindings

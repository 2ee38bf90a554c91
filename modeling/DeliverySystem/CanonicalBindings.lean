import DeliverySystem.AttestationClaims
import DeliverySystem.AttestationReference
import DeliverySystem.IssuanceHistories

/-!
# Authority bindings and their bytes

A record and its canonical bytes determine each other. The bytes do not show in
which order the collections were given or in which time zone the time was, and
no other bytes are accepted as the payload of a stored binding.
-/
namespace DeliverySystem.CanonicalBindings
open PythonValues CanonicalValues JsonText AuthorityBindings AuthorityBindingStores
open AttestationClaims AuthorityIssuance
set_option autoImplicit false

/-! ## Arguments given otherwise -/

theorem sorted_eq_of_perm {xs ys : List String} (h : xs.Perm ys) :
    xs.insertionSort (· ≤ ·) = ys.insertionSort (· ≤ ·) := by
  refine List.Perm.eq_of_pairwise (fun a b _ _ => le_antisymm)
    (List.pairwise_insertionSort (· ≤ ·) xs) (List.pairwise_insertionSort (· ≤ ·) ys) ?_
  exact (List.perm_insertionSort _ xs).trans (h.trans (List.perm_insertionSort _ ys).symm)

section
variable [PythonLibrary] [UnicodeLibrary]

/-- A timestamp brought to UTC is its instant as `isoformat` writes it. -/
class LawfulUtcTimes [TimestampLibrary] [ZonedTimeLibrary] : Prop where
  utcText (s : String) : TimestampLibrary.utcText s =
    (ZonedTimeLibrary.parse s).map fun z => PythonLibrary.isoformat z.instant

/-- The items of a list or a tuple, in some order. -/
def Permuted (v w : Value) : Prop :=
  ∃ xs ys, v.sequence? = some xs ∧ w.sequence? = some ys ∧ xs.Perm ys

/-- Timestamps of one instant, whatever their offsets. -/
def SameInstant [ZonedTimeLibrary] (v w : Value) : Prop :=
  ∃ s s' z z', text v "authority_issued_at" = .ok s ∧ text w "authority_issued_at" = .ok s' ∧
    ZonedTimeLibrary.parse s = some z ∧ ZonedTimeLibrary.parse s' = some z' ∧
    z.instant = z'.instant

/-- The same arguments, up to the order of the collections and the offset of the time. -/
structure Regiven [ZonedTimeLibrary] (a b : BindingArguments) : Prop where
  domain : b.domain = a.domain
  payloadVersion : b.payloadVersion = a.payloadVersion
  workspaceIdentity : b.workspaceIdentity = a.workspaceIdentity
  applicationId : b.applicationId = a.applicationId
  credentialBindingId : b.credentialBindingId = a.credentialBindingId
  requiredCapabilities : Permuted a.requiredCapabilities b.requiredCapabilities
  authorityIssuedAt : b.authorityIssuedAt = a.authorityIssuedAt ∨
    SameInstant a.authorityIssuedAt b.authorityIssuedAt
  attestationArtifactId : b.attestationArtifactId = a.attestationArtifactId
  attestationArtifactDigest : b.attestationArtifactDigest = a.attestationArtifactDigest
  authorizedOperationIdentities :
    Permuted a.authorizedOperationIdentities b.authorizedOperationIdentities

/-! ## What the fields are brought to -/

theorem canonicalCollection_permuted {v w : Value} {field : String} {pattern : String → Bool}
    {items : List String} (hpermuted : Permuted v w)
    (h : canonicalCollection v field pattern = .ok items) :
    canonicalCollection w field pattern = .ok items := by
  obtain ⟨xs, ys, hxs, hys, hperm⟩ := hpermuted
  simp only [canonicalCollection, bind_eq_ok, orRaise_eq_ok, raiseIf_eq_ok, pure_eq_ok,
    not_not] at h ⊢
  obtain ⟨given, hgiven, -, hnonempty, normalized, hmap, -, hpattern, -, hnodup, rfl⟩ := h
  obtain rfl := Option.some.inj (hxs.symm.trans hgiven)
  obtain ⟨normalized', hmap', hsame⟩ := List.perm_comp_forall₂ hperm.symm (mapM_eq_ok.mp hmap)
  refine ⟨ys, hys, (), ?_, normalized', mapM_eq_ok.mpr hmap', (), ?_, (), ?_, ?_⟩
  · rintro rfl
    exact hnonempty (List.perm_nil.mp hperm)
  · rintro ⟨item, hitem, hfails⟩
    exact hpattern ⟨item, hsame.mem_iff.mp hitem, hfails⟩
  · exact hsame.nodup_iff.mpr hnodup
  · exact sorted_eq_of_perm hsame

variable [TimestampLibrary]

theorem timestamp_sameInstant [ZonedTimeLibrary] [LawfulUtcTimes] {v w : Value} {written : String}
    (hsame : SameInstant v w) (h : timestamp v = .ok written) : timestamp w = .ok written := by
  obtain ⟨s, s', z, z', hs, hs', hz, hz', hinstant⟩ := hsame
  simp only [timestamp, bind_eq_ok, orRaise_eq_ok] at h ⊢
  obtain ⟨given, hgiven, hwritten⟩ := h
  obtain rfl := Except.ok.inj (hs.symm.trans hgiven)
  refine ⟨s', hs', ?_⟩
  rw [LawfulUtcTimes.utcText, hz] at hwritten
  rw [LawfulUtcTimes.utcText, hz', ← hwritten, Option.map_some, Option.map_some, hinstant]

/-- Arguments that are given otherwise make the same fields. -/
theorem postInit_regiven [ZonedTimeLibrary] [LawfulUtcTimes] {a b : BindingArguments}
    {f : BindingFields} (hregiven : Regiven a b) (h : a.postInit = .ok f) :
    b.postInit = .ok f := by
  have htimestamp : ∀ {written}, timestamp a.authorityIssuedAt = .ok written →
      timestamp b.authorityIssuedAt = .ok written := by
    intro written hwritten
    rcases hregiven.authorityIssuedAt with hsame | hsame
    · rw [hsame]
      exact hwritten
    · exact timestamp_sameInstant hsame hwritten
  simp only [BindingArguments.postInit, bind_eq_ok, pure_eq_ok] at h ⊢
  obtain ⟨_, hdomain, _, hversion, workspace, hworkspace, application, happlication, binding,
    hbinding, required, hrequired, issuedAt, hissuedAt, artifact, hartifact, artifactDigest,
    hdigest, operations, hoperations, rfl⟩ := h
  rw [hregiven.domain, hregiven.payloadVersion, hregiven.workspaceIdentity,
    hregiven.applicationId, hregiven.credentialBindingId, hregiven.attestationArtifactId,
    hregiven.attestationArtifactDigest]
  exact ⟨_, hdomain, _, hversion, workspace, hworkspace, application, happlication, binding,
    hbinding, required, canonicalCollection_permuted hregiven.requiredCapabilities hrequired,
    issuedAt, htimestamp hissuedAt, artifact, hartifact, artifactDigest, hdigest, operations,
    canonicalCollection_permuted hregiven.authorizedOperationIdentities hoperations, rfl⟩

theorem make_fields {a : BindingArguments} {r : AuthorityBindingRecord}
    (h : AuthorityBindingRecord.make a = .ok r) : a.postInit = .ok r.toBindingFields := by
  unfold AuthorityBindingRecord.make at h
  split at h
  · rename_i fields hfields
    rw [← Except.ok.inj h]
    exact hfields
  · cases h

/-! ## Reading the bytes -/

/-- `AuthorityBindingRecord.from_dict(_strict_json_object(payload))` -/
def readPayload (payload : ByteArray) : Py AuthorityBindingRecord := do
  let parsed ← strictJsonObject payload
  AuthorityBindingRecord.fromDict parsed

variable [LawfulTextLibrary]

theorem readPayload_canonicalBytes {r : AuthorityBindingRecord} {payload : ByteArray}
    (h : r.canonicalBytes = .ok payload) : readPayload payload = .ok r := by
  rw [r.canonicalBytes_eq] at h
  obtain rfl := Except.ok.inj h
  simp only [readPayload, bind_eq_ok]
  exact ⟨_, strictJsonObject_canonical r, r.fromDict_canonical⟩

theorem canonicalBytes_inj {r r' : AuthorityBindingRecord} {payload : ByteArray}
    (h : r.canonicalBytes = .ok payload) (h' : r'.canonicalBytes = .ok payload) : r = r' :=
  Except.ok.inj ((readPayload_canonicalBytes h).symm.trans (readPayload_canonicalBytes h'))

omit [LawfulTextLibrary] in
/-- What is validated has the bytes of its payload. -/
theorem validatedBinding_bytes {payload : ByteArray}
    {issuance issuer key algorithm proof workspace : String} {p : PersistedAuthorityBinding}
    (h : validatedBinding payload issuance issuer key algorithm proof workspace = .ok p) :
    p.signed.payload.canonicalBytes = .ok payload := by
  simp only [validatedBinding, bind_eq_ok] at h
  obtain ⟨-, -, -, -, signed, -, -, -, -, -, -, -, -, -, -, -, -, -, h⟩ := h
  unfold PersistedAuthorityBinding.make at h
  split_ifs at h with hpayload hissuance
  obtain rfl := Except.ok.inj h
  exact hpayload

/-- A record is read back from its bytes, which do not show how its arguments were given;
no other bytes are accepted as a payload. -/
theorem binding_bytes_canonical [ZonedTimeLibrary] [LawfulUtcTimes] :
    (∀ r : AuthorityBindingRecord, (r.canonicalBytes >>= readPayload) = .ok r) ∧
    (∀ a b r, Regiven a b → AuthorityBindingRecord.make a = .ok r →
      ∃ r', AuthorityBindingRecord.make b = .ok r' ∧ r'.canonicalBytes = r.canonicalBytes ∧
        r'.authorityIssuanceId = r.authorityIssuanceId) ∧
    (∀ r r' : AuthorityBindingRecord, r ≠ r' → r.canonicalBytes ≠ r'.canonicalBytes) ∧
    ∀ payload issuance issuer key algorithm proof workspace p,
      validatedBinding payload issuance issuer key algorithm proof workspace = .ok p →
        ∃ r : AuthorityBindingRecord, p.signed.payload = r ∧ r.canonicalBytes = .ok payload ∧
          ∀ r' : AuthorityBindingRecord, r'.canonicalBytes = .ok payload → r' = r := by
  refine ⟨fun r => ?_, fun a b r hregiven ha => ?_, fun r r' hne hsame => ?_,
    fun payload _ _ _ _ _ _ p hvalid => ?_⟩
  · have hbytes := r.canonicalBytes_eq
    rw [bind_eq_ok]
    exact ⟨_, hbytes, readPayload_canonicalBytes hbytes⟩
  · have hb := postInit_regiven hregiven (make_fields ha)
    exact ⟨r, AuthorityBindingRecord.make_eq_ok hb, rfl, rfl⟩
  · have hbytes := r.canonicalBytes_eq
    exact hne (canonicalBytes_inj hbytes (hsame ▸ hbytes))
  · have hbytes := validatedBinding_bytes hvalid
    exact ⟨p.signed.payload, rfl, hbytes, fun r' hr' => canonicalBytes_inj hr' hbytes⟩

end

/-! ## One instant with two offsets -/

section
attribute [local instance] ReferenceLibrary.referenceLibrary IssuanceHistories.referenceUnicode

@[reducible] def offsetTimes : ZonedTimeLibrary where
  parse s :=
    if s = "2026-01-01T00:00:00Z" then some ⟨1767225600000000, 0⟩
    else if s = "2026-01-01T01:00:00+01:00" then some ⟨1767225600000000, 3600⟩
    else none
  isoformatMicroseconds := AttestationReference.isoformatMicroseconds

@[reducible] def offsetTimestamps : TimestampLibrary where
  utcText s := (offsetTimes.parse s).map fun z => PythonLibrary.isoformat z.instant

attribute [local instance] offsetTimes offsetTimestamps

theorem offsetTimes_instant {s : String} {z : ZonedDatetime} (h : offsetTimes.parse s = some z) :
    z.instant = 1767225600000000 := by
  change (if s = "2026-01-01T00:00:00Z" then some (⟨1767225600000000, 0⟩ : ZonedDatetime)
    else if s = "2026-01-01T01:00:00+01:00" then some ⟨1767225600000000, 3600⟩ else none) =
      some z at h
  split_ifs at h
  · rw [← Option.some.inj h]
  · rw [← Option.some.inj h]

theorem offsetTimes_written :
    PythonLibrary.isoformat 1767225600000000 = "2026-01-01T00:00:00Z" := by
  decide +kernel

theorem offsetTimestamps_lawful : LawfulTextLibrary where
  graphic := IssuanceHistories.referenceLibrary_lawful.graphic
  nfc_strip := IssuanceHistories.referenceLibrary_lawful.nfc_strip
  strip_strip := IssuanceHistories.referenceLibrary_lawful.strip_strip
  rstrip_strip := IssuanceHistories.referenceLibrary_lawful.rstrip_strip
  utcText {s written} h := by
    obtain ⟨z, hz, rfl⟩ := Option.map_eq_some_iff.mp h
    rw [offsetTimes_instant hz, offsetTimes_written]
    decide +kernel

theorem offsetTimestamps_utc : LawfulUtcTimes := ⟨fun _ => rfl⟩

/-- The arguments of the sample, in another order and with another offset. -/
def regivenArguments : BindingArguments :=
  { IssuanceHistories.sampleArguments with
    requiredCapabilities := .tuple [.str "issues:read", .str "issues:write"]
    authorityIssuedAt := .str "2026-01-01T01:00:00+01:00" }

theorem sampleArguments_made : ∃ r, AuthorityBindingRecord.make IssuanceHistories.sampleArguments =
    .ok r := by
  have hfields : IssuanceHistories.sampleArguments.postInit = .ok IssuanceHistories.sampleFields := by
    decide +kernel
  exact ⟨⟨_, _, hfields⟩, AuthorityBindingRecord.make_eq_ok hfields⟩

theorem sampleArguments_regiven : Regiven IssuanceHistories.sampleArguments regivenArguments where
  domain := rfl
  payloadVersion := rfl
  workspaceIdentity := rfl
  applicationId := rfl
  credentialBindingId := rfl
  requiredCapabilities := ⟨_, _, rfl, rfl, .swap _ _ _⟩
  authorityIssuedAt := .inr ⟨"2026-01-01T00:00:00Z", "2026-01-01T01:00:00+01:00", _, _,
    by decide +kernel, by decide +kernel, if_pos rfl, rfl, rfl⟩
  attestationArtifactId := rfl
  attestationArtifactDigest := rfl
  authorizedOperationIdentities := ⟨_, _, rfl, rfl, .refl _⟩

end

theorem binding_bytes_canonical_sample : ∃ (_ : PythonLibrary) (_ : UnicodeLibrary)
    (_ : TimestampLibrary) (a b : BindingArguments) (r r' : AuthorityBindingRecord)
    (payload : ByteArray), a ≠ b ∧ AuthorityBindingRecord.make a = .ok r ∧
      AuthorityBindingRecord.make b = .ok r' ∧ r.canonicalBytes = .ok payload ∧
      r'.canonicalBytes = .ok payload ∧ readPayload payload = .ok r := by
  have hlawful := offsetTimestamps_lawful
  have hutc := offsetTimestamps_utc
  have hregiven := sampleArguments_regiven
  obtain ⟨r, hr⟩ := sampleArguments_made
  let _ := ReferenceLibrary.referenceLibrary
  let _ := IssuanceHistories.referenceUnicode
  let _ := offsetTimestamps
  let _ := offsetTimes
  obtain ⟨hread, hsame, -, -⟩ := binding_bytes_canonical
  obtain ⟨r', hr', hbytes, -⟩ := hsame _ _ r hregiven hr
  have hback := hread r
  rw [bind_eq_ok] at hback
  obtain ⟨payload, hpayload, hback⟩ := hback
  refine ⟨_, _, _, _, _, r, r', payload, ?_, hr, hr', hpayload, hbytes.trans hpayload, hback⟩
  intro heq
  exact absurd (congrArg BindingArguments.authorityIssuedAt heq) (by decide)

end DeliverySystem.CanonicalBindings

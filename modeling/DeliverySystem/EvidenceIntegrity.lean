import DeliverySystem.EvidenceRoundTrips
import DeliverySystem.PreviewEligibility
import DeliverySystem.AttestationReference
import DeliverySystem.PreviewHistories

/-!
# The integrity of evidence

Evidence that is made is read again from what it writes. Evidence that is read
has the digests of its own fields, so that two records of one identity say the
same of the same subject.
-/
namespace DeliverySystem.EvidenceIntegrity
open PythonValues CanonicalValues IssueCommands EvidenceRecords NormalForms EvidenceRoundTrips
open AuthorityBindings AttestationClaims PreviewEligibility
set_option autoImplicit false

section
variable [PythonLibrary] [UnicodeLibrary]

/-! ## The constructors -/

/-- `EvidenceRecord.create` -/
def EvidenceRecord.create (workspaceIdentity previewId : String) (revision : Int)
    (evidenceType sourceKind : String) (declaredSource : Option DeclaredSource)
    (subjectRef : String) (payload createdAt : Value) (sourceIdentity : String)
    (repositoryIdentity queryScope : Value) (schemaVersion : String) : Py EvidenceRecord := do
  raiseIf (sourceKind ∈ ["runtime", "driver"]) "controlled_evidence_source"
  EvidenceRecord.createControlled workspaceIdentity previewId revision evidenceType sourceKind
    declaredSource subjectRef payload createdAt sourceIdentity repositoryIdentity queryScope
    schemaVersion false

/-- `EvidenceRecord.create_verified_driver` -/
def EvidenceRecord.createVerifiedDriver (workspaceIdentity previewId : String) (revision : Int)
    (evidenceType subjectRef : String) (payload : Value)
    (sourceIdentity repositoryIdentity : String) (queryScope : Dict) (createdAt : Value)
    (schemaVersion : String) : Py EvidenceRecord := do
  raiseIf (PythonLibrary.strip workspaceIdentity = "" ∨ PythonLibrary.strip previewId = "" ∨
    revision < 1 ∨ PythonLibrary.strip sourceIdentity = "" ∨
    PythonLibrary.strip repositoryIdentity = "") "driver_evidence_binding_invalid"
  EvidenceRecord.createControlled workspaceIdentity previewId revision evidenceType "driver" none
    subjectRef payload createdAt sourceIdentity (.str repositoryIdentity) (.dict queryScope)
    schemaVersion true

/-- What the evidence digest of a record is the digest of. -/
def content (r : EvidenceRecord) : Value :=
  evidencePayload r.evidenceType r.sourceKind r.declaredSource r.subjectRef r.sourceIdentity
    r.repositoryIdentity r.queryScope r.schemaVersion r.payload

/-- The digest and the identity of a record are those of its own fields. -/
structure Recomputed (r : EvidenceRecord) : Prop where
  evidenceDigest : canonicalDigest (content r) = .ok r.evidenceDigest
  evidenceId : evidenceIdentity r.workspaceIdentity r.previewId r.revision r.evidenceType
    r.subjectRef r.evidenceDigest = .ok r.evidenceId

/-! ## Reading back what was made -/

section
variable [LawfulSpacing]

/-- The digest does not tell a scope and a payload from their normal forms. -/
theorem evidencePayload_normalized {type kind subject source schema d : String}
    {declared : Option DeclaredSource} {repository scope scope' payload payload' : Value}
    (hscope : CanonicalValues.normalize scope = .ok scope')
    (hpayload : CanonicalValues.normalize payload = .ok payload')
    (h : canonicalDigest (evidencePayload type kind declared subject source repository scope schema
      payload) = .ok d) :
    canonicalDigest (evidencePayload type kind declared subject source repository scope' schema
      payload') = .ok d := by
  simp only [canonicalDigest, bind_eq_ok, pure_eq_ok] at h ⊢
  obtain ⟨v, hv, rfl⟩ := h
  refine ⟨v, normalize_dict_congr ?_ hv, rfl⟩
  have hsame : ∀ {value value' : Value},
      CanonicalValues.normalize value = .ok value' → ∀ v,
        CanonicalValues.normalize value = .ok v → CanonicalValues.normalize value' = .ok v := by
    intro value value' hvalue v hv
    obtain rfl := Except.ok.inj (hvalue.symm.trans hv)
    exact normalize_again _ _ hvalue
  simp only [List.forall₂_cons, List.forall₂_nil_right_iff, and_true, true_and, imp_self,
    implies_true]
  exact ⟨hsame hscope, hsame hpayload⟩

/-- What is made has the digests of its own fields, in normal form. -/
theorem createControlled_recomputed {workspace preview type kind subject source schema : String}
    {revision : Int} {declared : Option DeclaredSource} {payload created repository scope : Value}
    {verified : Bool} {r : EvidenceRecord}
    (h : EvidenceRecord.createControlled workspace preview revision type kind declared subject
      payload created source repository scope schema verified = .ok r) :
    Recomputed r ∧ CanonicalValues.normalize r.queryScope = .ok r.queryScope ∧
      CanonicalValues.normalize r.payload = .ok r.payload := by
  simp only [EvidenceRecord.createControlled, bind_eq_ok, raiseIf_eq_ok, pure_eq_ok] at h
  obtain ⟨_, -, _, -, _, -, _, -, evidenceDigest, hdigest, evidenceId, hid, scope', hscope,
    payload', hpayload, rfl⟩ := h
  exact ⟨⟨evidencePayload_normalized hscope hpayload hdigest, hid⟩, normalize_again _ _ hscope,
    normalize_again _ _ hpayload⟩

variable [IntegerLibrary]

omit [PythonLibrary] [UnicodeLibrary] [LawfulSpacing] [IntegerLibrary] in
theorem parseOptional_value (source : DeclaredSource) :
    DeclaredSource.parseOptional (DeclaredSource.value (some source)) = .ok (some source) := by
  cases source <;> decide

/-- Every record that is made is read again from what it writes. -/
theorem fromDict_createControlled {workspace preview type kind subject source schema : String}
    {revision : Int} {declared : Option DeclaredSource} {payload created repository scope : Value}
    {verified : Bool} {r : EvidenceRecord}
    (h : EvidenceRecord.createControlled workspace preview revision type kind declared subject
      payload created source repository scope schema verified = .ok r) :
    EvidenceRecord.fromDict r.toDict = .ok r := by
  obtain ⟨hrecomputed, hscope, hpayload⟩ := createControlled_recomputed h
  simp only [EvidenceRecord.createControlled, bind_eq_ok, raiseIf_eq_ok, pure_eq_ok] at h
  obtain ⟨_, hkinds, _, hunverified, _, hsources, _, hdeclared, evidenceDigest, -, evidenceId, -,
    scope', -, payload', -, rfl⟩ := h
  have hdigest := hrecomputed.evidenceDigest
  have hid := hrecomputed.evidenceId
  simp only [content] at hdigest hid hscope hpayload
  simp only [EvidenceRecord.fromDict, bind_eq_ok]
  refine ⟨kind, requireText_of_require rfl, ?_⟩
  cases verified with
  | false =>
      have hkind : kind = "declared" := by simpa using hunverified
      subst hkind
      obtain ⟨source', rfl⟩ : ∃ source', declared = some source' :=
        Option.ne_none_iff_exists'.mp (by simpa using hdeclared)
      rw [if_pos rfl]
      simp only [EvidenceRecord.declaredFromDict, EvidenceRecord.createControlled, bind_eq_ok,
        raiseIf_eq_ok, pure_eq_ok, not_or, not_not]
      exact ⟨_, requireText_of_require rfl, _, requireText_of_require rfl, _, rfl, _,
        requireText_of_require rfl, _, requireText_of_require rfl, _, parseOptional_value source', _,
        requireText_of_require rfl, _, rfl, _, requireText_of_require rfl, _,
        requireText_of_require rfl, _, ⟨(), by simp, (), by simp, (), by simp, (), by simp,
          _, hdigest, _, hid, _, hscope, _, hpayload, rfl⟩, (), ⟨rfl, rfl⟩, rfl⟩
  | true =>
      have hverified : kind ∈ ["runtime", "driver"] ∧ declared = none := by
        simpa [or_iff_not_imp_left] using hsources
      obtain ⟨hkind, rfl⟩ := hverified
      have hne : kind ≠ "declared" := by
        rintro rfl
        revert hkind
        decide
      have hstatus : kind ++ "_verified" =
          if kind = "runtime" then "runtime_verified" else "driver_verified" := by
        rcases List.mem_cons.mp hkind with rfl | hkind
        · decide
        · obtain rfl := List.mem_singleton.mp hkind
          decide
      rw [if_neg hne]
      simp only [EvidenceRecord.verifiedFromDict, bind_eq_ok, raiseIf_eq_ok, pure_eq_ok, not_not,
        not_or]
      refine ⟨(), ⟨hkind, rfl⟩, (), ?_, _, requireText_of_require rfl, _,
        requireText_of_require rfl, _, requireText_of_require rfl, _, rfl, _,
        requireText_of_require rfl, _, requireText_of_require rfl, _, hscope, _,
        requireText_of_require rfl, _, requireText_of_require rfl, _, rfl, _, hpayload, _,
        requireText_of_require rfl, _, hdigest, (), rfl, _, hid, (), rfl, ?_⟩
      · rw [← hstatus]
        rfl
      · rw [← hstatus]
        rfl

/-- Every record that is read has the digests of its own fields. -/
theorem fromDict_recomputed {d : Dict} {r : EvidenceRecord} (h : EvidenceRecord.fromDict d = .ok r) :
    Recomputed r := by
  simp only [EvidenceRecord.fromDict, bind_eq_ok] at h
  obtain ⟨sourceKind, -, h⟩ := h
  split_ifs at h with hdeclared
  · simp only [EvidenceRecord.declaredFromDict, bind_eq_ok, raiseIf_eq_ok, pure_eq_ok] at h
    obtain ⟨workspace, -, preview, -, revision, -, type, -, kind, -, source, -, subject, -, payload,
      -, identity, -, schema, -, record, hmade, _, -, rfl⟩ := h
    exact (createControlled_recomputed hmade).1
  · simp only [EvidenceRecord.verifiedFromDict, bind_eq_ok, raiseIf_eq_ok, pure_eq_ok, not_not] at h
    obtain ⟨_, -, _, -, evidenceId, -, workspace, -, preview, -, revision, -, type, -, identity, -,
      scope, -, schema, -, subject, -, raw, -, payload, -, evidenceDigest, -, expected, hdigest, _,
      rfl, expectedId, hid, _, rfl, rfl⟩ := h
    exact ⟨hdigest, hid⟩

/-! ## One identity -/

/-- SHA-256 does not collide on what the identities of the two records are taken of,
nor on what their digests are taken of. -/
def NoCollision (r r' : EvidenceRecord) : Prop :=
  (∀ v v', CanonicalValues.normalize (.dict (identityEntries r)) = .ok v →
    CanonicalValues.normalize (.dict (identityEntries r')) = .ok v' →
      PythonLibrary.hexdigest v = PythonLibrary.hexdigest v' → v = v') ∧
  ∀ c c', CanonicalValues.normalize (content r) = .ok c →
    CanonicalValues.normalize (content r') = .ok c' →
      PythonLibrary.hexdigest c = PythonLibrary.hexdigest c' → c = c'

/-- The records agree up to canonical normalization. -/
structure Agree (r r' : EvidenceRecord) : Prop where
  workspaceIdentity : canonicalText r.workspaceIdentity = canonicalText r'.workspaceIdentity
  previewId : canonicalText r.previewId = canonicalText r'.previewId
  revision : r.revision = r'.revision
  evidenceType : canonicalText r.evidenceType = canonicalText r'.evidenceType
  sourceKind : canonicalText r.sourceKind = canonicalText r'.sourceKind
  declaredSource : CanonicalValues.normalize (DeclaredSource.value r.declaredSource) =
    CanonicalValues.normalize (DeclaredSource.value r'.declaredSource)
  subjectRef : canonicalText r.subjectRef = canonicalText r'.subjectRef
  sourceIdentity : canonicalText r.sourceIdentity = canonicalText r'.sourceIdentity
  repositoryIdentity : CanonicalValues.normalize r.repositoryIdentity =
    CanonicalValues.normalize r'.repositoryIdentity
  queryScope : CanonicalValues.normalize r.queryScope = CanonicalValues.normalize r'.queryScope
  schemaVersion : canonicalText r.schemaVersion = canonicalText r'.schemaVersion
  payload : CanonicalValues.normalize r.payload = CanonicalValues.normalize r'.payload

omit [LawfulSpacing] [IntegerLibrary] in
/-- The digest of content is a text that normalization keeps. -/
theorem digest_canonicalText [TimestampLibrary] [LawfulTextLibrary] [LawfulDigestLibrary]
    (v : Value) : canonicalText (digest v) = digest v := by
  have hform : hexPattern "sha256:" (digest v) = true :=
    hexPattern_append (LawfulDigestLibrary.hexdigest v)
  obtain ⟨hgraphic, hne⟩ := hexPattern_graphic (by decide) hform
  exact (hgraphic.settled hne).canonicalText

omit [LawfulSpacing] [IntegerLibrary] in
/-- Records of one identity agree, where their digests do not collide. -/
theorem Recomputed.agree [TimestampLibrary] [LawfulTextLibrary] [LawfulDigestLibrary]
    {r r' : EvidenceRecord} (h : Recomputed r) (h' : Recomputed r') (hfree : NoCollision r r')
    (hid : r.evidenceId = r'.evidenceId) : Agree r r' := by
  have hidentity := h.evidenceId
  have hidentity' := h'.evidenceId
  have hcontent := h.evidenceDigest
  have hcontent' := h'.evidenceDigest
  simp only [evidenceIdentity, canonicalDigest, bind_eq_ok, pure_eq_ok] at hidentity hidentity' hcontent hcontent'
  obtain ⟨v, hv, hev⟩ := hidentity
  obtain ⟨v', hv', hev'⟩ := hidentity'
  obtain ⟨c, hc, hdigest⟩ := hcontent
  obtain ⟨c', hc', hdigest'⟩ := hcontent'
  obtain rfl : v = v' := hfree.1 v v' hv hv'
    ((String.append_right_inj "ev_").mp (by rw [hev, hev', hid]))
  have hvalues := normalize_dict_values
    (by rfl : (identityEntries r).map Prod.fst = (identityEntries r').map Prod.fst) hv hv'
  simp only [identityEntries, List.forall₂_cons, CanonicalValues.normalize, Except.ok.injEq,
    Value.str.injEq, Value.int.injEq] at hvalues
  obtain ⟨-, hworkspace, hpreview, hrevision, htype, hsubject, hsame, -⟩ := hvalues
  rw [← hdigest, ← hdigest', digest_canonicalText, digest_canonicalText] at hsame
  obtain rfl : c = c' := hfree.2 c c' hc hc' 
    ((String.append_right_inj "sha256:").mp hsame)
  have hfields := normalize_dict_values (by rfl) hc hc'
  simp only [List.forall₂_cons, CanonicalValues.normalize, Except.ok.injEq,
    Value.str.injEq] at hfields
  obtain ⟨-, hkind, hdeclared, -, hsource, hrepository, hscope, hschema, hpayload, -⟩ := hfields
  exact ⟨hworkspace, hpreview, hrevision, htype, hkind, hdeclared, hsubject, hsource, hrepository,
    hscope, hschema, hpayload⟩

/-- Evidence that is made is read again, what is read has its own digests, and one
identity has one content. -/
theorem evidence_integrity [TimestampLibrary] [LawfulTextLibrary] [LawfulDigestLibrary] :
    (∀ workspace preview revision type kind declared subject payload created source repository scope
        schema r, EvidenceRecord.create workspace preview revision type kind declared subject payload
          created source repository scope schema = .ok r → EvidenceRecord.fromDict r.toDict = .ok r) ∧
      (∀ workspace preview revision type subject payload source repository scope created schema r,
        EvidenceRecord.createVerifiedDriver workspace preview revision type subject payload source
          repository scope created schema = .ok r → EvidenceRecord.fromDict r.toDict = .ok r) ∧
      (∀ workspace preview revision type kind declared subject payload created source repository
        scope schema verified r, EvidenceRecord.createControlled workspace preview revision type kind
          declared subject payload created source repository scope schema verified = .ok r →
            EvidenceRecord.fromDict r.toDict = .ok r) ∧
      (∀ d r, EvidenceRecord.fromDict d = .ok r → Recomputed r) ∧
      ∀ d d' r r', EvidenceRecord.fromDict d = .ok r → EvidenceRecord.fromDict d' = .ok r' →
        NoCollision r r' → r.evidenceId = r'.evidenceId → Agree r r' := by
  refine ⟨?_, ?_, ?_, ?_, ?_⟩
  · intro workspace preview revision type kind declared subject payload created source repository
      scope schema r h
    simp only [EvidenceRecord.create, bind_eq_ok] at h
    obtain ⟨_, -, h⟩ := h
    exact fromDict_createControlled h
  · intro workspace preview revision type subject payload source repository scope created schema r h
    simp only [EvidenceRecord.createVerifiedDriver, bind_eq_ok] at h
    obtain ⟨_, -, h⟩ := h
    exact fromDict_createControlled h
  · intro workspace preview revision type kind declared subject payload created source repository
      scope schema verified r h
    exact fromDict_createControlled h
  · intro d r h
    exact fromDict_recomputed h
  · intro d d' r r' h h' hfree hid
    exact (fromDict_recomputed h).agree (fromDict_recomputed h') hfree hid

end
end

section
attribute [local instance] ReferenceLibrary.referenceLibrary PreviewHistories.referenceUnicode

/-- A declared fact, made at two times. -/
theorem sample_made : ∃ made : Value → EvidenceRecord, ∀ created,
    EvidenceRecord.create "workspace-1" "preview-1" 1 "claim" "declared" (some .userAsserted) "plan"
      (.str "fact") created "declared-input" .null .null "evidence-v1" = .ok (made created) ∧
    (made created).createdAt = created ∧
    identityEntries (made created) = identityEntries (made .null) ∧
    content (made created) = content (made .null) ∧
    (made created).evidenceId = (made .null).evidenceId :=
  ⟨fun created => EvidenceRecord.mk _ "workspace-1" "preview-1" 1 "claim" "declared"
    (some .userAsserted) "declared_unverified" "declared-input" .null .null "evidence-v1" "plan"
    (.str "fact") _ created, fun _ => ⟨rfl, rfl, rfl, rfl, rfl⟩⟩

end

/-- The records of one fact, made at two times, are read again and agree. -/
theorem evidence_integrity_sample :
    ∃ (_ : PythonLibrary) (_ : UnicodeLibrary) (_ : IntegerLibrary) (r r' : EvidenceRecord),
      r ≠ r' ∧ EvidenceRecord.fromDict r.toDict = .ok r ∧ EvidenceRecord.fromDict r'.toDict = .ok r' ∧
        Recomputed r ∧ Agree r r' := by
  have hlawful := IssuanceHistories.referenceLibrary_lawful
  have hdigests := AttestationReference.referenceLibrary_digests
  have hspacing := AttestationReference.referenceLibrary_spacing
  have hsample := sample_made
  let _ := ReferenceLibrary.referenceLibrary
  let _ := PreviewHistories.referenceUnicode
  let _ := PreviewHistories.referenceIntegers
  let _ := IssuanceHistories.referenceTimestamps
  obtain ⟨made, hmade⟩ := hsample
  obtain ⟨hfirst, hfirstCreated, -⟩ := hmade .null
  obtain ⟨hsecond, hsecondCreated, hidentity, hcontent, hid⟩ := hmade (.str "2026-01-01T00:00:00Z")
  obtain ⟨hcreate, -, -, hrecomputed, hagree⟩ := evidence_integrity
  have hread := hcreate _ _ _ _ _ _ _ _ _ _ _ _ _ _ hfirst
  have hread' := hcreate _ _ _ _ _ _ _ _ _ _ _ _ _ _ hsecond
  refine ⟨_, _, _, made .null, made (.str "2026-01-01T00:00:00Z"), ?_, hread, hread',
    hrecomputed _ _ hread, hagree _ _ _ _ hread hread' ⟨?_, ?_⟩ hid.symm⟩
  · intro heq
    rw [heq, hsecondCreated] at hfirstCreated
    cases hfirstCreated
  · intro v v' hv hv' _
    rw [hidentity] at hv'
    exact Except.ok.inj (hv.symm.trans hv')
  · intro c c' hc hc' _
    rw [hcontent] at hc'
    exact Except.ok.inj (hc.symm.trans hc')

end DeliverySystem.EvidenceIntegrity

import DeliverySystem.EvidenceRecords
import DeliverySystem.NormalForms
import DeliverySystem.PreviewEligibility

/-!
# Evidence that is read back

A record that was read from a mapping writes a mapping from which it is read
again, and its identity is the digest of where it belongs and what it says. Two
records whose digests do not collide have one identity only when they belong to
one revision of one Preview.
-/
namespace DeliverySystem.EvidenceRoundTrips
open PythonValues CanonicalValues IssueCommands EvidenceRecords NormalForms
set_option autoImplicit false

section
variable [PythonLibrary] [UnicodeLibrary] [IntegerLibrary]

/-- What the identity of a record is the digest of. -/
def identityEntries (r : EvidenceRecord) : Dict :=
  [("domain", .str "delivery-system:evidence-id:v1"),
    ("workspace_identity", .str r.workspaceIdentity), ("preview_id", .str r.previewId),
    ("revision", .int r.revision), ("evidence_type", .str r.evidenceType),
    ("subject_ref", .str r.subjectRef), ("evidence_digest", .str r.evidenceDigest)]

omit [PythonLibrary] [UnicodeLibrary] [IntegerLibrary] in
theorem require_eq_ok {d : Dict} {key : String} {v : Value} (h : Dict.require d key = .ok v) :
    d.get key = v := by
  unfold Dict.require at h
  unfold Dict.get
  cases hlookup : d.lookup key <;> simp_all

omit [UnicodeLibrary] [IntegerLibrary] in
theorem requireText_of_require {d : Dict} {key s : String}
    (h : Dict.require d key = .ok (.str s)) : requireText d key = .ok s := by
  rw [requireText, h]
  rfl

omit [UnicodeLibrary] [IntegerLibrary] in
theorem requireText_eq_ok {d : Dict} {key s : String} (h : requireText d key = .ok s) :
    s = Value.toText (d.get key) := by
  simp only [requireText, bind_eq_ok, pure_eq_ok] at h
  obtain ⟨v, hv, rfl⟩ := h
  rw [require_eq_ok hv]

/-- What a record that is read has of its mapping. -/
structure ReadFrom (d : Dict) (r : EvidenceRecord) : Prop where
  evidenceId : Value.toText (d.get "evidence_id") = r.evidenceId
  sourceKind : Value.toText (d.get "source_kind") = r.sourceKind
  identity : evidenceIdentity r.workspaceIdentity r.previewId r.revision r.evidenceType
    r.subjectRef r.evidenceDigest = .ok r.evidenceId

theorem fromDict_readFrom {d : Dict} {r : EvidenceRecord} (h : EvidenceRecord.fromDict d = .ok r) :
    ReadFrom d r := by
  simp only [EvidenceRecord.fromDict, bind_eq_ok] at h
  obtain ⟨sourceKind, hsource, h⟩ := h
  split_ifs at h with hdeclared
  · simp only [EvidenceRecord.declaredFromDict, EvidenceRecord.createControlled, bind_eq_ok,
      raiseIf_eq_ok, pure_eq_ok, not_or, not_not] at h
    obtain ⟨workspace, -, preview, -, revision, -, type, -, kind, hkind, source, -, subject, -,
      payload, -, identity, -, schema, -, record, ⟨_, -, _, -, _, -, _, -, evidenceDigest, -,
      evidenceId, hid, scope, -, payload', -, rfl⟩, _, ⟨hgiven, -⟩, rfl⟩ := h
    exact ⟨by rw [hgiven]; rfl, (requireText_eq_ok hkind).symm, hid⟩
  · simp only [EvidenceRecord.verifiedFromDict, bind_eq_ok, raiseIf_eq_ok, pure_eq_ok, not_not] at h
    obtain ⟨_, -, _, -, evidenceId, hgiven, workspace, -, preview, -, revision, -, type, -,
      identity, -, scope, -, schema, -, subject, -, raw, -, payload, -, evidenceDigest, -, expected,
      -, _, -, expectedId, hid, _, rfl, rfl⟩ := h
    exact ⟨(requireText_eq_ok hgiven).symm, (requireText_eq_ok hsource).symm, hid⟩

/-- A verified record is read again from what it writes. -/
theorem fromDict_toDict [LawfulSpacing] {d : Dict} {r : EvidenceRecord}
    (h : EvidenceRecord.fromDict d = .ok r) (hdriver : r.sourceKind = "driver") :
    EvidenceRecord.fromDict r.toDict = .ok r := by
  have hread := fromDict_readFrom h
  simp only [EvidenceRecord.fromDict, bind_eq_ok] at h
  obtain ⟨sourceKind, hsource, h⟩ := h
  have hkind : sourceKind = "driver" := by
    rw [requireText_eq_ok hsource, hread.sourceKind, hdriver]
  subst hkind
  rw [if_neg (by decide)] at h
  simp only [EvidenceRecord.verifiedFromDict, bind_eq_ok, raiseIf_eq_ok, pure_eq_ok, not_not,
    not_or] at h
  obtain ⟨_, -, _, -, evidenceId, -, workspace, -, preview, -, revision, -, type, -,
    identity, -, scope, hscope, schema, -, subject, -, raw, -, payload, hpayload, evidenceDigest,
    -, expected, hexpected, _, rfl, expectedId, hid, _, rfl, rfl⟩ := h
  have hscope' := normalize_again _ _ hscope
  have hpayload' := normalize_again _ _ hpayload
  simp only [EvidenceRecord.fromDict, bind_eq_ok]
  refine ⟨"driver", requireText_of_require rfl, ?_⟩
  rw [if_neg (by decide)]
  simp only [EvidenceRecord.verifiedFromDict, bind_eq_ok, raiseIf_eq_ok, pure_eq_ok, not_not,
    not_or]
  exact ⟨(), ⟨by decide, rfl⟩, (), rfl, _, requireText_of_require rfl, _,
    requireText_of_require rfl, _, requireText_of_require rfl, _, rfl, _,
    requireText_of_require rfl, _, requireText_of_require rfl, _, hscope', _,
    requireText_of_require rfl, _, requireText_of_require rfl, _, rfl, _, hpayload', _,
    requireText_of_require rfl, _, hexpected, (), rfl, _, hid, (), rfl, rfl⟩

omit [IntegerLibrary] in
/-- Records of one identity value belong to one revision of one Preview. -/
theorem identityEntries_injective {r r' : EvidenceRecord} {v : Value}
    (h : CanonicalValues.normalize (.dict (identityEntries r)) = .ok v)
    (h' : CanonicalValues.normalize (.dict (identityEntries r')) = .ok v) :
    canonicalText r.previewId = canonicalText r'.previewId ∧ r.revision = r'.revision := by
  have hvalues := PreviewEligibility.normalize_dict_values
    (by rfl : (identityEntries r).map Prod.fst = (identityEntries r').map Prod.fst) h h'
  simp only [identityEntries, List.forall₂_cons, CanonicalValues.normalize, Except.ok.injEq,
    Value.str.injEq, Value.int.injEq] at hvalues
  exact ⟨hvalues.2.2.1, hvalues.2.2.2.1⟩

/-- Evidence that is made one identity of is evidence of one revision, where the
digests of what it is identified by do not collide. -/
def CollisionFree (evidence : List Dict) : Prop :=
  ∀ d ∈ evidence, ∀ d' ∈ evidence, ∀ r r' v v', EvidenceRecord.fromDict d = .ok r →
    EvidenceRecord.fromDict d' = .ok r' →
    CanonicalValues.normalize (.dict (identityEntries r)) = .ok v →
    CanonicalValues.normalize (.dict (identityEntries r')) = .ok v' →
    PythonLibrary.hexdigest v = PythonLibrary.hexdigest v' → v = v'

theorem CollisionFree.scope {evidence : List Dict} (h : CollisionFree evidence) {d d' : Dict}
    (hd : d ∈ evidence) (hd' : d' ∈ evidence) {r r' : EvidenceRecord}
    (hr : EvidenceRecord.fromDict d = .ok r) (hr' : EvidenceRecord.fromDict d' = .ok r')
    (hid : r.evidenceId = r'.evidenceId) :
    canonicalText r.previewId = canonicalText r'.previewId ∧ r.revision = r'.revision := by
  have hidentity := (fromDict_readFrom hr).identity
  have hidentity' := (fromDict_readFrom hr').identity
  simp only [evidenceIdentity, bind_eq_ok, pure_eq_ok] at hidentity hidentity'
  obtain ⟨v, hv, hev⟩ := hidentity
  obtain ⟨v', hv', hev'⟩ := hidentity'
  have hdigest : PythonLibrary.hexdigest v = PythonLibrary.hexdigest v' :=
    (String.append_right_inj "ev_").mp (by rw [hev, hev', hid])
  have hsame := h d hd d' hd' r r' v v' hr hr' hv hv' hdigest
  exact identityEntries_injective hv (hsame ▸ hv')

end
end DeliverySystem.EvidenceRoundTrips

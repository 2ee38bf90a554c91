import DeliverySystem.AuditCommits
import DeliverySystem.PreviewEligibility

/-!
# Accepted Previews

What a save accepts is eligible exactly when its level says so, and what it
stores can be read back: the promotion of a stored Preview is rebuilt from
evidence and a snapshot that were validated before, so that reading raises
nothing but the store's own errors.
-/
namespace DeliverySystem.AcceptedPreviews
open PythonValues CanonicalValues IssueCommands ExecutionContexts
open AuditRecords EvidenceRecords RemoteSnapshots SealedPreviews PreviewEligibility
open PreviewStore AuditCommits
set_option autoImplicit false

theorem raises_of_ok {α : Type} {x : Py α} {a : α} (h : x = .ok a) : RaisesValueErrors x := by
  intro e he
  rw [h] at he
  cases he

/-! ## Digests raise no other errors -/

section
variable [PythonLibrary] [UnicodeLibrary]

mutual
theorem normalize_raises : (v : Value) → RaisesValueErrors (CanonicalValues.normalize v)
  | .null | .bool _ | .int _ | .float _ | .str _ => by
      intro e he
      simp [CanonicalValues.normalize] at he
  | .list items => by
      rw [CanonicalValues.normalize]
      exact .bind (normalizeItems_raises items) fun _ _ => .pure _
  | .tuple items => by
      rw [CanonicalValues.normalize]
      exact .bind (normalizeItems_raises items) fun _ _ => .pure _
  | .dict entries => by
      rw [CanonicalValues.normalize]
      exact .bind (normalizeEntries_raises entries) fun _ _ =>
        .bind (.raiseIf _ _) fun _ _ => .pure _

theorem normalizeItems_raises : (items : List Value) → RaisesValueErrors (normalizeItems items)
  | [] => .pure []
  | item :: rest => by
      rw [normalizeItems]
      exact .bind (normalize_raises item) fun _ _ =>
        .bind (normalizeItems_raises rest) fun _ _ => .pure _

theorem normalizeEntries_raises : (entries : List (String × Value)) →
    RaisesValueErrors (normalizeEntries entries)
  | [] => .pure []
  | (key, value) :: rest => by
      rw [normalizeEntries]
      exact .bind (normalize_raises value) fun _ _ =>
        .bind (normalizeEntries_raises rest) fun _ _ => .pure _
end

theorem canonicalDigest_raises (v : Value) : RaisesValueErrors (canonicalDigest v) := by
  unfold canonicalDigest
  exact .bind (normalize_raises v) fun _ _ => .pure _

theorem normalize_eq_dict {v : Value} {d : Dict} (h : CanonicalValues.normalize v = .ok (.dict d)) :
    (d.map Prod.fst).Nodup := by
  cases v with
  | dict entries =>
      obtain ⟨made, -, hnodup, heq⟩ := normalize_dict_eq_ok.mp h
      obtain rfl := Value.dict.inj heq
      exact ((sortEntries_perm made).map Prod.fst).nodup_iff.mpr hnodup
  | list items | tuple items =>
      simp only [CanonicalValues.normalize, bind_eq_ok, pure_eq_ok] at h
      obtain ⟨made, -, heq⟩ := h
      cases heq
  | _ =>
      simp only [CanonicalValues.normalize, Except.ok.injEq] at h
      cases h

theorem exists_normalize_dict {entries : Dict} {v : Value} (h : CanonicalValues.normalize (.dict entries) = .ok v) :
    ∃ d, v = .dict d := by
  obtain ⟨made, -, -, rfl⟩ := normalize_dict_eq_ok.mp h
  exact ⟨_, rfl⟩

/-- The mappings inside of a canonical payload have distinct keys. -/
theorem toDict_inner {p : SealedPreview} {canonical inner : Dict} {k : String}
    (h : p.toDict = .ok canonical) (hinner : canonical.get k = .dict inner) :
    (inner.map Prod.fst).Nodup := by
  simp only [SealedPreview.toDict, bind_eq_ok, orRaise_eq_ok] at h
  obtain ⟨value, hvalue, hmapping⟩ := h
  obtain ⟨made, hmade, -, rfl⟩ := normalize_dict_eq_ok.mp hvalue
  obtain rfl := Option.some.inj hmapping
  have hmem : (k, .dict inner) ∈ made := by
    have hlookup : (sortEntries made).lookup k = some (.dict inner) := by
      unfold Dict.get at hinner
      cases hd : (sortEntries made).lookup k <;> simp_all
    obtain ⟨pre, post, hsplit, -⟩ := List.lookup_eq_some_iff.mp hlookup
    rw [← (sortEntries_perm made).mem_iff, hsplit]
    simp
  clear hvalue hmapping hinner
  generalize p.entries = entries at hmade
  induction hmade with
  | nil => cases hmem
  | cons he _ ih =>
      rcases List.mem_cons.mp hmem with rfl | hmem
      · exact normalize_eq_dict he.2
      · exact ih hmem

/-! ## Rebuilding a snapshot -/

omit [PythonLibrary] [UnicodeLibrary] in
/-- What is sorted once can be sorted again. -/
theorem sortedItems_again {items sorted : List Value} (h : sortedItems items = .ok sorted) :
    RaisesValueErrors (sortedItems sorted) := by
  unfold sortedItems at h
  cases htexts : allTexts items with
  | some texts =>
      rw [htexts] at h
      obtain rfl := Except.ok.inj h
      have hagain : ∀ texts : List String, allTexts (texts.map .str) = some texts := by
        intro texts
        induction texts with
        | nil => rfl
        | cons s texts ih =>
            unfold allTexts at ih ⊢
            simp [ih, Value.text?]
      exact raises_of_ok (by rw [sortedItems, hagain])
  | none =>
      simp only [htexts] at h
      split_ifs at h with hlength
      obtain rfl := Except.ok.inj h
      exact raises_of_ok (by rw [sortedItems, htexts]; exact if_pos hlength)

variable [DatetimeLibrary] [CasefoldLibrary]

omit [DatetimeLibrary] [CasefoldLibrary] in
theorem digest_raises {issue : Type} {version : SnapshotVersion issue}
    (hversion : ∀ r, RaisesValueErrors (version.toDict r)) (s : Snapshot issue) :
    RaisesValueErrors (s.digest version) := by
  have hentries : RaisesValueErrors (s.entries version) := by
    unfold Snapshot.entries
    exact .bind (normalize_raises _) fun _ _ => .bind (.mapM fun r _ => hversion r) fun _ _ =>
      .bind (.raiseIf _ _) fun _ _ => .pure _
  unfold Snapshot.digest Snapshot.toDict
  refine .bind (.bind hentries fun _ _ => normalize_raises _) fun value hvalue => ?_
  obtain ⟨entries, -, hnormal⟩ := bind_eq_ok.mp hvalue
  obtain ⟨d, rfl⟩ := exists_normalize_dict hnormal
  exact .bind (.of_isSome rfl _) fun _ _ => canonicalDigest_raises _

omit [DatetimeLibrary] [CasefoldLibrary] in
theorem reloadedSnapshot_raises {issue : Type} {version : SnapshotVersion issue} {remote : Dict}
    {snapshot : Snapshot issue} (hversion : ∀ r, RaisesValueErrors (version.toDict r))
    (h : Snapshot.fromRecords version (reloadedRecords remote) = .ok snapshot)
    (record : EvidenceRecord) : RaisesValueErrors (reloadedSnapshot version remote record) := by
  unfold reloadedSnapshot
  refine .bind (raises_of_ok h) fun made hmade => ?_
  obtain rfl : snapshot = made := Except.ok.inj (h.symm.trans hmade)
  have hsorted : ∃ items, sortedItems items = .ok snapshot.evidenceIds := by
    simp only [Snapshot.fromRecords, bind_eq_ok, pure_eq_ok] at h
    obtain ⟨_, -, _, -, _, -, _, -, _, -, _, -, _, -, _, -, _, -, _, -, _, -, items, -, _, -, _, -,
      _, -, _, -, evidenceIds, hsorted, rfl⟩ := h
    exact ⟨_, hsorted⟩
  obtain ⟨items, hsorted⟩ := hsorted
  exact .bind (sortedItems_again hsorted) fun _ _ => .bind (.raiseIf _ _) fun _ _ =>
    digest_raises hversion _

/-! ## What a save accepts can be read back -/

/-- What reading back asks of a canonical payload. -/
structure Reloadable (canonical : Dict) : Prop where
  evidence : ∃ items, getOr canonical "evidence_ids" (.list []) = .list items
  snapshot : ∀ remote, canonical.get "remote_snapshot" = .dict remote →
    canonical.get "preview_level" ≠ .str "Conceptual" →
    if isVersion2 canonical then
      ∃ snapshot, Snapshot.fromRecords typedRemoteSnapshotV2 (reloadedRecords remote) = .ok snapshot
    else ∃ snapshot, Snapshot.fromRecords typedRemoteSnapshot (reloadedRecords remote) = .ok snapshot

omit [PythonLibrary] [UnicodeLibrary] [DatetimeLibrary] [CasefoldLibrary] in
theorem getOr_of_get {d : Dict} {k : String} {v : Value} (h : d.get k = v) (hv : v ≠ .null)
    (default : Value) : getOr d k default = v := by
  unfold Dict.get at h
  unfold getOr
  cases hlookup : d.lookup k with
  | none =>
      rw [hlookup, Option.getD_none] at h
      exact absurd h.symm hv
  | some value => rwa [hlookup] at h

omit [PythonLibrary] [UnicodeLibrary] [DatetimeLibrary] [CasefoldLibrary] in
theorem sealedPreviewVersion_spec {given : Dict} {bindings : Option (List Dict)}
    (h : sealedPreviewVersion given = .ok bindings) :
    bindings.isSome ↔ given.get "canonical_version" = .str "2" := by
  unfold sealedPreviewVersion at h
  split at h
  · rename_i hnull
    simp only [bind_eq_ok, pure_eq_ok] at h
    obtain ⟨_, -, rfl⟩ := h
    simp [hnull]
  · rename_i htwo
    simp only [bind_eq_ok, pure_eq_ok] at h
    obtain ⟨_, -, made, -, rfl⟩ := h
    simp [htwo]
  · cases h

omit [PythonLibrary] [UnicodeLibrary] [DatetimeLibrary] [CasefoldLibrary] in
/-- The snapshot of a Preview has the version of the Preview. -/
theorem checkSnapshotVersion_spec {bindings : Option (List Dict)} {remote : Dict} {digest : Value}
    (h : checkSnapshotVersion bindings (some remote) digest = .ok ()) :
    bindings.isSome ↔ remote.get "schema_version" = .str "remote-snapshot-v2" := by
  simp only [checkSnapshotVersion, bind_eq_ok, raiseIf_eq_ok, Option.isSome_some, true_and,
    Option.map_some, Option.getD_some, not_and, not_not] at h
  obtain ⟨_, hfirst, _, hsecond, -⟩ := h
  cases bindings with
  | none => simpa using hfirst
  | some made => simpa using hsecond

omit [PythonLibrary] [UnicodeLibrary] [DatetimeLibrary] [CasefoldLibrary] in
theorem optional?_eq_some {α : Type} {read : Value → Option α} {value : Value} {x : Option α}
    (h : optional? read value = some x) : (value = .null ∧ x = none) ∨ ∃ a, read value = some a ∧
      x = some a := by
  unfold optional? at h
  split at h
  · exact .inl ⟨rfl, (Option.some.inj h).symm⟩
  · obtain ⟨a, ha, rfl⟩ := Option.map_eq_some_iff.mp h
    exact .inr ⟨a, ha, rfl⟩

variable [IntegerLibrary]

theorem validatePreviewPayload_reloadable {given canonical : Dict} {b : PreviewBinding}
    {evidence : List Dict} {workspace : String} {promotion : Option RuntimePromotion}
    (h : validatePreviewPayload given b evidence workspace promotion = .ok canonical) :
    Reloadable canonical := by
  simp only [validatePreviewPayload, bind_eq_ok, raiseIf_eq_ok, orRaise_eq_ok, pure_eq_ok,
    not_not] at h
  obtain ⟨_, -, parsed, hparsed, canonical, htoDict, _, hsame, _, -, _, -, _, hinvariants,
    _, -, _, -, _, -, _, -, _, -, _, -, _, -, _, -, _, -, _, hsnapshot, _, -, _, -, _, -,
    rfl⟩ := h
  have hget := sortKeys_get (toDict_nodup htoDict) hsame
  simp only [SealedPreview.fromDict, bind_eq_ok, orRaise_eq_ok, pure_eq_ok] at hparsed
  obtain ⟨bindings, hbindings, _, -, _, -, _, -, _, -, _, -, _, -, _, -, _, -, _, -, _, -,
    ids, hids, _, -, _, -, _, -, _, -, _, -, _, -, _, -, remoteSnapshot, hremoteSnapshot, _, hversion,
    _, -, -⟩ := hparsed
  refine ⟨?_, fun remote hremote hlevel => ?_⟩
  · have hlisted : sortKeys (Dict.get canonical "evidence_ids") = sortKeys (.list (ids.map .str)) := by
      rw [hget, textList?_eq hids]
      rfl
    obtain ⟨texts, htexts⟩ := sortKeys_eq_list hlisted
    exact ⟨texts, getOr_of_get htexts Value.noConfusion _⟩
  · -- the snapshot that the save built from the canonical payload
    have hmade : ∃ d, snapshotDigest (Dict.get remote "schema_version")
        (sealedSnapshotRecords remote) = .ok d := by
      simp only [checkRemoteSnapshot, hremote, bind_eq_ok] at hsnapshot
      obtain ⟨_, -, d, hd, -⟩ := hsnapshot
      exact ⟨d, hd⟩
    have hrepository : ∃ repository, Dict.get remote "repository_identity" = .str repository := by
      simp only [validateSealedPreviewInvariants, bind_eq_ok, if_neg hlevel, orRaise_eq_ok,
        raiseIf_eq_ok, hremote, mapping?_eq_some, Value.dict.injEq, not_not] at hinvariants
      obtain ⟨_, -, _, -, _, -, _, -, repository, -, _, rfl, _, -, _, hidentity, -⟩ := hinvariants
      exact ⟨repository, hidentity⟩
    obtain ⟨repository, hrepository⟩ := hrepository
    have hrecords : reloadedRecords remote = sealedSnapshotRecords remote := by
      simp only [reloadedRecords, sealedSnapshotRecords, hrepository,
        getOr_of_get hrepository Value.noConfusion]
    obtain ⟨r, hr⟩ : ∃ r, given.get "remote_snapshot" = .dict r := by
      have hsorted := hget "remote_snapshot"
      rw [hremote] at hsorted
      cases hgiven : given.get "remote_snapshot" <;> simp [hgiven, sortKeys] at hsorted ⊢
    have hschema : Dict.get remote "schema_version" = .str "remote-snapshot-v2" ↔
        Dict.get r "schema_version" = .str "remote-snapshot-v2" := by
      have hboth : sortKeys (.dict remote) = sortKeys (.dict r) := by
        rw [← hremote, ← hr, hget]
      have hinner := sortKeys_get (toDict_inner htoDict hremote) hboth "schema_version"
      rw [← sortKeys_eq_str, hinner, sortKeys_eq_str]
    have hsealed : remoteSnapshot = some r := by
      rcases optional?_eq_some hremoteSnapshot with ⟨hnull, -⟩ | ⟨a, ha, rfl⟩
      · rw [hr] at hnull
        cases hnull
      · rw [hr] at ha
        rw [← Option.some.inj ha]
    subst hsealed
    have hversion2 : isVersion2 canonical ↔ Dict.get r "schema_version" = .str "remote-snapshot-v2" := by
      rw [← checkSnapshotVersion_spec hversion, sealedPreviewVersion_spec hbindings, isVersion2,
        ← sortKeys_eq_str, hget, sortKeys_eq_str]
    rw [hrecords]
    obtain ⟨d, hd⟩ := hmade
    unfold snapshotDigest at hd
    by_cases htwo : isVersion2 canonical
    · rw [if_pos (hschema.mpr (hversion2.mp htwo)), bind_eq_ok] at hd
      rw [if_pos htwo]
      exact ⟨hd.choose, hd.choose_spec.1⟩
    · rw [if_neg fun heq => htwo (hversion2.mpr (hschema.mp heq)), bind_eq_ok] at hd
      rw [if_neg htwo]
      exact ⟨hd.choose, hd.choose_spec.1⟩

theorem validatePreviewPayload_evidence {given canonical : Dict} {b : PreviewBinding}
    {evidence : List Dict} {workspace : String} {promotion : Option RuntimePromotion}
    (h : validatePreviewPayload given b evidence workspace promotion = .ok canonical) :
    ∀ record ∈ evidence, checkEvidence b workspace promotion record = .ok () := by
  simp only [validatePreviewPayload, bind_eq_ok] at h
  obtain ⟨_, -, _, -, _, -, _, -, _, -, _, -, _, -, _, -, _, -, _, -, _, -, _, -, _, -, _, -, _, -,
    _, -, _, -, _, hevidence, -⟩ := h
  simp only [checkEvidenceRecords, bind_eq_ok] at hevidence
  obtain ⟨_, -, _, -, _, -, _, -, hall⟩ := hevidence
  exact forM_eq_ok.mp hall

/-- The canonical payload of an accepted save. -/
structure Accepted (canonical : Dict) : Prop where
  validated : Validated canonical
  reloadable : Reloadable canonical
  level : ∃ level, runtimePreviewLevel canonical = .ok level ∧
    canonical.get "preview_level" = .str level.text

theorem acceptPreview_accepted {workspace : String} {promotion : Option RuntimePromotion}
    {a : SaveArguments} {canonical : Dict} (h : acceptPreview workspace promotion a = .ok canonical) :
    Accepted canonical := by
  simp only [acceptPreview, bind_eq_ok, raiseIf_eq_ok, pure_eq_ok, not_not] at h
  obtain ⟨_, -, _, -, canonical, hvalid, level, hlevel, _, htext, _, -, rfl⟩ := h
  exact ⟨validatePreviewPayload_validated hvalid, validatePreviewPayload_reloadable hvalid,
    level, hlevel, htext⟩

theorem acceptPreview_evidence {workspace : String} {promotion : Option RuntimePromotion}
    {a : SaveArguments} {canonical : Dict} (h : acceptPreview workspace promotion a = .ok canonical) :
    ∀ record ∈ a.evidenceRecords, checkEvidence a.binding workspace promotion record = .ok () := by
  simp only [acceptPreview, bind_eq_ok] at h
  obtain ⟨_, -, _, -, _, hvalid, -⟩ := h
  exact validatePreviewPayload_evidence hvalid

omit [IntegerLibrary] in
/-- The level of an accepted Preview, its eligibility for approval, and what the
sealed content says of its operations. -/
theorem Accepted.eligible_iff {canonical : Dict} (h : Accepted canonical) :
    (canonical.get "preview_level" = .str "WriteEligible" ↔ Eligible canonical) ∧
      (previewIsApprovalEligible canonical = .ok true ↔ Eligible canonical) := by
  obtain ⟨level, hlevel, htext⟩ := h.level
  have hwrite : level = .writeEligible ↔ Eligible canonical := by
    rw [← runtimePreviewLevel_writeEligible h.validated, hlevel, Except.ok.injEq]
  refine ⟨?_, (previewIsApprovalEligible_iff h.validated hlevel htext).trans hwrite⟩
  rw [← hwrite, htext, Value.str.injEq]
  cases level <;> decide

/-! ## Reading a stored Preview -/

/-- Evidence that a save has checked. -/
def Checked (workspace : String) (record : Dict) : Prop :=
  ∃ b promotion, checkEvidence b workspace promotion record = .ok ()

omit [DatetimeLibrary] [CasefoldLibrary] in
theorem Checked.fromDict {workspace : String} {record : Dict} (h : Checked workspace record) :
    ∃ parsed, EvidenceRecord.fromDict record = .ok parsed := by
  obtain ⟨b, promotion, h⟩ := h
  simp only [checkEvidence, bind_eq_ok] at h
  obtain ⟨_, -, _, -, parsed, hparsed, -⟩ := h
  exact ⟨parsed, hparsed⟩

theorem reloadPromotion_raises {workspace : String} {canonical : Dict} {evidence : List Dict}
    (trustContext : Option TrustContext) (hcanonical : Reloadable canonical)
    (hevidence : ∀ record ∈ evidence, Checked workspace record) :
    RaisesValueErrors (reloadPromotion trustContext canonical evidence) := by
  unfold reloadPromotion
  by_cases hlevel : repositoryLevel canonical
  · rw [if_pos hlevel]
    refine .bind ?_ fun trust _ => .bind ?_ fun driver hdriver => ?_
    · split <;> exact .orRaise _ _
    · unfold driverEvidence
      split
      · exact .pure _
      · exact .valueError _
    · have hmem : driver ∈ evidence := by
        unfold driverEvidence at hdriver
        split at hdriver
        · rename_i record hfilter
          obtain rfl := Except.ok.inj hdriver
          exact List.mem_of_mem_filter (hfilter ▸ List.mem_singleton_self record)
        · cases hdriver
      obtain ⟨parsed, hparsed⟩ := (hevidence driver hmem).fromDict
      refine .bind (raises_of_ok hparsed) fun record _ => .bind (.raiseIf _ _) fun _ _ =>
        .bind (.orRaise _ _) fun remote hremote => ?_
      rw [orRaise_eq_ok, mapping?_eq_some] at hremote
      have hsnapshot := hcanonical.snapshot remote hremote (by
        rcases hlevel with h | h <;> rw [h] <;> decide)
      obtain ⟨named, hnamed⟩ := hcanonical.evidence
      refine .bind ?_ fun _ _ => .bind ?_ fun _ _ => .bind (canonicalDigest_raises _) fun _ _ =>
        .bind (canonicalDigest_raises _) fun _ _ => .bind (.raiseIf _ _) fun _ _ => .pure _
      · unfold reloadedSnapshotDigest
        split_ifs at hsnapshot ⊢
        · exact reloadedSnapshot_raises (fun _ => normalize_raises _) hsnapshot.choose_spec _
        · exact reloadedSnapshot_raises (fun _ => .pure _) hsnapshot.choose_spec _
      · unfold checkNamedEvidence
        split_ifs
        · exact .pure _
        · rw [hnamed]
          exact .bind (.pure _) fun _ _ => .raiseIf _ _
  · rw [if_neg hlevel]
    exact .pure _

end
end DeliverySystem.AcceptedPreviews

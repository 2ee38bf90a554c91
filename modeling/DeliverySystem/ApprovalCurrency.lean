import DeliverySystem.StoredPreviews

/-!
# The currency of approvals

An approval is recorded only against the latest revision of its Preview and an
active audit of it. Whether it is current is computed anew each time; once a
higher revision is stored or its audit has left `Active`, no later state finds
it current again, because revisions only rise and audits only move forward.
-/
namespace DeliverySystem.ApprovalCurrency
open PythonValues CanonicalValues KeyedRows EventHistory AuditRecords EvidenceRecords RemoteSnapshots
open SealedPreviews PreviewEligibility PreviewStore AuditCommits AcceptedPreviews
open PreviewHistories StoredPreviews
set_option autoImplicit false

section
variable [DatetimeLibrary] [PythonLibrary] [UnicodeLibrary] [IntegerLibrary] [CasefoldLibrary]

/-- What an approval is bound to when it is recorded: an active, passed audit of
the stored Preview, and the latest revision. -/
structure BoundTo (workspace : String) (approval : ApprovalRecord) (a : AuditRecord)
    (saved : SavedPreview) (s : PreviewTables) : Prop where
  audit : s.audits.latest approval.auditId = some a
  active : a.status = .active
  passed : a.result = .passed
  scope : a.auditScope = "WriteEligible"
  digestValid : a.verifyDigest = true
  workspace : a.workspaceIdentity = workspace
  stored : s.previews.lookup (approval.previewId, approval.revision) = some saved
  latest : s.previews.latestRevision approval.previewId = some approval.revision
  identity : approval.previewId = a.previewId ∧ approval.revision = a.revision ∧
    approval.auditDigest = a.auditDigest
  sealedDigest : saved.canonicalPayload.get "sealed_preview_digest" = .str a.sealedPreviewDigest
  planDigest : saved.canonicalPayload.get "plan_digest" = .str a.planDigest ∧
    approval.planDigest = a.planDigest
  operationSetDigest :
    saved.canonicalPayload.get "operation_set_digest" = .str a.operationSetDigest ∧
      approval.operationSetDigest = a.operationSetDigest
  remoteSnapshotDigest :
    saved.canonicalPayload.get "remote_snapshot_digest" = Value.textOrNone a.remoteSnapshotDigest ∧
      some approval.remoteSnapshotDigest = a.remoteSnapshotDigest
  repository : saved.canonicalPayload.get "repository_identity" =
    Value.textOrNone approval.repositoryIdentity
  eligible : Eligible saved.canonicalPayload

/-- A higher revision is stored, or the audit is no longer active. -/
inductive Revoked (s : PreviewTables) (approval : ApprovalRecord) : Prop where
  | replaced {latest : Int} (h : s.previews.latestRevision approval.previewId = some latest)
      (higher : approval.revision < latest)
  | inactive {a : AuditRecord} (h : s.audits.latest approval.auditId = some a)
      (status : a.status ≠ .active)

variable {workspace : String} {s s' : PreviewTables}

omit [IntegerLibrary] in
theorem approvedAgainst_boundTo {approval : ApprovalRecord} {a : AuditRecord}
    {saved : SavedPreview} (h : ApprovedAgainst workspace approval a saved s)
    (haccepted : Accepted saved.canonicalPayload) : BoundTo workspace approval a saved s := by
  have hcurrent := h.current
  unfold validateApprovalAgainstCurrentPreview at hcurrent
  split_ifs at hcurrent with hbound
  · obtain ⟨hagainst, hverify, -, hactive, hpassed, hscope, hworkspace, -, -, -, hsealed, hplan,
      hoperations, hremote, hrepository⟩ := hbound
    simp only [ApprovalRecord.validateAgainst, Bool.and_eq_true, decide_eq_true_eq] at hagainst
    obtain ⟨⟨⟨⟨⟨⟨-, hdigest⟩, hpreview⟩, hrevision⟩, hplan'⟩, hremote'⟩, hoperations'⟩ := hagainst
    exact ⟨h.audit, hactive, hpassed, hscope, hverify, hworkspace, h.stored, h.latest,
      ⟨hpreview, hrevision, hdigest⟩, hsealed, ⟨hplan, hplan'⟩, ⟨hoperations, hoperations'⟩,
      ⟨hremote, hremote'⟩, hrepository, haccepted.eligible_iff.2.mp hcurrent⟩
  · cases hcurrent

/-- A decision that is negative, or fails with an error that counts as negative. -/
def Denies (x : Py Bool) : Prop := x = .ok false ∨ ∃ code, x = .error (.valueError code)

omit [DatetimeLibrary] [PythonLibrary] [UnicodeLibrary] [IntegerLibrary] [CasefoldLibrary] in
theorem Denies.bind {α : Type} {x : Py α} {f : α → Py Bool} (hx : RaisesValueErrors x)
    (hf : ∀ a, x = .ok a → Denies (f a)) : Denies (x >>= f) := by
  cases hresult : x with
  | error e =>
      obtain ⟨code, rfl⟩ := hx e hresult
      exact .inr ⟨code, rfl⟩
  | ok a => exact hf a hresult

omit [IntegerLibrary] [CasefoldLibrary] in
/-- An audit that is not active confirms no approval. -/
theorem not_current_of_inactive {approval : ApprovalRecord} {a : AuditRecord}
    (h : a.status ≠ .active) (canonical : Dict) (asked : String) :
    validateApprovalAgainstCurrentPreview approval a canonical asked = .ok false := by
  unfold validateApprovalAgainstCurrentPreview
  rw [if_neg]
  rintro ⟨-, -, -, hactive, -⟩
  exact h hactive

/-- A revoked approval is not current, whatever the store is opened with. -/
theorem Revoked.not_current [SqliteLibrary] {approval : ApprovalRecord}
    (h : Revoked s approval) (hs : Contents workspace s) (context : StoreContext) :
    validateApprovalCurrent context approval s = .ok false := by
  have hreads : Denies (approvalCurrentReads context approval s) := by
    unfold approvalCurrentReads
    refine .bind (.bind (.raiseIf _ _) fun _ _ => .orRaise _ _) fun a ha =>
      .bind (getPreview_raises hs _ _ _) fun preview hpreview => ?_
    simp only [getAudit, bind_eq_ok, orRaise_eq_ok] at ha
    obtain ⟨_, -, hlatestAudit⟩ := ha
    split_ifs with hrevision
    · exact .inl rfl
    · rw [not_not] at hrevision
      cases h with
      | inactive h status =>
          rw [hlatestAudit] at h
          obtain rfl := Option.some.inj h
          exact .inl (not_current_of_inactive status _ _)
      | @replaced latest h higher =>
          -- the Preview that was read is the latest one
          simp only [getPreview, getPreviewRevision, bind_eq_ok, orRaise_eq_ok] at hpreview
          obtain ⟨_, -, saved, hsaved, hpreview⟩ := hpreview
          obtain ⟨r, hr, hlookup⟩ := Rows.latestRecord_eq_some.mp hsaved
          obtain rfl : latest = r := Option.some.inj (h.symm.trans hr)
          have hsame : saved = preview := by
            split_ifs at hpreview
            · simp only [bind_eq_ok, pure_eq_ok] at hpreview
              obtain ⟨_, -, _, -, _, -, _, -, rfl⟩ := hpreview
              rfl
            · exact pure_eq_ok.mp hpreview
          have hstored := (hs.previews _ _ saved hlookup).2.1
          rw [hsame, hrevision] at hstored
          exact absurd hstored higher.ne
  unfold validateApprovalCurrent
  split_ifs with hstructural
  · rfl
  · rcases hreads with hfalse | ⟨code, herror⟩
    · rw [hfalse]
    · rw [herror]

/-- Revocation is permanent. -/
theorem Revoked.later [SqliteLibrary] {approval : ApprovalRecord} (h : Revoked s approval)
    (hrun : Run workspace s s') : Revoked s' approval := by
  cases h with
  | @replaced latest h higher =>
      obtain ⟨saved, hsaved⟩ := (Rows.latestRevision_eq_some.mp h).1
      obtain ⟨latest', hlatest', hle⟩ :=
        Rows.exists_latestRevision ((run_grows hrun).previews _ _ hsaved)
      exact .replaced hlatest' (higher.trans_le hle)
  | inactive h status =>
      obtain ⟨a', ha', hstatus⟩ := hrun.inactive h status
      exact .inactive ha' hstatus

end

/-- An approval is recorded against the current state only, and once revoked it
is current in no later state. -/
theorem approval_current_never_revives [DatetimeLibrary] [PythonLibrary] [UnicodeLibrary]
    [IntegerLibrary] [CasefoldLibrary] [SqliteLibrary] {workspace : String} {s : PreviewTables}
    (h : Reachable workspace s) :
    (∀ context approval s', StoreContext.workspaceIdentity context = workspace →
        recordApproval context approval s = .ok s' →
        ∃ a saved, BoundTo workspace approval a saved s) ∧
      ∀ approval, Revoked s approval → ∀ s', Run workspace s s' → ∀ context,
        validateApprovalCurrent context approval s' = .ok false := by
  constructor
  · rintro context approval s' rfl hrecord
    obtain ⟨a, saved, happroved, -⟩ := recordApproval_effect hrecord
    exact ⟨a, saved, approvedAgainst_boundTo happroved
      ((reachable_contents h).accepted happroved.stored)⟩
  · intro approval hrevoked s' hrun context
    exact (hrevoked.later hrun).not_current (run_contents hrun (reachable_contents h)) context

/-- An approval of an audit that was made stale is current in no later state. -/
theorem approval_current_never_revives_sample :
    ∃ (_ : DatetimeLibrary) (_ : PythonLibrary) (_ : UnicodeLibrary) (_ : IntegerLibrary)
      (_ : CasefoldLibrary) (_ : SqliteLibrary),
      (∀ context approval s', StoreContext.workspaceIdentity context = "workspace-1" →
          recordApproval context approval sampleTables = .ok s' →
          ∃ a saved, BoundTo "workspace-1" approval a saved sampleTables) ∧
        ∀ approval, Revoked sampleTables approval → ∀ s', Run "workspace-1" sampleTables s' →
          ∀ context, validateApprovalCurrent context approval s' = .ok false := by
  let _ := referenceDatetimes
  let _ := ReferenceLibrary.referenceLibrary
  let _ := referenceUnicode
  let _ := referenceIntegers
  let _ := referenceCasefold
  let _ := referenceSqlite
  exact ⟨_, _, _, _, _, _, approval_current_never_revives sample_reachable⟩

end DeliverySystem.ApprovalCurrency

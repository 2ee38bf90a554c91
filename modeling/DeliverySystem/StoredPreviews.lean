import DeliverySystem.AcceptedPreviews
import DeliverySystem.PreviewHistories

/-!
# Stored Previews

Every row of a reachable store comes from a save that was accepted: a Preview
from its arguments, a piece of evidence from its check, a row of the lineage
from an item of the Preview it belongs to. What was stored stays as it is.
-/
namespace DeliverySystem.StoredPreviews
open PythonValues CanonicalValues IssueCommands ExecutionContexts KeyedRows EventHistory
open AuditRecords EvidenceRecords RemoteSnapshots SealedPreviews PreviewEligibility
open PreviewStore AuditCommits AcceptedPreviews PreviewHistories
open Relation
set_option autoImplicit false

section
variable [DatetimeLibrary] [PythonLibrary] [UnicodeLibrary] [IntegerLibrary] [CasefoldLibrary]
  [SqliteLibrary]

/-- The save that a Preview comes from, and the lineage of its items. -/
structure StoredBy (workspace : String) (promotion : Option RuntimePromotion) (a : SaveArguments)
    (saved : SavedPreview) (s : PreviewTables) : Prop where
  accepted : acceptPreview workspace promotion a = .ok saved.canonicalPayload
  requestId : saved.requestId = a.binding.requestId
  previewId : saved.previewId = a.binding.previewId
  revision : saved.revision = a.binding.revision
  lineage : ∃ rows, a.items.mapM (lineageRow a.binding) = some rows ∧
    ∀ row ∈ rows, s.lineage.lookup row.1 = some row.2

structure Contents (workspace : String) (s : PreviewTables) : Prop where
  previews : ∀ previewId revision saved, s.previews.lookup (previewId, revision) = some saved →
    saved.previewId = previewId ∧ saved.revision = revision ∧
      ∃ promotion a, StoredBy workspace promotion a saved s
  evidence : ∀ k record, s.evidence.lookup k = some record → Checked workspace record

/-- Rows that are there stay there. -/
structure Grows (s s' : PreviewTables) : Prop where
  previews : ∀ k saved, s.previews.lookup k = some saved → s'.previews.lookup k = some saved
  lineage : ∀ k itemId, s.lineage.lookup k = some itemId → s'.lineage.lookup k = some itemId

variable {workspace : String} {s s' : PreviewTables}

omit [PythonLibrary] [UnicodeLibrary] [IntegerLibrary] [CasefoldLibrary] [SqliteLibrary] in
theorem Grows.refl (s : PreviewTables) : Grows s s := ⟨fun _ _ h => h, fun _ _ h => h⟩

omit [PythonLibrary] [UnicodeLibrary] [IntegerLibrary] [CasefoldLibrary] [SqliteLibrary] in
theorem Grows.trans {s'' : PreviewTables} (h : Grows s s') (h' : Grows s' s'') : Grows s s'' :=
  ⟨fun k saved hk => h'.previews k saved (h.previews k saved hk),
    fun k itemId hk => h'.lineage k itemId (h.lineage k itemId hk)⟩

theorem saved_grows {canonical : Dict} {promotion : Option RuntimePromotion} {a : SaveArguments}
    (h : Saved workspace canonical promotion a s s') : Grows s s' := by
  obtain ⟨rows, -, hrows⟩ := h.lineage
  constructor
  · intro k saved hk
    rw [Rows.lookup_insert h.previews, if_neg, hk]
    rintro rfl
    rw [(Rows.insert_eq_some h.previews).1] at hk
    cases hk
  · exact fun k itemId hk => (Rows.lookup_insertAll hrows).mpr (.inl hk)

theorem effect_grows (h : Effect workspace s s') : Grows s s' := by
  cases h with
  | saved h => exact saved_grows h
  | unchanged | recorded | committed | transitioned | approved => exact ⟨fun _ _ h => h, fun _ _ h => h⟩

theorem run_grows (h : Run workspace s s') : Grows s s' := by
  induction h with
  | refl => exact .refl _
  | tail _ hstep ih => exact ih.trans (effect_grows hstep.effect)

theorem StoredBy.grows {promotion : Option RuntimePromotion} {a : SaveArguments}
    {saved : SavedPreview} (h : StoredBy workspace promotion a saved s) (hgrows : Grows s s') :
    StoredBy workspace promotion a saved s' := by
  obtain ⟨rows, hrows, hlookup⟩ := h.lineage
  exact ⟨h.accepted, h.requestId, h.previewId, h.revision, rows, hrows,
    fun row hrow => hgrows.lineage _ _ (hlookup row hrow)⟩

theorem Contents.saved {canonical : Dict} {promotion : Option RuntimePromotion}
    {a : SaveArguments} (hs : Contents workspace s)
    (h : Saved workspace canonical promotion a s s') : Contents workspace s' := by
  constructor
  · intro previewId revision saved hsaved
    rw [Rows.lookup_insert h.previews] at hsaved
    split_ifs at hsaved with hkey
    · obtain ⟨rfl, rfl⟩ := Prod.mk.inj hkey
      obtain rfl := Option.some.inj hsaved
      obtain ⟨rows, hrows, hinsert⟩ := h.lineage
      exact ⟨rfl, rfl, promotion, a, h.accepted, rfl, rfl, rfl, rows, hrows,
        fun row hrow => (Rows.lookup_insertAll hinsert).mpr (.inr hrow)⟩
    · obtain ⟨hid, hrevision, promotion', a', hstored⟩ :=
        hs.previews previewId revision saved hsaved
      exact ⟨hid, hrevision, promotion', a', hstored.grows (saved_grows h)⟩
  · intro k record hrecord
    rcases (Rows.lookup_insertAll h.evidence).mp hrecord with hbefore | hnew
    · exact hs.evidence k record hbefore
    · obtain ⟨given, hgiven, heq⟩ := List.mem_map.mp hnew
      obtain ⟨-, rfl⟩ := Prod.mk.inj heq
      exact ⟨a.binding, promotion, acceptPreview_evidence h.accepted given hgiven⟩

theorem Contents.effect (hs : Contents workspace s) (h : Effect workspace s s') :
    Contents workspace s' := by
  cases h with
  | saved h => exact hs.saved h
  | unchanged | recorded | committed | transitioned | approved =>
      refine ⟨fun previewId revision saved hsaved => ?_, hs.evidence⟩
      obtain ⟨hid, hrevision, promotion, a, hstored⟩ := hs.previews previewId revision saved hsaved
      exact ⟨hid, hrevision, promotion, a, hstored.grows ⟨fun _ _ h => h, fun _ _ h => h⟩⟩

theorem run_contents (h : Run workspace s s') (hs : Contents workspace s) :
    Contents workspace s' := by
  induction h with
  | refl => exact hs
  | tail _ hstep ih => exact ih.effect hstep.effect

theorem reachable_contents (h : Reachable workspace s) : Contents workspace s := by
  refine run_contents h ⟨fun previewId revision saved hsaved => ?_, fun k record hrecord => ?_⟩
  · cases hsaved
  · cases hrecord

/-- What a reachable store keeps was accepted. -/
theorem Contents.accepted (hs : Contents workspace s) {k : String × Int} {saved : SavedPreview}
    (h : s.previews.lookup k = some saved) : Accepted saved.canonicalPayload := by
  obtain ⟨-, -, promotion, a, hstored⟩ := hs.previews k.1 k.2 saved h
  exact acceptPreview_accepted hstored.accepted

/-! ## Reading raises only the store's errors -/

theorem readEvidenceRecords_checked (hs : Contents workspace s) {ids : List String}
    {revision : Option Int} {evidence : List Dict}
    (h : readEvidenceRecords s ids revision = .ok evidence) :
    ∀ record ∈ evidence, Checked workspace record := by
  intro record hrecord
  obtain ⟨id, -, hid⟩ := exists_of_mem_mapM h hrecord
  rw [orRaise_eq_ok] at hid
  cases revision with
  | none =>
      obtain ⟨r, -, hr⟩ := Rows.latestRecord_eq_some.mp hid
      exact hs.evidence _ record hr
  | some revision => exact hs.evidence _ record hid

theorem getPreview_raises (hs : Contents workspace s) (context : StoreContext)
    (asked previewId : String) : RaisesValueErrors (getPreview context s asked previewId) := by
  unfold getPreview getPreviewRevision
  refine .bind (.raiseIf _ _) fun _ _ => .bind (.orRaise _ _) fun saved hsaved => ?_
  obtain ⟨r, -, hr⟩ := Rows.latestRecord_eq_some.mp (orRaise_eq_ok.mp hsaved)
  have haccepted := hs.accepted hr
  obtain ⟨named, hnamed⟩ := haccepted.reloadable.evidence
  split_ifs
  · refine .bind (.raiseIf _ _) fun _ _ => .bind ?_ fun ids _ => .bind ?_ fun evidence hevidence =>
      .bind ?_ fun _ _ => .pure _
    · rw [namedEvidence, hnamed]
      exact .bind (.pure _) fun _ _ => .pure _
    · exact .mapM fun _ _ => .orRaise _ _
    · exact reloadPromotion_raises _ haccepted.reloadable (readEvidenceRecords_checked hs hevidence)
  · exact .pure _

end
end DeliverySystem.StoredPreviews

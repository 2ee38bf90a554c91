import DeliverySystem.AttestationReference
import DeliverySystem.BarePlans
import DeliverySystem.PlannedRevisions

/-!
# Histories of planned Previews

A store whose Previews all come from planners, however many of them work on it
at a time: the revisions of a Preview follow one another without a gap, and an
item keeps its identity from one to the next. The identities within a revision
differ as long as no two of its items continue the same item.
-/
namespace DeliverySystem.PlannedHistories
open PythonValues CanonicalValues IssueCommands KeyedRows RemoteSnapshots SealedPreviews
open PreviewStore AuditCommits AuditRecords EvidenceRecords AcceptedPreviews PreviewHistories
open StoredPreviews FallibleRuns SharedStates Planning PlannedRevisions
open Relation
set_option autoImplicit false

section
variable [PythonLibrary] [UnicodeLibrary] [IntegerLibrary] [DatetimeLibrary] [CasefoldLibrary]
  [SqliteLibrary]

/-! ## The system -/

/-- What `uuid4` gives: no two tokens are the same, and none was used before. -/
structure Unused (tokens : Tokens) (s : PreviewTables) : Prop where
  injective : Function.Injective tokens.item
  items : ∀ k saved, s.previews.lookup k = some saved → ∀ item ∈ itemsOf saved.canonicalPayload,
    ∀ i, item.get "item_id" ≠ .str ("item-" ++ tokens.item i)

/-- The transactions that save no Preview. -/
def Keeping : Transaction → Prop
  | .savePreviewRevision _ | .bindAndSaveRepositoryAwarePreview _ _ => False
  | _ => True

/-- One transaction of a call of some planner, between which others may do anything, or one that
saves no Preview. -/
inductive SystemStep (workspace : String) (s s' : PreviewTables) : Prop
  | planned (p : RuntimePlanner) (tokens : Tokens) (plan : Dict) (previousPreviewId : Option String)
      (w : Shared PreviewTables) (own : p.workspace = workspace) (start : w.steps = [])
      (others : ∀ f ∈ w.others, ∀ t, PreviewHistories.Run workspace t (f t))
      (reachable : Reachable workspace w.state) (unused : Unused tokens s)
      (step : (s, s') ∈ ((p.preview tokens plan previousPreviewId).start w).2.steps)
  | other (context : StoreContext) (transaction : Transaction)
      (own : context.workspaceIdentity = workspace) (keeping : Keeping transaction)
      (step : perform context s transaction = .ok s')

def SystemReachable (workspace : String) : PreviewTables → Prop :=
  ReflTransGen (SystemStep workspace) .empty

variable {workspace : String} {tokens : Tokens} {s s' : PreviewTables}

theorem starts_kept {w : Shared PreviewTables} (start : w.steps = [])
    (others : ∀ f ∈ w.others, ∀ t, PreviewHistories.Run workspace t (f t))
    (reachable : Reachable workspace w.state) :
    (contract workspace tokens).Kept (Known workspace none) w :=
  ⟨others, by simp [start], reachable, nofun⟩

/-- A step of a planner does what a planner may do. -/
theorem planned_step {p : RuntimePlanner} (own : p.workspace = workspace) {plan : Dict}
    {previousPreviewId : Option String} {w : Shared PreviewTables} (start : w.steps = [])
    (others : ∀ f ∈ w.others, ∀ t, PreviewHistories.Run workspace t (f t))
    (reachable : Reachable workspace w.state)
    (step : (s, s') ∈ ((p.preview tokens plan previousPreviewId).start w).2.steps) :
    Planned workspace tokens s s' :=
  ((preview_does own plan previousPreviewId).run (starts_kept start others reachable)).1 _ step

/-- A transaction that saves no Preview leaves the Previews as they are. -/
theorem keeping_previews {context : StoreContext} {transaction : Transaction}
    (hkeeping : Keeping transaction) (h : perform context s transaction = .ok s') :
    s'.previews = s.previews := by
  cases transaction with
  | savePreviewRevision a => exact absurd hkeeping id
  | bindAndSaveRepositoryAwarePreview promotion a => exact absurd hkeeping id
  | recordAudit a =>
      simp only [perform, AuditCommits.recordAudit, bind_eq_ok] at h
      obtain ⟨_, -, _, -, h⟩ := h
      split_ifs at h
      rw [← pure_eq_ok.mp h]
  | applyAuditCommitAtomic a authority =>
      obtain ⟨⟨t, answered⟩, hcommit, rfl⟩ := map_eq_ok.mp h
      simp only [AuditCommits.applyAuditCommitAtomic, bind_eq_ok] at hcommit
      obtain ⟨_, -, _, -, _, -, _, -, _, -, _, -, _, -, _, -, hcommit⟩ := hcommit
      unfold commitVerified at hcommit
      split at hcommit
      · rw [← (Prod.mk.inj (Except.ok.inj hcommit)).1]
      · simp only [bind_eq_ok, pure_eq_ok] at hcommit
        obtain ⟨_, -, heq⟩ := hcommit
        rw [← (Prod.mk.inj heq).1]
  | transitionAuditStatus auditId status =>
      obtain ⟨⟨t, answered⟩, hmoved, rfl⟩ := map_eq_ok.mp h
      simp only [AuditCommits.transitionAuditStatus, bind_eq_ok, pure_eq_ok] at hmoved
      obtain ⟨_, -, _, -, heq⟩ := hmoved
      rw [← (Prod.mk.inj heq).1]
  | recordApproval approval =>
      obtain ⟨_, _, -, ⟨rfl, -⟩ | ⟨_, -, rfl⟩⟩ := recordApproval_effect h <;> rfl

/-! ## Items and those before them -/

section
omit [PythonLibrary] [UnicodeLibrary] [IntegerLibrary] [DatetimeLibrary] [CasefoldLibrary]

/-- An item continues one of the prior revision: it has its reference, or it has a new one and
renames it. -/
def Continues (prior : List Dict) (item old : Dict) : Prop :=
  old ∈ prior ∧ (old.get "client_ref" = item.get "client_ref" ∨
    (∀ e ∈ prior, e.get "client_ref" ≠ item.get "client_ref") ∧
      ∃ column, columnText? (item.get "previous_client_ref") = some column ∧
        columnText? (old.get "client_ref") = some column)

/-- No two items continue the same item. -/
def Apart (prior items : List Dict) : Prop :=
  items.Pairwise fun x y => ∀ old, ¬(Continues prior x old ∧ Continues prior y old)

/-- Each reference is stored once, and the identities are texts. -/
structure Listed (items : List Dict) : Prop where
  stored : ∀ item ∈ items, ∃ column, columnText? (item.get "client_ref") = some column
  nodup : (items.map fun item => columnText? (item.get "client_ref")).Nodup
  texts : ∀ item ∈ items, ∃ id, item.get "item_id" = .str id

theorem Listed.nil : Listed [] := ⟨nofun, .nil, nofun⟩

theorem Listed.eq_of_column {items : List Dict} (h : Listed items) {x y : Dict} (hx : x ∈ items)
    (hy : y ∈ items)
    (heq : columnText? (x.get "client_ref") = columnText? (y.get "client_ref")) : x = y :=
  List.inj_on_of_nodup_map h.nodup hx hy heq

theorem Listed.item_id {items : List Dict} (h : Listed items) {item : Dict} (hitem : item ∈ items)
    {id : String} (hid : columnText? (item.get "item_id") = some id) :
    item.get "item_id" = .str id := by
  obtain ⟨text, htext⟩ := h.texts item hitem
  rw [htext] at hid ⊢
  rw [Option.some.inj hid]

/-- The identity of an item is that of the item that it continues, whatever its token. -/
theorem identified_continues {prior : List Dict} (hprior : Listed prior) {token : String}
    {item old : Dict} (h : Identified prior token item) (hold : Continues prior item old) :
    item.get "item_id" = old.get "item_id" := by
  obtain ⟨hmem, href | ⟨hnew, column, hprevious, hcolumn⟩⟩ := hold
  · cases h with
    | kept mem ref id => rw [id, hprior.eq_of_column mem hmem (by rw [ref, href])]
    | renamed new | drawn new => exact absurd href (new old hmem)
  · cases h with
    | kept mem ref id => exact absurd ref (hnew _ mem)
    | renamed new mem previous ref given id =>
        obtain rfl := Option.some.inj (previous.symm.trans hprevious)
        rw [hprior.eq_of_column hmem mem (hcolumn.trans ref.symm), id,
          hprior.item_id mem given]
    | drawn new previous id =>
        rw [previous] at hprevious
        cases hprevious

/-- An identity comes from the prior revision, or it is drawn. -/
theorem identified_source {prior : List Dict} (hprior : Listed prior) {token : String}
    {item : Dict} (h : Identified prior token item) :
    (∃ old, Continues prior item old ∧ item.get "item_id" = old.get "item_id") ∨
      item.get "item_id" = .str ("item-" ++ token) := by
  cases h with
  | kept mem ref id => exact .inl ⟨_, ⟨mem, .inl ref⟩, id⟩
  | renamed new mem previous ref given id =>
      exact .inl ⟨_, ⟨mem, .inr ⟨new, _, previous, ref⟩⟩, id.trans (hprior.item_id mem given).symm⟩
  | drawn new previous id => exact .inr id

/-- Identities that agree come from the same item, if the tokens are new. -/
theorem identified_nodup {prior items : List Dict} (hprior : Listed prior)
    (hdistinct : (prior.map (Dict.get · "item_id")).Nodup) {tokens : Tokens}
    (hinjective : Function.Injective tokens.item)
    (hunused : ∀ item ∈ prior, ∀ i, item.get "item_id" ≠ .str ("item-" ++ tokens.item i))
    (h : IdentifiedAll prior tokens items) (hapart : Apart prior items) :
    (items.map (Dict.get · "item_id")).Nodup := by
  rw [List.Nodup, List.pairwise_map, List.pairwise_iff_getElem]
  intro i j hi hj hij hsame
  rcases identified_source hprior (h i _ (List.getElem?_eq_getElem hi)) with
    ⟨old, hold, hid⟩ | hdrawn <;>
  rcases identified_source hprior (h j _ (List.getElem?_eq_getElem hj)) with
    ⟨old', hold', hid'⟩ | hdrawn'
  · have heq : old.get "item_id" = old'.get "item_id" := by rw [← hid, ← hid', hsame]
    obtain rfl := List.inj_on_of_nodup_map hdistinct hold.1 hold'.1 heq
    exact List.pairwise_iff_getElem.mp hapart i j hi hj hij old ⟨hold, hold'⟩
  · exact hunused old hold.1 j (by rw [← hid, hsame, hdrawn'])
  · exact hunused old' hold'.1 i (by rw [← hid', ← hsame, hdrawn])
  · rw [hdrawn, hdrawn', Value.str.injEq, String.append_right_inj] at hsame
    exact hij.ne (hinjective hsame)

/-- Items that continue the same item have its identity. -/
theorem identified_apart {prior items : List Dict} (hprior : Listed prior) {tokens : Tokens}
    (h : IdentifiedAll prior tokens items)
    (hdistinct : (items.map (Dict.get · "item_id")).Nodup) : Apart prior items := by
  rw [List.Nodup, List.pairwise_map, List.pairwise_iff_getElem] at hdistinct
  rw [Apart, List.pairwise_iff_getElem]
  rintro i j hi hj hij old ⟨hold, hold'⟩
  have hx := identified_continues hprior (h i _ (List.getElem?_eq_getElem hi)) hold
  have hy := identified_continues hprior (h j _ (List.getElem?_eq_getElem hj)) hold'
  exact hdistinct i j hi hj hij (hx.trans hy.symm)

end

/-! ## What is kept -/

/-- How a stored Preview came about. -/
inductive Origin (s : PreviewTables) (saved : SavedPreview) : Prop
  | first (tokens : Tokens) (revision : saved.revision = 1)
      (injective : Function.Injective tokens.item)
      (items : IdentifiedAll [] tokens (itemsOf saved.canonicalPayload))
  | next (prior : SavedPreview) (tokens : Tokens)
      (stored : s.previews.lookup (saved.previewId, saved.revision - 1) = some prior)
      (request : saved.requestId = prior.requestId) (injective : Function.Injective tokens.item)
      (unused : ∀ item ∈ itemsOf prior.canonicalPayload, ∀ i,
        item.get "item_id" ≠ .str ("item-" ++ tokens.item i))
      (items : IdentifiedAll (itemsOf prior.canonicalPayload) tokens
        (itemsOf saved.canonicalPayload))

structure Sound (s : PreviewTables) (k : String × Int) (saved : SavedPreview) : Prop where
  key : k = (saved.previewId, saved.revision)
  revision : 1 ≤ saved.revision
  listed : Listed (itemsOf saved.canonicalPayload)
  origin : Origin s saved

def AllSound (s : PreviewTables) : Prop :=
  ∀ k saved, s.previews.lookup k = some saved → Sound s k saved

omit [PythonLibrary] [UnicodeLibrary] [IntegerLibrary] [CasefoldLibrary] in
theorem Sound.mono {k : String × Int} {saved : SavedPreview} (h : Sound s k saved)
    (hgrows : ∀ k saved, s.previews.lookup k = some saved → s'.previews.lookup k = some saved) :
    Sound s' k saved where
  key := h.key
  revision := h.revision
  listed := h.listed
  origin := by
    cases h.origin with
    | first tokens revision injective items => exact .first tokens revision injective items
    | next prior tokens stored request injective unused items =>
        exact .next prior tokens (hgrows _ _ stored) request injective unused items

omit [PythonLibrary] [UnicodeLibrary] [IntegerLibrary] [DatetimeLibrary] [CasefoldLibrary] in
theorem lineageRows_columns {b : PreviewBinding} {items : List Dict}
    {rows : List ((String × Int × String) × String)}
    (h : List.Forall₂ (fun (x : Dict) row => row.1 = (b.previewId, b.revision, row.1.2.2) ∧
      columnText? (x.get "client_ref") = some row.1.2.2) items rows)
    (hkeys : (rows.map Prod.fst).Nodup) :
    (items.map fun item => columnText? (item.get "client_ref")).Nodup := by
  have hcolumns : (items.map fun item => columnText? (item.get "client_ref")) =
      rows.map fun row => some row.1.2.2 := by
    clear hkeys
    induction h with
    | nil => rfl
    | cons hx _ ih => rw [List.map_cons, List.map_cons, hx.2, ih]
  rw [hcolumns]
  refine List.Nodup.map_on (fun row hrow row' hrow' heq => ?_) hkeys.of_map
  obtain ⟨x, -, hx, -⟩ := PairedLists.mem_right h hrow
  obtain ⟨x', -, hx', -⟩ := PairedLists.mem_right h hrow'
  exact List.inj_on_of_nodup_map hkeys hrow hrow' (by rw [hx, hx', Option.some.inj heq])

/-- The items of a save are listed as a revision should be. -/
theorem saved_listed {canonical : Dict} {promotion : Option RuntimePromotion} {a : SaveArguments}
    (h : Saved workspace canonical promotion a s s')
    (htexts : ∀ item ∈ itemsOf canonical, ∃ id, item.get "item_id" = .str id) :
    Listed (itemsOf canonical) := by
  obtain ⟨rows, hrows, hinsert⟩ := h.lineage
  have hpairs : List.Forall₂ (fun (x : Dict) (row : (String × Int × String) × String) =>
      row.1 = (a.binding.previewId, a.binding.revision, row.1.2.2) ∧
        columnText? (x.get "client_ref") = some row.1.2.2) (itemsOf canonical) rows := by
    refine PairedLists.forall₂_join (fun y x row hxy hrow => ?_)
      (acceptPreview_items h.accepted).flip (PairedLists.mapM_eq_some.mp hrows)
    obtain ⟨column, id, hcolumn, -, rfl⟩ := lineageRow_eq_some.mp hrow
    exact ⟨rfl, by rw [SameItem.columnText hxy _ hcolumn, hcolumn]⟩
  refine ⟨fun item hitem => ?_, lineageRows_columns hpairs (Rows.insertAll_fresh hinsert).1,
    htexts⟩
  obtain ⟨row, -, hrow⟩ := PairedLists.mem_left hpairs hitem
  exact ⟨_, hrow.2⟩

omit [PythonLibrary] [UnicodeLibrary] [IntegerLibrary] [DatetimeLibrary] [CasefoldLibrary] in
/-- Identities are texts, if those of the prior revision are. -/
theorem identified_texts {prior items : List Dict}
    (hprior : ∀ item ∈ prior, ∃ id, item.get "item_id" = .str id) {tokens : Tokens}
    (h : IdentifiedAll prior tokens items) :
    ∀ item ∈ items, ∃ id, item.get "item_id" = .str id := by
  intro item hitem
  obtain ⟨i, hi⟩ := List.mem_iff_getElem?.mp hitem
  cases h i item hi with
  | kept mem ref id => exact id ▸ hprior _ mem
  | renamed _ _ _ _ _ id => exact ⟨_, id⟩
  | drawn _ _ id => exact ⟨_, id⟩

/-- A save adds a Preview that came about as it should. -/
theorem AllSound.saved (hs : AllSound s) {canonical : Dict} {promotion : Option RuntimePromotion}
    {a : SaveArguments} (h : Saved workspace canonical promotion a s s')
    (htexts : ∀ item ∈ itemsOf canonical, ∃ id, item.get "item_id" = .str id)
    (horigin : Origin s'
      ⟨a.binding.requestId, a.binding.previewId, a.binding.revision, canonical⟩) :
    AllSound s' := by
  intro k saved hsaved
  rw [Rows.lookup_insert h.previews] at hsaved
  split_ifs at hsaved with hk
  · obtain rfl := Option.some.inj hsaved
    exact ⟨hk, (accepted_identity h.accepted).2, saved_listed h htexts, horigin⟩
  · exact (hs k saved hsaved).mono (saved_grows h).previews

theorem AllSound.planned (hs : AllSound s) (hunused : Unused tokens s)
    (h : Planned workspace tokens s s') : AllSound s' := by
  cases h with
  | unchanged => exact hs
  | first saved revision items =>
      exact hs.saved saved (identified_texts (by simp) items)
        (.first tokens revision hunused.injective items)
  | next saved stored request items =>
      have hprior := hs _ _ stored
      exact hs.saved saved (identified_texts hprior.listed.texts items)
        (.next _ tokens ((saved_grows saved).previews _ _ stored) request hunused.injective
          (hunused.items _ _ stored) items)

theorem AllSound.step (hs : AllSound s) (h : SystemStep workspace s s') : AllSound s' := by
  cases h with
  | planned p tokens plan previousPreviewId w own start others reachable unused step =>
      exact hs.planned unused (planned_step own start others reachable step)
  | other context transaction own keeping step =>
      have hpreviews := keeping_previews keeping step
      intro k saved hsaved
      rw [hpreviews] at hsaved
      exact (hs k saved hsaved).mono fun k saved hsaved => hpreviews ▸ hsaved

theorem systemReachable_sound (h : SystemReachable workspace s) : AllSound s := by
  induction h with
  | refl =>
      intro k saved hsaved
      cases hsaved
  | tail _ hstep ih => exact ih.step hstep

/-! ### Identities of different Previews -/

/-- An identity is that of items of one Preview. -/
def Separate (s : PreviewTables) : Prop :=
  ∀ k saved k' saved', s.previews.lookup k = some saved → s.previews.lookup k' = some saved' →
    ∀ item ∈ itemsOf saved.canonicalPayload, ∀ item' ∈ itemsOf saved'.canonicalPayload,
      item.get "item_id" = item'.get "item_id" → k.1 = k'.1

theorem Separate.saved (hs : Separate s) (hunused : Unused tokens s) {canonical : Dict}
    {promotion : Option RuntimePromotion} {a : SaveArguments} {prior : List Dict}
    (h : Saved workspace canonical promotion a s s') (hlisted : Listed prior)
    (hprior : ∀ old ∈ prior, ∃ revision saved,
      s.previews.lookup (a.binding.previewId, revision) = some saved ∧
        old ∈ itemsOf saved.canonicalPayload)
    (hitems : IdentifiedAll prior tokens (itemsOf canonical)) : Separate s' := by
  -- an item of the new Preview and one that was there before
  have hmixed : ∀ k saved, s.previews.lookup k = some saved → ∀ item ∈ itemsOf canonical,
      ∀ item' ∈ itemsOf saved.canonicalPayload, item.get "item_id" = item'.get "item_id" →
        a.binding.previewId = k.1 := by
    intro k saved hsaved item hitem item' hitem' hsame
    obtain ⟨i, hi⟩ := List.mem_iff_getElem?.mp hitem
    rcases identified_source hlisted (hitems i item hi) with ⟨old, hold, hid⟩ | hdrawn
    · obtain ⟨revision, earlier, hearlier, hmem⟩ := hprior old hold.1
      exact hs _ _ _ _ hearlier hsaved old hmem item' hitem' (hid.symm.trans hsame)
    · exact absurd (hsame.symm.trans hdrawn) (hunused.items k saved hsaved item' hitem' i)
  intro k saved k' saved' hsaved hsaved' item hitem item' hitem' hsame
  rw [Rows.lookup_insert h.previews] at hsaved hsaved'
  split_ifs at hsaved hsaved' with hk hk' hk'
  · rw [hk, hk']
  · obtain rfl := Option.some.inj hsaved
    rw [hk, ← hmixed k' saved' hsaved' item hitem item' hitem' hsame]
  · obtain rfl := Option.some.inj hsaved'
    rw [hk', ← hmixed k saved hsaved item' hitem' item hitem hsame.symm]
  · exact hs k saved k' saved' hsaved hsaved' item hitem item' hitem' hsame

theorem Separate.step (hs : Separate s) (hsound : AllSound s) (h : SystemStep workspace s s') :
    Separate s' := by
  cases h with
  | planned p tokens plan previousPreviewId w own start others reachable unused step =>
      cases planned_step own start others reachable step with
      | unchanged => exact hs
      | first saved revision items => exact hs.saved unused saved .nil (by simp) items
      | next saved stored request items =>
          exact hs.saved unused saved (hsound _ _ stored).listed
            (fun old hold => ⟨_, _, stored, hold⟩) items
  | other context transaction own keeping step =>
      rw [Separate, keeping_previews keeping step]
      exact hs

/-! ## Histories -/

variable {previewId : String} {revision : Int} {saved : SavedPreview}

section
omit [PythonLibrary] [UnicodeLibrary] [IntegerLibrary] [CasefoldLibrary]

theorem AllSound.positive (hs : AllSound s)
    (hsaved : s.previews.lookup (previewId, revision) = some saved) : 1 ≤ revision := by
  have hkey : revision = saved.revision := congrArg Prod.snd (hs _ _ hsaved).key
  exact hkey ▸ (hs _ _ hsaved).revision

/-- The revisions before a stored one are stored, down to the first. -/
theorem AllSound.earlier (hs : AllSound s)
    (hsaved : s.previews.lookup (previewId, revision) = some saved) {r : Int} (hfirst : 1 ≤ r)
    (hle : r ≤ revision) : ∃ earlier, s.previews.lookup (previewId, r) = some earlier ∧
      earlier.requestId = saved.requestId := by
  obtain ⟨n, rfl⟩ := Int.le.dest hle
  induction n generalizing saved with
  | zero => exact ⟨saved, by simpa using hsaved, rfl⟩
  | succ n ih =>
      have hkey := (hs _ _ hsaved).key
      simp only [Prod.mk.injEq] at hkey
      cases (hs _ _ hsaved).origin with
      | first tokens hrevision => omega
      | next prior tokens stored request =>
          have hrevision : saved.revision - 1 = r + n := by omega
          rw [← hkey.1, hrevision] at stored
          obtain ⟨earlier, hearlier, hrequest⟩ := ih stored (by omega)
          exact ⟨earlier, hearlier, hrequest.trans request.symm⟩

/-- The items of the revision before. -/
def itemsBefore (s : PreviewTables) (previewId : String) (revision : Int) : List Dict :=
  ((s.previews.lookup (previewId, revision - 1)).map fun prior =>
    itemsOf prior.canonicalPayload).getD []

theorem AllSound.before (hs : AllSound s)
    (hsaved : s.previews.lookup (previewId, revision) = some saved) :
    Listed (itemsBefore s previewId revision) ∧ ∃ tokens : Tokens,
      Function.Injective tokens.item ∧
      (∀ item ∈ itemsBefore s previewId revision, ∀ i,
        item.get "item_id" ≠ .str ("item-" ++ tokens.item i)) ∧
      IdentifiedAll (itemsBefore s previewId revision) tokens
        (itemsOf saved.canonicalPayload) := by
  have hkey := (hs _ _ hsaved).key
  simp only [Prod.mk.injEq] at hkey
  obtain ⟨rfl, rfl⟩ := hkey
  cases (hs _ _ hsaved).origin with
  | first tokens hrevision injective items =>
      have hnone : s.previews.lookup (saved.previewId, saved.revision - 1) = none := by
        by_contra hsome
        obtain ⟨prior, hprior⟩ := Option.ne_none_iff_exists'.mp hsome
        have hpositive := hs.positive hprior
        omega
      rw [itemsBefore, hnone]
      exact ⟨.nil, tokens, injective, nofun, items⟩
  | next prior tokens stored request injective unused items =>
      rw [itemsBefore, stored]
      exact ⟨(hs _ _ stored).listed, tokens, injective, unused, items⟩

/-- As long as no two items continue the same item, identities differ in each revision. -/
theorem AllSound.distinct (hs : AllSound s)
    (hapart : ∀ r earlier, r ≤ revision → s.previews.lookup (previewId, r) = some earlier →
      Apart (itemsBefore s previewId r) (itemsOf earlier.canonicalPayload))
    {r : Int} {earlier : SavedPreview} (hle : r ≤ revision)
    (hearlier : s.previews.lookup (previewId, r) = some earlier) :
    ((itemsOf earlier.canonicalPayload).map (Dict.get · "item_id")).Nodup := by
  have hpositive := hs.positive hearlier
  induction hn : r.toNat generalizing r earlier with
  | zero => omega
  | succ n ih =>
      obtain ⟨hlisted, tokens, hinjective, hunused, hitems⟩ := hs.before hearlier
      refine identified_nodup hlisted ?_ hinjective hunused hitems (hapart r earlier hle hearlier)
      cases hprior : s.previews.lookup (previewId, r - 1) with
      | none =>
          rw [itemsBefore, hprior]
          exact .nil
      | some prior =>
          rw [itemsBefore, hprior]
          exact ih (by omega) hprior (hs.positive hprior) (by omega)

end

section
variable [AuthorityBindings.TimestampLibrary] [AuthorityBindings.LawfulTextLibrary]
  [AttestationClaims.LawfulDigestLibrary]

omit [IntegerLibrary] [DatetimeLibrary] [CasefoldLibrary] [SqliteLibrary]
  [AttestationClaims.LawfulDigestLibrary] in
/-- A settled text is read back from a written Preview. -/
theorem toDict_text {q : SealedPreview} {canonical : Dict} (h : q.toDict = .ok canonical)
    {key text : String} (hmem : (key, .str text) ∈ q.entries) (hkey : AuthorityBindings.Graphic key)
    (htext : AuthorityBindings.Settled text) : canonical.get key = .str text := by
  simp only [SealedPreview.toDict, bind_eq_ok, orRaise_eq_ok,
    PreviewEligibility.mapping?_eq_some] at h
  obtain ⟨_, hnormal, rfl⟩ := h
  obtain ⟨made, hmade, hnodup, heq⟩ := PreviewEligibility.normalize_dict_eq_ok.mp hnormal
  obtain rfl := Value.dict.inj heq
  obtain ⟨e, he, hname, hvalue⟩ := PairedLists.mem_left hmade hmem
  rw [AuthorityBindings.normalize_text htext, Except.ok.injEq] at hvalue
  rw [(AuthorityBindings.LawfulTextLibrary.graphic hkey).1] at hname
  refine PreviewEligibility.get_of_mem
    (((sortEntries_perm made).map Prod.fst).nodup_iff.mpr hnodup) ?_
  rw [(sortEntries_perm made).mem_iff, ← hname, hvalue]
  exact he

omit [IntegerLibrary] [DatetimeLibrary] [CasefoldLibrary] [SqliteLibrary] in
theorem draft_settled {plan : Dict} {d : Draft} (h : draft plan = .ok d) :
    AuthorityBindings.Settled d.planDigest ∧ AuthorityBindings.Settled d.operationSetDigest := by
  simp only [draft, SealedPreviews.operationSetDigest, canonicalDigest, bind_eq_ok, pure_eq_ok] at h
  obtain ⟨_, -, _, -, _, -, _, -, _, -, _, -, _, -, _, -, _, -, _, ⟨_, -, rfl⟩, _,
    ⟨_, -, _, -, rfl⟩, rfl⟩ := h
  exact ⟨ConceptualPreviews.EmptyPlan.digest_settled _,
    ConceptualPreviews.EmptyPlan.digest_settled _⟩

end

/-! ## A store that a planner has filled -/

end

def samplePlanner : RuntimePlanner where
  context := ⟨"workspace-1", none, "scope-1"⟩
  driver := none
  ruleRegistryVersion := "1.0"
  ruleRegistryDigest := "sha256:registry"
  trusted := nofun

def sampleTokens : Tokens where
  request := "1"
  preview := "1"
  item i := String.ofList (List.replicate i '0')

theorem sampleTokens_injective : Function.Injective sampleTokens.item := fun i j h => by
  have hlength := congrArg (fun s : String => s.toList.length) h
  simpa [sampleTokens] using hlength

section
variable [PythonLibrary] [UnicodeLibrary] [IntegerLibrary] [DatetimeLibrary] [CasefoldLibrary]
  [SqliteLibrary] [AuthorityBindings.TimestampLibrary] [AuthorityBindings.LawfulTextLibrary]
  [AttestationClaims.LawfulDigestLibrary]

theorem sample_planned : ∃ s saved, SystemReachable "workspace-1" s ∧
    s.previews.lookup ("preview-1", 1) = some saved := by
  have hnamed : (BarePlans.planOf samplePlanner sampleTokens).Named :=
    { workspaceIdentity := AuthorityBindings.Graphic.settled
        (by decide : AuthorityBindings.Graphic "workspace-1") (by decide)
      requestId := AuthorityBindings.Graphic.settled
        (by decide : AuthorityBindings.Graphic "request-1") (by decide)
      previewId := AuthorityBindings.Graphic.settled
        (by decide : AuthorityBindings.Graphic "preview-1") (by decide)
      revision := le_refl 1 }
  obtain ⟨s, hsaved, hsteps⟩ := BarePlans.bare_planned hnamed
    (rfl : PreviewTables.empty.previews.latestRevision _ = none)
  have hunused : Unused sampleTokens .empty :=
    { injective := sampleTokens_injective
      items := fun k saved hlookup => by cases hlookup }
  have hstep : SystemStep "workspace-1" .empty s :=
    .planned samplePlanner sampleTokens [] none ⟨.empty, [], []⟩ rfl rfl nofun .refl hunused (by
      rw [hsteps]
      exact List.mem_singleton_self _)
  refine ⟨s, BarePlans.saved (BarePlans.planOf samplePlanner sampleTokens), .single hstep, ?_⟩
  rw [Rows.lookup_insert hsaved.previews]
  exact if_pos rfl

end

theorem reference_planned :
    ∃ (_ : PythonLibrary) (_ : UnicodeLibrary) (_ : IntegerLibrary) (_ : DatetimeLibrary)
      (_ : CasefoldLibrary) (_ : SqliteLibrary) (s : PreviewTables) (saved : SavedPreview),
      SystemReachable "workspace-1" s ∧ s.previews.lookup ("preview-1", 1) = some saved := by
  have hlawful := IssuanceHistories.referenceLibrary_lawful
  have hdigests := AttestationReference.referenceLibrary_digests
  let _ := ReferenceLibrary.referenceLibrary
  let _ := PreviewHistories.referenceDatetimes
  let _ := PreviewHistories.referenceUnicode
  let _ := PreviewHistories.referenceIntegers
  let _ := PreviewHistories.referenceCasefold
  let _ := PreviewHistories.referenceSqlite
  let _ := IssuanceHistories.referenceTimestamps
  exact ⟨_, _, _, _, _, _, sample_planned⟩

end DeliverySystem.PlannedHistories

import DeliverySystem.Planning

/-!
# Planned revisions

Whatever others do between its transactions, a planner only ever adds the first
revision of a new Preview or the one after the latest, and the items of that one
continue items of its predecessor. From it follows what a store looks like that
planners alone have filled, in any interleaving.
-/
namespace DeliverySystem.PlannedRevisions
open PythonValues CanonicalValues IssueCommands ExecutionContexts WriteOperations KeyedRows
open AuditRecords EvidenceRecords RemoteSnapshots SealedPreviews PreviewEligibility
open PreviewStore AuditCommits AcceptedPreviews PreviewHistories StoredPreviews RemoteReads
open FallibleRuns SharedStates Planning
set_option autoImplicit false

/-! ## Items as they are stored -/

/-- The items of a canonical payload. -/
def itemsOf (canonical : Dict) : List Dict := (mappingList? (canonical.get "items")).getD []

/-- Two items that are equal in Python, entry by entry. -/
def SameItem (x y : Dict) : Prop := ∀ key, sortKeys (x.get key) = sortKeys (y.get key)

theorem eq_of_sortKeys_columnText [SqliteLibrary] {x y : Value} {column : String}
    (h : sortKeys x = sortKeys y) (hy : columnText? y = some column) : x = y := by
  cases y <;> cases x <;> simp_all [sortKeys, columnText?]

theorem SameItem.columnText [SqliteLibrary] {x y : Dict} (h : SameItem x y) (key : String)
    {column : String} (hy : columnText? (y.get key) = some column) : x.get key = y.get key :=
  eq_of_sortKeys_columnText (h key) hy

theorem sortKeysItems_dicts {items : List Value} {dicts : List Dict}
    (h : sortKeysItems items = sortKeysItems (dicts.map .dict))
    (hnodup : ∀ d, .dict d ∈ items → (d.map Prod.fst).Nodup) :
    ∃ made, items.mapM Value.mapping? = some made ∧ List.Forall₂ SameItem made dicts := by
  induction items generalizing dicts with
  | nil =>
      cases dicts with
      | nil => exact ⟨[], rfl, .nil⟩
      | cons d dicts => simp [sortKeysItems] at h
  | cons item items ih =>
      cases dicts with
      | nil => simp [sortKeysItems] at h
      | cons d dicts =>
          simp only [List.map_cons, sortKeysItems, List.cons.injEq] at h
          obtain ⟨x, rfl⟩ : ∃ x, item = .dict x := by
            cases item <;> simp [sortKeys] at h ⊢
          obtain ⟨made, hmade, hsame⟩ := ih h.2 fun d hd =>
            hnodup d (List.mem_cons_of_mem _ hd)
          refine ⟨x :: made, ?_, .cons ?_ hsame⟩
          · rw [List.mapM_cons, hmade]
            rfl
          · exact sortKeys_get (hnodup x List.mem_cons_self) h.1

section
variable [PythonLibrary] [UnicodeLibrary]

theorem normalizeItems_mem {items made : List Value} (h : normalizeItems items = .ok made)
    {value : Value} (hvalue : value ∈ made) : ∃ v, CanonicalValues.normalize v = .ok value := by
  induction items generalizing made with
  | nil =>
      obtain rfl := pure_eq_ok.mp h
      cases hvalue
  | cons item items ih =>
      simp only [normalizeItems, bind_eq_ok, pure_eq_ok] at h
      obtain ⟨first, hfirst, rest, hrest, rfl⟩ := h
      rcases List.mem_cons.mp hvalue with rfl | hvalue
      · exact ⟨item, hfirst⟩
      · exact ih hrest hvalue

theorem normalize_list_mem {v : Value} {made : List Value}
    (h : CanonicalValues.normalize v = .ok (.list made)) {value : Value} (hvalue : value ∈ made) :
    ∃ v', CanonicalValues.normalize v' = .ok value := by
  cases v with
  | list items | tuple items =>
      simp only [CanonicalValues.normalize, bind_eq_ok, pure_eq_ok, Value.list.injEq] at h
      obtain ⟨_, hmade, rfl⟩ := h
      exact normalizeItems_mem hmade hvalue
  | dict entries =>
      obtain ⟨made', -, -, heq⟩ := normalize_dict_eq_ok.mp h
      cases heq
  | _ =>
      simp only [CanonicalValues.normalize, Except.ok.injEq] at h
      cases h

/-- What a canonical payload holds is in canonical form. -/
theorem toDict_value {p : SealedPreview} {canonical : Dict} (h : p.toDict = .ok canonical)
    {key : String} {value : Value} (hvalue : canonical.get key = value) (hne : value ≠ .null) :
    ∃ v, CanonicalValues.normalize v = .ok value := by
  simp only [SealedPreview.toDict, bind_eq_ok, orRaise_eq_ok] at h
  obtain ⟨made, hmade, hmapping⟩ := h
  obtain ⟨entries, hentries, -, rfl⟩ := normalize_dict_eq_ok.mp hmade
  obtain rfl := Option.some.inj hmapping
  have hmem : (key, value) ∈ entries := by
    rw [← (sortEntries_perm entries).mem_iff]
    unfold Dict.get at hvalue
    cases hlookup : (sortEntries entries).lookup key with
    | none =>
        rw [hlookup] at hvalue
        exact absurd hvalue.symm hne
    | some found =>
        rw [hlookup, Option.getD_some] at hvalue
        obtain ⟨before, after, hsplit, -⟩ := List.lookup_eq_some_iff.mp hlookup
        rw [hsplit, hvalue]
        exact List.mem_append_right _ List.mem_cons_self
  clear hmade hmapping hvalue
  generalize p.entries = given at hentries
  induction hentries with
  | nil => cases hmem
  | cons he _ ih =>
      rcases List.mem_cons.mp hmem with rfl | hmem
      · exact ⟨_, he.2⟩
      · exact ih hmem

variable [IntegerLibrary] [DatetimeLibrary] [CasefoldLibrary]

/-- The items that are stored are those that a save was given. -/
theorem acceptPreview_items {workspace : String} {promotion : Option RuntimePromotion}
    {a : SaveArguments} {canonical : Dict}
    (h : acceptPreview workspace promotion a = .ok canonical) :
    List.Forall₂ SameItem (itemsOf canonical) a.items := by
  simp only [acceptPreview, bind_eq_ok, raiseIf_eq_ok, pure_eq_ok, not_not] at h
  obtain ⟨given, -, _, -, canonical, hvalid, _, -, _, -, _, hitems, rfl⟩ := h
  obtain ⟨items, hlist⟩ := (validatePreviewPayload_validated hvalid).items
  simp only [validatePreviewPayload, bind_eq_ok, pure_eq_ok] at hvalid
  obtain ⟨_, -, parsed, -, made, htoDict, _, -, _, -, _, -, _, -, _, -, _, -, _, -, _, -, _, -, _, -,
    _, -, _, -, _, -, _, -, _, -, _, -, _, -, rfl⟩ := hvalid
  obtain ⟨_, hnormal⟩ := toDict_value htoDict hlist Value.noConfusion
  rw [hlist, Value.dicts, sortKeys, sortKeys, Value.list.injEq] at hitems
  obtain ⟨dicts, hdicts, hsame⟩ := sortKeysItems_dicts hitems fun d hd => by
    obtain ⟨v, hv⟩ := normalize_list_mem hnormal hd
    exact normalize_eq_dict hv
  rw [itemsOf, hlist, mappingList?]
  change List.Forall₂ SameItem ((items.mapM Value.mapping?).getD []) a.items
  rw [hdicts]
  exact hsame

end

/-! ## The lineage of items -/

section
variable [PythonLibrary] [UnicodeLibrary] [IntegerLibrary] [DatetimeLibrary] [CasefoldLibrary]
  [SqliteLibrary]

/-- Every row of the lineage is that of an item of a stored Preview. -/
def Named (s : PreviewTables) : Prop :=
  ∀ previewId revision column id, s.lineage.lookup (previewId, revision, column) = some id →
    ∃ saved, s.previews.lookup (previewId, revision) = some saved ∧
      ∃ item ∈ itemsOf saved.canonicalPayload, columnText? (item.get "client_ref") = some column ∧
        columnText? (item.get "item_id") = some id

variable {workspace : String} {s s' : PreviewTables}

omit [PythonLibrary] [UnicodeLibrary] [IntegerLibrary] [DatetimeLibrary] [CasefoldLibrary] in
theorem lineageRow_eq_some {b : PreviewBinding} {item : Dict}
    {row : (String × Int × String) × String} :
    lineageRow b item = some row ↔ ∃ column id, columnText? (item.get "client_ref") = some column ∧
      columnText? (item.get "item_id") = some id ∧ row = ((b.previewId, b.revision, column), id) := by
  simp only [lineageRow, Option.bind_eq_bind, Option.bind_eq_some_iff, Option.pure_def,
    Option.some.injEq]
  constructor
  · rintro ⟨column, hcolumn, id, hid, rfl⟩
    exact ⟨column, id, hcolumn, hid, rfl⟩
  · rintro ⟨column, id, hcolumn, hid, rfl⟩
    exact ⟨column, hcolumn, id, hid, rfl⟩

/-- An item of a save is stored as it is named in the lineage. -/
theorem Saved.item_column {canonical : Dict} {promotion : Option RuntimePromotion}
    {a : SaveArguments} (h : Saved workspace canonical promotion a s s') {x y : Dict}
    (hsame : SameItem x y) (hy : y ∈ a.items) :
    x.get "client_ref" = y.get "client_ref" ∧ x.get "item_id" = y.get "item_id" ∧
      ∃ column id, columnText? (y.get "client_ref") = some column ∧
        columnText? (y.get "item_id") = some id := by
  obtain ⟨rows, hrows, -⟩ := h.lineage
  obtain ⟨row, -, hrow⟩ := PairedLists.mem_left (PairedLists.mapM_eq_some.mp hrows) hy
  obtain ⟨column, id, hcolumn, hid, -⟩ := lineageRow_eq_some.mp hrow
  exact ⟨hsame.columnText _ hcolumn, hsame.columnText _ hid, column, id, hcolumn, hid⟩

theorem Named.saved {canonical : Dict} {promotion : Option RuntimePromotion} {a : SaveArguments}
    (hs : Named s) (h : Saved workspace canonical promotion a s s') : Named s' := by
  intro previewId revision column id hid
  obtain ⟨rows, hrows, hinsert⟩ := h.lineage
  rcases (Rows.lookup_insertAll hinsert).mp hid with hbefore | hnew
  · obtain ⟨saved, hsaved, hitem⟩ := hs previewId revision column id hbefore
    exact ⟨saved, (saved_grows h).previews _ _ hsaved, hitem⟩
  · obtain ⟨y, hy, hrow⟩ := PairedLists.mem_right (PairedLists.mapM_eq_some.mp hrows) hnew
    obtain ⟨column', id', hcolumn, hitemId, heq⟩ := lineageRow_eq_some.mp hrow
    simp only [Prod.mk.injEq] at heq
    obtain ⟨⟨rfl, rfl, rfl⟩, rfl⟩ := heq
    obtain ⟨x, hx, hsame⟩ := PairedLists.mem_right (acceptPreview_items h.accepted) hy
    obtain ⟨hrefs, hids, -⟩ := Saved.item_column h hsame hy
    refine ⟨_, by rw [Rows.lookup_insert h.previews, if_pos rfl], x, hx, ?_, ?_⟩
    · rw [hrefs, hcolumn]
    · rw [hids, hitemId]

theorem Named.effect (hs : Named s) (h : Effect workspace s s') : Named s' := by
  cases h with
  | saved h => exact hs.saved h
  | unchanged | recorded | committed | transitioned | approved => exact hs

theorem reachable_named (h : Reachable workspace s) : Named s := by
  induction h with
  | refl =>
      intro previewId revision column id hid
      cases hid
  | tail _ hstep ih => exact ih.effect hstep.effect

end

/-! ## What a planner adds -/

section
variable [PythonLibrary] [UnicodeLibrary] [IntegerLibrary] [DatetimeLibrary] [CasefoldLibrary]
  [SqliteLibrary]

/-- How an item comes by its identity: it has the reference of an item of the prior revision, it
renames one, or its identity is new. -/
inductive Identified (prior : List Dict) (token : String) (item : Dict) : Prop
  | kept {old : Dict} (mem : old ∈ prior) (ref : old.get "client_ref" = item.get "client_ref")
      (id : item.get "item_id" = old.get "item_id")
  | renamed {old : Dict} {column id : String}
      (new : ∀ e ∈ prior, e.get "client_ref" ≠ item.get "client_ref") (mem : old ∈ prior)
      (previous : columnText? (item.get "previous_client_ref") = some column)
      (ref : columnText? (old.get "client_ref") = some column)
      (given : columnText? (old.get "item_id") = some id) (id : item.get "item_id" = .str id)
  | drawn (new : ∀ e ∈ prior, e.get "client_ref" ≠ item.get "client_ref")
      (previous : item.get "previous_client_ref" = .null)
      (id : item.get "item_id" = .str ("item-" ++ token))

def IdentifiedAll (prior : List Dict) (tokens : Tokens) (items : List Dict) : Prop :=
  ∀ i item, items[i]? = some item → Identified prior (tokens.item i) item

/-- One transaction of a planner: nothing, the first revision of a Preview, or the one after a
revision that is stored. -/
inductive Planned (workspace : String) (tokens : Tokens) (s : PreviewTables) : PreviewTables → Prop
  | unchanged : Planned workspace tokens s s
  | first {s' : PreviewTables} {canonical : Dict} {promotion : Option RuntimePromotion}
      {a : SaveArguments} (saved : Saved workspace canonical promotion a s s')
      (revision : a.binding.revision = 1)
      (items : IdentifiedAll [] tokens (itemsOf canonical)) : Planned workspace tokens s s'
  | next {s' : PreviewTables} {canonical : Dict} {promotion : Option RuntimePromotion}
      {a : SaveArguments} {prior : SavedPreview}
      (saved : Saved workspace canonical promotion a s s')
      (stored : s.previews.lookup (a.binding.previewId, a.binding.revision - 1) = some prior)
      (request : a.binding.requestId = prior.requestId)
      (items : IdentifiedAll (itemsOf prior.canonicalPayload) tokens (itemsOf canonical)) :
      Planned workspace tokens s s'

/-- The others may do any transactions of the store. -/
def contract (workspace : String) (tokens : Tokens) : Contract PreviewTables where
  rely := PreviewHistories.Run workspace
  guarantee := Planned workspace tokens
  unchanged _ := .unchanged

variable {workspace : String} {tokens : Tokens} {s s' : PreviewTables}

/-- The store is reachable, and the prior revision is in it. -/
structure Known (workspace : String) (prior : Option (String × Prior)) (s : PreviewTables) :
    Prop where
  reachable : Reachable workspace s
  stored : ∀ e ∈ prior, s.previews.lookup (e.1, e.2.saved.revision) = some e.2.saved

theorem Known.run {prior : Option (String × Prior)} (h : Known workspace prior s)
    (hrun : PreviewHistories.Run workspace s s') : Known workspace prior s' where
  reachable := h.reachable.trans hrun
  stored e he := (run_grows hrun).previews _ _ (h.stored e he)

theorem Known.stable (prior : Option (String × Prior)) :
    (contract workspace tokens).Stable (Known workspace prior) := fun _ _ hrun h => h.run hrun

/-- The items of the prior revision, none without one. -/
def priorItems (prior : Option (String × Prior)) : List Dict :=
  (prior.map fun e => itemsOf e.2.saved.canonicalPayload).getD []

/-! ### Reading the prior revision -/

variable {p : RuntimePlanner} {E : Raised → PreviewTables → Prop}

theorem evidenceOf_does (canonical : Dict) {K : PreviewTables → Prop}
    (hK : (contract workspace tokens).Stable K) :
    (contract workspace tokens).Does K (evidenceOf canonical) (fun _ => K) fun _ => K := by
  refine .bind (.ofExcept (fun _ _ _ => id) fun _ _ _ => id) fun named => ?_
  split_ifs
  · exact .pure fun _ => id
  · exact .observe hK (fun _ _ h _ => h) fun _ _ h _ => h

theorem getPreview_stored {context : StoreContext} {previewId : String} {saved : SavedPreview}
    (hs : Contents workspace s)
    (h : getPreview context s context.workspaceIdentity previewId = .ok saved) :
    s.previews.lookup (previewId, saved.revision) = some saved ∧ saved.previewId = previewId := by
  simp only [getPreview, getPreviewRevision, bind_eq_ok, orRaise_eq_ok] at h
  obtain ⟨_, -, found, hfound, h⟩ := h
  obtain rfl : found = saved := by
    split_ifs at h
    · simp only [bind_eq_ok, pure_eq_ok] at h
      obtain ⟨_, -, _, -, _, -, _, -, rfl⟩ := h
      rfl
    · exact pure_eq_ok.mp h
  obtain ⟨revision, -, hlookup⟩ := Rows.latestRecord_eq_some.mp hfound
  obtain ⟨hid, rfl, -⟩ := hs.previews previewId revision found hlookup
  exact ⟨hlookup, hid⟩

theorem prior_does (hworkspace : p.workspace = workspace) (previewId : String) :
    (contract workspace tokens).Does (Known workspace none) (p.prior previewId)
      (fun prior => Known workspace (some (previewId, prior))) fun _ _ => True := by
  subst hworkspace
  have hstored : ∀ saved : SavedPreview, (contract p.workspace tokens).Stable fun s =>
      Known p.workspace none s ∧ s.previews.lookup (previewId, saved.revision) = some saved :=
    fun saved s s' hrun h => ⟨h.1.run hrun, (run_grows hrun).previews _ _ h.2⟩
  refine .bind (R := fun saved s => Known p.workspace none s ∧
    s.previews.lookup (previewId, saved.revision) = some saved)
    (.observe (Known.stable none) (fun s saved h hread => ⟨h, ?_⟩) fun _ _ _ _ => trivial)
    fun saved => .bind (.ofExcept (fun _ _ _ => id) fun _ _ _ _ => trivial) fun fallback =>
      .bind ((evidenceOf_does _ (hstored saved)).weaken (fun _ => id) (fun _ _ => id)
        fun _ _ _ => trivial) fun evidence =>
      .bind (.ofExcept (fun _ _ _ => id) fun _ _ _ _ => trivial) fun remote =>
      .pure fun s h => ⟨h.1.reachable, ?_⟩
  · exact (getPreview_stored (reachable_contents h.reachable) hread).1
  · rintro _ ⟨⟩
    exact h.2

end

/-! ### Identifying the items -/

section
variable [PythonLibrary] [UnicodeLibrary] [IntegerLibrary] [DatetimeLibrary] [CasefoldLibrary]
  [SqliteLibrary]
variable {workspace : String} {tokens : Tokens} {s : PreviewTables} {p : RuntimePlanner}
  {prior : Option (String × Prior)}

omit [PythonLibrary] [UnicodeLibrary] [IntegerLibrary] [DatetimeLibrary] [CasefoldLibrary]
  [SqliteLibrary] in
theorem get_of_require {d : Dict} {key : String} {value : Value}
    (h : Dict.require d key = .ok value) : d.get key = value := by
  rw [Dict.require, orRaise_eq_ok] at h
  rw [Dict.get, h, Option.getD_some]

omit [PythonLibrary] [UnicodeLibrary] [IntegerLibrary] [DatetimeLibrary] [CasefoldLibrary]
  [SqliteLibrary] in
theorem itemsByRef_spec {canonical : Dict} {items : List (Value × Dict)} {listed : List Value}
    (hlisted : canonical.get "items" = .list listed) (h : itemsByRef canonical = .ok items) :
    items.map Prod.snd = itemsOf canonical ∧ ∀ e ∈ items, e.2.get "client_ref" = e.1 := by
  rw [itemsByRef, getOr_of_get hlisted Value.noConfusion] at h
  have hpairs := mapM_eq_ok.mp h
  have heach : List.Forall₂ (fun v e => Value.mapping? v = some (Prod.snd e) ∧
      Dict.get e.2 "client_ref" = e.1) listed items := by
    refine hpairs.imp fun v e he => ?_
    simp only [bind_eq_ok, orRaise_eq_ok, pure_eq_ok] at he
    obtain ⟨item, hitem, clientRef, href, _, -, rfl⟩ := he
    exact ⟨hitem, get_of_require href⟩
  constructor
  · have hmapped : listed.mapM Value.mapping? = some (items.map Prod.snd) := by
      rw [PairedLists.mapM_eq_some, List.forall₂_map_right_iff]
      exact heach.imp fun _ _ h => h.1
    rw [itemsOf, hlisted, mappingList?]
    change _ = (listed.mapM Value.mapping?).getD []
    rw [hmapped, Option.getD_some]
  · intro e he
    obtain ⟨v, -, -, href⟩ := PairedLists.mem_right heach he
    exact href

omit [PythonLibrary] [UnicodeLibrary] [IntegerLibrary] [DatetimeLibrary] [CasefoldLibrary]
  [SqliteLibrary] in
theorem itemNamed_eq_some {items : List (Value × Dict)} {clientRef : Value} {old : Dict}
    (h : itemNamed items clientRef = some old) : (clientRef, old) ∈ items := by
  obtain ⟨e, he, rfl⟩ := Option.map_eq_some_iff.mp h
  obtain rfl : e.1 = clientRef := by simpa using List.find?_some he
  exact List.mem_reverse.mp (List.mem_of_find?_eq_some he)

omit [PythonLibrary] [UnicodeLibrary] [IntegerLibrary] [DatetimeLibrary] [CasefoldLibrary]
  [SqliteLibrary] in
theorem itemNamed_eq_none {items : List (Value × Dict)} {clientRef : Value}
    (h : itemNamed items clientRef = none) : ∀ e ∈ items, e.1 ≠ clientRef := by
  intro e he heq
  have hnone := List.find?_eq_none.mp (Option.map_eq_none_iff.mp h) e (List.mem_reverse.mpr he)
  exact hnone (by simpa using heq)

omit [SqliteLibrary] in
theorem accepted_identity {promotion : Option RuntimePromotion} {a : SaveArguments}
    {canonical : Dict} (h : acceptPreview workspace promotion a = .ok canonical) :
    a.binding.previewId ≠ "" ∧ 1 ≤ a.binding.revision := by
  simp only [acceptPreview, validatePreviewPayload, bind_eq_ok, raiseIf_eq_ok, not_not] at h
  obtain ⟨_, -, _, -, _, ⟨_, hformed, -⟩, -⟩ := h
  exact ⟨hformed.2.1, hformed.2.2.1⟩

/-- Only a Preview with an identity is stored. -/
theorem stored_identity (hs : Contents workspace s) {previewId : String} {revision : Int}
    {saved : SavedPreview} (h : s.previews.lookup (previewId, revision) = some saved) :
    previewId ≠ "" ∧ 1 ≤ revision := by
  obtain ⟨rfl, rfl, promotion, a, hstored⟩ := hs.previews previewId revision saved h
  rw [hstored.previewId, hstored.revision]
  exact accepted_identity hstored.accepted

/-- An item as it is sealed. -/
def sealedAs (item : Dict) (itemId : Value) : Dict :=
  [("client_ref", item.get "client_ref"), ("previous_client_ref", item.get "previous_client_ref"),
    ("item_id", itemId)]

theorem itemId_does (hworkspace : p.workspace = workspace) {items : List (Value × Dict)}
    (hitems : items.map Prod.snd = priorItems prior)
    (hrefs : ∀ e ∈ items, e.2.get "client_ref" = e.1) (token : String) (item : Dict) :
    (contract workspace tokens).Does (Known workspace prior) (p.itemId prior items token item)
      (fun itemId s => Identified (priorItems prior) token (sealedAs item itemId) ∧
        Known workspace prior s) fun _ _ => True := by
  subst hworkspace
  rw [RuntimePlanner.itemId]
  cases hnamed : itemNamed items (item.get "client_ref") with
  | some old =>
      refine .ofExcept (fun itemId s hid h => ⟨?_, h⟩) fun _ _ _ _ => trivial
      have hmem := itemNamed_eq_some hnamed
      exact .kept (hitems ▸ List.mem_map_of_mem hmem) (hrefs _ hmem) (get_of_require hid).symm
  | none =>
      have hnew : ∀ e ∈ priorItems prior, e.get "client_ref" ≠ item.get "client_ref" := by
        rw [← hitems]
        intro old hold
        obtain ⟨e, he, rfl⟩ := List.mem_map.mp hold
        rw [hrefs e he]
        exact itemNamed_eq_none hnamed e he
      dsimp only
      split_ifs with hprevious
      · rw [map_eq_pure_bind]
        refine .bind (.observe (Known.stable prior) (fun s id h hread => ?_) fun _ _ _ _ => trivial)
          fun id => .pure (K := fun s => Identified (priorItems prior) token
            (sealedAs item (.str id)) ∧ Known p.workspace prior s) fun _ h => h
        refine ⟨?_, h⟩
        simp only [resolveItemId, bind_eq_ok, orRaise_eq_ok] at hread
        obtain ⟨_, -, revision, hrevision, _, -, column, hcolumn, hlookup⟩ := hread
        obtain ⟨saved, hsaved, old, hold, href, hid⟩ :=
          reachable_named h.reachable _ _ _ _ hlookup
        have hcontents := reachable_contents h.reachable
        cases prior with
        | none => exact absurd rfl (stored_identity hcontents hsaved).1
        | some e =>
            obtain rfl : e.2.saved.revision = revision := Option.some.inj hrevision
            have hsame := h.stored e rfl
            obtain rfl := Option.some.inj (hsaved.symm.trans hsame)
            exact .renamed hnew hold hcolumn href hid rfl
      · exact .pure fun s h => ⟨.drawn hnew (not_not.mp hprevious) rfl, h⟩

theorem sealedItems_does (hworkspace : p.workspace = workspace) (d : Draft) :
    (contract workspace tokens).Does (Known workspace prior) (p.sealedItems prior tokens d)
      (fun items s => IdentifiedAll (priorItems prior) tokens items ∧ Known workspace prior s)
      fun _ _ => True := by
  refine .bind (R := fun items s => (items.map Prod.snd = priorItems prior ∧
    ∀ e ∈ items, e.2.get "client_ref" = e.1) ∧ Known workspace prior s)
    (.ofExcept (fun items s hitems h => ⟨?_, h⟩) fun _ _ _ _ => trivial) fun items => .of_prop ?_
  · cases prior with
    | none =>
        obtain rfl := pure_eq_ok.mp hitems
        exact ⟨rfl, nofun⟩
    | some e =>
        have hstored := h.stored e rfl
        obtain ⟨listed, hlisted⟩ :=
          ((reachable_contents h.reachable).accepted hstored).validated.items
        exact itemsByRef_spec hlisted hitems
  · rintro ⟨hitems, hrefs⟩
    refine Contract.Does.weaken (.mapM (P := fun e item =>
      Identified (priorItems prior) (tokens.item e.2) item) fun e _ => ?_) (fun _ => id)
      (fun sealed s h => ⟨fun i item hitem => ?_, h.2⟩) fun _ _ => id
    · exact .bind (itemId_does hworkspace hitems hrefs (tokens.item e.2) e.1) fun itemId =>
        .pure fun s h => h
    · obtain ⟨hlt, rfl⟩ := List.getElem?_eq_some_iff.mp hitem
      obtain ⟨hlength, heach⟩ := List.forall₂_iff_get.mp h.1
      have hidentified := heach i (by omega) hlt
      simpa using hidentified

end

/-! ### Saving -/

theorem sortKeysEntries_eq {entries : Dict} (h : ∀ e ∈ entries, sortKeys e.2 = e.2) :
    sortKeysEntries entries = entries := by
  induction entries with
  | nil => rfl
  | cons e entries ih =>
      obtain ⟨key, value⟩ := e
      rw [sortKeysEntries, h (key, value) List.mem_cons_self,
        ih fun e he => h e (List.mem_cons_of_mem _ he)]

mutual
theorem sortKeys_normalized [PythonLibrary] [UnicodeLibrary] : (v w : Value) →
    CanonicalValues.normalize v = .ok w → sortKeys w = w
  | .null, w, h | .bool _, w, h | .int _, w, h | .float _, w, h | .str _, w, h => by
      simp only [CanonicalValues.normalize, Except.ok.injEq] at h
      rw [← h]
      rfl
  | .list items, w, h | .tuple items, w, h => by
      simp only [CanonicalValues.normalize, bind_eq_ok, pure_eq_ok] at h
      obtain ⟨made, hmade, rfl⟩ := h
      rw [sortKeys, sortKeysItems_normalized items made hmade]
  | .dict entries, w, h => by
      simp only [CanonicalValues.normalize, bind_eq_ok, raiseIf_eq_ok, pure_eq_ok, not_not] at h
      obtain ⟨made, hmade, _, hnodup, rfl⟩ := h
      have hvalues := sortKeysEntries_normalized entries made hmade
      have hsorted : sortKeysEntries (sortEntries made) = sortEntries made :=
        sortKeysEntries_eq fun e he => hvalues e ((sortEntries_perm made).mem_iff.mp he)
      rw [sortKeys, hsorted]
      exact congrArg Value.dict (sortEntries_eq_of_perm (sortEntries_perm made)
        (((sortEntries_perm made).map Prod.fst).nodup_iff.mpr hnodup))

theorem sortKeysItems_normalized [PythonLibrary] [UnicodeLibrary] : (items made : List Value) →
    normalizeItems items = .ok made → sortKeysItems made = made
  | [], made, h => by
      rw [← pure_eq_ok.mp h]
      rfl
  | item :: rest, made, h => by
      simp only [normalizeItems, bind_eq_ok, pure_eq_ok] at h
      obtain ⟨first, hfirst, others, hothers, rfl⟩ := h
      rw [sortKeysItems, sortKeys_normalized item first hfirst,
        sortKeysItems_normalized rest others hothers]

theorem sortKeysEntries_normalized [PythonLibrary] [UnicodeLibrary] : (entries made : Dict) →
    normalizeEntries entries = .ok made → ∀ e ∈ made, sortKeys e.2 = e.2
  | [], made, h => by
      rw [← pure_eq_ok.mp h]
      nofun
  | (key, value) :: rest, made, h => by
      simp only [normalizeEntries, bind_eq_ok, pure_eq_ok] at h
      obtain ⟨first, hfirst, others, hothers, rfl⟩ := h
      intro e he
      rcases List.mem_cons.mp he with rfl | he
      · exact sortKeys_normalized value first hfirst
      · exact sortKeysEntries_normalized rest others hothers e he
end

section
variable [PythonLibrary] [UnicodeLibrary] [IntegerLibrary] [DatetimeLibrary] [CasefoldLibrary]
  [SqliteLibrary]
variable {workspace : String} {tokens : Tokens} {s s' : PreviewTables} {p : RuntimePlanner}
  {prior : Option (String × Prior)} {l : Lifecycle} {d : Draft} {o : Observation}
  {items : List Dict} {c : Candidate}

/-- What a candidate is saved with. -/
structure SavedWith (l : Lifecycle) (d : Draft) (items : List Dict) (c : Candidate) : Prop where
  requestId : c.arguments.binding.requestId = l.requestId
  previewId : c.arguments.binding.previewId = l.previewId
  revision : c.arguments.binding.revision = l.revision
  items : c.arguments.items = items
  payload : c.arguments.canonicalPayload = some c.canonical
  written : ∃ preview : SealedPreview, preview.planDigest = d.planDigest ∧
    preview.operationSetDigest = d.operationSetDigest ∧ preview.toDict = .ok c.canonical

omit [SqliteLibrary] [IntegerLibrary] [CasefoldLibrary] in
theorem candidate_savedWith (h : p.candidate l d o items = .ok c) : SavedWith l d items c := by
  simp only [RuntimePlanner.candidate, bind_eq_ok, pure_eq_ok] at h
  obtain ⟨evaluation, -, bound, -, authority, -, _, -, declared, -, sealedDigest, -, preview,
    hpreview, canonical, hcanonical, rfl⟩ := h
  refine ⟨rfl, rfl, rfl, rfl, rfl, preview, ?_, ?_, hcanonical⟩
  all_goals
    simp only [SealedPreview.fromDict, bind_eq_ok, orRaise_eq_ok, pure_eq_ok] at hpreview
    obtain ⟨_, -, _, -, _, -, _, -, _, -, _, -, _, -, _, -, _, -, _, -, _, -, _, -, _, -, _, -,
      planDigest, hplan, operationSetDigest, hoperations, _, -, _, -, _, -, _, -, _, -, _, -, rfl⟩ :=
        hpreview
  · exact (Value.str.inj (show Value.str d.planDigest = .str planDigest from
      (Value.nonEmptyText?_eq_some.mp hplan).1)).symm
  · exact (Value.str.inj (show Value.str d.operationSetDigest = .str operationSetDigest from
      (Value.nonEmptyText?_eq_some.mp hoperations).1)).symm

omit [SqliteLibrary] in
/-- What a save accepts is stored as it was written. -/
theorem acceptPreview_canonical {promotion : Option RuntimePromotion} {canonical : Dict}
    (hc : SavedWith l d items c)
    (h : acceptPreview workspace promotion c.arguments = .ok canonical) : canonical = c.canonical := by
  obtain ⟨preview, -, -, hwritten⟩ := hc.written
  simp only [acceptPreview, validatePreviewPayload, bind_eq_ok, raiseIf_eq_ok, orRaise_eq_ok,
    pure_eq_ok, not_not, hc.payload, Option.some.injEq] at h
  obtain ⟨_, rfl, _, -, _, ⟨_, -, parsed, -, made, hmade, _, hsame, _, -, _, -, _, -, _, -, _, -, _, -,
    _, -, _, -, _, -, _, -, _, -, _, -, _, -, _, -, _, -, _, -, rfl⟩, -, -, -, -, -, -, rfl⟩ := h
  have hself : ∀ {q : SealedPreview} {e : Dict}, q.toDict = .ok e → sortKeys (.dict e) = .dict e := by
    intro q e he
    simp only [SealedPreview.toDict, bind_eq_ok, orRaise_eq_ok, mapping?_eq_some] at he
    obtain ⟨_, hnormal, rfl⟩ := he
    exact sortKeys_normalized _ _ hnormal
  rw [hself hmade, hself hwritten, Value.dict.injEq] at hsame
  exact hsame

/-- A save that goes through is a transaction of the store. -/
theorem save_effect (hc : SavedWith l d items c)
    (h : (match c.promotion with
      | some promotion => bindAndSaveRepositoryAwarePreview p.context promotion c.arguments s
      | none => savePreviewRevision p.context c.arguments s) = .ok s') :
    Step p.workspace s s' ∧
      (s' = s ∧ s.previews.lookup (l.previewId, l.revision) =
          some ⟨l.requestId, l.previewId, l.revision, c.canonical⟩ ∨
        ∃ promotion, Saved p.workspace c.canonical promotion c.arguments s s') := by
  have heffect : ∀ promotion, savePreviewRevisionImpl p.context promotion c.arguments s = .ok s' →
      s' = s ∧ s.previews.lookup (l.previewId, l.revision) =
          some ⟨l.requestId, l.previewId, l.revision, c.canonical⟩ ∨
        ∃ promotion, Saved p.workspace c.canonical promotion c.arguments s s' := by
    intro promotion himpl
    obtain ⟨canonical, haccept, hdone⟩ := savePreviewRevisionImpl_effect himpl
    obtain rfl := acceptPreview_canonical hc haccept
    rw [hc.requestId, hc.previewId, hc.revision] at hdone
    exact hdone.imp id fun h => ⟨promotion, h⟩
  split at h
  · rename_i promotion _
    refine ⟨⟨p.context, .bindAndSaveRepositoryAwarePreview promotion c.arguments, rfl, h⟩, ?_⟩
    simp only [bindAndSaveRepositoryAwarePreview, bind_eq_ok] at h
    obtain ⟨_, -, himpl⟩ := h
    exact heffect _ himpl
  · exact ⟨⟨p.context, .savePreviewRevision c.arguments, rfl, h⟩, heffect _ h⟩

end

/-! ### A call of the planner -/

section
variable [PythonLibrary] [UnicodeLibrary] [IntegerLibrary] [DatetimeLibrary] [CasefoldLibrary]
  [SqliteLibrary]
variable {workspace : String} {tokens : Tokens} {s s' : PreviewTables} {p : RuntimePlanner}
  {prior : Option (String × Prior)} {d : Draft} {o : Observation} {items : List Dict}
  {c : Candidate}

omit [PythonLibrary] [UnicodeLibrary] [IntegerLibrary] [DatetimeLibrary] [CasefoldLibrary] in
/-- The identity of an item does not depend on how the item is written. -/
theorem Identified.same {prior : List Dict} {token : String} {x y : Dict} (hsame : SameItem x y)
    (href : x.get "client_ref" = y.get "client_ref") (hid : x.get "item_id" = y.get "item_id")
    (h : Identified prior token y) : Identified prior token x := by
  cases h with
  | kept mem ref id => exact .kept mem (ref.trans href.symm) (hid.trans id)
  | renamed new mem previous ref given id =>
      exact .renamed (href ▸ new) mem (hsame.columnText _ previous ▸ previous) ref given
        (hid.trans id)
  | drawn new previous id =>
      have hnull := hsame "previous_client_ref"
      rw [previous] at hnull
      exact .drawn (href ▸ new) (sortKeys_eq_null.mp hnull) (hid.trans id)

/-- The items that are saved are those that were identified. -/
theorem Saved.identified {canonical : Dict} {promotion : Option RuntimePromotion}
    {a : SaveArguments} {prior : List Dict}
    (h : Saved workspace canonical promotion a s s') (hitems : IdentifiedAll prior tokens a.items) :
    IdentifiedAll prior tokens (itemsOf canonical) := by
  intro i x hx
  obtain ⟨hlength, heach⟩ := List.forall₂_iff_get.mp (acceptPreview_items h.accepted)
  obtain ⟨hlt, rfl⟩ := List.getElem?_eq_some_iff.mp hx
  have hsame := heach i hlt (hlength ▸ hlt)
  obtain ⟨href, hid, -⟩ := Saved.item_column h hsame (List.get_mem _ _)
  exact (hitems i _ (List.getElem?_eq_getElem (hlength ▸ hlt))).same hsame href hid

/-- A revision that is saved is the one after the revision that was read. -/
theorem saved_planned {l : Lifecycle} (hl : l = lifecycle tokens prior d o)
    (hknown : Known workspace prior s) (hc : SavedWith l d items c)
    (hitems : IdentifiedAll (priorItems prior) tokens items) {promotion : Option RuntimePromotion}
    (h : Saved workspace c.canonical promotion c.arguments s s') :
    Planned workspace tokens s s' := by
  subst hl
  have hidentified : IdentifiedAll (priorItems prior) tokens (itemsOf c.canonical) :=
    Saved.identified h (hc.items ▸ hitems)
  cases prior with
  | none => exact .first h hc.revision hidentified
  | some e =>
      obtain ⟨previewId, prior⟩ := e
      have hstored := hknown.stored _ rfl
      have hid : c.arguments.binding.previewId = previewId := hc.previewId
      have hrevision : c.arguments.binding.revision = prior.revision d o := hc.revision
      have habove : prior.saved.revision < prior.revision d o := by
        obtain ⟨latest, hlatest, hle⟩ := Rows.exists_latestRevision hstored
        exact hle.trans_lt (hrevision ▸ h.above latest (hid ▸ hlatest))
      have hnext : prior.revision d o = prior.saved.revision + 1 := by
        unfold Prior.revision at habove ⊢
        split_ifs at habove ⊢
        · exact absurd habove (lt_irrefl _)
        · rfl
      have hprior : s.previews.lookup (c.arguments.binding.previewId,
          c.arguments.binding.revision - 1) = some prior.saved := by
        rw [hid, hrevision, hnext, Int.add_sub_cancel]
        exact hstored
      exact .next h hprior hc.requestId hidentified

/-- What was saved is there, whatever the others do. -/
def StoredAs (workspace : String) (l : Lifecycle) (canonical : Dict) (s : PreviewTables) : Prop :=
  Reachable workspace s ∧ s.previews.lookup (l.previewId, l.revision) =
    some ⟨l.requestId, l.previewId, l.revision, canonical⟩

theorem StoredAs.stable {l : Lifecycle} {canonical : Dict} :
    (contract workspace tokens).Stable (StoredAs workspace l canonical) :=
  fun _ _ hrun h => ⟨h.1.trans hrun, (run_grows hrun).previews _ _ h.2⟩

theorem save_does (hworkspace : p.workspace = workspace) {l : Lifecycle}
    (hl : l = lifecycle tokens prior d o) (hc : SavedWith l d items c)
    (hitems : IdentifiedAll (priorItems prior) tokens items) :
    (contract workspace tokens).Does (Known workspace prior) (p.save c)
      (fun _ => StoredAs workspace l c.canonical) fun _ => Known workspace prior := by
  subst hworkspace
  refine .transaction (Known.stable prior) (fun s a s' hknown h => ?_) fun s e hknown _ => hknown
  obtain ⟨s'', hsave, heq⟩ := map_eq_ok.mp h
  obtain rfl := (Prod.mk.inj heq).2
  obtain ⟨hstep, ⟨rfl, hstored⟩ | ⟨promotion, hsaved⟩⟩ := save_effect hc hsave
  · exact ⟨.unchanged, hknown.reachable, hstored⟩
  · refine ⟨saved_planned hl hknown hc hitems hsaved, hknown.reachable.tail hstep, ?_⟩
    rw [← hc.requestId, ← hc.previewId, ← hc.revision, Rows.lookup_insert hsaved.previews,
      if_pos rfl]

/-- What a call answers: a stored Preview that says what the plan says, and whether it is eligible
for approval. -/
def Answers (p : RuntimePlanner) (plan : Dict) (result : Dict) (s : PreviewTables) : Prop :=
  ∃ d l o items c saved eligible auditContextDigest, draft plan = .ok d ∧
    p.candidate l d o items = .ok c ∧
    s.previews.lookup (saved.previewId, saved.revision) = some saved ∧
    Dict.get saved.canonicalPayload "plan_digest" = c.canonical.get "plan_digest" ∧
    Dict.get saved.canonicalPayload "operation_set_digest" = c.canonical.get "operation_set_digest" ∧
    (eligible = true ↔ Eligible saved.canonicalPayload) ∧
    result = report saved.canonicalPayload eligible auditContextDigest

theorem returnExistingCandidate_does (hworkspace : p.workspace = workspace)
    (winner : SavedPreview) :
    (contract workspace tokens).Does (fun s => Reachable workspace s ∧
        s.previews.lookup (winner.previewId, winner.revision) = some winner)
      (p.returnExistingCandidate winner) (fun result s =>
        s.previews.lookup (winner.previewId, winner.revision) = some winner ∧
          ∃ eligible auditContextDigest, (eligible = true ↔ Eligible winner.canonicalPayload) ∧
            result = report winner.canonicalPayload eligible auditContextDigest)
      fun _ _ => True := by
  subst hworkspace
  refine .bind ((evidenceOf_does _ fun s s' hrun h => ⟨h.1.trans hrun,
    (run_grows hrun).previews _ _ h.2⟩).weaken (fun _ => id) (fun _ _ => id) fun _ _ _ => trivial)
    fun evidence => .bind (.ofExcept (fun _ _ _ => id) fun _ _ _ _ => trivial) fun context =>
    .bind (R := fun eligible s => (eligible = true ↔ Eligible winner.canonicalPayload) ∧
      s.previews.lookup (winner.previewId, winner.revision) = some winner)
      (.ofExcept (fun eligible s heligible h => ⟨?_, h.2⟩) fun _ _ _ _ => trivial) fun eligible =>
    .pure fun s h => ⟨h.2, eligible, context, h.1, rfl⟩
  rw [← ((reachable_contents h.1).accepted h.2).eligible_iff.2, heligible, Except.ok.injEq]

theorem yielded_does (hworkspace : p.workspace = workspace) {plan : Dict} {l : Lifecycle}
    (hd : draft plan = .ok d) (hc : p.candidate l d o items = .ok c) :
    (contract workspace tokens).Does (Known workspace prior) (p.yielded l c) (Answers p plan)
      fun _ _ => True := by
  subst hworkspace
  have hstable : ∀ saved : SavedPreview, (contract p.workspace tokens).Stable fun s =>
      Reachable p.workspace s ∧ s.previews.lookup (saved.previewId, saved.revision) = some saved :=
    fun saved s s' hrun h => ⟨h.1.trans hrun, (run_grows hrun).previews _ _ h.2⟩
  refine .bind (R := fun saved s => Reachable p.workspace s ∧
    s.previews.lookup (saved.previewId, saved.revision) = some saved)
    (.observe (Known.stable prior) (fun s saved h hread => ?_) fun _ _ _ _ => trivial)
    fun winner => .bind ((evidenceOf_does _ (hstable winner)).weaken (fun _ => id) (fun _ _ => id)
      fun _ _ _ => trivial) fun evidence =>
    .bind (R := fun ours s => stateFingerprint c.canonical c.arguments.evidenceRecords = .ok ours ∧
      Reachable p.workspace s ∧ s.previews.lookup (winner.previewId, winner.revision) = some winner)
      (.ofExcept (fun _ _ h hs => ⟨h, hs⟩) fun _ _ _ _ => trivial) fun ours =>
    .of_prop fun hours =>
    .bind (R := fun theirs s => stateFingerprint winner.canonicalPayload evidence = .ok theirs ∧
      Reachable p.workspace s ∧ s.previews.lookup (winner.previewId, winner.revision) = some winner)
      (.ofExcept (fun _ _ h hs => ⟨h, hs⟩) fun _ _ _ _ => trivial) fun theirs =>
    .of_prop fun htheirs => ?_
  · obtain ⟨hstored, hid⟩ := getPreview_stored (reachable_contents h.reachable) hread
    exact ⟨h.reachable, hid.symm ▸ hstored⟩
  · split_ifs with hdiffer
    · exact .bind (R := fun _ _ => False) (.throw fun _ _ => trivial) fun _ w hw =>
        absurd hw.state id
    · obtain rfl : ours = theirs := not_not.mp hdiffer
      have hsame : Dict.get winner.canonicalPayload "plan_digest" = c.canonical.get "plan_digest" ∧
          Dict.get winner.canonicalPayload "operation_set_digest" =
            c.canonical.get "operation_set_digest" := by
        simp only [stateFingerprint, bind_eq_ok, pure_eq_ok] at hours htheirs
        obtain ⟨_, -, _, -, rfl⟩ := hours
        obtain ⟨_, -, _, -, heq⟩ := htheirs
        simp only [Prod.mk.injEq] at heq
        exact ⟨heq.1, heq.2.1⟩
      refine (returnExistingCandidate_does rfl winner).weaken (fun _ => id)
        (fun result s h => ?_) fun _ _ => id
      obtain ⟨hstored, eligible, context, heligible, rfl⟩ := h
      exact ⟨d, l, o, items, c, winner, eligible, context, hd, hc, hstored, hsame.1, hsame.2,
        heligible, rfl⟩

theorem finish_does (hworkspace : p.workspace = workspace) {plan : Dict} {l : Lifecycle}
    (hl : l = lifecycle tokens prior d o) (hd : draft plan = .ok d)
    (hc : p.candidate l d o items = .ok c)
    (hitems : IdentifiedAll (priorItems prior) tokens items) :
    (contract workspace tokens).Does (Known workspace prior) (p.finish l c) (Answers p plan)
      fun _ _ => True := by
  have hsave := save_does hworkspace hl (candidate_savedWith hc) hitems
  have hattempt : (contract workspace tokens).Does (Known workspace prior) (p.save c).attempt
      (fun result s => Ends (fun _ => StoredAs workspace l c.canonical)
        (fun _ => Known workspace prior) (result, s)) fun _ _ => True := hsave.attempt
  refine .bind hattempt fun saved => ?_
  cases saved with
  | ok _ =>
      refine .bind (.ofExcept (fun _ _ _ => id) fun _ _ _ _ => trivial) fun context =>
        .pure fun s h => ?_
      have heligible := ((reachable_contents h.1).accepted h.2).eligible_iff.1
      exact ⟨d, l, o, items, c, ⟨l.requestId, l.previewId, l.revision, c.canonical⟩,
        decide (c.canonical.get "preview_level" = .str "WriteEligible"), context, hd, hc, h.2, rfl,
        rfl, decide_eq_true_iff.trans heligible, rfl⟩
  | error e =>
      dsimp only
      split_ifs
      · exact yielded_does hworkspace hd hc
      · exact .throw fun _ _ => trivial

/-- Whatever the others do, a call adds a revision as it should or nothing, and what it answers is
stored. -/
theorem preview_does (hworkspace : p.workspace = workspace) (plan : Dict)
    (previousPreviewId : Option String) :
    (contract workspace tokens).Does (Known workspace none)
      (p.preview tokens plan previousPreviewId) (Answers p plan) fun _ _ => True := by
  refine .bind (R := fun d s => draft plan = .ok d ∧ Known workspace none s)
    (.ofExcept (fun _ _ h hs => ⟨h, hs⟩) fun _ _ _ _ => trivial) fun d => .of_prop fun hd =>
    .bind (.ofExcept (fun _ _ _ => id) fun _ _ _ _ => trivial) fun o =>
    .bind (R := fun prior => Known workspace prior) ?_ fun prior =>
    .bind (sealedItems_does hworkspace d) fun items => .of_prop fun hitems =>
    .bind (R := fun c s => p.candidate (lifecycle tokens prior d o) d o items = .ok c ∧
      Known workspace prior s) (.ofExcept (fun _ _ h hs => ⟨h, hs⟩) fun _ _ _ _ => trivial)
      fun c => .of_prop fun hc => finish_does hworkspace rfl hd hc hitems
  cases previousPreviewId with
  | none => exact .pure fun _ => id
  | some previewId =>
      exact .bind (.bind (prior_does hworkspace previewId) fun prior => .pure fun _ => id)
        fun e => .pure fun _ => id

end

end DeliverySystem.PlannedRevisions

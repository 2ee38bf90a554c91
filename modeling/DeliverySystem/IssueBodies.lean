import DeliverySystem.AttestationRecords
import DeliverySystem.IssueCommands
import DeliverySystem.PreviewEligibility
import DeliverySystem.ReferenceLibrary

/-!
# Issue bodies

The body of a created issue shows the fields of an approved item, each under its
heading as one line of JSON. Whatever a field holds, it stays in its line, so the
body is read back as the headings and the values that it was made of.
-/
namespace DeliverySystem.IssueBodies
open PythonValues CanonicalValues JsonText IssueCommands AttestationRecords
set_option autoImplicit false

/-! ## Blocks of lines -/

section
variable {α : Type} [DecidableEq α] (sep : α)

omit [DecidableEq α] in
/-- Parts that are set apart by two separators are lines set apart by an empty one. -/
theorem intercalate_twice (parts : List (List α)) :
    [sep, sep].intercalate parts =
      [sep].intercalate ([[]].intercalate (parts.map fun part => [part])) := by
  induction parts with
  | nil => rfl
  | cons part parts ih =>
      cases parts with
      | nil => simp
      | cons next parts =>
          rw [List.intercalate_cons_cons, ih]
          simp [List.intercalate_cons_cons]

/-- Parts that are set apart by an empty line are read back. -/
theorem splitOn_twice {parts : List (List α)} (hne : parts ≠ [])
    (hparts : ∀ part ∈ parts, part ≠ [] ∧ sep ∉ part) :
    (([sep, sep].intercalate parts).splitOn sep).splitOn [] = parts.map fun part => [part] := by
  have hlines : ∀ line ∈ [[]].intercalate (parts.map fun part => [part]), sep ∉ line := by
    intro line hline
    rcases TextLines.mem_intercalate hline with rfl | ⟨group, hgroup, hline⟩
    · exact List.not_mem_nil
    · obtain ⟨part, hpart, rfl⟩ := List.mem_map.mp hgroup
      rw [List.mem_singleton.mp hline]
      exact (hparts part hpart).2
  have hsome : [[]].intercalate (parts.map fun part => [part]) ≠ [] := by
    cases parts with
    | nil => exact absurd rfl hne
    | cons part rest => cases rest <;> simp
  rw [intercalate_twice, List.splitOn_intercalate sep hlines hsome]
  apply List.splitOn_intercalate
  · intro group hgroup hempty
    obtain ⟨part, hpart, rfl⟩ := List.mem_map.mp hgroup
    exact (hparts part hpart).1 (List.mem_singleton.mp hempty).symm
  · simpa using hne

end

/-- Joining groups that were joined by the same separator joins all their parts. -/
theorem intercalate_groups {sep : String} {groups : List (List String)}
    (h : ∀ group ∈ groups, group ≠ []) :
    sep.intercalate (groups.map sep.intercalate) = sep.intercalate groups.flatten := by
  induction groups with
  | nil => rfl
  | cons group groups ih =>
      have hgroup := h group List.mem_cons_self
      have ih := ih fun g hg => h g (List.mem_cons_of_mem _ hg)
      cases groups with
      | nil => simp
      | cons next groups =>
          have hnext : (next :: groups).flatten ≠ [] := by
            have hne := h next (by simp)
            simp [hne]
          rw [List.flatten_cons, String.intercalate_append_of_ne_nil hgroup hnext, ← ih,
            List.map_cons, List.map_cons, String.intercalate_cons_cons]

/-- The blocks of lines that blank lines set apart. -/
def blocks (text : String) : List (List String) :=
  ((text.toList.splitOn '\n').splitOn []).map fun block => block.map String.ofList

theorem blocks_join {parts : List String} (hne : parts ≠ [])
    (hparts : ∀ part ∈ parts, part ≠ "" ∧ '\n' ∉ part.toList) :
    blocks ("\n\n".intercalate parts) = parts.map fun part => [part] := by
  have hbreak : "\n\n".toList = ['\n', '\n'] := rfl
  have hlists : ∀ part ∈ parts.map String.toList, part ≠ [] ∧ '\n' ∉ part := by
    intro part hpart
    obtain ⟨text, htext, rfl⟩ := List.mem_map.mp hpart
    obtain ⟨hsome, hbreakless⟩ := hparts text htext
    exact ⟨by simpa using hsome, hbreakless⟩
  rw [blocks, String.toList_intercalate, hbreak,
    splitOn_twice '\n' (by simpa using hne) hlists]
  simp

/-! ## Approved items -/

mutual
/-- A value as Python holds it: the keys of a mapping differ, and a float is finite. -/
def WellFormed : Value → Prop
  | .null | .bool _ | .int _ | .str _ => True
  | .float literal => FloatText literal
  | .list items | .tuple items => WellFormedItems items
  | .dict entries => (entries.map Prod.fst).Nodup ∧ WellFormedEntries entries

def WellFormedItems : List Value → Prop
  | [] => True
  | item :: rest => WellFormed item ∧ WellFormedItems rest

def WellFormedEntries : Dict → Prop
  | [] => True
  | (_, value) :: rest => WellFormed value ∧ WellFormedEntries rest
end

mutual
/-- `_thaw_runtime_value(_freeze_runtime_value(value))`, which every item of
`canonical_items` went through: tuples have become lists. -/
def thaw : Value → Value
  | .list items | .tuple items => .list (thawItems items)
  | .dict entries => .dict (thawEntries entries)
  | v => v

def thawItems : List Value → List Value
  | [] => []
  | item :: rest => thaw item :: thawItems rest

def thawEntries : Dict → Dict
  | [] => []
  | (key, value) :: rest => (key, thaw value) :: thawEntries rest
end

/-- A value of an approved item. -/
structure Sealed (v : Value) : Prop where
  wellFormed : WellFormed v
  thawed : thaw v = v

mutual
theorem thaw_thaw : (v : Value) → thaw (thaw v) = thaw v
  | .null | .bool _ | .int _ | .float _ | .str _ => rfl
  | .list items | .tuple items => congrArg Value.list (thawItems_thawItems items)
  | .dict entries => congrArg Value.dict (thawEntries_thawEntries entries)

theorem thawItems_thawItems : (items : List Value) → thawItems (thawItems items) = thawItems items
  | [] => rfl
  | item :: rest => congrArg₂ List.cons (thaw_thaw item) (thawItems_thawItems rest)

theorem thawEntries_thawEntries : (entries : Dict) →
    thawEntries (thawEntries entries) = thawEntries entries
  | [] => rfl
  | (key, value) :: rest => congrArg₂ List.cons (congrArg (Prod.mk key) (thaw_thaw value))
      (thawEntries_thawEntries rest)
end

theorem keys_thawEntries (entries : Dict) :
    (thawEntries entries).map Prod.fst = entries.map Prod.fst := by
  induction entries with
  | nil => rfl
  | cons entry entries ih =>
      obtain ⟨key, value⟩ := entry
      simp [thawEntries, ih]

mutual
theorem thaw_wellFormed : (v : Value) → WellFormed v → WellFormed (thaw v)
  | .null, h | .bool _, h | .int _, h | .float _, h | .str _, h => h
  | .list items, h | .tuple items, h => thawItems_wellFormed items h
  | .dict entries, h => ⟨by rw [keys_thawEntries]; exact h.1, thawEntries_wellFormed entries h.2⟩

theorem thawItems_wellFormed :
    (items : List Value) → WellFormedItems items → WellFormedItems (thawItems items)
  | [], h => h
  | item :: rest, h => ⟨thaw_wellFormed item h.1, thawItems_wellFormed rest h.2⟩

theorem thawEntries_wellFormed :
    (entries : Dict) → WellFormedEntries entries → WellFormedEntries (thawEntries entries)
  | [], h => h
  | (_, value) :: rest, h => ⟨thaw_wellFormed value h.1, thawEntries_wellFormed rest h.2⟩
end

/-- Whatever is approved is sealed once it went through `canonical_items`. -/
theorem sealed_thaw {v : Value} (h : WellFormed v) : Sealed (thaw v) :=
  ⟨thaw_wellFormed v h, thaw_thaw v⟩

theorem Sealed.entry {entries : Dict} (h : Sealed (.dict entries)) {e : String × Value}
    (he : e ∈ entries) : Sealed e.2 := by
  obtain ⟨⟨-, hentries⟩, hthawed⟩ := h
  replace hthawed : thawEntries entries = entries := Value.dict.inj hthawed
  induction entries with
  | nil => exact absurd he List.not_mem_nil
  | cons entry entries ih =>
      obtain ⟨key, value⟩ := entry
      rw [thawEntries, List.cons.injEq] at hthawed
      rcases List.mem_cons.mp he with rfl | he
      · exact ⟨hentries.1, (Prod.mk.inj hthawed.1).2⟩
      · exact ih he hentries.2 hthawed.2

theorem Sealed.get {entries : Dict} (h : Sealed (.dict entries)) (key : String) :
    Sealed (Dict.get entries key) := by
  rw [Dict.get]
  cases hvalue : entries.lookup key with
  | none => exact ⟨trivial, rfl⟩
  | some value =>
      obtain ⟨before, after, rfl, -⟩ := List.lookup_eq_some_iff.mp hvalue
      exact h.entry (e := (key, value)) (by simp)

/-! ## Values in one line -/

mutual
theorem render_sortKeys (text : String → List Char) :
    (v : Value) → render text (sortKeys v) = render text v
  | .null | .bool _ | .int _ | .float _ | .str _ => rfl
  | .list items | .tuple items => by
      simp only [sortKeys, render, renderItems_sortKeys text items]
  | .dict entries => by
      have hsorted : ∀ xs : List (String × List Char),
          (sortEntries xs).insertionSort (fun a b => a.1 ≤ b.1) = sortEntries xs :=
        fun xs => (sortEntries_pairwise xs).insertionSort_eq
      have hcommute : renderEntries text (sortEntries (sortKeysEntries entries)) =
          sortEntries (renderEntries text entries) := by
        rw [← renderEntries_sortKeys text entries, renderEntries_eq_map, renderEntries_eq_map]
        exact List.map_insertionSort _ _ _ _ fun _ _ _ _ => Iff.rfl
      simp only [sortKeys, render, hcommute, hsorted]
      rfl

theorem renderItems_sortKeys (text : String → List Char) :
    (items : List Value) → renderItems text (sortKeysItems items) = renderItems text items
  | [] => rfl
  | item :: rest => congrArg₂ List.cons (render_sortKeys text item)
      (renderItems_sortKeys text rest)

theorem renderEntries_sortKeys (text : String → List Char) :
    (entries : Dict) → renderEntries text (sortKeysEntries entries) = renderEntries text entries
  | [] => rfl
  | (key, value) :: rest => congrArg₂ List.cons
      (congrArg (Prod.mk key) (render_sortKeys text value)) (renderEntries_sortKeys text rest)
end

mutual
/-- With its keys in order a sealed value is what JSON text holds as it is. -/
theorem sortKeys_plain : (v : Value) → WellFormed v → thaw v = v → Plain (sortKeys v)
  | .null, _, _ | .bool _, _, _ | .int _, _, _ | .str _, _, _ => trivial
  | .float _, h, _ => h
  | .list items, h, hthawed => sortKeysItems_plain items h (Value.list.inj hthawed)
  | .tuple _, _, hthawed => nomatch hthawed
  | .dict entries, h, hthawed => by
      have hentries := sortKeysEntries_plain entries h.2 (Value.dict.inj hthawed)
      have hkeys : ((sortKeysEntries entries).map Prod.fst).Nodup := by
        rw [PreviewEligibility.keys_sortKeysEntries]
        exact h.1
      refine ⟨sortEntries_sorted hkeys, AuthorityBindings.plainEntries_of_forall fun e he => ?_⟩
      exact hentries e ((sortEntries_perm _).mem_iff.mp he)

theorem sortKeysItems_plain : (items : List Value) → WellFormedItems items →
    thawItems items = items → PlainItems (sortKeysItems items)
  | [], _, _ => trivial
  | item :: rest, h, hthawed =>
      have hboth := List.cons.inj hthawed
      ⟨sortKeys_plain item h.1 hboth.1, sortKeysItems_plain rest h.2 hboth.2⟩

theorem sortKeysEntries_plain : (entries : Dict) → WellFormedEntries entries →
    thawEntries entries = entries → ∀ e ∈ sortKeysEntries entries, Plain e.2
  | [], _, _ => fun _ he => absurd he List.not_mem_nil
  | (key, value) :: rest, h, hthawed => by
      have hboth := List.cons.inj hthawed
      intro e he
      rcases List.mem_cons.mp he with rfl | he
      · exact sortKeys_plain value h.1 (Prod.mk.inj hboth.1).2
      · exact sortKeysEntries_plain rest h.2 hboth.2 e he
end

/-- A sealed value is written in one line, from which it is read back. -/
theorem Sealed.one_line {v : Value} (h : Sealed v) :
    '\n' ∉ (dumps v).toList ∧ loads jsonObject (dumps v) = some (sortKeys v) := by
  have hplain := sortKeys_plain v h.wellFormed h.thawed
  have hsame : dumps v = dumps (sortKeys v) := by
    rw [dumps, dumps, render_sortKeys]
  rw [hsame]
  refine ⟨?_, loads_dumps jsonObject_keeps hplain⟩
  rw [dumps, String.toList_ofList]
  exact render_breakless String.toList _ hplain

/-! ## The body of an item -/

def headings : List String :=
  ["Client reference", "Role", "Context / Problem", "Outcome", "Scope", "Non-goals",
    "Acceptance criteria", "Verification", "Required capabilities",
    "Write metadata (informational only)"]

/-- The fields that a body shows after the client reference. -/
def shownFields : List String :=
  ["role", "context_problem", "outcome", "scope", "non_goals", "acceptance_criteria",
    "verification", "required_capabilities", "write_metadata"]

/-- The values that a body shows. -/
def shownValues (item : Dict) : Py (List Value) := do
  let values ← shownFields.mapM (source item)
  pure (Dict.get item "client_ref" :: values)

/-- The values that a command to create an issue shows. -/
def projectedValues (item : Dict) : Py (List Value) := do
  let title ← source item "title"
  let values ← shownValues item
  pure (title :: values)

/-- The blocks of one section: its heading, and a value in an indented line. -/
def sectionBlocks (heading line : String) : List (List String) :=
  [["## " ++ heading], ["    " ++ line]]

theorem source_sealed {item : Dict} {field : String} {v : Value} (hsealed : Sealed (.dict item))
    (h : source item field = .ok v) : Sealed v := by
  simp only [source, bind_eq_ok, orRaise_eq_ok, pure_eq_ok] at h
  obtain ⟨sourced, hsourced, -, -, -, -, rfl⟩ := h
  have hfield := hsealed.get field
  cases hvalue : Dict.get item field with
  | dict entries =>
      rw [hvalue] at hsourced hfield
      obtain rfl := Option.some.inj hsourced
      exact hfield.get "value"
  | _ => simp [hvalue, Value.mapping?] at hsourced

theorem shownValues_sealed {item : Dict} {values : List Value} (hsealed : Sealed (.dict item))
    (h : shownValues item = .ok values) : ∀ v ∈ values, Sealed v := by
  simp only [shownValues, bind_eq_ok, pure_eq_ok] at h
  obtain ⟨shown, hshown, rfl⟩ := h
  intro v hv
  rcases List.mem_cons.mp hv with rfl | hv
  · exact hsealed.get "client_ref"
  · obtain ⟨field, -, hfield⟩ := exists_of_mem_mapM hshown hv
    exact source_sealed hsealed hfield

def sectionText (heading line : String) : String := "## " ++ heading ++ "\n\n    " ++ line

/-- The two parts of a section that a blank line sets apart. -/
def sectionParts (heading line : String) : List String := ["## " ++ heading, "    " ++ line]

theorem sectionText_eq (heading line : String) :
    sectionText heading line = "\n\n".intercalate (sectionParts heading line) := by
  have hindent : "\n\n    " = "\n\n" ++ "    " := rfl
  rw [sectionText, sectionParts, String.intercalate_cons_cons, String.intercalate_singleton,
    hindent]
  simp only [String.append_assoc]

theorem sectionParts_one_line {heading line : String} (hheading : '\n' ∉ heading.toList)
    (hline : '\n' ∉ line.toList) :
    ∀ part ∈ sectionParts heading line, part ≠ "" ∧ '\n' ∉ part.toList := by
  intro part hpart
  simp only [sectionParts, List.mem_cons, List.not_mem_nil, or_false] at hpart
  rcases hpart with rfl | rfl
  all_goals
    refine ⟨append_ne_empty (by decide), ?_⟩
    rw [String.toList_append, List.mem_append, not_or]
    exact ⟨by decide, by assumption⟩

theorem headings_one_line : ∀ heading ∈ headings, '\n' ∉ heading.toList := by decide

/-- Sections whose lines hold no line break are read back from the text. -/
theorem blocks_sections {titles lines : List String} (hlength : lines.length = titles.length)
    (hne : titles ≠ []) (htitles : ∀ title ∈ titles, '\n' ∉ title.toList)
    (hlines : ∀ line ∈ lines, '\n' ∉ line.toList) :
    blocks ("\n\n".intercalate (titles.zipWith sectionText lines)) =
      (titles.zipWith sectionBlocks lines).flatten := by
  have htexts : titles.zipWith sectionText lines =
      (titles.zipWith sectionParts lines).map "\n\n".intercalate := by
    rw [List.map_zipWith]
    congr 1
    funext heading line
    exact sectionText_eq heading line
  have hgroups : ∀ group ∈ titles.zipWith sectionParts lines, ∃ title ∈ titles, ∃ line ∈ lines,
      group = sectionParts title line := by
    intro group hgroup
    obtain ⟨i, hi, rfl⟩ := List.mem_iff_getElem.mp hgroup
    rw [List.length_zipWith] at hi
    rw [List.getElem_zipWith]
    exact ⟨_, List.getElem_mem _, _, List.getElem_mem _, rfl⟩
  have hparts : ∀ part ∈ (titles.zipWith sectionParts lines).flatten,
      part ≠ "" ∧ '\n' ∉ part.toList := by
    intro part hpart
    obtain ⟨group, hgroup, hpart⟩ := List.mem_flatten.mp hpart
    obtain ⟨title, htitle, line, hline, rfl⟩ := hgroups group hgroup
    exact sectionParts_one_line (htitles title htitle) (hlines line hline) part hpart
  have hsome : (titles.zipWith sectionParts lines).flatten ≠ [] := by
    cases titles with
    | nil => exact absurd rfl hne
    | cons title titles =>
        cases lines with
        | nil => cases hlength
        | cons line lines => simp [sectionParts]
  rw [htexts, intercalate_groups, blocks_join hsome hparts, List.map_flatten, List.map_zipWith]
  · rfl
  · intro group hgroup
    obtain ⟨title, -, line, -, rfl⟩ := hgroups group hgroup
    exact List.cons_ne_nil _ _

/-- The lines of the sections can be told from their blocks. -/
theorem sectionBlocks_inj {titles lines lines' : List String}
    (hlines : lines.length = titles.length) (hlines' : lines'.length = titles.length)
    (h : (titles.zipWith sectionBlocks lines).flatten =
      (titles.zipWith sectionBlocks lines').flatten) : lines = lines' := by
  induction titles generalizing lines lines' with
  | nil =>
      rw [List.length_nil, List.length_eq_zero_iff] at hlines hlines'
      rw [hlines, hlines']
  | cons title titles ih =>
      obtain ⟨line, rest, rfl⟩ := List.exists_cons_of_length_eq_add_one hlines
      obtain ⟨line', rest', rfl⟩ := List.exists_cons_of_length_eq_add_one hlines'
      simp only [List.zipWith_cons_cons, List.flatten_cons, sectionBlocks, List.cons_append,
        List.nil_append, List.cons.injEq, true_and, and_true, String.append_right_inj] at h
      simp only [List.length_cons, Nat.add_right_cancel_iff] at hlines hlines'
      rw [h.1, ih hlines hlines' h.2]

section
variable [PythonLibrary]

/-- What `json.dumps` is documented to write. -/
class LawfulJson : Prop where
  dumps_eq : ∀ v, WellFormed v → PythonLibrary.jsonDumps v = dumps v

theorem renderCreateIssue_shows {item : Dict} {title body : String}
    (h : renderCreateIssue item = .ok (title, body)) : source item "title" = .ok (.str title) ∧
      ∃ values, shownValues item = .ok values ∧ values.length = headings.length ∧
        body = "\n\n".intercalate (headings.zipWith bodySection values) := by
  simp only [renderCreateIssue, bind_eq_ok, orRaise_eq_ok, raiseIf_eq_ok, pure_eq_ok,
    Value.nonEmptyText?_eq_some, Prod.mk.injEq] at h
  obtain ⟨clientRef, ⟨hclientRef, -⟩, role, hrole, title', htitle, context, hcontext, outcome,
    houtcome, scope, hscope, nonGoals, hnonGoals, criteria, hcriteria, verification,
    hverification, capabilities, hcapabilities, metadata, hmetadata, text, ⟨rfl, -⟩, -, -, -, -,
    rfl, rfl⟩ := h
  refine ⟨htitle, [.str clientRef, role, context, outcome, scope, nonGoals, criteria,
    verification, capabilities, metadata], ?_, rfl, rfl⟩
  simp only [shownValues, shownFields, List.mapM_cons, List.mapM_nil, bind_eq_ok, pure_eq_ok]
  simp [hrole, hcontext, houtcome, hscope, hnonGoals, hcriteria, hverification, hcapabilities,
    hmetadata, hclientRef]

/-- The body of a sealed item is its headings, each over the line of its value. -/
theorem renderCreateIssue_blocks [LawfulJson] {item : Dict} {title body : String}
    (hsealed : Sealed (.dict item)) (h : renderCreateIssue item = .ok (title, body)) :
    ∃ lines values, lines.length = 10 ∧
      blocks body = (headings.zipWith sectionBlocks lines).flatten ∧
      shownValues item = .ok values ∧
      lines.map (loads jsonObject) = values.map fun v => some (sortKeys v) := by
  obtain ⟨-, values, hshown, hlength, rfl⟩ := renderCreateIssue_shows h
  have hvalues := shownValues_sealed hsealed hshown
  have hlines : (values.map dumps).length = headings.length := by rw [List.length_map, hlength]
  refine ⟨values.map dumps, values, hlines, ?_, hshown, ?_⟩
  · have hwritten : values.map PythonLibrary.jsonDumps = values.map dumps :=
      List.map_congr_left fun v hv => LawfulJson.dumps_eq v (hvalues v hv).wellFormed
    have hsections : headings.zipWith bodySection values =
        headings.zipWith sectionText (values.map dumps) := by
      rw [← hwritten, List.zipWith_map_right]
      rfl
    rw [hsections]
    refine blocks_sections hlines (List.cons_ne_nil _ _) headings_one_line fun line hline => ?_
    obtain ⟨v, hv, rfl⟩ := List.mem_map.mp hline
    exact (hvalues v hv).one_line.1
  · rw [List.map_map]
    exact List.map_congr_left fun v hv => (hvalues v hv).one_line.2

/-- An accepted item can be told from the issue that it creates. -/
theorem body_reads_back [LawfulJson] {item : Dict} {title body : String}
    (hsealed : Sealed (.dict item)) (h : renderCreateIssue item = .ok (title, body)) :
    (∃ lines values, lines.length = 10 ∧
      blocks body = (headings.zipWith sectionBlocks lines).flatten ∧
      shownValues item = .ok values ∧
      lines.map (loads jsonObject) = values.map fun v => some (sortKeys v)) ∧
    ∀ other, Sealed (.dict other) → renderCreateIssue other = .ok (title, body) →
      ∃ values values', projectedValues item = .ok values ∧ projectedValues other = .ok values' ∧
        values.map sortKeys = values'.map sortKeys := by
  refine ⟨renderCreateIssue_blocks hsealed h, fun other hother h' => ?_⟩
  obtain ⟨htitle, -⟩ := renderCreateIssue_shows h
  obtain ⟨htitle', -⟩ := renderCreateIssue_shows h'
  obtain ⟨lines, values, hlength, hblocks, hshown, hread⟩ := renderCreateIssue_blocks hsealed h
  obtain ⟨lines', values', hlength', hblocks', hshown', hread'⟩ :=
    renderCreateIssue_blocks hother h'
  have htitles : headings.length = 10 := rfl
  rw [← htitles] at hlength hlength'
  obtain rfl := sectionBlocks_inj hlength hlength' (hblocks.symm.trans hblocks')
  have hsame : values.map sortKeys = values'.map sortKeys := by
    apply List.map_injective_iff.mpr (Option.some_injective Value)
    rw [List.map_map, List.map_map]
    exact hread.symm.trans hread'
  refine ⟨.str title :: values, .str title :: values', ?_, ?_, ?_⟩
  · simp [projectedValues, htitle, hshown, bind, Except.bind, pure, Except.pure]
  · simp [projectedValues, htitle', hshown', bind, Except.bind, pure, Except.pure]
  · rw [List.map_cons, List.map_cons, hsame]

end

/-! ## An item that imitates sections -/

section
attribute [local instance] ReferenceLibrary.referenceLibrary

theorem referenceLibrary_json : LawfulJson := ⟨fun _ _ => rfl⟩

/-- Its outcome ends the section and writes the next one. -/
def imitatingItem : Dict :=
  [("client_ref", .str "A"), ("role", ExecutionContexts.sourcedField (.str "task")),
    ("title", ExecutionContexts.sourcedField (.str "First")),
    ("context_problem", ExecutionContexts.sourcedField (.float "0.5")),
    ("outcome", ExecutionContexts.sourcedField (.str "o\"\n\n## Scope\n\n    \"everything\"")),
    ("scope", ExecutionContexts.sourcedField (.str "s")),
    ("non_goals", ExecutionContexts.sourcedField (.list [.str "\n\n"])),
    ("acceptance_criteria", ExecutionContexts.sourcedField (.list [])),
    ("verification", ExecutionContexts.sourcedField (.str "v")),
    ("required_capabilities", ExecutionContexts.sourcedField (.list [])),
    ("write_metadata", ExecutionContexts.sourcedField (.dict [("b", .null), ("a", .int 1)]))]

theorem imitatingItem_sealed : Sealed (.dict imitatingItem) := by
  have hfloat : FloatText "0.5" :=
    ⟨⟨[], ['0'], ['.', '5'], [], .inl rfl, List.cons_ne_nil _ _,
      List.forall_mem_singleton.mpr rfl, fun _ => rfl,
      .inr ⟨['5'], rfl, List.cons_ne_nil _ _, List.forall_mem_singleton.mpr rfl⟩, .inl rfl,
      fun h => List.cons_ne_nil _ _ h.1⟩, rfl⟩
  constructor
  · simp only [imitatingItem, ExecutionContexts.sourcedField, WellFormed, WellFormedEntries,
      WellFormedItems, hfloat, List.map_cons, List.map_nil, and_true, true_and]
    decide
  · rfl

theorem imitatingItem_accepted : ∃ body, renderCreateIssue imitatingItem = .ok ("First", body) :=
  ⟨_, rfl⟩

end

theorem body_reads_back_sample : ∃ (_ : PythonLibrary) (body : String),
    renderCreateIssue imitatingItem = .ok ("First", body) ∧
      ∃ lines values, lines.length = 10 ∧
        blocks body = (headings.zipWith sectionBlocks lines).flatten ∧
        shownValues imitatingItem = .ok values ∧
        lines.map (loads jsonObject) = values.map fun v => some (sortKeys v) := by
  have hjson := referenceLibrary_json
  let _ := ReferenceLibrary.referenceLibrary
  obtain ⟨body, hbody⟩ := imitatingItem_accepted
  exact ⟨_, body, hbody, (body_reads_back imitatingItem_sealed hbody).1⟩

end DeliverySystem.IssueBodies

import Mathlib.Data.List.Chain
import Mathlib.Data.List.DropRight

/-!
# Lines without blanks at their ends

A text is cut into lines at a separator, the blanks at the end of every line are
dropped, and then the blanks around the whole. Doing it again changes nothing:
in the result no blank stands before a separator unless it is one, and none
stands at the end.
-/
namespace DeliverySystem.TextLines
set_option autoImplicit false

section
variable {α : Type} (blank : α → Bool) (sep : α)

/-- Without the blanks at both ends. -/
def stripped (text : List α) : List α := (text.dropWhile blank).rdropWhile blank

/-- No blank stands before a separator, unless it is one itself. -/
def Spaced (text : List α) : Prop :=
  text.IsChain fun c d => d = sep → blank c = true → c = sep

variable {blank sep}

/-- A run of characters with a property is taken as a whole. -/
theorem takeWhile_split {p : α → Bool} {body after : List α} (hbody : ∀ c ∈ body, p c = true)
    (hafter : ∀ c ∈ after.head?, p c = false) :
    (body ++ after).takeWhile p = body ∧ (body ++ after).dropWhile p = after := by
  have hnone : after.takeWhile p = [] ∧ after.dropWhile p = after := by
    cases after with
    | nil => exact ⟨rfl, rfl⟩
    | cons c after =>
        have hc := hafter c rfl
        exact ⟨List.takeWhile_cons_of_neg (by simp [hc]), List.dropWhile_cons_of_neg (by simp [hc])⟩
  rw [List.takeWhile_append_of_pos hbody, List.dropWhile_append_of_pos hbody, hnone.1, hnone.2,
    List.append_nil]
  exact ⟨rfl, rfl⟩

theorem stripped_part (text : List α) : stripped blank text <:+: text :=
  (List.rdropWhile_prefix _ _).isInfix.trans (List.dropWhile_suffix _).isInfix

theorem stripped_stripped (text : List α) :
    stripped blank (stripped blank text) = stripped blank text := by
  have hdrop : (stripped blank text).dropWhile blank = stripped blank text := by
    rw [stripped]
    cases hrest : text.dropWhile blank with
    | nil => rfl
    | cons c rest =>
        -- the first character is the one that survived the first pass
        have hc : ¬blank c = true := by
          have hhead := List.head_dropWhile_not blank (by rw [hrest]; exact List.cons_ne_nil _ _ :
            text.dropWhile blank ≠ [])
          simp only [hrest, List.head_cons] at hhead
          simp [hhead]
        cases hpre : (c :: rest).rdropWhile blank with
        | nil => rfl
        | cons d before =>
            have hbefore := List.rdropWhile_prefix blank (c :: rest)
            rw [hpre, List.cons_prefix_cons] at hbefore
            rw [hbefore.1, List.dropWhile_cons_of_neg hc]
  rw [stripped, hdrop]
  exact List.rdropWhile_idempotent _ _

theorem Spaced.of_notMem {text : List α} (h : sep ∉ text) : Spaced blank sep text := by
  induction text with
  | nil => exact .nil
  | cons c rest ih =>
      rw [List.mem_cons, not_or] at h
      refine List.isChain_cons.mpr ⟨fun d hd heq _ => ?_, ih h.2⟩
      exact absurd (heq ▸ List.mem_of_mem_head? hd) h.2

/-- Lines without the separator, trimmed, are joined to a spaced text. -/
theorem spaced_join {lines : List (List α)}
    (h : ∀ line ∈ lines, sep ∉ line ∧ line.rdropWhile blank = line) :
    Spaced blank sep ([sep].intercalate lines) := by
  induction lines with
  | nil => exact .nil
  | cons line rest ih =>
      obtain ⟨⟨hsep, htrimmed⟩, hrest⟩ := List.forall_mem_cons.mp h
      cases rest with
      | nil =>
          rw [List.intercalate_singleton]
          exact .of_notMem hsep
      | cons next rest =>
          rw [List.intercalate_cons_cons, List.append_assoc, List.singleton_append]
          refine List.isChain_append.mpr ⟨Spaced.of_notMem hsep,
            List.isChain_cons.mpr ⟨fun d hd _ _ => rfl, ih hrest⟩, fun c hc d _ _ hblank => ?_⟩
          -- the last character of a trimmed line is no blank
          obtain ⟨hne, rfl⟩ := List.mem_getLast?_eq_getLast hc
          exact absurd hblank (List.rdropWhile_eq_self_iff.mp htrimmed hne)

/-- A line is a part of the text that it is joined into. -/
theorem infix_intercalate {lines : List (List α)} {line : List α} (h : line ∈ lines) :
    line <:+: [sep].intercalate lines := by
  induction lines with
  | nil => exact absurd h List.not_mem_nil
  | cons first rest ih =>
      cases rest with
      | nil =>
          obtain rfl := List.mem_singleton.mp h
          simp only [List.intercalate_singleton, List.infix_rfl]
      | cons next rest =>
          rw [List.intercalate_cons_cons]
          rcases List.mem_cons.mp h with rfl | h
          · exact ((List.prefix_append _ _).trans (List.prefix_append _ _)).isInfix
          · exact (ih h).trans (List.suffix_append _ _).isInfix

theorem mem_intercalate {lines : List (List α)} {c : α} (h : c ∈ [sep].intercalate lines) :
    c = sep ∨ ∃ line ∈ lines, c ∈ line := by
  induction lines with
  | nil => exact absurd h List.not_mem_nil
  | cons first rest ih =>
      cases rest with
      | nil =>
          rw [List.intercalate_singleton] at h
          exact .inr ⟨first, List.mem_singleton_self _, h⟩
      | cons next rest =>
          simp only [List.intercalate_cons_cons, List.mem_append, List.mem_singleton] at h
          rcases h with (h | h) | h
          · exact .inr ⟨first, List.mem_cons_self, h⟩
          · exact .inl h
          · exact (ih h).imp_right fun ⟨line, hline, hc⟩ =>
              ⟨line, List.mem_cons_of_mem _ hline, hc⟩

end

section
variable {α : Type} [DecidableEq α] (blank : α → Bool) (sep : α)

/-- Without the blanks at the ends of the lines. -/
def trimmedLines (text : List α) : List α :=
  [sep].intercalate ((text.splitOn sep).map (List.rdropWhile blank))

/-- Every line trimmed, and the text stripped. -/
def tidied (text : List α) : List α := stripped blank (trimmedLines blank sep text)

variable {blank sep}

theorem notMem_splitOn {text line : List α} (h : line ∈ text.splitOn sep) : sep ∉ line := by
  induction text generalizing line with
  | nil => simp_all
  | cons c rest ih =>
      rw [List.splitOn_cons_eq_if_modifyHead] at h
      split_ifs at h with hc
      · rcases List.mem_cons.mp h with rfl | h
        · exact List.not_mem_nil
        · exact ih h
      · cases hrest : rest.splitOn sep with
        | nil => exact absurd hrest (List.splitOn_ne_nil _ _)
        | cons first lines =>
            rw [hrest, List.modifyHead_cons] at h
            rcases List.mem_cons.mp h with rfl | h
            · rw [List.mem_cons, not_or]
              exact ⟨fun heq => hc (by simp [heq]), ih (by rw [hrest]; exact List.mem_cons_self)⟩
            · exact ih (by rw [hrest]; exact List.mem_cons_of_mem _ h)

/-- The lines of a spaced text without a blank at its end are trimmed. -/
theorem Spaced.trimmed {text : List α} (h : Spaced blank sep text)
    (hlast : text.rdropWhile blank = text) :
    ∀ line ∈ text.splitOn sep, line.rdropWhile blank = line := by
  induction text with
  | nil => simp
  | cons c rest ih =>
      obtain ⟨hc, hspaced⟩ := List.isChain_cons.mp h
      have hlast' : rest.rdropWhile blank = rest := by
        rw [List.rdropWhile_eq_self_iff] at hlast ⊢
        intro hne
        have := hlast (List.cons_ne_nil c rest)
        rwa [List.getLast_cons hne] at this
      have hlines := ih hspaced hlast'
      rw [List.splitOn_cons_eq_if_modifyHead]
      split_ifs with heq
      · exact List.forall_mem_cons.mpr ⟨List.rdropWhile_nil _, hlines⟩
      · have hsep : c ≠ sep := by simpa using heq
        cases hrest : rest.splitOn sep with
        | nil => exact absurd hrest (List.splitOn_ne_nil _ _)
        | cons first lines =>
            rw [hrest] at hlines
            obtain ⟨hfirst, hlines⟩ := List.forall_mem_cons.mp hlines
            rw [List.modifyHead_cons]
            refine List.forall_mem_cons.mpr ⟨List.rdropWhile_eq_self_iff.mpr fun hne => ?_, hlines⟩
            cases first with
            | cons d first =>
                rw [List.getLast_cons (List.cons_ne_nil d first)]
                exact List.rdropWhile_eq_self_iff.mp hfirst _
            | nil =>
                -- `c` is the end of its line: of the text, or before a separator
                rw [List.getLast_singleton]
                intro hblank
                cases rest with
                | nil =>
                    exact List.rdropWhile_eq_self_iff.mp hlast (List.cons_ne_nil c []) hblank
                | cons d rest =>
                    rw [List.splitOn_cons_eq_if_modifyHead] at hrest
                    split_ifs at hrest with hd
                    · exact hsep (hc d rfl (by simpa using hd) hblank)
                    · cases hmore : rest.splitOn sep with
                      | nil => exact absurd hmore (List.splitOn_ne_nil _ _)
                      | cons more lines => simp [hmore] at hrest

theorem infix_of_mem_splitOn {text line : List α} (h : line ∈ text.splitOn sep) :
    line <:+: text := by
  have hpart := @infix_intercalate α sep _ _ h
  rwa [List.intercalate_splitOn] at hpart

theorem trimmed_splitOn_trimmedLines (text : List α) : ∀ line ∈ (text.splitOn sep).map
    (List.rdropWhile blank), sep ∉ line ∧ line.rdropWhile blank = line := by
  intro line hline
  obtain ⟨raw, hraw, rfl⟩ := List.mem_map.mp hline
  exact ⟨fun hmem => notMem_splitOn hraw ((List.rdropWhile_prefix _ _).subset hmem),
    List.rdropWhile_idempotent _ _⟩

theorem trimmedLines_eq {text : List α} (h : ∀ line ∈ text.splitOn sep,
    line.rdropWhile blank = line) : trimmedLines blank sep text = text := by
  rw [trimmedLines, List.map_congr_left (g := id) h, List.map_id, List.intercalate_splitOn]

theorem tidied_trimmed (text : List α) :
    ∀ line ∈ (tidied blank sep text).splitOn sep, line.rdropWhile blank = line := by
  have hspaced : Spaced blank sep (tidied blank sep text) :=
    List.IsChain.infix (spaced_join (trimmed_splitOn_trimmedLines text)) (stripped_part _)
  exact hspaced.trimmed (List.rdropWhile_idempotent _ _)

omit [DecidableEq α] in
theorem mem_dropWhile {text : List α} {c : α} (h : c ∈ text) (hc : blank c = false) :
    c ∈ text.dropWhile blank := by
  rw [← List.takeWhile_append_dropWhile (p := blank) (l := text), List.mem_append] at h
  refine h.resolve_left fun htaken => ?_
  rw [List.mem_takeWhile_imp htaken] at hc
  cases hc

omit [DecidableEq α] in
theorem mem_rdropWhile {text : List α} {c : α} (h : c ∈ text) (hc : blank c = false) :
    c ∈ text.rdropWhile blank := by
  rw [List.rdropWhile, List.mem_reverse]
  exact mem_dropWhile (List.mem_reverse.mpr h) hc

omit [DecidableEq α] in
theorem mem_stripped {text : List α} {c : α} (h : c ∈ text) (hc : blank c = false) :
    c ∈ stripped blank text := mem_rdropWhile (mem_dropWhile h hc) hc

omit [DecidableEq α] in
theorem stripped_eq_nil {text : List α} :
    stripped blank text = [] ↔ ∀ c ∈ text, blank c = true := by
  constructor
  · intro h c hc
    by_contra hnot
    have hmem := mem_stripped hc (Bool.not_eq_true _ ▸ hnot)
    rw [h] at hmem
    cases hmem
  · intro h
    rw [stripped, List.dropWhile_eq_nil_iff.mpr h]
    rfl

/-- What is no blank and no separator is kept. -/
theorem mem_tidied {text : List α} {c : α} (h : c ∈ text) (hc : blank c = false) (hsep : c ≠ sep) :
    c ∈ tidied blank sep text := by
  have hjoined : [sep].intercalate (text.splitOn sep) = text := List.intercalate_splitOn sep
  rw [← hjoined] at h
  obtain ⟨line, hline, hmem⟩ : ∃ line ∈ text.splitOn sep, c ∈ line := by
    rcases mem_intercalate h with heq | hmem
    · exact absurd heq hsep
    · exact hmem
  refine mem_stripped ?_ hc
  exact (infix_intercalate (List.mem_map_of_mem hline)).subset (mem_rdropWhile hmem hc)

/-- Tidying brings in nothing but separators. -/
theorem of_mem_tidied {text : List α} {c : α} (h : c ∈ tidied blank sep text) :
    c = sep ∨ c ∈ text := by
  refine (mem_intercalate ((stripped_part _).subset h)).imp_right ?_
  rintro ⟨line, hline, hc⟩
  obtain ⟨given, hgiven, rfl⟩ := List.mem_map.mp hline
  exact (infix_of_mem_splitOn hgiven).subset ((List.rdropWhile_prefix _ _).subset hc)

theorem tidied_tidied (text : List α) :
    tidied blank sep (tidied blank sep text) = tidied blank sep text := by
  rw [tidied, trimmedLines_eq (tidied_trimmed text)]
  exact stripped_stripped _

end
end DeliverySystem.TextLines

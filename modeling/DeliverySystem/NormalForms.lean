import DeliverySystem.CanonicalValues
import DeliverySystem.TextLines

/-!
# Normal forms

Normalizing a value that was normalized changes nothing. It takes of Python's
text functions that NFC is stable, is kept by the parts of a text and by lines
put together, brings in no carriage return, and that stripping drops blanks at
the ends and nothing else.
-/
namespace DeliverySystem.NormalForms
open PythonValues CanonicalValues TextLines
set_option autoImplicit false

class LawfulSpacing [PythonLibrary] [UnicodeLibrary] : Prop where
  blanks : ∃ blank : Char → Bool,
    (∀ s, (UnicodeLibrary.rstrip s).toList = s.toList.rdropWhile blank) ∧
      ∀ s, (PythonLibrary.strip s).toList = stripped blank s.toList
  nfc_nfc (s : String) : UnicodeLibrary.nfc (UnicodeLibrary.nfc s) = UnicodeLibrary.nfc s
  nfc_infix {s t : String} (h : UnicodeLibrary.nfc t = t) (hst : s.toList <:+: t.toList) :
    UnicodeLibrary.nfc s = s
  nfc_lines {lines : List (List Char)}
    (h : ∀ line ∈ lines, UnicodeLibrary.nfc (String.ofList line) = String.ofList line) :
    UnicodeLibrary.nfc (String.ofList (['\n'].intercalate lines)) =
      String.ofList (['\n'].intercalate lines)
  nfc_breaks {s : String} (h : '\r' ∉ s.toList) : '\r' ∉ (UnicodeLibrary.nfc s).toList

/-- Line breaks are blanks, and no text becomes blank by its normal form. -/
class LawfulBlanks [PythonLibrary] [UnicodeLibrary] : Prop where
  strip_break : PythonLibrary.strip "\n" = "" ∧ PythonLibrary.strip "\r" = ""
  strip_nfc {s : String} (h : PythonLibrary.strip (UnicodeLibrary.nfc s) = "") :
    PythonLibrary.strip s = ""

theorem mem_unifyBreaks {s : List Char} {c : Char} (h : c ∈ s) (hc : c ≠ '\r') :
    c ∈ unifyBreaks s := by
  induction s with
  | nil => cases h
  | cons d s ih =>
      rw [unifyBreaks]
      rcases List.mem_cons.mp h with rfl | h
      · rw [if_neg hc]
        exact List.mem_cons_self
      · split_ifs
        · exact ih h
        · exact List.mem_cons_of_mem _ (ih h)
        · exact List.mem_cons_of_mem _ (ih h)

theorem unifyBreaks_notMem (s : List Char) : '\r' ∉ unifyBreaks s := by
  induction s with
  | nil => exact List.not_mem_nil
  | cons c s ih =>
      rw [unifyBreaks]
      split_ifs with hc hn
      · exact ih
      · rw [List.mem_cons, not_or]
        exact ⟨by decide, ih⟩
      · rw [List.mem_cons, not_or]
        exact ⟨Ne.symm hc, ih⟩

/-- What is left of a text once its line breaks are unified and it is in NFC. -/
def trimmed [PythonLibrary] [UnicodeLibrary] (text : String) : String :=
  PythonLibrary.strip (String.ofList (['\n'].intercalate ((text.toList.splitOn '\n').map
    fun line => (UnicodeLibrary.rstrip (String.ofList line)).toList)))

section
variable [PythonLibrary] [UnicodeLibrary] [LawfulSpacing]

omit [LawfulSpacing] in
/-- A library that leaves every text as its NFC is lawful when it strips blanks. -/
theorem LawfulSpacing.of_fixed (hnfc : ∀ s, UnicodeLibrary.nfc s = s) (blank : Char → Bool)
    (hrstrip : ∀ s, (UnicodeLibrary.rstrip s).toList = s.toList.rdropWhile blank)
    (hstrip : ∀ s, (PythonLibrary.strip s).toList = stripped blank s.toList) : LawfulSpacing where
  blanks := ⟨blank, hrstrip, hstrip⟩
  nfc_nfc s := congrArg _ (hnfc s)
  nfc_infix _ _ := hnfc _
  nfc_lines _ := hnfc _
  nfc_breaks h := by rwa [hnfc]

omit [LawfulSpacing] in
theorem trimmed_toList {blank : Char → Bool}
    (hrstrip : ∀ s, (UnicodeLibrary.rstrip s).toList = s.toList.rdropWhile blank)
    (hstrip : ∀ s, (PythonLibrary.strip s).toList = stripped blank s.toList) (s : String) :
    (trimmed s).toList = tidied blank '\n' s.toList := by
  rw [trimmed, hstrip, String.toList_ofList, tidied, trimmedLines]
  congr 2
  refine List.map_congr_left fun line _ => ?_
  rw [hrstrip, String.toList_ofList]

/-- Canonical text is an NFC text with its lines tidied of what `strip` drops. -/
theorem canonicalText_blanks : ∃ blank : Char → Bool,
    (∀ s, (PythonLibrary.strip s).toList = stripped blank s.toList) ∧ ∀ s : String,
      (canonicalText s).toList = tidied blank '\n'
        (UnicodeLibrary.nfc (String.ofList (unifyBreaks s.toList))).toList := by
  obtain ⟨blank, hrstrip, hstrip⟩ := LawfulSpacing.blanks
  exact ⟨blank, hstrip, fun s => trimmed_toList hrstrip hstrip _⟩

/-- Text in NFC stays in NFC when it is tidied. -/
theorem nfc_tidied {s t : String} {blank : Char → Bool} (hnfc : UnicodeLibrary.nfc s = s)
    (ht : t.toList = tidied blank '\n' s.toList) : UnicodeLibrary.nfc t = t := by
  have hpart : ∀ line ∈ (s.toList.splitOn '\n').map (List.rdropWhile blank),
      line <:+: s.toList := by
    intro line hline
    obtain ⟨raw, hraw, rfl⟩ := List.mem_map.mp hline
    exact (List.rdropWhile_prefix _ _).isInfix.trans (infix_of_mem_splitOn hraw)
  have hjoined : UnicodeLibrary.nfc (String.ofList (trimmedLines blank '\n' s.toList)) =
      String.ofList (trimmedLines blank '\n' s.toList) :=
    LawfulSpacing.nfc_lines fun line hline =>
      LawfulSpacing.nfc_infix hnfc (by rw [String.toList_ofList]; exact hpart line hline)
  refine LawfulSpacing.nfc_infix hjoined ?_
  rw [ht, String.toList_ofList]
  exact stripped_part _

/-- Canonical text is in NFC, without carriage returns, and tidied. -/
theorem canonicalText_spec (s : String) :
    UnicodeLibrary.nfc (canonicalText s) = canonicalText s ∧ '\r' ∉ (canonicalText s).toList ∧
      canonicalText (canonicalText s) = canonicalText s := by
  obtain ⟨blank, -, htidied⟩ := canonicalText_blanks
  have hs := htidied s
  set text := UnicodeLibrary.nfc (String.ofList (unifyBreaks s.toList))
  have hnfc : UnicodeLibrary.nfc text = text := LawfulSpacing.nfc_nfc _
  have hbreaks : '\r' ∉ text.toList := LawfulSpacing.nfc_breaks (by
    rw [String.toList_ofList]
    exact unifyBreaks_notMem _)
  have hfixed : UnicodeLibrary.nfc (canonicalText s) = canonicalText s := nfc_tidied hnfc hs
  have hnone : '\r' ∉ (canonicalText s).toList := by
    rw [hs]
    exact fun hmem => (of_mem_tidied hmem).elim (fun heq => absurd heq (by decide)) hbreaks
  refine ⟨hfixed, hnone, String.toList_inj.mp ?_⟩
  rw [htidied, unifyBreaks_eq hnone, String.ofList_toList, hfixed, hs, tidied_tidied]

/-- A text that is not blank has a canonical text that is not blank. -/
theorem canonicalText_present [LawfulBlanks] {s : String} (h : PythonLibrary.strip s ≠ "") :
    PythonLibrary.strip (canonicalText s) ≠ "" := by
  obtain ⟨blank, hstrip, htidied⟩ := canonicalText_blanks
  have hempty : ∀ t, PythonLibrary.strip t = "" ↔ ∀ c ∈ t.toList, blank c = true := by
    intro t
    rw [← String.toList_eq_nil_iff, hstrip, stripped_eq_nil]
  have hkept : ∀ t, PythonLibrary.strip t ≠ "" ↔ ∃ c ∈ t.toList, blank c = false := by
    intro t
    simp only [ne_eq, hempty, not_forall, exists_prop, Bool.not_eq_true]
  have hbreak : blank '\n' = true ∧ blank '\r' = true :=
    ⟨(hempty "\n").mp LawfulBlanks.strip_break.1 _ (by decide),
      (hempty "\r").mp LawfulBlanks.strip_break.2 _ (by decide)⟩
  have hplain : ∀ c, blank c = false → c ≠ '\n' ∧ c ≠ '\r' := by
    rintro c hc
    constructor
    · rintro rfl
      rw [hbreak.1] at hc
      cases hc
    · rintro rfl
      rw [hbreak.2] at hc
      cases hc
  -- a character that is no blank goes through each of the three passes
  obtain ⟨c, hmem, hc⟩ := (hkept s).mp h
  have hunified : PythonLibrary.strip (String.ofList (unifyBreaks s.toList)) ≠ "" :=
    (hkept _).mpr ⟨c, by rw [String.toList_ofList]; exact mem_unifyBreaks hmem (hplain c hc).2, hc⟩
  obtain ⟨d, hmem, hd⟩ := (hkept _).mp fun hnfc => hunified (LawfulBlanks.strip_nfc hnfc)
  exact (hkept _).mpr ⟨d, by rw [htidied]; exact mem_tidied hmem hd (hplain d hd).1, hd⟩

end

section
variable [PythonLibrary] [UnicodeLibrary]

mutual
/-- A normalized value is its own normal form. -/
theorem normalize_again [LawfulSpacing] : (v v' : Value) → CanonicalValues.normalize v = .ok v' →
    CanonicalValues.normalize v' = .ok v'
  | .null, _, h | .bool _, _, h | .int _, _, h | .float _, _, h => by
      simp only [CanonicalValues.normalize, Except.ok.injEq] at h
      subst h
      simp only [CanonicalValues.normalize]
  | .str s, _, h => by
      rw [CanonicalValues.normalize] at h
      obtain rfl := Except.ok.inj h
      rw [CanonicalValues.normalize, (canonicalText_spec s).2.2]
  | .list items, _, h | .tuple items, _, h => by
      simp only [CanonicalValues.normalize, bind_eq_ok, pure_eq_ok] at h
      obtain ⟨made, hmade, rfl⟩ := h
      simp only [CanonicalValues.normalize, bind_eq_ok, pure_eq_ok]
      exact ⟨made, normalizeItems_again items made hmade, rfl⟩
  | .dict entries, _, h => by
      simp only [CanonicalValues.normalize, bind_eq_ok, raiseIf_eq_ok, pure_eq_ok] at h
      obtain ⟨made, hmade, _, hnodup, rfl⟩ := h
      have hagain : CanonicalValues.normalize (.dict made) = .ok (.dict (sortEntries made)) := by
        simp only [CanonicalValues.normalize, bind_eq_ok, raiseIf_eq_ok, pure_eq_ok]
        exact ⟨made, normalizeEntries_again entries made hmade, (), hnodup, rfl⟩
      exact normalize_dict_perm (sortEntries_perm made).symm hagain

theorem normalizeItems_again [LawfulSpacing] : (items items' : List Value) →
    normalizeItems items = .ok items' → normalizeItems items' = .ok items'
  | [], _, h => by
      rw [normalizeItems] at h
      obtain rfl := Except.ok.inj h
      rfl
  | item :: rest, _, h => by
      simp only [normalizeItems, bind_eq_ok, pure_eq_ok] at h
      obtain ⟨item', hitem, rest', hrest, rfl⟩ := h
      simp only [normalizeItems, bind_eq_ok, pure_eq_ok]
      exact ⟨item', normalize_again item item' hitem, rest',
        normalizeItems_again rest rest' hrest, rfl⟩

theorem normalizeEntries_again [LawfulSpacing] : (entries entries' : List (String × Value)) →
    normalizeEntries entries = .ok entries' → normalizeEntries entries' = .ok entries'
  | [], _, h => by
      rw [normalizeEntries] at h
      obtain rfl := Except.ok.inj h
      rfl
  | (key, value) :: rest, _, h => by
      simp only [normalizeEntries, bind_eq_ok, pure_eq_ok] at h
      obtain ⟨value', hvalue, rest', hrest, rfl⟩ := h
      simp only [normalizeEntries, bind_eq_ok, pure_eq_ok, LawfulSpacing.nfc_nfc]
      exact ⟨value', normalize_again value value' hvalue, rest',
        normalizeEntries_again rest rest' hrest, rfl⟩
end

theorem canonicalDigest_normalized [LawfulSpacing] {v v' : Value}
    (h : CanonicalValues.normalize v = .ok v') : canonicalDigest v' = canonicalDigest v := by
  rw [canonicalDigest, canonicalDigest, h, normalize_again v v' h]

end
end DeliverySystem.NormalForms

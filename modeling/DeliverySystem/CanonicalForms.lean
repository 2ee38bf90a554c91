import DeliverySystem.AttestationReference
import DeliverySystem.NormalForms
import DeliverySystem.PairedLists

/-!
# Canonical forms of Python values

`normalize` on all the values it is given, sets and values that it refuses among
them. The form does not show how a value was built, it is its own form, and two
values with one canonical text have one form. Of Unicode this takes that NFC is
idempotent, brings in no carriage return, and stays as it is when whitespace is
dropped at the ends of lines and of the text.
-/
namespace DeliverySystem.CanonicalForms
open PythonValues CanonicalValues JsonText TextLines NormalForms
set_option autoImplicit false

/-! ## Values as they are given -/

/-- A Python value. The items of a set stand in some order of iteration, a key that
is no text is `none`, and `other` is a value of any other type. -/
inductive Raw where
  | null
  | bool (value : Bool)
  | int (value : Int)
  | float (text : String)
  | str (value : String)
  | list (items : List Raw)
  | tuple (items : List Raw)
  | set (items : List Raw)
  | mapping (entries : List (Option String × Raw))
  | other

section
variable {P : Raw → Prop}

mutual
theorem Raw.forall_of_parts (null : P .null) (bool : ∀ value, P (.bool value))
    (int : ∀ value, P (.int value)) (float : ∀ text, P (.float text))
    (str : ∀ value, P (.str value)) (list : ∀ items, (∀ v ∈ items, P v) → P (.list items))
    (tuple : ∀ items, (∀ v ∈ items, P v) → P (.tuple items))
    (set : ∀ items, (∀ v ∈ items, P v) → P (.set items))
    (mapping : ∀ entries, (∀ e ∈ entries, P e.2) → P (.mapping entries)) (other : P .other) :
    ∀ v, P v
  | .null => null
  | .bool value => bool value
  | .int value => int value
  | .float text => float text
  | .str value => str value
  | .list items => list items
      (Raw.items_of_parts null bool int float str list tuple set mapping other items)
  | .tuple items => tuple items
      (Raw.items_of_parts null bool int float str list tuple set mapping other items)
  | .set items => set items
      (Raw.items_of_parts null bool int float str list tuple set mapping other items)
  | .mapping entries => mapping entries
      (Raw.entries_of_parts null bool int float str list tuple set mapping other entries)
  | .other => other

theorem Raw.items_of_parts (null : P .null) (bool : ∀ value, P (.bool value))
    (int : ∀ value, P (.int value)) (float : ∀ text, P (.float text))
    (str : ∀ value, P (.str value)) (list : ∀ items, (∀ v ∈ items, P v) → P (.list items))
    (tuple : ∀ items, (∀ v ∈ items, P v) → P (.tuple items))
    (set : ∀ items, (∀ v ∈ items, P v) → P (.set items))
    (mapping : ∀ entries, (∀ e ∈ entries, P e.2) → P (.mapping entries)) (other : P .other) :
    ∀ items : List Raw, ∀ v ∈ items, P v
  | [], _, hv => absurd hv List.not_mem_nil
  | item :: rest, v, hv => (List.mem_cons.mp hv).elim
      (fun h => h ▸ Raw.forall_of_parts null bool int float str list tuple set mapping other item)
      (Raw.items_of_parts null bool int float str list tuple set mapping other rest v)

theorem Raw.entries_of_parts (null : P .null) (bool : ∀ value, P (.bool value))
    (int : ∀ value, P (.int value)) (float : ∀ text, P (.float text))
    (str : ∀ value, P (.str value)) (list : ∀ items, (∀ v ∈ items, P v) → P (.list items))
    (tuple : ∀ items, (∀ v ∈ items, P v) → P (.tuple items))
    (set : ∀ items, (∀ v ∈ items, P v) → P (.set items))
    (mapping : ∀ entries, (∀ e ∈ entries, P e.2) → P (.mapping entries)) (other : P .other) :
    ∀ entries : List (Option String × Raw), ∀ e ∈ entries, P e.2
  | [], _, he => absurd he List.not_mem_nil
  | (_, value) :: rest, e, he => (List.mem_cons.mp he).elim
      (fun h => h ▸ Raw.forall_of_parts null bool int float str list tuple set mapping other value)
      (Raw.entries_of_parts null bool int float str list tuple set mapping other rest e)
end

attribute [induction_eliminator] Raw.forall_of_parts

end

/-! ## Normalization -/

/-- `_sort_key`: a set is sorted by the JSON text of its normalized items. -/
def sortedByText (items : List Value) : List Value :=
  items.insertionSort fun a b => dumps a ≤ dumps b

/-- `math.isfinite` -/
def isFinite (text : String) : Bool := text ≠ "nan" && text ≠ "inf" && text ≠ "-inf"

/-- A member of the result, once its value is normalized. -/
def settledEntry (entry : String × Py Value) : Py (String × Value) := do
  let value ← entry.2
  pure (entry.1, value)

section
variable [PythonLibrary] [UnicodeLibrary]

/-- The keys of a mapping in NFC, after those that were seen. -/
def normalizedKeys (seen : List String) : List (Option String) → Py (List String)
  | [] => .ok seen
  | none :: _ => .error .typeError
  | some key :: rest =>
      if UnicodeLibrary.nfc key ∈ seen then
        .error (.valueError "Canonical mapping keys collide after NFC normalization")
      else normalizedKeys (seen ++ [UnicodeLibrary.nfc key]) rest

mutual
/-- Normalize supported values while preserving ordered sequence semantics. -/
def normalize : Raw → Py Value
  | .str s => .ok (.str (canonicalText s))
  | .mapping entries => do
      let keys ← normalizedKeys [] (entries.map Prod.fst)
      -- the values are normalized in the order of the normalized keys
      let entries ← (sortEntries (keys.zip (normalizeValues entries))).mapM settledEntry
      pure (.dict entries)
  | .list items => do
      let items ← normalizeItems items
      pure (.list items)
  | .tuple items => do
      let items ← normalizeItems items
      pure (.list items)
  | .set items => do
      let items ← normalizeItems items
      pure (.list (sortedByText items))
  | .bool b => .ok (.bool b)
  | .int n => .ok (.int n)
  | .null => .ok .null
  | .float text =>
      if isFinite text then .ok (.float text)
      else .error (.valueError "NaN and infinite floats are not canonical values")
  | .other => .error .typeError

def normalizeItems : List Raw → Py (List Value)
  | [] => .ok []
  | item :: rest => do
      let item ← normalize item
      let rest ← normalizeItems rest
      pure (item :: rest)

def normalizeValues : List (Option String × Raw) → List (Py Value)
  | [] => []
  | (_, value) :: rest => normalize value :: normalizeValues rest
end

/-- Serialize a payload deterministically. -/
def canonicalPayload (value : Raw) : Py String := do
  let value ← normalize value
  pure (dumps value)

end

mutual
/-- A value of a decoded document as one that is given. -/
def raw : Value → Raw
  | .null => .null
  | .bool b => .bool b
  | .int n => .int n
  | .float text => .float text
  | .str s => .str s
  | .list items => .list (rawItems items)
  | .tuple items => .tuple (rawItems items)
  | .dict entries => .mapping (rawEntries entries)

def rawItems : List Value → List Raw
  | [] => []
  | item :: rest => raw item :: rawItems rest

def rawEntries : Dict → List (Option String × Raw)
  | [] => []
  | (key, value) :: rest => (some key, raw value) :: rawEntries rest
end

theorem rawItems_eq (items : List Value) : rawItems items = items.map raw := by
  induction items with
  | nil => rfl
  | cons item rest ih => rw [rawItems, ih, List.map_cons]

theorem rawEntries_eq (entries : Dict) :
    rawEntries entries = entries.map fun e => (some e.1, raw e.2) := by
  induction entries with
  | nil => rfl
  | cons entry rest ih =>
      obtain ⟨key, value⟩ := entry
      rw [rawEntries, ih, List.map_cons]

/-! ## What is normalized -/

theorem settledEntry_eq_ok {entry : String × Py Value} {settled : String × Value} :
    settledEntry entry = .ok settled ↔ settled.1 = entry.1 ∧ entry.2 = .ok settled.2 := by
  obtain ⟨key, value⟩ := settled
  simp only [settledEntry, bind_eq_ok, pure_eq_ok, Prod.mk.injEq]
  constructor
  · rintro ⟨_, hvalue, rfl, rfl⟩
    exact ⟨rfl, hvalue⟩
  · rintro ⟨rfl, hvalue⟩
    exact ⟨value, hvalue, rfl, rfl⟩

theorem settled_keys {entries : List (String × Py Value)} {settled : Dict}
    (h : List.Forall₂ (fun e e' => settledEntry e = .ok e') entries settled) :
    settled.map Prod.fst = entries.map Prod.fst := by
  induction h with
  | nil => rfl
  | cons hentry _ ih => rw [List.map_cons, List.map_cons, ih, (settledEntry_eq_ok.mp hentry).1]

/-- It does not matter whether the entries are sorted before their values are settled
or after it. -/
theorem mapM_sortEntries {entries : List (String × Py Value)} {settled : Dict}
    (hnodup : (entries.map Prod.fst).Nodup) :
    (sortEntries entries).mapM settledEntry = .ok settled ↔
      ∃ made, entries.mapM settledEntry = .ok made ∧ settled = sortEntries made := by
  have hsorted : ∀ {made}, List.Forall₂ (fun e e' => settledEntry e = .ok e')
      (sortEntries entries) made → sortEntries made = made := by
    intro made hmade
    have hkeys := List.pairwise_map.mpr (sortEntries_pairwise entries)
    rw [← settled_keys hmade] at hkeys
    exact (List.pairwise_map.mp hkeys).insertionSort_eq
  simp only [mapM_eq_ok]
  constructor
  · intro h
    obtain ⟨made, hmade, hperm⟩ := List.perm_comp_forall₂ (sortEntries_perm entries).symm h
    refine ⟨made, hmade, ?_⟩
    rw [← hsorted h]
    exact (sortEntries_eq_of_perm hperm (by rwa [settled_keys hmade])).symm
  · rintro ⟨made, hmade, rfl⟩
    obtain ⟨made', hmade', hperm⟩ := List.perm_comp_forall₂ (sortEntries_perm entries) hmade
    have hkeys : (made.map Prod.fst).Nodup := by rwa [settled_keys hmade]
    rw [sortEntries_eq_of_perm hperm.symm hkeys, hsorted hmade']
    exact hmade'

section
variable [PythonLibrary] [UnicodeLibrary]

omit [PythonLibrary] in
theorem normalizedKeys_eq_ok {seen keys : List String} {names : List (Option String)}
    (hseen : seen.Nodup) : normalizedKeys seen names = .ok keys ↔
      (∀ name ∈ names, name.isSome) ∧ keys.Nodup ∧
        keys = seen ++ names.map fun name => UnicodeLibrary.nfc (name.getD "") := by
  induction names generalizing seen with
  | nil =>
      simp only [normalizedKeys, Except.ok.injEq, List.not_mem_nil, false_implies, implies_true,
        true_and, List.map_nil, List.append_nil]
      constructor
      · rintro rfl
        exact ⟨hseen, rfl⟩
      · rintro ⟨-, rfl⟩
        rfl
  | cons name rest ih =>
      cases name with
      | none => simp [normalizedKeys]
      | some key =>
          rw [normalizedKeys]
          split_ifs with hmem
          · refine iff_of_false (by simp) ?_
            rintro ⟨-, hnodup, rfl⟩
            exact (List.nodup_append.mp hnodup).2.2 _ hmem _ List.mem_cons_self rfl
          · rw [ih (List.Nodup.append hseen (List.nodup_singleton _)
              (List.disjoint_singleton.mpr hmem))]
            simp

/-- The normalized form of an entry. -/
structure Settles (e : Option String × Raw) (e' : String × Value) : Prop where
  named : e.1.isSome
  key : e'.1 = UnicodeLibrary.nfc (e.1.getD "")
  value : normalize e.2 = .ok e'.2

theorem Settles.iff_settled {e : Option String × Raw} {e' : String × Value} : Settles e e' ↔
    e.1.isSome ∧ settledEntry (UnicodeLibrary.nfc (e.1.getD ""), normalize e.2) = .ok e' := by
  rw [settledEntry_eq_ok]
  exact ⟨fun h => ⟨h.named, h.key, h.value⟩, fun h => ⟨h.1, h.2.1, h.2.2⟩⟩

theorem normalizeItems_eq_ok {items : List Raw} {made : List Value} :
    normalizeItems items = .ok made ↔
      List.Forall₂ (fun v v' => normalize v = .ok v') items made := by
  rw [← mapM_eq_ok]
  induction items generalizing made with
  | nil => rfl
  | cons item rest ih => simp only [normalizeItems, List.mapM_cons, bind_eq_ok, pure_eq_ok, ih]

theorem normalizeValues_eq (entries : List (Option String × Raw)) :
    normalizeValues entries = entries.map fun e => normalize e.2 := by
  induction entries with
  | nil => rfl
  | cons entry rest ih =>
      obtain ⟨key, value⟩ := entry
      rw [normalizeValues, ih, List.map_cons]

theorem settles_keys {entries : List (Option String × Raw)} {made : Dict}
    (h : List.Forall₂ Settles entries made) :
    made.map Prod.fst = entries.map fun e => UnicodeLibrary.nfc (e.1.getD "") := by
  induction h with
  | nil => rfl
  | cons hentry _ ih => rw [List.map_cons, List.map_cons, ih, hentry.key]

theorem forall₂_settles {entries : List (Option String × Raw)} {made : Dict} :
    List.Forall₂ Settles entries made ↔ (∀ e ∈ entries, e.1.isSome) ∧
      (entries.map fun e => (UnicodeLibrary.nfc (e.1.getD ""), normalize e.2)).mapM settledEntry =
        .ok made := by
  rw [mapM_eq_ok]
  induction entries generalizing made with
  | nil => simp
  | cons entry rest ih =>
      simp only [List.forall₂_cons_left_iff, List.map_cons, List.forall_mem_cons, ih,
        Settles.iff_settled]
      constructor
      · rintro ⟨e', made', ⟨hnamed, he⟩, ⟨hall, hrest⟩, rfl⟩
        exact ⟨⟨hnamed, hall⟩, e', made', he, hrest, rfl⟩
      · rintro ⟨⟨hnamed, hall⟩, e', made', he, hrest, rfl⟩
        exact ⟨e', made', ⟨hnamed, he⟩, ⟨hall, hrest⟩, rfl⟩

/-- A mapping is normalized to the sorted forms of its entries, whose keys differ. -/
theorem normalize_mapping_eq_ok {entries : List (Option String × Raw)} {v : Value} :
    normalize (.mapping entries) = .ok v ↔ ∃ made : Dict, List.Forall₂ Settles entries made ∧
      (made.map Prod.fst).Nodup ∧ v = .dict (sortEntries made) := by
  simp only [normalize, bind_eq_ok, pure_eq_ok, normalizedKeys_eq_ok List.nodup_nil,
    List.nil_append, List.map_map, normalizeValues_eq]
  constructor
  · rintro ⟨keys, ⟨hnamed, hnodup, rfl⟩, settled, hsettled, rfl⟩
    rw [Function.comp_def, List.zip_map',
      mapM_sortEntries (by simpa [Function.comp_def] using hnodup)] at hsettled
    obtain ⟨made, hmade, rfl⟩ := hsettled
    have hforall := forall₂_settles.mpr ⟨fun e he => hnamed e.1 (List.mem_map_of_mem he), hmade⟩
    refine ⟨made, hforall, ?_, rfl⟩
    rw [settles_keys hforall]
    exact hnodup
  · rintro ⟨made, hforall, hnodup, rfl⟩
    rw [settles_keys hforall] at hnodup
    obtain ⟨hnamed, hmade⟩ := forall₂_settles.mp hforall
    refine ⟨_, ⟨?_, hnodup, rfl⟩, sortEntries made, ?_, rfl⟩
    · intro name hname
      obtain ⟨e, he, rfl⟩ := List.mem_map.mp hname
      exact hnamed e he
    · rw [List.zip_map', mapM_sortEntries (by simpa [Function.comp_def] using hnodup)]
      exact ⟨made, hmade, rfl⟩

theorem normalize_list_eq_ok {items : List Raw} {v : Value} :
    normalize (.list items) = .ok v ↔ ∃ made,
      List.Forall₂ (fun v v' => normalize v = .ok v') items made ∧ v = .list made := by
  simp only [normalize, bind_eq_ok, pure_eq_ok, normalizeItems_eq_ok]
  constructor
  · rintro ⟨made, hmade, rfl⟩
    exact ⟨made, hmade, rfl⟩
  · rintro ⟨made, hmade, rfl⟩
    exact ⟨made, hmade, rfl⟩

theorem normalize_tuple (items : List Raw) :
    normalize (.tuple items) = normalize (.list items) := by
  simp only [normalize]

theorem normalize_set_eq_ok {items : List Raw} {v : Value} :
    normalize (.set items) = .ok v ↔ ∃ made,
      List.Forall₂ (fun v v' => normalize v = .ok v') items made ∧ v = .list (sortedByText made) := by
  simp only [normalize, bind_eq_ok, pure_eq_ok, normalizeItems_eq_ok]
  constructor
  · rintro ⟨made, hmade, rfl⟩
    exact ⟨made, hmade, rfl⟩
  · rintro ⟨made, hmade, rfl⟩
    exact ⟨made, hmade, rfl⟩

end

/-! ## Forms of forms -/

/-- NFC is idempotent and stable under trimming, and brings in no carriage return. -/
class StableText [PythonLibrary] [UnicodeLibrary] : Prop where
  blanks : ∃ blank : Char → Bool,
    (∀ s, (UnicodeLibrary.rstrip s).toList = s.toList.rdropWhile blank) ∧
      ∀ s, (PythonLibrary.strip s).toList = stripped blank s.toList
  nfc_nfc (s : String) : UnicodeLibrary.nfc (UnicodeLibrary.nfc s) = UnicodeLibrary.nfc s
  nfc_trimmed {s : String} (h : UnicodeLibrary.nfc s = s) :
    UnicodeLibrary.nfc (trimmed s) = trimmed s
  nfc_breaks {s : String} (h : '\r' ∉ s.toList) : '\r' ∉ (UnicodeLibrary.nfc s).toList

section
variable [PythonLibrary] [UnicodeLibrary] [StableText]

theorem canonicalText_again (s : String) : canonicalText (canonicalText s) = canonicalText s := by
  obtain ⟨blank, hrstrip, hstrip⟩ := StableText.blanks
  have htidied := trimmed_toList hrstrip hstrip
  have htrimmed : ∀ s, canonicalText s =
      trimmed (UnicodeLibrary.nfc (String.ofList (unifyBreaks s.toList))) := fun _ => rfl
  rw [htrimmed s]
  set text := UnicodeLibrary.nfc (String.ofList (unifyBreaks s.toList))
  have hnfc : UnicodeLibrary.nfc text = text := StableText.nfc_nfc _
  have hbreaks : '\r' ∉ text.toList := StableText.nfc_breaks (by
    rw [String.toList_ofList]
    exact unifyBreaks_notMem _)
  have hnone : '\r' ∉ (trimmed text).toList := by
    rw [htidied]
    exact fun hmem => (of_mem_tidied hmem).elim (fun heq => absurd heq (by decide)) hbreaks
  rw [htrimmed, unifyBreaks_eq hnone, String.ofList_toList, StableText.nfc_trimmed hnfc]
  apply String.toList_inj.mp
  rw [htidied, htidied, tidied_tidied]

theorem settles_raw {e : Option String × Raw} {e' : String × Value} (h : Settles e e')
    (hvalue : normalize (raw e'.2) = .ok e'.2) : Settles (some e'.1, raw e'.2) e' where
  named := rfl
  key := by rw [Option.getD_some, h.key, StableText.nfc_nfc]
  value := hvalue

/-- A normalized value is its own form. -/
theorem normalize_raw {v : Raw} {w : Value} (h : normalize v = .ok w) :
    normalize (raw w) = .ok w := by
  induction v generalizing w with
  | null | bool | int =>
      simp only [normalize, Except.ok.injEq] at h
      subst h
      simp only [raw, normalize]
  | float text =>
      rw [normalize] at h
      split_ifs at h with hfinite
      obtain rfl := Except.ok.inj h
      rw [raw, normalize, if_pos hfinite]
  | str s =>
      rw [normalize] at h
      obtain rfl := Except.ok.inj h
      rw [raw, normalize, canonicalText_again]
  | list items ih | tuple items ih =>
      try rw [normalize_tuple] at h
      obtain ⟨made, hmade, rfl⟩ := normalize_list_eq_ok.mp h
      rw [raw, rawItems_eq]
      refine normalize_list_eq_ok.mpr ⟨made, ?_, rfl⟩
      rw [List.forall₂_map_left_iff, List.forall₂_same]
      intro w hw
      obtain ⟨v, hv, hvw⟩ := PairedLists.mem_right hmade hw
      exact ih v hv hvw
  | set items ih =>
      obtain ⟨made, hmade, rfl⟩ := normalize_set_eq_ok.mp h
      rw [raw, rawItems_eq]
      refine normalize_list_eq_ok.mpr ⟨sortedByText made, ?_, rfl⟩
      rw [List.forall₂_map_left_iff, List.forall₂_same]
      intro w hw
      obtain ⟨v, hv, hvw⟩ := PairedLists.mem_right hmade ((List.mem_insertionSort _).mp hw)
      exact ih v hv hvw
  | mapping entries ih =>
      obtain ⟨made, hmade, hnodup, rfl⟩ := normalize_mapping_eq_ok.mp h
      have hperm := sortEntries_perm made
      have hsorted : ((sortEntries made).map Prod.fst).Nodup :=
        (hperm.map Prod.fst).nodup_iff.mpr hnodup
      rw [raw, rawEntries_eq]
      refine normalize_mapping_eq_ok.mpr ⟨sortEntries made, ?_, hsorted,
        congrArg _ (sortEntries_eq_of_perm hperm.symm hnodup)⟩
      rw [List.forall₂_map_left_iff, List.forall₂_same]
      intro e' he'
      obtain ⟨e, he, hsettles⟩ := PairedLists.mem_right hmade (hperm.mem_iff.mp he')
      exact settles_raw hsettles (ih e he hsettles.value)
  | other => cases h

end

/-! ## Forms and their texts -/

/-- The texts of the finite floats are those that `repr` writes. -/
inductive Written : Raw → Prop
  | null : Written .null
  | bool (value : Bool) : Written (.bool value)
  | int (value : Int) : Written (.int value)
  | float {text : String} (h : isFinite text = true → FloatText text) : Written (.float text)
  | str (value : String) : Written (.str value)
  | list {items : List Raw} (h : ∀ v ∈ items, Written v) : Written (.list items)
  | tuple {items : List Raw} (h : ∀ v ∈ items, Written v) : Written (.tuple items)
  | set {items : List Raw} (h : ∀ v ∈ items, Written v) : Written (.set items)
  | mapping {entries : List (Option String × Raw)} (h : ∀ e ∈ entries, Written e.2) :
      Written (.mapping entries)
  | other : Written .other

theorem written_list {items : List Raw} : Written (.list items) ↔ ∀ v ∈ items, Written v :=
  ⟨fun h => by cases h with | list h => exact h, .list⟩

theorem written_tuple {items : List Raw} : Written (.tuple items) ↔ ∀ v ∈ items, Written v :=
  ⟨fun h => by cases h with | tuple h => exact h, .tuple⟩

theorem written_set {items : List Raw} : Written (.set items) ↔ ∀ v ∈ items, Written v :=
  ⟨fun h => by cases h with | set h => exact h, .set⟩

theorem written_mapping {entries : List (Option String × Raw)} :
    Written (.mapping entries) ↔ ∀ e ∈ entries, Written e.2 :=
  ⟨fun h => by cases h with | mapping h => exact h, .mapping⟩

theorem plainItems_of_forall {items : List Value} (h : ∀ v ∈ items, Plain v) :
    PlainItems items := by
  induction items with
  | nil => trivial
  | cons item rest ih =>
      obtain ⟨hitem, hrest⟩ := List.forall_mem_cons.mp h
      exact ⟨hitem, ih hrest⟩

/-- The JSON text of a plain value determines it. -/
theorem dumps_inj {v w : Value} (hv : Plain v) (hw : Plain w) (h : dumps v = dumps w) :
    v = w := by
  have hhook : KeepsDistinct fun entries => some (.dict entries) := fun _ _ => rfl
  have hback := loads_dumps hhook hv
  rw [h, loads_dumps hhook hw] at hback
  exact (Option.some.inj hback).symm

theorem sortedByText_pairwise (items : List Value) :
    (sortedByText items).Pairwise fun a b => dumps a ≤ dumps b := by
  have htotal : Std.Total fun a b : Value => dumps a ≤ dumps b := ⟨fun a b => le_total _ _⟩
  have htrans : IsTrans Value fun a b => dumps a ≤ dumps b := ⟨fun a b c => le_trans⟩
  exact List.pairwise_insertionSort _ items

theorem sortedByText_eq_of_perm {xs ys : List Value} (hperm : xs.Perm ys)
    (hplain : ∀ v ∈ xs, Plain v) : sortedByText xs = sortedByText ys := by
  have hxs : (sortedByText xs).Perm xs := List.perm_insertionSort _ xs
  have hys : (sortedByText ys).Perm ys := List.perm_insertionSort _ ys
  refine List.Perm.eq_of_pairwise (fun a b ha hb hab hba => ?_) (sortedByText_pairwise xs)
    (sortedByText_pairwise ys) (hxs.trans (hperm.trans hys.symm))
  exact dumps_inj (hplain a (hxs.mem_iff.mp ha))
    (hplain b (hperm.mem_iff.mpr (hys.mem_iff.mp hb))) (le_antisymm hab hba)

section
variable [PythonLibrary] [UnicodeLibrary]

theorem plain_items {items : List Raw} {made : List Value}
    (hplain : ∀ v ∈ items, ∀ {w : Value}, Written v → normalize v = .ok w → Plain w)
    (hitems : ∀ v ∈ items, Written v)
    (hmade : List.Forall₂ (fun v v' => normalize v = .ok v') items made) : PlainItems made := by
  refine plainItems_of_forall fun w hw => ?_
  obtain ⟨v, hmem, hvw⟩ := PairedLists.mem_right hmade hw
  exact hplain v hmem (hitems v hmem) hvw

theorem normalize_plain {v : Raw} {w : Value} (hv : Written v) (h : normalize v = .ok w) :
    Plain w := by
  induction v generalizing w with
  | null | bool | int | str =>
      simp only [normalize, Except.ok.injEq] at h
      subst h
      trivial
  | float text =>
      rw [normalize] at h
      split_ifs at h with hfinite
      obtain rfl := Except.ok.inj h
      cases hv with
      | float htext => exact htext hfinite
  | list items ih =>
      obtain ⟨made, hmade, rfl⟩ := normalize_list_eq_ok.mp h
      exact plain_items ih (written_list.mp hv) hmade
  | tuple items ih =>
      obtain ⟨made, hmade, rfl⟩ := normalize_list_eq_ok.mp ((normalize_tuple items).symm.trans h)
      exact plain_items ih (written_tuple.mp hv) hmade
  | set items ih =>
      obtain ⟨made, hmade, rfl⟩ := normalize_set_eq_ok.mp h
      refine plainItems_of_forall fun w hw => ?_
      obtain ⟨v, hmem, hvw⟩ := PairedLists.mem_right hmade ((List.mem_insertionSort _).mp hw)
      exact ih v hmem (written_set.mp hv v hmem) hvw
  | mapping entries ih =>
      obtain ⟨made, hmade, hnodup, rfl⟩ := normalize_mapping_eq_ok.mp h
      refine ⟨sortEntries_sorted hnodup, AuthorityBindings.plainEntries_of_forall fun e' he' => ?_⟩
      obtain ⟨e, he, hsettles⟩ :=
        PairedLists.mem_right hmade ((sortEntries_perm made).mem_iff.mp he')
      exact ih e he (written_mapping.mp hv e he) hsettles.value
  | other => cases h

end

/-! ## Values that are alike -/

/-- Values that differ in the order of entries or of the items of a set, or in a tuple
that is a list, anywhere inside. -/
inductive Alike : Raw → Raw → Prop
  | refl (v : Raw) : Alike v v
  | symm {v w : Raw} : Alike v w → Alike w v
  | trans {u v w : Raw} : Alike u v → Alike v w → Alike u w
  | entries {xs ys : List (Option String × Raw)} : xs.Perm ys → Alike (.mapping xs) (.mapping ys)
  | items {xs ys : List Raw} : xs.Perm ys → Alike (.set xs) (.set ys)
  | sequence (items : List Raw) : Alike (.tuple items) (.list items)
  | inList {v w : Raw} (before after : List Raw) : Alike v w →
      Alike (.list (before ++ v :: after)) (.list (before ++ w :: after))
  | inSet {v w : Raw} (before after : List Raw) : Alike v w →
      Alike (.set (before ++ v :: after)) (.set (before ++ w :: after))
  | inMapping {v w : Raw} (key : Option String) (before after : List (Option String × Raw)) :
      Alike v w → Alike (.mapping (before ++ (key, v) :: after))
        (.mapping (before ++ (key, w) :: after))

theorem Alike.written {v w : Raw} (h : Alike v w) : Written v ↔ Written w := by
  induction h with
  | refl v => exact Iff.rfl
  | symm _ ih => exact ih.symm
  | trans _ _ ih ih' => exact ih.trans ih'
  | entries hperm => simp only [written_mapping, hperm.mem_iff]
  | items hperm => simp only [written_set, hperm.mem_iff]
  | sequence items => rw [written_tuple, written_list]
  | inList before after _ ih =>
      simp only [written_list, List.forall_mem_append, List.forall_mem_cons, ih]
  | inSet before after _ ih =>
      simp only [written_set, List.forall_mem_append, List.forall_mem_cons, ih]
  | inMapping key before after _ ih =>
      simp only [written_mapping, List.forall_mem_append, List.forall_mem_cons, ih]

section
variable [PythonLibrary] [UnicodeLibrary]

theorem normalize_mapping_perm {xs ys : List (Option String × Raw)} (hperm : xs.Perm ys)
    {w : Value} (h : normalize (.mapping xs) = .ok w) : normalize (.mapping ys) = .ok w := by
  obtain ⟨made, hmade, hnodup, rfl⟩ := normalize_mapping_eq_ok.mp h
  obtain ⟨made', hmade', hsame⟩ := List.perm_comp_forall₂ hperm.symm hmade
  have hnodup' : (made'.map Prod.fst).Nodup := (hsame.map Prod.fst).nodup_iff.mpr hnodup
  exact normalize_mapping_eq_ok.mpr ⟨made', hmade', hnodup',
    congrArg _ (sortEntries_eq_of_perm hsame.symm hnodup)⟩

theorem normalize_set_perm {xs ys : List Raw} (hperm : xs.Perm ys) (hxs : Written (.set xs))
    {w : Value} (h : normalize (.set xs) = .ok w) : normalize (.set ys) = .ok w := by
  obtain ⟨made, hmade, rfl⟩ := normalize_set_eq_ok.mp h
  obtain ⟨made', hmade', hsame⟩ := List.perm_comp_forall₂ hperm.symm hmade
  refine normalize_set_eq_ok.mpr ⟨made', hmade', congrArg _ (sortedByText_eq_of_perm hsame.symm ?_)⟩
  intro w hw
  obtain ⟨v, hv, hvw⟩ := PairedLists.mem_right hmade hw
  exact normalize_plain (written_set.mp hxs v hv) hvw

/-- Values that are alike have one form, if any. -/
theorem Alike.normalize_iff {v v' : Raw} (h : Alike v v') (hv : Written v) {w : Value} :
    normalize v = .ok w ↔ normalize v' = .ok w := by
  induction h generalizing w with
  | refl v => exact Iff.rfl
  | symm h ih => exact (ih (h.written.mpr hv)).symm
  | trans h _ ih ih' => exact (ih hv).trans (ih' (h.written.mp hv))
  | entries hperm => exact ⟨normalize_mapping_perm hperm, normalize_mapping_perm hperm.symm⟩
  | items hperm =>
      exact ⟨normalize_set_perm hperm hv,
        normalize_set_perm hperm.symm ((Alike.items hperm).written.mp hv)⟩
  | sequence items => rw [normalize_tuple]
  | @inList v w' before after _ ih =>
      have hmember := written_list.mp hv v (List.mem_append_right before List.mem_cons_self)
      simp only [normalize_list_eq_ok, PairedLists.forall₂_replace
        (R := fun v w => normalize v = .ok w) (fun _ => ih hmember) before after]
  | @inSet v w' before after _ ih =>
      have hmember := written_set.mp hv v (List.mem_append_right before List.mem_cons_self)
      simp only [normalize_set_eq_ok, PairedLists.forall₂_replace
        (R := fun v w => normalize v = .ok w) (fun _ => ih hmember) before after]
  | @inMapping v w' key before after _ ih =>
      have hmember := written_mapping.mp hv (key, v)
        (List.mem_append_right before List.mem_cons_self)
      have hsettles : ∀ e', Settles (key, v) e' ↔ Settles (key, w') e' := fun e' =>
        ⟨fun h => ⟨h.named, h.key, (ih hmember).mp h.value⟩,
          fun h => ⟨h.named, h.key, (ih hmember).mpr h.value⟩⟩
      simp only [normalize_mapping_eq_ok, PairedLists.forall₂_replace hsettles before after]

theorem canonicalPayload_eq_ok {v : Raw} {text : String} :
    canonicalPayload v = .ok text ↔ ∃ w, normalize v = .ok w ∧ dumps w = text := by
  simp only [canonicalPayload, bind_eq_ok, pure_eq_ok]

/-- A form is its own form and has the text of its value; values that are alike have one
form and one text; values with one text have one form. -/
theorem canonical_form_laws [StableText] :
    (∀ v w, normalize v = .ok w →
      normalize (raw w) = .ok w ∧ canonicalPayload (raw w) = canonicalPayload v) ∧
    (∀ v v', Alike v v' → Written v → ∀ w, normalize v = .ok w →
      normalize v' = .ok w ∧ canonicalPayload v' = canonicalPayload v) ∧
    ∀ a b, Written a → Written b → ∀ text, canonicalPayload a = .ok text →
      canonicalPayload b = .ok text → ∃ w, normalize a = .ok w ∧ normalize b = .ok w := by
  refine ⟨fun v w hw => ?_, fun v v' halike hv w hw => ?_, fun a b ha hb text hta htb => ?_⟩
  · have hraw := normalize_raw hw
    refine ⟨hraw, ?_⟩
    rw [canonicalPayload, canonicalPayload, hraw, hw]
  · have hw' := (halike.normalize_iff hv).mp hw
    refine ⟨hw', ?_⟩
    rw [canonicalPayload, canonicalPayload, hw', hw]
  · obtain ⟨w, hw, rfl⟩ := canonicalPayload_eq_ok.mp hta
    obtain ⟨w', hw', htext⟩ := canonicalPayload_eq_ok.mp htb
    obtain rfl := dumps_inj (normalize_plain ha hw) (normalize_plain hb hw') htext.symm
    exact ⟨w, hw, hw'⟩

end

/-! ## Decoded values -/

section
variable [PythonLibrary] [UnicodeLibrary]

mutual
/-- Where the form of a decoded value exists, it is the one that digests are taken of. -/
theorem normalize_decoded : (v w : Value) → normalize (raw v) = .ok w →
    CanonicalValues.normalize v = .ok w
  | .null, _, h | .bool _, _, h | .int _, _, h | .str _, _, h => h
  | .float _, _, h => by
      simp only [raw, normalize] at h
      split_ifs at h
      exact h
  | .list items, _, h | .tuple items, _, h => by
      simp only [raw, normalize, bind_eq_ok, pure_eq_ok] at h
      obtain ⟨made, hmade, rfl⟩ := h
      simp only [CanonicalValues.normalize, bind_eq_ok, pure_eq_ok]
      exact ⟨made, normalizeItems_decoded items made hmade, rfl⟩
  | .dict entries, _, h => by
      rw [raw] at h
      obtain ⟨made, hmade, hnodup, rfl⟩ := normalize_mapping_eq_ok.mp h
      simp only [CanonicalValues.normalize, bind_eq_ok, raiseIf_eq_ok, pure_eq_ok, not_not]
      exact ⟨made, normalizeEntries_decoded entries made hmade, (), hnodup, rfl⟩

theorem normalizeItems_decoded : (items made : List Value) →
    normalizeItems (rawItems items) = .ok made → CanonicalValues.normalizeItems items = .ok made
  | [], _, h => h
  | item :: rest, _, h => by
      simp only [rawItems, normalizeItems, bind_eq_ok, pure_eq_ok] at h
      obtain ⟨item', hitem, rest', hrest, rfl⟩ := h
      simp only [CanonicalValues.normalizeItems, bind_eq_ok, pure_eq_ok]
      exact ⟨item', normalize_decoded item item' hitem, rest',
        normalizeItems_decoded rest rest' hrest, rfl⟩

theorem normalizeEntries_decoded : (entries made : Dict) →
    List.Forall₂ Settles (rawEntries entries) made →
      CanonicalValues.normalizeEntries entries = .ok made
  | [], _, h => by
      cases h
      rfl
  | (key, value) :: rest, _, h => by
      rw [rawEntries] at h
      cases h with
      | @cons _ entry _ made hentry hrest =>
          obtain ⟨key', value'⟩ := entry
          obtain rfl : key' = UnicodeLibrary.nfc key := hentry.key
          simp only [CanonicalValues.normalizeEntries, bind_eq_ok, pure_eq_ok]
          exact ⟨value', normalize_decoded value value' hentry.value, made,
            normalizeEntries_decoded rest made hrest, rfl⟩
end

end

/-! ## An example -/

/-- NFC is stable under trimming where it is stable under cutting and joining lines. -/
theorem StableText.of_spacing [PythonLibrary] [UnicodeLibrary] [LawfulSpacing] :
    StableText where
  blanks := LawfulSpacing.blanks
  nfc_nfc := LawfulSpacing.nfc_nfc
  nfc_trimmed h := by
    obtain ⟨blank, hrstrip, hstrip⟩ := LawfulSpacing.blanks
    exact nfc_tidied h (trimmed_toList hrstrip hstrip _)
  nfc_breaks := LawfulSpacing.nfc_breaks

/-- A set in a mapping, with a tuple beside it. -/
def sampleValue : Raw :=
  .mapping [(some "b", .set [.int 2, .int 1]), (some "a", .tuple [.bool true])]

/-- The sample, built otherwise. -/
def samePayload : Raw :=
  .mapping [(some "a", .list [.bool true]), (some "b", .set [.int 1, .int 2])]

def sampleForm : Value := .dict [("a", .list [.bool true]), ("b", .list [.int 1, .int 2])]

theorem sampleValue_alike : Alike sampleValue samePayload := by
  have hentries := Alike.entries (List.Perm.swap (some "a", Raw.tuple [.bool true])
    (some "b", Raw.set [.int 2, .int 1]) [])
  have htuple := Alike.inMapping (some "a") [] [(some "b", Raw.set [.int 2, .int 1])]
    (.sequence [.bool true])
  have hset := Alike.inMapping (some "b") [(some "a", Raw.list [.bool true])] []
    (.items (.swap (.int 1) (.int 2) []))
  exact (hentries.trans htuple).trans hset

theorem sampleValue_written : Written sampleValue := by
  refine .mapping (List.forall_mem_cons.mpr ⟨.set ?_, List.forall_mem_singleton.mpr (.tuple ?_)⟩)
  · exact List.forall_mem_cons.mpr ⟨.int _, List.forall_mem_singleton.mpr (.int _)⟩
  · exact List.forall_mem_singleton.mpr (.bool _)

theorem canonical_form_laws_sample : ∃ (_ : PythonLibrary) (_ : UnicodeLibrary)
    (a b : Raw) (w : Value) (text : String), normalize a = .ok w ∧ normalize b = .ok w ∧
      normalize (raw w) = .ok w ∧ canonicalPayload (raw w) = canonicalPayload a ∧
      canonicalPayload a = .ok text ∧ canonicalPayload b = .ok text ∧
      ∃ w', normalize a = .ok w' ∧ normalize b = .ok w' := by
  let _ := ReferenceLibrary.referenceLibrary
  let _ := IssuanceHistories.referenceUnicode
  have hspacing := AttestationReference.referenceLibrary_spacing
  have hstable := StableText.of_spacing
  obtain ⟨hagain, halike, hone⟩ := canonical_form_laws
  have hform : normalize sampleValue = .ok sampleForm := by
    decide +kernel
  obtain ⟨hraw, hpayload⟩ := hagain _ _ hform
  obtain ⟨hsame, htext⟩ := halike _ _ sampleValue_alike sampleValue_written _ hform
  have hwritten := canonicalPayload_eq_ok.mpr ⟨_, hform, rfl⟩
  exact ⟨_, _, sampleValue, samePayload, sampleForm, _, hform, hsame, hraw, hpayload, hwritten,
    htext.trans hwritten, hone _ _ sampleValue_written
      (sampleValue_alike.written.mp sampleValue_written) _ hwritten (htext.trans hwritten)⟩

end DeliverySystem.CanonicalForms

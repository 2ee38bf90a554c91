import DeliverySystem.PythonValues
import Mathlib.Data.List.Perm.Basic

/-!
# Canonical values

Normalization brings text to one form, sorts the keys of mappings, and turns
every sequence into a list. A digest is taken over the normalized value, so it
does not depend on the order in which a mapping was built.
-/
namespace DeliverySystem.CanonicalValues
open PythonValues
set_option autoImplicit false

/-- The text functions that normalization applies. -/
class UnicodeLibrary where
  /-- `unicodedata.normalize("NFC", text)` -/
  nfc : String → String
  /-- `str.rstrip` -/
  rstrip : String → String

/-- `text.replace("\r\n", "\n").replace("\r", "\n")` -/
def unifyBreaks : List Char → List Char
  | [] => []
  | c :: rest =>
      let tail := unifyBreaks rest
      if c = '\r' then (if rest.head? = some '\n' then tail else '\n' :: tail) else c :: tail

theorem unifyBreaks_eq {s : List Char} (h : '\r' ∉ s) : unifyBreaks s = s := by
  induction s with
  | nil => rfl
  | cons c s ih =>
      rw [List.mem_cons, not_or] at h
      rw [unifyBreaks, if_neg (Ne.symm h.1), ih h.2]

/-- `sorted` on the items of a mapping, whose keys differ. -/
def sortEntries {α : Type} (entries : List (String × α)) : List (String × α) :=
  entries.insertionSort fun a b => a.1 ≤ b.1

theorem sortEntries_perm {α : Type} (entries : List (String × α)) :
    (sortEntries entries).Perm entries := List.perm_insertionSort _ entries

theorem sortEntries_pairwise {α : Type} (entries : List (String × α)) :
    (sortEntries entries).Pairwise fun a b => a.1 ≤ b.1 := by
  have htotal : Std.Total fun a b : String × α => a.1 ≤ b.1 := ⟨fun a b => le_total a.1 b.1⟩
  have htrans : IsTrans (String × α) fun a b => a.1 ≤ b.1 := ⟨fun a b c => le_trans⟩
  exact List.pairwise_insertionSort _ entries

/-- Distinct keys are in strict order after sorting. -/
theorem sortEntries_sorted {α : Type} {entries : List (String × α)}
    (hnodup : (entries.map Prod.fst).Nodup) :
    ((sortEntries entries).map Prod.fst).Pairwise (· < ·) := by
  have hkeys : ((sortEntries entries).map Prod.fst).Nodup :=
    ((sortEntries_perm entries).map Prod.fst).nodup_iff.mpr hnodup
  have hsorted : ((sortEntries entries).map Prod.fst).Pairwise (· ≤ ·) :=
    List.pairwise_map.mpr (sortEntries_pairwise entries)
  exact (hsorted.and hkeys).imp fun h => lt_of_le_of_ne h.1 h.2

/-- The order of entries with distinct keys does not matter for a lookup. -/
theorem lookup_eq_of_perm {α : Type} {xs ys : List (String × α)} (hperm : xs.Perm ys)
    (hnodup : (xs.map Prod.fst).Nodup) (key : String) : xs.lookup key = ys.lookup key := by
  induction hperm with
  | nil => rfl
  | cons e _ ih =>
      obtain ⟨k, a⟩ := e
      rw [List.map_cons, List.nodup_cons] at hnodup
      simp only [List.lookup_cons, ih hnodup.2]
  | swap e f rest =>
      obtain ⟨k, a⟩ := e
      obtain ⟨l, b⟩ := f
      rw [List.map_cons, List.map_cons, List.nodup_cons, List.mem_cons, not_or] at hnodup
      simp only [List.lookup_cons]
      by_cases hk : key = k
      · subst hk
        have hne : (key == l) = false := by simpa using Ne.symm hnodup.1.1
        simp [hne]
      · have hne : (key == k) = false := by simpa using hk
        simp [hne]
  | trans hfirst _ ih ih' =>
      exact (ih hnodup).trans (ih' ((hfirst.map Prod.fst).nodup_iff.mp hnodup))

/-- Sorting forgets the order of entries with distinct keys. -/
theorem sortEntries_eq_of_perm {α : Type} {xs ys : List (String × α)} (hperm : xs.Perm ys)
    (hnodup : (xs.map Prod.fst).Nodup) : sortEntries xs = sortEntries ys := by
  have hanti : ∀ a b, a ∈ sortEntries xs → b ∈ sortEntries ys → a.1 ≤ b.1 → b.1 ≤ a.1 →
      a = b := by
    intro a b ha hb hab hba
    have hmemA : a ∈ xs := (sortEntries_perm xs).mem_iff.mp ha
    have hmemB : b ∈ xs := hperm.mem_iff.mpr ((sortEntries_perm ys).mem_iff.mp hb)
    exact List.inj_on_of_nodup_map hnodup hmemA hmemB (le_antisymm hab hba)
  exact List.Perm.eq_of_pairwise hanti (sortEntries_pairwise xs) (sortEntries_pairwise ys)
    ((sortEntries_perm xs).trans (hperm.trans (sortEntries_perm ys).symm))

mutual
/-- A value with the keys of all its mappings sorted; two values are equal in
Python exactly when these agree. -/
def sortKeys : Value → Value
  | .list items => .list (sortKeysItems items)
  | .tuple items => .tuple (sortKeysItems items)
  | .dict entries => .dict (sortEntries (sortKeysEntries entries))
  | v => v

def sortKeysItems : List Value → List Value
  | [] => []
  | item :: rest => sortKeys item :: sortKeysItems rest

def sortKeysEntries : List (String × Value) → List (String × Value)
  | [] => []
  | (key, value) :: rest => (key, sortKeys value) :: sortKeysEntries rest
end

section
variable [PythonLibrary] [UnicodeLibrary]

/-- `_text` -/
def canonicalText (value : String) : String :=
  let value := UnicodeLibrary.nfc (String.ofList (unifyBreaks value.toList))
  let lines := (value.toList.splitOn '\n').map fun line =>
    (UnicodeLibrary.rstrip (String.ofList line)).toList
  PythonLibrary.strip (String.ofList (['\n'].intercalate lines))

mutual
/-- Normalize supported values while preserving ordered sequence semantics. -/
def normalize : Value → Py Value
  | .str s => .ok (.str (canonicalText s))
  | .list items => do
      let items ← normalizeItems items
      pure (.list items)
  | .tuple items => do
      let items ← normalizeItems items
      pure (.list items)
  | .dict entries => do
      let entries ← normalizeEntries entries
      raiseIf (¬(entries.map Prod.fst).Nodup)
        "Canonical mapping keys collide after NFC normalization"
      pure (.dict (sortEntries entries))
  | v => .ok v

def normalizeItems : List Value → Py (List Value)
  | [] => .ok []
  | item :: rest => do
      let item ← normalize item
      let rest ← normalizeItems rest
      pure (item :: rest)

def normalizeEntries : List (String × Value) → Py (List (String × Value))
  | [] => .ok []
  | (key, value) :: rest => do
      let value ← normalize value
      let rest ← normalizeEntries rest
      pure ((UnicodeLibrary.nfc key, value) :: rest)
end

/-- `digest(value)`: the digest of the normalized value. -/
def canonicalDigest (value : Value) : Py String := do
  let value ← normalize value
  pure (digest value)

theorem normalizeItems_eq_ok {items items' : List Value} :
    normalizeItems items = .ok items' ↔
      List.Forall₂ (fun v v' => normalize v = .ok v') items items' := by
  rw [← mapM_eq_ok]
  induction items generalizing items' with
  | nil => rfl
  | cons item rest ih =>
      simp only [normalizeItems, List.mapM_cons, bind_eq_ok, pure_eq_ok, ih]

theorem normalizeEntries_eq_ok {entries entries' : List (String × Value)} :
    normalizeEntries entries = .ok entries' ↔
      List.Forall₂ (fun e e' => e'.1 = UnicodeLibrary.nfc e.1 ∧ normalize e.2 = .ok e'.2)
        entries entries' := by
  induction entries generalizing entries' with
  | nil => cases entries' <;> simp [normalizeEntries]
  | cons entry rest ih =>
      obtain ⟨key, value⟩ := entry
      simp only [normalizeEntries, bind_eq_ok, pure_eq_ok, List.forall₂_cons_left_iff, ih]
      constructor
      · rintro ⟨v', hv, rest', hrest, rfl⟩
        exact ⟨_, _, ⟨rfl, hv⟩, hrest, rfl⟩
      · rintro ⟨⟨k', v'⟩, rest', ⟨hk, hv⟩, hrest, rfl⟩
        obtain rfl : k' = UnicodeLibrary.nfc key := hk
        exact ⟨v', hv, rest', hrest, rfl⟩

/-- A mapping normalizes to one value, in whatever order it was built. -/
theorem normalize_dict_perm {entries entries' : Dict} {v : Value} (hperm : entries.Perm entries')
    (h : normalize (.dict entries) = .ok v) : normalize (.dict entries') = .ok v := by
  simp only [normalize, bind_eq_ok, raiseIf_eq_ok, pure_eq_ok, not_not,
    normalizeEntries_eq_ok] at h ⊢
  obtain ⟨made, hmade, _, hnodup, rfl⟩ := h
  obtain ⟨made', hmade', hperm'⟩ := List.perm_comp_forall₂ hperm.symm hmade
  have hkeys : (made'.map Prod.fst).Nodup := (hperm'.map Prod.fst).nodup_iff.mpr hnodup
  exact ⟨made', hmade', (), hkeys, by rw [sortEntries_eq_of_perm hperm' hkeys]⟩

end
end DeliverySystem.CanonicalValues

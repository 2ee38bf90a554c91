import Mathlib.Data.List.Nodup

/-!
# Rows under a primary key

A table is the list of its rows in insertion order, each with its key, and no
key occurs twice. Inserting a key that is present fails and leaves the table
alone; updating replaces the record of one key where it stands.
-/
namespace DeliverySystem.KeyedRows
set_option autoImplicit false

/-- Rows with the same distinct keys in the same order, one table's among the
other's, are the same. -/
theorem eq_of_keys {key record : Type} {rows rows' : List (key × record)}
    (hkeys : rows.map Prod.fst = rows'.map Prod.fst) (hnodup : (rows'.map Prod.fst).Nodup)
    (hsub : ∀ row ∈ rows, row ∈ rows') : rows = rows' := by
  induction rows generalizing rows' with
  | nil => exact (List.map_eq_nil_iff.mp hkeys.symm).symm
  | cons row rows ih =>
      obtain ⟨row', rows', rfl⟩ : ∃ row' rest, rows' = row' :: rest := by
        cases rows' with
        | nil => cases hkeys
        | cons row' rest => exact ⟨row', rest, rfl⟩
      simp only [List.map_cons, List.cons.injEq] at hkeys
      simp only [List.map_cons, List.nodup_cons] at hnodup
      -- a row stands where its key does
      have hplace : ∀ entry ∈ row :: rows, entry.1 = row'.1 → entry = row' := by
        intro entry hentry hkey
        rcases List.mem_cons.mp (hsub entry hentry) with heq | hrest
        · exact heq
        · exact absurd (hkey ▸ List.mem_map_of_mem hrest) hnodup.1
      obtain rfl := hplace row List.mem_cons_self hkeys.1
      rw [ih hkeys.2 hnodup.2 fun entry hentry => ?_]
      rcases List.mem_cons.mp (hsub entry (List.mem_cons_of_mem _ hentry)) with heq | hrest
      · refine absurd ?_ hnodup.1
        rw [← hkeys.2, ← heq]
        exact List.mem_map_of_mem hentry
      · exact hrest

structure Rows (key record : Type) where
  entries : List (key × record)
  nodup : (entries.map Prod.fst).Nodup
deriving Repr

variable {key record : Type}

@[ext] theorem Rows.ext {t u : Rows key record} (h : t.entries = u.entries) : t = u := by
  cases t
  cases u
  cases h
  rfl

namespace Rows

def empty : Rows key record := ⟨[], List.nodup_nil⟩

@[simp] theorem entries_empty : (empty : Rows key record).entries = [] := rfl

variable [DecidableEq key]

instance [DecidableEq record] : DecidableEq (Rows key record) := fun t u =>
  decidable_of_iff (t.entries = u.entries) ⟨Rows.ext, fun h => h ▸ rfl⟩

def lookup (t : Rows key record) (k : key) : Option record :=
  (t.entries.find? fun entry => entry.1 = k).map Prod.snd

theorem lookup_eq_some_iff {t : Rows key record} {k : key} {r : record} :
    t.lookup k = some r ↔ (k, r) ∈ t.entries := by
  obtain ⟨entries, nodup⟩ := t
  simp only [lookup]
  induction entries with
  | nil => simp
  | cons e rest ih =>
      obtain ⟨j, s⟩ := e
      rw [List.map_cons, List.nodup_cons] at nodup
      by_cases hjk : j = k
      · subst hjk
        rw [List.find?_cons_of_pos (by simp)]
        simp only [Option.map_some, Option.some.injEq, List.mem_cons, Prod.mk.injEq, true_and]
        refine ⟨fun h => .inl h.symm, fun h => h.elim Eq.symm fun hmem => ?_⟩
        exact absurd (List.mem_map_of_mem hmem) nodup.1
      · rw [List.find?_cons_of_neg (by simpa using hjk), ih nodup.2]
        simp only [List.mem_cons, Prod.mk.injEq]
        exact ⟨.inr, fun h => h.elim (fun h => absurd h.1.symm hjk) id⟩

theorem lookup_eq_none_iff {t : Rows key record} {k : key} :
    t.lookup k = none ↔ k ∉ t.entries.map Prod.fst := by
  simp only [Option.eq_none_iff_forall_ne_some, ne_eq, lookup_eq_some_iff, List.mem_map,
    not_exists, not_and]
  constructor
  · rintro h ⟨j, r⟩ hmem rfl
    exact h r hmem
  · intro h r hmem
    exact h (k, r) hmem rfl

@[simp] theorem lookup_empty (k : key) : (empty : Rows key record).lookup k = none := rfl

/-- A primary-key insert: `none` when the key is taken. -/
def insert (t : Rows key record) (k : key) (r : record) : Option (Rows key record) :=
  if h : k ∈ t.entries.map Prod.fst then none
  else some ⟨t.entries ++ [(k, r)], by
    rw [List.map_append, List.map_singleton]
    exact t.nodup.append (List.nodup_singleton k) (by simpa using h)⟩

theorem insert_eq_some {t u : Rows key record} {k : key} {r : record}
    (h : t.insert k r = some u) :
    t.lookup k = none ∧ u.entries = t.entries ++ [(k, r)] := by
  unfold insert at h
  split_ifs at h with hk
  obtain rfl := Option.some.inj h
  exact ⟨lookup_eq_none_iff.mpr hk, rfl⟩

theorem insert_isSome {t : Rows key record} {k : key} (r : record) (h : t.lookup k = none) :
    ∃ u, t.insert k r = some u := by
  unfold insert
  rw [dif_neg (lookup_eq_none_iff.mp h)]
  exact ⟨_, rfl⟩

theorem lookup_insert {t u : Rows key record} {k : key} {r : record}
    (h : t.insert k r = some u) (j : key) :
    u.lookup j = if j = k then some r else t.lookup j := by
  obtain ⟨hnone, hentries⟩ := insert_eq_some h
  split_ifs with hjk
  · rw [lookup_eq_some_iff, hentries, hjk]
    simp
  · apply Option.ext
    intro s
    rw [lookup_eq_some_iff, hentries, List.mem_append, ← lookup_eq_some_iff]
    simp only [List.mem_singleton, Prod.mk.injEq]
    exact ⟨fun h => h.elim id fun h => absurd h.1 hjk, .inl⟩

/-- `UPDATE … WHERE key = k`: no row is added. -/
def update (t : Rows key record) (k : key) (r : record) : Rows key record where
  entries := t.entries.map fun entry => if entry.1 = k then (entry.1, r) else entry
  nodup := by
    have hkeys : ((t.entries.map fun entry => if entry.1 = k then (entry.1, r) else entry).map
        Prod.fst) = t.entries.map Prod.fst := by
      rw [List.map_map]
      apply List.map_congr_left
      intro entry _
      simp only [Function.comp_apply]
      split_ifs <;> rfl
    rw [hkeys]
    exact t.nodup

theorem mem_entries_update {t : Rows key record} {k : key} {r : record} {row : key × record}
    (h : row ∈ (t.update k r).entries) : row ∈ t.entries ∨ row.2 = r := by
  obtain ⟨entry, hmem, rfl⟩ := List.mem_map.mp h
  split_ifs with hkey
  · exact .inr rfl
  · exact .inl hmem

theorem lookup_update (t : Rows key record) (k : key) (r : record) (j : key) :
    (t.update k r).lookup j = if j = k then (t.lookup j).map fun _ => r else t.lookup j := by
  have hfind : ∀ entries : List (key × record),
      ((entries.map fun entry => if entry.1 = k then (entry.1, r) else entry).find?
        fun entry => entry.1 = j).map Prod.snd =
      if j = k then ((entries.find? fun entry => entry.1 = j).map Prod.snd).map fun _ => r
      else (entries.find? fun entry => entry.1 = j).map Prod.snd := by
    intro entries
    induction entries with
    | nil => simp
    | cons e rest ih =>
        obtain ⟨i, s⟩ := e
        rw [List.map_cons]
        by_cases hij : i = j
        · subst hij
          by_cases hik : i = k <;> simp [hik]
        · have hhead : (if i = k then (i, r) else (i, s)).1 ≠ j := by
            split_ifs <;> exact hij
          rw [List.find?_cons_of_neg (by simpa using hhead),
            List.find?_cons_of_neg (by simpa using hij), ih]
  exact hfind t.entries

theorem lookup_update_self {t : Rows key record} {k : key} {s : record} (r : record)
    (h : t.lookup k = some s) : (t.update k r).lookup k = some r := by
  rw [lookup_update, if_pos rfl, h, Option.map_some]

theorem lookup_update_ne (t : Rows key record) {k j : key} (r : record) (h : j ≠ k) :
    (t.update k r).lookup j = t.lookup j := by
  rw [lookup_update, if_neg h]

/-- Updating the last row leaves the earlier rows as they are. -/
theorem entries_update_last {t : Rows key record} {earlier : List (key × record)} {k : key}
    {s : record} (r : record) (h : t.entries = earlier ++ [(k, s)]) :
    (t.update k r).entries = earlier ++ [(k, r)] := by
  have hnot : ∀ e ∈ earlier, e.1 ≠ k := by
    intro e he hek
    have hn := t.nodup
    rw [h, List.map_append, List.map_singleton, List.nodup_append] at hn
    exact hn.2.2 e.1 (List.mem_map_of_mem he) k (by simp) hek
  simp only [update, h, List.map_append, List.map_singleton, if_pos]
  congr 1
  conv_rhs => rw [← List.map_id earlier]
  apply List.map_congr_left
  intro e he
  rw [if_neg (hnot e he), id_eq]

/-- `rows[k] = r`: the record of a key that is there is replaced where it stands. -/
def put (t : Rows key record) (k : key) (r : record) : Rows key record :=
  match t.insert k r with
  | some u => u
  | none => t.update k r

theorem lookup_put (t : Rows key record) (k : key) (r : record) (j : key) :
    (t.put k r).lookup j = if j = k then some r else t.lookup j := by
  unfold put
  split
  · rename_i u hinsert
    exact lookup_insert hinsert j
  · rename_i hnone
    rw [lookup_update]
    split_ifs with hjk
    · subst hjk
      cases hs : t.lookup j with
      | none =>
          obtain ⟨u, hu⟩ := insert_isSome r hs
          rw [hnone] at hu
          cases hu
      | some s => rfl
    · rfl

theorem keys_put (t : Rows key record) (k : key) (r : record) :
    (t.put k r).entries.map Prod.fst =
      if (t.lookup k).isSome then t.entries.map Prod.fst else t.entries.map Prod.fst ++ [k] := by
  unfold put
  split
  · rename_i u hinsert
    obtain ⟨hnone, hentries⟩ := insert_eq_some hinsert
    rw [hnone, hentries, List.map_append]
    rfl
  · rename_i hnone
    have hsome : (t.lookup k).isSome = true := by
      rw [Option.isSome_iff_ne_none]
      intro hlookup
      obtain ⟨u, hu⟩ := insert_isSome r hlookup
      rw [hnone] at hu
      cases hu
    rw [if_pos hsome, update, List.map_map]
    refine List.map_congr_left fun entry _ => ?_
    simp only [Function.comp_apply]
    split_ifs <;> rfl

theorem entries_put_fresh {t : Rows key record} {k : key} (r : record) (h : t.lookup k = none) :
    (t.put k r).entries = t.entries ++ [(k, r)] := by
  obtain ⟨u, hu⟩ := insert_isSome r h
  rw [put, hu]
  exact (insert_eq_some hu).2

/-- Rows under new keys are added at the end, in their order. -/
theorem entries_foldl_put {t : Rows key record} {rows : List (key × record)}
    (hnodup : (rows.map Prod.fst).Nodup) (hfree : ∀ row ∈ rows, t.lookup row.1 = none) :
    (rows.foldl (fun t row => t.put row.1 row.2) t).entries = t.entries ++ rows := by
  induction rows generalizing t with
  | nil => rw [List.foldl_nil, List.append_nil]
  | cons row rows ih =>
      rw [List.map_cons, List.nodup_cons] at hnodup
      obtain ⟨hrow, hrest⟩ := List.forall_mem_cons.mp hfree
      rw [List.foldl_cons, ih hnodup.2 fun other hother => ?_, entries_put_fresh row.2 hrow,
        List.append_assoc, List.singleton_append]
      have hne : other.1 ≠ row.1 := fun heq => hnodup.1 (heq ▸ List.mem_map_of_mem hother)
      rw [lookup_put, if_neg hne]
      exact hrest other hother

/-- Tables with the same keys in the same order and the same record under each
are one. -/
theorem ext_lookup {t u : Rows key record} (hkeys : t.entries.map Prod.fst = u.entries.map Prod.fst)
    (h : ∀ k, t.lookup k = u.lookup k) : t = u := by
  refine Rows.ext (eq_of_keys hkeys u.nodup fun entry hentry => ?_)
  rw [← lookup_eq_some_iff, ← h, lookup_eq_some_iff]
  exact hentry

/-- Every record replaced where it stands. -/
def mapRecords (t : Rows key record) (f : key → record → record) : Rows key record where
  entries := t.entries.map fun entry => (entry.1, f entry.1 entry.2)
  nodup := by
    rw [List.map_map]
    exact t.nodup

theorem lookup_mapRecords (t : Rows key record) (f : key → record → record) (k : key) :
    (t.mapRecords f).lookup k = (t.lookup k).map (f k) := by
  refine Option.ext fun r => ?_
  rw [lookup_eq_some_iff, Option.map_eq_some_iff]
  simp only [mapRecords, List.mem_map, Prod.mk.injEq, lookup_eq_some_iff]
  constructor
  · rintro ⟨⟨j, s⟩, hmem, rfl, rfl⟩
    exact ⟨s, hmem, rfl⟩
  · rintro ⟨s, hmem, rfl⟩
    exact ⟨(k, s), hmem, rfl, rfl⟩

end Rows
end DeliverySystem.KeyedRows

import DeliverySystem.KeyedRows
import Mathlib.Order.Lattice
import Mathlib.Data.List.MinMax

/-!
# Rows under revisions

A table whose keys pair an identity with a revision keeps every revision of an
identity. The latest revision is the greatest one; a table that only takes
revisions above the latest replaces it with each row it takes. A transaction
may insert several rows, all of them or none.
-/
namespace DeliverySystem.KeyedRows.Rows
set_option autoImplicit false

section
variable {key record : Type} [DecidableEq key]

/-- The rows inserted one after another, each under a key that is not taken. -/
def insertAll (t : Rows key record) (rows : List (key × record)) : Option (Rows key record) :=
  rows.foldlM (fun t row => t.insert row.1 row.2) t

theorem lookup_insertAll {t u : Rows key record} {rows : List (key × record)}
    (h : t.insertAll rows = some u) {k : key} {r : record} :
    u.lookup k = some r ↔ t.lookup k = some r ∨ (k, r) ∈ rows := by
  induction rows generalizing t with
  | nil =>
      obtain rfl : t = u := by simpa [insertAll] using h
      simp
  | cons row rows ih =>
      obtain ⟨j, s⟩ := row
      obtain ⟨t', ht', hrest⟩ : ∃ t', t.insert j s = some t' ∧ t'.insertAll rows = some u := by
        simpa [insertAll, Option.bind_eq_some_iff] using h
      rw [ih hrest, lookup_insert ht', List.mem_cons, Prod.mk.injEq]
      by_cases hkj : k = j
      · subst hkj
        simp [(insert_eq_some ht').1, eq_comm]
      · simp [hkj]

/-- The keys of rows that are inserted together are distinct and were free. -/
theorem insertAll_fresh {t u : Rows key record} {rows : List (key × record)}
    (h : t.insertAll rows = some u) :
    (rows.map Prod.fst).Nodup ∧ ∀ row ∈ rows, t.lookup row.1 = none := by
  induction rows generalizing t with
  | nil => simp
  | cons row rows ih =>
      obtain ⟨j, s⟩ := row
      obtain ⟨t', ht', hrest⟩ : ∃ t', t.insert j s = some t' ∧ t'.insertAll rows = some u := by
        simpa [insertAll, Option.bind_eq_some_iff] using h
      obtain ⟨hnodup, hfree⟩ := ih hrest
      have hne : ∀ row ∈ rows, row.1 ≠ j := by
        intro row hrow heq
        have hnone := hfree row hrow
        rw [lookup_insert ht', if_pos heq] at hnone
        cases hnone
      constructor
      · rw [List.map_cons, List.nodup_cons, List.mem_map]
        refine ⟨?_, hnodup⟩
        rintro ⟨row, hrow, heq⟩
        exact hne row hrow heq
      · intro row hrow
        rcases List.mem_cons.mp hrow with rfl | hrow
        · exact (insert_eq_some ht').1
        · have hnone := hfree row hrow
          rwa [lookup_insert ht', if_neg (hne row hrow)] at hnone

theorem exists_insertAll {t : Rows key record} {rows : List (key × record)}
    (hnodup : (rows.map Prod.fst).Nodup) (hfree : ∀ row ∈ rows, t.lookup row.1 = none) :
    ∃ u, t.insertAll rows = some u := by
  induction rows generalizing t with
  | nil => exact ⟨t, rfl⟩
  | cons row rows ih =>
      obtain ⟨j, s⟩ := row
      rw [List.map_cons, List.nodup_cons, List.mem_map] at hnodup
      obtain ⟨t', ht'⟩ := insert_isSome s (hfree (j, s) List.mem_cons_self)
      obtain ⟨u, hu⟩ := ih (t := t') hnodup.2 (by
        intro row hrow
        rw [lookup_insert ht', if_neg fun heq => hnodup.1 ⟨row, hrow, heq⟩]
        exact hfree row (List.mem_cons_of_mem _ hrow))
      refine ⟨u, ?_⟩
      simp only [insertAll, List.foldlM_cons, ht', Option.bind_eq_bind, Option.bind_some]
      exact hu

end

variable {identity revision record : Type} [DecidableEq identity] [LinearOrder revision]

def revisions (t : Rows (identity × revision) record) (i : identity) : List revision :=
  (t.entries.filter fun entry => entry.1.1 = i).map fun entry => entry.1.2

/-- `SELECT MAX(revision)` -/
def latestRevision (t : Rows (identity × revision) record) (i : identity) : Option revision :=
  (t.revisions i).max?

/-- `ORDER BY revision DESC LIMIT 1` -/
def latestRecord (t : Rows (identity × revision) record) (i : identity) : Option record :=
  (t.latestRevision i).bind fun r => t.lookup (i, r)

theorem mem_revisions {t : Rows (identity × revision) record} {i : identity} {r : revision} :
    r ∈ t.revisions i ↔ ∃ x, t.lookup (i, r) = some x := by
  simp only [revisions, List.mem_map, List.mem_filter, decide_eq_true_eq, lookup_eq_some_iff]
  constructor
  · rintro ⟨⟨⟨i', r'⟩, x⟩, ⟨hmem, rfl⟩, rfl⟩
    exact ⟨x, hmem⟩
  · rintro ⟨x, hmem⟩
    exact ⟨((i, r), x), ⟨hmem, rfl⟩, rfl⟩

theorem latestRevision_eq_some {t : Rows (identity × revision) record} {i : identity}
    {r : revision} :
    t.latestRevision i = some r ↔
      (∃ x, t.lookup (i, r) = some x) ∧ ∀ r' x, t.lookup (i, r') = some x → r' ≤ r := by
  rw [latestRevision, List.max?_eq_some_iff, mem_revisions]
  refine and_congr_right fun _ => ⟨fun h r' x hx => h r' (mem_revisions.mpr ⟨x, hx⟩), ?_⟩
  intro h r' hr'
  obtain ⟨x, hx⟩ := mem_revisions.mp hr'
  exact h r' x hx

theorem latestRevision_eq_none {t : Rows (identity × revision) record} {i : identity} :
    t.latestRevision i = none ↔ ∀ r, t.lookup (i, r) = none := by
  rw [latestRevision, List.max?_eq_none_iff, List.eq_nil_iff_forall_not_mem]
  refine forall_congr' fun r => ?_
  rw [mem_revisions, Option.eq_none_iff_forall_ne_some, not_exists]

/-- A row under a revision that is there bounds the latest revision from below. -/
theorem le_latestRevision {t : Rows (identity × revision) record} {i : identity} {r m : revision}
    {x : record} (hx : t.lookup (i, r) = some x) (hm : t.latestRevision i = some m) : r ≤ m :=
  (latestRevision_eq_some.mp hm).2 r x hx

theorem exists_latestRevision {t : Rows (identity × revision) record} {i : identity} {r : revision}
    {x : record} (hx : t.lookup (i, r) = some x) : ∃ m, t.latestRevision i = some m ∧ r ≤ m := by
  cases hm : t.latestRevision i with
  | none =>
      rw [latestRevision_eq_none.mp hm r] at hx
      cases hx
  | some m => exact ⟨m, rfl, le_latestRevision hx hm⟩

/-- A row above the latest revision becomes the latest. -/
theorem latestRevision_insert {t u : Rows (identity × revision) record} {i : identity}
    {r : revision} {x : record} (h : t.insert (i, r) x = some u)
    (habove : ∀ m, t.latestRevision i = some m → m < r) (j : identity) :
    u.latestRevision j = if j = i then some r else t.latestRevision j := by
  split_ifs with hji
  · subst hji
    refine latestRevision_eq_some.mpr ⟨⟨x, by rw [lookup_insert h, if_pos rfl]⟩, ?_⟩
    intro r' x' hx'
    rw [lookup_insert h] at hx'
    split_ifs at hx' with hr'
    · exact (Prod.mk.inj hr').2.le
    · obtain ⟨m, hm, hle⟩ := exists_latestRevision hx'
      exact hle.trans (habove m hm).le
  · have hkeep : ∀ r', u.lookup (j, r') = t.lookup (j, r') := by
      intro r'
      rw [lookup_insert h, if_neg (fun heq => hji (Prod.mk.inj heq).1)]
    refine Option.ext fun m => ?_
    simp only [latestRevision_eq_some, hkeep]

theorem latestRecord_eq_some {t : Rows (identity × revision) record} {i : identity} {x : record} :
    t.latestRecord i = some x ↔ ∃ r, t.latestRevision i = some r ∧ t.lookup (i, r) = some x := by
  rw [latestRecord, Option.bind_eq_some_iff]

end DeliverySystem.KeyedRows.Rows

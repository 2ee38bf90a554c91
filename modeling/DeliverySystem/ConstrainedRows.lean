import Mathlib.Data.List.Basic
import Mathlib.Data.List.Nodup
import Mathlib.Data.List.Perm.Basic

/-!
# Rows under constraints

A row is the list of its cells. A table admits a row by its checks, and no two of
its rows agree on the columns of a uniqueness constraint. A row refers to another
table when some row there has the same cells in the columns that are named.
-/
namespace DeliverySystem.ConstrainedRows
set_option autoImplicit false

abbrev Row (cell : Type) := List cell

variable {cell : Type} [DecidableEq cell]

/-- The cells in these columns. -/
def project (columns : List ℕ) (row : Row cell) : List (Option cell) :=
  columns.map fun column => row[column]?

structure Table (cell : Type) where
  admits : Row cell → Bool
  uniques : List (List ℕ)

namespace Table

/-- No row agrees with the new one on a uniqueness constraint. -/
def free (t : Table cell) (rows : List (Row cell)) (row : Row cell) : Bool :=
  t.uniques.all fun columns => rows.all fun other => project columns other ≠ project columns row

/-- `INSERT INTO`: `none` when a check or a uniqueness constraint fails. -/
def insert (t : Table cell) (rows : List (Row cell)) (row : Row cell) : Option (List (Row cell)) :=
  if t.admits row = true ∧ t.free rows row = true then some (rows ++ [row]) else none

theorem free_iff {t : Table cell} {rows : List (Row cell)} {row : Row cell} :
    t.free rows row = true ↔
      ∀ columns ∈ t.uniques, ∀ other ∈ rows, project columns other ≠ project columns row := by
  simp [free, List.all_eq_true]

theorem insert_eq_some {t : Table cell} {rows : List (Row cell)} {row : Row cell}
    (hadmits : t.admits row = true) (hfree : t.free rows row = true) :
    t.insert rows row = some (rows ++ [row]) := if_pos ⟨hadmits, hfree⟩

/-- A row that agrees with another one is not inserted. -/
theorem insert_eq_none {t : Table cell} {rows : List (Row cell)} {row other : Row cell}
    {columns : List ℕ} (hcolumns : columns ∈ t.uniques) (hother : other ∈ rows)
    (hagree : project columns other = project columns row) : t.insert rows row = none := by
  refine if_neg fun ⟨_, hfree⟩ => ?_
  exact free_iff.mp hfree columns hcolumns other hother hagree

end Table

/-- `FOREIGN KEY (columns) REFERENCES parents(parentColumns)` -/
def refers (parents : List (Row cell)) (parentColumns columns : List ℕ) (row : Row cell) : Bool :=
  parents.any fun parent => project parentColumns parent = project columns row

theorem refers_of_mem {parents : List (Row cell)} {parentColumns columns : List ℕ}
    {parent row : Row cell} (hmem : parent ∈ parents)
    (hagree : project parentColumns parent = project columns row) :
    refers parents parentColumns columns row = true :=
  List.any_eq_true.mpr ⟨parent, hmem, by simpa using hagree⟩

/-- `SELECT * FROM rows WHERE columns = cells` -/
def select (rows : List (Row cell)) (columns : List ℕ) (cells : List cell) : List (Row cell) :=
  rows.filter fun row => project columns row = cells.map some

theorem select_append (rows rows' : List (Row cell)) (columns : List ℕ) (cells : List cell) :
    select (rows ++ rows') columns cells = select rows columns cells ++ select rows' columns cells :=
  List.filter_append ..

theorem select_singleton (row : Row cell) (columns : List ℕ) (cells : List cell) :
    select [row] columns cells = if project columns row = cells.map some then [row] else [] := by
  rw [select, List.filter_singleton]
  split_ifs with h
  · rw [decide_eq_true h]
    rfl
  · rw [decide_eq_false h]
    rfl

/-- The rows of different records, selected by what tells the records apart. -/
theorem select_map {record key : Type} [DecidableEq key] {records : List record}
    {toRow : record → Row cell} {keyOf : record → key} {columns : List ℕ} {cells : key → List cell}
    (hkey : ∀ r k, project columns (toRow r) = (cells k).map some ↔ keyOf r = k) (k : key) :
    select (records.map toRow) columns (cells k) =
      (records.filter fun r => keyOf r = k).map toRow := by
  rw [select, List.filter_map]
  refine congrArg (List.map toRow) (List.filter_congr fun r _ => ?_)
  simpa using hkey r k

/-- Among records with different keys at most one has a given key. -/
theorem filter_key {record key : Type} [DecidableEq key] {records : List record}
    {keyOf : record → key} (hnodup : (records.map keyOf).Nodup) {r : record} (hr : r ∈ records) :
    (records.filter fun other => keyOf other = keyOf r) = [r] := by
  induction records with
  | nil => cases hr
  | cons first rest ih =>
      rw [List.map_cons, List.nodup_cons] at hnodup
      rcases List.mem_cons.mp hr with rfl | hr
      · rw [List.filter_cons_of_pos (by simp)]
        refine congrArg (List.cons _) (List.filter_eq_nil_iff.mpr fun other hother => ?_)
        rw [decide_eq_true_eq]
        intro hsame
        exact hnodup.1 (hsame ▸ List.mem_map_of_mem hother)
      · have hne : keyOf first ≠ keyOf r := by
          intro hsame
          exact hnodup.1 (hsame ▸ List.mem_map_of_mem hr)
        rw [List.filter_cons_of_neg (by simpa using hne)]
        exact ih hnodup.2 hr

end DeliverySystem.ConstrainedRows

import Mathlib.Data.List.Forall2

/-!
# Lists paired element by element

What `List.Forall₂` says of two lists, read from either of them.
-/
namespace DeliverySystem.PairedLists
set_option autoImplicit false

variable {α β : Type} {R : α → β → Prop}

theorem exists_forall₂ {xs : List α} (h : ∀ x ∈ xs, ∃ y, R x y) : ∃ ys, List.Forall₂ R xs ys := by
  induction xs with
  | nil => exact ⟨[], .nil⟩
  | cons x xs ih =>
      obtain ⟨⟨y, hy⟩, hrest⟩ := List.forall_mem_cons.mp h
      obtain ⟨ys, hys⟩ := ih hrest
      exact ⟨y :: ys, .cons hy hys⟩

theorem mem_right {xs : List α} {ys : List β} (h : List.Forall₂ R xs ys) {y : β} (hy : y ∈ ys) :
    ∃ x ∈ xs, R x y := by
  induction h with
  | nil => cases hy
  | cons hxy _ ih =>
      rcases List.mem_cons.mp hy with rfl | hy
      · exact ⟨_, List.mem_cons_self, hxy⟩
      · obtain ⟨x, hx, hrel⟩ := ih hy
        exact ⟨x, List.mem_cons_of_mem _ hx, hrel⟩

theorem mem_left {xs : List α} {ys : List β} (h : List.Forall₂ R xs ys) {x : α} (hx : x ∈ xs) :
    ∃ y ∈ ys, R x y := by
  obtain ⟨y, hy, hrel⟩ := mem_right h.flip hx
  exact ⟨y, hy, hrel⟩

/-- Pairs by a function are its values, where it has a property. -/
theorem forall₂_map_iff {f : α → β} {p : α → Prop} {xs : List α} {ys : List β}
    (h : ∀ x ∈ xs, ∀ y, R x y ↔ f x = y ∧ p x) :
    List.Forall₂ R xs ys ↔ xs.map f = ys ∧ ∀ x ∈ xs, p x := by
  induction xs generalizing ys with
  | nil => cases ys <;> simp
  | cons x xs ih =>
      obtain ⟨hx, hrest⟩ := List.forall_mem_cons.mp h
      simp only [List.forall₂_cons_left_iff, hx, ih hrest, List.map_cons, List.forall_mem_cons]
      constructor
      · rintro ⟨_, _, ⟨rfl, hp⟩, ⟨rfl, hps⟩, rfl⟩
        exact ⟨rfl, hp, hps⟩
      · rintro ⟨rfl, hp, hps⟩
        exact ⟨_, _, ⟨rfl, hp⟩, ⟨rfl, hps⟩, rfl⟩


/-- What filters the one list by a property filters the other by its counterpart. -/
theorem forall₂_filter {p : α → Bool} {q : β → Bool} {xs : List α} {ys : List β}
    (h : List.Forall₂ R xs ys) (hpq : ∀ x y, R x y → p x = q y) :
    List.Forall₂ R (xs.filter p) (ys.filter q) := by
  induction h with
  | nil => exact .nil
  | @cons x y xs ys hxy _ ih =>
      rw [List.filter_cons, List.filter_cons, hpq x y hxy]
      split_ifs
      · exact .cons hxy ih
      · exact ih

/-- An element may stand for another that is paired with the same ones. -/
theorem forall₂_replace {x x' : α} (h : ∀ y, R x y ↔ R x' y) (before after : List α)
    {ys : List β} : List.Forall₂ R (before ++ x :: after) ys ↔
      List.Forall₂ R (before ++ x' :: after) ys := by
  induction before generalizing ys with
  | nil => simp only [List.nil_append, List.forall₂_cons_left_iff, h]
  | cons b before ih => simp only [List.cons_append, List.forall₂_cons_left_iff, ih]

/-- Elements are paired under what their membership says of them. -/
theorem forall₂_imp_mem {S : α → β → Prop} {xs : List α} {ys : List β} (h : List.Forall₂ R xs ys)
    (himp : ∀ x y, x ∈ xs → y ∈ ys → R x y → S x y) : List.Forall₂ S xs ys := by
  induction h with
  | nil => exact .nil
  | @cons x y xs ys hxy _ ih =>
      refine .cons (himp x y List.mem_cons_self List.mem_cons_self hxy) (ih fun x' y' hx hy => ?_)
      exact himp x' y' (List.mem_cons_of_mem x hx) (List.mem_cons_of_mem y hy)

/-- Two lists that are paired with a third are paired with each other. -/
theorem forall₂_join {γ : Type} {S : α → γ → Prop} {T : β → γ → Prop}
    (hjoin : ∀ x y z, R x y → S x z → T y z) {xs : List α} {ys : List β} {zs : List γ}
    (h : List.Forall₂ R xs ys) (h' : List.Forall₂ S xs zs) : List.Forall₂ T ys zs := by
  induction h generalizing zs with
  | nil =>
      cases h'
      exact .nil
  | cons hxy _ ih =>
      cases h' with
      | cons hxz hrest => exact .cons (hjoin _ _ _ hxy hxz) (ih hrest)

theorem mapM_eq_some {f : α → Option β} {xs : List α} {ys : List β} :
    xs.mapM f = some ys ↔ List.Forall₂ (fun x y => f x = some y) xs ys := by
  induction xs generalizing ys with
  | nil => cases ys <;> simp
  | cons x xs ih =>
      simp only [List.mapM_cons, Option.pure_def, Option.bind_eq_bind, Option.bind_eq_some_iff,
        Option.some.injEq, List.forall₂_cons_left_iff, ih]
      constructor
      · rintro ⟨y, hy, rest, hrest, rfl⟩
        exact ⟨y, rest, hy, hrest, rfl⟩
      · rintro ⟨y, rest, hy, hrest, rfl⟩
        exact ⟨y, hy, rest, hrest, rfl⟩

end DeliverySystem.PairedLists

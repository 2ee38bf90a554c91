import Mathlib.Data.List.Dedup
import Mathlib.Data.List.Sort
import Mathlib.Data.String.Basic

/-!
# Python values, mappings, and raising computations

The runtime receives decoded JSON: its validators first ask what kind of value
they were given and only then read it. `Value` is that data, `Dict` a mapping
with string keys whose first entry for a key is the one that counts, and `Py`
a computation that may raise.

An exception carries the code the source puts into it, because callers and
tests tell failures apart by that text.
-/
namespace DeliverySystem.PythonValues
set_option autoImplicit false

inductive Value where
  | null
  | bool (value : Bool)
  | int (value : Int)
  | float (text : String)
  | str (value : String)
  | list (items : List Value)
  | tuple (items : List Value)
  | dict (entries : List (String × Value))
deriving Repr, Inhabited

abbrev Dict := List (String × Value)

mutual
def Value.decEq : (a b : Value) → Decidable (a = b)
  | .null, b => match b with
    | .null => .isTrue rfl
    | .bool _ | .int _ | .float _ | .str _ | .list _ | .tuple _ | .dict _ =>
        .isFalse (by intro h; cases h)
  | .bool x, b => match b with
    | .bool y => decidable_of_iff (x = y) (by simp)
    | .null | .int _ | .float _ | .str _ | .list _ | .tuple _ | .dict _ =>
        .isFalse (by intro h; cases h)
  | .int x, b => match b with
    | .int y => decidable_of_iff (x = y) (by simp)
    | .null | .bool _ | .float _ | .str _ | .list _ | .tuple _ | .dict _ =>
        .isFalse (by intro h; cases h)
  | .float x, b => match b with
    | .float y => decidable_of_iff (x = y) (by simp)
    | .null | .bool _ | .int _ | .str _ | .list _ | .tuple _ | .dict _ =>
        .isFalse (by intro h; cases h)
  | .str x, b => match b with
    | .str y => decidable_of_iff (x = y) (by simp)
    | .null | .bool _ | .int _ | .float _ | .list _ | .tuple _ | .dict _ =>
        .isFalse (by intro h; cases h)
  | .list xs, b => match b with
    | .list ys =>
        have := Value.decEqItems xs ys
        decidable_of_iff (xs = ys) (by simp)
    | .null | .bool _ | .int _ | .float _ | .str _ | .tuple _ | .dict _ =>
        .isFalse (by intro h; cases h)
  | .tuple xs, b => match b with
    | .tuple ys =>
        have := Value.decEqItems xs ys
        decidable_of_iff (xs = ys) (by simp)
    | .null | .bool _ | .int _ | .float _ | .str _ | .list _ | .dict _ =>
        .isFalse (by intro h; cases h)
  | .dict xs, b => match b with
    | .dict ys =>
        have := Value.decEqEntries xs ys
        decidable_of_iff (xs = ys) (by simp)
    | .null | .bool _ | .int _ | .float _ | .str _ | .list _ | .tuple _ =>
        .isFalse (by intro h; cases h)

def Value.decEqItems : (xs ys : List Value) → Decidable (xs = ys)
  | [], [] => .isTrue rfl
  | [], _ :: _ => .isFalse (by simp)
  | _ :: _, [] => .isFalse (by simp)
  | x :: xs, y :: ys =>
      have := Value.decEq x y
      have := Value.decEqItems xs ys
      decidable_of_iff (x = y ∧ xs = ys) (by simp)

def Value.decEqEntries : (xs ys : List (String × Value)) → Decidable (xs = ys)
  | [], [] => .isTrue rfl
  | [], _ :: _ => .isFalse (by simp)
  | _ :: _, [] => .isFalse (by simp)
  | (k, x) :: xs, (l, y) :: ys =>
      have := Value.decEq x y
      have := Value.decEqEntries xs ys
      decidable_of_iff (k = l ∧ x = y ∧ xs = ys) (by simp [and_assoc])
end

instance : DecidableEq Value := Value.decEq

example : Value.dict [("a", .list [.int 1])] ≠ .dict [("a", .list [.int 2])] := by decide

/-! ## Asking what a value is -/

/-- `isinstance(value, str)`, with the text it then has. -/
def Value.text? : Value → Option String
  | .str s => some s
  | _ => none

/-- A `str` that is not empty, the validators' `isinstance(v, str) and bool(v)`. -/
def Value.nonEmptyText? : Value → Option String
  | .str s => if s = "" then none else some s
  | _ => none

/-- `isinstance(value, Mapping)`. -/
def Value.mapping? : Value → Option Dict
  | .dict d => some d
  | _ => none

/-- `isinstance(value, Sequence) and not isinstance(value, (str, bytes))`. -/
def Value.sequence? : Value → Option (List Value)
  | .list xs => some xs
  | .tuple xs => some xs
  | _ => none

/-- `isinstance(value, list)`. -/
def Value.list? : Value → Option (List Value)
  | .list xs => some xs
  | _ => none

/-- Lists and dictionaries cannot be set members or compared against a set. -/
def Value.hashable : Value → Bool
  | .list _ => false
  | .dict _ => false
  | _ => true

@[simp] theorem Value.text?_eq_some {v : Value} {s : String} :
    v.text? = some s ↔ v = .str s := by
  cases v <;> simp [Value.text?]

@[simp] theorem Value.nonEmptyText?_eq_some {v : Value} {s : String} :
    v.nonEmptyText? = some s ↔ v = .str s ∧ s ≠ "" := by
  cases v <;> simp only [Value.nonEmptyText?, reduceCtorEq, false_and]
  split_ifs with h
  · simp only [Value.str.injEq, false_iff, not_and, ne_eq, not_not]
    rintro rfl
    exact h
  · simp only [Option.some.injEq, Value.str.injEq]
    exact ⟨by rintro rfl; exact ⟨rfl, h⟩, And.left⟩

namespace Dict

def keys (d : Dict) : List String := d.map Prod.fst

/-- `mapping.get(key)`: an absent key reads as `None`. -/
def get (d : Dict) (key : String) : Value := (d.lookup key).getD .null

/-- `set(mapping) == fields`. -/
def hasExactly (d : Dict) (fields : List String) : Bool :=
  (keys d).all (fields.contains ·) && fields.all ((keys d).contains ·)

theorem hasExactly_iff (d : Dict) (fields : List String) :
    hasExactly d fields = true ↔ ∀ k, k ∈ keys d ↔ k ∈ fields := by
  simp only [hasExactly, Bool.and_eq_true, List.all_eq_true, List.contains_eq_mem,
    decide_eq_true_eq]
  exact ⟨fun ⟨h, g⟩ k => ⟨h k, g k⟩, fun h => ⟨fun k => (h k).mp, fun k => (h k).mpr⟩⟩

end Dict

/-! ## Raising -/

inductive Raised where
  | valueError (code : String)
  | driverError (code : String)
  | typeError
  | keyError
  | indexError
  | attributeError
  | integrityError
  | otherError
deriving Repr, DecidableEq

abbrev Py := Except Raised

/-- `if condition: raise ValueError(code)`. -/
def raiseIf (condition : Prop) [Decidable condition] (code : String) : Py Unit :=
  if condition then .error (.valueError code) else .ok ()

@[simp] theorem raiseIf_eq_ok {condition : Prop} [Decidable condition] {code : String}
    {u : Unit} : raiseIf condition code = .ok u ↔ ¬condition := by
  unfold raiseIf
  split_ifs with h <;> simp [h]

section
variable {α β : Type}

@[simp] theorem bind_eq_ok {x : Py α} {f : α → Py β} {b : β} :
    (x >>= f) = .ok b ↔ ∃ a, x = .ok a ∧ f a = .ok b := by
  cases x <;> simp [bind, Except.bind]

@[simp] theorem pure_eq_ok {a b : α} : (pure a : Py α) = .ok b ↔ a = b := by
  simp [pure, Except.pure]

theorem map_eq_ok {f : α → β} {x : Py α} {b : β} :
    f <$> x = .ok b ↔ ∃ a, x = .ok a ∧ f a = b := by
  cases x <;> simp [Functor.map, Except.map]

@[simp] theorem throw_eq_ok {e : Raised} {a : α} : (throw e : Py α) = .ok a ↔ False := by
  simp [throw, throwThe, MonadExceptOf.throw]

theorem mapM_eq_ok {f : α → Py β} {xs : List α} {ys : List β} :
    xs.mapM f = .ok ys ↔ List.Forall₂ (fun x y => f x = .ok y) xs ys := by
  induction xs generalizing ys with
  | nil => cases ys <;> simp
  | cons x xs ih =>
      simp only [List.mapM_cons, bind_eq_ok, pure_eq_ok]
      constructor
      · rintro ⟨y, hy, zs, hzs, rfl⟩
        exact .cons hy (ih.mp hzs)
      · rintro (_ | ⟨hy, hys⟩)
        exact ⟨_, hy, _, ih.mpr hys, rfl⟩

theorem exists_of_mem_mapM {f : α → Py β} {xs : List α} {ys : List β}
    (h : xs.mapM f = .ok ys) {y : β} (hy : y ∈ ys) : ∃ x ∈ xs, f x = .ok y := by
  have hpairs := mapM_eq_ok.mp h
  clear h
  induction hpairs with
  | nil => simp at hy
  | cons hx _ ih =>
      rcases List.mem_cons.mp hy with rfl | hy
      · exact ⟨_, List.mem_cons_self, hx⟩
      · obtain ⟨x, hmem, hx⟩ := ih hy
        exact ⟨x, List.mem_cons_of_mem _ hmem, hx⟩

theorem exists_of_mem_of_mapM {f : α → Py β} {xs : List α} {ys : List β}
    (h : xs.mapM f = .ok ys) {x : α} (hx : x ∈ xs) : ∃ y, f x = .ok y := by
  have hpairs := mapM_eq_ok.mp h
  clear h
  induction hpairs with
  | nil => simp at hx
  | cons hhead _ ih =>
      rcases List.mem_cons.mp hx with rfl | hx
      · exact ⟨_, hhead⟩
      · exact ih hx

theorem mapM_congr_mem {f g : α → Py β} {xs : List α} (h : ∀ x ∈ xs, f x = g x) :
    xs.mapM f = xs.mapM g := by
  induction xs with
  | nil => rfl
  | cons x xs ih =>
      rw [List.mapM_cons, List.mapM_cons, h x List.mem_cons_self,
        ih fun y hy => h y (List.mem_cons_of_mem _ hy)]

theorem exists_mapM_eq_ok {f : α → Py β} {xs : List α} (h : ∀ x ∈ xs, ∃ y, f x = .ok y) :
    ∃ ys, xs.mapM f = .ok ys := by
  simp only [mapM_eq_ok]
  induction xs with
  | nil => exact ⟨[], .nil⟩
  | cons x xs ih =>
      obtain ⟨y, hy⟩ := h x List.mem_cons_self
      obtain ⟨ys, hys⟩ := ih fun z hz => h z (List.mem_cons_of_mem _ hz)
      exact ⟨y :: ys, .cons hy hys⟩

theorem forM_eq_ok {f : α → Py Unit} {xs : List α} :
    xs.forM f = .ok () ↔ ∀ x ∈ xs, f x = .ok () := by
  induction xs with
  | nil => simp
  | cons x xs ih =>
      simp only [List.forM_eq_forM, List.forM_cons, bind_eq_ok, List.mem_cons,
        forall_eq_or_imp] at ih ⊢
      constructor
      · rintro ⟨⟨⟩, hx, hxs⟩
        exact ⟨hx, ih.mp hxs⟩
      · rintro ⟨hx, hxs⟩
        exact ⟨(), hx, ih.mpr hxs⟩
end

/-- A computation whose only exceptions are the `ValueError`s of these codes. -/
def RaisesOnly {α : Type} (codes : List String) (x : Py α) : Prop :=
  ∀ e, x = .error e → ∃ code ∈ codes, e = .valueError code

theorem raiseIf_raisesOnly {codes : List String} {condition : Prop} [Decidable condition]
    {code : String} (h : code ∈ codes) : RaisesOnly codes (raiseIf condition code) := by
  intro e he
  unfold raiseIf at he
  split_ifs at he
  exact ⟨code, h, (Except.error.inj he).symm⟩

theorem bind_raisesOnly {α β : Type} {codes : List String} {x : Py α} {f : α → Py β}
    (hx : RaisesOnly codes x) (hf : ∀ a, RaisesOnly codes (f a)) :
    RaisesOnly codes (x >>= f) := by
  intro e he
  cases x with
  | error e' =>
      obtain rfl : e' = e := Except.error.inj he
      exact hx e' rfl
  | ok a => exact hf a e he

theorem pure_raisesOnly {α : Type} {codes : List String} (a : α) :
    RaisesOnly codes (pure a : Py α) := by
  intro e he
  cases he

/-- The value a raising read must find, or the given exception. -/
def orRaise {α : Type} (x : Option α) (e : Raised) : Py α :=
  match x with
  | some a => .ok a
  | none => .error e

@[simp] theorem orRaise_eq_ok {α : Type} {x : Option α} {e : Raised} {a : α} :
    orRaise x e = .ok a ↔ x = some a := by
  cases x <;> simp [orRaise]

/-! ## Computations that raise nothing but `ValueError`s -/

def RaisesValueErrors {α : Type} (x : Py α) : Prop :=
  ∀ e, x = .error e → ∃ code, e = .valueError code

namespace RaisesValueErrors
variable {α β : Type}

theorem pure (a : α) : RaisesValueErrors (Pure.pure a : Py α) := by
  intro e he
  cases he

theorem valueError (code : String) : RaisesValueErrors (.error (.valueError code) : Py α) := by
  intro e he
  exact ⟨code, (Except.error.inj he).symm⟩

theorem raiseIf (condition : Prop) [Decidable condition] (code : String) :
    RaisesValueErrors (raiseIf condition code) := by
  unfold PythonValues.raiseIf
  split_ifs
  · exact .valueError code
  · exact .pure ()

theorem orRaise (x : Option α) (code : String) :
    RaisesValueErrors (orRaise x (.valueError code)) := by
  cases x with
  | none => exact .valueError code
  | some a => exact .pure a

theorem of_isSome {x : Option α} (h : x.isSome) (e : Raised) :
    RaisesValueErrors (PythonValues.orRaise x e) := by
  obtain ⟨a, rfl⟩ := Option.isSome_iff_exists.mp h
  exact .pure a

/-- What follows need only be looked at for the values that come before it. -/
theorem bind {x : Py α} {f : α → Py β} (hx : RaisesValueErrors x)
    (hf : ∀ a, x = .ok a → RaisesValueErrors (f a)) : RaisesValueErrors (x >>= f) := by
  intro e he
  cases x with
  | error e' =>
      obtain rfl : e' = e := Except.error.inj he
      exact hx e' rfl
  | ok a => exact hf a rfl e he

theorem map {x : Py α} (hx : RaisesValueErrors x) (f : α → β) : RaisesValueErrors (f <$> x) := by
  intro e he
  cases x with
  | error e' =>
      obtain rfl : e' = e := Except.error.inj he
      exact hx e' rfl
  | ok a => cases he

theorem mapM {f : α → Py β} {xs : List α} (h : ∀ x ∈ xs, RaisesValueErrors (f x)) :
    RaisesValueErrors (xs.mapM f) := by
  induction xs with
  | nil => exact .pure []
  | cons x xs ih =>
      rw [List.mapM_cons]
      apply bind (h x List.mem_cons_self)
      intro y _
      apply bind (ih fun z hz => h z (List.mem_cons_of_mem _ hz))
      intro ys _
      exact .pure _

theorem forM {f : α → Py Unit} {xs : List α} (h : ∀ x ∈ xs, RaisesValueErrors (f x)) :
    RaisesValueErrors (xs.forM f) := by
  induction xs with
  | nil => exact .pure ()
  | cons x xs ih =>
      apply bind (h x List.mem_cons_self)
      intro _ _
      exact ih fun z hz => h z (List.mem_cons_of_mem _ hz)

end RaisesValueErrors

/-! ## Library functions -/

theorem append_ne_empty {s t : String} (h : s ≠ "") : s ++ t ≠ "" := by
  rw [ne_eq, String.append_eq_empty_iff]
  exact fun hst => h hst.1

/-- Functions of Python's own library that the program applies and never looks
into. Nothing is assumed about them, so every result holds for the real ones. -/
class PythonLibrary where
  /-- `hashlib.sha256(canonical_payload(value)).hexdigest()`, on canonical values. -/
  hexdigest : Value → String
  /-- `datetime.isoformat` of a UTC instant, with the suffix `Z`. -/
  isoformat : Int → String
  /-- `str.lower` -/
  lower : String → String
  /-- `str.strip` -/
  strip : String → String
  /-- `str` of a value that is not text. -/
  textOf : Value → String
  /-- `json.dumps` with sorted keys and no blanks. -/
  jsonDumps : Value → String

/-- A normalized UTC timestamp text is the instant it denotes, in microseconds. -/
abbrev Instant := Int

section
variable [PythonLibrary]

/-- `"sha256:" + hexdigest`, the digest of a canonical payload. -/
def digest (payload : Value) : String := "sha256:" ++ PythonLibrary.hexdigest payload

theorem digest_ne_empty (payload : Value) : digest payload ≠ "" :=
  append_ne_empty (by decide)

def Value.timestamp (t : Instant) : Value := .str (PythonLibrary.isoformat t)
end

def Value.textOrNone : Option String → Value
  | some s => .str s
  | none => .null

def Value.texts (items : List String) : Value := .list (items.map .str)

end DeliverySystem.PythonValues

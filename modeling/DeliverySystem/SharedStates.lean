import DeliverySystem.FallibleRuns
import Mathlib.Data.List.Forall2

/-!
# States that others change as well

A run works on a state in transactions, and others change the state between
them. What a run knows has to survive what the others do; what the run itself
does to the state is recorded transaction by transaction.
-/
namespace DeliverySystem.SharedStates
open FallibleRuns
set_option autoImplicit false

/-- A state, what others do to it before each of the transactions that are left, and the
transactions of the run so far. -/
structure Shared (σ : Type) where
  state : σ
  others : List (σ → σ)
  steps : List (σ × σ)

variable {σ ε α β : Type}

/-- One transaction. Nothing is changed where it raises. -/
def transaction (work : σ → Except ε (α × σ)) : Run (Shared σ) ε α :=
  ExceptT.mk fun w =>
    let state := (w.others.headD id) w.state
    match work state with
    | .ok (a, state') => (.ok a, ⟨state', w.others.tail, w.steps ++ [(state, state')]⟩)
    | .error e => (.error e, ⟨state, w.others.tail, w.steps ++ [(state, state)]⟩)

theorem start_transaction {work : σ → Except ε (α × σ)} {w : Shared σ} {a : α} {state' : σ}
    (h : work ((w.others.headD id) w.state) = .ok (a, state')) :
    (transaction work).start w = (.ok a, ⟨state', w.others.tail,
      w.steps ++ [((w.others.headD id) w.state, state')]⟩) := by
  change (match work ((w.others.headD id) w.state) with
    | .ok (a, state') =>
        (Except.ok a, Shared.mk state' w.others.tail (w.steps ++ [(_, state')]))
    | .error e => (.error e, ⟨_, w.others.tail, w.steps ++ [(_, _)]⟩)) = _
  rw [h]

/-- A transaction that only reads. -/
def observe (read : σ → Except ε α) : Run (Shared σ) ε α :=
  transaction fun s => (·, s) <$> read s

/-! ## Rely and guarantee -/

/-- What a run relies on of the others, and what it guarantees itself. -/
structure Contract (σ : Type) where
  rely : σ → σ → Prop
  guarantee : σ → σ → Prop
  unchanged : ∀ s, guarantee s s

namespace Contract
variable {C : Contract σ} {K K' : σ → Prop} {Q Q' : α → σ → Prop} {E E' : ε → σ → Prop}

/-- What the others leave true. -/
def Stable (C : Contract σ) (K : σ → Prop) : Prop := ∀ s s', C.rely s s' → K s → K s'

structure Kept (C : Contract σ) (K : σ → Prop) (w : Shared σ) : Prop where
  others : ∀ f ∈ w.others, ∀ s, C.rely s (f s)
  steps : ∀ step ∈ w.steps, C.guarantee step.1 step.2
  state : K w.state

/-- From a state of `K` the run keeps its guarantee and returns in a state of `Q` or raises in a
state of `E`, if the others do what it relies on. -/
def Does (C : Contract σ) (K : σ → Prop) (x : Run (Shared σ) ε α) (Q : α → σ → Prop)
    (E : ε → σ → Prop) : Prop :=
  Meets (C.Kept K) x (fun a => C.Kept (Q a)) fun e => C.Kept (E e)

theorem Kept.mono {w : Shared σ} (h : C.Kept K w) (hK : ∀ s, K s → K' s) : C.Kept K' w :=
  ⟨h.others, h.steps, hK _ h.state⟩

/-- What is stable is still true at the next transaction. -/
theorem Kept.next {w : Shared σ} (h : C.Kept K w) (hK : C.Stable K) :
    K ((w.others.headD id) w.state) := by
  cases hothers : w.others with
  | nil => exact h.state
  | cons f rest => exact hK _ _ (h.others f (by rw [hothers]; exact List.mem_cons_self) _) h.state

theorem Kept.after {w : Shared σ} (h : C.Kept K w) {before after : σ}
    (hstep : C.guarantee before after) (hK : K' after) :
    C.Kept K' ⟨after, w.others.tail, w.steps ++ [(before, after)]⟩ where
  others f hf := h.others f (List.mem_of_mem_tail hf)
  steps step hmem := by
    rcases List.mem_append.mp hmem with hmem | hmem
    · exact h.steps step hmem
    · rw [List.mem_singleton.mp hmem]
      exact hstep
  state := hK

theorem Stable.and (hK : C.Stable K) (hK' : C.Stable K') : C.Stable fun s => K s ∧ K' s :=
  fun s s' hrely h => ⟨hK s s' hrely h.1, hK' s s' hrely h.2⟩

theorem Stable.const {P : Prop} : C.Stable fun _ => P := fun _ _ _ => id

theorem Stable.all {ι : Sort*} {K : ι → σ → Prop} (hK : ∀ i, C.Stable (K i)) :
    C.Stable fun s => ∀ i, K i s := fun s s' hrely h i => hK i s s' hrely (h i)

namespace Does

theorem weaken {x : Run (Shared σ) ε α} (h : C.Does K x Q E) (hK : ∀ s, K' s → K s)
    (hQ : ∀ a s, Q a s → Q' a s) (hE : ∀ e s, E e s → E' e s) : C.Does K' x Q' E' :=
  Meets.weaken h (fun _ hw => hw.mono hK) (fun a _ hw => hw.mono (hQ a))
    fun e _ hw => hw.mono (hE e)

theorem pure {a : α} (h : ∀ s, K s → Q a s) :
    C.Does K (Pure.pure a : Run (Shared σ) ε α) Q E := Meets.pure fun _ hw => hw.mono h

theorem throw {e : ε} (h : ∀ s, K s → E e s) :
    C.Does K (throw e : Run (Shared σ) ε α) Q E := Meets.throw fun _ hw => hw.mono h

theorem bind {R : β → σ → Prop} {y : Run (Shared σ) ε β} {f : β → Run (Shared σ) ε α}
    (hy : C.Does K y R E) (hf : ∀ b, C.Does (R b) (f b) Q E) : C.Does K (y >>= f) Q E :=
  Meets.bind hy hf

theorem tryCatch {x : Run (Shared σ) ε α} {R : ε → σ → Prop} {handler : ε → Run (Shared σ) ε α}
    (hx : C.Does K x Q R) (hhandler : ∀ e, C.Does (R e) (handler e) Q E) :
    C.Does K (tryCatch x handler) Q E := Meets.tryCatch hx hhandler

/-- What a run raises, given as a value. -/
theorem attempt {x : Run (Shared σ) ε α} {F : ε → σ → Prop} (hx : C.Does K x Q E) :
    C.Does K x.attempt (fun result s => Ends Q E (result, s)) F := by
  refine Meets.weaken (Meets.attempt (F := fun e => C.Kept (F e)) hx) (fun _ => id)
    (fun result w hw => ?_) fun _ _ => id
  cases result with
  | ok a => exact hw
  | error e => exact hw

theorem ofExcept {result : Except ε α} (hok : ∀ a s, result = .ok a → K s → Q a s)
    (herror : ∀ e s, result = .error e → K s → E e s) : C.Does K (Run.ofExcept result) Q E :=
  Meets.ofExcept (fun a _ h hw => hw.mono fun s => hok a s h)
    fun e _ h hw => hw.mono fun s => herror e s h

/-- What does not depend on the state is a hypothesis on the run. -/
theorem of_prop {P : Prop} {x : Run (Shared σ) ε α} (h : P → C.Does K x Q E) :
    C.Does (fun s => P ∧ K s) x Q E :=
  fun w hw => h hw.state.1 w ⟨hw.others, hw.steps, hw.state.2⟩

theorem transaction {work : σ → Except ε (α × σ)} (hK : C.Stable K)
    (hok : ∀ s a s', K s → work s = .ok (a, s') → C.guarantee s s' ∧ Q a s')
    (herror : ∀ s e, K s → work s = .error e → E e s) : C.Does K (transaction work) Q E := by
  intro w hw
  have hstate := hw.next hK
  change Ends _ _ (match work ((w.others.headD id) w.state) with
    | .ok (a, state') =>
        (Except.ok a, Shared.mk state' w.others.tail (w.steps ++ [(_, state')]))
    | .error e => (.error e, ⟨_, w.others.tail, w.steps ++ [(_, _)]⟩))
  split
  · rename_i a s' hwork
    obtain ⟨hstep, hQ⟩ := hok _ a s' hstate hwork
    exact hw.after hstep hQ
  · rename_i e hwork
    exact hw.after (C.unchanged _) (herror _ e hstate hwork)

theorem observe {read : σ → Except ε α} (hK : C.Stable K)
    (hok : ∀ s a, K s → read s = .ok a → Q a s) (herror : ∀ s e, K s → read s = .error e → E e s) :
    C.Does K (observe read) Q E := by
  refine transaction hK (fun s a s' hs hread => ?_) fun s e hs hread => ?_
  · cases hvalue : read s with
    | error e =>
        rw [hvalue] at hread
        cases hread
    | ok b =>
        rw [hvalue] at hread
        obtain ⟨rfl, rfl⟩ := Prod.mk.inj (Except.ok.inj hread)
        exact ⟨C.unchanged _, hok _ _ hs hvalue⟩
  · cases hvalue : read s with
    | error e' =>
        rw [hvalue] at hread
        rw [← Except.error.inj hread]
        exact herror s e' hs hvalue
    | ok b =>
        rw [hvalue] at hread
        cases hread

/-- A run for each member of a list. -/
theorem mapM {P : β → α → Prop} {f : β → Run (Shared σ) ε α} {xs : List β}
    (hf : ∀ x ∈ xs, C.Does K (f x) (fun a s => P x a ∧ K s) E) :
    C.Does K (xs.mapM f) (fun as s => List.Forall₂ P xs as ∧ K s) E := by
  induction xs with
  | nil => exact .pure fun _ h => ⟨.nil, h⟩
  | cons x xs ih =>
      rw [List.mapM_cons]
      refine .bind (hf x List.mem_cons_self) fun a => .of_prop fun ha => ?_
      refine .bind (ih fun y hy => hf y (List.mem_cons_of_mem _ hy)) fun as => ?_
      exact .pure fun _ h => ⟨.cons ha h.1, h.2⟩

/-- A whole run. -/
theorem run {x : Run (Shared σ) ε α} (h : C.Does K x Q E) {w : Shared σ} (hw : C.Kept K w) :
    (∀ step ∈ (x.start w).2.steps, C.guarantee step.1 step.2) ∧
      (∀ a, (x.start w).1 = .ok a → Q a (x.start w).2.state) ∧
      ∀ e, (x.start w).1 = .error e → E e (x.start w).2.state := by
  have hrun := h w hw
  rcases hresult : x.start w with ⟨a | e, w'⟩
  · rw [hresult] at hrun
    refine ⟨hrun.steps, nofun, ?_⟩
    rintro _ ⟨⟩
    exact hrun.state
  · rw [hresult] at hrun
    refine ⟨hrun.steps, ?_, nofun⟩
    rintro _ ⟨⟩
    exact hrun.state

end Does
end Contract
end DeliverySystem.SharedStates

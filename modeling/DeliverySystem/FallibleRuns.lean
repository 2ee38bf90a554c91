import Mathlib.Init

/-!
# Runs that change a state and may raise

A run changes a state and returns or raises; what it changed before it raised
stays changed. A specification has a condition on the state before the run and
one for each way to end, and there is one rule for each way to build a run.
-/
namespace DeliverySystem.FallibleRuns
set_option autoImplicit false

abbrev Run (σ ε α : Type) := ExceptT ε (StateM σ) α

section
variable {σ τ ε α β : Type}

/-- How a run that starts in this state ends. -/
def Run.start (x : Run σ ε α) (s : σ) : Except ε α × σ := StateT.run x.run s

/-- A computation without a state. -/
def Run.ofExcept : Except ε α → Run σ ε α
  | .ok a => pure a
  | .error e => throw e

/-- `except ... raise`: every error is raised as another one. -/
def Run.mapError (handler : ε → ε) (x : Run σ ε α) : Run σ ε α :=
  tryCatch x fun e => throw (handler e)

/-- A run whose error is given as a value. -/
def Run.attempt (x : Run σ ε α) : Run σ ε (Except ε α) :=
  tryCatch (x >>= fun a => pure (.ok a)) fun e => pure (.error e)

/-- A run on a part of the state. -/
def Run.inside (part : τ → σ) (put : σ → τ → τ) (x : Run σ ε α) : Run τ ε α :=
  ExceptT.mk fun t => ((x.start (part t)).1, put (x.start (part t)).2 t)

/-- The value or the error, with the state it was left in. -/
def Ends (Q : α → σ → Prop) (E : ε → σ → Prop) : Except ε α × σ → Prop
  | (.ok a, s) => Q a s
  | (.error e, s) => E e s

/-- From any state of `P` the run returns in a state of `Q` or raises in a state of `E`. -/
def Meets (P : σ → Prop) (x : Run σ ε α) (Q : α → σ → Prop) (E : ε → σ → Prop) : Prop :=
  ∀ s, P s → Ends Q E (x.start s)

/-- A computation that gives a value went through both of its parts. -/
theorem fallible_bind_eq_ok {x : Except ε α} {f : α → Except ε β} {b : β} :
    (x >>= f) = .ok b ↔ ∃ a, x = .ok a ∧ f a = .ok b := by
  cases x <;> simp [bind, Except.bind]

theorem fallible_pure_eq_ok {a b : α} : (pure a : Except ε α) = .ok b ↔ a = b := by
  simp [pure, Except.pure]

theorem start_pure (a : α) (s : σ) : (pure a : Run σ ε α).start s = (.ok a, s) := rfl

theorem start_throw (e : ε) (s : σ) : (throw e : Run σ ε α).start s = (.error e, s) := rfl

theorem start_get (s : σ) : (get : Run σ ε σ).start s = (.ok s, s) := rfl

theorem start_set (s t : σ) : (set t : Run σ ε PUnit).start s = (.ok ⟨⟩, t) := rfl

theorem start_bind (x : Run σ ε α) (f : α → Run σ ε β) (s : σ) :
    (x >>= f).start s = match x.start s with
      | (.ok a, s') => (f a).start s'
      | (.error e, s') => (.error e, s') := by
  unfold Run.start ExceptT.run StateT.run
  simp only [bind, ExceptT.bind, ExceptT.mk, StateT.bind, ExceptT.bindCont]
  cases x s with
  | mk result next => cases result <;> rfl

theorem start_tryCatch (x : Run σ ε α) (handler : ε → Run σ ε α) (s : σ) :
    (tryCatch x handler).start s = match x.start s with
      | (.ok a, s') => (.ok a, s')
      | (.error e, s') => (handler e).start s' := by
  unfold Run.start ExceptT.run StateT.run
  simp only [tryCatch, tryCatchThe, MonadExceptOf.tryCatch, ExceptT.tryCatch, ExceptT.mk, bind,
    StateT.bind]
  cases x s with
  | mk result next => cases result <;> rfl

/-- A run that returns went through both of its parts. -/
theorem start_bind_eq_ok {x : Run σ ε α} {f : α → Run σ ε β} {s t : σ} {b : β} :
    (x >>= f).start s = (.ok b, t) ↔
      ∃ a s', x.start s = (.ok a, s') ∧ (f a).start s' = (.ok b, t) := by
  rw [start_bind]
  cases x.start s with
  | mk result next =>
      cases result with
      | ok a =>
          refine ⟨fun h => ⟨a, next, rfl, h⟩, ?_⟩
          rintro ⟨_, _, hfirst, h⟩
          obtain ⟨ha, rfl⟩ := Prod.mk.inj hfirst
          obtain rfl := Except.ok.inj ha
          exact h
      | error e => simp

theorem start_pure_eq_ok {a b : α} {s t : σ} :
    (pure a : Run σ ε α).start s = (.ok b, t) ↔ a = b ∧ s = t := by
  rw [start_pure, Prod.mk.injEq, Except.ok.injEq]

theorem start_ofExcept_eq_ok {result : Except ε α} {a : α} {s t : σ} :
    (Run.ofExcept result : Run σ ε α).start s = (.ok a, t) ↔ result = .ok a ∧ s = t := by
  cases result with
  | ok b => rw [Run.ofExcept, start_pure_eq_ok, Except.ok.injEq]
  | error e => simp [Run.ofExcept, start_throw]

theorem start_get_eq_ok {a s t : σ} :
    (get : Run σ ε σ).start s = (.ok a, t) ↔ s = a ∧ s = t := start_pure_eq_ok (σ := σ)

theorem start_set_eq_ok {s t u : σ} {a : PUnit} :
    (set u : Run σ ε PUnit).start s = (.ok a, t) ↔ u = t := by
  change ((Except.ok PUnit.unit : Except ε PUnit), u) = (.ok a, t) ↔ u = t
  rw [Prod.mk.injEq]
  exact ⟨And.right, fun h => ⟨rfl, h⟩⟩

variable {P P' : σ → Prop} {Q Q' : α → σ → Prop} {E E' : ε → σ → Prop} {x : Run σ ε α}

/-! ## Rules -/

theorem Ends.weaken (hQ : ∀ a s, Q a s → Q' a s) (hE : ∀ e s, E e s → E' e s) :
    ∀ {ended : Except ε α × σ}, Ends Q E ended → Ends Q' E' ended
  | (.ok a, s), h => hQ a s h
  | (.error e, s), h => hE e s h

theorem Meets.weaken (h : Meets P x Q E) (hP : ∀ s, P' s → P s) (hQ : ∀ a s, Q a s → Q' a s)
    (hE : ∀ e s, E e s → E' e s) : Meets P' x Q' E' :=
  fun s hs => (h s (hP s hs)).weaken hQ hE

theorem Meets.pure {a : α} (h : ∀ s, P s → Q a s) : Meets P (pure a : Run σ ε α) Q E := h

theorem Meets.throw {e : ε} (h : ∀ s, P s → E e s) : Meets P (throw e : Run σ ε α) Q E := h

theorem Meets.bind {R : β → σ → Prop} {y : Run σ ε β} {f : β → Run σ ε α} (hy : Meets P y R E)
    (hf : ∀ b, Meets (R b) (f b) Q E) : Meets P (y >>= f) Q E := by
  intro s hs
  have hfirst := hy s hs
  rw [start_bind]
  cases hend : y.start s with
  | mk result next =>
      rw [hend] at hfirst
      cases result with
      | ok b => exact hf b next hfirst
      | error e => exact hfirst

/-- A handler meets its specification from wherever the run raised. -/
theorem Meets.tryCatch {R : ε → σ → Prop} {handler : ε → Run σ ε α} (hx : Meets P x Q R)
    (hhandler : ∀ e, Meets (R e) (handler e) Q E) : Meets P (tryCatch x handler) Q E := by
  intro s hs
  have hfirst := hx s hs
  rw [start_tryCatch]
  cases hend : x.start s with
  | mk result next =>
      rw [hend] at hfirst
      cases result with
      | ok a => exact hfirst
      | error e => exact hhandler e next hfirst

/-- A run whose error is given as a value does not raise. -/
theorem Meets.attempt {F : ε → σ → Prop} (hx : Meets P x Q E) :
    Meets P x.attempt (fun result s => Ends Q E (result, s)) F :=
  Meets.tryCatch (R := E) (hx.bind fun _ => Meets.pure fun _ h => h)
    fun _ => Meets.pure fun _ h => h

theorem Meets.mapError {handler : ε → ε} (hx : Meets P x Q fun e => E (handler e)) :
    Meets P (x.mapError handler) Q E :=
  hx.tryCatch fun _ => .throw fun _ => id

theorem Meets.ofExcept {result : Except ε α} (hok : ∀ a s, result = .ok a → P s → Q a s)
    (herror : ∀ e s, result = .error e → P s → E e s) : Meets P (Run.ofExcept result) Q E := by
  cases result with
  | ok a => exact fun s hs => hok a s rfl hs
  | error e => exact fun s hs => herror e s rfl hs

theorem Meets.set {t : σ} {Q : PUnit → σ → Prop} (h : Q ⟨⟩ t) :
    Meets P (set t : Run σ ε PUnit) Q E := fun _ _ => h

theorem Meets.modified {f : σ → σ} {Q : Unit → σ → Prop} (h : ∀ s, P s → Q () (f s)) :
    Meets P (modify f : Run σ ε Unit) Q E := h

/-- After reading the state the run goes on from that state. -/
theorem Meets.bind_get {f : σ → Run σ ε α} (h : ∀ s, P s → Meets (· = s) (f s) Q E) :
    Meets P (get >>= f) Q E := fun s hs => h s hs s rfl

/-- After a change of the state the run goes on from the changed state. -/
theorem Meets.bind_modify {g : σ → σ} {f : Unit → Run σ ε α} {R : σ → Prop}
    (hg : ∀ s, P s → R (g s)) (h : Meets R (f ()) Q E) : Meets P (modify g >>= f) Q E :=
  fun s hs => h (g s) (hg s hs)

/-- What holds however the run ends holds of the state it leaves. -/
theorem Meets.leaves {R : σ → Prop} (hx : Meets P x (fun _ => R) fun _ => R) {s : σ} (hs : P s) :
    R (x.start s).2 := by
  have hend := hx s hs
  revert hend
  rcases x.start s with ⟨_ | _, _⟩ <;> exact id

/-- A specification may be proved for each state that the run can start in. -/
theorem Meets.each (h : ∀ s, P s → Meets (· = s) x Q E) : Meets P x Q E :=
  fun s hs => h s hs s rfl

/-- A part of the state meets its specification, and the rest is as it was. -/
theorem Meets.inside {part : τ → σ} {put : σ → τ → τ} {t : τ} (hx : Meets P x Q E)
    (ht : P (part t)) : Meets (· = t) (x.inside part put) (fun a t' => ∃ s, t' = put s t ∧ Q a s)
      (fun e t' => ∃ s, t' = put s t ∧ E e s) := by
  rintro _ rfl
  have hpart := hx _ ht
  change Ends _ _ ((x.start _).1, put (x.start _).2 _)
  cases hend : x.start (part _) with
  | mk result next =>
      rw [hend] at hpart
      cases result with
      | ok a => exact ⟨next, rfl, hpart⟩
      | error e => exact ⟨next, rfl, hpart⟩

end
end DeliverySystem.FallibleRuns

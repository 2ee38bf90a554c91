import Mathlib.Logic.Relation
import Mathlib.Data.List.Basic

/-!
# A ledger of items performed in order

The items of a list have effects that must not be repeated. Any number of runs
work on it: a run takes the next item, performs it, and finishes it with
evidence that the outcome is accepted. A run may also stop the whole ledger, or
simply disappear, and then nobody performs anything again.

The history keeps who took and who performed which item. In every reachable
ledger no item was performed twice, each performance followed a take by the
same run, and a closed ledger performed every item with an accepted outcome.
-/
namespace DeliverySystem.SequentialLedger
set_option autoImplicit false

inductive Status (run outcome : Type) where
  | vacant
  | held (holder : run)
  | performed (holder : run) (result : outcome)
  | stopped
  | closed

inductive Entry (run outcome : Type) where
  | took (holder : run) (index : Nat)
  | performed (holder : run) (index : Nat) (result : outcome)

/-- Whether an entry is a performance of the item at `index`. -/
def Entry.performs {run outcome : Type} (index : Nat) : Entry run outcome → Bool
  | .took .. => false
  | .performed _ i _ => i = index

structure Ledger (run outcome evidence : Type) where
  status : Status run outcome
  finished : List evidence
  history : List (Entry run outcome)

variable {run outcome evidence : Type}

def Ledger.empty : Ledger run outcome evidence :=
  { status := .vacant, finished := [], history := [] }

/-- The runs of a ledger with `total` items; `accepts` says which evidence an
outcome of an item may be finished with. -/
inductive Step (total : Nat) (accepts : Nat → outcome → evidence → Prop)
    (l : Ledger run outcome evidence) : Ledger run outcome evidence → Prop
  | take {r : run} (vacant : l.status = .vacant) (left : l.finished.length < total) :
      Step total accepts l
        { l with status := .held r, history := l.history ++ [.took r l.finished.length] }
  | perform {r : run} (o : outcome) (held : l.status = .held r) :
      Step total accepts l
        { l with
          status := .performed r o
          history := l.history ++ [.performed r l.finished.length o] }
  | finish {r : run} {o : outcome} {e : evidence} (performed : l.status = .performed r o)
      (accepted : accepts l.finished.length o e) :
      Step total accepts l { l with status := .vacant, finished := l.finished ++ [e] }
  | stop {r : run} (owned : l.status = .held r ∨ ∃ o, l.status = .performed r o) :
      Step total accepts l { l with status := .stopped }
  | close (vacant : l.status = .vacant) (all : l.finished.length = total) :
      Step total accepts l { l with status := .closed }

def Reachable (total : Nat) (accepts : Nat → outcome → evidence → Prop) :
    Ledger run outcome evidence → Prop :=
  Relation.ReflTransGen (Step total accepts) .empty

variable {total : Nat} {accepts : Nat → outcome → evidence → Prop}
variable {l l' : Ledger run outcome evidence}

/-! ## What a history looks like -/

/-- The history of the finished items, one take and one performance for each. -/
inductive Recorded (accepts : Nat → outcome → evidence → Prop) :
    List (Entry run outcome) → List evidence → Prop
  | empty : Recorded accepts [] []
  | finish {history : List (Entry run outcome)} {finished : List evidence} {r : run}
      {o : outcome} {e : evidence} (earlier : Recorded accepts history finished)
      (accepted : accepts finished.length o e) :
      Recorded accepts
        (history ++ [.took r finished.length, .performed r finished.length o]) (finished ++ [e])

/-- What the history says beyond the finished items. -/
inductive Pending (n : Nat) : Status run outcome → List (Entry run outcome) → Prop
  | vacant : Pending n .vacant []
  | closed : Pending n .closed []
  | held (r : run) : Pending n (.held r) [.took r n]
  | performed (r : run) (o : outcome) :
      Pending n (.performed r o) [.took r n, .performed r n o]
  | stoppedBefore (r : run) : Pending n .stopped [.took r n]
  | stoppedAfter (r : run) (o : outcome) : Pending n .stopped [.took r n, .performed r n o]

structure Invariant (total : Nat) (accepts : Nat → outcome → evidence → Prop)
    (l : Ledger run outcome evidence) : Prop where
  history : ∃ earlier current, l.history = earlier ++ current ∧
    Recorded accepts earlier l.finished ∧ Pending l.finished.length l.status current
  bound : l.finished.length ≤ total
  left : (∃ r, l.status = .held r ∨ ∃ o, l.status = .performed r o) → l.finished.length < total
  closed : l.status = .closed → l.finished.length = total

theorem empty_invariant : Invariant total accepts (Ledger.empty : Ledger run outcome evidence) where
  history := ⟨[], [], rfl, .empty, .vacant⟩
  bound := Nat.zero_le _
  left := by simp [Ledger.empty]
  closed := by simp [Ledger.empty]

theorem Step.invariant (h : Step total accepts l l') (hl : Invariant total accepts l) :
    Invariant total accepts l' := by
  obtain ⟨earlier, current, hhistory, hearlier, hcurrent⟩ := hl.history
  cases h with
  | @take r vacant left =>
      rw [vacant] at hcurrent
      cases hcurrent
      rw [List.append_nil] at hhistory
      exact
        { history := ⟨earlier, _, by rw [hhistory], hearlier, .held r⟩
          bound := hl.bound
          left := fun _ => left
          closed := by simp }
  | @perform r o held =>
      rw [held] at hcurrent
      cases hcurrent
      exact
        { history := ⟨earlier, _, by rw [hhistory, List.append_assoc]; rfl, hearlier,
            .performed r o⟩
          bound := hl.bound
          left := fun _ => hl.left ⟨r, .inl held⟩
          closed := by simp }
  | @finish r o e performed accepted =>
      rw [performed] at hcurrent
      cases hcurrent
      have hleft := hl.left ⟨r, .inr ⟨o, performed⟩⟩
      exact
        { history := ⟨_, [], by rw [hhistory, List.append_nil], hearlier.finish accepted, .vacant⟩
          bound := by
            rw [List.length_append, List.length_singleton]
            omega
          left := by simp
          closed := by simp }
  | @stop r owned =>
      refine ⟨⟨earlier, current, hhistory, hearlier, ?_⟩, hl.bound, by simp, by simp⟩
      rcases owned with held | ⟨o, performed⟩
      · rw [held] at hcurrent
        cases hcurrent
        exact .stoppedBefore r
      · rw [performed] at hcurrent
        cases hcurrent
        exact .stoppedAfter r o
  | close vacant all =>
      rw [vacant] at hcurrent
      cases hcurrent
      exact ⟨⟨earlier, [], hhistory, hearlier, .closed⟩, hl.bound, by simp, fun _ => all⟩

theorem Reachable.invariant (h : Reachable total accepts l) : Invariant total accepts l := by
  induction h with
  | refl => exact empty_invariant
  | tail _ step ih => exact step.invariant ih

/-! ## Who took the current item -/

theorem Recorded.took_lt {history : List (Entry run outcome)} {finished : List evidence}
    (h : Recorded accepts history finished) {r : run} {i : Nat} (hmem : .took r i ∈ history) :
    i < finished.length := by
  induction h with
  | empty => simp at hmem
  | @finish history finished holder o e _ _ ih =>
      rw [List.length_append, List.length_singleton]
      rcases List.mem_append.mp hmem with hearlier | hlast
      · have := ih hearlier
        omega
      · simp only [List.mem_cons, Entry.took.injEq, reduceCtorEq, List.not_mem_nil, or_false] at hlast
        omega

/-- While an item is under way, its owner is the one run that took it. -/
theorem Invariant.took_iff (h : Invariant total accepts l) {owner : run}
    (howned : l.status = .held owner ∨ ∃ o, l.status = .performed owner o) (r : run) :
    .took r l.finished.length ∈ l.history ↔ r = owner := by
  obtain ⟨earlier, current, hhistory, hearlier, hcurrent⟩ := h.history
  have hnew : .took r l.finished.length ∉ earlier := fun hmem =>
    absurd (hearlier.took_lt hmem) (Nat.lt_irrefl _)
  rw [hhistory, List.mem_append]
  rcases howned with hstatus | ⟨o, hstatus⟩
  · rw [hstatus] at hcurrent
    cases hcurrent
    simp [hnew]
  · rw [hstatus] at hcurrent
    cases hcurrent
    simp [hnew]

/-! ## No item is performed twice -/

theorem Recorded.countP {history : List (Entry run outcome)} {finished : List evidence}
    (h : Recorded accepts history finished) (i : Nat) :
    history.countP (Entry.performs i) = if i < finished.length then 1 else 0 := by
  induction h with
  | empty => simp
  | @finish history finished r o e _ _ ih =>
      rw [List.countP_append, ih, List.length_append]
      simp only [List.countP_cons, List.countP_nil, Entry.performs, decide_eq_true_eq,
        List.length_singleton]
      split_ifs <;> simp_all <;> omega

theorem Pending.countP {n : Nat} {status : Status run outcome} {current : List (Entry run outcome)}
    (h : Pending n status current) (i : Nat) :
    current.countP (Entry.performs i) ≤ if i = n then 1 else 0 := by
  cases h <;> simp [List.countP_cons, Entry.performs, eq_comm]

theorem Reachable.performed_at_most_once (h : Reachable total accepts l) (i : Nat) :
    l.history.countP (Entry.performs i) ≤ 1 := by
  obtain ⟨earlier, current, hhistory, hearlier, hcurrent⟩ := h.invariant.history
  have hcount := hcurrent.countP i
  rw [hhistory, List.countP_append, hearlier.countP i]
  split_ifs at hcount ⊢ <;> omega

/-! ## Every performance follows its take -/

/-- Each performance of a history stands after a take by the same run. -/
def TakenFirst (history : List (Entry run outcome)) : Prop :=
  ∀ before after r i o, history = before ++ .performed r i o :: after → .took r i ∈ before

/-- The two ways of splitting a list that was extended by one entry. -/
theorem split_concat {α : Type} {xs before after : List α} {y x : α}
    (h : xs ++ [y] = before ++ x :: after) :
    (xs = before ∧ y = x ∧ after = []) ∨ ∃ rest, after = rest ++ [y] ∧ xs = before ++ x :: rest := by
  rcases List.eq_nil_or_concat after with rfl | ⟨rest, z, rfl⟩
  · have hlast := List.append_inj' h rfl
    exact .inl ⟨hlast.1, List.singleton_inj.mp hlast.2, rfl⟩
  · rw [List.concat_eq_append, ← List.cons_append, ← List.append_assoc] at h
    have hlast := List.append_inj' h rfl
    rw [List.concat_eq_append, List.singleton_inj.mp hlast.2]
    exact .inr ⟨rest, rfl, hlast.1⟩

theorem TakenFirst.concat {history : List (Entry run outcome)} (h : TakenFirst history)
    {entry : Entry run outcome} (hentry : ∀ r i o, entry = .performed r i o → .took r i ∈ history) :
    TakenFirst (history ++ [entry]) := by
  intro before after r i o hsplit
  rcases split_concat hsplit with ⟨rfl, rfl, -⟩ | ⟨rest, -, hrest⟩
  · exact hentry r i o rfl
  · exact h before rest r i o hrest

theorem Reachable.taken_first (h : Reachable total accepts l) : TakenFirst l.history := by
  induction h with
  | refl =>
      intro before after r i o hsplit
      simp [Ledger.empty] at hsplit
  | @tail l l' hl step ih =>
      obtain ⟨earlier, current, hhistory, -, hcurrent⟩ := (Reachable.invariant hl).history
      cases step with
      | take => exact ih.concat (by simp)
      | @perform r o held =>
          rw [held] at hcurrent
          cases hcurrent
          refine ih.concat ?_
          rintro _ _ _ ⟨⟩
          rw [hhistory]
          simp
      | finish => exact ih
      | stop => exact ih
      | close => exact ih

/-! ## Closed and stopped ledgers -/

theorem Recorded.performed {history : List (Entry run outcome)} {finished : List evidence}
    (h : Recorded accepts history finished) {i : Nat} (hi : i < finished.length) :
    ∃ r o e, finished[i]? = some e ∧ accepts i o e ∧ .performed r i o ∈ history := by
  induction h with
  | empty => simp at hi
  | @finish history finished r o e _ accepted ih =>
      rw [List.length_append, List.length_singleton] at hi
      by_cases hlast : i = finished.length
      · subst hlast
        exact ⟨r, o, e, by simp, accepted, by simp⟩
      · obtain ⟨r', o', e', he, haccepted, hmem⟩ := ih (by omega)
        refine ⟨r', o', e', ?_, haccepted, List.mem_append_left _ hmem⟩
        rw [List.getElem?_append_left (by omega), he]

/-- An item is finished with evidence that some outcome of it accepts. -/
theorem Reachable.finished_accepted (h : Reachable total accepts l) {i : Nat}
    (hi : i < l.finished.length) : ∃ o e, l.finished[i]? = some e ∧ accepts i o e := by
  obtain ⟨earlier, current, -, hearlier, -⟩ := h.invariant.history
  obtain ⟨-, o, e, he, haccepted, -⟩ := hearlier.performed hi
  exact ⟨o, e, he, haccepted⟩

/-- A closed ledger performed each item exactly once, with an accepted outcome. -/
theorem Reachable.closed_performed (h : Reachable total accepts l) (hclosed : l.status = .closed)
    {i : Nat} (hi : i < total) :
    l.history.countP (Entry.performs i) = 1 ∧
      ∃ r o e, l.finished[i]? = some e ∧ accepts i o e ∧ .performed r i o ∈ l.history := by
  obtain ⟨earlier, current, hhistory, hearlier, hcurrent⟩ := h.invariant.history
  rw [← h.invariant.closed hclosed] at hi
  rw [hclosed] at hcurrent
  cases hcurrent
  rw [List.append_nil] at hhistory
  rw [hhistory, hearlier.countP i, if_pos hi]
  exact ⟨rfl, hearlier.performed hi⟩

theorem Step.not_stopped (h : Step total accepts l l') : l.status ≠ .stopped := by
  cases h with
  | take vacant => simp [vacant]
  | perform _ held => simp [held]
  | finish performed => simp [performed]
  | stop owned =>
      rcases owned with held | ⟨o, performed⟩
      · simp [held]
      · simp [performed]
  | close vacant => simp [vacant]

/-- Nothing happens to a stopped ledger any more. -/
theorem stopped_final (hstopped : l.status = .stopped)
    (h : Relation.ReflTransGen (Step total accepts) l l') : l' = l := by
  induction h with
  | refl => rfl
  | tail _ step ih =>
      subst ih
      exact absurd hstopped step.not_stopped

end DeliverySystem.SequentialLedger

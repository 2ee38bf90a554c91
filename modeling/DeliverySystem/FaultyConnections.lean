import DeliverySystem.FallibleRuns
import Mathlib.Data.Nat.Notation

/-!
# Transactions over a connection that may fail

A connection to a database on disk, with one transaction at a time. Every
statement may raise an error of the driver, whatever it did before; a connection
that is closed forgets its open transaction. Statements follow a transaction
when they do what it does or raise, and leave the disk alone until the commit.
-/
namespace DeliverySystem.FaultyConnections
open FallibleRuns
set_option autoImplicit false

/-- What a statement that raised has done: nothing, all it was to do, or the open
transaction is lost. -/
inductive Aftermath where
  | untouched | done | discarded
deriving DecidableEq

inductive Fault (ε : Type) where
  | none
  | raises (error : ε) (aftermath : Aftermath)

structure Connection (D : Type) where
  /-- What the open transaction sees, if one is open. -/
  transaction : Option D
deriving DecidableEq

/-- The database on disk, the live connection and the faults that lie ahead. -/
structure Session (D ε : Type) where
  disk : D
  connection : Option (Connection D)
  faults : ℕ → Fault ε

/-- A program over a connection raises the driver's errors and its own. -/
inductive Failure (ε τ : Type) where
  | driver (error : ε)
  | own (error : τ)
deriving DecidableEq

class DriverErrors (ε : Type) where
  /-- A statement on a closed connection. -/
  closed : ε
  /-- A transaction within a transaction. -/
  nested : ε

section
variable {D ε τ α β : Type} [DriverErrors ε]

/-- The session after one more statement. -/
def Session.left (s : Session D ε) (disk : D) (transaction : Option D) : Session D ε where
  disk := disk
  connection := some ⟨transaction⟩
  faults n := s.faults (n + 1)

/-- A statement, from what it does to the disk and to the transaction. -/
def statement (effect : D → Option D → Except (Failure ε τ) (α × D × Option D)) :
    Run (Session D ε) (Failure ε τ) α :=
  ExceptT.mk fun s : Session D ε =>
    match s.connection with
    | none => (.error (.driver DriverErrors.closed), s)
    | some c =>
        match s.faults 0, effect s.disk c.transaction with
        | .none, .ok (a, disk, transaction) => (.ok a, s.left disk transaction)
        | .none, .error e => (.error e, s.left s.disk c.transaction)
        | .raises e .done, .ok (_, disk, transaction) =>
            (.error (.driver e), s.left disk transaction)
        | .raises e .discarded, _ => (.error (.driver e), s.left s.disk none)
        | .raises e _, _ => (.error (.driver e), s.left s.disk c.transaction)

/-- `BEGIN`; one that raises opens nothing. -/
def beginTransaction : Run (Session D ε) (Failure ε τ) Unit :=
  ExceptT.mk fun s : Session D ε =>
    match s.connection with
    | none => (.error (.driver DriverErrors.closed), s)
    | some c =>
        match s.faults 0, c.transaction with
        | .none, none => (.ok (), s.left s.disk (some s.disk))
        | .none, some d => (.error (.driver DriverErrors.nested), s.left s.disk (some d))
        | .raises e _, transaction => (.error (.driver e), s.left s.disk transaction)

/-- A statement on the tables; outside a transaction it acts on the disk. -/
def onTables (action : D → Except (Failure ε τ) (α × D)) (disk : D) :
    Option D → Except (Failure ε τ) (α × D × Option D)
  | some d => (action d).map fun result => (result.1, disk, some result.2)
  | none => (action disk).map fun result => (result.1, result.2, none)

def execute (action : D → Except (Failure ε τ) (α × D)) : Run (Session D ε) (Failure ε τ) α :=
  statement (onTables action)

/-- `SELECT` -/
def query (read : D → α) : Run (Session D ε) (Failure ε τ) α :=
  execute fun d => .ok (read d, d)

/-- `INSERT` -/
def update (action : D → Except (Failure ε τ) D) : Run (Session D ε) (Failure ε τ) Unit :=
  execute fun d => (action d).map fun d' => ((), d')

def commitTransaction : Run (Session D ε) (Failure ε τ) Unit :=
  statement fun disk transaction => .ok ((), transaction.getD disk, none)

def rollbackTransaction : Run (Session D ε) (Failure ε τ) Unit :=
  statement fun disk _ => .ok ((), disk, none)

/-- The connection is gone, also when closing it raises. -/
def closeConnection : Run (Session D ε) (Failure ε τ) Unit :=
  ExceptT.mk fun s : Session D ε =>
    let gone : Session D ε := ⟨s.disk, none, fun n => s.faults (n + 1)⟩
    match s.faults 0 with
    | .none => (.ok (), gone)
    | .raises e _ => (.error (.driver e), gone)

/-! ## What a statement leaves -/

/-- The connection is live, with this transaction open or with none. -/
def Holds (disk : D) (transaction : Option D) (s : Session D ε) : Prop :=
  s.disk = disk ∧ s.connection = some ⟨transaction⟩

/-- The connection is live, in any transaction or in none. -/
def Live (disk : D) (s : Session D ε) : Prop := ∃ transaction, Holds disk transaction s

/-- There is no connection any more. -/
def Gone (disk : D) (s : Session D ε) : Prop := s.disk = disk ∧ s.connection = none

omit [DriverErrors ε] in
theorem holds_left (s : Session D ε) (disk : D) (transaction : Option D) :
    Holds disk transaction (s.left disk transaction) := ⟨rfl, rfl⟩

omit [DriverErrors ε] in
theorem Live.connection_ne {disk : D} {s : Session D ε} (h : Live disk s) :
    ¬s.connection = none := by
  obtain ⟨transaction, -, hconnection⟩ := h
  rw [hconnection]
  exact fun hnone => by cases hnone

/-- A statement does what it is to do, raises its own error, or raises one of the driver
with everything done, nothing done or the transaction lost. -/
theorem statement_spec {effect : D → Option D → Except (Failure ε τ) (α × D × Option D)}
    {disk : D} {transaction : Option D} {s : Session D ε} (h : Holds disk transaction s) :
    Ends (fun a s' => ∃ disk' transaction', effect disk transaction =
          .ok (a, disk', transaction') ∧ Holds disk' transaction' s')
      (fun e s' => (effect disk transaction = .error e ∧ Holds disk transaction s') ∨
        (∃ f, e = .driver f) ∧ (Holds disk transaction s' ∨ Holds disk none s' ∨
          ∃ a disk' transaction', effect disk transaction = .ok (a, disk', transaction') ∧
            Holds disk' transaction' s'))
      ((statement effect).start s) := by
  obtain ⟨rfl, hconnection⟩ := h
  unfold Run.start statement
  simp only [ExceptT.run, ExceptT.mk, StateT.run, hconnection]
  cases hfault : s.faults 0 with
  | none =>
      cases heffect : effect s.disk transaction with
      | error e => exact .inl ⟨rfl, holds_left _ _ _⟩
      | ok result => exact ⟨result.2.1, result.2.2, rfl, holds_left _ _ _⟩
  | raises e aftermath =>
      cases aftermath with
      | untouched => exact .inr ⟨⟨e, rfl⟩, .inl (holds_left _ _ _)⟩
      | discarded => exact .inr ⟨⟨e, rfl⟩, .inr (.inl (holds_left _ _ _))⟩
      | done =>
          cases heffect : effect s.disk transaction with
          | error _ => exact .inr ⟨⟨e, rfl⟩, .inl (holds_left _ _ _)⟩
          | ok result =>
              exact .inr ⟨⟨e, rfl⟩, .inr (.inr ⟨result.1, result.2.1, result.2.2, rfl,
                holds_left _ _ _⟩)⟩

theorem beginTransaction_meets (disk : D) :
    Meets (Holds disk none) (beginTransaction : Run (Session D ε) (Failure ε τ) Unit)
      (fun _ => Holds disk (some disk)) (fun e s => (∃ f, e = .driver f) ∧ Holds disk none s) := by
  rintro s ⟨rfl, hconnection⟩
  unfold Run.start beginTransaction
  simp only [ExceptT.run, ExceptT.mk, StateT.run, hconnection]
  cases hfault : s.faults 0 with
  | none => exact holds_left _ _ _
  | raises e aftermath => exact ⟨⟨e, rfl⟩, holds_left _ _ _⟩

/-- A commit that raises may have reached the disk. -/
theorem commitTransaction_meets (disk d : D) :
    Meets (Holds disk (some d)) (commitTransaction : Run (Session D ε) (Failure ε τ) Unit)
      (fun _ => Holds d none)
      (fun e s => (∃ f, e = .driver f) ∧ (Live disk s ∨ Live d s)) := by
  intro s hs
  refine (statement_spec hs).weaken ?_ ?_
  · rintro a s' ⟨disk', transaction', heq, hholds⟩
    cases heq
    exact hholds
  · rintro e s' (⟨heq, -⟩ | ⟨hdriver, hholds | hholds | ⟨a, disk', transaction', heq, hholds⟩⟩)
    · cases heq
    · exact ⟨hdriver, .inl ⟨_, hholds⟩⟩
    · exact ⟨hdriver, .inl ⟨_, hholds⟩⟩
    · cases heq
      exact ⟨hdriver, .inr ⟨_, hholds⟩⟩

/-- A rollback never touches the disk. -/
theorem rollbackTransaction_meets (disk : D) :
    Meets (Live disk) (rollbackTransaction : Run (Session D ε) (Failure ε τ) Unit)
      (fun _ => Holds disk none) (fun e s => (∃ f, e = .driver f) ∧ Live disk s) := by
  rintro s ⟨transaction, hs⟩
  refine (statement_spec hs).weaken ?_ ?_
  · rintro a s' ⟨disk', transaction', heq, hholds⟩
    cases heq
    exact hholds
  · rintro e s' (⟨heq, -⟩ | ⟨hdriver, hholds | hholds | ⟨a, disk', transaction', heq, hholds⟩⟩)
    · cases heq
    · exact ⟨hdriver, _, hholds⟩
    · exact ⟨hdriver, _, hholds⟩
    · cases heq
      exact ⟨hdriver, _, hholds⟩

omit [DriverErrors ε] in
theorem closeConnection_meets (disk : D) :
    Meets (Live disk) (closeConnection : Run (Session D ε) (Failure ε τ) Unit)
      (fun _ => Gone disk) (fun e s => (∃ f, e = .driver f) ∧ Gone disk s) := by
  rintro s ⟨transaction, rfl, -⟩
  unfold Run.start closeConnection
  simp only [ExceptT.run, ExceptT.mk, StateT.run]
  cases hfault : s.faults 0 with
  | none => exact ⟨rfl, rfl⟩
  | raises e aftermath => exact ⟨⟨e, rfl⟩, rfl, rfl⟩

/-! ## Statements that follow a transaction -/

/-- Within a transaction that sees `d`, the statements return what `result` says and let
the transaction see what it says, or they raise its error or one of the driver. The disk
stays as it is. -/
def Follows (d : D) (x : Run (Session D ε) (Failure ε τ) α)
    (result : Except (Failure ε τ) (α × D)) : Prop :=
  ∀ disk, Meets (Holds disk (some d)) x
    (fun a s => ∃ d', result = .ok (a, d') ∧ Holds disk (some d') s)
    (fun e s => Live disk s ∧ ((∃ f, e = .driver f) ∨ result = .error e))

variable {d : D} {x : Run (Session D ε) (Failure ε τ) α} {f : α → Run (Session D ε) (Failure ε τ) β}

omit [DriverErrors ε] in
theorem Follows.pure (a : α) :
    Follows d (pure a : Run (Session D ε) (Failure ε τ) α) (.ok (a, d)) :=
  fun _ => Meets.pure fun _ hs => ⟨d, rfl, hs⟩

omit [DriverErrors ε] in
theorem Follows.throw (e : Failure ε τ) :
    Follows d (throw e : Run (Session D ε) (Failure ε τ) α) (.error e) :=
  fun _ => Meets.throw fun _ hs => ⟨⟨_, hs⟩, .inr rfl⟩

omit [DriverErrors ε] in
theorem Follows.bind {result : Except (Failure ε τ) (α × D)}
    {next : α × D → Except (Failure ε τ) (β × D)} (hx : Follows d x result)
    (hf : ∀ a d', result = .ok (a, d') → Follows d' (f a) (next (a, d'))) :
    Follows d (x >>= f) (result >>= next) := by
  intro disk
  refine Meets.bind ((hx disk).weaken (fun _ => id) (fun _ _ => id) ?_) ?_
  · rintro e s ⟨hlive, hdriver | herror⟩
    · exact ⟨hlive, .inl hdriver⟩
    · exact ⟨hlive, .inr (by rw [herror]; rfl)⟩
  · rintro a s ⟨d', hresult, hholds⟩
    have hrest := hf a d' hresult disk s hholds
    rw [hresult]
    exact hrest

omit [DriverErrors ε] in
/-- A step that only reads the transaction. -/
theorem Follows.bind_read {value : Except (Failure ε τ) α}
    {next : α → Except (Failure ε τ) (β × D)} (hx : Follows d x (value.map fun a => (a, d)))
    (hf : ∀ a, value = .ok a → Follows d (f a) (next a)) :
    Follows d (x >>= f) (value >>= next) := by
  have hsame : (value >>= next) = value.map (fun a => (a, d)) >>= fun result => next result.1 := by
    cases value <;> rfl
  rw [hsame]
  refine hx.bind fun a d' hresult => ?_
  cases value with
  | error e => cases hresult
  | ok b =>
      cases hresult
      exact hf _ rfl

omit [DriverErrors ε] in
theorem Follows.bind_ofExcept {value : Except (Failure ε τ) α}
    {next : α → Except (Failure ε τ) (β × D)} (hf : ∀ a, value = .ok a → Follows d (f a) (next a)) :
    Follows d (Run.ofExcept value >>= f) (value >>= next) := by
  refine Follows.bind_read ?_ hf
  cases value with
  | error e => exact Follows.throw e
  | ok a => exact Follows.pure a

omit [DriverErrors ε] in
theorem onTables_ok {action : D → Except (Failure ε τ) (α × D)} {disk : D} {a : α} {disk' : D}
    {transaction : Option D} (h : onTables action disk (some d) = .ok (a, disk', transaction)) :
    ∃ d', action d = .ok (a, d') ∧ disk' = disk ∧ transaction = some d' := by
  cases haction : action d with
  | error e =>
      rw [onTables, haction] at h
      cases h
  | ok result =>
      rw [onTables, haction] at h
      cases h
      exact ⟨result.2, rfl, rfl, rfl⟩

omit [DriverErrors ε] in
theorem onTables_error {action : D → Except (Failure ε τ) (α × D)} {disk : D} {e : Failure ε τ}
    (h : onTables action disk (some d) = .error e) : action d = .error e := by
  cases haction : action d with
  | error f =>
      rw [onTables, haction] at h
      cases h
      rfl
  | ok result =>
      rw [onTables, haction] at h
      cases h

theorem Follows.execute (action : D → Except (Failure ε τ) (α × D)) :
    Follows d (execute action) (action d) := by
  intro disk s hs
  refine (statement_spec hs).weaken ?_ ?_
  · rintro a s' ⟨disk', transaction', hdone, hholds⟩
    obtain ⟨d', haction, rfl, rfl⟩ := onTables_ok hdone
    exact ⟨d', haction, hholds⟩
  · rintro e s' (⟨herror, hholds⟩ |
      ⟨hdriver, hholds | hholds | ⟨a, disk', transaction', hdone, hholds⟩⟩)
    · exact ⟨⟨_, hholds⟩, .inr (onTables_error herror)⟩
    · exact ⟨⟨_, hholds⟩, .inl hdriver⟩
    · exact ⟨⟨_, hholds⟩, .inl hdriver⟩
    · obtain ⟨d', haction, rfl, rfl⟩ := onTables_ok hdone
      exact ⟨⟨_, hholds⟩, .inl hdriver⟩

/-- After a query the statements go on from what the transaction sees. -/
theorem Follows.bind_query {read : D → α} {result : Except (Failure ε τ) (β × D)}
    (hf : Follows d (f (read d)) result) : Follows d (query read >>= f) result := by
  have hquery : Follows d (query read : Run (Session D ε) (Failure ε τ) α) (.ok (read d, d)) :=
    Follows.execute _
  have hsame : ((.ok (read d, d) : Except (Failure ε τ) (α × D)) >>= fun _ => result) = result :=
    rfl
  rw [← hsame]
  refine hquery.bind fun a d' hresult => ?_
  cases hresult
  exact hf

theorem Follows.bind_update {action : D → Except (Failure ε τ) D}
    {f : Unit → Run (Session D ε) (Failure ε τ) β} {next : D → Except (Failure ε τ) (β × D)}
    (hf : ∀ d', action d = .ok d' → Follows d' (f ()) (next d')) :
    Follows d (update action >>= f) (action d >>= next) := by
  have hsame : (action d >>= next) =
      (action d).map (fun d' => ((), d')) >>= fun result => next result.2 := by
    cases action d <;> rfl
  have hupdate : Follows d (update action) ((action d).map fun d' => ((), d')) :=
    Follows.execute _
  rw [hsame]
  refine hupdate.bind fun _ d' hresult => ?_
  cases haction : action d with
  | error e =>
      rw [haction] at hresult
      cases hresult
  | ok d'' =>
      rw [haction] at hresult
      cases hresult
      exact hf d' haction

omit [DriverErrors ε] in
/-- A handler that hands the driver's errors on. -/
theorem Follows.mapError {result result' : Except (Failure ε τ) (α × D)}
    {handler : Failure ε τ → Failure ε τ} (hx : Follows d x result)
    (hdriver : ∀ e, handler (.driver e) = .driver e)
    (hok : ∀ a d', result = .ok (a, d') → result' = .ok (a, d'))
    (hown : ∀ e, result = .error (.own e) → result' = .error (handler (.own e))) :
    Follows d (x.mapError handler) result' := by
  intro disk
  refine Meets.mapError ((hx disk).weaken (fun _ => id) ?_ ?_)
  · rintro a s ⟨d', hresult, hholds⟩
    exact ⟨d', hok a d' hresult, hholds⟩
  · rintro e s ⟨hlive, herror⟩
    cases e with
    | driver f => exact ⟨hlive, .inl ⟨f, hdriver f⟩⟩
    | own f =>
        refine ⟨hlive, .inr (hown f (herror.resolve_left ?_))⟩
        rintro ⟨g, hg⟩
        cases hg

end
end DeliverySystem.FaultyConnections

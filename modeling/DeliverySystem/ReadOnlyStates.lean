import DeliverySystem.FallibleRuns
import Mathlib.Data.List.Count
import Mathlib.Data.List.Nodup
import Mathlib.Data.List.Perm.Basic

/-!
# Read-only state and what it owns

Opening acquires descriptors and a connection; an instance owns the last two of
them until it is closed. Every call may raise, and every check may fail. Every
resource that was acquired is owned once or its close was attempted once.
-/
namespace DeliverySystem.ReadOnlyStates
open FallibleRuns
set_option autoImplicit false

/-! ## The world of the calls -/

inductive Exn where
  | readOnly (code : String)
  | os (number : Nat)
  | sqlite (number : Nat)
  | schemaOwner (code : String)
  | other (number : Nat)
deriving DecidableEq, Repr

/-- What the calls do: the `n`th raises, and what the `n`th looks for is there. -/
structure Outcomes where
  raised : Nat → Option Exn
  holds : Nat → Bool

/-- `ReadOnlyState`, and whether a transaction is open on its connection. -/
structure Instance where
  connection : Option Nat
  databaseFd : Option Nat
  closed : Bool
  inTransaction : Bool
deriving DecidableEq, Repr

/-- The local variables of `open`. -/
structure Locals where
  directoryFd : Option Nat := none
  manifestFd : Option Nat := none
  databaseFd : Option Nat := none
  connection : Option Nat := none
deriving DecidableEq, Repr

/-- Descriptors and connections are numbered as they are acquired. -/
structure World where
  calls : Nat := 0
  acquired : Nat := 0
  attempts : List Nat := []
  locals : Locals := {}
  instances : List Instance := []
  cleanupFailures : List (Exn × List (String × Exn)) := []
deriving DecidableEq, Repr

abbrev Action := Run World Exn

def detached : Instance := ⟨none, none, true, false⟩

/-- What an instance owns. -/
def Instance.owns (s : Instance) : List Nat := s.connection.toList ++ s.databaseFd.toList

def ownedBy (instances : List Instance) : List Nat := instances.flatMap Instance.owns

def World.owned (w : World) : List Nat := ownedBy w.instances

section
variable (o : Outcomes)

/-- A call that raises or returns. -/
def call : Action Unit := do
  let w ← get
  set { w with calls := w.calls + 1 }
  match o.raised w.calls with
  | some e => throw e
  | none => pure ()

/-- A check that raises its own error where it fails. -/
def check (code : String) : Action Unit := do
  let w ← get
  call o
  if o.holds w.calls then pure () else throw (.readOnly code)

/-- A call that gives a descriptor or a connection. -/
def acquire : Action Nat := do
  call o
  let w ← get
  set { w with acquired := w.acquired + 1 }
  pure w.acquired

/-- `_close_connection` and `_close_descriptor` -/
def closeResource (resource : Nat) : Action Unit := do
  modify fun w => { w with attempts := w.attempts ++ [resource] }
  call o

/-- Try each owned close once, regardless of failures in earlier closes. -/
def closeOwned : List (String × Option Nat) → Action (List (String × Exn))
  | [] => pure []
  | (_, none) :: rest => closeOwned rest
  | (name, some resource) :: rest => do
      let result ← (closeResource o resource).attempt
      let failures ← closeOwned rest
      match result with
      | .ok _ => pure failures
      | .error exc => pure ((name, exc) :: failures)

end

/-- `_record_cleanup_failures` -/
def recordCleanupFailures (error : Exn) (failures : List (String × Exn)) : Action Unit :=
  if failures = [] then pure ()
  else modify fun w => { w with cleanupFailures := w.cleanupFailures ++ [(error, failures)] }

def assign (change : Locals → Locals) : Action Unit :=
  modify fun w => { w with locals := change w.locals }

section
variable (o : Outcomes)

/-! ## Opening -/

def openDirectoryChain : Action Nat := do
  check o "read_only_platform_unavailable"
  check o "read_only_path_invalid"
  check o "read_only_platform_unavailable"
  acquire o

def openRegular : Action Nat := do
  let descriptor ← acquire o
  tryCatch (do
    check o "read_only_file_invalid"
    pure descriptor) fun exc => do
      let failures ← closeOwned o [("database_fd", some descriptor)]
      recordCleanupFailures exc failures
      throw exc

def closeStream (stream : Bool) : Action Unit := if stream then call o else pure ()

/-- `_close_digest_resources`; the stream does not own its descriptor. -/
def closeDigestResources (stream : Bool) (descriptor : Nat) : Action (List (String × Exn)) := do
  let closedStream ← (closeStream o stream).attempt
  let closedDescriptor ← (closeResource o descriptor).attempt
  let failures := match closedStream with
    | .ok _ => []
    | .error exc => [("digest_stream", exc)]
  match closedDescriptor with
  | .ok _ => pure failures
  | .error exc => pure (failures ++ [("digest_fd", exc)])

/-- Seek, and read to the end; a limit is checked on the way. -/
def readStream (limited : Bool) : Action Unit := do
  call o
  call o
  if limited then check o "read_only_manifest_invalid" else pure ()

def bytesAndDigest (limited : Bool) : Action Unit := do
  let duplicate ← acquire o
  let stream ← (call o).attempt
  match stream with
  | .error exc =>
      let failures ← closeDigestResources o false duplicate
      recordCleanupFailures exc failures
      throw exc
  | .ok _ =>
      let result ← (readStream o limited).attempt
      let failures ← closeDigestResources o true duplicate
      match result with
      | .error exc =>
          recordCleanupFailures exc failures
          throw exc
      | .ok _ =>
          match failures with
          | [] => pure ()
          | (_, exc) :: _ =>
              recordCleanupFailures exc failures
              throw exc

/-- What is checked of the connection and of the descriptor it was opened on. -/
def checkConnection : Action Unit := do
  call o
  check o "read_only_connection_invalid"
  check o "read_only_sidecar_required"
  check o "read_only_connection_invalid"
  call o
  check o "read_only_integrity_invalid"
  check o "read_only_integrity_invalid"
  check o "read_only_file_changed"

/-- The long `try` block of `open`. -/
def openBundle : Action Unit := do
  let directoryFd ← openDirectoryChain o
  assign fun l => { l with directoryFd := some directoryFd }
  check o "read_only_bundle_invalid"
  let manifestFd ← openRegular o
  assign fun l => { l with manifestFd := some manifestFd }
  let databaseFd ← openRegular o
  assign fun l => { l with databaseFd := some databaseFd }
  bytesAndDigest o true
  check o "read_only_manifest_invalid"
  check o "read_only_identity_mismatch"
  bytesAndDigest o false
  check o "read_only_digest_mismatch"
  let connection ← acquire o
  assign fun l => { l with connection := some connection }
  checkConnection o

def Exn.isUnavailable : Exn → Bool
  | .os _ | .sqlite _ | .schemaOwner _ => true
  | .readOnly _ | .other _ => false

/-- `except BaseException` of that block. -/
def abandonBundle (exc : Exn) : Action Unit := do
  let w ← get
  let failures ← closeOwned o [("connection", w.locals.connection),
    ("database_fd", w.locals.databaseFd), ("manifest_fd", w.locals.manifestFd),
    ("directory_fd", w.locals.directoryFd)]
  let error := if exc.isUnavailable then .readOnly "read_only_state_unavailable" else exc
  recordCleanupFailures error failures
  throw error

/-- `cls(connection, database_fd, manifest)` -/
def construct (connection databaseFd : Option Nat) : Action Nat := do
  call o
  let w ← get
  let state : Instance := ⟨connection, databaseFd, false, false⟩
  set { w with instances := w.instances ++ [state] }
  pure w.instances.length

/-- `ReadOnlyState.open` -/
def openState : Action Nat := do
  assign fun _ => {}
  check o "read_only_expectation_invalid"
  call o
  tryCatch (openBundle o) (abandonBundle o)
  let w ← get
  let failures ← closeOwned o [("manifest_fd", w.locals.manifestFd),
    ("directory_fd", w.locals.directoryFd)]
  match failures with
  | [] =>
      tryCatch (construct o w.locals.connection w.locals.databaseFd) fun exc => do
        let failures ← closeOwned o [("connection", w.locals.connection),
          ("database_fd", w.locals.databaseFd)]
        recordCleanupFailures exc failures
        throw exc
  | _ :: _ =>
      let more ← closeOwned o [("connection", w.locals.connection),
        ("database_fd", w.locals.databaseFd)]
      let error := .readOnly "read_only_state_unavailable"
      recordCleanupFailures error (failures ++ more)
      throw error

/-! ## Instances -/

/-- An index of no instance is that of a closed one. -/
def World.state (w : World) (i : Nat) : Instance := w.instances[i]?.getD detached

def putState (i : Nat) (change : Instance → Instance) : Action Unit :=
  modify fun w => { w with instances := w.instances.modify i change }

def requireOpen (i : Nat) : Action Unit := do
  let w ← get
  if (w.state i).closed then throw (.readOnly "read_only_state_closed") else pure ()

def query (i : Nat) : Action Unit := do
  check o "read_only_query_invalid"
  requireOpen i
  call o

/-- `_detach_owned`, and the closes of what it gives -/
def closeDetached (i : Nat) : Action (List (String × Exn)) := do
  let w ← get
  let state := w.state i
  putState i fun _ => detached
  closeOwned o [("connection", state.connection), ("database_fd", state.databaseFd)]

def rollback (i : Nat) : Action Unit := do
  call o
  putState i fun state => { state with inTransaction := false }

/-- `snapshot` up to its `yield` -/
def enterSnapshot (i : Nat) : Action Unit := do
  requireOpen i
  call o
  putState i fun state => { state with inTransaction := true }

/-- `snapshot` from its `yield` on, where the body raised -/
def abandonSnapshot (i : Nat) (primary : Exn) : Action Unit := do
  let w ← get
  if (w.state i).closed then throw primary
  else
    let result ← (rollback o i).attempt
    match result with
    | .ok _ => throw primary
    | .error exc =>
        let failures ← closeDetached o i
        recordCleanupFailures primary (("rollback", exc) :: failures)
        throw primary

/-- `snapshot` from its `yield` on, where the body returned -/
def leaveSnapshot (i : Nat) : Action Unit := do
  let w ← get
  if (w.state i).closed then pure ()
  else
    let result ← (rollback o i).attempt
    match result with
    | .ok _ => pure ()
    | .error exc =>
        let failures ← closeDetached o i
        recordCleanupFailures exc failures
        throw exc

def closeState (i : Nat) : Action Unit := do
  let w ← get
  if (w.state i).closed then pure ()
  else
    let failures ← closeDetached o i
    match failures with
    | [] => pure ()
    | (_, exc) :: _ =>
        recordCleanupFailures exc failures
        throw exc

end

/-! ## Programs -/

/-- A caller: what it does next may depend on what it was given, and on what was raised,
which it may go on from. -/
inductive Program where
  | done
  | throw (exc : Exn)
  | openState (next : Except Exn Nat → Program)
  | query (i : Nat) (next : Except Exn Unit → Program)
  | close (i : Nat) (next : Except Exn Unit → Program)
  | snapshot (i : Nat) (body : Program) (next : Except Exn Unit → Program)

/-- A `with` block of a snapshot that was entered, and what comes after it. -/
structure Frame where
  state : Nat
  next : Except Exn Unit → Program

structure Config where
  program : Program
  frames : List Frame := []
  world : World := {}

/-- The program goes on with the result of a call. -/
def resume {α : Type} (next : Except Exn α → Program) (ended : Except Exn α × World)
    (frames : List Frame) : Config := ⟨next ended.1, frames, ended.2⟩

/-- One call, or the end of a body. -/
def step (o : Outcomes) (c : Config) : Config :=
  match c.program, c.frames with
  | .openState next, frames => resume next ((openState o).start c.world) frames
  | .query i next, frames => resume next ((query o i).start c.world) frames
  | .close i next, frames => resume next ((closeState o i).start c.world) frames
  | .snapshot i body next, frames =>
      match (enterSnapshot o i).start c.world with
      | (.ok _, w) => ⟨body, ⟨i, next⟩ :: frames, w⟩
      | (.error exc, w) => ⟨next (.error exc), frames, w⟩
  | .done, frame :: frames =>
      resume frame.next ((leaveSnapshot o frame.state).start c.world) frames
  | .throw exc, frame :: frames =>
      resume frame.next ((abandonSnapshot o frame.state exc).start c.world) frames
  | .done, [] | .throw _, [] => c

/-- The configuration after `n` steps from the start of a program. -/
def after (o : Outcomes) (program : Program) : Nat → Config
  | 0 => { program }
  | n + 1 => step o (after o program n)

/-! ## The account of the resources -/

/-- Every resource that was acquired is counted once: its close was attempted, an instance
owns it, or it is held besides. -/
structure Holding (held : List Nat) (instances : List Instance) (locals : Locals)
    (w : World) : Prop where
  once (r : Nat) : w.attempts.count r + (ownedBy instances).count r + held.count r =
    if r < w.acquired then 1 else 0
  instances : w.instances = instances
  locals : w.locals = locals

/-- The run leaves the account as it is, however it ends. -/
def Keeps {α : Type} (x : Action α) : Prop := ∀ held instances locals,
  Meets (Holding held instances locals) x (fun _ => Holding held instances locals)
    fun _ => Holding held instances locals

section
variable {o : Outcomes} {held : List Nat} {instances : List Instance} {locals : Locals}

theorem Keeps.pure {α : Type} (a : α) : Keeps (pure a : Action α) :=
  fun _ _ _ => Meets.pure fun _ h => h

theorem Keeps.throw {α : Type} (e : Exn) : Keeps (throw e : Action α) :=
  fun _ _ _ => Meets.throw fun _ h => h

theorem Keeps.bind {α β : Type} {x : Action α} {f : α → Action β} (hx : Keeps x)
    (hf : ∀ a, Keeps (f a)) : Keeps (x >>= f) :=
  fun held instances locals => (hx held instances locals).bind fun a => hf a held instances locals

theorem Keeps.attempt {α : Type} {x : Action α} (hx : Keeps x) {E : Exn → World → Prop} :
    Meets (Holding held instances locals) x.attempt (fun _ => Holding held instances locals) E := by
  refine (hx held instances locals).attempt.weaken (fun _ h => h) (fun result s h => ?_)
    fun _ _ h => h
  cases result <;> exact h

theorem call_start (w : World) : (call o).start w =
    ((o.raised w.calls).elim (.ok ()) .error, { w with calls := w.calls + 1 }) := by
  rw [call, start_bind, start_get]
  simp only [start_bind, start_set]
  cases o.raised w.calls <;> rfl

theorem call_keeps : Keeps (call o) := by
  intro held instances locals w h
  rw [call_start]
  have hkept : Holding held instances locals { w with calls := w.calls + 1 } :=
    ⟨h.once, h.instances, h.locals⟩
  cases o.raised w.calls <;> exact hkept

theorem check_keeps (code : String) : Keeps (check o code) := by
  intro held instances locals
  refine Meets.bind_get fun w hw => ?_
  have hcall : Meets (· = w) (call o) (fun _ => Holding held instances locals)
      fun _ => Holding held instances locals :=
    (call_keeps held instances locals).weaken (fun w' h => h ▸ hw) (fun _ _ h => h) fun _ _ h => h
  refine hcall.bind fun _ => ?_
  split_ifs
  · exact Meets.pure fun _ h => h
  · exact Meets.throw fun _ h => h

/-- Noting failures does not raise. -/
theorem recordCleanupFailures_meets (error : Exn) (failures : List (String × Exn))
    {E : Exn → World → Prop} : Meets (Holding held instances locals)
      (recordCleanupFailures error failures) (fun _ => Holding held instances locals) E := by
  unfold recordCleanupFailures
  split_ifs
  · exact Meets.pure fun _ h => h
  · exact Meets.modified fun _ h => ⟨h.once, h.instances, h.locals⟩

theorem acquire_meets : Meets (Holding held instances locals) (acquire o)
    (fun r => Holding (r :: held) instances locals) fun _ => Holding held instances locals := by
  refine (call_keeps held instances locals).bind fun _ => Meets.bind_get fun w h => ?_
  refine Meets.bind (R := fun _ => Holding (w.acquired :: held) instances locals)
    (Meets.set ⟨fun r => ?_, h.instances, h.locals⟩) fun _ => Meets.pure fun _ h => h
  have honce := h.once r
  rw [List.count_cons]
  split_ifs at honce ⊢ <;> simp_all <;> omega

/-- A resource of which the close was attempted is held no longer, even if that raised. -/
theorem closeResource_meets (r : Nat) : Meets (Holding (r :: held) instances locals)
    (closeResource o r) (fun _ => Holding held instances locals)
    fun _ => Holding held instances locals := by
  refine Meets.bind_modify (R := Holding held instances locals) (fun w h => ?_)
    (call_keeps held instances locals)
  refine ⟨fun s => ?_, h.instances, h.locals⟩
  have honce := h.once s
  change (w.attempts ++ [r]).count s + _ + _ = if s < w.acquired then 1 else 0
  rw [List.count_cons] at honce
  rw [List.count_append, List.count_singleton]
  omega

def resourcesOf (resources : List (String × Option Nat)) : List Nat :=
  resources.flatMap fun resource => resource.2.toList

theorem closeOwned_meets (resources : List (String × Option Nat)) {E : Exn → World → Prop} :
    Meets (Holding (resourcesOf resources ++ held) instances locals) (closeOwned o resources)
      (fun _ => Holding held instances locals) E := by
  induction resources with
  | nil => exact Meets.pure fun _ h => h
  | cons resource rest ih =>
      obtain ⟨name, resource⟩ := resource
      cases resource with
      | none => exact ih
      | some r =>
          refine Meets.bind (closeResource_meets r).attempt fun result => ?_
          refine Meets.bind (R := fun _ => Holding held instances locals)
            (ih.weaken (fun w h => ?_) (fun _ _ h => h) fun _ _ h => h) fun failures => ?_
          · cases result <;> exact h
          · cases result <;> exact Meets.pure fun _ h => h

/-- The handler that closes what it is given, notes the failures, and raises. -/
theorem closeAndRaise_meets {α : Type} (resources : List (String × Option Nat)) (error : Exn)
    (note : List (String × Exn) → List (String × Exn)) {Q : α → World → Prop} :
    Meets (Holding (resourcesOf resources ++ held) instances locals)
      (do
        let failures ← closeOwned o resources
        recordCleanupFailures error (note failures)
        throw error) Q fun e w => e = error ∧ Holding held instances locals w := by
  refine (closeOwned_meets resources).bind fun failures => ?_
  exact (recordCleanupFailures_meets error (note failures)).bind
    fun _ => Meets.throw fun _ h => ⟨rfl, h⟩

/-! ## What opening owns -/

theorem openDirectoryChain_meets : Meets (Holding held instances locals) (openDirectoryChain o)
    (fun r => Holding (r :: held) instances locals) fun _ => Holding held instances locals :=
  (check_keeps _ held instances locals).bind fun _ =>
    (check_keeps _ held instances locals).bind fun _ =>
      (check_keeps _ held instances locals).bind fun _ => acquire_meets

theorem openRegular_meets : Meets (Holding held instances locals) (openRegular o)
    (fun r => Holding (r :: held) instances locals) fun _ => Holding held instances locals := by
  refine acquire_meets.bind fun r => ?_
  refine Meets.tryCatch (R := fun _ => Holding (r :: held) instances locals) ?_ fun exc => ?_
  · exact (check_keeps _ _ instances locals).bind fun _ => Meets.pure fun _ h => h
  · exact (closeAndRaise_meets [("database_fd", some r)] exc id).weaken (fun _ h => h)
      (fun _ _ h => h) fun _ _ h => h.2

theorem closeDigestResources_meets (stream : Bool) (r : Nat) {E : Exn → World → Prop} :
    Meets (Holding (r :: held) instances locals) (closeDigestResources o stream r)
      (fun _ => Holding held instances locals) E := by
  have hstream : Keeps (closeStream o stream) := by
    cases stream
    · exact Keeps.pure _
    · exact call_keeps
  refine hstream.attempt.bind fun closedStream => ?_
  refine Meets.bind (closeResource_meets r).attempt fun closedDescriptor => ?_
  cases closedDescriptor <;> exact Meets.pure fun _ h => h

theorem readStream_keeps (limited : Bool) : Keeps (readStream o limited) := by
  refine call_keeps.bind fun _ => call_keeps.bind fun _ => ?_
  cases limited
  · exact Keeps.pure _
  · exact check_keeps _

theorem noteAndRaise_keeps {α : Type} (error : Exn) (failures : List (String × Exn)) :
    Keeps (do
      recordCleanupFailures error failures
      throw error : Action α) := fun _ _ _ =>
  (recordCleanupFailures_meets error failures).bind fun _ => Meets.throw fun _ h => h

theorem bytesAndDigest_keeps (limited : Bool) : Keeps (bytesAndDigest o limited) := by
  intro held instances locals
  refine acquire_meets.bind fun r => ?_
  refine call_keeps.attempt.bind fun stream => ?_
  cases stream with
  | error exc =>
      exact (closeDigestResources_meets false r).bind fun failures =>
        noteAndRaise_keeps exc failures held instances locals
  | ok _ =>
      refine (readStream_keeps limited).attempt.bind fun result => ?_
      refine (closeDigestResources_meets true r).bind fun failures => ?_
      cases result with
      | error exc => exact noteAndRaise_keeps exc failures held instances locals
      | ok _ =>
          cases failures with
          | nil => exact Meets.pure fun _ h => h
          | cons failure failures => exact noteAndRaise_keeps _ _ held instances locals

theorem checkConnection_keeps : Keeps (checkConnection o) :=
  call_keeps.bind fun _ => (check_keeps _).bind fun _ => (check_keeps _).bind fun _ =>
    (check_keeps _).bind fun _ => call_keeps.bind fun _ => (check_keeps _).bind fun _ =>
      (check_keeps _).bind fun _ => check_keeps _

/-- What the local variables of `open` hold. -/
def Locals.resources (l : Locals) : List Nat :=
  resourcesOf [("connection", l.connection), ("database_fd", l.databaseFd),
    ("manifest_fd", l.manifestFd), ("directory_fd", l.directoryFd)]

/-- Besides what the instances own, the local variables hold what is not closed. -/
def Accounted (instances : List Instance) (w : World) : Prop :=
  Holding w.locals.resources instances w.locals w

theorem Holding.accounted {w : World} (h : Holding locals.resources instances locals w) :
    Accounted instances w := by
  have hlocals := h.locals
  subst hlocals
  exact h

theorem Holding.of_perm {held' : List Nat} {w : World} (hperm : held.Perm held')
    (h : Holding held instances locals w) : Holding held' instances locals w :=
  ⟨fun r => by rw [← hperm.count_eq]; exact h.once r, h.instances, h.locals⟩

/-- A step of `open` that keeps the account. -/
theorem accounted_step {α β : Type} {x : Action α} {f : α → Action β} {Q : β → World → Prop}
    (hx : Keeps x) (hf : ∀ a, Meets (Holding locals.resources instances locals) (f a) Q
      fun _ => Accounted instances) :
    Meets (Holding locals.resources instances locals) (x >>= f) Q fun _ => Accounted instances :=
  Meets.bind ((hx _ instances locals).weaken (fun _ h => h) (fun _ _ h => h)
    fun _ _ h => h.accounted) hf

/-- A step of `open` that assigns what it acquired. -/
theorem accounted_assign {β : Type} {x : Action Nat} {f : Action β} {Q : β → World → Prop}
    {change : Nat → Locals → Locals}
    (hx : Meets (Holding locals.resources instances locals) x
      (fun r => Holding (r :: locals.resources) instances locals)
      fun _ => Holding locals.resources instances locals)
    (hchange : ∀ r, (change r locals).resources = r :: locals.resources)
    (hf : ∀ r, Meets (Holding (change r locals).resources instances (change r locals)) f Q
      fun _ => Accounted instances) :
    Meets (Holding locals.resources instances locals)
      (x >>= fun r => assign (change r) >>= fun _ => f) Q fun _ => Accounted instances := by
  refine Meets.bind (hx.weaken (fun _ h => h) (fun _ _ h => h) fun _ _ h => h.accounted)
    fun r => Meets.bind_modify (fun w h => ?_) (hf r)
  refine ⟨fun s => ?_, h.instances, congrArg (change r) h.locals⟩
  rw [hchange]
  exact h.once s

/-- The block ends with all four resources, or with those that it holds by then. -/
theorem openBundle_meets : Meets (Holding [] instances {}) (openBundle o)
    (fun _ w => ∃ directoryFd manifestFd databaseFd connection,
      Holding [connection, databaseFd, manifestFd, directoryFd] instances
        ⟨some directoryFd, some manifestFd, some databaseFd, some connection⟩ w)
    fun _ => Accounted instances := by
  change Meets (Holding ({} : Locals).resources instances {}) _ _ _
  refine accounted_assign openDirectoryChain_meets (fun _ => rfl) fun directoryFd => ?_
  refine accounted_step (check_keeps _) fun _ => ?_
  refine accounted_assign openRegular_meets (fun _ => rfl) fun manifestFd => ?_
  refine accounted_assign openRegular_meets (fun _ => rfl) fun databaseFd => ?_
  refine accounted_step (bytesAndDigest_keeps _) fun _ => ?_
  refine accounted_step (check_keeps _) fun _ => ?_
  refine accounted_step (check_keeps _) fun _ => ?_
  refine accounted_step (bytesAndDigest_keeps _) fun _ => ?_
  refine accounted_step (check_keeps _) fun _ => ?_
  refine accounted_assign acquire_meets (fun _ => rfl) fun connection => ?_
  exact (checkConnection_keeps _ instances _).weaken (fun _ h => h)
    (fun _ _ h => ⟨directoryFd, manifestFd, databaseFd, connection, h⟩) fun _ _ h => h.accounted

/-- No call holds anything. -/
def Settled (instances : List Instance) (w : World) : Prop :=
  ∃ locals, Holding [] instances locals w

theorem abandonBundle_meets (exc : Exn) {Q : Unit → World → Prop} :
    Meets (Accounted instances) (abandonBundle o exc) Q fun _ => Settled instances := by
  refine Meets.bind_get fun w hw => ?_
  refine (closeAndRaise_meets _ _ id).weaken (fun w' h => ?_) (fun _ _ h => h)
    fun _ _ h => ⟨w.locals, h.2⟩
  rw [h, List.append_nil]
  exact hw

theorem count_pair (a b r : Nat) : [a, b].count r = [a].count r + [b].count r := by
  rw [← List.count_append]
  rfl

/-- What is counted as owned by a new instance is held no longer. -/
theorem construct_meets {connection databaseFd : Nat} :
    Meets (Holding [connection, databaseFd] instances locals)
      (construct o (some connection) (some databaseFd))
      (fun i => fun w => i = instances.length ∧
        Settled (instances ++ [⟨some connection, some databaseFd, false, false⟩]) w)
      fun _ => Holding [connection, databaseFd] instances locals := by
  refine (call_keeps _ instances locals).bind fun _ => Meets.bind_get fun w h => ?_
  have hsettled : Settled (instances ++ [⟨some connection, some databaseFd, false, false⟩])
      { w with instances :=
          w.instances ++ [⟨some connection, some databaseFd, false, false⟩] } := by
    refine ⟨locals, fun r => ?_, by rw [h.instances], h.locals⟩
    have honce := h.once r
    simp only [ownedBy, List.flatMap_append, List.count_append, List.flatMap_cons,
      List.flatMap_nil, Instance.owns, Option.toList, List.append_nil, List.count_nil] at honce ⊢
    have hpair := count_pair connection databaseFd r
    omega
  exact Meets.bind (R := fun _ => Settled _) (Meets.set hsettled)
    fun _ => Meets.pure fun _ h' => ⟨by rw [h.instances], h'⟩

/-- Opening returns an instance that owns two resources, or raises; all others that it
acquired were closed. -/
theorem openState_meets : Meets (Settled instances) (openState o)
    (fun i w => i = instances.length ∧ ∃ connection databaseFd,
      Settled (instances ++ [⟨some connection, some databaseFd, false, false⟩]) w)
    fun _ => Settled instances := by
  refine Meets.bind_modify (R := Holding [] instances {})
    (fun w ⟨_, h⟩ => ⟨h.once, h.instances, rfl⟩) ?_
  have hsettled : ∀ w, Holding [] instances {} w → Settled instances w := fun _ h => ⟨_, h⟩
  refine Meets.bind ((check_keeps _ [] instances {}).weaken (fun _ h => h) (fun _ _ h => h)
    fun _ => hsettled) fun _ => ?_
  refine Meets.bind ((call_keeps [] instances {}).weaken (fun _ h => h) (fun _ _ h => h)
    fun _ => hsettled) fun _ => ?_
  refine Meets.bind (openBundle_meets.tryCatch fun exc => abandonBundle_meets exc) fun _ => ?_
  refine Meets.bind_get fun w ⟨directoryFd, manifestFd, databaseFd, connection, h⟩ => ?_
  rw [h.locals]
  have htemporary : Meets (· = w) (closeOwned o [("manifest_fd", some manifestFd),
      ("directory_fd", some directoryFd)])
      (fun _ => Holding [connection, databaseFd] instances w.locals)
      fun _ => Settled instances := by
    refine (closeOwned_meets _).weaken (fun w' hw' => ?_) (fun _ _ h => h) fun _ _ h => h
    rw [hw', h.locals]
    exact h.of_perm (@List.perm_append_comm _ [connection, databaseFd] [manifestFd, directoryFd])
  refine htemporary.bind fun failures => ?_
  have hclose : ∀ (error : Exn) (note : List (String × Exn) → List (String × Exn)),
      Meets (Holding [connection, databaseFd] instances w.locals)
        (do
          let failures ← closeOwned o [("connection", some connection),
            ("database_fd", some databaseFd)]
          recordCleanupFailures error (note failures)
          throw error : Action Nat)
        (fun i w => i = instances.length ∧ ∃ connection databaseFd,
          Settled (instances ++ [⟨some connection, some databaseFd, false, false⟩]) w)
        fun _ => Settled instances := fun error note =>
    (closeAndRaise_meets [("connection", some connection), ("database_fd", some databaseFd)]
      error note).weaken (fun _ h => h) (fun _ _ h => h) fun _ _ h => ⟨w.locals, h.2⟩
  cases failures with
  | nil =>
      refine Meets.tryCatch (construct_meets.weaken (fun _ h => h) (fun _ _ h => ?_)
        fun _ _ h => h) fun exc => hclose exc id
      exact ⟨h.1, connection, databaseFd, h.2⟩
  | cons failure failures => exact hclose _ _

/-! ## What calls of an instance do -/

/-- A change that leaves what an instance owns leaves what all own. -/
theorem ownedBy_modify {change : Instance → Instance} (h : ∀ s, (change s).owns = s.owns)
    (i : Nat) : ownedBy (instances.modify i change) = ownedBy instances := by
  induction instances generalizing i with
  | nil => rw [List.modify_nil]
  | cons s rest ih =>
      cases i with
      | zero => rw [List.modify_zero_cons, ownedBy, List.flatMap_cons, h]; rfl
      | succ i =>
          have hrest := ih i
          rw [ownedBy, ownedBy] at hrest
          rw [List.modify_succ_cons, ownedBy, List.flatMap_cons, hrest]
          rfl

/-- What a detached instance owned is counted apart. -/
theorem count_detached (i r : Nat) :
    (ownedBy (instances.modify i fun _ => detached)).count r +
      (instances[i]?.getD detached).owns.count r = (ownedBy instances).count r := by
  induction instances generalizing i with
  | nil => simp [ownedBy, detached, Instance.owns]
  | cons s rest ih =>
      cases i with
      | zero =>
          rw [List.modify_zero_cons, ownedBy, ownedBy, List.flatMap_cons, List.flatMap_cons,
            List.count_append, List.count_append]
          exact (Nat.add_comm _ _).trans (congrArg _ (Nat.zero_add _))
      | succ i =>
          have hrest := ih i
          rw [ownedBy, ownedBy] at hrest
          rw [List.modify_succ_cons, ownedBy, ownedBy, List.flatMap_cons, List.flatMap_cons,
            List.count_append, List.count_append, List.getElem?_cons_succ, Nat.add_assoc, hrest]

theorem putState_meets {i : Nat} {change : Instance → Instance}
    (h : ∀ s, (change s).owns = s.owns) {E : Exn → World → Prop} :
    Meets (Settled instances) (putState i change)
      (fun _ => Settled (instances.modify i change)) E := by
  refine Meets.modified fun w ⟨locals, hw⟩ => ⟨locals, fun r => ?_, ?_, hw.locals⟩
  · rw [ownedBy_modify h]
    exact hw.once r
  · exact congrArg _ hw.instances

theorem state_eq {w : World} {i : Nat} (h : Settled instances w) :
    w.state i = instances[i]?.getD detached := by
  obtain ⟨locals, h⟩ := h
  rw [World.state, h.instances]

theorem closeDetached_meets (i : Nat) {E : Exn → World → Prop} :
    Meets (Settled instances) (closeDetached o i)
      (fun _ => Settled (instances.modify i fun _ => detached)) E := by
  refine Meets.bind_get fun w hw => ?_
  obtain ⟨locals, h⟩ := hw
  refine Meets.bind_modify (R := Holding (w.state i).owns (instances.modify i fun _ => detached)
    locals) (fun w' hw' => ?_) ?_
  · subst hw'
    refine ⟨fun r => ?_, congrArg _ h.instances, h.locals⟩
    have honce := h.once r
    rw [← count_detached i, ← state_eq ⟨locals, h⟩, List.count_nil] at honce
    change w'.attempts.count r + _ + _ = if r < w'.acquired then 1 else 0
    omega
  · refine (closeOwned_meets _).weaken (fun w' h' => ?_) (fun _ _ h => ⟨locals, h⟩) fun _ _ h => h
    rw [resourcesOf, List.append_nil]
    simpa [Instance.owns] using h'

theorem settled_of_keeps {α : Type} {x : Action α} (hx : Keeps x) :
    Meets (Settled instances) x (fun _ => Settled instances) fun _ => Settled instances :=
  Meets.each fun w ⟨locals, h⟩ => (hx [] instances locals).weaken (fun _ hw => by rw [hw]; exact h)
    (fun _ _ h => ⟨locals, h⟩) fun _ _ h => ⟨locals, h⟩

theorem requireOpen_keeps (i : Nat) : Keeps (requireOpen i) := by
  intro held instances locals
  refine Meets.bind_get fun w hw => ?_
  split_ifs
  · exact Meets.throw fun _ h => by rw [h]; exact hw
  · exact Meets.pure fun _ h => by rw [h]; exact hw

theorem query_keeps (i : Nat) : Keeps (query o i) :=
  (check_keeps _).bind fun _ => (requireOpen_keeps i).bind fun _ => call_keeps

/-- An instance that is closed owns nothing, and a live one both of its resources. -/
def Instance.Proper (s : Instance) : Prop :=
  s = detached ∨ ∃ connection databaseFd inTransaction,
    s = ⟨some connection, some databaseFd, false, inTransaction⟩

/-- Only the `i`th instance was changed, and no transaction is open on it now. -/
structure Idled (i : Nat) (before after : List Instance) : Prop where
  others (j : Nat) (h : j ≠ i) : after[j]? = before[j]?
  idle (s : Instance) (h : after[i]? = some s) : s.inTransaction = false
  proper : ∀ s ∈ after, s.Proper

theorem Instance.Proper.of_closed {s : Instance} (h : s.Proper) (hclosed : s.closed = true) :
    s = detached := by
  rcases h with rfl | ⟨connection, databaseFd, inTransaction, rfl⟩
  · rfl
  · cases hclosed

theorem idled_modify {i : Nat} {change : Instance → Instance} (hproper : ∀ s ∈ instances, s.Proper)
    (h : ∀ s, s.Proper → (change s).inTransaction = false ∧ (change s).Proper) :
    Idled i instances (instances.modify i change) where
  others j hj := by simp [Ne.symm hj]
  idle s hs := by
    rw [List.getElem?_modify] at hs
    obtain ⟨s', hs', rfl⟩ := Option.map_eq_some_iff.mp hs
    rw [if_pos rfl]
    exact (h s' (hproper s' (List.mem_of_getElem? hs'))).1
  proper s hs := by
    obtain ⟨j, hj⟩ := List.mem_iff_getElem?.mp hs
    rw [List.getElem?_modify] at hj
    obtain ⟨s', hs', rfl⟩ := Option.map_eq_some_iff.mp hj
    have hs' := hproper s' (List.mem_of_getElem? hs')
    split_ifs
    · exact (h s' hs').2
    · exact hs'

theorem idled_detached (i : Nat) (hproper : ∀ s ∈ instances, s.Proper) :
    Idled i instances (instances.modify i fun _ => detached) :=
  idled_modify hproper fun _ _ => ⟨rfl, .inl rfl⟩

theorem idled_rollback (i : Nat) (hproper : ∀ s ∈ instances, s.Proper) :
    Idled i instances (instances.modify i fun s => { s with inTransaction := false }) := by
  refine idled_modify hproper fun s hs => ⟨rfl, ?_⟩
  rcases hs with rfl | ⟨connection, databaseFd, inTransaction, rfl⟩
  · exact .inl rfl
  · exact .inr ⟨connection, databaseFd, false, rfl⟩

theorem idled_closed {i : Nat} (hproper : ∀ s ∈ instances, s.Proper)
    (hclosed : (instances[i]?.getD detached).closed = true) : Idled i instances instances where
  others _ _ := rfl
  idle s hs := by
    rw [hs, Option.getD_some] at hclosed
    rw [(hproper s (List.mem_of_getElem? hs)).of_closed hclosed]
    rfl
  proper := hproper

/-- One instance was idled, and nothing is held besides. -/
def Quiet (i : Nat) (before : List Instance) (w : World) : Prop :=
  ∃ after, Settled after w ∧ Idled i before after

theorem rollback_meets (i : Nat) : Meets (Settled instances) (rollback o i)
    (fun _ => Settled (instances.modify i fun s => { s with inTransaction := false }))
    fun _ => Settled instances := by
  have howns : ∀ s : Instance, ({ s with inTransaction := false } : Instance).owns = s.owns :=
    fun _ => rfl
  exact (settled_of_keeps call_keeps).bind fun _ => putState_meets howns

/-- A rollback that raised left the transaction open. -/
theorem attemptRollback_meets {i : Nat} {w : World} (hw : Settled instances w)
    {E : Exn → World → Prop} :
    Meets (· = w) (rollback o i).attempt (fun result s =>
      Ends (fun _ => Settled (instances.modify i fun s => { s with inTransaction := false }))
        (fun _ => Settled instances) (result, s)) E := by
  rintro _ rfl
  exact (rollback_meets i).attempt _ hw

/-- Where the rollback raised the instance is closed. -/
theorem closeAfterRollback_meets (i : Nat) (hproper : ∀ s ∈ instances, s.Proper) (error : Exn)
    (note : List (String × Exn) → List (String × Exn)) {Q : Unit → World → Prop} :
    Meets (Settled instances)
      (do
        let failures ← closeDetached o i
        recordCleanupFailures error (note failures)
        throw error) Q fun e w => e = error ∧ Quiet i instances w := by
  refine (closeDetached_meets i).bind fun failures => ?_
  refine Meets.each fun w ⟨locals, h⟩ => ?_
  refine ((recordCleanupFailures_meets error (note failures)).bind fun _ =>
    Meets.throw fun _ h => ⟨rfl, _, ⟨locals, h⟩, idled_detached i hproper⟩).weaken
      (fun w' hw' => ?_) (fun _ _ h => h) fun _ _ h => h
  rw [hw']
  exact h

theorem abandonSnapshot_meets (i : Nat) (primary : Exn) (hproper : ∀ s ∈ instances, s.Proper) :
    Meets (Settled instances) (abandonSnapshot o i primary) (fun _ _ => False)
      fun e w => e = primary ∧ Quiet i instances w := by
  refine Meets.bind_get fun w hw => ?_
  have hstate := state_eq (i := i) hw
  split_ifs with hclosed
  · refine Meets.throw fun w' hw' => ⟨rfl, instances, hw' ▸ hw, idled_closed hproper ?_⟩
    rw [← hstate, hclosed]
  · refine (attemptRollback_meets hw).bind fun result => ?_
    cases result with
    | ok _ => exact Meets.throw fun w' h => ⟨rfl, _, h, idled_rollback i hproper⟩
    | error exc => exact closeAfterRollback_meets i hproper primary (("rollback", exc) :: ·)

theorem leaveSnapshot_meets (i : Nat) (hproper : ∀ s ∈ instances, s.Proper) :
    Meets (Settled instances) (leaveSnapshot o i) (fun _ => Quiet i instances)
      fun _ => Quiet i instances := by
  refine Meets.bind_get fun w hw => ?_
  have hstate := state_eq (i := i) hw
  split_ifs with hclosed
  · refine Meets.pure fun w' hw' => ⟨instances, hw' ▸ hw, idled_closed hproper ?_⟩
    rw [← hstate, hclosed]
  · refine (attemptRollback_meets hw).bind fun result => ?_
    cases result with
    | ok _ => exact Meets.pure fun w' h => ⟨_, h, idled_rollback i hproper⟩
    | error exc =>
        exact (closeAfterRollback_meets i hproper exc id).weaken (fun _ h => h) (fun _ _ h => h)
          fun _ _ h => h.2

theorem modify_closed {i : Nat} (hproper : ∀ s ∈ instances, s.Proper)
    (hclosed : (instances[i]?.getD detached).closed = true) :
    instances.modify i (fun _ => detached) = instances := by
  refine List.ext_getElem? fun j => ?_
  rw [List.getElem?_modify]
  cases hj : instances[j]? with
  | none => rfl
  | some s =>
      refine congrArg some ?_
      dsimp only
      split_ifs with hij
      · subst hij
        rw [hj, Option.getD_some] at hclosed
        exact ((hproper s (List.mem_of_getElem? hj)).of_closed hclosed).symm
      · rfl

/-- After a close, however it ends, the instance is detached. -/
theorem closeState_meets (i : Nat) (hproper : ∀ s ∈ instances, s.Proper) :
    Meets (Settled instances) (closeState o i)
      (fun _ => Settled (instances.modify i fun _ => detached))
      fun _ => Settled (instances.modify i fun _ => detached) := by
  refine Meets.bind_get fun w hw => ?_
  have hstate := state_eq (i := i) hw
  split_ifs with hclosed
  · rw [hstate] at hclosed
    rw [modify_closed hproper hclosed]
    exact Meets.pure fun w' hw' => hw' ▸ hw
  · have hdetached : Meets (· = w) (closeDetached o i)
        (fun _ => Settled (instances.modify i fun _ => detached))
        fun _ => Settled (instances.modify i fun _ => detached) :=
      (closeDetached_meets i).weaken (fun w' hw' => hw' ▸ hw) (fun _ _ h => h) fun _ _ h => h
    refine hdetached.bind fun failures => ?_
    cases failures with
    | nil => exact Meets.pure fun _ h => h
    | cons failure failures => exact settled_of_keeps (noteAndRaise_keeps _ _)

theorem proper_begin {i : Nat} (hproper : ∀ s ∈ instances, s.Proper)
    (hopen : (instances[i]?.getD detached).closed = false) :
    ∀ s ∈ instances.modify i fun s => { s with inTransaction := true }, s.Proper := by
  intro s hs
  obtain ⟨j, hj⟩ := List.mem_iff_getElem?.mp hs
  rw [List.getElem?_modify] at hj
  obtain ⟨s', hs', rfl⟩ := Option.map_eq_some_iff.mp hj
  have hs'' := hproper s' (List.mem_of_getElem? hs')
  split_ifs with hij
  · subst hij
    rw [hs', Option.getD_some] at hopen
    rcases hs'' with rfl | ⟨connection, databaseFd, inTransaction, rfl⟩
    · cases hopen
    · exact .inr ⟨connection, databaseFd, true, rfl⟩
  · exact hs''

/-- A transaction is opened on a live instance only. -/
theorem enterSnapshot_meets (i : Nat) (hproper : ∀ s ∈ instances, s.Proper) :
    Meets (Settled instances) (enterSnapshot o i)
      (fun _ w => (∀ s ∈ instances.modify i fun s => { s with inTransaction := true }, s.Proper) ∧
        Settled (instances.modify i fun s => { s with inTransaction := true }) w)
      fun _ => Settled instances := by
  have hlive : Meets (Settled instances) (requireOpen i)
      (fun _ w => (instances[i]?.getD detached).closed = false ∧ Settled instances w)
      fun _ => Settled instances := by
    refine Meets.bind_get fun w hw => ?_
    have hstate := state_eq (i := i) hw
    split_ifs with hclosed
    · exact Meets.throw fun w' hw' => hw' ▸ hw
    · refine Meets.pure fun w' hw' => ⟨?_, hw' ▸ hw⟩
      rw [← hstate]
      exact eq_false_of_ne_true hclosed
  refine hlive.bind fun _ => Meets.each fun w ⟨hopen, hw⟩ => ?_
  have hcall : Meets (· = w) (call o) (fun _ => Settled instances) fun _ => Settled instances :=
    (settled_of_keeps call_keeps).weaken (fun w' hw' => hw' ▸ hw) (fun _ _ h => h) fun _ _ h => h
  have howns : ∀ s : Instance, ({ s with inTransaction := true } : Instance).owns = s.owns :=
    fun _ => rfl
  have hput : Meets (Settled instances) (putState i fun s => { s with inTransaction := true })
      (fun _ => Settled (instances.modify i fun s => { s with inTransaction := true }))
      fun _ => Settled instances := putState_meets howns
  exact hcall.bind fun _ => hput.weaken (fun _ h => h)
    (fun _ _ h => ⟨proper_begin hproper hopen, h⟩) fun _ _ h => h

end

/-! ## Every run of a program -/

/-- Between two calls nothing is held besides, and a transaction is open only inside a
snapshot of its instance. -/
structure Sound (c : Config) : Prop where
  settled : Settled c.world.instances c.world
  proper : ∀ s ∈ c.world.instances, s.Proper
  inside (i : Nat) (s : Instance) (h : c.world.instances[i]? = some s)
    (hopen : s.inTransaction = true) : ∃ frame ∈ c.frames, frame.state = i

section
variable {o : Outcomes} {instances : List Instance} {frames : List Frame} {w : World}

theorem Settled.instances_eq (h : Settled instances w) : w.instances = instances :=
  h.elim fun _ h => h.instances

theorem Sound.of_settled {program : Program} (hsettled : Settled instances w)
    (hproper : ∀ s ∈ instances, s.Proper)
    (hinside : ∀ i s, instances[i]? = some s → s.inTransaction = true →
      ∃ frame ∈ frames, frame.state = i) : Sound ⟨program, frames, w⟩ := by
  have hinstances := hsettled.instances_eq
  subst hinstances
  exact ⟨hsettled, hproper, hinside⟩

/-- Leaving a snapshot idles its instance. -/
theorem Sound.of_quiet {program : Program} {frame : Frame} (hquiet : Quiet frame.state instances w)
    (hinside : ∀ i s, instances[i]? = some s → s.inTransaction = true →
      ∃ frame' ∈ frame :: frames, frame'.state = i) : Sound ⟨program, frames, w⟩ := by
  obtain ⟨after, hsettled, hidled⟩ := hquiet
  refine .of_settled hsettled hidled.proper fun i s hs hopen => ?_
  by_cases hi : i = frame.state
  · subst hi
    rw [hidled.idle s hs] at hopen
    cases hopen
  · rw [hidled.others i hi] at hs
    obtain ⟨frame', hframe, rfl⟩ := hinside i s hs hopen
    rcases List.mem_cons.mp hframe with rfl | hframe
    · exact absurd rfl hi
    · exact ⟨frame', hframe, rfl⟩

theorem openState_sound {program : Program} {next : Except Exn Nat → Program}
    (h : Sound ⟨program, frames, w⟩) : Sound (resume next ((openState o).start w) frames) := by
  have hended := openState_meets (o := o) w h.settled
  cases hend : (openState o).start w with
  | mk result w' =>
      rw [hend] at hended
      cases result with
      | error exc => exact .of_settled hended h.proper h.inside
      | ok i =>
          obtain ⟨_, connection, databaseFd, hsettled⟩ := hended
          refine .of_settled hsettled (fun s hs => ?_) fun j s hs hopen => ?_
          · rcases List.mem_append.mp hs with hs | hs
            · exact h.proper s hs
            · exact .inr ⟨connection, databaseFd, false, List.mem_singleton.mp hs⟩
          · rcases Nat.lt_or_ge j w.instances.length with hj | hj
            · rw [List.getElem?_append_left hj] at hs
              exact h.inside j s hs hopen
            · rw [List.getElem?_append_right hj] at hs
              rw [List.mem_singleton.mp (List.mem_of_getElem? hs)] at hopen
              cases hopen

theorem closeState_sound {program : Program} {i : Nat} {next : Except Exn Unit → Program}
    (h : Sound ⟨program, frames, w⟩) : Sound (resume next ((closeState o i).start w) frames) := by
  refine .of_settled ((closeState_meets i h.proper).leaves h.settled)
    (idled_detached i h.proper).proper fun j s hs hopen => ?_
  rw [List.getElem?_modify] at hs
  obtain ⟨s', hs', rfl⟩ := Option.map_eq_some_iff.mp hs
  split_ifs at hopen with hij
  · cases hopen
  · exact h.inside j s' hs' hopen

theorem enterSnapshot_sound {i : Nat} {body : Program} {next : Except Exn Unit → Program}
    (h : Sound ⟨.snapshot i body next, frames, w⟩) :
    Sound (step o ⟨.snapshot i body next, frames, w⟩) := by
  have hended := enterSnapshot_meets (o := o) i h.proper w h.settled
  dsimp only [step] at hended ⊢
  cases hend : (enterSnapshot o i).start w with
  | mk result w' =>
      rw [hend] at hended
      cases result with
      | error exc => exact .of_settled hended h.proper h.inside
      | ok _ =>
          refine .of_settled hended.2 hended.1 fun j s hs hopen => ?_
          by_cases hij : i = j
          · exact ⟨⟨i, next⟩, List.mem_cons_self, hij⟩
          · rw [List.getElem?_modify_ne _ _ hij] at hs
            obtain ⟨frame, hframe, hstate⟩ := h.inside j s hs hopen
            exact ⟨frame, List.mem_cons_of_mem _ hframe, hstate⟩

end

/-- One call keeps the account. -/
theorem step_sound (o : Outcomes) {c : Config} (h : Sound c) : Sound (step o c) := by
  obtain ⟨program, frames, w⟩ := c
  cases program with
  | done =>
      cases frames with
      | nil => exact h
      | cons frame frames =>
          exact .of_quiet ((leaveSnapshot_meets (o := o) frame.state h.proper).leaves h.settled)
            h.inside
  | throw exc =>
      cases frames with
      | nil => exact h
      | cons frame frames =>
          have hleft : Meets (Settled w.instances) (abandonSnapshot o frame.state exc)
              (fun _ => Quiet frame.state w.instances) fun _ => Quiet frame.state w.instances :=
            (abandonSnapshot_meets frame.state exc h.proper).weaken (fun _ h => h)
              (fun _ _ => False.elim) fun _ _ h => h.2
          exact .of_quiet (hleft.leaves h.settled) h.inside
  | openState next => exact openState_sound h
  | query i next =>
      exact .of_settled ((settled_of_keeps (query_keeps (o := o) i)).leaves h.settled) h.proper
        h.inside
  | close i next => exact closeState_sound h
  | snapshot i body next => exact enterSnapshot_sound h

theorem after_sound (o : Outcomes) (program : Program) (n : Nat) : Sound (after o program n) := by
  induction n with
  | zero =>
      refine ⟨⟨{}, fun _ => rfl, rfl, rfl⟩, (fun _ h => nomatch h), fun i s hs => ?_⟩
      cases hs
  | succ n ih => exact step_sound o ih

/-! ## What holds of every run -/

/-- What holds in `c`, from which the next call leads to `d`. -/
structure OwnedOnce (c d : Config) : Prop where
  /-- Every resource is owned by one instance, or its close was attempted once. -/
  once (r : Nat) (h : r < c.world.acquired) : c.world.attempts.count r + c.world.owned.count r = 1
  attempted : c.world.attempts.Nodup
  proper : ∀ s ∈ c.world.instances, s.Proper
  inside (i : Nat) (s : Instance) (h : c.world.instances[i]? = some s)
    (hopen : s.inTransaction = true) : ∃ frame ∈ c.frames, frame.state = i
  opened (next : Except Exn Nat → Program) (h : c.program = .openState next) :
    (∃ exc, d.program = next (.error exc) ∧ d.world.instances = c.world.instances ∧
      ∀ r, c.world.acquired ≤ r → r < d.world.acquired → d.world.attempts.count r = 1) ∨
    ∃ connection databaseFd, d.program = next (.ok c.world.instances.length) ∧
      d.world.instances =
        c.world.instances ++ [⟨some connection, some databaseFd, false, false⟩] ∧
      ∀ r, c.world.acquired ≤ r → r < d.world.acquired →
        d.world.attempts.count r = if r = connection ∨ r = databaseFd then 0 else 1
  closed (i : Nat) (next : Except Exn Unit → Program) (h : c.program = .close i next) :
    d.world.state i = detached
  raised (exc : Exn) (frame : Frame) (frames : List Frame) (h : c.program = .throw exc)
    (hframes : c.frames = frame :: frames) :
    d.program = frame.next (.error exc) ∧ d.frames = frames

section
variable {o : Outcomes} {c : Config}

theorem Sound.once (h : Sound c) (r : Nat) : c.world.attempts.count r + c.world.owned.count r =
    if r < c.world.acquired then 1 else 0 := h.settled.elim fun _ h => h.once r

theorem Sound.attempted (h : Sound c) : c.world.attempts.Nodup := by
  refine List.nodup_iff_count_le_one.mpr fun r => ?_
  have honce := h.once r
  split_ifs at honce <;> omega

/-- What was acquired since then is owned by the new instances alone. -/
theorem Sound.since {d : Config} {new : List Instance} (hc : Sound c) (hd : Sound d)
    (hinstances : d.world.instances = c.world.instances ++ new) (r : Nat)
    (hfrom : c.world.acquired ≤ r) (hto : r < d.world.acquired) :
    d.world.attempts.count r + (ownedBy new).count r = 1 := by
  have hbefore := hc.once r
  have hafter := hd.once r
  rw [World.owned, hinstances, ownedBy, List.flatMap_append, List.count_append,
    if_pos hto] at hafter
  rw [World.owned, if_neg (Nat.not_lt.mpr hfrom), ownedBy] at hbefore
  rw [ownedBy]
  omega

theorem step_opened (h : Sound c) (next : Except Exn Nat → Program)
    (hprogram : c.program = .openState next) :
    (∃ exc, (step o c).program = next (.error exc) ∧
      (step o c).world.instances = c.world.instances) ∨
    ∃ connection databaseFd, (step o c).program = next (.ok c.world.instances.length) ∧
      (step o c).world.instances =
        c.world.instances ++ [⟨some connection, some databaseFd, false, false⟩] := by
  obtain ⟨program, frames, w⟩ := c
  obtain rfl := hprogram
  have hended := openState_meets (o := o) w h.settled
  dsimp only [step, resume] at hended ⊢
  cases hend : (openState o).start w with
  | mk result w' =>
      rw [hend] at hended
      cases result with
      | error exc => exact .inl ⟨exc, rfl, Settled.instances_eq hended⟩
      | ok i =>
          obtain ⟨rfl, connection, databaseFd, hsettled⟩ := hended
          exact .inr ⟨connection, databaseFd, rfl, hsettled.instances_eq⟩

theorem step_closed (h : Sound c) (i : Nat) (next : Except Exn Unit → Program)
    (hprogram : c.program = .close i next) : (step o c).world.state i = detached := by
  obtain ⟨program, frames, w⟩ := c
  obtain rfl := hprogram
  have hsettled := (closeState_meets (o := o) i h.proper).leaves h.settled
  change ((closeState o i).start w).2.state i = detached
  rw [state_eq hsettled, List.getElem?_modify_eq]
  cases w.instances[i]? <;> rfl

/-- The exception of the body leaves the snapshot. -/
theorem step_raised (h : Sound c) (exc : Exn) (frame : Frame) (frames : List Frame)
    (hprogram : c.program = .throw exc) (hframes : c.frames = frame :: frames) :
    (step o c).program = frame.next (.error exc) ∧ (step o c).frames = frames := by
  obtain ⟨program, frames', w⟩ := c
  obtain rfl := hprogram
  obtain rfl := hframes
  have hended := abandonSnapshot_meets (o := o) frame.state exc h.proper w h.settled
  dsimp only [step, resume]
  cases hend : (abandonSnapshot o frame.state exc).start w with
  | mk result w' =>
      rw [hend] at hended
      cases result with
      | ok _ => exact False.elim hended
      | error exc' =>
          obtain ⟨rfl, _⟩ := hended
          exact ⟨rfl, rfl⟩

end

/-- Whatever is raised and wherever a program goes on from it, every resource is owned or
was closed once, and no transaction is left open. -/
theorem resources_owned_once (o : Outcomes) (program : Program) (n : Nat) :
    OwnedOnce (after o program n) (after o program (n + 1)) := by
  have hc := after_sound o program n
  have hd := after_sound o program (n + 1)
  refine ⟨fun r hr => ?_, hc.attempted, hc.proper, hc.inside, fun next hprogram => ?_,
    step_closed hc, step_raised hc⟩
  · rw [hc.once r, if_pos hr]
  · rcases step_opened hc next hprogram with ⟨exc, hnext, hinstances⟩ |
        ⟨connection, databaseFd, hnext, hinstances⟩
    · refine .inl ⟨exc, hnext, hinstances, fun r hfrom hto => ?_⟩
      exact hc.since hd (hinstances.trans (List.append_nil _).symm) r hfrom hto
    · refine .inr ⟨connection, databaseFd, hnext, hinstances, fun r hfrom hto => ?_⟩
      have honce := hc.since hd hinstances r hfrom hto
      have howned : (ownedBy [⟨some connection, some databaseFd, false, false⟩]).count r =
          [connection].count r + [databaseFd].count r := count_pair connection databaseFd r
      rw [howned, List.count_singleton, List.count_singleton] at honce
      simp only [beq_iff_eq] at honce
      split_ifs at honce ⊢ <;> omega

end DeliverySystem.ReadOnlyStates

import DeliverySystem.AttestationReference
import DeliverySystem.AttestationStoreContract
import DeliverySystem.PreviewEligibility
import Mathlib.Data.Finset.Insert
import Mathlib.Logic.Function.Basic

/-!
# Revalidation attempts

A boundary hands out attempts, each under an identity of its own, and takes one
event for each. The registry refers to an attempt weakly, so the attempt may be
gone while its identity and its event stay. A step here is one attribute that a
call reads, one region of the lock, or whatever else happens to the objects.
-/
namespace DeliverySystem.RevalidationAttempts
open PythonValues CanonicalValues JsonText AuthorityBindings AttestationClaims
open AttestationArtifacts AttestationRecords
set_option autoImplicit false

/-! ## Attempts and their registry -/

/-- The slots of an attempt object, which anyone can set again; `token` is that of a boundary. -/
structure RevalidationAttempt where
  attemptId : Option Value
  workspaceIdentity : Option Value
  artifactId : Option Value
  token : Option ℕ
deriving DecidableEq

/-- The properties in the order in which they are read. -/
def RevalidationAttempt.properties (a : RevalidationAttempt) : List (Option Value) :=
  [a.attemptId, a.workspaceIdentity, a.artifactId]

def boundaryMismatch : Raised := .valueError "attestation_attempt_boundary_mismatch"

def attemptTampered : Raised := .valueError "attestation_attempt_tampered"

def entropyUnavailable : Raised := .valueError "attestation_attempt_entropy_unavailable"

def idCollision : Raised := .valueError "attestation_attempt_id_collision"

def eventConflict : Raised := .valueError "attestation_revalidation_event_conflict"

/-- `bytes.hex()` -/
def hexBytes (bytes : List UInt8) : String :=
  String.ofList (bytes.flatMap fun b => [hexDigit (b.toNat / 16), hexDigit (b.toNat % 16)])

/-- The identity that the entropy source supplies; `none` where it raised or gave no bytes. -/
def attemptIdOf : Option (List UInt8) → Py String
  | some bytes => do
      require (bytes.length = 16) entropyUnavailable
      pure ("attempt-" ++ hexBytes bytes)
  | none => .error entropyUnavailable

section
variable [PythonLibrary] [UnicodeLibrary] [ZonedTimeLibrary]

abbrev EventSnapshot := EventFields

/-- What the registry keeps of an attempt: a weak reference, the workspace and the artifact, and
the event with its digest and its snapshot once there is one. -/
structure AttemptEntry where
  attempt : ℕ
  fields : String × String
  registered : Option (String × AttestationRevalidationEvent × EventSnapshot)

structure RevalidationAttemptBoundary where
  token : ℕ
  attempts : String → Option AttemptEntry
  attemptTombstones : Finset String

abbrev Objects := ℕ → Option RevalidationAttempt

/-- `entry[0]() is attempt` -/
def AttemptEntry.refersTo (entry : AttemptEntry) (objects : Objects) (attempt : ℕ) : Prop :=
  entry.attempt = attempt ∧ (objects attempt).isSome

instance (entry : AttemptEntry) (objects : Objects) (attempt : ℕ) :
    Decidable (entry.refersTo objects attempt) := inferInstanceAs (Decidable (_ ∧ _))

/-- `create_attempt`, up to its lock. -/
def attemptFields (workspaceIdentity artifactId : Value) (entropy : Option (List UInt8)) :
    Py (String × String × String) := do
  let workspace ← persistedText workspaceIdentity
  let artifact ← exactText artifactId (hexPattern "artifact-")
  let attemptId ← attemptIdOf entropy
  pure (attemptId, workspace, artifact)

/-- `create_attempt`, in its lock; the new object is at `attempt`. -/
def RevalidationAttemptBoundary.create (b : RevalidationAttemptBoundary) (attempt : ℕ)
    (fields : String × String × String) : Py RevalidationAttemptBoundary := do
  require (fields.1 ∉ b.attemptTombstones) idCollision
  pure
    { b with
      attemptTombstones := insert fields.1 b.attemptTombstones
      attempts := Function.update b.attempts fields.1 (some ⟨attempt, fields.2, none⟩) }

/-- The object that `create_attempt` makes. -/
def RevalidationAttemptBoundary.instantiate (b : RevalidationAttemptBoundary)
    (fields : String × String × String) : RevalidationAttempt :=
  ⟨some (.str fields.1), some (.str fields.2.1), some (.str fields.2.2), some b.token⟩

/-- `_owned`, what follows the reading of the three properties. -/
def RevalidationAttemptBoundary.owned (b : RevalidationAttemptBoundary) (objects : Objects)
    (attempt : ℕ) (attemptId workspaceIdentity artifactId : Value) :
    Py (String × String × String) := do
  let checkedAttemptId ← guarded (exactText attemptId attemptPattern) attemptTampered
  let checkedWorkspace ← guarded (persistedText workspaceIdentity) attemptTampered
  let checkedArtifact ← guarded (exactText artifactId (hexPattern "artifact-")) attemptTampered
  require (Value.str checkedAttemptId = attemptId ∧ Value.str checkedWorkspace = workspaceIdentity ∧
    Value.str checkedArtifact = artifactId) attemptTampered
  let entry ← orRaise (b.attempts checkedAttemptId) boundaryMismatch
  require (entry.refersTo objects attempt ∧
    (objects attempt).bind RevalidationAttempt.token = some b.token) boundaryMismatch
  require (entry.fields = (checkedWorkspace, checkedArtifact)) attemptTampered
  pure (checkedAttemptId, checkedWorkspace, checkedArtifact)

/-- `_event_snapshot` -/
def eventSnapshot (e : AttestationRevalidationEvent) : Py EventSnapshot := do
  let normalized ← e.again
  pure normalized.toEventFields

/-- `finalize`, in its second region of the lock. -/
def RevalidationAttemptBoundary.register (b : RevalidationAttemptBoundary) (objects : Objects)
    (attempt : ℕ) (attemptId : String) (normalized : AttestationRevalidationEvent) :
    Py (AttestationRevalidationEvent × RevalidationAttemptBoundary) := do
  let entry ← orRaise (b.attempts attemptId) boundaryMismatch
  require (entry.refersTo objects attempt) boundaryMismatch
  match entry.registered with
  | none => do
      let snapshot ← eventSnapshot normalized
      pure (normalized,
        { b with
          attempts := Function.update b.attempts attemptId
            (some { entry with
              registered := some (normalized.eventPayloadDigest, normalized, snapshot) }) })
  | some (currentDigest, registered, snapshot) => do
      let registeredSnapshot ← guarded (eventSnapshot registered) payloadInvalid
      require (registeredSnapshot = snapshot) payloadInvalid
      require (currentDigest = normalized.eventPayloadDigest) eventConflict
      pure (registered, b)

/-- `finalize`, what follows `_owned`, with the event as it was read. -/
def RevalidationAttemptBoundary.finalize (b : RevalidationAttemptBoundary) (objects : Objects)
    (attempt : ℕ) (fields : String × String × String)
    (e : Supplied AttestationRevalidationEvent) :
    Py (AttestationRevalidationEvent × AttestationRevalidationEvent ×
      RevalidationAttemptBoundary) := do
  let normalized ← readEvent e
  require (normalized.revalidationAttemptId = fields.1 ∧
    normalized.workspaceIdentity = fields.2.1 ∧ normalized.artifactId = fields.2.2)
    boundaryMismatch
  let result ← b.register objects attempt fields.1 normalized
  pure (normalized, result)

/-! ## Calls of any threads -/

/-- What a call that reads an attempt is about: `owns`, or `finalize` with an event. -/
inductive Purpose where
  | owns
  | finalize (e : Supplied AttestationRevalidationEvent)

/-- Where the call of a thread stands. -/
inductive Pending where
  /-- About to enter the lock of `create_attempt`. -/
  | creating (fields : String × String × String)
  /-- Reading the properties of an attempt. -/
  | reading (attempt : ℕ) (purpose : Purpose) (read : List Value)
  /-- Out of the first region of `finalize`. -/
  | owned (attempt : ℕ) (fields : String × String × String)
      (e : Supplied AttestationRevalidationEvent)

/-- What comes of a step. -/
inductive Happened where
  | nothing
  | raised (e : Raised)
  | created (attempt : ℕ) (fields : String × String × String)
  | answered (attempt : ℕ) (read : List Value) (owns : Bool)
  | finalized (attempt : ℕ) (fields : String × String × String)
      (given returned : AttestationRevalidationEvent)

structure State where
  boundary : RevalidationAttemptBoundary
  objects : Objects
  /-- Every object so far is below it. -/
  allocated : ℕ
  pending : ℕ → Option Pending

def State.goesOn (s : State) (thread : ℕ) (pending : Option Pending) : State :=
  { s with pending := Function.update s.pending thread pending }

/-- How a call that raises ends. -/
def Purpose.refused (attempt : ℕ) (read : List Value) (e : Raised) : Purpose → Happened
  | .owns => .answered attempt read false
  | .finalize _ => .raised e

inductive Step (s : State) : Happened → State → Prop where
  | creates {thread : ℕ} {workspaceIdentity artifactId : Value} {entropy : Option (List UInt8)}
      {fields : String × String × String} : s.pending thread = none →
      attemptFields workspaceIdentity artifactId entropy = .ok fields →
      Step s .nothing (s.goesOn thread (some (.creating fields)))
  | createFailed {thread : ℕ} {workspaceIdentity artifactId : Value}
      {entropy : Option (List UInt8)} {e : Raised} : s.pending thread = none →
      attemptFields workspaceIdentity artifactId entropy = .error e → Step s (.raised e) s
  | created {thread : ℕ} {fields : String × String × String}
      {boundary : RevalidationAttemptBoundary} : s.pending thread = some (.creating fields) →
      s.boundary.create s.allocated fields = .ok boundary →
      Step s (.created s.allocated fields)
        { s.goesOn thread none with
          boundary
          objects := Function.update s.objects s.allocated (some (boundary.instantiate fields))
          allocated := s.allocated + 1 }
  | collided {thread : ℕ} {fields : String × String × String} {e : Raised} :
      s.pending thread = some (.creating fields) →
      s.boundary.create s.allocated fields = .error e →
      Step s (.raised e) (s.goesOn thread none)
  | begins {thread attempt : ℕ} {purpose : Purpose} : s.pending thread = none →
      Step s .nothing (s.goesOn thread (some (.reading attempt purpose [])))
  /-- An argument that is no attempt object. -/
  | foreign {attempt : ℕ} {purpose : Purpose} :
      Step s (purpose.refused attempt [] boundaryMismatch) s
  | reads {thread attempt : ℕ} {purpose : Purpose} {read : List Value} {a : RevalidationAttempt}
      {value : Value} : s.pending thread = some (.reading attempt purpose read) →
      s.objects attempt = some a → a.properties[read.length]? = some (some value) →
      Step s .nothing (s.goesOn thread (some (.reading attempt purpose (read ++ [value]))))
  | unreadable {thread attempt : ℕ} {purpose : Purpose} {read : List Value}
      {a : RevalidationAttempt} : s.pending thread = some (.reading attempt purpose read) →
      s.objects attempt = some a → a.properties[read.length]? = some none →
      Step s (purpose.refused attempt read attemptTampered) (s.goesOn thread none)
  | refused {thread attempt : ℕ} {purpose : Purpose} {attemptId workspace artifact : Value}
      {e : Raised} :
      s.pending thread = some (.reading attempt purpose [attemptId, workspace, artifact]) →
      s.boundary.owned s.objects attempt attemptId workspace artifact = .error e →
      Step s (purpose.refused attempt [attemptId, workspace, artifact] e) (s.goesOn thread none)
  | owns {thread attempt : ℕ} {attemptId workspace artifact : Value}
      {fields : String × String × String} :
      s.pending thread = some (.reading attempt .owns [attemptId, workspace, artifact]) →
      s.boundary.owned s.objects attempt attemptId workspace artifact = .ok fields →
      Step s (.answered attempt [attemptId, workspace, artifact] true) (s.goesOn thread none)
  | owned {thread attempt : ℕ} {e : Supplied AttestationRevalidationEvent}
      {attemptId workspace artifact : Value} {fields : String × String × String} :
      s.pending thread = some (.reading attempt (.finalize e) [attemptId, workspace, artifact]) →
      s.boundary.owned s.objects attempt attemptId workspace artifact = .ok fields →
      Step s .nothing (s.goesOn thread (some (.owned attempt fields e)))
  | finalized {thread attempt : ℕ} {e : Supplied AttestationRevalidationEvent}
      {fields : String × String × String} {given returned : AttestationRevalidationEvent}
      {boundary : RevalidationAttemptBoundary} :
      s.pending thread = some (.owned attempt fields e) →
      s.boundary.finalize s.objects attempt fields e = .ok (given, returned, boundary) →
      Step s (.finalized attempt fields given returned) { s.goesOn thread none with boundary }
  | notFinalized {thread attempt : ℕ} {e : Supplied AttestationRevalidationEvent}
      {fields : String × String × String} {raised : Raised} :
      s.pending thread = some (.owned attempt fields e) →
      s.boundary.finalize s.objects attempt fields e = .error raised →
      Step s (.raised raised) (s.goesOn thread none)
  /-- An object that no call of this boundary made: a forgery, or one of another boundary. -/
  | other {a : RevalidationAttempt} :
      Step s .nothing
        { s with
          objects := Function.update s.objects s.allocated (some a)
          allocated := s.allocated + 1 }
  /-- The slots of an object are set again. -/
  | tampers {attempt : ℕ} {a a' : RevalidationAttempt} : s.objects attempt = some a →
      Step s .nothing { s with objects := Function.update s.objects attempt (some a') }
  /-- An object is collected; it need not be one that no call holds. -/
  | collects {attempt : ℕ} :
      Step s .nothing { s with objects := Function.update s.objects attempt none }

/-- Any number of steps through states of this kind, and what came of them, the last first. -/
inductive Run (during : State → Prop) (s : State) : List Happened → State → Prop where
  | start : during s → Run during s [] s
  | step {happened : List Happened} {next : Happened} {t u : State} :
      Run during s happened t → Step t next u → during u → Run during s (next :: happened) u

/-- A boundary that was just constructed, among any objects. -/
structure Started (s : State) : Prop where
  attempts : ∀ attemptId, s.boundary.attempts attemptId = none
  tombstones : s.boundary.attemptTombstones = ∅
  objects : ∀ attempt, s.allocated ≤ attempt → s.objects attempt = none
  pending : ∀ thread, s.pending thread = none

/-! ## What a step does to the registry -/

/-- The registry has this attempt under these fields. -/
def Holds (b : RevalidationAttemptBoundary) (attempt : ℕ) (fields : String × String × String) :
    Prop :=
  ∃ entry, b.attempts fields.1 = some entry ∧ entry.attempt = attempt ∧ entry.fields = fields.2

/-- Entries stay, and so do the events that they have. -/
def Keeps (b b' : RevalidationAttemptBoundary) : Prop :=
  ∀ attemptId entry, b.attempts attemptId = some entry → ∃ entry',
    b'.attempts attemptId = some entry' ∧ entry'.attempt = entry.attempt ∧
      entry'.fields = entry.fields ∧ ∀ r, entry.registered = some r → entry'.registered = some r

theorem Keeps.refl (b : RevalidationAttemptBoundary) : Keeps b b :=
  fun _ entry h => ⟨entry, h, rfl, rfl, fun _ => id⟩

theorem Keeps.trans {b b' b'' : RevalidationAttemptBoundary} (h : Keeps b b') (h' : Keeps b' b'') :
    Keeps b b'' := by
  intro attemptId entry hentry
  obtain ⟨entry', hentry', hattempt, hfields, hregistered⟩ := h attemptId entry hentry
  obtain ⟨entry'', hentry'', hattempt', hfields', hregistered'⟩ := h' attemptId entry' hentry'
  exact ⟨entry'', hentry'', hattempt'.trans hattempt, hfields'.trans hfields,
    fun r hr => hregistered' r (hregistered r hr)⟩

theorem Keeps.holds {b b' : RevalidationAttemptBoundary} (h : Keeps b b') {attempt : ℕ}
    {fields : String × String × String} : Holds b attempt fields → Holds b' attempt fields := by
  rintro ⟨entry, hentry, rfl, hfields⟩
  obtain ⟨entry', hentry', hattempt, hsame, -⟩ := h fields.1 entry hentry
  exact ⟨entry', hentry', hattempt, hsame.trans hfields⟩

theorem create_eq_ok {b b' : RevalidationAttemptBoundary} {attempt : ℕ}
    {fields : String × String × String} (h : b.create attempt fields = .ok b') :
    fields.1 ∉ b.attemptTombstones ∧ b' = { b with
      attemptTombstones := insert fields.1 b.attemptTombstones
      attempts := Function.update b.attempts fields.1 (some ⟨attempt, fields.2, none⟩) } := by
  simp only [RevalidationAttemptBoundary.create, bind_eq_ok, require_eq_ok, pure_eq_ok] at h
  obtain ⟨_, hfresh, rfl⟩ := h
  exact ⟨hfresh, rfl⟩

theorem owned_eq_ok {b : RevalidationAttemptBoundary} {objects : Objects} {attempt : ℕ}
    {attemptId workspace artifact : Value} {fields : String × String × String}
    (h : b.owned objects attempt attemptId workspace artifact = .ok fields) :
    [attemptId, workspace, artifact] = [.str fields.1, .str fields.2.1, .str fields.2.2] ∧
      Holds b attempt fields := by
  simp only [RevalidationAttemptBoundary.owned, bind_eq_ok, orRaise_eq_ok, require_eq_ok,
    pure_eq_ok] at h
  obtain ⟨checkedId, -, checkedWorkspace, -, checkedArtifact, -, _, ⟨rfl, rfl, rfl⟩, entry, hentry,
    _, ⟨hrefers, -⟩, _, hfields, rfl⟩ := h
  exact ⟨rfl, entry, hentry, hrefers.1, hfields⟩

/-- A finalize registers its event where there is none, and otherwise answers the registered
one, which has its digest. -/
theorem finalize_eq_ok {b b' : RevalidationAttemptBoundary} {objects : Objects} {attempt : ℕ}
    {fields : String × String × String} {e : Supplied AttestationRevalidationEvent}
    {given returned : AttestationRevalidationEvent}
    (h : b.finalize objects attempt fields e = .ok (given, returned, b')) :
    (given.revalidationAttemptId = fields.1 ∧ given.workspaceIdentity = fields.2.1 ∧
      given.artifactId = fields.2.2) ∧
    ∃ entry, b.attempts fields.1 = some entry ∧ entry.attempt = attempt ∧
      ((entry.registered = none ∧ returned = given ∧ ∃ snapshot, b' =
          { b with
            attempts := Function.update b.attempts fields.1
              (some { entry with
                registered := some (given.eventPayloadDigest, given, snapshot) }) }) ∨
        (b' = b ∧ ∃ snapshot,
          entry.registered = some (given.eventPayloadDigest, returned, snapshot))) := by
  simp only [RevalidationAttemptBoundary.finalize, RevalidationAttemptBoundary.register,
    bind_eq_ok, orRaise_eq_ok, require_eq_ok, pure_eq_ok] at h
  obtain ⟨normalized, -, _, hnames, result, ⟨entry, hentry, _, hrefers, hresult⟩, heq⟩ := h
  obtain ⟨rfl, rfl⟩ := Prod.mk.inj heq
  refine ⟨hnames, entry, hentry, hrefers.1, ?_⟩
  cases hregistered : entry.registered with
  | none =>
      rw [hregistered] at hresult
      simp only [bind_eq_ok, pure_eq_ok] at hresult
      obtain ⟨snapshot, -, hmade⟩ := hresult
      obtain ⟨rfl, rfl⟩ := Prod.mk.inj hmade
      exact .inl ⟨rfl, rfl, snapshot, rfl⟩
  | some r =>
      obtain ⟨currentDigest, registered, snapshot⟩ := r
      rw [hregistered] at hresult
      simp only [bind_eq_ok, require_eq_ok, pure_eq_ok] at hresult
      obtain ⟨_, -, _, -, _, rfl, hmade⟩ := hresult
      obtain ⟨rfl, rfl⟩ := Prod.mk.inj hmade
      exact .inr ⟨rfl, snapshot, rfl⟩

/-- What comes of a step that leaves the registry alone. -/
def Happened.Plain (b : RevalidationAttemptBoundary) : Happened → Prop
  | .nothing | .raised _ | .answered _ _ false => True
  | .created .. | .finalized .. => False
  | .answered attempt read true =>
      ∃ fields, read = [.str fields.1, .str fields.2.1, .str fields.2.2] ∧ Holds b attempt fields

theorem Purpose.refused_plain (b : RevalidationAttemptBoundary) (attempt : ℕ) (read : List Value)
    (e : Raised) (purpose : Purpose) : (purpose.refused attempt read e).Plain b := by
  cases purpose <;> exact trivial

/-- A thread is out of the first region of `finalize` with these fields. -/
def Owned (s : State) (attempt : ℕ) (fields : String × String × String) : Prop :=
  ∃ thread e, s.pending thread = some (.owned attempt fields e)

theorem owned_goesOn {s : State} {thread attempt : ℕ} {pending : Option Pending}
    {fields : String × String × String} (h : Owned (s.goesOn thread pending) attempt fields) :
    Owned s attempt fields ∨ ∃ e, pending = some (.owned attempt fields e) := by
  obtain ⟨other, e, hother⟩ := h
  by_cases hsame : other = thread
  · subst hsame
    refine .inr ⟨e, ?_⟩
    simpa [State.goesOn] using hother
  · refine .inl ⟨other, e, ?_⟩
    simpa [State.goesOn, Function.update_of_ne hsame] using hother

/-- Everything that a step does to the registry. -/
structure Effect (s : State) (next : Happened) (s' : State) : Prop where
  allocated : s.allocated ≤ s'.allocated
  owned : ∀ attempt fields, Owned s' attempt fields →
    Owned s attempt fields ∨ Holds s.boundary attempt fields
  registry : (s'.boundary = s.boundary ∧ next.Plain s.boundary) ∨
    (∃ fields, next = .created s.allocated fields ∧ s.allocated < s'.allocated ∧
      s.boundary.create s.allocated fields = .ok s'.boundary) ∨
    ∃ attempt fields e given returned, next = .finalized attempt fields given returned ∧
      Owned s attempt fields ∧
      s.boundary.finalize s.objects attempt fields e = .ok (given, returned, s'.boundary)

theorem Step.effect {s s' : State} {next : Happened} (h : Step s next s') : Effect s next s' := by
  have hleft : ∀ thread attempt fields, Owned (s.goesOn thread none) attempt fields →
      Owned s attempt fields ∨ Holds s.boundary attempt fields := by
    intro thread attempt fields howned
    refine (owned_goesOn howned).imp_right ?_
    rintro ⟨e, he⟩
    cases he
  cases h with
  | creates hidle hfields =>
      refine ⟨le_refl _, fun attempt fields howned => ?_, .inl ⟨rfl, trivial⟩⟩
      refine (owned_goesOn howned).imp_right ?_
      rintro ⟨e, he⟩
      cases he
  | createFailed hidle hfields =>
      exact ⟨le_refl _, fun _ _ => .inl, .inl ⟨rfl, trivial⟩⟩
  | @created thread fields boundary hpending hcreate =>
      exact ⟨Nat.le_succ _, fun attempt fields howned => hleft thread attempt fields howned,
        .inr (.inl ⟨fields, rfl, Nat.lt_succ_self _, hcreate⟩)⟩
  | collided hpending hcreate =>
      exact ⟨le_refl _, fun attempt fields => hleft _ attempt fields, .inl ⟨rfl, trivial⟩⟩
  | begins hidle =>
      refine ⟨le_refl _, fun attempt fields howned => ?_, .inl ⟨rfl, trivial⟩⟩
      refine (owned_goesOn howned).imp_right ?_
      rintro ⟨e, he⟩
      cases he
  | foreign =>
      exact ⟨le_refl _, fun _ _ => .inl, .inl ⟨rfl, Purpose.refused_plain _ _ _ _ _⟩⟩
  | reads hpending hobject hread =>
      refine ⟨le_refl _, fun attempt fields howned => ?_, .inl ⟨rfl, trivial⟩⟩
      refine (owned_goesOn howned).imp_right ?_
      rintro ⟨e, he⟩
      cases he
  | unreadable hpending hobject hread =>
      exact ⟨le_refl _, fun attempt fields => hleft _ attempt fields,
        .inl ⟨rfl, Purpose.refused_plain _ _ _ _ _⟩⟩
  | refused hpending howned =>
      exact ⟨le_refl _, fun attempt fields => hleft _ attempt fields,
        .inl ⟨rfl, Purpose.refused_plain _ _ _ _ _⟩⟩
  | @owns thread attempt attemptId workspace artifact fields hpending howned =>
      obtain ⟨hread, hholds⟩ := owned_eq_ok howned
      exact ⟨le_refl _, fun attempt fields => hleft _ attempt fields,
        .inl ⟨rfl, fields, hread, hholds⟩⟩
  | @owned thread attempt e attemptId workspace artifact fields hpending howned =>
      refine ⟨le_refl _, fun other fields' howned' => ?_, .inl ⟨rfl, trivial⟩⟩
      refine (owned_goesOn howned').imp_right ?_
      rintro ⟨e', he'⟩
      cases he'
      exact (owned_eq_ok howned).2
  | @finalized thread attempt e fields given returned boundary hpending hfinalize =>
      exact ⟨le_refl _, fun other fields' howned => hleft thread other fields' howned,
        .inr (.inr ⟨attempt, fields, e, given, returned, rfl, ⟨thread, e, hpending⟩, hfinalize⟩)⟩
  | notFinalized hpending hfinalize =>
      exact ⟨le_refl _, fun attempt fields => hleft _ attempt fields, .inl ⟨rfl, trivial⟩⟩
  | other => exact ⟨Nat.le_succ _, fun _ _ => .inl, .inl ⟨rfl, trivial⟩⟩
  | tampers hobject => exact ⟨le_refl _, fun _ _ => .inl, .inl ⟨rfl, trivial⟩⟩
  | collects => exact ⟨le_refl _, fun _ _ => .inl, .inl ⟨rfl, trivial⟩⟩

/-! ## The invariant -/

/-- The identities that were handed out. -/
def createdIds (happened : List Happened) : List String :=
  happened.filterMap fun
    | .created _ fields => some fields.1
    | _ => none

/-- What the registry and the calls say, given everything that happened. -/
structure Invariant (s : State) (happened : List Happened) : Prop where
  tombstones : ∀ attemptId entry, s.boundary.attempts attemptId = some entry →
    attemptId ∈ s.boundary.attemptTombstones
  handedOut : ∀ attemptId ∈ createdIds happened, attemptId ∈ s.boundary.attemptTombstones
  distinctIds : (createdIds happened).Nodup
  allocated : ∀ attemptId entry, s.boundary.attempts attemptId = some entry →
    entry.attempt < s.allocated
  oneEntry : ∀ attemptId attemptId' entry entry', s.boundary.attempts attemptId = some entry →
    s.boundary.attempts attemptId' = some entry' → entry.attempt = entry'.attempt →
      attemptId = attemptId'
  created : ∀ attempt fields, .created attempt fields ∈ happened ↔
    Holds s.boundary attempt fields
  registered : ∀ attemptId entry digest e snapshot, s.boundary.attempts attemptId = some entry →
    entry.registered = some (digest, e, snapshot) → digest = e.eventPayloadDigest ∧
      e.revalidationAttemptId = attemptId ∧ e.workspaceIdentity = entry.fields.1 ∧
      e.artifactId = entry.fields.2
  owned : ∀ attempt fields, Owned s attempt fields → Holds s.boundary attempt fields
  finalized : ∀ attempt fields given returned,
    .finalized attempt fields given returned ∈ happened →
      Holds s.boundary attempt fields ∧ given.eventPayloadDigest = returned.eventPayloadDigest ∧
      ∃ entry digest snapshot, s.boundary.attempts fields.1 = some entry ∧
        entry.registered = some (digest, returned, snapshot)
  answered : ∀ attempt read, .answered attempt read true ∈ happened → ∃ fields,
    read = [.str fields.1, .str fields.2.1, .str fields.2.2] ∧ Holds s.boundary attempt fields

theorem Started.invariant {s : State} (h : Started s) : Invariant s [] where
  tombstones attemptId entry hentry := by rw [h.attempts] at hentry; cases hentry
  handedOut attemptId hmem := by cases hmem
  distinctIds := List.nodup_nil
  allocated attemptId entry hentry := by rw [h.attempts] at hentry; cases hentry
  oneEntry attemptId _ entry _ hentry := by rw [h.attempts] at hentry; cases hentry
  created attempt fields := by
    refine ⟨fun hmem => (List.not_mem_nil hmem).elim, ?_⟩
    rintro ⟨entry, hentry, -⟩
    rw [h.attempts] at hentry
    cases hentry
  registered attemptId entry _ _ _ hentry := by rw [h.attempts] at hentry; cases hentry
  owned attempt fields howned := by
    obtain ⟨thread, e, hthread⟩ := howned
    rw [h.pending] at hthread
    cases hthread
  finalized _ _ _ _ hmem := (List.not_mem_nil hmem).elim
  answered _ _ hmem := (List.not_mem_nil hmem).elim

/-- A step with nothing to tell of the registry keeps the invariant. -/
theorem Invariant.plain {s s' : State} {happened : List Happened} {next : Happened}
    (h : Invariant s happened) (heffect : Effect s next s') (hsame : s'.boundary = s.boundary)
    (hplain : next.Plain s.boundary) : Invariant s' (next :: happened) := by
  have hids : createdIds (next :: happened) = createdIds happened := by
    cases next with
    | created => exact hplain.elim
    | _ => rfl
  constructor
  · rw [hsame]
    exact h.tombstones
  · rw [hsame, hids]
    exact h.handedOut
  · rw [hids]
    exact h.distinctIds
  · rw [hsame]
    exact fun attemptId entry hentry =>
      lt_of_lt_of_le (h.allocated attemptId entry hentry) heffect.allocated
  · rw [hsame]
    exact h.oneEntry
  · intro attempt fields
    rw [hsame, ← h.created, List.mem_cons, or_iff_right]
    rintro rfl
    exact hplain
  · rw [hsame]
    exact h.registered
  · intro attempt fields howned
    rw [hsame]
    exact (heffect.owned attempt fields howned).elim (h.owned attempt fields) id
  · intro attempt fields given returned hmem
    rw [hsame]
    rcases List.mem_cons.mp hmem with rfl | hmem
    · exact hplain.elim
    · exact h.finalized attempt fields given returned hmem
  · intro attempt read hmem
    rw [hsame]
    rcases List.mem_cons.mp hmem with rfl | hmem
    · exact hplain
    · exact h.answered attempt read hmem

/-- A new attempt has a new identity and a new object. -/
theorem Invariant.create {s s' : State} {happened : List Happened}
    {fields : String × String × String} (h : Invariant s happened)
    (heffect : Effect s (.created s.allocated fields) s') (hallocated : s.allocated < s'.allocated)
    (hcreate : s.boundary.create s.allocated fields = .ok s'.boundary) :
    Keeps s.boundary s'.boundary ∧ Invariant s' (.created s.allocated fields :: happened) := by
  obtain ⟨hfresh, hboundary⟩ := create_eq_ok hcreate
  have hnew : s.boundary.attempts fields.1 = none := by
    cases hentry : s.boundary.attempts fields.1 with
    | none => rfl
    | some entry => exact absurd (h.tombstones _ _ hentry) hfresh
  have hlookup : ∀ attemptId entry, s'.boundary.attempts attemptId = some entry ↔
      (attemptId = fields.1 ∧ entry = ⟨s.allocated, fields.2, none⟩) ∨
        s.boundary.attempts attemptId = some entry := by
    intro attemptId entry
    rw [hboundary]
    by_cases hid : attemptId = fields.1
    · subst hid
      simp [hnew, eq_comm]
    · simp [hid]
  have hkeeps : Keeps s.boundary s'.boundary := fun attemptId entry hentry =>
    ⟨entry, (hlookup _ _).mpr (.inr hentry), rfl, rfl, fun _ => id⟩
  have htombstones : s'.boundary.attemptTombstones =
      insert fields.1 s.boundary.attemptTombstones := by rw [hboundary]
  refine ⟨hkeeps, ?_⟩
  constructor
  · intro attemptId entry hentry
    rw [htombstones, Finset.mem_insert]
    rcases (hlookup _ _).mp hentry with ⟨hid, -⟩ | hentry
    · exact .inl hid
    · exact .inr (h.tombstones _ _ hentry)
  · intro attemptId hmem
    rw [htombstones, Finset.mem_insert]
    rcases List.mem_cons.mp hmem with hid | hmem
    · exact .inl hid
    · exact .inr (h.handedOut _ hmem)
  · exact List.nodup_cons.mpr ⟨fun hmem => hfresh (h.handedOut _ hmem), h.distinctIds⟩
  · intro attemptId entry hentry
    rcases (hlookup _ _).mp hentry with ⟨-, rfl⟩ | hentry
    · exact hallocated
    · exact (h.allocated _ _ hentry).trans hallocated
  · intro attemptId attemptId' entry entry' hentry hentry' hsame
    rcases (hlookup _ _).mp hentry with ⟨rfl, rfl⟩ | hold
    · rcases (hlookup _ _).mp hentry' with ⟨rfl, -⟩ | hold'
      · rfl
      · exact absurd hsame (h.allocated _ _ hold').ne'
    · rcases (hlookup _ _).mp hentry' with ⟨rfl, rfl⟩ | hold'
      · exact absurd hsame (h.allocated _ _ hold).ne
      · exact h.oneEntry _ _ _ _ hold hold' hsame
  · intro attempt fields'
    rw [List.mem_cons, h.created]
    constructor
    · rintro (heq | hholds)
      · cases heq
        exact ⟨_, (hlookup _ _).mpr (.inl ⟨rfl, rfl⟩), rfl, rfl⟩
      · exact hkeeps.holds hholds
    · rintro ⟨entry, hentry, rfl, hfields⟩
      rcases (hlookup _ _).mp hentry with ⟨hid, rfl⟩ | hentry
      · exact .inl (by rw [show fields' = fields from Prod.ext hid hfields.symm])
      · exact .inr ⟨entry, hentry, rfl, hfields⟩
  · intro attemptId entry digest e snapshot hentry hregistered
    rcases (hlookup _ _).mp hentry with ⟨-, rfl⟩ | hentry
    · cases hregistered
    · exact h.registered _ _ _ _ _ hentry hregistered
  · intro attempt fields' howned
    exact hkeeps.holds ((heffect.owned attempt fields' howned).elim (h.owned attempt fields') id)
  · intro attempt fields' given returned hmem
    rcases List.mem_cons.mp hmem with heq | hmem
    · cases heq
    · obtain ⟨hholds, hdigest, entry, digest, snapshot, hentry, hregistered⟩ :=
        h.finalized attempt fields' given returned hmem
      exact ⟨hkeeps.holds hholds, hdigest, entry, digest, snapshot,
        (hlookup _ _).mpr (.inr hentry), hregistered⟩
  · intro attempt read hmem
    rcases List.mem_cons.mp hmem with heq | hmem
    · cases heq
    · obtain ⟨fields', hread, hholds⟩ := h.answered attempt read hmem
      exact ⟨fields', hread, hkeeps.holds hholds⟩

/-- An entry is given its event. -/
theorem keeps_registered {b : RevalidationAttemptBoundary} {attemptId : String}
    {entry : AttemptEntry} {r : String × AttestationRevalidationEvent × EventSnapshot}
    (hentry : b.attempts attemptId = some entry) (hnone : entry.registered = none) :
    Keeps b { b with
      attempts := Function.update b.attempts attemptId
        (some { entry with registered := some r }) } := by
  intro other found hfound
  by_cases hid : other = attemptId
  · subst hid
    obtain rfl : entry = found := Option.some.inj (hentry.symm.trans hfound)
    refine ⟨{ entry with registered := some r }, by simp, rfl, rfl, fun r' hr' => ?_⟩
    rw [hnone] at hr'
    cases hr'
  · exact ⟨found, by simpa [hid] using hfound, rfl, rfl, fun _ => id⟩

/-- A finalize answers the one event of its attempt. -/
theorem Invariant.finalize {s s' : State} {happened : List Happened} {attempt : ℕ}
    {fields : String × String × String} {e : Supplied AttestationRevalidationEvent}
    {given returned : AttestationRevalidationEvent} (h : Invariant s happened)
    (heffect : Effect s (.finalized attempt fields given returned) s')
    (howned : Owned s attempt fields)
    (hfinalize : s.boundary.finalize s.objects attempt fields e =
      .ok (given, returned, s'.boundary)) :
    Keeps s.boundary s'.boundary ∧
      Invariant s' (.finalized attempt fields given returned :: happened) := by
  obtain ⟨hnames, entry, hentry, rfl, hresult⟩ := finalize_eq_ok hfinalize
  have hfields : entry.fields = fields.2 := by
    obtain ⟨found, hfound, -, hfields⟩ := h.owned _ fields howned
    obtain rfl : entry = found := Option.some.inj (hentry.symm.trans hfound)
    exact hfields
  -- whether the event is new or not, the entry has the event that is returned, and entries
  -- differ in nothing else
  obtain ⟨hkeeps, htombstones, hback, hdigest, hheld⟩ :
      Keeps s.boundary s'.boundary ∧
        s'.boundary.attemptTombstones = s.boundary.attemptTombstones ∧
        (∀ attemptId entry', s'.boundary.attempts attemptId = some entry' →
          ∃ old, s.boundary.attempts attemptId = some old ∧ entry'.attempt = old.attempt ∧
            entry'.fields = old.fields ∧ (entry'.registered = old.registered ∨
              (attemptId = fields.1 ∧ entry'.fields = fields.2 ∧ ∃ snapshot,
                entry'.registered = some (given.eventPayloadDigest, given, snapshot)))) ∧
        given.eventPayloadDigest = returned.eventPayloadDigest ∧
        ∃ entry' digest snapshot, s'.boundary.attempts fields.1 = some entry' ∧
          entry'.registered = some (digest, returned, snapshot) := by
    rcases hresult with ⟨hnone, rfl, snapshot, hboundary⟩ | ⟨hboundary, snapshot, hregistered⟩
    · rw [hboundary]
      refine ⟨keeps_registered hentry hnone, rfl, fun attemptId entry' hentry' => ?_, rfl,
        { entry with registered := some (returned.eventPayloadDigest, returned, snapshot) },
        _, snapshot, by simp, rfl⟩
      by_cases hid : attemptId = fields.1
      · subst hid
        obtain rfl : { entry with
            registered := some (returned.eventPayloadDigest, returned, snapshot) } = entry' := by
          simpa using hentry'
        exact ⟨entry, hentry, rfl, rfl, .inr ⟨rfl, hfields, snapshot, rfl⟩⟩
      · exact ⟨entry', by simpa [hid] using hentry', rfl, rfl, .inl rfl⟩
    · rw [hboundary]
      exact ⟨Keeps.refl _, rfl, fun attemptId entry' hentry' => ⟨entry', hentry', rfl, rfl, .inl rfl⟩,
        (h.registered _ _ _ _ _ hentry hregistered).1, entry, _, snapshot, hentry, hregistered⟩
  refine ⟨hkeeps, ?_⟩
  constructor
  · intro attemptId entry' hentry'
    obtain ⟨old, hold, -⟩ := hback _ _ hentry'
    rw [htombstones]
    exact h.tombstones _ _ hold
  · rw [htombstones]
    exact h.handedOut
  · exact h.distinctIds
  · intro attemptId entry' hentry'
    obtain ⟨old, hold, hattempt, -⟩ := hback _ _ hentry'
    rw [hattempt]
    exact lt_of_lt_of_le (h.allocated _ _ hold) heffect.allocated
  · intro attemptId attemptId' entry' entry'' hentry' hentry'' hsame
    obtain ⟨old, hold, hattempt, -⟩ := hback _ _ hentry'
    obtain ⟨old', hold', hattempt', -⟩ := hback _ _ hentry''
    exact h.oneEntry _ _ _ _ hold hold' (by rw [← hattempt, ← hattempt', hsame])
  · intro attempt fields'
    rw [List.mem_cons, h.created]
    constructor
    · rintro (heq | hholds)
      · cases heq
      · exact hkeeps.holds hholds
    · rintro ⟨entry', hentry', rfl, hsame⟩
      obtain ⟨old, hold, hattempt, hfields', -⟩ := hback _ _ hentry'
      exact .inr ⟨old, hold, hattempt.symm, hfields'.symm.trans hsame⟩
  · intro attemptId entry' digest event snapshot hentry' hregistered
    obtain ⟨old, hold, hattempt, hsame, hkept | ⟨rfl, hown, snapshot', hnew⟩⟩ := hback _ _ hentry'
    · rw [hkept] at hregistered
      rw [hsame]
      exact h.registered _ _ _ _ _ hold hregistered
    · rw [hnew] at hregistered
      cases hregistered
      rw [hown]
      exact ⟨rfl, hnames⟩
  · intro attempt fields' howned'
    exact hkeeps.holds ((heffect.owned attempt fields' howned').elim (h.owned attempt fields') id)
  · intro attempt fields' given' returned' hmem
    rcases List.mem_cons.mp hmem with heq | hmem
    · cases heq
      exact ⟨hkeeps.holds (h.owned _ _ howned), hdigest, hheld⟩
    · obtain ⟨hholds, hdigest', old, digest, snapshot, hold, hregistered⟩ :=
        h.finalized attempt fields' given' returned' hmem
      obtain ⟨entry', hentry', -, -, hkept⟩ := hkeeps _ _ hold
      exact ⟨hkeeps.holds hholds, hdigest', entry', digest, snapshot, hentry',
        hkept _ hregistered⟩
  · intro attempt read hmem
    rcases List.mem_cons.mp hmem with heq | hmem
    · cases heq
    · obtain ⟨fields', hread, hholds⟩ := h.answered attempt read hmem
      exact ⟨fields', hread, hkeeps.holds hholds⟩

/-- A step keeps the entries and the invariant. -/
theorem Step.invariant {s s' : State} {happened : List Happened} {next : Happened}
    (hstep : Step s next s') (h : Invariant s happened) :
    Keeps s.boundary s'.boundary ∧ Invariant s' (next :: happened) := by
  have heffect := hstep.effect
  rcases heffect.registry with ⟨hsame, hplain⟩ | ⟨fields, rfl, hallocated, hcreate⟩ |
    ⟨attempt, fields, e, given, returned, rfl, howned, hfinalize⟩
  · refine ⟨?_, h.plain heffect hsame hplain⟩
    rw [hsame]
    exact Keeps.refl _
  · exact h.create heffect hallocated hcreate
  · exact h.finalize heffect howned hfinalize

/-- A run keeps the entries and the invariant. -/
theorem Run.invariant {during : State → Prop} {s u : State} {happened before : List Happened}
    (hrun : Run during s happened u) (h : Invariant s before) :
    Keeps s.boundary u.boundary ∧ Invariant u (happened ++ before) := by
  induction hrun with
  | start => exact ⟨Keeps.refl _, h⟩
  | step _ hstep _ ih =>
      obtain ⟨hkeeps, hinvariant⟩ := ih
      obtain ⟨hkeeps', hinvariant'⟩ := hstep.invariant hinvariant
      exact ⟨hkeeps.trans hkeeps', hinvariant'⟩

/-! ## Fields that differ -/

/-- A property of the object is not what is registered, or the object is gone. -/
def Differs (attempt index : ℕ) (value : Value) (s : State) : Prop :=
  ∀ a, s.objects attempt = some a → a.properties[index]? ≠ some (some value)

/-- No call of a thread is about this attempt. -/
def Untouched (s : State) (attempt : ℕ) : Prop :=
  (∀ thread purpose read, s.pending thread ≠ some (.reading attempt purpose read)) ∧
    ∀ fields, ¬Owned s attempt fields

/-- No call has read the registered value of the property. -/
structure Unread (attempt index : ℕ) (value : Value) (s : State) : Prop where
  reading : ∀ thread purpose read, s.pending thread = some (.reading attempt purpose read) →
    read[index]? ≠ some value
  owned : ∀ fields, ¬Owned s attempt fields

/-- An attempt is accepted: its event is returned, or it is owned. -/
def Happened.Accepts (attempt : ℕ) : Happened → Prop
  | .finalized other _ _ _ => other = attempt
  | .answered other _ owns => other = attempt ∧ owns = true
  | _ => False

theorem Unread.goesOn {attempt index : ℕ} {value : Value} {s : State} {thread : ℕ}
    {pending : Option Pending} (h : Unread attempt index value s)
    (hreading : ∀ purpose read, pending = some (.reading attempt purpose read) →
      read[index]? ≠ some value)
    (howned : ∀ fields e, pending ≠ some (.owned attempt fields e)) :
    Unread attempt index value (s.goesOn thread pending) where
  reading other purpose read hother := by
    by_cases hsame : other = thread
    · subst hsame
      exact hreading purpose read (by simpa [State.goesOn] using hother)
    · exact h.reading other purpose read
        (by simpa [State.goesOn, Function.update_of_ne hsame] using hother)
  owned fields hfields := by
    rcases owned_goesOn hfields with hold | ⟨e, he⟩
    · exact h.owned fields hold
    · exact howned fields e he

theorem Unread.idle {attempt index : ℕ} {value : Value} {s : State} {thread : ℕ}
    (h : Unread attempt index value s) : Unread attempt index value (s.goesOn thread none) :=
  h.goesOn (fun _ _ he => by cases he) fun _ _ he => by cases he

theorem Purpose.refused_accepts {attempt other : ℕ} {read : List Value} {e : Raised}
    (purpose : Purpose) : ¬(purpose.refused other read e).Accepts attempt := by
  cases purpose with
  | owns => exact fun h => by cases h.2
  | finalize e => exact id

/-- A step on an attempt of which no call has read the registered value accepts it not. -/
theorem Unread.step {attempt index : ℕ} {value : Value} {s s' : State} {next : Happened}
    (h : Unread attempt index value s) (hdiffers : Differs attempt index value s)
    (hregistered : ∀ fields, Holds s.boundary attempt fields →
      [Value.str fields.1, .str fields.2.1, .str fields.2.2][index]? = some value)
    (hstep : Step s next s') : Unread attempt index value s' ∧ ¬next.Accepts attempt := by
  cases hstep with
  | creates hidle hfields =>
      exact ⟨h.goesOn (fun _ _ he => by cases he) (fun _ _ he => by cases he), id⟩
  | createFailed hidle hfields => exact ⟨h, id⟩
  | created hpending hcreate => exact ⟨⟨h.idle.reading, h.idle.owned⟩, id⟩
  | collided hpending hcreate => exact ⟨h.idle, id⟩
  | begins hidle =>
      refine ⟨h.goesOn (fun purpose read he => ?_) (fun _ _ he => by cases he), id⟩
      cases he
      simp
  | foreign => exact ⟨h, Purpose.refused_accepts _⟩
  | @reads thread other purpose read a w hpending hobject hread =>
      refine ⟨h.goesOn (fun purpose' read' he => ?_) (fun _ _ he => by cases he), id⟩
      cases he
      by_cases hindex : index < read.length
      · rw [List.getElem?_append_left hindex]
        exact h.reading thread purpose read hpending
      · intro hvalue
        rw [List.getElem?_append_right (by omega)] at hvalue
        have hlast : index - read.length = 0 := by
          by_contra hne
          rw [List.getElem?_eq_none (by simp; omega)] at hvalue
          cases hvalue
        rw [hlast] at hvalue
        obtain rfl : w = value := by simpa using hvalue
        obtain rfl : index = read.length := by omega
        exact hdiffers a hobject hread
  | unreadable hpending hobject hread => exact ⟨h.idle, Purpose.refused_accepts _⟩
  | refused hpending howned => exact ⟨h.idle, Purpose.refused_accepts _⟩
  | @owns thread other attemptId workspace artifact fields hpending howned =>
      refine ⟨h.idle, ?_⟩
      rintro ⟨rfl, -⟩
      obtain ⟨hread, hholds⟩ := owned_eq_ok howned
      exact h.reading thread _ _ hpending (by rw [hread]; exact hregistered fields hholds)
  | @owned thread other e attemptId workspace artifact fields hpending howned =>
      refine ⟨h.goesOn (fun _ _ he => by cases he) fun fields' e' he => ?_, id⟩
      cases he
      obtain ⟨hread, hholds⟩ := owned_eq_ok howned
      exact h.reading thread _ _ hpending (by rw [hread]; exact hregistered fields hholds)
  | @finalized thread other e fields given returned boundary hpending hfinalize =>
      refine ⟨⟨h.idle.reading, h.idle.owned⟩, ?_⟩
      rintro rfl
      exact h.owned fields ⟨thread, e, hpending⟩
  | notFinalized hpending hfinalize => exact ⟨h.idle, id⟩
  | other => exact ⟨⟨h.reading, h.owned⟩, id⟩
  | tampers hobject => exact ⟨⟨h.reading, h.owned⟩, id⟩
  | collects => exact ⟨⟨h.reading, h.owned⟩, id⟩

theorem Run.during_last {during : State → Prop} {s u : State} {happened : List Happened}
    (hrun : Run during s happened u) : during u := by
  cases hrun with
  | start h => exact h
  | step _ _ h => exact h

/-- A call on an attempt with a property that is not the registered one is rejected. -/
theorem Run.rejects {attempt index : ℕ} {value : Value} {s u : State}
    {happened before : List Happened} (hrun : Run (Differs attempt index value) s happened u)
    (hinvariant : Invariant s before) (huntouched : Untouched s attempt)
    (hregistered : ∀ fields, Holds u.boundary attempt fields →
      [Value.str fields.1, .str fields.2.1, .str fields.2.2][index]? = some value) :
    Unread attempt index value u ∧ ∀ next ∈ happened, ¬next.Accepts attempt := by
  induction hrun with
  | start =>
      exact ⟨⟨fun thread purpose read hpending =>
        absurd hpending (huntouched.1 thread purpose read), huntouched.2⟩,
        fun _ hmem => (List.not_mem_nil hmem).elim⟩
  | step hrun hstep _ ih =>
      have hkeeps := (hstep.invariant (hrun.invariant hinvariant).2).1
      have hearlier := fun fields hholds => hregistered fields (hkeeps.holds hholds)
      obtain ⟨hunread, hrejected⟩ := ih hearlier
      obtain ⟨hunread', hnext⟩ := hunread.step hrun.during_last hearlier hstep
      exact ⟨hunread', List.forall_mem_cons.mpr ⟨hnext, hrejected⟩⟩

/-! ## One event for each attempt -/

/-- SHA-256 does not collide on the contents of the two events. -/
def NoCollision (e e' : EventFields) : Prop :=
  ∀ v v', CanonicalValues.normalize (.dict e.content) = .ok v →
    CanonicalValues.normalize (.dict e'.content) = .ok v' →
      PythonLibrary.hexdigest v = PythonLibrary.hexdigest v' → v = v'

variable [TimestampLibrary] [LawfulTextLibrary] [LawfulZonedTimeLibrary] [LawfulInfixLibrary]

/-- Events of one digest are one event, where their contents do not collide. -/
theorem event_of_digest {e e' : AttestationRevalidationEvent}
    (hfree : NoCollision e.toEventFields e'.toEventFields)
    (hdigest : e.eventPayloadDigest = e'.eventPayloadDigest) : e = e' := by
  have hcontent := e.sound.content
  have hcontent' := e'.sound.content
  simp only [canonicalDigest, bind_eq_ok, pure_eq_ok] at hcontent hcontent'
  obtain ⟨v, hv, hmade⟩ := hcontent
  obtain ⟨v', hv', hmade'⟩ := hcontent'
  obtain rfl : v = v' := hfree v v' hv hv' (by
    have hsame := hmade.trans (hdigest.trans hmade'.symm)
    exact (String.append_right_inj "sha256:").mp hsame)
  have hkept : ∀ {a a' : Value}, CanonicalValues.normalize a = .ok a →
      CanonicalValues.normalize a' = .ok a' →
      CanonicalValues.normalize a = CanonicalValues.normalize a' → a = a' := fun ha ha' h =>
    Except.ok.inj (ha.symm.trans (h.trans ha'))
  have hvalues := PreviewEligibility.normalize_dict_values (by rfl) hv hv'
  have hnormal := e.sound.normalize
  have hnormal' := e'.sound.normalize
  simp only [EventFields.projection, List.forall_mem_cons, List.not_mem_nil, false_implies,
    implies_true, and_true] at hnormal hnormal'
  simp only [EventFields.content, List.forall₂_cons] at hvalues
  obtain ⟨-, -, -, hw, ha, hd, ht, hc, hb, ho, hr, hf, hs, -⟩ := hnormal
  obtain ⟨-, -, -, hw', ha', hd', ht', hc', hb', ho', hr', hf', hs', -⟩ := hnormal'
  obtain ⟨-, -, hworkspace, hartifact, hartifactDigest, hattempt, hcontext, hreference, houtcome,
    hrevalidated, hfailure, hresult, -⟩ := hvalues
  have hworkspace := Value.str.inj (hkept hw hw' hworkspace)
  have hartifact := Value.str.inj (hkept ha ha' hartifact)
  have hattempt := Value.str.inj (hkept ht ht' hattempt)
  have hid : e.eventId = e'.eventId := by
    have h := e.sound.eventId
    rw [EventFields.derivedId, hworkspace, hartifact, hattempt] at h
    exact Except.ok.inj (h.symm.trans e'.sound.eventId)
  obtain ⟨fields, hmade⟩ := e
  obtain ⟨fields', hmade'⟩ := e'
  have hfields : fields = fields' := by
    cases fields
    cases fields'
    simp only [EventFields.mk.injEq]
    exact ⟨hid, hworkspace, hartifact, Value.str.inj (hkept hd hd' hartifactDigest), hattempt,
      Value.str.inj (hkept hc hc' hcontext), Value.str.inj (hkept hb hb' hreference),
      Value.str.inj (hkept ho ho' houtcome), Value.str.inj (hkept hr hr' hrevalidated),
      textOrNone_injective (hkept hf hf' hfailure), textOrNone_injective (hkept hs hs' hresult),
      hdigest⟩
  subst hfields
  rfl

/-- What holds of everything that came of the calls. -/
structure OneEventEach (happened : List Happened) : Prop where
  /-- No two attempts have one identity. -/
  distinct : (createdIds happened).Nodup
  /-- The events that are returned for an attempt are one event. -/
  same : ∀ {attempt fields fields' given given' returned returned'},
    .finalized attempt fields given returned ∈ happened →
      .finalized attempt fields' given' returned' ∈ happened → returned = returned'
  /-- It names the attempt, which the boundary handed out with these fields. -/
  names : ∀ {attempt fields given returned},
    .finalized attempt fields given returned ∈ happened → .created attempt fields ∈ happened ∧
      returned.revalidationAttemptId = fields.1 ∧ returned.workspaceIdentity = fields.2.1 ∧
      returned.artifactId = fields.2.2
  /-- No other event is accepted. -/
  content : ∀ {attempt fields given returned},
    .finalized attempt fields given returned ∈ happened →
      given.eventPayloadDigest = returned.eventPayloadDigest ∧
        (NoCollision given.toEventFields returned.toEventFields → given = returned)
  /-- The boundary owns what it handed out with the fields that were read. -/
  owns : ∀ {attempt read}, .answered attempt read true ∈ happened → ∃ fields,
    read = [.str fields.1, .str fields.2.1, .str fields.2.2] ∧ .created attempt fields ∈ happened

theorem Invariant.oneEventEach {s : State} {happened : List Happened} (h : Invariant s happened) :
    OneEventEach happened := by
  refine ⟨h.distinctIds, ?_, ?_, ?_, ?_⟩
  · intro attempt fields fields' given given' returned returned' hmem hmem'
    obtain ⟨⟨held, hheld, rfl, -⟩, -, entry, digest, snapshot, hentry, hregistered⟩ :=
      h.finalized _ fields given returned hmem
    obtain ⟨⟨held', hheld', hattempt, -⟩, -, entry', digest', snapshot', hentry', hregistered'⟩ :=
      h.finalized _ fields' given' returned' hmem'
    have hid := h.oneEntry _ _ _ _ hheld' hheld hattempt
    rw [hid] at hentry'
    obtain rfl := Option.some.inj (hentry.symm.trans hentry')
    cases hregistered.symm.trans hregistered'
    rfl
  · intro attempt fields given returned hmem
    obtain ⟨hholds, -, entry, digest, snapshot, hentry, hregistered⟩ :=
      h.finalized _ fields given returned hmem
    obtain ⟨-, hid, hworkspace, hartifact⟩ := h.registered _ _ _ _ _ hentry hregistered
    obtain ⟨held, hheld, -, hfields⟩ := id hholds
    obtain rfl := Option.some.inj (hentry.symm.trans hheld)
    rw [hfields] at hworkspace hartifact
    exact ⟨(h.created attempt fields).mpr hholds, hid, hworkspace, hartifact⟩
  · intro attempt fields given returned hmem
    have hdigest := (h.finalized _ fields given returned hmem).2.1
    exact ⟨hdigest, fun hfree => event_of_digest hfree hdigest⟩
  · intro attempt read hmem
    obtain ⟨fields, hread, hholds⟩ := h.answered attempt read hmem
    exact ⟨fields, hread, (h.created attempt fields).mpr hholds⟩

/-- After any steps of any calls, each attempt has an identity of its own and one event, the
event stays whatever happens next, and a call on an attempt that has a property other than the
registered one is rejected. -/
theorem one_event_for_each_attempt {s t : State} {before : List Happened} (hs : Started s)
    (hbefore : Run (fun _ => True) s before t) :
    OneEventEach before ∧
      (∀ after u, Run (fun _ => True) t after u → ∀ attemptId entry r,
        t.boundary.attempts attemptId = some entry → entry.registered = some r →
          ∃ entry', u.boundary.attempts attemptId = some entry' ∧ entry'.registered = some r) ∧
      ∀ attempt index value after u, Untouched t attempt →
        Run (Differs attempt index value) t after u →
        (∀ fields, .created attempt fields ∈ after ++ before →
          [Value.str fields.1, .str fields.2.1, .str fields.2.2][index]? = some value) →
        ∀ next ∈ after, ¬next.Accepts attempt := by
  have hinvariant := (hbefore.invariant hs.invariant).2
  rw [List.append_nil] at hinvariant
  refine ⟨hinvariant.oneEventEach, ?_, ?_⟩
  · intro after u hrun attemptId entry r hentry hregistered
    obtain ⟨entry', hentry', -, -, hkept⟩ := (hrun.invariant hinvariant).1 attemptId entry hentry
    exact ⟨entry', hentry', hkept r hregistered⟩
  · intro attempt index value after u huntouched hrun hcreated
    have hafter := (hrun.invariant hinvariant).2
    exact (hrun.rejects hinvariant huntouched fun fields hholds =>
      hcreated fields ((hafter.created attempt fields).mpr hholds)).2

/-! ## An attempt is handed out and its event is taken -/

omit [TimestampLibrary] [LawfulTextLibrary] [LawfulZonedTimeLibrary] [LawfulInfixLibrary] in
theorem Run.next {s t u : State} {happened : List Happened} {next : Happened}
    (hrun : Run (fun _ => True) s happened t) (hstep : Step t next u) :
    Run (fun _ => True) s (next :: happened) u :=
  .step hrun hstep trivial

omit [TimestampLibrary] [LawfulTextLibrary] [LawfulZonedTimeLibrary] [LawfulInfixLibrary] in
theorem owned_created {b : RevalidationAttemptBoundary} {objects : Objects} {attempt : ℕ}
    {fields : String × String × String} (hid : attemptPattern fields.1 = true)
    (hworkspace : persistedText (.str fields.2.1) = .ok fields.2.1)
    (hartifact : hexPattern "artifact-" fields.2.2 = true)
    (hentry : b.attempts fields.1 = some ⟨attempt, fields.2, none⟩)
    (hobject : objects attempt = some (b.instantiate fields)) :
    b.owned objects attempt (.str fields.1) (.str fields.2.1) (.str fields.2.2) = .ok fields := by
  have hexactId : exactText (.str fields.1) attemptPattern = .ok fields.1 :=
    exactText_eq_ok.mpr ⟨rfl, hid⟩
  have hexact : exactText (.str fields.2.2) (hexPattern "artifact-") = .ok fields.2.2 :=
    exactText_eq_ok.mpr ⟨rfl, hartifact⟩
  simp only [RevalidationAttemptBoundary.owned, bind_eq_ok, orRaise_eq_ok, require_eq_ok,
    pure_eq_ok]
  refine ⟨fields.1, by rw [hexactId]; rfl, fields.2.1, by rw [hworkspace]; rfl, fields.2.2,
    by rw [hexact]; rfl, (), ⟨rfl, rfl, rfl⟩, _, hentry, (), ⟨⟨rfl, ?_⟩, ?_⟩, (), rfl, rfl⟩
  · rw [hobject]
    rfl
  · rw [hobject]
    rfl

omit [TimestampLibrary] [LawfulTextLibrary] [LawfulZonedTimeLibrary] [LawfulInfixLibrary] in
theorem exists_reads {s : State} {thread attempt : ℕ} {purpose : Purpose} {read : List Value}
    {a : RevalidationAttempt} {value : Value}
    (hpending : s.pending thread = some (.reading attempt purpose read))
    (hobject : s.objects attempt = some a)
    (hvalue : a.properties[read.length]? = some (some value)) :
    ∃ s', Step s .nothing s' ∧ s'.boundary = s.boundary ∧ s'.objects = s.objects ∧
      s'.pending thread = some (.reading attempt purpose (read ++ [value])) :=
  ⟨_, .reads hpending hobject hvalue, rfl, rfl, by simp [State.goesOn]⟩

theorem register_new {b : RevalidationAttemptBoundary} {objects : Objects} {attempt : ℕ}
    {attemptId : String} {entry : AttemptEntry} {e : AttestationRevalidationEvent}
    (hentry : b.attempts attemptId = some entry) (hrefers : entry.refersTo objects attempt)
    (hnone : entry.registered = none) : ∃ b', b.register objects attempt attemptId e = .ok (e, b') := by
  refine ⟨{ b with
    attempts := Function.update b.attempts attemptId
      (some { entry with registered := some (e.eventPayloadDigest, e, e.toEventFields) }) }, ?_⟩
  simp only [RevalidationAttemptBoundary.register, bind_eq_ok, orRaise_eq_ok, require_eq_ok]
  refine ⟨entry, hentry, (), hrefers, ?_⟩
  rw [hnone]
  simp only [bind_eq_ok, pure_eq_ok, eventSnapshot]
  exact ⟨_, ⟨e, e.again_eq, rfl⟩, rfl⟩

/-- An event that names its attempt is taken. -/
theorem exists_finalized {s : State} (hs : Started s) (fields : String × String × String)
    {bytes : List UInt8} (hbytes : attemptIdOf (some bytes) = .ok fields.1)
    {e : AttestationRevalidationEvent} (hnames : e.revalidationAttemptId = fields.1 ∧
      e.workspaceIdentity = fields.2.1 ∧ e.artifactId = fields.2.2) :
    ∃ happened u, Run (fun _ => True) s (.finalized s.allocated fields e e :: happened) u := by
  obtain ⟨hid, hworkspace, hartifact⟩ := id hnames
  have htext : persistedText (.str fields.2.1) = .ok fields.2.1 :=
    Settled.persistedText (hworkspace ▸ e.sound.workspace)
  have hpattern : hexPattern "artifact-" fields.2.2 = true := hartifact ▸ e.sound.artifactId
  have hfields : attemptFields (.str fields.2.1) (.str fields.2.2) (some bytes) = .ok fields := by
    simp only [attemptFields, bind_eq_ok, exactText_eq_ok, pure_eq_ok]
    exact ⟨_, htext, _, ⟨rfl, hpattern⟩, _, hbytes, rfl⟩
  obtain ⟨boundary, hcreate⟩ : ∃ boundary, s.boundary.create s.allocated fields = .ok boundary := by
    simp only [RevalidationAttemptBoundary.create, bind_eq_ok, require_eq_ok, pure_eq_ok]
    exact ⟨_, (), by rw [hs.tombstones]; exact Finset.notMem_empty _, rfl⟩
  have hentry : boundary.attempts fields.1 = some ⟨s.allocated, fields.2, none⟩ := by
    rw [(create_eq_ok hcreate).2]
    simp
  obtain ⟨t, hrun, hboundary, hobject, hidle⟩ : ∃ t, Run (fun _ => True) s
      [.created s.allocated fields, .nothing] t ∧ t.boundary = boundary ∧
        t.objects s.allocated = some (boundary.instantiate fields) ∧ t.pending 0 = none := by
    have hcreating : (s.goesOn 0 (some (.creating fields))).pending 0 =
        some (.creating fields) := by simp [State.goesOn]
    exact ⟨_, ((Run.start trivial).next (.creates (hs.pending 0) hfields)).next
      (.created hcreating hcreate), rfl, by simp [State.goesOn], by simp [State.goesOn]⟩
  obtain ⟨t0, hstep0, hboundary0, hobject0, hpending0⟩ : ∃ t0, Step t .nothing t0 ∧
      t0.boundary = t.boundary ∧ t0.objects = t.objects ∧
        t0.pending 0 = some (.reading s.allocated (.finalize (.record e)) []) := by
    have hbegins : Step t .nothing
        (t.goesOn 0 (some (.reading s.allocated (.finalize (.record e)) []))) := .begins hidle
    exact ⟨_, hbegins, rfl, rfl, by simp [State.goesOn]⟩
  rw [← hobject0] at hobject
  obtain ⟨t1, hstep1, hboundary1, hobject1, hpending1⟩ := exists_reads hpending0 hobject rfl
  rw [← hobject1] at hobject
  obtain ⟨t2, hstep2, hboundary2, hobject2, hpending2⟩ := exists_reads hpending1 hobject rfl
  rw [← hobject2] at hobject
  obtain ⟨t3, hstep3, hboundary3, hobject3, hpending3⟩ := exists_reads hpending2 hobject rfl
  rw [← hobject3] at hobject
  have hsame : t3.boundary = boundary := by
    rw [hboundary3, hboundary2, hboundary1, hboundary0, hboundary]
  have howned := owned_created (hid ▸ e.sound.attempt) htext hpattern
    (hsame.symm ▸ hentry) (hsame.symm ▸ hobject)
  obtain ⟨t4, hstep4, hboundary4, hobject4, hpending4⟩ : ∃ t4, Step t3 .nothing t4 ∧
      t4.boundary = t3.boundary ∧ t4.objects = t3.objects ∧
        t4.pending 0 = some (.owned s.allocated fields (.record e)) :=
    ⟨_, .owned hpending3 howned, rfl, rfl, by simp [State.goesOn]⟩
  obtain ⟨b, hregister⟩ := register_new (e := e) (b := t4.boundary) (by rw [hboundary4, hsame, hentry])
    (⟨rfl, by rw [hobject4, hobject]; rfl⟩ :
      (⟨s.allocated, fields.2, none⟩ : AttemptEntry).refersTo t4.objects s.allocated) rfl
  have hfinalize : t4.boundary.finalize t4.objects s.allocated fields (.record e) =
      .ok (e, e, b) := by
    simp only [RevalidationAttemptBoundary.finalize, bind_eq_ok, require_eq_ok, pure_eq_ok]
    exact ⟨e, e.again_eq, (), hnames, _, hregister, rfl⟩
  exact ⟨_, _, (((((hrun.next hstep0).next hstep1).next hstep2).next hstep3).next hstep4).next
    (.finalized hpending4 hfinalize)⟩

end

/-- An attempt on an artifact whose event is taken. -/
theorem one_event_sample :
    ∃ (_ : PythonLibrary) (_ : UnicodeLibrary) (_ : ZonedTimeLibrary)
      (attempt : ℕ) (fields : String × String × String) (e : AttestationRevalidationEvent)
      (happened : List Happened), OneEventEach (.finalized attempt fields e e :: happened) ∧
        e.outcome = "Failed" := by
  have hlawful := IssuanceHistories.referenceLibrary_lawful
  have htimes := AttestationReference.referenceTimes_lawful
  have hdigests := AttestationReference.referenceLibrary_digests
  have hinfix := AttestationReference.referenceLibrary_infix
  let _ := ReferenceLibrary.referenceLibrary
  let _ := IssuanceHistories.referenceUnicode
  let _ := IssuanceHistories.referenceTimestamps
  let _ := AttestationReference.referenceTimes
  obtain ⟨a, -⟩ := AttestationReference.exists_artifact_of_revision (le_refl 1)
  obtain ⟨original, created, -, -, horiginal, -⟩ := a.sound.times
  obtain ⟨attemptId, hid⟩ : ∃ attemptId, attemptIdOf (some (List.replicate 16 0)) = .ok attemptId :=
    ⟨_, rfl⟩
  have hattempt : attemptPattern attemptId = true := by
    cases hid
    decide
  obtain ⟨e, eventId, digest, hevent⟩ := AttestationStoreContract.exists_event
    (⟨"", a.workspaceIdentity, a.artifactId, a.artifactDigest, attemptId,
      a.artifactDigest, a.artifactDigest, "Failed", a.originalVerifiedAt,
      some "attestation_revalidation_expired", none, ""⟩ : EventFields)
    a.sound.workspace a.sound.artifactIdForm hattempt
    (by simpa using a.sound.contentForm) ⟨original, horiginal⟩
    (.inr ⟨rfl, rfl, "attestation_revalidation_expired", by decide, rfl⟩)
  have hs : Started ⟨⟨0, fun _ => none, ∅⟩, fun _ => none, 0, fun _ => none⟩ :=
    ⟨fun _ => rfl, rfl, fun _ _ => rfl, fun _ => rfl⟩
  obtain ⟨happened, u, hrun⟩ := exists_finalized (e := e) hs
    (attemptId, a.workspaceIdentity, a.artifactId) hid
    ⟨by rw [hevent], by rw [hevent], by rw [hevent]⟩
  exact ⟨_, _, _, _, _, e, happened, (one_event_for_each_attempt hs hrun).1, by rw [hevent]⟩

end DeliverySystem.RevalidationAttempts

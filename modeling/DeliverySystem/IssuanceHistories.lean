import DeliverySystem.AuthorityIssuance
import DeliverySystem.ReferenceLibrary
import Mathlib.Data.Bool.AllAny
import Mathlib.Data.List.DropRight

/-!
# Histories of saves

Any process may save any signed binding at any time, and a save may fail. What
holds of every history is shown for a store that stands for a registry, which
both stores do; so it holds of both, and they answer alike.
-/
namespace DeliverySystem.IssuanceHistories
open PythonValues CanonicalValues KeyedRows AuthorityBindings AuthorityBindingStores
open IssuanceRegistry AuthorityIssuance
set_option autoImplicit false

section
variable [PythonLibrary] [UnicodeLibrary] [TimestampLibrary]

/-! ## The contract of a store -/

/-- `AuthorityBindingPersistenceStore`, with what a store holds. -/
structure PersistenceStore (state : Type) where
  empty : state
  saveAuthorityBinding :
    Faults → String → state → SignedAuthorityBinding → state × Py PersistedAuthorityBinding
  loadAuthorityBinding :
    Faults → String → state → Value → Value → Py (Option PersistedAuthorityBinding)
  resolveAuthorityBindingForOperation :
    Faults → String → state → Value → Value → Py (Option PersistedAuthorityBinding)
  assignments : state → Assignments
  /-- The binding stored for a workspace and an issuance, as it is validated. -/
  held : state → String → String → Option (Py PersistedAuthorityBinding)

def memoryStore : PersistenceStore MemoryStore where
  empty := .empty
  saveAuthorityBinding _ workspace m binding := m.saveAuthorityBinding workspace binding
  loadAuthorityBinding _ workspace m := m.loadAuthorityBinding workspace
  resolveAuthorityBindingForOperation _ workspace m :=
    m.resolveAuthorityBindingForOperation workspace
  assignments := MemoryStore.assignments
  held m workspace issuance := (m.bindings.lookup (workspace, issuance)).map fun binding =>
    validatedBinding binding.canonicalPayload binding.authorityIssuanceId binding.signed.issuerId
      binding.signed.keyId binding.signed.signatureAlgorithm binding.signed.proof workspace

def sqliteStore : PersistenceStore BindingTables where
  empty := .empty
  saveAuthorityBinding faults workspace t binding := t.saveAuthorityBinding faults workspace binding
  loadAuthorityBinding faults workspace t := t.loadAuthorityBinding faults workspace
  resolveAuthorityBindingForOperation faults workspace t :=
    t.resolveAuthorityBindingForOperation faults workspace
  assignments := BindingTables.assignments
  held t workspace issuance := (t.bindings.lookup (workspace, issuance)).map fun row =>
    validatedBinding row.canonicalPayload issuance row.issuerId row.keyId row.signatureAlgorithm
      row.detachedProof workspace

namespace PersistenceStore

variable {state : Type}

/-- One save, by the process of any workspace. -/
def Step (store : PersistenceStore state) (s s' : state) : Prop :=
  ∃ faults workspace binding, s' = (store.saveAuthorityBinding faults workspace s binding).1

def Run (store : PersistenceStore state) : state → state → Prop :=
  Relation.ReflTransGen store.Step

def Reachable (store : PersistenceStore state) (s : state) : Prop := store.Run store.empty s

/-- The codes of a read that has found nothing wrong in the store. -/
def readCodes : List String :=
  ["workspace_invalid", "lookup_invalid", "workspace_mismatch", "sqlite_busy",
    "sqlite_operational"].map ("authority_binding_persistence_" ++ ·)

/-- One issuance for each operation, through every history. -/
structure OneIssuancePerOperation (store : PersistenceStore state) : Prop where
  assignedOnce : ∀ {s}, store.Reachable s → ∀ {workspace operation issuance issuance' : String}
    {p p' : PersistedAuthorityBinding},
    store.held s workspace issuance = some (.ok p) →
    store.held s workspace issuance' = some (.ok p') →
    operation ∈ p.operations → operation ∈ p'.operations → issuance = issuance'
  keepsAssignments : ∀ {s s'}, store.Reachable s → store.Run s s' →
    ∀ {workspace operation issuance},
      (store.assignments s).lookup (workspace, operation) = some issuance →
      (store.assignments s').lookup (workspace, operation) = some issuance
  exactAssignments : ∀ {s}, store.Reachable s → ∀ {workspace issuance stored},
    store.held s workspace issuance = some stored →
    ∃ p : PersistedAuthorityBinding, stored = .ok p ∧ p.workspace = workspace ∧
      p.authorityIssuanceId = issuance ∧ ∀ operation,
        (store.assignments s).lookup (workspace, operation) = some issuance ↔
          operation ∈ p.operations
  assignedToHeld : ∀ {s}, store.Reachable s → ∀ {workspace operation issuance},
    (store.assignments s).lookup (workspace, operation) = some issuance →
    (store.held s workspace issuance).isSome
  failedSave : ∀ {s}, store.Reachable s → ∀ faults workspace binding s' e,
    store.saveAuthorityBinding faults workspace s binding = (s', .error e) → s' = s
  returnedSave : ∀ {s}, store.Reachable s → ∀ faults workspace binding s' p,
    store.saveAuthorityBinding faults workspace s binding = (s', .ok p) →
    p.signed = binding ∧ p.workspace = workspace ∧
      store.held s' workspace p.authorityIssuanceId = some (.ok p)
  savedAgain : ∀ {s}, store.Reachable s → ∀ faults workspace binding s' p later,
    store.saveAuthorityBinding faults workspace s binding = (s', .ok p) → store.Run s' later →
    store.saveAuthorityBinding noFaults workspace later binding = (later, .ok p)
  loadSound : ∀ {s}, store.Reachable s → ∀ faults workspace given issuance,
    RaisesOnly readCodes (store.loadAuthorityBinding faults workspace s given issuance)
  resolveSound : ∀ {s}, store.Reachable s → ∀ faults workspace given operation,
    RaisesOnly readCodes
      (store.resolveAuthorityBindingForOperation faults workspace s given operation)

/-! ## Sequential histories -/

inductive Call where
  | save (binding : SignedAuthorityBinding)
  | load (workspaceIdentity authorityIssuanceId : Value)
  | resolve (workspaceIdentity operationIdentity : Value)

inductive Answer where
  | saved (result : Py PersistedAuthorityBinding)
  | found (result : Py (Option PersistedAuthorityBinding))

def call (store : PersistenceStore state) (workspace : String) (s : state) : Call → state × Answer
  | .save binding =>
      let saved := store.saveAuthorityBinding noFaults workspace s binding
      (saved.1, .saved saved.2)
  | .load given issuance =>
      (s, .found (store.loadAuthorityBinding noFaults workspace s given issuance))
  | .resolve given operation =>
      (s, .found (store.resolveAuthorityBindingForOperation noFaults workspace s given operation))

def answers (store : PersistenceStore state) (workspace : String) : state → List Call → List Answer
  | _, [] => []
  | s, c :: calls =>
      (store.call workspace s c).2 :: store.answers workspace (store.call workspace s c).1 calls

/-! ## Standing for a registry -/

/-- A store whose operations are those of the registry it stands for, or fail. -/
structure StandsFor (store : PersistenceStore state) (represents : Registry → state → Prop) :
    Prop where
  empty : represents Registry.empty store.empty
  assignments : ∀ {registry s}, represents registry s →
    AssignmentsOf registry (store.assignments s)
  held : ∀ {registry s}, represents registry s → registry.Sound → ∀ workspace issuance,
    store.held s workspace issuance = (registry workspace issuance).map .ok
  save : ∀ {registry s}, represents registry s → registry.Sound → ∀ workspace binding,
    represents (registry.save workspace binding).1
        (store.saveAuthorityBinding noFaults workspace s binding).1 ∧
      (store.saveAuthorityBinding noFaults workspace s binding).2 =
        (registry.save workspace binding).2
  savedAgain : ∀ {registry s}, represents registry s → registry.Sound → ∀ workspace binding made,
    candidate binding workspace = .ok made →
    registry workspace made.authorityIssuanceId = some made →
    store.saveAuthorityBinding noFaults workspace s binding = (s, .ok made)
  failedSave : ∀ faults workspace s binding s' e,
    store.saveAuthorityBinding faults workspace s binding = (s', .error e) → s' = s
  faultySave : ∀ faults workspace s binding,
    store.saveAuthorityBinding faults workspace s binding =
        store.saveAuthorityBinding noFaults workspace s binding ∨
      ∃ fault : SqliteFault,
        store.saveAuthorityBinding faults workspace s binding = (s, .error fault.raised)
  load : ∀ {registry s}, represents registry s → registry.Sound → ∀ workspace given issuance,
    store.loadAuthorityBinding noFaults workspace s given issuance =
      registry.load workspace given issuance
  faultyLoad : ∀ faults workspace s given issuance,
    Faulted (store.loadAuthorityBinding faults workspace s given issuance)
      (store.loadAuthorityBinding noFaults workspace s given issuance)
  resolve : ∀ {registry s}, represents registry s → registry.Sound → ∀ workspace given operation,
    store.resolveAuthorityBindingForOperation noFaults workspace s given operation =
      registry.resolve workspace given operation
  faultyResolve : ∀ faults workspace s given operation,
    Faulted (store.resolveAuthorityBindingForOperation faults workspace s given operation)
      (store.resolveAuthorityBindingForOperation noFaults workspace s given operation)

section
variable {store : PersistenceStore state} {represents : Registry → state → Prop}
  {registry : Registry} {s s' : state}

theorem StandsFor.step (h : store.StandsFor represents) (hs : represents registry s)
    (hsound : registry.Sound) (hstep : store.Step s s') :
    ∃ later, represents later s' ∧ later.Sound ∧ registry.Extends later := by
  obtain ⟨faults, workspace, binding, rfl⟩ := hstep
  rcases h.faultySave faults workspace s binding with hsame | ⟨fault, hfault⟩
  · rw [hsame]
    exact ⟨_, (h.save hs hsound workspace binding).1, hsound.save workspace binding⟩
  · rw [hfault]
    exact ⟨registry, hs, hsound, .refl _⟩

theorem StandsFor.run (h : store.StandsFor represents) (hs : represents registry s)
    (hsound : registry.Sound) (hrun : store.Run s s') :
    ∃ later, represents later s' ∧ later.Sound ∧ registry.Extends later := by
  induction hrun with
  | refl => exact ⟨registry, hs, hsound, .refl _⟩
  | tail _ hstep ih =>
      obtain ⟨middle, hmiddle, hsound', hextends⟩ := ih
      obtain ⟨later, hlater, hsound'', hextends'⟩ := h.step hmiddle hsound' hstep
      exact ⟨later, hlater, hsound'', hextends.trans hextends'⟩

theorem StandsFor.reachable (h : store.StandsFor represents) (hreach : store.Reachable s) :
    ∃ registry, represents registry s ∧ registry.Sound := by
  obtain ⟨registry, hs, hsound, -⟩ := h.run h.empty Registry.empty_sound hreach
  exact ⟨registry, hs, hsound⟩

theorem StandsFor.held_eq_some (h : store.StandsFor represents) (hs : represents registry s)
    (hsound : registry.Sound) {workspace issuance : String} {p : PersistedAuthorityBinding}
    (hheld : store.held s workspace issuance = some (.ok p)) :
    registry workspace issuance = some p := by
  rw [h.held hs hsound] at hheld
  obtain ⟨binding, hbinding, hsame⟩ := Option.map_eq_some_iff.mp hheld
  rw [hbinding, Except.ok.inj hsame]

/-- A save that returned is the registry's. -/
theorem StandsFor.save_returned (h : store.StandsFor represents) (hs : represents registry s)
    (hsound : registry.Sound) {faults : Faults} {workspace : String}
    {binding : SignedAuthorityBinding} {p : PersistedAuthorityBinding}
    (hsave : store.saveAuthorityBinding faults workspace s binding = (s', .ok p)) :
    ∃ later, represents later s' ∧ later.Sound ∧ candidate binding workspace = .ok p ∧
      later workspace p.authorityIssuanceId = some p := by
  rcases h.faultySave faults workspace s binding with hsame | ⟨fault, hfault⟩
  · obtain ⟨hlater, hresult⟩ := h.save hs hsound workspace binding
    rw [← hsame, hsave] at hlater hresult
    exact ⟨_, hlater, (hsound.save workspace binding).1, Registry.save_returned hresult.symm⟩
  · rw [hsave] at hfault
    cases hfault

end

/-! ## What reads raise -/

omit [UnicodeLibrary] [TimestampLibrary] in
theorem workspaceText_raisesOnly (value : Value) : RaisesOnly readCodes (workspaceText value) := by
  refine bind_raisesOnly ?_ fun _ => bind_raisesOnly (raiseIf_raisesOnly (by decide)) fun _ =>
    pure_raisesOnly _
  intro e he
  unfold orRaise at he
  split at he
  · cases he
  · exact ⟨_, by decide, (Except.error.inj he).symm⟩

omit [PythonLibrary] [UnicodeLibrary] [TimestampLibrary] in
theorem lookupText_raisesOnly (tag : String) (value : Value) :
    RaisesOnly readCodes (lookupText tag value) := by
  refine bind_raisesOnly ?_ fun _ => bind_raisesOnly (raiseIf_raisesOnly (by decide)) fun _ =>
    pure_raisesOnly _
  intro e he
  unfold orRaise at he
  split at he
  · cases he
  · exact ⟨_, by decide, (Except.error.inj he).symm⟩

theorem load_raisesOnly (registry : Registry) (workspace : String) (given issuance : Value) :
    RaisesOnly readCodes (registry.load workspace given issuance) :=
  bind_raisesOnly (workspaceText_raisesOnly given) fun _ =>
    bind_raisesOnly (lookupText_raisesOnly _ issuance) fun _ =>
      bind_raisesOnly (raiseIf_raisesOnly (by decide)) fun _ => pure_raisesOnly _

theorem resolve_raisesOnly (registry : Registry) (workspace : String) (given operation : Value) :
    RaisesOnly readCodes (registry.resolve workspace given operation) :=
  bind_raisesOnly (workspaceText_raisesOnly given) fun _ =>
    bind_raisesOnly (lookupText_raisesOnly _ operation) fun _ =>
      bind_raisesOnly (raiseIf_raisesOnly (by decide)) fun _ => pure_raisesOnly _

omit [PythonLibrary] [UnicodeLibrary] [TimestampLibrary] in
theorem faulted_raisesOnly {α : Type} {x expected : Py α} (h : Faulted x expected)
    (hexpected : RaisesOnly readCodes expected) : RaisesOnly readCodes x := by
  rcases h with rfl | ⟨fault, rfl⟩
  · exact hexpected
  · intro e he
    obtain rfl := Except.error.inj he
    cases fault with
    | busy => exact ⟨_, by decide, rfl⟩
    | operational => exact ⟨_, by decide, rfl⟩

/-! ## Every history -/

theorem StandsFor.oneIssuance [LawfulTextLibrary] {store : PersistenceStore state}
    {represents : Registry → state → Prop} (h : store.StandsFor represents) :
    store.OneIssuancePerOperation where
  assignedOnce := by
    intro s hreach workspace operation issuance issuance' p p' hp hp' hoperation hoperation'
    obtain ⟨registry, hs, hsound⟩ := h.reachable hreach
    exact hsound.sole workspace operation issuance issuance'
      ⟨p, h.held_eq_some hs hsound hp, hoperation⟩ ⟨p', h.held_eq_some hs hsound hp', hoperation'⟩
  keepsAssignments := by
    intro s s' hreach hrun workspace operation issuance hassigned
    obtain ⟨registry, hs, hsound⟩ := h.reachable hreach
    obtain ⟨later, hlater, -, hextends⟩ := h.run hs hsound hrun
    rw [h.assignments hlater]
    exact hextends.assigned ((h.assignments hs _ _ _).mp hassigned)
  exactAssignments := by
    intro s hreach workspace issuance stored hstored
    obtain ⟨registry, hs, hsound⟩ := h.reachable hreach
    rw [h.held hs hsound] at hstored
    obtain ⟨p, hp, rfl⟩ := Option.map_eq_some_iff.mp hstored
    obtain ⟨hworkspace, hissuance⟩ := hsound.keyed _ _ _ hp
    refine ⟨p, rfl, hworkspace, hissuance, fun operation => ?_⟩
    rw [h.assignments hs]
    constructor
    · rintro ⟨p', hp', hoperation⟩
      obtain rfl := Option.some.inj (hp.symm.trans hp')
      exact hoperation
    · exact fun hoperation => ⟨p, hp, hoperation⟩
  assignedToHeld := by
    intro s hreach workspace operation issuance hassigned
    obtain ⟨registry, hs, hsound⟩ := h.reachable hreach
    obtain ⟨p, hp, -⟩ := (h.assignments hs _ _ _).mp hassigned
    rw [h.held hs hsound, hp]
    rfl
  failedSave _ := fun faults workspace binding s' e hsave =>
    h.failedSave faults workspace _ binding s' e hsave
  returnedSave := by
    intro s hreach faults workspace binding s' p hsave
    obtain ⟨registry, hs, hsound⟩ := h.reachable hreach
    obtain ⟨later, hlater, hsound', hcandidate, hp⟩ := h.save_returned hs hsound hsave
    obtain ⟨hsigned, hworkspace⟩ := candidate_eq_ok hcandidate
    refine ⟨hsigned, hworkspace, ?_⟩
    rw [h.held hlater hsound', hp]
    rfl
  savedAgain := by
    intro s hreach faults workspace binding s' p last hsave hrun
    obtain ⟨registry, hs, hsound⟩ := h.reachable hreach
    obtain ⟨later, hlater, hsound', hcandidate, hp⟩ := h.save_returned hs hsound hsave
    obtain ⟨final, hfinal, hsound'', hextends⟩ := h.run hlater hsound' hrun
    exact h.savedAgain hfinal hsound'' workspace binding p hcandidate (hextends _ _ _ hp)
  loadSound := by
    intro s hreach faults workspace given issuance
    obtain ⟨registry, hs, hsound⟩ := h.reachable hreach
    refine faulted_raisesOnly (h.faultyLoad faults workspace s given issuance) ?_
    rw [h.load hs hsound]
    exact load_raisesOnly registry workspace given issuance
  resolveSound := by
    intro s hreach faults workspace given operation
    obtain ⟨registry, hs, hsound⟩ := h.reachable hreach
    refine faulted_raisesOnly (h.faultyResolve faults workspace s given operation) ?_
    rw [h.resolve hs hsound]
    exact resolve_raisesOnly registry workspace given operation

/-- The first save of a binding in its own workspace returns it. -/
theorem StandsFor.firstSave [LawfulTextLibrary] {store : PersistenceStore state}
    {represents : Registry → state → Prop} (h : store.StandsFor represents)
    (binding : SignedAuthorityBinding) :
    ∃ s' p, store.saveAuthorityBinding noFaults binding.payload.workspaceIdentity store.empty
      binding = (s', .ok p) ∧ p.signed = binding := by
  obtain ⟨made, hmade, hsigned⟩ := candidate_ok binding
  obtain ⟨-, hresult⟩ := h.save h.empty Registry.empty_sound
    binding.payload.workspaceIdentity binding
  have hsave : (Registry.empty.save binding.payload.workspaceIdentity binding).2 = .ok made := by
    unfold Registry.save
    rw [hmade]
    have hfree : ¬∃ operation ∈ made.operations, ∃ issuance, Registry.empty.Assigned
        binding.payload.workspaceIdentity operation issuance := by
      simp [Registry.Assigned, Registry.empty]
    exact congrArg Prod.snd (if_neg hfree)
  rw [hsave] at hresult
  exact ⟨_, made, Prod.ext rfl hresult, hsigned⟩

/-- Two stores that stand for registries answer every sequence of calls alike. -/
theorem StandsFor.answers_eq {state' : Type} {store : PersistenceStore state}
    {store' : PersistenceStore state'} {represents : Registry → state → Prop}
    {represents' : Registry → state' → Prop} (h : store.StandsFor represents)
    (h' : store'.StandsFor represents') (workspace : String) {registry : Registry} {s : state}
    {s' : state'} (hs : represents registry s) (hs' : represents' registry s')
    (hsound : registry.Sound) (calls : List Call) :
    store.answers workspace s calls = store'.answers workspace s' calls := by
  induction calls generalizing registry s s' with
  | nil => rfl
  | cons c calls ih =>
      cases c with
      | save binding =>
          obtain ⟨hlater, hresult⟩ := h.save hs hsound workspace binding
          obtain ⟨hlater', hresult'⟩ := h'.save hs' hsound workspace binding
          have hrest := ih hlater hlater' (hsound.save workspace binding).1
          simp only [answers, call, hresult, hresult', hrest]
      | load given issuance =>
          simp only [answers, call, h.load hs hsound, h'.load hs' hsound, ih hs hs' hsound]
      | resolve given operation =>
          simp only [answers, call, h.resolve hs hsound, h'.resolve hs' hsound, ih hs hs' hsound]

/-! ## The two stores -/

variable [LawfulTextLibrary]

theorem memoryStore_standsFor : memoryStore.StandsFor MemoryOf where
  empty := .empty
  assignments h := h.assignments
  held := by
    intro registry m h hsound workspace issuance
    change (m.bindings.lookup (workspace, issuance)).map _ = _
    rw [h.bindings]
    cases hbinding : registry workspace issuance with
    | none => rfl
    | some binding =>
        obtain ⟨rfl, -⟩ := hsound.keyed _ _ _ hbinding
        exact congrArg some (validatedBinding_self binding)
  save h hsound := h.save hsound
  savedAgain h hsound _ _ _ := h.save_again hsound
  failedSave := by
    intro _ workspace m binding m' e hsave
    change m.saveAuthorityBinding workspace binding = (m', .error e) at hsave
    unfold MemoryStore.saveAuthorityBinding at hsave
    split at hsave
    · exact (congrArg Prod.fst hsave).symm
    split at hsave
    · exact (congrArg Prod.fst hsave).symm
    · split_ifs at hsave
      · cases congrArg Prod.snd hsave
      · exact (congrArg Prod.fst hsave).symm
    · split_ifs at hsave
      · exact (congrArg Prod.fst hsave).symm
      · cases congrArg Prod.snd hsave
  faultySave _ _ _ _ := .inl rfl
  load h hsound := h.load hsound
  faultyLoad _ _ _ _ _ := .refl _
  resolve h hsound := h.resolve hsound
  faultyResolve _ _ _ _ _ := .refl _

theorem sqliteStore_standsFor : sqliteStore.StandsFor TablesOf where
  empty := .empty
  assignments h := h.assignments
  held := by
    intro registry t h hsound workspace issuance
    change (t.bindings.lookup (workspace, issuance)).map _ = _
    rw [h.bindings]
    cases hbinding : registry workspace issuance with
    | none => rfl
    | some binding =>
        obtain ⟨rfl, rfl⟩ := hsound.keyed _ _ _ hbinding
        exact congrArg some (validatedBinding_self binding)
  save h hsound := h.save hsound
  savedAgain h hsound _ _ _ := h.save_again hsound
  failedSave := by
    intro faults workspace t binding t' e hsave
    change t.saveAuthorityBinding faults workspace binding = (t', .error e) at hsave
    unfold BindingTables.saveAuthorityBinding at hsave
    split at hsave
    · exact (congrArg Prod.fst hsave).symm
    split at hsave
    · cases congrArg Prod.snd hsave
    · exact (congrArg Prod.fst hsave).symm
    · exact (congrArg Prod.fst hsave).symm
  faultySave faults workspace t binding := saveAuthorityBinding_faulted faults workspace t binding
  load h hsound := h.load hsound
  faultyLoad faults workspace t := loadAuthorityBinding_faulted faults workspace t
  resolve h hsound := h.resolve hsound
  faultyResolve faults workspace t :=
    resolveAuthorityBindingForOperation_faulted faults workspace t

end PersistenceStore

end

/-! ## A library that keeps the laws -/

/-- A text of the form of a template, in which a zero stands for any digit. -/
def hasForm : List Char → List Char → Bool
  | [], [] => true
  | d :: template, c :: s => (if d = '0' then c.isDigit else c = d) && hasForm template s
  | _, _ => false

def timestampForm : List Char := "0000-00-00T00:00:00Z".toList

/-- A timestamp in UTC with whole seconds is written as it is. -/
@[reducible] def referenceTimestamps : TimestampLibrary where
  utcText s := if hasForm timestampForm s.toList then some s else none

@[reducible] def referenceUnicode : UnicodeLibrary where
  nfc s := s
  rstrip s := String.ofList (ReferenceLibrary.stripRight s.toList)

theorem stripRight_eq (s : List Char) :
    ReferenceLibrary.stripRight s = s.rdropWhile Char.isWhitespace := rfl

theorem stripRight_stripText (s : List Char) :
    ReferenceLibrary.stripRight (ReferenceLibrary.stripText s) = ReferenceLibrary.stripText s := by
  simp only [ReferenceLibrary.stripText, stripRight_eq, List.rdropWhile_idempotent]

theorem stripText_stripText (s : List Char) :
    ReferenceLibrary.stripText (ReferenceLibrary.stripText s) = ReferenceLibrary.stripText s := by
  have hhead : (ReferenceLibrary.stripText s).dropWhile Char.isWhitespace =
      ReferenceLibrary.stripText s := by
    rw [List.dropWhile_eq_self_iff]
    intro hlength
    have hinitial : ReferenceLibrary.stripText s <+: s.dropWhile Char.isWhitespace :=
      List.rdropWhile_prefix _ _
    have hsame := List.IsPrefix.getElem hinitial hlength
    rw [hsame]
    exact List.dropWhile_get_zero_not Char.isWhitespace s (hlength.trans_le hinitial.length_le)
  rw [ReferenceLibrary.stripText, hhead, stripRight_stripText]

theorem graphic_not_whitespace {c : Char} (h : 0x21 ≤ c.toNat) : c.isWhitespace = false := by
  rw [Bool.eq_false_iff]
  intro hblank
  simp only [Char.isWhitespace, Bool.or_eq_true, decide_eq_true_eq] at hblank
  rcases hblank with ((rfl | rfl) | rfl) | rfl <;> exact absurd h (by decide)

/-- Text without blanks has nothing to strip. -/
theorem strip_graphic {s : String} (h : Graphic s) :
    ReferenceLibrary.stripRight s.toList = s.toList ∧
      ReferenceLibrary.stripText s.toList = s.toList := by
  have hright : ReferenceLibrary.stripRight s.toList = s.toList := by
    rw [stripRight_eq, List.rdropWhile_eq_self_iff]
    intro hs
    simp [graphic_not_whitespace (h _ (List.getLast_mem hs)).1]
  have hleft : s.toList.dropWhile Char.isWhitespace = s.toList := by
    rw [List.dropWhile_eq_self_iff]
    intro hs
    simp [graphic_not_whitespace (h _ (List.getElem_mem hs)).1]
  exact ⟨hright, by rw [ReferenceLibrary.stripText, hleft, hright]⟩

theorem hasForm_graphic {template s : List Char} (h : hasForm template s = true)
    (htemplate : ∀ d ∈ template, 0x21 ≤ d.toNat ∧ d.toNat ≤ 0x7e) :
    ∀ c ∈ s, 0x21 ≤ c.toNat ∧ c.toNat ≤ 0x7e := by
  induction template, s using hasForm.induct with
  | case1 => simp
  | case2 d template c s ih =>
      obtain ⟨hd, hrest⟩ := List.forall_mem_cons.mp htemplate
      simp only [hasForm, Bool.and_eq_true] at h
      refine List.forall_mem_cons.mpr ⟨?_, ih h.2 hrest⟩
      have hc := h.1
      split_ifs at hc with hdigit
      · simp only [Char.isDigit, Bool.and_eq_true, decide_eq_true_eq,
          UInt32.le_iff_toNat_le] at hc
        have hlow : 48 ≤ c.toNat := hc.1
        have hhigh : c.toNat ≤ 57 := hc.2
        omega
      · rw [decide_eq_true_eq] at hc
        rw [hc]
        exact hd
  | case3 => simp [hasForm] at h

theorem timestamp_graphic {s : String} (h : hasForm timestampForm s.toList = true) :
    Graphic s ∧ s ≠ "" := by
  refine ⟨hasForm_graphic h (List.all_iff_forall_prop.mp (by decide)), ?_⟩
  rintro rfl
  exact absurd h (by decide)

section
attribute [local instance] ReferenceLibrary.referenceLibrary referenceTimestamps referenceUnicode

theorem referenceLibrary_lawful : LawfulTextLibrary where
  graphic {s} h := by
    obtain ⟨hright, htext⟩ := strip_graphic h
    refine ⟨rfl, ?_, ?_⟩
    · change String.ofList (ReferenceLibrary.stripText s.toList) = s
      rw [htext, String.ofList_toList]
    · change String.ofList (ReferenceLibrary.stripRight s.toList) = s
      rw [hright, String.ofList_toList]
  nfc_strip _ := rfl
  strip_strip s := by
    change String.ofList (ReferenceLibrary.stripText
      (String.ofList (ReferenceLibrary.stripText s.toList)).toList) = _
    rw [String.toList_ofList, stripText_stripText]
    rfl
  rstrip_strip s := by
    change String.ofList (ReferenceLibrary.stripRight
      (String.ofList (ReferenceLibrary.stripText s.toList)).toList) = _
    rw [String.toList_ofList, stripRight_stripText]
    rfl
  utcText {s written} h := by
    change (if hasForm timestampForm s.toList then some s else none) = some written at h
    split_ifs at h with hform
    obtain rfl := Option.some.inj h
    obtain ⟨hgraphic, hs⟩ := timestamp_graphic hform
    exact ⟨hgraphic, hs, if_pos hform⟩

def sampleArguments : BindingArguments where
  domain := .str bindingDomain
  payloadVersion := .int 1
  workspaceIdentity := .str " workspace-1"
  applicationId := .str "application-0000000000000000000000000000000000000000000000000000000000000000"
  credentialBindingId := .str "binding-0000000000000000000000000000000000000000000000000000000000000000"
  requiredCapabilities := Value.texts ["issues:write", "issues:read"]
  authorityIssuedAt := .str "2026-01-01T00:00:00Z"
  attestationArtifactId := .str "artifact-0000000000000000000000000000000000000000000000000000000000000000"
  attestationArtifactDigest := .str "sha256:0000000000000000000000000000000000000000000000000000000000000000"
  authorizedOperationIdentities := Value.texts ["operation-0000000000000000000000000000000000000000000000000000000000000000"]

def sampleFields : BindingFields where
  domain := bindingDomain
  payloadVersion := 1
  workspaceIdentity := "workspace-1"
  applicationId := "application-0000000000000000000000000000000000000000000000000000000000000000"
  credentialBindingId := "binding-0000000000000000000000000000000000000000000000000000000000000000"
  requiredCapabilities := ["issues:read", "issues:write"]
  authorityIssuedAt := "2026-01-01T00:00:00Z"
  attestationArtifactId := "artifact-0000000000000000000000000000000000000000000000000000000000000000"
  attestationArtifactDigest := "sha256:0000000000000000000000000000000000000000000000000000000000000000"
  authorizedOperationIdentities := ["operation-0000000000000000000000000000000000000000000000000000000000000000"]

theorem sampleArguments_postInit : sampleArguments.postInit = .ok sampleFields := by
  decide +kernel

def sampleRecord : AuthorityBindingRecord :=
  ⟨sampleFields, sampleArguments, sampleArguments_postInit⟩

def sampleProof : String :=
  "AAAAAAAAAAAAAAAAAAAAAAAAAAAAAAAAAAAAAAAAAAAAAAAAAAAAAAAAAAAAAAAAAAAAAAAAAAAAAAAAAAAAAA"

def sampleSigned : SignedFields :=
  { payload := sampleRecord, issuerId := "issuer-1", keyId := "key-1", signatureAlgorithm,
    proof := sampleProof }

theorem sampleSigned_postInit :
    signedPostInit sampleRecord (.str "issuer-1") (.str "key-1") (.str "ed25519")
      (.str sampleProof) = .ok sampleSigned := by
  decide +kernel

def sampleBinding : SignedAuthorityBinding :=
  ⟨sampleSigned, .str "issuer-1", .str "key-1", .str "ed25519", .str sampleProof,
    sampleSigned_postInit⟩

end

/-- Through every history of either store an operation has one issuance, and over
a sequential history the two stores answer alike. -/
theorem one_issuance_per_operation [PythonLibrary] [UnicodeLibrary] [TimestampLibrary]
    [LawfulTextLibrary] :
    memoryStore.OneIssuancePerOperation ∧ sqliteStore.OneIssuancePerOperation ∧
      ∀ workspace calls, memoryStore.answers workspace memoryStore.empty calls =
        sqliteStore.answers workspace sqliteStore.empty calls :=
  ⟨PersistenceStore.memoryStore_standsFor.oneIssuance,
    PersistenceStore.sqliteStore_standsFor.oneIssuance, fun workspace calls =>
      PersistenceStore.memoryStore_standsFor.answers_eq PersistenceStore.sqliteStore_standsFor
        workspace MemoryOf.empty TablesOf.empty Registry.empty_sound calls⟩

/-- With ASCII text functions the laws hold, and a signed binding is issued. -/
theorem one_issuance_per_operation_sample :
    ∃ (_ : PythonLibrary) (_ : UnicodeLibrary) (_ : TimestampLibrary)
      (binding : SignedAuthorityBinding) (t : BindingTables) (p : PersistedAuthorityBinding),
      sqliteStore.saveAuthorityBinding noFaults "workspace-1" sqliteStore.empty binding =
        (t, .ok p) ∧ p.signed = binding ∧
      memoryStore.OneIssuancePerOperation ∧ sqliteStore.OneIssuancePerOperation ∧
        ∀ workspace calls, memoryStore.answers workspace memoryStore.empty calls =
          sqliteStore.answers workspace sqliteStore.empty calls := by
  have hlawful := referenceLibrary_lawful
  let _ := ReferenceLibrary.referenceLibrary
  let _ := referenceUnicode
  let _ := referenceTimestamps
  obtain ⟨t, p, hsave, hsigned⟩ :=
    PersistenceStore.sqliteStore_standsFor.firstSave sampleBinding
  exact ⟨_, _, _, sampleBinding, t, p, hsave, hsigned, one_issuance_per_operation⟩

end DeliverySystem.IssuanceHistories

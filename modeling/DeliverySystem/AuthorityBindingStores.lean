import DeliverySystem.AuthorityBindings
import DeliverySystem.KeyedRows

/-!
# The stores of authority bindings

Two implementations of one contract: a process-local one with two mappings, and
one over two SQLite tables. A save of the second is one `BEGIN IMMEDIATE`
transaction, which leaves what it found when it raises; any of its statements
may fail.
-/
namespace DeliverySystem.AuthorityBindingStores
open PythonValues CanonicalValues JsonText KeyedRows AuthorityBindings
set_option autoImplicit false

local instance bytesDecidableEq : DecidableEq ByteArray := ByteArray.instDecidableEq

def persistenceError (code : String) : Raised :=
  .valueError ("authority_binding_persistence_" ++ code)

section
variable [PythonLibrary] [UnicodeLibrary] [TimestampLibrary]

/-! ## Validation -/

/-- `_workspace` -/
def workspaceText (value : Value) : Py String := do
  let value ← orRaise value.text? (persistenceError "workspace_invalid")
  raiseIf (value = "" ∨ value ≠ PythonLibrary.strip value)
    "authority_binding_persistence_workspace_invalid"
  pure value

/-- `_issuance_id` and `_operation_identity`: the tag and a digest. -/
def lookupText (tag : String) (value : Value) : Py String := do
  let value ← orRaise value.text? (persistenceError "lookup_invalid")
  raiseIf (hexPattern tag value = false) "authority_binding_persistence_lookup_invalid"
  pure value

def rejectDuplicatePairs (pairs : Dict) : Option Value :=
  if (pairs.map Prod.fst).Nodup then some (.dict pairs) else none

/-- `_strict_json_object` -/
def strictJsonObject (value : ByteArray) : Py Value := do
  let corrupt := persistenceError "payload_corrupt"
  raiseIf (value = ByteArray.empty) "authority_binding_persistence_payload_corrupt"
  let decoded ← orRaise (String.fromUTF8? value) corrupt
  let parsed ← orRaise (loads rejectDuplicatePairs decoded) corrupt
  let fields ← orRaise parsed.mapping? corrupt
  pure (.dict fields)

/-- Whatever a constructor raises, the payload is corrupt. -/
def orPayloadCorrupt {α : Type} (x : Py α) : Py α :=
  match x with
  | .ok a => .ok a
  | .error _ => .error (persistenceError "payload_corrupt")

structure PersistedAuthorityBinding where
  signed : SignedAuthorityBinding
  canonicalPayload : ByteArray
  authorityIssuanceId : String
  payload_eq : signed.payload.canonicalBytes = .ok canonicalPayload
  issuance_eq : signed.payload.authorityIssuanceId = .ok authorityIssuanceId

instance : DecidableEq PersistedAuthorityBinding := fun a b =>
  decidable_of_iff (a.signed = b.signed ∧ a.canonicalPayload = b.canonicalPayload ∧
      a.authorityIssuanceId = b.authorityIssuanceId)
    ⟨fun h => by cases a; cases b; simp_all, fun h => by subst h; simp⟩

def PersistedAuthorityBinding.make (signed : SignedAuthorityBinding)
    (canonicalPayload : ByteArray) (authorityIssuanceId : String) :
    Py PersistedAuthorityBinding :=
  if payload_eq : signed.payload.canonicalBytes = .ok canonicalPayload then
    if issuance_eq : signed.payload.authorityIssuanceId = .ok authorityIssuanceId then
      .ok { signed, canonicalPayload, authorityIssuanceId, payload_eq, issuance_eq }
    else .error (persistenceError "issuance_id_corrupt")
  else .error (persistenceError "payload_corrupt")

/-- `_assignment_set` -/
def PersistedAuthorityBinding.operations (p : PersistedAuthorityBinding) : List String :=
  p.signed.payload.authorizedOperationIdentities

def PersistedAuthorityBinding.workspace (p : PersistedAuthorityBinding) : String :=
  p.signed.payload.workspaceIdentity

/-- `_validated_binding` -/
def validatedBinding (canonicalPayload : ByteArray)
    (authorityIssuanceId issuerId keyId algorithm proof expectedWorkspace : String) :
    Py PersistedAuthorityBinding := do
  let parsed ← strictJsonObject canonicalPayload
  let payload ← orPayloadCorrupt (AuthorityBindingRecord.fromDict parsed)
  let signed ← orPayloadCorrupt
    (SignedAuthorityBinding.make payload (.str issuerId) (.str keyId) (.str algorithm) (.str proof))
  raiseIf (payload.workspaceIdentity ≠ expectedWorkspace)
    "authority_binding_persistence_workspace_mismatch"
  let bytes ← payload.canonicalBytes
  raiseIf (bytes ≠ canonicalPayload) "authority_binding_persistence_payload_corrupt"
  let issuance ← payload.authorityIssuanceId
  raiseIf (issuance ≠ authorityIssuanceId) "authority_binding_persistence_issuance_id_corrupt"
  raiseIf (signed.signatureAlgorithm ≠ signatureAlgorithm)
    "authority_binding_persistence_envelope_corrupt"
  PersistedAuthorityBinding.make signed canonicalPayload authorityIssuanceId

/-- `_candidate` -/
def candidate (binding : SignedAuthorityBinding) (expectedWorkspace : String) :
    Py PersistedAuthorityBinding := do
  raiseIf (binding.payload.workspaceIdentity ≠ expectedWorkspace)
    "authority_binding_persistence_workspace_mismatch"
  let canonicalPayload ← binding.payload.canonicalBytes
  let issuance ← binding.payload.authorityIssuanceId
  validatedBinding canonicalPayload issuance binding.issuerId binding.keyId
    binding.signatureAlgorithm binding.proof expectedWorkspace

/-! ## Assignments -/

/-- A mapping from workspace and operation to the issuance it is assigned to. -/
abbrev Assignments := Rows (String × String) String

/-- The operations of a workspace that are assigned to an issuance. -/
def assignedTo (assignments : Assignments) (workspace issuance : String) : List String :=
  assignments.entries.filterMap fun row =>
    if row.1.1 = workspace ∧ row.2 = issuance then some row.1.2 else none

/-- Equality of two sets, each listed. -/
def sameSet (xs ys : List String) : Bool := xs.all (ys.contains ·) && ys.all (xs.contains ·)

/-- The binding of an issuance when its assignments are those of its payload. -/
def checkedBinding (assigned : List String) (stored : Option (Py PersistedAuthorityBinding)) :
    Py (Option PersistedAuthorityBinding) :=
  match stored with
  | none => do
      raiseIf (assigned ≠ []) "authority_binding_persistence_projection_corrupt"
      pure none
  | some binding => do
      let checked ← binding
      raiseIf (sameSet assigned checked.operations = false)
        "authority_binding_persistence_projection_corrupt"
      pure (some checked)

/-! ## The process-local store -/

structure MemoryStore where
  bindings : Rows (String × String) PersistedAuthorityBinding
  assignments : Assignments

def MemoryStore.empty : MemoryStore := { bindings := .empty, assignments := .empty }

namespace MemoryStore

/-- `_load_parent_locked` -/
def loadParent (m : MemoryStore) (workspace issuance : String) :
    Py (Option PersistedAuthorityBinding) :=
  checkedBinding (assignedTo m.assignments workspace issuance)
    ((m.bindings.lookup (workspace, issuance)).map fun binding =>
      validatedBinding binding.canonicalPayload binding.authorityIssuanceId binding.signed.issuerId
        binding.signed.keyId binding.signed.signatureAlgorithm binding.signed.proof workspace)

/-- Every check comes before the first write. The order in which a `frozenset`
is walked cannot be seen. -/
def saveAuthorityBinding (workspace : String) (m : MemoryStore)
    (binding : SignedAuthorityBinding) : MemoryStore × Py PersistedAuthorityBinding :=
  match candidate binding workspace with
  | .error e => (m, .error e)
  | .ok made =>
      match m.loadParent workspace made.authorityIssuanceId with
      | .error e => (m, .error e)
      | .ok (some existing) =>
          if existing = made then (m, .ok existing)
          else (m, .error (persistenceError "conflict"))
      | .ok none =>
          if ∃ operation ∈ made.operations,
              (m.assignments.lookup (workspace, operation)).isSome then
            (m, .error (persistenceError "operation_conflict"))
          else
            ({ bindings := m.bindings.put (workspace, made.authorityIssuanceId) made
               assignments := made.operations.foldl
                (fun rows operation => rows.put (workspace, operation) made.authorityIssuanceId)
                m.assignments }, .ok made)

def loadAuthorityBinding (workspace : String) (m : MemoryStore)
    (workspaceIdentity authorityIssuanceId : Value) : Py (Option PersistedAuthorityBinding) := do
  let given ← workspaceText workspaceIdentity
  let issuance ← lookupText "authority-issuance-" authorityIssuanceId
  raiseIf (given ≠ workspace) "authority_binding_persistence_workspace_mismatch"
  m.loadParent workspace issuance

def resolveAuthorityBindingForOperation (workspace : String) (m : MemoryStore)
    (workspaceIdentity operationIdentity : Value) : Py (Option PersistedAuthorityBinding) := do
  let given ← workspaceText workspaceIdentity
  let operation ← lookupText "operation-" operationIdentity
  raiseIf (given ≠ workspace) "authority_binding_persistence_workspace_mismatch"
  match m.assignments.lookup (given, operation) with
  | none => pure none
  | some issuance => do
      let found ← m.loadParent workspace issuance
      let binding ← orRaise found (persistenceError "projection_corrupt")
      raiseIf (operation ∉ binding.operations) "authority_binding_persistence_projection_corrupt"
      pure (some binding)

end MemoryStore

/-! ## The SQLite store -/

structure BindingRow where
  canonicalPayload : ByteArray
  issuerId : String
  keyId : String
  signatureAlgorithm : String
  detachedProof : String

structure BindingTables where
  bindings : Rows (String × String) BindingRow
  assignments : Assignments

def BindingTables.empty : BindingTables := { bindings := .empty, assignments := .empty }

/-- A failure of SQLite itself. -/
inductive SqliteFault where
  | busy
  | operational
deriving Repr, DecidableEq

def SqliteFault.raised : SqliteFault → Raised
  | .busy => persistenceError "sqlite_busy"
  | .operational => persistenceError "sqlite_operational"

/-- Which statements of a transaction fail, by their number. -/
abbrev Faults := Nat → Option SqliteFault

def noFaults : Faults := fun _ => none

def statement (faults : Faults) (number : Nat) : Py Unit :=
  match faults number with
  | some fault => .error fault.raised
  | none => .ok ()

namespace BindingTables

/-- `_load_parent_locked`, whose statements are numbered from `first`. -/
def loadParent (faults : Faults) (first : Nat) (t : BindingTables) (workspace issuance : String) :
    Py (Option PersistedAuthorityBinding) := do
  statement faults first
  statement faults (first + 1)
  checkedBinding (assignedTo t.assignments workspace issuance)
    ((t.bindings.lookup (workspace, issuance)).map fun row =>
      validatedBinding row.canonicalPayload issuance row.issuerId row.keyId row.signatureAlgorithm
        row.detachedProof workspace)

/-- `INSERT INTO authority_bindings`, with the constraints of the table. -/
def insertBinding (t : BindingTables) (workspace issuance : String) (row : BindingRow) :
    Py BindingTables :=
  if workspace = "" ∨ issuance = "" ∨ row.canonicalPayload = ByteArray.empty ∨ row.issuerId = "" ∨
      row.keyId = "" ∨ row.signatureAlgorithm ≠ "ed25519" ∨ row.detachedProof = "" then
    .error .integrityError
  else do
    let bindings ← orRaise (t.bindings.insert (workspace, issuance) row) .integrityError
    pure { t with bindings }

/-- `INSERT INTO authority_binding_operations`, with the constraints of the table. -/
def insertAssignment (t : BindingTables) (workspace operation issuance : String) :
    Py BindingTables :=
  if workspace = "" ∨ operation = "" ∨ issuance = "" ∨
      t.bindings.lookup (workspace, issuance) = none then
    .error .integrityError
  else do
    let assignments ← orRaise (t.assignments.insert (workspace, operation) issuance)
      .integrityError
    pure { t with assignments }

def insertAssignments (faults : Faults) (workspace issuance : String) :
    Nat → BindingTables → List String → Py BindingTables
  | _, t, [] => pure t
  | number, t, operation :: rest => do
      statement faults number
      let t ← t.insertAssignment workspace operation issuance
      insertAssignments faults workspace issuance (number + 1) t rest

/-- From `BEGIN IMMEDIATE` to `commit`. -/
def saveTransaction (faults : Faults) (workspace : String) (t : BindingTables)
    (made : PersistedAuthorityBinding) : Py (BindingTables × PersistedAuthorityBinding) := do
  statement faults 0
  let found ← t.loadParent faults 1 workspace made.authorityIssuanceId
  match found with
  | some existing => do
      raiseIf (existing ≠ made) "authority_binding_persistence_conflict"
      statement faults 3
      pure (t, existing)
  | none => do
      statement faults 3
      let t ← t.insertBinding workspace made.authorityIssuanceId
        { canonicalPayload := made.canonicalPayload
          issuerId := made.signed.issuerId
          keyId := made.signed.keyId
          signatureAlgorithm := made.signed.signatureAlgorithm
          detachedProof := made.signed.proof }
      let operations := made.operations.insertionSort (· ≤ ·)
      let t ← insertAssignments faults workspace made.authorityIssuanceId 4 t operations
      statement faults (4 + operations.length)
      pure (t, made)

/-- A transaction that raises is rolled back; a violated constraint is a conflict. -/
def saveAuthorityBinding (faults : Faults) (workspace : String) (t : BindingTables)
    (binding : SignedAuthorityBinding) : BindingTables × Py PersistedAuthorityBinding :=
  match candidate binding workspace with
  | .error e => (t, .error e)
  | .ok made =>
      match saveTransaction faults workspace t made with
      | .ok (t', result) => (t', .ok result)
      | .error .integrityError => (t, .error (persistenceError "operation_conflict"))
      | .error e => (t, .error e)

def loadAuthorityBinding (faults : Faults) (workspace : String) (t : BindingTables)
    (workspaceIdentity authorityIssuanceId : Value) : Py (Option PersistedAuthorityBinding) := do
  let given ← workspaceText workspaceIdentity
  let issuance ← lookupText "authority-issuance-" authorityIssuanceId
  raiseIf (given ≠ workspace) "authority_binding_persistence_workspace_mismatch"
  statement faults 0
  let found ← t.loadParent faults 1 workspace issuance
  statement faults 3
  pure found

def resolveAuthorityBindingForOperation (faults : Faults) (workspace : String) (t : BindingTables)
    (workspaceIdentity operationIdentity : Value) : Py (Option PersistedAuthorityBinding) := do
  let given ← workspaceText workspaceIdentity
  let operation ← lookupText "operation-" operationIdentity
  raiseIf (given ≠ workspace) "authority_binding_persistence_workspace_mismatch"
  statement faults 0
  statement faults 1
  match t.assignments.lookup (given, operation) with
  | none => do
      statement faults 2
      pure none
  | some issuance => do
      let found ← t.loadParent faults 2 workspace issuance
      let binding ← orRaise found (persistenceError "projection_corrupt")
      raiseIf (operation ∉ binding.operations) "authority_binding_persistence_projection_corrupt"
      statement faults 4
      pure (some binding)

end BindingTables
end
end DeliverySystem.AuthorityBindingStores

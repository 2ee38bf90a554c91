import DeliverySystem.AuthorityBindingStores
import Mathlib.Logic.Relation

/-!
# One issuance for each operation

A registry is what both stores of authority bindings are for: it holds one
binding for each issuance it knows, and no two of them share an operation.
Either store stands for a registry, and a save of it is a save of the registry;
what holds of all histories is then shown once, for registries.
-/
namespace DeliverySystem.IssuanceRegistry
open PythonValues CanonicalValues JsonText KeyedRows AuthorityBindings AuthorityBindingStores
set_option autoImplicit false

section
variable [PythonLibrary] [UnicodeLibrary] [TimestampLibrary]

/-! ## Validated bindings -/

theorem make_signed {payload : AuthorityBindingRecord} {issuerId keyId algorithm proof : Value}
    {signed : SignedAuthorityBinding}
    (h : SignedAuthorityBinding.make payload issuerId keyId algorithm proof = .ok signed) :
    signed.payload = payload := by
  unfold SignedAuthorityBinding.make at h
  split at h
  · rename_i fields hfields
    rw [← Except.ok.inj h]
    exact signedPostInit_payload hfields
  · cases h

omit [PythonLibrary] [UnicodeLibrary] [TimestampLibrary] in
theorem orPayloadCorrupt_eq_ok {α : Type} {x : Py α} {a : α} :
    orPayloadCorrupt x = .ok a ↔ x = .ok a := by
  cases x <;> simp [orPayloadCorrupt]

theorem make_persisted {signed : SignedAuthorityBinding} {canonicalPayload : ByteArray}
    {issuance : String} {made : PersistedAuthorityBinding}
    (h : PersistedAuthorityBinding.make signed canonicalPayload issuance = .ok made) :
    made.signed = signed := by
  unfold PersistedAuthorityBinding.make at h
  split_ifs at h
  rw [← Except.ok.inj h]

/-- A candidate is in the workspace it was made for. -/
theorem candidate_workspace {binding : SignedAuthorityBinding} {workspace : String}
    {made : PersistedAuthorityBinding} (h : candidate binding workspace = .ok made) :
    made.workspace = workspace := by
  simp only [candidate, validatedBinding, bind_eq_ok, raiseIf_eq_ok, not_not,
    orPayloadCorrupt_eq_ok] at h
  obtain ⟨_, -, _, -, _, -, _, -, payload, -, signed, hsigned, _, hworkspace, _, -, _, -, _, -, _,
    -, _, -, hmade⟩ := h
  rw [PersistedAuthorityBinding.workspace, make_persisted hmade, make_signed hsigned, hworkspace]

/-! ## Registries -/

/-- The bindings by workspace and issuance. -/
abbrev Registry := String → String → Option PersistedAuthorityBinding

namespace Registry

def empty : Registry := fun _ _ => none

def Assigned (registry : Registry) (workspace operation issuance : String) : Prop :=
  ∃ binding, registry workspace issuance = some binding ∧ operation ∈ binding.operations

structure Sound (registry : Registry) : Prop where
  keyed : ∀ workspace issuance binding, registry workspace issuance = some binding →
    binding.workspace = workspace ∧ binding.authorityIssuanceId = issuance
  sole : ∀ workspace operation issuance issuance',
    registry.Assigned workspace operation issuance →
    registry.Assigned workspace operation issuance' → issuance = issuance'

def add (registry : Registry) (made : PersistedAuthorityBinding) : Registry :=
  fun workspace issuance =>
    if workspace = made.workspace ∧ issuance = made.authorityIssuanceId then some made
    else registry workspace issuance

open Classical in
/-- Register a binding: again, in conflict with one of the same issuance or of
the same operation, or for the first time. -/
noncomputable def save (registry : Registry) (workspace : String)
    (binding : SignedAuthorityBinding) : Registry × Py PersistedAuthorityBinding :=
  match candidate binding workspace with
  | .error e => (registry, .error e)
  | .ok made =>
      match registry workspace made.authorityIssuanceId with
      | some existing =>
          if existing = made then (registry, .ok existing)
          else (registry, .error (persistenceError "conflict"))
      | none =>
          if ∃ operation ∈ made.operations, ∃ issuance,
              registry.Assigned workspace operation issuance then
            (registry, .error (persistenceError "operation_conflict"))
          else (registry.add made, .ok made)

def load (registry : Registry) (workspace : String)
    (workspaceIdentity authorityIssuanceId : Value) : Py (Option PersistedAuthorityBinding) := do
  let given ← workspaceText workspaceIdentity
  let issuance ← lookupText "authority-issuance-" authorityIssuanceId
  raiseIf (given ≠ workspace) "authority_binding_persistence_workspace_mismatch"
  pure (registry workspace issuance)

open Classical in
/-- The binding that an operation is assigned to. -/
noncomputable def holder (registry : Registry) (workspace operation : String) :
    Option PersistedAuthorityBinding :=
  if h : ∃ issuance, registry.Assigned workspace operation issuance then
    registry workspace h.choose
  else none

noncomputable def resolve (registry : Registry) (workspace : String)
    (workspaceIdentity operationIdentity : Value) : Py (Option PersistedAuthorityBinding) := do
  let given ← workspaceText workspaceIdentity
  let operation ← lookupText "operation-" operationIdentity
  raiseIf (given ≠ workspace) "authority_binding_persistence_workspace_mismatch"
  pure (registry.holder workspace operation)

/-- A later registry knows every binding of an earlier one. -/
def Extends (registry later : Registry) : Prop :=
  ∀ workspace issuance binding, registry workspace issuance = some binding →
    later workspace issuance = some binding

theorem Extends.refl (registry : Registry) : registry.Extends registry := fun _ _ _ h => h

theorem Extends.trans {registry later last : Registry} (h : registry.Extends later)
    (h' : later.Extends last) : registry.Extends last :=
  fun workspace issuance binding hbinding =>
    h' workspace issuance binding (h workspace issuance binding hbinding)

theorem Extends.assigned {registry later : Registry} (h : registry.Extends later)
    {workspace operation issuance : String} (hassigned : registry.Assigned workspace operation issuance) :
    later.Assigned workspace operation issuance := by
  obtain ⟨binding, hbinding, hoperation⟩ := hassigned
  exact ⟨binding, h _ _ _ hbinding, hoperation⟩

theorem empty_sound : Sound empty where
  keyed := by simp [empty]
  sole := by simp [Assigned, empty]

theorem add_extends {registry : Registry} {made : PersistedAuthorityBinding}
    (h : registry made.workspace made.authorityIssuanceId = none) :
    registry.Extends (registry.add made) := by
  intro workspace issuance binding hbinding
  unfold add
  rw [if_neg]
  · exact hbinding
  · rintro ⟨rfl, rfl⟩
    rw [h] at hbinding
    cases hbinding

theorem add_assigned {registry : Registry} {made : PersistedAuthorityBinding}
    (h : registry made.workspace made.authorityIssuanceId = none)
    {workspace operation issuance : String} :
    (registry.add made).Assigned workspace operation issuance ↔
      registry.Assigned workspace operation issuance ∨
        workspace = made.workspace ∧ issuance = made.authorityIssuanceId ∧
          operation ∈ made.operations := by
  unfold Assigned add
  by_cases hkey : workspace = made.workspace ∧ issuance = made.authorityIssuanceId
  · obtain ⟨rfl, rfl⟩ := hkey
    simp [h]
  · simp only [if_neg hkey]
    refine ⟨.inl, fun hassigned => hassigned.elim id fun hnew => ?_⟩
    exact absurd ⟨hnew.1, hnew.2.1⟩ hkey

theorem Sound.save {registry : Registry} (h : registry.Sound) (workspace : String)
    (binding : SignedAuthorityBinding) :
    (registry.save workspace binding).1.Sound ∧
      registry.Extends (registry.save workspace binding).1 := by
  unfold Registry.save
  split
  · exact ⟨h, .refl _⟩
  rename_i made hmade
  have hworkspace := candidate_workspace hmade
  subst hworkspace
  split
  · split_ifs
    · exact ⟨h, .refl _⟩
    · exact ⟨h, .refl _⟩
  rename_i hnone
  split_ifs with hconflict
  · exact ⟨h, .refl _⟩
  have hfree : ∀ operation ∈ made.operations, ∀ issuance,
      ¬registry.Assigned made.workspace operation issuance := by
    intro operation hoperation issuance hassigned
    exact hconflict ⟨operation, hoperation, issuance, hassigned⟩
  refine ⟨⟨?_, ?_⟩, add_extends hnone⟩
  · intro workspace issuance binding' hbinding'
    change registry.add made workspace issuance = some binding' at hbinding'
    unfold add at hbinding'
    split_ifs at hbinding' with hkey
    · obtain rfl := Option.some.inj hbinding'
      exact ⟨hkey.1.symm, hkey.2.symm⟩
    · exact h.keyed workspace issuance binding' hbinding'
  · intro workspace operation issuance issuance' hassigned hassigned'
    rcases (add_assigned hnone).mp hassigned with hold | ⟨rfl, rfl, hoperation⟩ <;>
      rcases (add_assigned hnone).mp hassigned' with hold' | ⟨hsame, rfl, hoperation'⟩
    · exact h.sole _ _ _ _ hold hold'
    · subst hsame
      exact absurd hold (hfree operation hoperation' issuance)
    · exact absurd hold' (hfree operation hoperation issuance')
    · rfl

theorem Sound.holder_eq {registry : Registry} (h : registry.Sound)
    {workspace operation issuance : String} {binding : PersistedAuthorityBinding}
    (hbinding : registry workspace issuance = some binding)
    (hoperation : operation ∈ binding.operations) :
    registry.holder workspace operation = some binding := by
  have hassigned : ∃ issuance, registry.Assigned workspace operation issuance :=
    ⟨issuance, binding, hbinding, hoperation⟩
  have hsame : hassigned.choose = issuance :=
    h.sole _ _ _ _ hassigned.choose_spec ⟨binding, hbinding, hoperation⟩
  rw [holder, dif_pos hassigned, hsame, hbinding]

theorem holder_eq_none {registry : Registry} {workspace operation : String}
    (h : ∀ issuance, ¬registry.Assigned workspace operation issuance) :
    registry.holder workspace operation = none := by
  rw [holder, dif_neg (not_exists.mpr h)]

/-- A save that returns leaves the binding registered. -/
theorem save_returned {registry : Registry} {workspace : String}
    {binding : SignedAuthorityBinding} {made : PersistedAuthorityBinding}
    (h : (registry.save workspace binding).2 = .ok made) :
    candidate binding workspace = .ok made ∧
      (registry.save workspace binding).1 workspace made.authorityIssuanceId = some made := by
  unfold Registry.save at h ⊢
  split at h
  · cases h
  rename_i made' hmade
  rw [hmade]
  split at h
  · rename_i existing hexisting
    split_ifs at h with hsame
    obtain rfl := Except.ok.inj h
    subst hsame
    rw [if_pos rfl]
    exact ⟨rfl, hexisting⟩
  · rename_i hnone
    split_ifs at h with hconflict
    obtain rfl := Except.ok.inj h
    rw [if_neg hconflict]
    exact ⟨rfl, if_pos ⟨(candidate_workspace hmade).symm, rfl⟩⟩

/-- Saving a registered binding again returns it. -/
theorem save_again {registry : Registry} {workspace : String} {binding : SignedAuthorityBinding}
    {made : PersistedAuthorityBinding} (hmade : candidate binding workspace = .ok made)
    (hregistered : registry workspace made.authorityIssuanceId = some made) :
    registry.save workspace binding = (registry, .ok made) := by
  unfold Registry.save
  rw [hmade]
  dsimp only
  rw [hregistered]
  exact if_pos rfl

end Registry
end
end DeliverySystem.IssuanceRegistry

import DeliverySystem.IssuanceRegistry

/-!
# Both stores keep a registry

What a store holds for an issuance validates to the binding that was saved, so a
read never finds corruption. Each save of either store, from the first to the
last, is a save of the registry that the store stands for.
-/
namespace DeliverySystem.AuthorityIssuance
open PythonValues CanonicalValues JsonText KeyedRows AuthorityBindings AuthorityBindingStores
open IssuanceRegistry
set_option autoImplicit false

section
variable [PythonLibrary] [UnicodeLibrary] [TimestampLibrary] [LawfulTextLibrary]

/-! ## Stored bindings validate -/

omit [PythonLibrary] [UnicodeLibrary] [TimestampLibrary] [LawfulTextLibrary] in
theorem rejectDuplicatePairs_keeps : KeepsDistinct rejectDuplicatePairs := by
  intro entries hnodup
  rw [rejectDuplicatePairs, if_pos hnodup]

omit [PythonLibrary] [UnicodeLibrary] [TimestampLibrary] [LawfulTextLibrary] in
theorem canonicalPayload_ne_empty {canonical : Dict} :
    (dumps (.dict canonical)).toUTF8 ≠ ByteArray.empty := by
  rw [String.toUTF8_eq_toByteArray, ne_eq, String.toByteArray_eq_empty_iff]
  intro hempty
  have hlist := congrArg String.toList hempty
  simp [dumps, render] at hlist

omit [PythonLibrary] [UnicodeLibrary] [TimestampLibrary] [LawfulTextLibrary] in
theorem fromUTF8?_toUTF8 (s : String) : String.fromUTF8? s.toUTF8 = some s :=
  dif_pos s.isValidUTF8

omit [LawfulTextLibrary] in
theorem strictJsonObject_canonical (r : AuthorityBindingRecord) :
    strictJsonObject (dumps (.dict r.canonical)).toUTF8 = .ok (.dict r.canonical) := by
  have hread : loads rejectDuplicatePairs (dumps (.dict r.canonical)) =
      some (.dict r.canonical) := loads_dumps rejectDuplicatePairs_keeps r.canonical_plain
  simp only [strictJsonObject, bind_eq_ok, raiseIf_eq_ok, orRaise_eq_ok, pure_eq_ok,
    fromUTF8?_toUTF8]
  exact ⟨(), canonicalPayload_ne_empty, _, rfl, _, hread, _, rfl, rfl⟩

omit [LawfulTextLibrary] in
theorem make_persisted_ok (p : PersistedAuthorityBinding) :
    PersistedAuthorityBinding.make p.signed p.canonicalPayload p.authorityIssuanceId = .ok p := by
  unfold PersistedAuthorityBinding.make
  rw [dif_pos p.payload_eq, dif_pos p.issuance_eq]

/-- A persisted binding is validated from its own fields. -/
theorem validatedBinding_self (p : PersistedAuthorityBinding) :
    validatedBinding p.canonicalPayload p.authorityIssuanceId p.signed.issuerId p.signed.keyId
      p.signed.signatureAlgorithm p.signed.proof p.workspace = .ok p := by
  have hpayload := p.payload_eq
  rw [AuthorityBindingRecord.canonicalBytes_eq] at hpayload
  have hbytes := Except.ok.inj hpayload
  have halgorithm : p.signed.signatureAlgorithm = signatureAlgorithm := by
    obtain ⟨_, _, _, _, hmade⟩ := p.signed.made
    simp only [signedPostInit, bind_eq_ok, pure_eq_ok] at hmade
    obtain ⟨_, -, _, -, _, -, _, -, hfields⟩ := hmade
    rw [← hfields]
  simp only [validatedBinding, bind_eq_ok, raiseIf_eq_ok, orPayloadCorrupt_eq_ok, not_not]
  refine ⟨.dict p.signed.payload.canonical, ?_, p.signed.payload,
    p.signed.payload.fromDict_canonical, p.signed, p.signed.make_again, (), rfl,
    p.canonicalPayload, p.payload_eq, (), rfl, p.authorityIssuanceId, p.issuance_eq, (), rfl, (),
    halgorithm, make_persisted_ok p⟩
  rw [← hbytes]
  exact strictJsonObject_canonical _

/-- A binding of the workspace has a candidate, which holds it. -/
theorem candidate_ok (binding : SignedAuthorityBinding) :
    ∃ made, candidate binding binding.payload.workspaceIdentity = .ok made ∧
      made.signed = binding := by
  obtain ⟨bytes, hpayload⟩ : ∃ bytes, binding.payload.canonicalBytes = .ok bytes :=
    ⟨_, AuthorityBindingRecord.canonicalBytes_eq binding.payload⟩
  obtain ⟨issuance, hissuance⟩ : ∃ issuance, binding.payload.authorityIssuanceId = .ok issuance :=
    ⟨_, AuthorityBindingRecord.authorityIssuanceId_eq binding.payload⟩
  have hvalid := validatedBinding_self ⟨binding, bytes, issuance, hpayload, hissuance⟩
  refine ⟨⟨binding, bytes, issuance, hpayload, hissuance⟩, ?_, rfl⟩
  simp only [candidate, bind_eq_ok, raiseIf_eq_ok, not_not]
  exact ⟨(), trivial, _, hpayload, _, hissuance, hvalid⟩

theorem candidate_eq_ok {binding : SignedAuthorityBinding} {workspace : String}
    {made : PersistedAuthorityBinding} (h : candidate binding workspace = .ok made) :
    made.signed = binding ∧ made.workspace = workspace := by
  have hworkspace := candidate_workspace h
  have hsame : binding.payload.workspaceIdentity = workspace := by
    simp only [candidate, bind_eq_ok, raiseIf_eq_ok, not_not] at h
    exact h.choose_spec.1
  subst hsame
  obtain ⟨made', hmade', hsigned⟩ := candidate_ok binding
  obtain rfl := Except.ok.inj (hmade'.symm.trans h)
  exact ⟨hsigned, hworkspace⟩

/-! ## What a store holds for a registry -/

omit [PythonLibrary] [UnicodeLibrary] [TimestampLibrary] [LawfulTextLibrary] in
theorem mem_assignedTo {assignments : Assignments} {workspace issuance operation : String} :
    operation ∈ assignedTo assignments workspace issuance ↔
      assignments.lookup (workspace, operation) = some issuance := by
  rw [Rows.lookup_eq_some_iff, assignedTo, List.mem_filterMap]
  constructor
  · rintro ⟨⟨⟨w, o⟩, i⟩, hmem, hrow⟩
    split_ifs at hrow with hkey
    obtain ⟨rfl, rfl⟩ := hkey
    obtain rfl := Option.some.inj hrow
    exact hmem
  · intro hmem
    exact ⟨_, hmem, if_pos ⟨rfl, rfl⟩⟩

omit [PythonLibrary] [UnicodeLibrary] [TimestampLibrary] [LawfulTextLibrary] in
theorem sameSet_iff {xs ys : List String} : sameSet xs ys = true ↔ ∀ x, x ∈ xs ↔ x ∈ ys := by
  simp only [sameSet, Bool.and_eq_true, List.all_eq_true, List.contains_eq_mem,
    decide_eq_true_eq]
  exact ⟨fun ⟨h, g⟩ x => ⟨h x, g x⟩, fun h => ⟨fun x => (h x).mp, fun x => (h x).mpr⟩⟩

omit [LawfulTextLibrary] in
/-- A binding whose assignments are its operations passes its check. -/
theorem checkedBinding_eq {assigned : List String} {found : Option PersistedAuthorityBinding}
    (h : ∀ operation, operation ∈ assigned ↔
      ∃ binding, found = some binding ∧ operation ∈ binding.operations) :
    checkedBinding assigned (found.map .ok) = .ok found := by
  cases found with
  | none =>
      have hnil : assigned = [] := by
        refine List.eq_nil_iff_forall_not_mem.mpr fun operation hmem => ?_
        obtain ⟨binding, hbinding, -⟩ := (h operation).mp hmem
        cases hbinding
      simp only [checkedBinding, Option.map_none, bind_eq_ok, raiseIf_eq_ok, pure_eq_ok]
      exact ⟨(), by simp [hnil], trivial⟩
  | some binding =>
      have hsame : sameSet assigned binding.operations = true := by
        rw [sameSet_iff]
        intro operation
        simp [h]
      simp only [checkedBinding, Option.map_some, bind_eq_ok, raiseIf_eq_ok, pure_eq_ok]
      exact ⟨binding, rfl, (), by simp [hsame], rfl⟩

/-- The assignments of a store are those of a registry. -/
def AssignmentsOf (registry : Registry) (assignments : Assignments) : Prop :=
  ∀ workspace operation issuance, assignments.lookup (workspace, operation) = some issuance ↔
    registry.Assigned workspace operation issuance

/-- A process-local store stands for a registry. -/
structure MemoryOf (registry : Registry) (m : MemoryStore) : Prop where
  bindings : ∀ workspace issuance,
    m.bindings.lookup (workspace, issuance) = registry workspace issuance
  assignments : AssignmentsOf registry m.assignments

def rowOf (p : PersistedAuthorityBinding) : BindingRow where
  canonicalPayload := p.canonicalPayload
  issuerId := p.signed.issuerId
  keyId := p.signed.keyId
  signatureAlgorithm := p.signed.signatureAlgorithm
  detachedProof := p.signed.proof

/-- The two tables stand for a registry. -/
structure TablesOf (registry : Registry) (t : BindingTables) : Prop where
  bindings : ∀ workspace issuance,
    t.bindings.lookup (workspace, issuance) = (registry workspace issuance).map rowOf
  assignments : AssignmentsOf registry t.assignments

variable {registry : Registry} {m : MemoryStore} {t : BindingTables}

omit [LawfulTextLibrary] in
theorem AssignmentsOf.checked {assignments : Assignments} (h : AssignmentsOf registry assignments)
    (workspace issuance : String) :
    checkedBinding (assignedTo assignments workspace issuance)
      ((registry workspace issuance).map .ok) = .ok (registry workspace issuance) :=
  checkedBinding_eq fun operation => mem_assignedTo.trans (h workspace operation issuance)

theorem MemoryOf.loadParent (h : MemoryOf registry m) (hsound : registry.Sound)
    (workspace issuance : String) :
    m.loadParent workspace issuance = .ok (registry workspace issuance) := by
  rw [← h.assignments.checked workspace issuance, MemoryStore.loadParent, h.bindings]
  cases hbinding : registry workspace issuance with
  | none => rfl
  | some binding =>
      obtain ⟨rfl, rfl⟩ := hsound.keyed _ _ _ hbinding
      rw [Option.map_some, Option.map_some, validatedBinding_self]

theorem TablesOf.loadParent (h : TablesOf registry t) (hsound : registry.Sound) (first : Nat)
    (workspace issuance : String) :
    t.loadParent noFaults first workspace issuance = .ok (registry workspace issuance) := by
  simp only [BindingTables.loadParent, statement, noFaults, bind_eq_ok]
  refine ⟨(), trivial, (), trivial, ?_⟩
  rw [← h.assignments.checked workspace issuance, h.bindings]
  cases hbinding : registry workspace issuance with
  | none => rfl
  | some binding =>
      obtain ⟨rfl, rfl⟩ := hsound.keyed _ _ _ hbinding
      have hvalid := validatedBinding_self binding
      simp only [Option.map_some, rowOf, hvalid]

/-! ## The first save of a binding -/

omit [LawfulTextLibrary] in
theorem AssignmentsOf.isSome_iff {assignments : Assignments}
    (h : AssignmentsOf registry assignments) (workspace operation : String) :
    (assignments.lookup (workspace, operation)).isSome ↔
      ∃ issuance, registry.Assigned workspace operation issuance := by
  rw [Option.isSome_iff_exists]
  exact exists_congr fun issuance => h workspace operation issuance

omit [LawfulTextLibrary] in
/-- The assignments of a new binding, next to those that were there. -/
theorem AssignmentsOf.add {assignments later : Assignments}
    (h : AssignmentsOf registry assignments) {made : PersistedAuthorityBinding}
    (hnone : registry made.workspace made.authorityIssuanceId = none)
    (hfree : ∀ operation ∈ made.operations, assignments.lookup (made.workspace, operation) = none)
    (hlater : ∀ workspace operation, later.lookup (workspace, operation) =
      if workspace = made.workspace ∧ operation ∈ made.operations then
        some made.authorityIssuanceId
      else assignments.lookup (workspace, operation)) :
    AssignmentsOf (registry.add made) later := by
  intro workspace operation issuance
  rw [Registry.add_assigned hnone, hlater, ← h workspace operation issuance]
  split_ifs with hnew
  · obtain ⟨rfl, hoperation⟩ := hnew
    simp [hfree operation hoperation, hoperation, eq_comm]
  · refine ⟨.inl, fun hassigned => hassigned.elim id fun hnew' => ?_⟩
    exact absurd ⟨hnew'.1, hnew'.2.2⟩ hnew

omit [PythonLibrary] [UnicodeLibrary] [TimestampLibrary] [LawfulTextLibrary] in
theorem lookup_foldl_put (workspace issuance : String) (operations : List String)
    (rows : Assignments) (w o : String) :
    (operations.foldl (fun rows operation => rows.put (workspace, operation) issuance)
      rows).lookup (w, o) =
      if w = workspace ∧ o ∈ operations then some issuance else rows.lookup (w, o) := by
  induction operations generalizing rows with
  | nil => simp
  | cons operation rest ih =>
      rw [List.foldl_cons, ih, Rows.lookup_put]
      by_cases hworkspace : w = workspace
      · by_cases hrest : o ∈ rest
        · simp [hworkspace, hrest]
        · simp [hworkspace, hrest]
      · simp [hworkspace]

/-- A save of the process-local store is a save of its registry. -/
theorem MemoryOf.save (h : MemoryOf registry m) (hsound : registry.Sound) (workspace : String)
    (binding : SignedAuthorityBinding) :
    MemoryOf (registry.save workspace binding).1 (m.saveAuthorityBinding workspace binding).1 ∧
      (m.saveAuthorityBinding workspace binding).2 = (registry.save workspace binding).2 := by
  unfold Registry.save MemoryStore.saveAuthorityBinding
  cases hmade : candidate binding workspace with
  | error e => exact ⟨h, rfl⟩
  | ok made =>
      obtain rfl := candidate_workspace hmade
      dsimp only
      rw [h.loadParent hsound]
      cases hfound : registry made.workspace made.authorityIssuanceId with
      | some existing =>
          dsimp only
          split_ifs
          · exact ⟨h, rfl⟩
          · exact ⟨h, rfl⟩
      | none =>
          have hsame : (∃ operation ∈ made.operations,
              (m.assignments.lookup (made.workspace, operation)).isSome) ↔
              ∃ operation ∈ made.operations, ∃ issuance,
                registry.Assigned made.workspace operation issuance :=
            exists_congr fun operation =>
              and_congr_right fun _ => h.assignments.isSome_iff made.workspace operation
          dsimp only
          by_cases hconflict : ∃ operation ∈ made.operations, ∃ issuance,
              registry.Assigned made.workspace operation issuance
          · rw [if_pos hconflict, if_pos (hsame.mpr hconflict)]
            exact ⟨h, rfl⟩
          · rw [if_neg hconflict, if_neg (mt hsame.mp hconflict)]
            refine ⟨⟨fun workspace issuance => ?_, ?_⟩, rfl⟩
            · simp only [Rows.lookup_put, Registry.add, h.bindings, Prod.mk.injEq]
            · refine h.assignments.add hfound ?_ fun w o => lookup_foldl_put _ _ _ _ w o
              intro operation hoperation
              rw [← Option.not_isSome_iff_eq_none, h.assignments.isSome_iff]
              exact fun hassigned => hconflict ⟨operation, hoperation, hassigned⟩

/-- A registered binding is returned, and the store stays as it is. -/
theorem MemoryOf.save_again (h : MemoryOf registry m) (hsound : registry.Sound)
    {workspace : String} {binding : SignedAuthorityBinding} {made : PersistedAuthorityBinding}
    (hmade : candidate binding workspace = .ok made)
    (hregistered : registry workspace made.authorityIssuanceId = some made) :
    m.saveAuthorityBinding workspace binding = (m, .ok made) := by
  unfold MemoryStore.saveAuthorityBinding
  rw [hmade]
  dsimp only
  rw [h.loadParent hsound, hregistered]
  exact if_pos rfl

/-! ## The inserts of a transaction -/

/-- The constraints of both tables hold of a binding that was made. -/
structure Allowed (p : PersistedAuthorityBinding) : Prop where
  workspace : p.workspace ≠ ""
  issuance : p.authorityIssuanceId ≠ ""
  payload : p.canonicalPayload ≠ ByteArray.empty
  issuer : p.signed.issuerId ≠ ""
  key : p.signed.keyId ≠ ""
  algorithm : p.signed.signatureAlgorithm = "ed25519"
  proof : p.signed.proof ≠ ""
  operations : ∀ operation ∈ p.operations, operation ≠ ""
  distinct : p.operations.Nodup

theorem allowed (p : PersistedAuthorityBinding) : Allowed p := by
  have hsettled := p.signed.payload.settled
  have hpayload := p.payload_eq
  rw [AuthorityBindingRecord.canonicalBytes_eq] at hpayload
  have hissuance := p.issuance_eq
  rw [AuthorityBindingRecord.authorityIssuanceId_eq] at hissuance
  obtain ⟨issuerId, keyId, algorithm, proof, hmade⟩ := p.signed.made
  simp only [signedPostInit, bind_eq_ok, pure_eq_ok] at hmade
  obtain ⟨issuer, hissuer, key, hkey, _, -, proof, hproof, hfields⟩ := hmade
  refine ⟨hsettled.workspace.nonEmpty, ?_, ?_, ?_, ?_, ?_, ?_,
    fun operation hoperation => (hsettled.operations operation hoperation).nonEmpty,
    hsettled.distinct⟩
  · rw [← Except.ok.inj hissuance]
    intro hempty
    have hlist := congrArg String.toList hempty
    simp at hlist
  · rw [← Except.ok.inj hpayload]
    exact canonicalPayload_ne_empty
  · rw [← hfields]
    exact (patternText_again hissuer).1.nonEmpty
  · rw [← hfields]
    exact (patternText_again hkey).1.nonEmpty
  · rw [← hfields]
    rfl
  · rw [← hfields]
    rintro rfl
    simp only [detachedProof, bind_eq_ok, raiseIf_eq_ok, pure_eq_ok] at hproof
    obtain ⟨_, -, _, hpattern, rfl⟩ := hproof
    exact hpattern (by decide)

theorem insertBinding_ok (p : PersistedAuthorityBinding)
    (hnone : t.bindings.lookup (p.workspace, p.authorityIssuanceId) = none) :
    ∃ t', t.insertBinding p.workspace p.authorityIssuanceId (rowOf p) = .ok t' ∧
      t'.assignments = t.assignments ∧ ∀ k, t'.bindings.lookup k =
        if k = (p.workspace, p.authorityIssuanceId) then some (rowOf p)
        else t.bindings.lookup k := by
  obtain ⟨hworkspace, hissuance, hpayload, hissuer, hkey, halgorithm, hproof, -, -⟩ := allowed p
  obtain ⟨bindings, hbindings⟩ := Rows.insert_isSome (rowOf p) hnone
  refine ⟨{ t with bindings }, ?_, rfl, Rows.lookup_insert hbindings⟩
  rw [BindingTables.insertBinding, if_neg (by simp [rowOf, hworkspace, hissuance, hpayload,
    hissuer, hkey, halgorithm, hproof]), hbindings]
  rfl

section
variable {workspace issuance : String} {operations : List String}
  (hworkspace : workspace ≠ "") (hissuance : issuance ≠ "")
  (hoperations : ∀ operation ∈ operations, operation ≠ "")
include hworkspace hissuance hoperations

omit [PythonLibrary] [UnicodeLibrary] [TimestampLibrary] [LawfulTextLibrary] in
/-- Free operations are all assigned. -/
theorem insertAssignments_ok (number : Nat) (hdistinct : operations.Nodup)
    (hparent : (t.bindings.lookup (workspace, issuance)).isSome)
    (hfree : ∀ operation ∈ operations, t.assignments.lookup (workspace, operation) = none) :
    ∃ t', BindingTables.insertAssignments noFaults workspace issuance number t operations =
        .ok t' ∧ t'.bindings = t.bindings ∧
      ∀ w o, t'.assignments.lookup (w, o) =
        if w = workspace ∧ o ∈ operations then some issuance else t.assignments.lookup (w, o) := by
  induction operations generalizing number t with
  | nil => exact ⟨t, rfl, rfl, by simp⟩
  | cons operation rest ih =>
      obtain ⟨hfirst, hrest⟩ := List.forall_mem_cons.mp hoperations
      obtain ⟨hfree, hfree'⟩ := List.forall_mem_cons.mp hfree
      rw [List.nodup_cons] at hdistinct
      obtain ⟨assignments, hassignments⟩ := Rows.insert_isSome issuance hfree
      have hlookup := Rows.lookup_insert hassignments
      have hone : t.insertAssignment workspace operation issuance = .ok { t with assignments } := by
        rw [BindingTables.insertAssignment, if_neg (by
          simp [hworkspace, hfirst, hissuance, Option.isSome_iff_ne_none.mp hparent]),
          hassignments]
        rfl
      have hstill : ∀ other ∈ rest, assignments.lookup (workspace, other) = none := by
        intro other hother
        have hne : other ≠ operation := ne_of_mem_of_not_mem hother hdistinct.1
        rw [hlookup, if_neg (by simp [hne]), hfree' other hother]
      obtain ⟨t', ht', hbindings, hassigned⟩ :=
        ih hrest (number + 1) hdistinct.2 (t := { t with assignments }) hparent hstill
      refine ⟨t', ?_, hbindings, fun w o => ?_⟩
      · simp only [BindingTables.insertAssignments, bind_eq_ok]
        exact ⟨(), rfl, _, hone, ht'⟩
      · rw [hassigned, hlookup]
        by_cases hw : w = workspace
        · by_cases ho : o ∈ rest
          · simp [hw, ho]
          · simp [hw, ho]
        · simp [hw]

omit [PythonLibrary] [UnicodeLibrary] [TimestampLibrary] [LawfulTextLibrary] in
/-- An operation that is assigned already violates the primary key. -/
theorem insertAssignments_conflict (number : Nat) (hdistinct : operations.Nodup)
    (hparent : (t.bindings.lookup (workspace, issuance)).isSome)
    (htaken : ∃ operation ∈ operations, (t.assignments.lookup (workspace, operation)).isSome) :
    BindingTables.insertAssignments noFaults workspace issuance number t operations =
      .error .integrityError := by
  induction operations generalizing number t with
  | nil => simp at htaken
  | cons operation rest ih =>
      obtain ⟨hfirst, hrest⟩ := List.forall_mem_cons.mp hoperations
      rw [List.nodup_cons] at hdistinct
      have hconstraints : ¬(workspace = "" ∨ operation = "" ∨ issuance = "" ∨
          t.bindings.lookup (workspace, issuance) = none) := by
        simp [hworkspace, hfirst, hissuance, Option.isSome_iff_ne_none.mp hparent]
      cases hinsert : t.assignments.insert (workspace, operation) issuance with
      | none =>
          rw [BindingTables.insertAssignments, BindingTables.insertAssignment,
            if_neg hconstraints, hinsert]
          rfl
      | some assignments =>
          obtain ⟨hfree, -⟩ := Rows.insert_eq_some hinsert
          have hlater : ∃ operation ∈ rest,
              (assignments.lookup (workspace, operation)).isSome := by
            obtain ⟨other, hother, hassigned⟩ := htaken
            have hne : other ≠ operation := by
              rintro rfl
              rw [hfree] at hassigned
              cases hassigned
            refine ⟨other, List.mem_of_ne_of_mem hne hother, ?_⟩
            rw [Rows.lookup_insert hinsert, if_neg (by simp [hne])]
            exact hassigned
          have hrec := ih hrest (number + 1) hdistinct.2 (t := { t with assignments }) hparent hlater
          rw [BindingTables.insertAssignments, BindingTables.insertAssignment,
            if_neg hconstraints, hinsert]
          exact hrec

end

/-! ## The transaction of a save -/

section
variable {made existing : PersistedAuthorityBinding}

omit [LawfulTextLibrary] in
theorem saveTransaction_again
    (hloaded : t.loadParent noFaults 1 made.workspace made.authorityIssuanceId = .ok (some made)) :
    t.saveTransaction noFaults made.workspace made = .ok (t, made) := by
  unfold BindingTables.saveTransaction
  rw [hloaded]
  simp only [bind_eq_ok]
  refine ⟨(), rfl, some made, rfl, ?_⟩
  simp only [bind_eq_ok, raiseIf_eq_ok]
  exact ⟨(), by simp, (), rfl, rfl⟩

omit [LawfulTextLibrary] in
theorem saveTransaction_differs
    (hloaded : t.loadParent noFaults 1 made.workspace made.authorityIssuanceId =
      .ok (some existing)) (hdiffers : existing ≠ made) :
    t.saveTransaction noFaults made.workspace made = .error (persistenceError "conflict") := by
  have hraised : raiseIf (existing ≠ made) "authority_binding_persistence_conflict" =
      .error (persistenceError "conflict") := if_pos hdiffers
  unfold BindingTables.saveTransaction
  rw [hloaded]
  change (raiseIf (existing ≠ made) _ >>= _) = _
  rw [hraised]
  rfl

/-- What the inserts start from. -/
theorem insertBinding_first
    (hnone : t.bindings.lookup (made.workspace, made.authorityIssuanceId) = none) :
    ∃ parent, t.insertBinding made.workspace made.authorityIssuanceId (rowOf made) = .ok parent ∧
      parent.assignments = t.assignments ∧
      (∀ k, parent.bindings.lookup k =
        if k = (made.workspace, made.authorityIssuanceId) then some (rowOf made)
        else t.bindings.lookup k) ∧
      (parent.bindings.lookup (made.workspace, made.authorityIssuanceId)).isSome := by
  obtain ⟨parent, hparent, hassignments, hbindings⟩ := insertBinding_ok made hnone
  refine ⟨parent, hparent, hassignments, hbindings, ?_⟩
  rw [hbindings, if_pos rfl, Option.isSome_some]

omit [PythonLibrary] [UnicodeLibrary] [TimestampLibrary] [LawfulTextLibrary] in
theorem mem_sorted {operation : String} {operations : List String} :
    operation ∈ operations.insertionSort (· ≤ ·) ↔ operation ∈ operations :=
  (List.perm_insertionSort (· ≤ ·) operations).mem_iff

theorem sorted_allowed (made : PersistedAuthorityBinding) :
    (∀ operation ∈ made.operations.insertionSort (· ≤ ·), operation ≠ "") ∧
      (made.operations.insertionSort (· ≤ ·)).Nodup :=
  ⟨fun operation hoperation => (allowed made).operations operation (mem_sorted.mp hoperation),
    (List.perm_insertionSort (· ≤ ·) made.operations).nodup_iff.mpr (allowed made).distinct⟩

theorem saveTransaction_taken
    (hloaded : t.loadParent noFaults 1 made.workspace made.authorityIssuanceId = .ok none)
    (hnone : t.bindings.lookup (made.workspace, made.authorityIssuanceId) = none)
    (htaken : ∃ operation ∈ made.operations,
      (t.assignments.lookup (made.workspace, operation)).isSome) :
    t.saveTransaction noFaults made.workspace made = .error .integrityError := by
  obtain ⟨parent, hparent, hunchanged, -, hpresent⟩ := insertBinding_first hnone
  obtain ⟨hnonempty, hdistinct⟩ := sorted_allowed made
  have htaken' : ∃ operation ∈ made.operations.insertionSort (· ≤ ·),
      (parent.assignments.lookup (made.workspace, operation)).isSome := by
    obtain ⟨operation, hoperation, hassigned⟩ := htaken
    exact ⟨operation, mem_sorted.mpr hoperation, hunchanged ▸ hassigned⟩
  have hinserts := insertAssignments_conflict (allowed made).workspace (allowed made).issuance
    hnonempty 4 hdistinct hpresent htaken'
  unfold BindingTables.saveTransaction
  rw [hloaded]
  change (t.insertBinding made.workspace made.authorityIssuanceId (rowOf made) >>= _) = _
  rw [hparent]
  change (BindingTables.insertAssignments noFaults made.workspace made.authorityIssuanceId 4
    parent _ >>= _) = _
  rw [hinserts]
  rfl

theorem saveTransaction_first
    (hloaded : t.loadParent noFaults 1 made.workspace made.authorityIssuanceId = .ok none)
    (hnone : t.bindings.lookup (made.workspace, made.authorityIssuanceId) = none)
    (hfree : ∀ operation ∈ made.operations,
      t.assignments.lookup (made.workspace, operation) = none) :
    ∃ t', t.saveTransaction noFaults made.workspace made = .ok (t', made) ∧
      (∀ k, t'.bindings.lookup k =
        if k = (made.workspace, made.authorityIssuanceId) then some (rowOf made)
        else t.bindings.lookup k) ∧
      ∀ w o, t'.assignments.lookup (w, o) =
        if w = made.workspace ∧ o ∈ made.operations then some made.authorityIssuanceId
        else t.assignments.lookup (w, o) := by
  obtain ⟨parent, hparent, hunchanged, hbindings, hpresent⟩ := insertBinding_first hnone
  obtain ⟨hnonempty, hdistinct⟩ := sorted_allowed made
  obtain ⟨t', hinserts, hkept, hassigned⟩ := insertAssignments_ok (allowed made).workspace
    (allowed made).issuance hnonempty 4 hdistinct hpresent fun operation hoperation => by
      rw [hunchanged]
      exact hfree operation (mem_sorted.mp hoperation)
  refine ⟨t', ?_, fun k => by rw [hkept, hbindings], fun w o => ?_⟩
  · unfold BindingTables.saveTransaction
    rw [hloaded]
    simp only [bind_eq_ok]
    refine ⟨(), rfl, none, rfl, ?_⟩
    simp only [bind_eq_ok, pure_eq_ok]
    exact ⟨(), rfl, parent, hparent, t', hinserts, (), rfl, rfl⟩
  · rw [hassigned, hunchanged]
    simp only [mem_sorted]

end

/-- A save of the tables that meets no fault is a save of their registry. -/
theorem TablesOf.save (h : TablesOf registry t) (hsound : registry.Sound) (workspace : String)
    (binding : SignedAuthorityBinding) :
    TablesOf (registry.save workspace binding).1
        (t.saveAuthorityBinding noFaults workspace binding).1 ∧
      (t.saveAuthorityBinding noFaults workspace binding).2 =
        (registry.save workspace binding).2 := by
  unfold Registry.save BindingTables.saveAuthorityBinding
  cases hmade : candidate binding workspace with
  | error e => exact ⟨h, rfl⟩
  | ok made =>
      obtain rfl := candidate_workspace hmade
      have hloaded := h.loadParent hsound 1 made.workspace made.authorityIssuanceId
      dsimp only
      cases hfound : registry made.workspace made.authorityIssuanceId with
      | some existing =>
          rw [hfound] at hloaded
          dsimp only
          by_cases hsame : existing = made
          · subst hsame
            rw [saveTransaction_again hloaded, if_pos rfl]
            exact ⟨h, rfl⟩
          · rw [saveTransaction_differs hloaded hsame, if_neg hsame]
            exact ⟨h, rfl⟩
      | none =>
          rw [hfound] at hloaded
          have hrow : t.bindings.lookup (made.workspace, made.authorityIssuanceId) = none := by
            rw [h.bindings, hfound, Option.map_none]
          dsimp only
          by_cases hconflict : ∃ operation ∈ made.operations, ∃ issuance,
              registry.Assigned made.workspace operation issuance
          · have htaken : ∃ operation ∈ made.operations,
                (t.assignments.lookup (made.workspace, operation)).isSome := by
              obtain ⟨operation, hoperation, hassigned⟩ := hconflict
              exact ⟨operation, hoperation, (h.assignments.isSome_iff _ _).mpr hassigned⟩
            rw [saveTransaction_taken hloaded hrow htaken, if_pos hconflict]
            exact ⟨h, rfl⟩
          · have hfree : ∀ operation ∈ made.operations,
                t.assignments.lookup (made.workspace, operation) = none := by
              intro operation hoperation
              rw [← Option.not_isSome_iff_eq_none, h.assignments.isSome_iff]
              exact fun hassigned => hconflict ⟨operation, hoperation, hassigned⟩
            obtain ⟨t', htransaction, hbindings, hassigned⟩ :=
              saveTransaction_first hloaded hrow hfree
            rw [htransaction, if_neg hconflict]
            refine ⟨⟨fun workspace issuance => ?_, h.assignments.add hfound hfree hassigned⟩, rfl⟩
            simp only [hbindings, Registry.add, h.bindings, Prod.mk.injEq]
            split_ifs
            · rfl
            · rfl

/-- A registered binding is returned, and the tables stay as they are. -/
theorem TablesOf.save_again (h : TablesOf registry t) (hsound : registry.Sound)
    {workspace : String} {binding : SignedAuthorityBinding} {made : PersistedAuthorityBinding}
    (hmade : candidate binding workspace = .ok made)
    (hregistered : registry workspace made.authorityIssuanceId = some made) :
    t.saveAuthorityBinding noFaults workspace binding = (t, .ok made) := by
  obtain rfl := candidate_workspace hmade
  have hloaded := h.loadParent hsound 1 made.workspace made.authorityIssuanceId
  rw [hregistered] at hloaded
  unfold BindingTables.saveAuthorityBinding
  rw [hmade]
  dsimp only
  rw [saveTransaction_again hloaded]

/-! ## Faults -/

/-- An outcome that is the expected one, or the code of a fault. -/
def Faulted {α : Type} (x expected : Py α) : Prop :=
  x = expected ∨ ∃ fault : SqliteFault, x = .error fault.raised

omit [PythonLibrary] [UnicodeLibrary] [TimestampLibrary] [LawfulTextLibrary] in
theorem Faulted.refl {α : Type} (x : Py α) : Faulted x x := .inl rfl

omit [PythonLibrary] [UnicodeLibrary] [TimestampLibrary] [LawfulTextLibrary] in
theorem Faulted.bind {α β : Type} {x x' : Py α} {f f' : α → Py β} (h : Faulted x x')
    (hf : ∀ a, Faulted (f a) (f' a)) : Faulted (x >>= f) (x' >>= f') := by
  rcases h with rfl | ⟨fault, rfl⟩
  · cases x with
    | ok a => exact hf a
    | error e => exact .refl _
  · exact .inr ⟨fault, rfl⟩

omit [PythonLibrary] [UnicodeLibrary] [TimestampLibrary] [LawfulTextLibrary] in
theorem statement_faulted (faults : Faults) (number : Nat) :
    Faulted (statement faults number) (statement noFaults number) := by
  unfold statement
  cases faults number with
  | none => exact .refl _
  | some fault => exact .inr ⟨fault, rfl⟩

omit [LawfulTextLibrary] in
theorem loadParent_faulted (faults : Faults) (first : Nat) (t : BindingTables)
    (workspace issuance : String) :
    Faulted (t.loadParent faults first workspace issuance)
      (t.loadParent noFaults first workspace issuance) :=
  (statement_faulted faults first).bind fun _ =>
    (statement_faulted faults (first + 1)).bind fun _ => .refl _

omit [PythonLibrary] [UnicodeLibrary] [TimestampLibrary] [LawfulTextLibrary] in
theorem insertAssignments_faulted (faults : Faults) (workspace issuance : String) (number : Nat)
    (t : BindingTables) (operations : List String) :
    Faulted (BindingTables.insertAssignments faults workspace issuance number t operations)
      (BindingTables.insertAssignments noFaults workspace issuance number t operations) := by
  induction operations generalizing number t with
  | nil => exact .refl _
  | cons operation rest ih =>
      exact (statement_faulted faults number).bind fun _ =>
        (Faulted.refl _).bind fun t' => ih (number + 1) t'

omit [LawfulTextLibrary] in
theorem saveTransaction_faulted (faults : Faults) (workspace : String) (t : BindingTables)
    (made : PersistedAuthorityBinding) :
    Faulted (t.saveTransaction faults workspace made)
      (t.saveTransaction noFaults workspace made) := by
  refine (statement_faulted faults 0).bind fun _ =>
    (loadParent_faulted faults 1 t workspace made.authorityIssuanceId).bind fun found => ?_
  cases found with
  | some existing =>
      exact (Faulted.refl _).bind fun _ => (statement_faulted faults 3).bind fun _ => .refl _
  | none =>
      exact (statement_faulted faults 3).bind fun _ => (Faulted.refl _).bind fun parent =>
        (insertAssignments_faulted faults workspace _ 4 parent _).bind fun _ =>
          (statement_faulted faults _).bind fun _ => .refl _

omit [LawfulTextLibrary] in
/-- A save with faults either is the save without, or raises and keeps the tables. -/
theorem saveAuthorityBinding_faulted (faults : Faults) (workspace : String) (t : BindingTables)
    (binding : SignedAuthorityBinding) :
    t.saveAuthorityBinding faults workspace binding =
        t.saveAuthorityBinding noFaults workspace binding ∨
      ∃ fault : SqliteFault,
        t.saveAuthorityBinding faults workspace binding = (t, .error fault.raised) := by
  unfold BindingTables.saveAuthorityBinding
  cases candidate binding workspace with
  | error e => exact .inl rfl
  | ok made =>
      dsimp only
      rcases saveTransaction_faulted faults workspace t made with hsame | ⟨fault, hfault⟩
      · rw [hsame]
        exact .inl rfl
      · rw [hfault]
        exact .inr ⟨fault, by cases fault <;> rfl⟩

/-! ## Reads -/

theorem MemoryOf.load (h : MemoryOf registry m) (hsound : registry.Sound) (workspace : String)
    (workspaceIdentity authorityIssuanceId : Value) :
    m.loadAuthorityBinding workspace workspaceIdentity authorityIssuanceId =
      registry.load workspace workspaceIdentity authorityIssuanceId := by
  unfold MemoryStore.loadAuthorityBinding Registry.load
  simp only [h.loadParent hsound]
  rfl

theorem TablesOf.load (h : TablesOf registry t) (hsound : registry.Sound) (workspace : String)
    (workspaceIdentity authorityIssuanceId : Value) :
    t.loadAuthorityBinding noFaults workspace workspaceIdentity authorityIssuanceId =
      registry.load workspace workspaceIdentity authorityIssuanceId := by
  unfold BindingTables.loadAuthorityBinding Registry.load
  simp only [h.loadParent hsound]
  rfl

omit [LawfulTextLibrary] in
theorem loadAuthorityBinding_faulted (faults : Faults) (workspace : String) (t : BindingTables)
    (workspaceIdentity authorityIssuanceId : Value) :
    Faulted (t.loadAuthorityBinding faults workspace workspaceIdentity authorityIssuanceId)
      (t.loadAuthorityBinding noFaults workspace workspaceIdentity authorityIssuanceId) :=
  (Faulted.refl _).bind fun _ => (Faulted.refl _).bind fun _ => (Faulted.refl _).bind fun _ =>
    (statement_faulted faults 0).bind fun _ =>
      (loadParent_faulted faults 1 t workspace _).bind fun _ =>
        (statement_faulted faults 3).bind fun _ => .refl _

omit [LawfulTextLibrary] in
/-- What follows the read of an assignment, over the bindings of a sound registry. -/
theorem resolved_eq (hsound : registry.Sound) {workspace operation issuance : String}
    (hassigned : registry.Assigned workspace operation issuance) :
    (do
      let binding ← orRaise (registry workspace issuance) (persistenceError "projection_corrupt")
      raiseIf (operation ∉ binding.operations) "authority_binding_persistence_projection_corrupt"
      pure (some binding)) = .ok (registry.holder workspace operation) := by
  obtain ⟨binding, hbinding, hoperation⟩ := hassigned
  rw [hsound.holder_eq hbinding hoperation]
  simp only [bind_eq_ok, orRaise_eq_ok, raiseIf_eq_ok, pure_eq_ok]
  exact ⟨binding, hbinding, (), not_not.mpr hoperation, rfl⟩

omit [LawfulTextLibrary] in
theorem AssignmentsOf.holder_eq_none {assignments : Assignments}
    (h : AssignmentsOf registry assignments) {workspace operation : String}
    (hnone : assignments.lookup (workspace, operation) = none) :
    registry.holder workspace operation = none := by
  refine Registry.holder_eq_none fun issuance hassigned => ?_
  rw [(h workspace operation issuance).mpr hassigned] at hnone
  cases hnone

theorem MemoryOf.resolve (h : MemoryOf registry m) (hsound : registry.Sound) (workspace : String)
    (workspaceIdentity operationIdentity : Value) :
    m.resolveAuthorityBindingForOperation workspace workspaceIdentity operationIdentity =
      registry.resolve workspace workspaceIdentity operationIdentity := by
  unfold MemoryStore.resolveAuthorityBindingForOperation Registry.resolve
  refine bind_congr fun given => bind_congr fun operation => ?_
  by_cases hgiven : given = workspace
  · subst hgiven
    refine bind_congr fun _ => ?_
    cases hrow : m.assignments.lookup (given, operation) with
    | none =>
        rw [h.assignments.holder_eq_none hrow]
    | some issuance =>
        have hassigned := (h.assignments given operation issuance).mp hrow
        dsimp only
        rw [h.loadParent hsound]
        exact resolved_eq hsound hassigned
  · rw [raiseIf, if_pos hgiven]
    rfl

theorem TablesOf.resolve (h : TablesOf registry t) (hsound : registry.Sound) (workspace : String)
    (workspaceIdentity operationIdentity : Value) :
    t.resolveAuthorityBindingForOperation noFaults workspace workspaceIdentity operationIdentity =
      registry.resolve workspace workspaceIdentity operationIdentity := by
  unfold BindingTables.resolveAuthorityBindingForOperation Registry.resolve
  refine bind_congr fun given => bind_congr fun operation => ?_
  by_cases hgiven : given = workspace
  · subst hgiven
    refine bind_congr fun _ => ?_
    cases hrow : t.assignments.lookup (given, operation) with
    | none =>
        rw [h.assignments.holder_eq_none hrow]
        rfl
    | some issuance =>
        have hassigned := (h.assignments given operation issuance).mp hrow
        change (t.loadParent noFaults 2 given issuance >>= _) = _
        rw [h.loadParent hsound]
        exact resolved_eq hsound hassigned
  · rw [raiseIf, if_pos hgiven]
    rfl

omit [LawfulTextLibrary] in
theorem resolveAuthorityBindingForOperation_faulted (faults : Faults) (workspace : String)
    (t : BindingTables) (workspaceIdentity operationIdentity : Value) :
    Faulted
      (t.resolveAuthorityBindingForOperation faults workspace workspaceIdentity operationIdentity)
      (t.resolveAuthorityBindingForOperation noFaults workspace workspaceIdentity
        operationIdentity) := by
  refine (Faulted.refl _).bind fun given => (Faulted.refl _).bind fun operation =>
    (Faulted.refl _).bind fun _ => (statement_faulted faults 0).bind fun _ =>
      (statement_faulted faults 1).bind fun _ => ?_
  cases t.assignments.lookup (given, operation) with
  | none => exact (statement_faulted faults 2).bind fun _ => .refl _
  | some issuance =>
      exact (loadParent_faulted faults 2 t workspace issuance).bind fun _ =>
        (Faulted.refl _).bind fun _ => (Faulted.refl _).bind fun _ =>
          (statement_faulted faults 4).bind fun _ => .refl _

/-! ## The start -/

omit [LawfulTextLibrary] in
theorem AssignmentsOf.empty : AssignmentsOf Registry.empty Rows.empty := by
  intro workspace operation issuance
  simp [Registry.Assigned, Registry.empty]

omit [LawfulTextLibrary] in
theorem MemoryOf.empty : MemoryOf Registry.empty MemoryStore.empty :=
  ⟨fun _ _ => rfl, .empty⟩

omit [LawfulTextLibrary] in
theorem TablesOf.empty : TablesOf Registry.empty BindingTables.empty :=
  ⟨fun _ _ => rfl, .empty⟩

end
end DeliverySystem.AuthorityIssuance

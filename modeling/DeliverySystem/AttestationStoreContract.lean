import DeliverySystem.AttestationRecords
import DeliverySystem.SequencedLogs

/-!
# The contract of the attestation stores

A store keeps one aggregate for an artifact, an artifact with its reference, and
the log of its revalidation events. The ledger says what the four methods are to
answer; the stores that keep snapshots and rows are compared with it.
-/
namespace DeliverySystem.AttestationStoreContract
open PythonValues CanonicalValues JsonText AuthorityBindings AttestationClaims
open AttestationArtifacts AttestationRecords SequencedLogs
set_option autoImplicit false

/-! ## Exceptions -/

inductive StoreRaised where
  /-- `StoreContractError(code)` -/
  | store (code : String)
  /-- What the constructors of records raise. -/
  | record (e : Raised)
  | integrityError
  | overflowError
deriving DecidableEq

/-- The stable code of an error, where it has one. -/
def StoreRaised.code : StoreRaised → String
  | .store code => code
  | .record (.valueError code) => code
  | _ => ""

abbrev StorePy := Except StoreRaised

/-- `_store_error(code)` -/
def storeError {α : Type} (code : String) : StorePy α := .error (.store code)

def ofRecord {α : Type} (x : Py α) : StorePy α := x.mapError .record

/-- `if condition: _store_error(code)` -/
def storeErrorIf (condition : Prop) [Decidable condition] (code : String) : StorePy Unit :=
  if condition then storeError code else .ok ()

/-- `except StoreContractError: raise` and `except Exception: _store_error(code)`. -/
def storeErrorsAs {α : Type} (code : String) : StorePy α → StorePy α
  | .ok a => .ok a
  | .error (.store c) => .error (.store c)
  | .error _ => storeError code

section
variable {α β : Type}

@[simp] theorem ofRecord_ok {x : Py α} {a : α} (h : x = .ok a) : ofRecord x = .ok a := by
  rw [h]
  rfl

@[simp] theorem store_bind_ok (a : α) (f : α → StorePy β) : ((.ok a : StorePy α) >>= f) = f a := rfl

@[simp] theorem store_bind_error (e : StoreRaised) (f : α → StorePy β) :
    ((.error e : StorePy α) >>= f) = .error e := rfl

theorem storeErrorIf_pos {condition : Prop} [Decidable condition] (h : condition) (code : String) :
    storeErrorIf condition code = storeError code := if_pos h

theorem storeErrorIf_neg {condition : Prop} [Decidable condition] (h : ¬condition)
    (code : String) : storeErrorIf condition code = .ok () := if_neg h

end

/-! ## Aggregates and sequenced events -/

section
variable [PythonLibrary] [UnicodeLibrary] [ZonedTimeLibrary]

/-- The reference tells of this artifact. Version 2 claims ask for a version 2 reference. -/
def Matches (a : ArtifactFields) (r : ReferenceFields) : Prop :=
  a.workspaceIdentity = r.workspaceIdentity ∧ a.artifactId = r.artifactId ∧
    a.artifactDigest = r.artifactDigest ∧
    r.repositoryIdentity = a.claimsPayload.repositoryIdentity ∧
    r.githubSubjectIdentity = a.claimsPayload.githubSubjectIdentity ∧
    r.driverIdentity = a.claimsPayload.driverIdentity ∧
    r.remoteAuthority = a.claimsPayload.remoteAuthority ∧
    r.previewId = a.claimsPayload.previewId ∧ r.revision = a.claimsPayload.revision ∧
    r.operationSetDigest = a.claimsPayload.operationSetDigest ∧
    r.remoteSnapshotDigest = a.claimsPayload.remoteSnapshotDigest ∧
    r.evidenceDigest = a.claimsPayload.evidenceDigest ∧
    r.originalVerifiedAt = a.originalVerifiedAt ∧
    (a.claimsPayload.attestationVersion = "2" →
      r.referenceContractVersion = referenceV2ContractVersion ∧
        r.credentialPrincipalIdentity = a.claimsPayload.credentialPrincipalIdentity ∧
        r.challengeDigest = a.claimsPayload.challengeDigest)

instance (a : ArtifactFields) (r : ReferenceFields) : Decidable (Matches a r) := by
  unfold Matches
  infer_instance

/-- `validate_artifact_aggregate` -/
def validateArtifactAggregate (artifact : PersistedAttestationArtifact)
    (reference : AttestationBindingReference) :
    Py (PersistedAttestationArtifact × AttestationBindingReference) := do
  let artifact ← artifact.again
  let reference ← reference.again
  require (Matches artifact.toArtifactFields reference.toReferenceFields) payloadInvalid
  pure (artifact, reference)

structure AttestationArtifactAggregate where
  artifact : PersistedAttestationArtifact
  bindingReference : AttestationBindingReference
  matching : Matches artifact.toArtifactFields bindingReference.toReferenceFields

theorem AttestationArtifactAggregate.eq_of_parts {a b : AttestationArtifactAggregate}
    (hartifact : a.artifact = b.artifact) (hreference : a.bindingReference = b.bindingReference) :
    a = b := by
  cases a
  cases b
  cases hartifact
  cases hreference
  rfl

instance : DecidableEq AttestationArtifactAggregate := fun a b =>
  decidable_of_iff (a.artifact = b.artifact ∧ a.bindingReference = b.bindingReference)
    ⟨fun h => by cases a; cases b; obtain ⟨rfl, rfl⟩ := h; rfl, fun h => h ▸ ⟨rfl, rfl⟩⟩

/-- `AttestationArtifactAggregate(artifact, reference)` -/
def AttestationArtifactAggregate.make (artifact : PersistedAttestationArtifact)
    (reference : AttestationBindingReference) : Py AttestationArtifactAggregate := do
  let _ ← validateArtifactAggregate artifact reference
  if h : Matches artifact.toArtifactFields reference.toReferenceFields then
    pure ⟨artifact, reference, h⟩
  else .error payloadInvalid

structure SequencedAttestationRevalidationEvent where
  eventSequence : Int
  event : AttestationRevalidationEvent
  positive : 1 ≤ eventSequence

instance : DecidableEq SequencedAttestationRevalidationEvent := fun a b =>
  decidable_of_iff (a.eventSequence = b.eventSequence ∧ a.event = b.event)
    ⟨fun h => by cases a; cases b; obtain ⟨rfl, rfl⟩ := h; rfl, fun h => h ▸ ⟨rfl, rfl⟩⟩

/-- `SequencedAttestationRevalidationEvent(sequence, event)` -/
def SequencedAttestationRevalidationEvent.make (sequence : Value)
    (event : AttestationRevalidationEvent) : Py SequencedAttestationRevalidationEvent := do
  let sequence ← persistedInteger sequence
  let event ← event.again
  if h : 1 ≤ sequence then pure ⟨sequence, event, h⟩ else .error typeInvalid

/-- The four methods, as functions of the state of a store. -/
structure AttestationPersistenceStore (state : Type) where
  persistArtifact : state → PersistedAttestationArtifact → AttestationBindingReference →
    Except String AttestationArtifactAggregate × state
  getArtifactAggregate : state → String → String →
    Except String (Option AttestationArtifactAggregate)
  appendRevalidationEvent : state → AttestationRevalidationEvent →
    Except String SequencedAttestationRevalidationEvent × state
  getLatestRevalidationEvent : state → String → String →
    Except String (Option SequencedAttestationRevalidationEvent)

/-! ## The ledger -/

/-- An artifact is known by its workspace and its identity. -/
abbrev Key := String × String

def artifactKey (a : ArtifactFields) : Key := (a.workspaceIdentity, a.artifactId)

def eventKey (e : EventFields) : Key := (e.workspaceIdentity, e.artifactId)

/-- The name under which a log keeps an event. -/
def eventName (e : AttestationRevalidationEvent) : String := e.eventId

abbrev Ledger := Logs Key AttestationArtifactAggregate AttestationRevalidationEvent

/-- The event is about this artifact with this reference. -/
def Tells (e : EventFields) (aggregate : AttestationArtifactAggregate) : Prop :=
  e.artifactDigest = aggregate.artifact.artifactDigest ∧
    e.bindingReferenceDigest = aggregate.bindingReference.bindingReferenceDigest

instance (e : EventFields) (aggregate : AttestationArtifactAggregate) :
    Decidable (Tells e aggregate) := inferInstanceAs (Decidable (_ ∧ _))

/-- `list(range(1, count + 1))` -/
def sequencesTo (count : ℕ) : List Int := (List.range count).map fun n : ℕ => (n : Int) + 1

omit [PythonLibrary] [UnicodeLibrary] [ZonedTimeLibrary] in
theorem sequencesTo_sorted (count : ℕ) : (sequencesTo count).Pairwise (· ≤ ·) := by
  rw [sequencesTo, List.pairwise_map]
  exact List.pairwise_lt_range.imp fun hlt => by omega

/-- The events of an artifact are numbered from one. -/
def sequencedAt (entry : ℕ × AttestationRevalidationEvent) :
    SequencedAttestationRevalidationEvent where
  eventSequence := entry.1 + 1
  event := entry.2
  positive := by omega

namespace Ledger

/-- An artifact is kept once, and only what is there already may be persisted again. -/
def persist (ledger : Ledger) (aggregate : AttestationArtifactAggregate) :
    Except String AttestationArtifactAggregate × Ledger :=
  match ledger (artifactKey aggregate.artifact.toArtifactFields) with
  | none =>
      (.ok aggregate,
        ledger.opened (artifactKey aggregate.artifact.toArtifactFields) aggregate)
  | some log =>
      if log.head.artifact ≠ aggregate.artifact then
        (.error "attestation_artifact_conflict", ledger)
      else if log.head.bindingReference ≠ aggregate.bindingReference then
        (.error "attestation_binding_reference_conflict", ledger)
      else (.ok log.head, ledger)

/-- An event takes the next number; an event that is there already keeps its own. -/
def append (ledger : Ledger) (e : AttestationRevalidationEvent) :
    Except String SequencedAttestationRevalidationEvent × Ledger :=
  match ledger (eventKey e.toEventFields) with
  | none => (.error "attestation_artifact_not_found", ledger)
  | some log =>
      if Tells e.toEventFields log.head then
        match named eventName log.events (eventName e) with
        | some entry =>
            if entry.2 ≠ e then (.error "attestation_revalidation_event_conflict", ledger)
            else (.ok (sequencedAt entry), ledger)
        | none =>
            (.ok (sequencedAt (log.events.length, e)),
              ledger.appended (eventKey e.toEventFields) log e)
      else (.error "attestation_revalidation_event_binding_mismatch", ledger)

def aggregate (ledger : Ledger) (key : Key) : Option AttestationArtifactAggregate :=
  (ledger key).map Log.head

def latest (ledger : Ledger) (key : Key) :
    Except String (Option SequencedAttestationRevalidationEvent) :=
  match ledger key with
  | none => .error "attestation_artifact_not_found"
  | some log => .ok ((numbered log.events).getLast?.map sequencedAt)

theorem persist_step (ledger : Ledger) (aggregate : AttestationArtifactAggregate) :
    Logs.Step eventName ledger (ledger.persist aggregate).2 := by
  cases hlog : ledger (artifactKey aggregate.artifact.toArtifactFields) with
  | none =>
      rw [persist, hlog]
      exact .opened hlog
  | some log =>
      rw [persist, hlog]
      dsimp only
      split_ifs
      · exact .stay
      · exact .stay
      · exact .stay

theorem append_step (ledger : Ledger) (e : AttestationRevalidationEvent) :
    Logs.Step eventName ledger (ledger.append e).2 := by
  cases hlog : ledger (eventKey e.toEventFields) with
  | none =>
      rw [append, hlog]
      exact .stay
  | some log =>
      rw [append, hlog]
      dsimp only
      split_ifs with htells
      · cases hnamed : named eventName log.events (eventName e) with
        | none =>
            have hfresh : eventName e ∉ log.events.map eventName := named_eq_none.mp hnamed
            exact .appended hlog hfresh
        | some entry =>
            dsimp only
            split_ifs
            · exact .stay
            · exact .stay
      · exact .stay

/-- What is persisted is the head of its log. -/
theorem persist_ok {ledger : Ledger} {aggregate persisted : AttestationArtifactAggregate}
    (h : (ledger.persist aggregate).1 = .ok persisted) :
    persisted = aggregate ∧ ∃ log, (ledger.persist aggregate).2
      (artifactKey aggregate.artifact.toArtifactFields) = some log ∧ log.head = aggregate := by
  cases hlog : ledger (artifactKey aggregate.artifact.toArtifactFields) with
  | none =>
      rw [persist, hlog] at h ⊢
      exact ⟨(Except.ok.inj h).symm, _, Function.update_self .., rfl⟩
  | some log =>
      rw [persist, hlog] at h ⊢
      dsimp only at h ⊢
      split_ifs at h ⊢ with hartifact hreference
      have hsame : log.head = aggregate :=
        AttestationArtifactAggregate.eq_of_parts (not_not.mp hartifact) (not_not.mp hreference)
      exact ⟨(Except.ok.inj h).symm.trans hsame, log, hlog, hsame⟩

/-- What is appended is an event of its log. -/
theorem append_ok {ledger : Ledger} {e : AttestationRevalidationEvent}
    {sequenced : SequencedAttestationRevalidationEvent}
    (h : (ledger.append e).1 = .ok sequenced) :
    ∃ log n, (ledger.append e).2 (eventKey e.toEventFields) = some log ∧
      (n, e) ∈ numbered log.events ∧ sequenced = sequencedAt (n, e) := by
  cases hlog : ledger (eventKey e.toEventFields) with
  | none =>
      rw [append, hlog] at h
      cases h
  | some log =>
      rw [append, hlog] at h ⊢
      dsimp only at h ⊢
      split_ifs at h ⊢ with htells
      cases hnamed : named eventName log.events (eventName e) with
      | none =>
          rw [hnamed] at h
          refine ⟨_, log.events.length, Function.update_self .., ?_, (Except.ok.inj h).symm⟩
          rw [numbered_concat]
          exact List.mem_append_right _ List.mem_cons_self
      | some entry =>
          rw [hnamed] at h
          dsimp only at h ⊢
          split_ifs at h ⊢ with hsame
          obtain rfl := not_not.mp hsame
          exact ⟨log, entry.1, hlog, (named_eq_some hnamed).1, (Except.ok.inj h).symm⟩

/-- An event that is there is appended again under its number. -/
theorem append_again {ledger : Ledger} {e : AttestationRevalidationEvent}
    {log : Log AttestationArtifactAggregate AttestationRevalidationEvent} {n : ℕ}
    (hlog : ledger (eventKey e.toEventFields) = some log) (htells : Tells e.toEventFields log.head)
    (hdistinct : (log.events.map eventName).Nodup) (hmem : (n, e) ∈ numbered log.events) :
    ledger.append e = (.ok (sequencedAt (n, e)), ledger) := by
  rw [append, hlog]
  dsimp only
  rw [if_pos htells, named_of_mem hdistinct hmem]
  exact if_neg (not_not.mpr rfl)

/-- Another event of the same identity is not appended. -/
theorem append_conflict {ledger : Ledger} {e f : AttestationRevalidationEvent}
    {log : Log AttestationArtifactAggregate AttestationRevalidationEvent} {n : ℕ}
    (hlog : ledger (eventKey e.toEventFields) = some log)
    (hdistinct : (log.events.map eventName).Nodup) (hmem : (n, f) ∈ numbered log.events)
    (hname : eventName f = eventName e) (hdiffer : f ≠ e) :
    ∃ code, ledger.append e = (.error code, ledger) := by
  rw [append, hlog]
  dsimp only
  split_ifs with htells
  · rw [← hname, named_of_mem hdistinct hmem]
    exact ⟨_, if_pos hdiffer⟩
  · exact ⟨_, rfl⟩

end Ledger

/-! ## What was made is made again -/

variable [TimestampLibrary] [LawfulTextLibrary] [LawfulZonedTimeLibrary] [LawfulDigestLibrary]
  [LawfulInfixLibrary]

theorem validateArtifactAggregate_eq {a : PersistedAttestationArtifact}
    {r : AttestationBindingReference} (h : Matches a.toArtifactFields r.toReferenceFields) :
    validateArtifactAggregate a r = .ok (a, r) := by
  simp only [validateArtifactAggregate, bind_eq_ok, require_eq_ok, pure_eq_ok]
  exact ⟨a, a.again_eq, r, r.again_eq, (), h, rfl⟩

theorem aggregate_make (aggregate : AttestationArtifactAggregate) :
    AttestationArtifactAggregate.make aggregate.artifact aggregate.bindingReference =
      .ok aggregate := by
  simp only [AttestationArtifactAggregate.make, bind_eq_ok]
  refine ⟨_, validateArtifactAggregate_eq aggregate.matching, ?_⟩
  rw [dif_pos aggregate.matching]
  rfl

omit [LawfulDigestLibrary] in
theorem sequenced_make (entry : ℕ × AttestationRevalidationEvent) :
    SequencedAttestationRevalidationEvent.make (.int ((entry.1 : Int) + 1)) entry.2 =
      .ok (sequencedAt entry) := by
  have hpositive : 1 ≤ (entry.1 : Int) + 1 := by omega
  simp only [SequencedAttestationRevalidationEvent.make, bind_eq_ok, persistedInteger_eq_ok]
  refine ⟨_, ⟨rfl, hpositive⟩, _, entry.2.again_eq, ?_⟩
  rw [dif_pos hpositive]
  rfl

/-! ## Every artifact has a reference -/

/-- A reference to an artifact under this binding, with its identity and its digest. -/
def referenceTo (a : ArtifactFields) (bindingId referenceId digest : String) : ReferenceFields where
  referenceContractVersion :=
    if a.claimsPayload.attestationVersion = "2" then referenceV2ContractVersion
    else referenceContractVersion
  referenceId := referenceId
  workspaceIdentity := a.workspaceIdentity
  artifactId := a.artifactId
  artifactDigest := a.artifactDigest
  bindingId := bindingId
  repositoryIdentity := a.claimsPayload.repositoryIdentity
  githubSubjectIdentity := a.claimsPayload.githubSubjectIdentity
  driverIdentity := a.claimsPayload.driverIdentity
  remoteAuthority := a.claimsPayload.remoteAuthority
  previewId := a.claimsPayload.previewId
  revision := a.claimsPayload.revision
  planDigest := a.claimsPayload.operationSetDigest
  sealedPreviewDigest := a.claimsPayload.operationSetDigest
  operationSetDigest := a.claimsPayload.operationSetDigest
  remoteSnapshotDigest := a.claimsPayload.remoteSnapshotDigest
  auditId := "audit-1"
  auditDigest := a.claimsPayload.operationSetDigest
  evidenceId := "evidence-1"
  evidenceDigest := a.claimsPayload.evidenceDigest
  originalVerifiedAt := a.originalVerifiedAt
  bindingReferenceDigest := digest
  credentialPrincipalIdentity := a.claimsPayload.credentialPrincipalIdentity
  challengeDigest := a.claimsPayload.challengeDigest

omit [LawfulInfixLibrary] in
/-- What a reference repeats of an artifact is all that it needs of one. -/
theorem exists_referenceTo {a : ArtifactFields} {bindingId : String} {original : Instant}
    (hworkspace : Settled a.workspaceIdentity)
    (hartifactId : hexPattern "artifact-" a.artifactId = true)
    (hartifactDigest : hexPattern "sha256:" a.artifactDigest = true)
    (horiginal : StoredTime a.originalVerifiedAt original)
    (hbinding : hexPattern "binding-" bindingId = true) :
    ∃ (r : AttestationBindingReference) (referenceId digest : String),
      r.toReferenceFields = referenceTo a bindingId referenceId digest := by
  have hclaims := a.claimsPayload.sound
  obtain ⟨draft, hdraft⟩ : ∃ draft, draft = referenceTo a bindingId "" "" := ⟨_, rfl⟩
  have hkeys : (Dict.keys draft.content).Nodup ∧ ∀ key ∈ Dict.keys draft.content, Graphic key := by
    simp only [ReferenceFields.content, ReferenceFields.extension]
    split_ifs
    · simp only [Dict.keys, List.map_append, List.map_cons, List.map_nil]
      decide
    · simp only [Dict.keys, List.map_append, List.map_cons, List.map_nil]
      decide
  have hvalues : ∀ e ∈ draft.content, ∃ v, CanonicalValues.normalize e.2 = .ok v := by
    have hextension : ∀ e ∈ draft.extension, ∃ v, CanonicalValues.normalize e.2 = .ok v := by
      rw [ReferenceFields.extension]
      split_ifs
      · simp only [List.forall_mem_cons, List.not_mem_nil, false_implies, implies_true, and_true]
        exact ⟨⟨_, rfl⟩, _, rfl⟩
      · simp
    rw [ReferenceFields.content, List.forall_mem_append]
    refine ⟨?_, hextension⟩
    simp only [List.forall_mem_cons, List.not_mem_nil, false_implies, implies_true, and_true]
    exact ⟨⟨_, rfl⟩, ⟨_, rfl⟩, ⟨_, rfl⟩, ⟨_, rfl⟩, ⟨_, rfl⟩, ⟨_, rfl⟩, ⟨_, rfl⟩, ⟨_, rfl⟩,
      ⟨_, rfl⟩, ⟨_, rfl⟩, ⟨_, rfl⟩, ⟨_, rfl⟩, ⟨_, rfl⟩, ⟨_, rfl⟩, ⟨_, rfl⟩, ⟨_, rfl⟩, ⟨_, rfl⟩,
      ⟨_, rfl⟩, ⟨_, rfl⟩, ⟨_, rfl⟩, ⟨_, rfl⟩⟩
  obtain ⟨material, hmaterial⟩ := normalize_mapping _ hkeys.2 hkeys.1 hvalues
  obtain ⟨id, hid, hidForm⟩ : ∃ id, draft.derivedId = .ok id ∧
      hexPattern "binding-reference-" id = true := by
    refine shaId_ok ((by decide : Graphic referenceIdDomain).settled (by decide)) ?_ ?_ ?_
    · simp only [Dict.keys, List.map_cons, List.map_nil]
      decide
    · simp only [Dict.keys, List.map_cons, List.map_nil]
      decide
    · subst hdraft
      simp only [List.forall_mem_cons, List.not_mem_nil, false_implies, implies_true, and_true]
      refine ⟨?_, normalize_text hworkspace, normalize_hex (by decide) hartifactId,
        normalize_hex (by decide) hbinding⟩
      split_ifs
      · exact normalize_text ((by decide : Graphic "2").settled (by decide))
      · exact normalize_text ((by decide : Graphic "1").settled (by decide))
  subst hdraft
  have hextension := hclaims.extension
  have htwo : referenceContractVersion ≠ referenceV2ContractVersion := by decide
  have hsound : (referenceTo a bindingId id (digest material)).Sound :=
    { version := by
        rw [referenceTo]
        dsimp only
        split_ifs
        · exact .inr rfl
        · exact .inl rfl
      texts := by
        simp only [referenceTo, List.forall_mem_cons, List.not_mem_nil, false_implies,
          implies_true, and_true]
        exact ⟨hworkspace, hclaims.repository, hclaims.subject, hclaims.driver,
          hclaims.preview.settled, (by decide : Graphic "audit-1").settled (by decide),
          (by decide : Graphic "evidence-1").settled (by decide)⟩
      artifactId := hartifactId
      bindingId := hbinding
      digests := by
        simp only [referenceTo, List.forall_mem_cons, List.not_mem_nil, false_implies,
          implies_true, and_true]
        exact ⟨hartifactDigest, hclaims.authority.pattern, hclaims.operations.pattern,
          hclaims.operations.pattern, hclaims.operations.pattern, hclaims.snapshot.pattern,
          hclaims.operations.pattern, hclaims.evidence.pattern,
          hexPattern_append (LawfulDigestLibrary.hexdigest material)⟩
      revision := hclaims.revision
      original := ⟨original, horiginal⟩
      extension := by
        rcases hextension with ⟨hone, hc, hp⟩ | ⟨hversion, hc, hp⟩
        · exact .inl ⟨by rw [referenceTo, hone]; exact htwo, hp, hc⟩
        · exact .inr ⟨by rw [referenceTo, hversion]; rfl, hp, hc.pattern⟩
      content := by
        simp only [canonicalDigest, bind_eq_ok, pure_eq_ok]
        exact ⟨material, hmaterial, rfl⟩
      referenceId := hid
      referenceIdForm := hidForm }
  exact ⟨⟨_, _, hsound.postInit⟩, _, _, rfl⟩

omit [TimestampLibrary] [LawfulTextLibrary] [LawfulZonedTimeLibrary] [LawfulDigestLibrary]
  [LawfulInfixLibrary] in
theorem referenceTo_matches (a : ArtifactFields) (bindingId referenceId digest : String) :
    Matches a (referenceTo a bindingId referenceId digest) :=
  ⟨rfl, rfl, rfl, rfl, rfl, rfl, rfl, rfl, rfl, rfl, rfl, rfl, rfl,
    fun hversion => ⟨if_pos hversion, rfl, rfl⟩⟩

theorem exists_reference (a : PersistedAttestationArtifact) {bindingId : String}
    (hbinding : hexPattern "binding-" bindingId = true) :
    ∃ r : AttestationBindingReference, Matches a.toArtifactFields r.toReferenceFields ∧
      r.bindingId = bindingId := by
  obtain ⟨original, -, -, -, horiginal, -⟩ := a.sound.times
  obtain ⟨r, _, _, hr⟩ := exists_referenceTo a.sound.workspace a.sound.artifactIdForm
    a.sound.contentForm horiginal hbinding
  refine ⟨r, ?_, ?_⟩
  · rw [hr]
    exact referenceTo_matches ..
  · rw [hr]
    rfl

omit [LawfulZonedTimeLibrary] [LawfulInfixLibrary] in
/-- What is concluded of an attempt makes an event, with the identity and the digest that are
derived for it. -/
theorem exists_event (draft : EventFields) (hworkspace : Settled draft.workspaceIdentity)
    (hartifact : hexPattern "artifact-" draft.artifactId = true)
    (hattempt : attemptPattern draft.revalidationAttemptId = true)
    (hdigests : ∀ s ∈ [draft.artifactDigest, draft.revalidationContextDigest,
      draft.bindingReferenceDigest], hexPattern "sha256:" s = true)
    (hrevalidated : ∃ t, StoredTime draft.revalidatedAt t)
    (hconclusion : (draft.outcome = "Successful" ∧ draft.failureCode = none ∧
        ∃ result, draft.resultDigest = some result ∧ hexPattern "sha256:" result = true) ∨
      (draft.outcome = "Failed" ∧ draft.resultDigest = none ∧
        ∃ failure ∈ attestationRevalidationFailureCodes, draft.failureCode = some failure)) :
    ∃ (e : AttestationRevalidationEvent) (eventId eventPayloadDigest : String),
      e.toEventFields = { draft with eventId, eventPayloadDigest } := by
  have hvalue : ∀ s : Option String, ∃ v, CanonicalValues.normalize (.textOrNone s) = .ok v := by
    intro s
    cases s <;> exact ⟨_, rfl⟩
  obtain ⟨identity, hidentity⟩ := normalize_mapping
    [("domain", .str eventIdDomain), ("event_identity_version", .str "1"),
      ("workspace_identity", .str draft.workspaceIdentity),
      ("artifact_id", .str draft.artifactId),
      ("revalidation_attempt_id", .str draft.revalidationAttemptId)]
    (by simp only [Dict.keys, List.map_cons, List.map_nil]; decide)
    (by simp only [Dict.keys, List.map_cons, List.map_nil]; decide)
    (by
      simp only [List.forall_mem_cons, List.not_mem_nil, false_implies, implies_true, and_true]
      exact ⟨⟨_, rfl⟩, ⟨_, rfl⟩, ⟨_, rfl⟩, ⟨_, rfl⟩, _, rfl⟩)
  obtain ⟨content, hcontent⟩ := normalize_mapping draft.content
    (by simp only [EventFields.content, Dict.keys, List.map_cons, List.map_nil]; decide)
    (by simp only [EventFields.content, Dict.keys, List.map_cons, List.map_nil]; decide)
    (by
      simp only [EventFields.content, List.forall_mem_cons, List.not_mem_nil, false_implies,
        implies_true, and_true]
      exact ⟨⟨_, rfl⟩, ⟨_, rfl⟩, ⟨_, rfl⟩, ⟨_, rfl⟩, ⟨_, rfl⟩, ⟨_, rfl⟩, ⟨_, rfl⟩, ⟨_, rfl⟩,
        ⟨_, rfl⟩, ⟨_, rfl⟩, hvalue _, hvalue _⟩)
  have hsound : ({ draft with
      eventId := "revalidation-event-" ++ PythonLibrary.hexdigest identity
      eventPayloadDigest := digest content } : EventFields).Sound :=
    { workspace := hworkspace
      artifactId := hartifact
      attempt := hattempt
      digests := by
        simp only [List.forall_mem_cons, List.not_mem_nil, false_implies, implies_true,
          and_true] at hdigests ⊢
        exact ⟨hdigests.1, hdigests.2.1, hdigests.2.2,
          hexPattern_append (LawfulDigestLibrary.hexdigest content)⟩
      revalidated := hrevalidated
      conclusion := hconclusion
      eventId := by
        simp only [EventFields.derivedId, bind_eq_ok, pure_eq_ok]
        exact ⟨identity, hidentity, rfl⟩
      eventIdForm := hexPattern_append (LawfulDigestLibrary.hexdigest identity)
      content := by
        simp only [canonicalDigest, bind_eq_ok, pure_eq_ok]
        exact ⟨content, hcontent, rfl⟩ }
  exact ⟨⟨_, _, hsound.postInit⟩, _, _, rfl⟩

end
end DeliverySystem.AttestationStoreContract

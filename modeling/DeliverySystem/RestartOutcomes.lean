import DeliverySystem.AttestationRestart

/-!
# What offline revalidation records

A revalidation that returns has appended one event to a store of the repository, and
the decision service reads that event. What is recorded of version 1 claims is
compared with the time window and the revocation checks of a live verification.
-/
namespace DeliverySystem.RestartOutcomes
open PythonValues CanonicalValues JsonText AuthorityBindings AttestationClaims
open AttestationArtifacts AttestationRecords AttestationStoreContract AttestationBoundary
open AttestationVerification RemoteSnapshots RevalidationAttempts RestartEvidence
open AttestationRestart
open FallibleRuns (fallible_bind_eq_ok fallible_pure_eq_ok)
open SequencedLogs (Logs named)
set_option autoImplicit false

section
variable [PythonLibrary] [UnicodeLibrary] [ZonedTimeLibrary]

/-! ## The stores of the repository -/

/-- One of the two stores, in a state that its calls lead to. -/
inductive InUse : {state : Type} → AttestationPersistenceStore state → state → Prop
  | memory {s : AttestationMemoryStore.InMemoryAttestationPersistenceStore} :
      AttestationStores.Run AttestationMemoryStore.InMemoryAttestationPersistenceStore.store
        .empty s →
      InUse AttestationMemoryStore.InMemoryAttestationPersistenceStore.store s
  | tables {workspace : String} {s : AttestationTables.Database} :
      AttestationTables.validateWorkspace workspace = .ok () →
      AttestationStores.Run (AttestationTables.store workspace) .empty s →
      InUse (AttestationTables.store workspace) s

/-! ## The live checks on the same claims -/

/-- The boundary of a live verification that asks the same revocation reader, where an answer
that is not a status is that of another type. -/
def liveBoundary (call : Surroundings) : BoundaryDependencies where
  issuerPolicy := none
  proofVerifier := none
  revocationReader := some fun attestation credential issuer key version =>
    match call.readStatus attestation credential issuer key version with
    | .raised => .raised
    | .returned (some status) => .returned status
    | _ => .foreign
  capabilityPolicy := none

/-- The reader answers with this status. -/
def Answers (call : Surroundings) (claims : ClaimsFields) (status : RevocationStatus) : Prop :=
  call.readStatus claims.attestationId claims.credentialInstanceId claims.issuerId claims.keyId
    claims.attestationVersion = .returned (some status)

/-- The status revokes the attestation or the credential instance. -/
def Revokes (status : StatusFields) : Prop :=
  status.attestationRevoked = true ∨ status.credentialInstanceRevoked = true

/-- What is recorded at this instant is as strict as the live checks. -/
structure Strict (call : Surroundings) (claims : CredentialCapabilityAttestationClaims)
    (now : Instant) (e : EventFields) : Prop where
  window : e.outcome = "Successful" → ∃ issued expires, WrittenTime claims.issuedAt issued ∧
    WrittenTime claims.expiresAt expires ∧ issued ≤ now ∧ now < expires
  status : e.outcome = "Successful" → ∃ status, Answers call claims.toClaimsFields status ∧
    status.version = "1" ∧ status.validate now = .ok () ∧ ¬Revokes status.toStatusFields
  live : e.outcome = "Successful" → validityChecks (liveBoundary call) claims now = .ok ()
  expired : e.failureCode = some "attestation_revalidation_expired" →
    ∃ expires, WrittenTime claims.expiresAt expires ∧ expires ≤ now
  revoked : e.failureCode = some "attestation_revalidation_revoked" →
    ∃ status, Answers call claims.toClaimsFields status ∧ Revokes status.toStatusFields

/-- The claims were issued, or their status revokes them. -/
def IssuedOrRevoked (call : Surroundings) (claims : ClaimsFields) (now : Instant) : Prop :=
  (∃ issued, WrittenTime claims.issuedAt issued ∧ issued ≤ now) ∨
    ∃ status, Answers call claims status ∧ Revokes status.toStatusFields

variable [TimestampLibrary] [LawfulTextLibrary] [LawfulZonedTimeLibrary] [LawfulInfixLibrary]

section
variable [LawfulDigestLibrary] {state : Type} {store : AttestationPersistenceStore state}

/-- A store answers an event with itself. -/
theorem InUse.answers {s s' : state} {e : AttestationRevalidationEvent}
    {sequenced : SequencedAttestationRevalidationEvent} (h : InUse store s)
    (happend : store.appendRevalidationEvent s e = (.ok sequenced, s')) : sequenced.event = e := by
  cases h with
  | memory hrun =>
      exact ((AttestationStores.memory_follows.logKept
        AttestationMemoryStore.InMemoryAttestationPersistenceStore.empty_represents).appended
          hrun happend).1
  | tables hopen hrun =>
      exact (((AttestationStores.tables_follow hopen).logKept
        ⟨[], AttestationTables.empty_stands _⟩).appended hrun happend).1

end

/-! ## What comes of version 1 claims -/

omit [LawfulInfixLibrary] [LawfulZonedTimeLibrary] [LawfulTextLibrary] [TimestampLibrary] in
theorem timestampValue_eq_ok {text : String} {t instant : Instant} (h : WrittenTime text t) :
    timestampValue text = .ok instant ↔ instant = t := by
  simp only [timestampValue, h.parse, bind_eq_ok, orRaise_eq_ok, pure_eq_ok, Option.some.injEq,
    exists_eq_left']
  exact eq_comm

/-- The conclusions on version 1 claims, and when each is drawn. -/
inductive Concludes (call : Surroundings) (claims : ClaimsFields) (now expires : Instant) :
    Conclusion → Prop
  | expired : expires ≤ now →
      Concludes call claims now expires (.failed "attestation_revalidation_expired")
  | revoked {status : RevocationStatus} : now < expires → Answers call claims status →
      status.validate now = .ok () → Revokes status.toStatusFields →
      Concludes call claims now expires (.failed "attestation_revalidation_revoked")
  | successful {status : RevocationStatus} (digest : String) : now < expires →
      Answers call claims status → status.validate now = .ok () →
      ¬Revokes status.toStatusFields →
      Concludes call claims now expires ⟨"Successful", none, some digest⟩

omit [LawfulInfixLibrary] [LawfulZonedTimeLibrary] [LawfulTextLibrary] [TimestampLibrary] in
theorem readRevocationStatus_eq_ok {call : Surroundings}
    {claims : CredentialCapabilityAttestationClaims} {status : RevocationStatus} :
    readRevocationStatus call.readStatus claims = .ok status ↔
      Answers call claims.toClaimsFields status := by
  unfold readRevocationStatus Answers
  rcases call.readStatus claims.attestationId claims.credentialInstanceId claims.issuerId
    claims.keyId claims.attestationVersion with _ | _ | _ | found <;> simp

omit [LawfulInfixLibrary] [LawfulZonedTimeLibrary] [LawfulTextLibrary] [TimestampLibrary] in
theorem concludeV1_concludes {call : Surroundings}
    {claims : CredentialCapabilityAttestationClaims} {contextDigest referenceDigest : String}
    {now expires : Instant} {conclusion : Conclusion}
    (hexpires : WrittenTime claims.expiresAt expires)
    (h : concludeV1 call claims contextDigest referenceDigest now = .ok conclusion) :
    Concludes call claims.toClaimsFields now expires conclusion := by
  simp only [concludeV1, fallible_bind_eq_ok, mapError_eq_ok, timestampValue_eq_ok hexpires] at h
  obtain ⟨_, rfl, h⟩ := h
  split_ifs at h with hexpired
  · simp only [fallible_pure_eq_ok] at h
    exact h ▸ .expired hexpired
  · have hopen := not_le.mp hexpired
    simp only [fallible_bind_eq_ok, mapError_eq_ok, readRevocationStatus_eq_ok] at h
    obtain ⟨status, hstatus, _, hvalid, h⟩ := h
    split_ifs at h with hrevoked
    · simp only [fallible_pure_eq_ok] at h
      exact h ▸ .revoked hopen hstatus hvalid (Bool.or_eq_true_iff.mp hrevoked)
    · simp only [fallible_bind_eq_ok, mapError_eq_ok, fallible_pure_eq_ok] at h
      obtain ⟨digest, -, rfl⟩ := h
      exact .successful digest hopen hstatus hvalid fun hrevokes =>
        hrevoked (Bool.or_eq_true_iff.mpr hrevokes)

omit [PythonLibrary] [UnicodeLibrary] [ZonedTimeLibrary] [LawfulInfixLibrary]
  [LawfulZonedTimeLibrary] [LawfulTextLibrary] [TimestampLibrary] in
/-- The events that say such a conclusion have a decision. -/
theorem decisionOf_concludes [PythonLibrary] [UnicodeLibrary] [ZonedTimeLibrary]
    {call : Surroundings} {claims : ClaimsFields} {now expires : Instant}
    {conclusion : Conclusion} {e : EventFields}
    (h : Concludes call claims now expires conclusion) (houtcome : e.outcome = conclusion.outcome)
    (hfailure : e.failureCode = conclusion.failureCode) :
    ∃ decision reasonCode, decisionOf e = some (decision, reasonCode) ∧
      (decision, reasonCode) ∈ validPairs ∧ (decision = .satisfied ↔ e.outcome = "Successful") ∧
      (e.outcome ≠ "Successful" → decision = .notSatisfied ∧ e.failureCode = some reasonCode) := by
  cases h <;> simp [decisionOf, houtcome, hfailure, Conclusion.failed, validPairs]

/-! ## Revalidations that return -/

variable [LawfulDigestLibrary] {state : Type} {store : AttestationPersistenceStore state}

/-- What an event may say. -/
def Sayable (c : Conclusion) : Prop :=
  (c.outcome = "Successful" ∧ c.failureCode = none ∧
      ∃ result, c.resultDigest = some result ∧ hexPattern "sha256:" result = true) ∨
    (c.outcome = "Failed" ∧ c.resultDigest = none ∧
      ∃ failure ∈ attestationRevalidationFailureCodes, c.failureCode = some failure)

omit [TimestampLibrary] [LawfulTextLibrary] [LawfulZonedTimeLibrary] [LawfulInfixLibrary] in
/-- A conclusion on version 1 claims is one that an event may say. -/
theorem concludeV1_sayable {call : Surroundings} {claims : CredentialCapabilityAttestationClaims}
    {contextDigest referenceDigest : String} {now : Instant} {conclusion : Conclusion}
    (h : concludeV1 call claims contextDigest referenceDigest now = .ok conclusion) :
    Sayable conclusion := by
  simp only [concludeV1, fallible_bind_eq_ok, mapError_eq_ok] at h
  obtain ⟨_, -, h⟩ := h
  split_ifs at h
  · simp only [fallible_pure_eq_ok] at h
    exact h ▸ .inr ⟨rfl, rfl, _, by decide, rfl⟩
  · simp only [fallible_bind_eq_ok, mapError_eq_ok] at h
    obtain ⟨_, -, _, -, h⟩ := h
    split_ifs at h
    · simp only [fallible_pure_eq_ok] at h
      exact h ▸ .inr ⟨rfl, rfl, _, by decide, rfl⟩
    · simp only [fallible_bind_eq_ok, mapError_eq_ok, fallible_pure_eq_ok] at h
      obtain ⟨result, hresult, rfl⟩ := h
      simp only [resultDigest, canonicalDigest, bind_eq_ok, pure_eq_ok] at hresult
      obtain ⟨material, -, rfl⟩ := hresult
      exact .inl ⟨rfl, rfl, _, rfl, hexPattern_append (LawfulDigestLibrary.hexdigest material)⟩

omit [LawfulInfixLibrary] in
/-- A valid status lets version 1 claims be concluded on. -/
theorem exists_concludeV1 {call : Surroundings} {claims : CredentialCapabilityAttestationClaims}
    {now : Instant} {status : RevocationStatus} (contextDigest referenceDigest : String)
    (hanswers : Answers call claims.toClaimsFields status)
    (hvalid : status.validate now = .ok ()) :
    ∃ conclusion, concludeV1 call claims contextDigest referenceDigest now = .ok conclusion := by
  obtain ⟨-, expires, -, hexpires, -⟩ := claims.sound.lasting
  have hread : timestampValue claims.expiresAt = .ok expires :=
    (timestampValue_eq_ok hexpires).mpr rfl
  obtain ⟨material, hmaterial⟩ := normalize_mapping
    [("domain", .str resultDomain), ("outcome", .str "Successful"),
      ("revalidation_context_digest", .str contextDigest),
      ("binding_reference_digest", .str referenceDigest)]
    (by simp only [Dict.keys, List.map_cons, List.map_nil]; decide)
    (by simp only [Dict.keys, List.map_cons, List.map_nil]; decide)
    (by
      simp only [List.forall_mem_cons, List.not_mem_nil, false_implies, implies_true, and_true]
      exact ⟨⟨_, rfl⟩, ⟨_, rfl⟩, ⟨_, rfl⟩, _, rfl⟩)
  have hdigest : resultDigest contextDigest referenceDigest = .ok (digest material) := by
    simp only [resultDigest, canonicalDigest, bind_eq_ok, pure_eq_ok]
    exact ⟨material, hmaterial, rfl⟩
  simp only [concludeV1, fallible_bind_eq_ok, mapError_eq_ok, hread, Except.ok.injEq,
    exists_eq_left']
  split_ifs
  · exact ⟨_, rfl⟩
  · simp only [fallible_bind_eq_ok, mapError_eq_ok, readRevocationStatus_eq_ok]
    by_cases hrevoked : (status.attestationRevoked || status.credentialInstanceRevoked) = true
    · exact ⟨_, status, hanswers, (), hvalid, if_pos hrevoked⟩
    · refine ⟨⟨"Successful", none, some (digest material)⟩, status, hanswers, (), hvalid, ?_⟩
      rw [if_neg hrevoked, hdigest]
      rfl

omit [LawfulInfixLibrary] in
/-- An event on an aggregate is created at a time that is written. -/
theorem exists_createdEvent (aggregate : AttestationArtifactAggregate)
    {attemptId written contextDigest : String} {now : Instant} {conclusion : Conclusion}
    (hattempt : attemptPattern attemptId = true)
    (hcontext : hexPattern "sha256:" contextDigest = true) (hnow : WrittenTime written now)
    (hsayable : Sayable conclusion) [LawfulInfixLibrary] :
    ∃ e, AttestationRevalidationEvent.create (.str aggregate.artifact.workspaceIdentity)
        (.str aggregate.artifact.artifactId) (.str aggregate.artifact.artifactDigest)
        (.str attemptId) (.str contextDigest)
        (.str aggregate.bindingReference.bindingReferenceDigest) conclusion.outcome
        (Value.timestamp now) conclusion.failureCode conclusion.resultDigest = .ok e ∧
      e.workspaceIdentity = aggregate.artifact.workspaceIdentity ∧
      e.artifactId = aggregate.artifact.artifactId ∧ e.revalidationAttemptId = attemptId ∧
      Tells e.toEventFields aggregate := by
  have hartifact := aggregate.artifact.sound
  have hreference := aggregate.bindingReference.sound
  obtain ⟨stored, hstored, -⟩ := WrittenTime.persistedTimestamp hnow
  obtain ⟨e, eventId, payloadDigest, he⟩ := exists_event
    (⟨"", aggregate.artifact.workspaceIdentity, aggregate.artifact.artifactId,
      aggregate.artifact.artifactDigest, attemptId, contextDigest,
      aggregate.bindingReference.bindingReferenceDigest, conclusion.outcome, stored,
      conclusion.failureCode, conclusion.resultDigest, ""⟩ : EventFields)
    hartifact.workspace hartifact.artifactIdForm hattempt
    (by
      simp only [List.forall_mem_cons, List.not_mem_nil, false_implies, implies_true, and_true]
      exact ⟨hartifact.contentForm, hcontext, hreference.digests _ (by simp)⟩)
    ⟨now, persistedTimestamp_stored hstored⟩ hsayable
  have hid := e.sound.eventId
  have hcontent := e.sound.content
  have hmade := e.again_eq
  rw [AttestationRevalidationEvent.again] at hmade
  rw [he] at hid hcontent hmade
  refine ⟨e, ?_, by rw [he], by rw [he], by rw [he], by rw [he]; exact ⟨rfl, rfl⟩⟩
  rw [Value.timestamp, ← hnow.written]
  simp only [AttestationRevalidationEvent.create, bind_eq_ok, exactText_eq_ok]
  exact ⟨_, Settled.persistedText hartifact.workspace, _, ⟨rfl, hartifact.artifactIdForm⟩, _,
    ⟨rfl, hattempt⟩, _, hstored, _, ⟨rfl, hartifact.contentForm⟩, _, ⟨rfl, hcontext⟩, _,
    ⟨rfl, hreference.digests _ (by simp)⟩, _, hid, _, hcontent, hmade⟩

omit [LawfulInfixLibrary] in
/-- The context of a matching artifact and reference has a digest. -/
theorem exists_contextDigest [LawfulInfixLibrary] (aggregate : AttestationArtifactAggregate) :
    ∃ payload contextDigest,
      contextPayload (artifactObject aggregate.artifact.toArtifactFields)
        (referenceAttributes aggregate.bindingReference.toReferenceFields) = .ok payload ∧
      canonicalDigest (.dict payload) = .ok contextDigest ∧
      hexPattern "sha256:" contextDigest = true := by
  have ha := RestartAcceptance.artifactObject_describes aggregate.artifact.toArtifactFields
  have hsound := aggregate.bindingReference.sound
  have hr : RestartAcceptance.DescribesReference
      (referenceAttributes aggregate.bindingReference.toReferenceFields)
      aggregate.bindingReference.toReferenceFields :=
    RestartAcceptance.referenceAttributes_describe fun hversion =>
      (hsound.extension.resolve_right fun h => hversion h.1).2
  have hpayload : referencePayload
      (referenceAttributes aggregate.bindingReference.toReferenceFields) =
      .ok aggregate.bindingReference.projection := by
    simp only [referencePayload, bind_eq_ok, pure_eq_ok]
    exact ⟨_, AttestationBindingReference.make_eq_ok.mpr (hr.postInit hsound), rfl⟩
  have hclaims : claimsPayload (artifactObject aggregate.artifact.toArtifactFields).claims =
      [("domain", .str aggregate.artifact.claimsPayload.domain),
        ("claims", .dict aggregate.artifact.claimsPayload.claimsEntries)] :=
    Value.dict.inj ha.claims.payload
  obtain ⟨artifact, hartifact⟩ := normalize_mapping
    (contextArtifact (artifactObject aggregate.artifact.toArtifactFields))
    (by simp only [contextArtifact, Dict.keys, List.map_cons, List.map_nil]; decide)
    (by simp only [contextArtifact, Dict.keys, List.map_cons, List.map_nil]; decide)
    (by
      simp only [contextArtifact, List.forall_mem_cons, List.not_mem_nil, false_implies,
        implies_true, and_true, hclaims]
      exact ⟨⟨_, rfl⟩, ⟨_, rfl⟩, ⟨_, rfl⟩, ⟨_, rfl⟩, ⟨_, rfl⟩,
        ⟨_, aggregate.artifact.claimsPayload.sound.normalize⟩, ⟨_, rfl⟩, ⟨_, rfl⟩, _, rfl⟩)
  have hreference := normalize_entries
    (aggregate.bindingReference.projection_keys.2.1) aggregate.bindingReference.projection_keys.1
    hsound.normalize
  obtain ⟨payload, hcontext⟩ : ∃ payload, contextPayload
      (artifactObject aggregate.artifact.toArtifactFields)
      (referenceAttributes aggregate.bindingReference.toReferenceFields) = .ok payload := by
    rw [contextPayload, hpayload]
    exact ⟨_, rfl⟩
  have hlisted : payload =
      [("domain", .str contextDomain), ("payload_version", .str "1"),
        ("workspace_identity",
          (artifactObject aggregate.artifact.toArtifactFields).get "workspace_identity"),
        ("artifact", .dict (contextArtifact (artifactObject aggregate.artifact.toArtifactFields))),
        ("binding_reference", .dict aggregate.bindingReference.projection)] := by
    rw [contextPayload, hpayload] at hcontext
    exact (Except.ok.inj hcontext).symm
  obtain ⟨material, hmaterial⟩ := normalize_mapping payload
    (by simp only [hlisted, Dict.keys, List.map_cons, List.map_nil]; decide)
    (by simp only [hlisted, Dict.keys, List.map_cons, List.map_nil]; decide)
    (by
      simp only [hlisted, List.forall_mem_cons, List.not_mem_nil, false_implies, implies_true,
        and_true]
      exact ⟨⟨_, rfl⟩, ⟨_, rfl⟩, ⟨_, rfl⟩, ⟨_, hartifact⟩, _, hreference⟩)
  refine ⟨payload, digest material, hcontext, ?_,
    hexPattern_append (LawfulDigestLibrary.hexdigest material)⟩
  simp only [canonicalDigest, bind_eq_ok, pure_eq_ok]
  exact ⟨material, hmaterial, rfl⟩

/-- The store has the aggregate, and takes any event on it. -/
structure Takes (store : AttestationPersistenceStore state) (stored : state)
    (aggregate : AttestationArtifactAggregate) : Prop where
  found : store.getArtifactAggregate stored aggregate.artifact.workspaceIdentity
    aggregate.artifact.artifactId = .ok (some aggregate)
  append : ∀ e : AttestationRevalidationEvent,
    e.workspaceIdentity = aggregate.artifact.workspaceIdentity →
    e.artifactId = aggregate.artifact.artifactId → Tells e.toEventFields aggregate →
    ∃ sequenced, (store.appendRevalidationEvent stored e).1 = .ok sequenced

/-- An aggregate that is persisted first takes any event on it. -/
theorem exists_takes (aggregate : AttestationArtifactAggregate) :
    ∃ s, InUse AttestationMemoryStore.InMemoryAttestationPersistenceStore.store s ∧
      Takes AttestationMemoryStore.InMemoryAttestationPersistenceStore.store s aggregate := by
  obtain ⟨-, hrepresents⟩ :=
    AttestationMemoryStore.InMemoryAttestationPersistenceStore.empty_represents.persist aggregate
  have hlog : (Ledger.persist Logs.empty aggregate).2
      (artifactKey aggregate.artifact.toArtifactFields) = some ⟨aggregate, []⟩ :=
    Function.update_self ..
  refine ⟨_, .memory (.single (.persisted aggregate.artifact aggregate.bindingReference)), ?_,
    fun e hworkspace hartifact htells => ?_⟩
  · rw [hrepresents.get (AttestationStores.keyOf_head aggregate.artifact), Ledger.aggregate, hlog]
    rfl
  · have hkey : eventKey e.toEventFields = artifactKey aggregate.artifact.toArtifactFields :=
      Prod.ext hworkspace hartifact
    have hnamed : named eventName ([] : List AttestationRevalidationEvent) (eventName e) = none :=
      rfl
    rw [(hrepresents.append e).1, Ledger.append, hkey, hlog]
    simp only [if_pos htells, hnamed]
    exact ⟨_, rfl⟩

/-- What is concluded of a stored aggregate is recorded. -/
theorem exists_recorded {host : Host state} {attempt : ℕ} {attemptId written contextDigest : String}
    {aggregate : AttestationArtifactAggregate} {now : Instant} {conclusion : Conclusion}
    (htakes : Takes store host.stored aggregate)
    (hopen : Open host attempt
      (attemptId, aggregate.artifact.workspaceIdentity, aggregate.artifact.artifactId))
    (hattempt : attemptPattern attemptId = true)
    (hcontext : hexPattern "sha256:" contextDigest = true) (hnow : WrittenTime written now)
    (hsayable : Sayable conclusion) :
    ∃ result host', (appendOutcome store attempt aggregate contextDigest now conclusion).start
      host = (.ok result, host') := by
  obtain ⟨e, hcreate, hworkspace, hartifact, hid, htells⟩ :=
    exists_createdEvent aggregate hattempt hcontext hnow hsayable
  obtain ⟨sequenced, happend⟩ := htakes.append e hworkspace hartifact htells
  have howned := owned_created hattempt (Settled.persistedText aggregate.artifact.sound.workspace)
    aggregate.artifact.sound.artifactIdForm hopen.entry hopen.object
  have hrefers : (⟨attempt, (aggregate.artifact.workspaceIdentity, aggregate.artifact.artifactId),
      none⟩ : AttemptEntry).refersTo host.objects attempt := ⟨rfl, by rw [hopen.object]; rfl⟩
  obtain ⟨boundary, hregister⟩ := register_new (e := e) hopen.entry hrefers rfl
  have hfinalize : finalizeAttempt attempt e host = .ok (e, { host with boundary }) := by
    simp only [finalizeAttempt, attemptProperties, hopen.object,
      RevalidationAttemptBoundary.instantiate, RevalidationAttemptBoundary.finalize, readEvent,
      Supplied.read, bind_eq_ok, require_eq_ok, pure_eq_ok, Except.ok.injEq, exists_eq_left']
    exact ⟨_, howned, (e, e, boundary), ⟨e, e.again_eq, (), ⟨hid, hworkspace, hartifact⟩, _,
      hregister, rfl⟩, rfl⟩
  refine ⟨⟨conclusion.outcome, conclusion.failureCode, conclusion.resultDigest, sequenced⟩,
    { host with boundary, stored := (store.appendRevalidationEvent host.stored e).2 }, ?_⟩
  simp only [appendOutcome, FallibleRuns.start_bind_eq_ok, FallibleRuns.start_get_eq_ok,
    ofRecord_eq_ok, FallibleRuns.start_set_eq_ok, FallibleRuns.start_ofExcept_eq_ok,
    FallibleRuns.start_pure_eq_ok, mapError_eq_ok]
  exact ⟨_, _, ⟨rfl, rfl⟩, _, _, ⟨by rw [hopen.object]; rfl, rfl⟩, e, _, ⟨hcreate, rfl⟩, _, _,
    ⟨hfinalize, rfl⟩, (), _, rfl, sequenced, _, ⟨happend, rfl⟩, rfl, rfl⟩

omit [TimestampLibrary] [LawfulTextLibrary] [LawfulZonedTimeLibrary] [LawfulInfixLibrary]
  [LawfulDigestLibrary] in
/-- A fresh identity makes an open attempt, and leaves the store. -/
theorem exists_attempt {host : Host state} {attemptId workspace artifact : String}
    {entropy : Option (List UInt8)} (hentropy : attemptIdOf entropy = .ok attemptId)
    (hfresh : attemptId ∉ host.boundary.attemptTombstones) (hworkspace : Settled workspace)
    (hartifact : hexPattern "artifact-" artifact = true) :
    ∃ attempt opened, createAttempt (.str workspace) (.str artifact) entropy host =
        .ok (attempt, opened) ∧
      Open opened attempt (attemptId, workspace, artifact) ∧ opened.stored = host.stored := by
  have hfields : attemptFields (.str workspace) (.str artifact) entropy =
      .ok (attemptId, workspace, artifact) := by
    simp only [attemptFields, bind_eq_ok, exactText_eq_ok, pure_eq_ok]
    exact ⟨_, Settled.persistedText hworkspace, _, ⟨rfl, hartifact⟩, _, hentropy, rfl⟩
  obtain ⟨boundary, hcreate⟩ : ∃ boundary, host.boundary.create host.allocated
      (attemptId, workspace, artifact) = .ok boundary := by
    simp only [RevalidationAttemptBoundary.create, bind_eq_ok, require_eq_ok, pure_eq_ok]
    exact ⟨_, (), hfresh, rfl⟩
  refine ⟨host.allocated,
    { host with
      boundary := boundary
      objects := Function.update host.objects host.allocated
        (some (boundary.instantiate (attemptId, workspace, artifact)))
      allocated := host.allocated + 1 }, ?_, ⟨Function.update_self .., ?_⟩, rfl⟩
  · simp only [createAttempt, hfields, bind_eq_ok, pure_eq_ok, Except.ok.injEq, exists_eq_left']
    exact ⟨boundary, hcreate, rfl⟩
  · rw [(create_eq_ok hcreate).2]
    exact Function.update_self ..

/-- The revalidation of a stored aggregate returns where all that it reads is in order. -/
theorem exists_revalidated [LawfulCivilTimes] {host : Host state} {call : Surroundings}
    {attemptId written : String} {aggregate : AttestationArtifactAggregate} {now : Instant}
    {request : RequestFields} (htakes : Takes store host.stored aggregate)
    (hentropy : attemptIdOf call.entropy = .ok attemptId)
    (hattempt : attemptPattern attemptId = true)
    (hfresh : attemptId ∉ host.boundary.attemptTombstones)
    (hclock : call.clock = .returned (some ⟨now, 0⟩)) (hnow : WrittenTime written now)
    (hshape : RequestShape request)
    (hrequest : RequestMatches request (artifactObject aggregate.artifact.toArtifactFields).claims)
    (hstatus : aggregate.artifact.claimsPayload.attestationVersion = "2" ∨ ∃ status,
      Answers call aggregate.artifact.claimsPayload.toClaimsFields status ∧
        status.validate now = .ok ()) :
    ∃ result host', (revalidate store call (.str aggregate.artifact.workspaceIdentity)
      (.str aggregate.artifact.artifactId)
      (some (referenceAttributes aggregate.bindingReference.toReferenceFields))
      (some request)).start host = (.ok result, host') := by
  have hartifact := aggregate.artifact.sound
  have hreference := aggregate.bindingReference.sound
  have ha := RestartAcceptance.artifactObject_describes aggregate.artifact.toArtifactFields
  have hr : RestartAcceptance.DescribesReference
      (referenceAttributes aggregate.bindingReference.toReferenceFields)
      aggregate.bindingReference.toReferenceFields :=
    RestartAcceptance.referenceAttributes_describe fun hversion =>
      (hreference.extension.resolve_right fun h => hversion h.1).2
  have hvalid := RestartAcceptance.validate_accepts ha hartifact hr hreference aggregate.matching
    hshape hrequest
  have hworkspace : checkedText (.str aggregate.artifact.workspaceIdentity)
      (validText (.str aggregate.artifact.workspaceIdentity)) =
        .ok aggregate.artifact.workspaceIdentity :=
    if_pos (RestartAcceptance.validText_of_settled hartifact.workspace)
  have hid : checkedText (.str aggregate.artifact.artifactId)
      (validId (.str aggregate.artifact.artifactId) (hexPattern "artifact-")) =
        .ok aggregate.artifact.artifactId :=
    if_pos (RestartAcceptance.validId_iff.mpr ⟨_, rfl, hartifact.artifactIdForm⟩)
  have hstored : storedAggregate store aggregate.artifact.workspaceIdentity
      aggregate.artifact.artifactId host.stored = .ok aggregate := by
    rw [storedAggregate, htakes.found]
  have hread : readClock call.clock = .ok now := by
    rw [hclock, readClock]
    exact if_pos rfl
  obtain ⟨payload, contextDigest, hpayload, hdigest, hform⟩ := exists_contextDigest aggregate
  obtain ⟨attempt, opened, hcreated, hopen, hsame⟩ :=
    exists_attempt hentropy hfresh hartifact.workspace hartifact.artifactIdForm
  rw [← hsame] at htakes
  have hconclude : ∃ result host', (concludeRevalidation store call aggregate contextDigest attempt
      now).start opened = (.ok result, host') := by
    rw [concludeRevalidation]
    by_cases hversion : aggregate.artifact.claimsPayload.attestationVersion = "2"
    · obtain ⟨recorded, host', hrecorded⟩ := exists_recorded htakes hopen hattempt hform hnow
        (.inr ⟨rfl, rfl, "attestation_revalidation_verifier_unavailable", by decide, rfl⟩ :
          Sayable (.failed "attestation_revalidation_verifier_unavailable"))
      rw [if_pos hversion]
      simp only [FallibleRuns.start_bind_eq_ok, FallibleRuns.start_pure_eq_ok]
      exact ⟨_, host', recorded, host', hrecorded, rfl, rfl⟩
    · obtain ⟨status, hanswers, hstatusValid⟩ := hstatus.resolve_left hversion
      obtain ⟨conclusion, hconclusion⟩ := exists_concludeV1 contextDigest
        aggregate.bindingReference.bindingReferenceDigest hanswers hstatusValid
      obtain ⟨recorded, host', hrecorded⟩ := exists_recorded htakes hopen hattempt hform hnow
        (concludeV1_sayable hconclusion)
      rw [if_neg hversion]
      simp only [FallibleRuns.start_bind_eq_ok, FallibleRuns.start_ofExcept_eq_ok]
      exact ⟨recorded, host', conclusion, opened, ⟨hconclusion, rfl⟩, hrecorded⟩
  obtain ⟨result, host', hresult⟩ := hconclude
  refine ⟨result, host', ?_⟩
  simp only [revalidate, FallibleRuns.start_bind_eq_ok, FallibleRuns.start_get_eq_ok,
    ofRecord_eq_ok, FallibleRuns.start_set_eq_ok, FallibleRuns.start_ofExcept_eq_ok]
  exact ⟨_, _, ⟨hworkspace, rfl⟩, _, _, ⟨hid, rfl⟩, host, _, ⟨rfl, rfl⟩, aggregate, _,
    ⟨hstored, rfl⟩, (_, _), _, ⟨hvalid, rfl⟩, payload, _, ⟨hpayload, rfl⟩, contextDigest, _,
    ⟨hdigest, rfl⟩, (attempt, opened), _, ⟨hcreated, rfl⟩, (), _, rfl, now, _, ⟨hread, rfl⟩,
    hresult⟩

/-- A host with a store, a new boundary and no objects. -/
def newHost (stored : state) : Host state := ⟨stored, ⟨0, fun _ => none, ∅⟩, fun _ => none, 0⟩

omit [TimestampLibrary] [LawfulTextLibrary] [LawfulZonedTimeLibrary] [LawfulInfixLibrary]
  [LawfulDigestLibrary] in
theorem exists_active : ∃ status : RevocationStatus, status.toStatusFields =
    { attestationRevoked := false, credentialInstanceRevoked := false, revokedAt := none
      reason := none, version := "1" } := by
  refine ⟨⟨_, ⟨{ attestationRevoked := false, credentialInstanceRevoked := false, revokedAt := none
                 reason := none, version := "1" }, ?_⟩⟩, rfl⟩
  simp only [StatusFields.postInit, bind_eq_ok, require_eq_ok]
  exact ⟨(), by decide, none, rfl, rfl⟩

omit [TimestampLibrary] [LawfulTextLibrary] [LawfulZonedTimeLibrary] [LawfulInfixLibrary]
  [LawfulDigestLibrary] in
/-- What a call may read: its instant, and that nothing is revoked. -/
theorem exists_calm (now : Instant) : ∃ call : Surroundings,
    call.clock = .returned (some ⟨now, 0⟩) ∧ call.entropy = some (List.replicate 16 0) ∧
      ∃ status, (∀ claims, Answers call claims status) ∧ status.validate now = .ok () ∧
        ¬Revokes status.toStatusFields := by
  obtain ⟨status, hstatus⟩ := exists_active
  refine ⟨⟨some (List.replicate 16 0), .returned (some ⟨now, 0⟩),
    fun _ _ _ _ _ => .returned (some status)⟩, rfl, rfl, status, fun _ => rfl, ?_, ?_⟩
  · rw [hstatus, StatusFields.validate]
    rfl
  · rw [hstatus, Revokes]
    simp

/-- An artifact is revalidated at any instant that is written. -/
theorem exists_revalidation [LawfulCivilTimes] (a : PersistedAttestationArtifact)
    {written : String} {now : Instant} (hnow : WrittenTime written now) :
    ∃ (s : AttestationMemoryStore.InMemoryAttestationPersistenceStore) (call : Surroundings)
      (aggregate : AttestationArtifactAggregate) (reference : Attributes) (request : RequestFields)
      (result : RestartRevalidationResult)
      (host' : Host AttestationMemoryStore.InMemoryAttestationPersistenceStore),
      InUse AttestationMemoryStore.InMemoryAttestationPersistenceStore.store s ∧
        aggregate.artifact = a ∧
        Takes AttestationMemoryStore.InMemoryAttestationPersistenceStore.store s aggregate ∧
        call.clock = .returned (some ⟨now, 0⟩) ∧
        (∀ claims status, Answers call claims status → ¬Revokes status.toStatusFields) ∧
        (revalidate AttestationMemoryStore.InMemoryAttestationPersistenceStore.store call
          (.str a.workspaceIdentity) (.str a.artifactId) (some reference) (some request)).start
            (newHost s) = (.ok result, host') := by
  obtain ⟨r, hmatches, -⟩ := exists_reference a
    (hexPattern_append (by decide : hexPattern "" AttestationReference.zeros = true))
  obtain ⟨s, hstore, htakes⟩ := exists_takes ⟨a, r, hmatches⟩
  obtain ⟨call, hclock, hentropy, status, hanswers, hvalid, hrevokes⟩ := exists_calm now
  obtain ⟨challengeDigest, hrequest⟩ :=
    RestartAcceptance.exists_request a.claimsPayload.sound a.sound.granted
  have hagrees : RestartConsistency.Agrees
      (RestartAcceptance.requestFor a.claimsPayload.toClaimsFields challengeDigest)
      a.claimsPayload.toClaimsFields :=
    ⟨rfl, rfl, rfl, rfl, rfl, rfl, rfl, rfl, rfl, fun _ h => h⟩
  obtain ⟨attemptId, hid⟩ : ∃ attemptId, attemptIdOf (some (List.replicate 16 0)) = .ok attemptId :=
    ⟨_, rfl⟩
  have hattempt : attemptPattern attemptId = true := by
    cases hid
    decide
  obtain ⟨result, host', hresult⟩ := exists_revalidated
    (show Takes _ (newHost s).stored _ from htakes) (by rw [hentropy, hid]) hattempt
    (Finset.notMem_empty _) hclock hnow
    (RestartAcceptance.requestShape_of_snapshot hrequest)
    (hagrees.matches (RestartAcceptance.claimsAttributes_describe _))
    (.inr ⟨status, hanswers _, hvalid⟩)
  refine ⟨s, call, _, _, _, result, host', hstore, rfl, htakes, hclock,
    fun claims other hother => ?_, hresult⟩
  obtain rfl := Option.some.inj (Reply.returned.inj ((hanswers claims).symm.trans hother))
  exact hrevokes

omit [LawfulInfixLibrary] in
/-- An artifact of claims with this version and its extension. -/
theorem exists_artifact {version challengeDigest principal : String}
    (hissued : WrittenTime "2026-01-01T00:00:00Z" AttestationReference.issuedInstant)
    (hexpires : WrittenTime "2026-02-01T00:00:00Z" AttestationReference.expiresInstant)
    (hversion : Matching idPattern version)
    (hextension : version = "1" ∧ challengeDigest = "" ∧ principal = "" ∨
      version = "2" ∧ Matching (hexPattern "sha256:") challengeDigest ∧ Settled principal) :
    ∃ a : PersistedAttestationArtifact, a.claimsPayload.attestationVersion = version ∧
      a.claimsPayload.issuedAt = "2026-01-01T00:00:00Z" := by
  have hvalid : ({ AttestationReference.sampleClaimsFields "nonce-1" with
      attestationVersion := version, challengeDigest := challengeDigest
      credentialPrincipalIdentity := principal } : ClaimsFields).Valid :=
    { AttestationReference.sampleClaimsFields_valid (AttestationReference.matching_of_graphic
        (by decide) (by decide) (by decide)) hissued hexpires with
      version := hversion
      extension := hextension }
  obtain ⟨claims, hclaims⟩ := hvalid.exists_claims
  have hfields : claims.grantedCapabilities = ["issues:read", "issues:write"] ∧
      claims.signatureAlgorithm = "ed25519" ∧ claims.issuedAt = "2026-01-01T00:00:00Z" ∧
      claims.expiresAt = "2026-02-01T00:00:00Z" ∧ claims.attestationVersion = version := by
    rw [hclaims]
    exact ⟨rfl, rfl, rfl, rfl, rfl⟩
  obtain ⟨hgranted, halgorithm, hissuedAt, hexpiresAt, hsameVersion⟩ := hfields
  obtain ⟨a, ha⟩ := PersistedAttestationArtifact.create_ok
    (by rw [hgranted]; decide) halgorithm
    ((by decide : Graphic "workspace-1").settled (by decide))
    (by decide : proofPattern IssuanceHistories.sampleProof = true)
    (by rw [hissuedAt]; exact hissued) (by rw [hexpiresAt]; exact hexpires) hissued.parse
    hissued.parse (le_refl _) (by decide) (le_refl _)
  have hsame := (PersistedAttestationArtifact.create_holds ha).1
  exact ⟨a, by rw [hsame, hsameVersion], by rw [hsame, hissuedAt]⟩

omit [LawfulInfixLibrary] in
theorem exists_firstArtifact
    (hissued : WrittenTime "2026-01-01T00:00:00Z" AttestationReference.issuedInstant)
    (hexpires : WrittenTime "2026-02-01T00:00:00Z" AttestationReference.expiresInstant) :
    ∃ a : PersistedAttestationArtifact, a.claimsPayload.attestationVersion = "1" ∧
      a.claimsPayload.issuedAt = "2026-01-01T00:00:00Z" :=
  exists_artifact hissued hexpires
    (AttestationReference.matching_of_graphic (by decide) (by decide) (by decide))
    (.inl ⟨rfl, rfl, rfl⟩)

omit [LawfulInfixLibrary] in
theorem exists_secondArtifact
    (hissued : WrittenTime "2026-01-01T00:00:00Z" AttestationReference.issuedInstant)
    (hexpires : WrittenTime "2026-02-01T00:00:00Z" AttestationReference.expiresInstant) :
    ∃ a : PersistedAttestationArtifact, a.claimsPayload.attestationVersion = "2" ∧
      a.claimsPayload.issuedAt = "2026-01-01T00:00:00Z" :=
  exists_artifact hissued hexpires
    (AttestationReference.matching_of_graphic (by decide) (by decide) (by decide))
    (.inr ⟨rfl,
      AttestationReference.matching_of_graphic (s := "sha256:" ++ AttestationReference.zeros) (by decide) (by decide) (by decide),
      (by decide : Graphic "installation-1").settled (by decide)⟩)

omit [TimestampLibrary] [LawfulTextLibrary] [LawfulZonedTimeLibrary] [LawfulInfixLibrary]
  [LawfulDigestLibrary] in
/-- What is recorded is of the aggregate that the store has. -/
theorem recorded_aggregate {call : Surroundings} {host host' : Host state}
    {aggregate found : AttestationArtifactAggregate} {now : Instant} {conclusion : Conclusion}
    {e : AttestationRevalidationEvent} {result : RestartRevalidationResult}
    (htakes : Takes store host.stored aggregate)
    (h : Recorded store call (.str aggregate.artifact.workspaceIdentity)
      (.str aggregate.artifact.artifactId) host host' found now conclusion e result) :
    found = aggregate := by
  obtain ⟨_, _, hworkspace, hartifact, hfound⟩ := h.found
  have hread := htakes.found
  rw [Value.str.inj hworkspace, Value.str.inj hartifact] at hread
  exact Option.some.inj (Except.ok.inj (hfound.symm.trans hread))

end

/-! ## Over the reference library -/

/-- A month before the claims are issued. -/
def earlierInstant : Instant := 1764547200000000

/-- The parser on the texts of three moments. -/
@[reducible] def earlierTimes : ZonedTimeLibrary where
  parse s :=
    if s = "2025-12-01T00:00:00Z" ∨ s = "2025-12-01T00:00:00.000000Z" then
      some ⟨earlierInstant, 0⟩
    else AttestationReference.referenceTimes.parse s
  isoformatMicroseconds := AttestationReference.isoformatMicroseconds

section
attribute [local instance] ReferenceLibrary.referenceLibrary IssuanceHistories.referenceTimestamps
  IssuanceHistories.referenceUnicode IssuanceHistories.referenceLibrary_lawful earlierTimes

theorem parse_earlier {s : String} {z : ZonedDatetime} (h : ZonedTimeLibrary.parse s = some z) :
    z.instant = earlierInstant ∨ z.instant = AttestationReference.issuedInstant ∨
      z.instant = AttestationReference.expiresInstant := by
  change (if s = "2025-12-01T00:00:00Z" ∨ s = "2025-12-01T00:00:00.000000Z" then
      some (⟨earlierInstant, 0⟩ : ZonedDatetime)
    else AttestationReference.referenceTimes.parse s) = some z at h
  split_ifs at h
  · obtain rfl := Option.some.inj h
    exact .inl rfl
  · exact .inr (AttestationReference.parse_moment h)

theorem earlierTimes_lawful : LawfulZonedTimeLibrary where
  isoformat h := by
    rcases parse_earlier h with hz | hz | hz
    all_goals
      rw [hz]
      decide +kernel
  isoformatMicroseconds h := by
    rcases parse_earlier h with hz | hz | hz
    all_goals
      rw [hz]
      decide +kernel

theorem earlierTimes_civil : LawfulCivilTimes where
  isoformat h := by
    rcases parse_earlier h with hz | hz | hz
    · exact ⟨⟨2025, 12, 1, 0, 0, 0, 0⟩, false, by decide, by rw [hz]; decide +kernel⟩
    · exact ⟨⟨2026, 1, 1, 0, 0, 0, 0⟩, false, by decide, by rw [hz]; decide +kernel⟩
    · exact ⟨⟨2026, 2, 1, 0, 0, 0, 0⟩, false, by decide, by rw [hz]; decide +kernel⟩
  isoformatMicroseconds h := by
    rcases parse_earlier h with hz | hz | hz
    · exact ⟨⟨2025, 12, 1, 0, 0, 0, 0⟩, by decide, by rw [hz]; decide +kernel⟩
    · exact ⟨⟨2026, 1, 1, 0, 0, 0, 0⟩, by decide, by rw [hz]; decide +kernel⟩
    · exact ⟨⟨2026, 2, 1, 0, 0, 0, 0⟩, by decide, by rw [hz]; decide +kernel⟩

theorem earlier_written :
    WrittenTime "2025-12-01T00:00:00Z" earlierInstant ∧
      WrittenTime "2026-01-01T00:00:00Z" AttestationReference.issuedInstant ∧
        WrittenTime "2026-02-01T00:00:00Z" AttestationReference.expiresInstant :=
  ⟨⟨Graphic.settled (by decide) (by decide), by decide +kernel, rfl⟩,
    ⟨Graphic.settled (by decide) (by decide), by decide +kernel, rfl⟩,
    ⟨Graphic.settled (by decide) (by decide), by decide +kernel, rfl⟩⟩

end

section
variable [PythonLibrary] [UnicodeLibrary] [ZonedTimeLibrary] [TimestampLibrary]
  [LawfulTextLibrary] [LawfulZonedTimeLibrary] [LawfulInfixLibrary] [LawfulDigestLibrary]
  {state : Type} {store : AttestationPersistenceStore state}

/-! ## Decisions -/

omit [LawfulInfixLibrary] [LawfulZonedTimeLibrary] [LawfulTextLibrary] [TimestampLibrary]
  [LawfulDigestLibrary] in
/-- A decision is made where the event has one. -/
theorem exists_decisionResult {sequenced : SequencedAttestationRevalidationEvent}
    {request : Option RequestFields} {decision : OfflineCapabilityDecision} {reasonCode : String}
    (hrequest : request.isSome)
    (hdecision : decisionOf sequenced.event.toEventFields = some (decision, reasonCode))
    (hpaired : (decision, reasonCode) ∈ validPairs) :
    ∃ d, decisionResult sequenced request = .ok d ∧ d.decision = decision ∧
      d.reasonCode = reasonCode := by
  obtain ⟨found, rfl⟩ := Option.isSome_iff_exists.mp hrequest
  simp only [decisionResult, hdecision, dif_pos hpaired]
  exact ⟨_, rfl, rfl, rfl⟩

omit [TimestampLibrary] [LawfulTextLibrary] [LawfulZonedTimeLibrary] [LawfulInfixLibrary]
  [LawfulDigestLibrary] in
/-- Claims that are not of version 2 are of version 1. -/
theorem version_one {claims : ClaimsFields} (h : claims.Sound) :
    claims.attestationVersion = "1" ↔ claims.attestationVersion ≠ "2" := by
  rcases h.extension with ⟨hone, -⟩ | ⟨htwo, -⟩
  · rw [hone]
    decide
  · rw [htwo]
    decide

/-- A revalidation that returns carries the numbered event that was appended, with its outcome and
its result digest. Of version 1 claims it has its failure code too, and the decision is made:
satisfied exactly where the event is successful, and otherwise for the failure code of the event.
Of version 2 claims the event says that there is no verifier, and the result that a fresh challenge
is asked for. -/
theorem decision_says_what_was_recorded {call : Surroundings} {workspaceIdentity artifactId : Value}
    {reference : Option Attributes} {request : Option RequestFields} {host host' : Host state}
    {result : RestartRevalidationResult} (hstore : InUse store host.stored)
    (h : (revalidate store call workspaceIdentity artifactId reference request).start host =
      (.ok result, host')) :
    ∃ aggregate e,
      (∃ workspace artifact, workspaceIdentity = .str workspace ∧ artifactId = .str artifact ∧
        store.getArtifactAggregate host.stored workspace artifact = .ok (some aggregate)) ∧
      store.appendRevalidationEvent host.stored e = (.ok result.event, host'.stored) ∧
      result.event.event = e ∧ result.outcome = e.outcome ∧
      result.resultDigest = e.resultDigest ∧
      (aggregate.artifact.claimsPayload.attestationVersion = "2" → e.outcome = "Failed" ∧
        e.failureCode = some "attestation_revalidation_verifier_unavailable" ∧
        result.failureCode = some "attestation_restart_fresh_challenge_required") ∧
      (aggregate.artifact.claimsPayload.attestationVersion = "1" →
        result.failureCode = e.failureCode ∧
        ∃ d, (decideOffline store call workspaceIdentity artifactId reference request).start host =
            (.ok d, host') ∧
          (d.decision = .satisfied ↔ e.outcome = "Successful") ∧
          (e.outcome ≠ "Successful" →
            d.decision = .notSatisfied ∧ e.failureCode = some d.reasonCode)) := by
  obtain ⟨hrequest, aggregate, now, conclusion, e, hrecorded⟩ := revalidate_recorded h
  have hevent : result.event.event = e := hstore.answers hrecorded.appended
  have hsound := aggregate.artifact.claimsPayload.sound
  refine ⟨aggregate, e, hrecorded.found, hrecorded.appended, hevent, ?_, ?_, fun htwo => ?_,
    fun hone => ?_⟩
  · by_cases hversion : aggregate.artifact.claimsPayload.attestationVersion = "2"
    · obtain ⟨hconclusion, hresult⟩ := hrecorded.second hversion
      rw [hresult, hrecorded.outcome, hconclusion]
      rfl
    · rw [(hrecorded.first hversion).2, hrecorded.outcome]
  · by_cases hversion : aggregate.artifact.claimsPayload.attestationVersion = "2"
    · obtain ⟨hconclusion, hresult⟩ := hrecorded.second hversion
      rw [hresult, hrecorded.resultDigest, hconclusion]
      rfl
    · rw [(hrecorded.first hversion).2, hrecorded.resultDigest]
  · obtain ⟨hconclusion, hresult⟩ := hrecorded.second htwo
    rw [hrecorded.outcome, hrecorded.failureCode, hconclusion, hresult]
    exact ⟨rfl, rfl, rfl⟩
  · obtain ⟨⟨contextDigest, hconclude⟩, hresult⟩ :=
      hrecorded.first ((version_one hsound).mp hone)
    obtain ⟨-, expires, -, hexpires, -⟩ := hsound.lasting
    obtain ⟨decision, reasonCode, hdecision, hpaired, hsatisfied, hfailed⟩ := decisionOf_concludes
      (concludeV1_concludes hexpires hconclude) hrecorded.outcome hrecorded.failureCode
    rw [← hevent] at hdecision
    obtain ⟨d, hd, rfl, rfl⟩ := exists_decisionResult hrequest hdecision hpaired
    refine ⟨by rw [hresult, hrecorded.failureCode], d, ?_, hsatisfied, hfailed⟩
    simp only [decideOffline, FallibleRuns.start_bind_eq_ok, FallibleRuns.start_ofExcept_eq_ok]
    exact ⟨result, host', h, hd, rfl⟩

end

/-- Version 1 claims in the instant they are issued. -/
theorem decision_says_what_was_recorded_sample :
    ∃ (_ : PythonLibrary) (_ : UnicodeLibrary) (_ : ZonedTimeLibrary)
      (call : Surroundings) (workspace artifact : Value) (reference : Option Attributes)
      (request : Option RequestFields)
      (host host' : Host AttestationMemoryStore.InMemoryAttestationPersistenceStore)
      (result : RestartRevalidationResult) (d : OfflineCredentialCapabilityDecisionResult),
      (revalidate AttestationMemoryStore.InMemoryAttestationPersistenceStore.store call workspace
        artifact reference request).start host = (.ok result, host') ∧
      (decideOffline AttestationMemoryStore.InMemoryAttestationPersistenceStore.store call workspace
        artifact reference request).start host = (.ok d, host') := by
  have hlawful := IssuanceHistories.referenceLibrary_lawful
  have htimes := earlierTimes_lawful
  have hdigests := AttestationReference.referenceLibrary_digests
  have hinfix := AttestationReference.referenceLibrary_infix
  have hcivil := earlierTimes_civil
  obtain ⟨-, hissued, hexpires⟩ := earlier_written
  let _ := ReferenceLibrary.referenceLibrary
  let _ := IssuanceHistories.referenceUnicode
  let _ := IssuanceHistories.referenceTimestamps
  let _ := earlierTimes
  obtain ⟨a, hone, -⟩ := exists_firstArtifact hissued hexpires
  obtain ⟨s, call, aggregate, reference, request, result, host', hstore, rfl, htakes, -, -,
    hresult⟩ := exists_revalidation a hissued
  obtain ⟨found, e, ⟨_, _, hworkspace, hartifact, hfound⟩, -, -, -, -, -, hfirst⟩ :=
    decision_says_what_was_recorded (show InUse _ (newHost s).stored from hstore) hresult
  have hsame : found = aggregate := by
    have hread := htakes.found
    rw [Value.str.inj hworkspace, Value.str.inj hartifact] at hread
    exact Option.some.inj (Except.ok.inj (hfound.symm.trans hread))
  obtain ⟨-, d, hd, -⟩ := hfirst (by rw [hsame]; exact hone)
  exact ⟨_, _, _, call, _, _, _, _, newHost s, host', result, d, hresult, hd⟩

/-- The result of version 2 claims has another failure code than the event. -/
theorem second_version_recorded_otherwise :
    ¬∀ (_ : PythonLibrary) (_ : UnicodeLibrary) (_ : TimestampLibrary) (_ : ZonedTimeLibrary)
      (_ : LawfulTextLibrary) (_ : LawfulZonedTimeLibrary) (_ : LawfulDigestLibrary)
      (_ : LawfulInfixLibrary) (_ : LawfulCivilTimes) (state : Type)
      (store : AttestationPersistenceStore state) (call : Surroundings)
      (workspace artifact : Value) (reference : Option Attributes) (request : Option RequestFields)
      (host host' : Host state) (result : RestartRevalidationResult), InUse store host.stored →
      (revalidate store call workspace artifact reference request).start host =
        (.ok result, host') →
      (∃ d, (decideOffline store call workspace artifact reference request).start host =
          (.ok d, host') ∧
        (d.decision = .satisfied ↔ result.event.event.outcome = "Successful") ∧
        (result.event.event.outcome ≠ "Successful" → d.decision = .notSatisfied ∧
          result.event.event.failureCode = some d.reasonCode)) ∧
      ∃ e, store.appendRevalidationEvent host.stored e = (.ok result.event, host'.stored) ∧
        result.outcome = e.outcome ∧ result.failureCode = e.failureCode ∧
        result.resultDigest = e.resultDigest := by
  intro h
  have hlawful := IssuanceHistories.referenceLibrary_lawful
  have htimes := earlierTimes_lawful
  have hdigests := AttestationReference.referenceLibrary_digests
  have hinfix := AttestationReference.referenceLibrary_infix
  have hcivil := earlierTimes_civil
  obtain ⟨-, hissued, hexpires⟩ := earlier_written
  let _ := ReferenceLibrary.referenceLibrary
  let _ := IssuanceHistories.referenceUnicode
  let _ := IssuanceHistories.referenceTimestamps
  let _ := earlierTimes
  obtain ⟨a, htwo, -⟩ := exists_secondArtifact hissued hexpires
  obtain ⟨s, call, aggregate, reference, request, result, host', hstore, rfl, htakes, -, -,
    hresult⟩ := exists_revalidation a hissued
  obtain ⟨-, e, happend, -, hfailure, -⟩ := h _ _ _ _ hlawful htimes hdigests hinfix hcivil _ _ _
    _ _ _ _ (newHost s) host' result hstore hresult
  obtain ⟨-, found, now, conclusion, recorded, hrecorded⟩ := revalidate_recorded hresult
  obtain ⟨hconclusion, hmade⟩ :=
    hrecorded.second (by rw [recorded_aggregate htakes hrecorded]; exact htwo)
  have hevent : e = recorded :=
    (hstore.answers happend).symm.trans (hstore.answers hrecorded.appended)
  rw [hmade, hevent, hrecorded.failureCode, hconclusion] at hfailure
  exact absurd (Option.some.inj hfailure) (by decide)

section
variable [PythonLibrary] [UnicodeLibrary] [ZonedTimeLibrary] [TimestampLibrary]
  [LawfulTextLibrary] [LawfulZonedTimeLibrary] [LawfulInfixLibrary] [LawfulDigestLibrary]
  {state : Type} {store : AttestationPersistenceStore state}

/-! ## The window -/

omit [LawfulInfixLibrary] [LawfulZonedTimeLibrary] [LawfulDigestLibrary] [LawfulTextLibrary]
  [TimestampLibrary] in
theorem writtenTime_unique {s : String} {t u : Instant} (ht : WrittenTime s t)
    (hu : WrittenTime s u) : t = u := by
  have hsame := ht.parse.symm.trans hu.parse
  rw [Option.some.injEq, ZonedDatetime.mk.injEq] at hsame
  exact hsame.1

omit [PythonLibrary] [UnicodeLibrary] [ZonedTimeLibrary] [LawfulInfixLibrary]
  [LawfulZonedTimeLibrary] [LawfulDigestLibrary] [LawfulTextLibrary] [TimestampLibrary] in
theorem readClock_returned {z : ZonedDatetime} {now : Instant}
    (h : readClock (.returned (some z)) = .ok now) : now = z.instant := by
  rw [readClock] at h
  split_ifs at h
  exact (Except.ok.inj h).symm

omit [LawfulInfixLibrary] in
/-- A successful status of claims within their window passes the live checks. -/
theorem live_accepts {call : Surroundings} {claims : CredentialCapabilityAttestationClaims}
    {now issued expires : Instant} {status : RevocationStatus}
    (hone : claims.attestationVersion = "1") (hissued : WrittenTime claims.issuedAt issued)
    (hexpires : WrittenTime claims.expiresAt expires) (hfrom : issued ≤ now)
    (huntil : now < expires)
    (hanswers : Answers call claims.toClaimsFields status) (hvalid : status.validate now = .ok ())
    (hrevokes : ¬Revokes status.toStatusFields) :
    validityChecks (liveBoundary call) claims now = .ok () := by
  rw [Answers, hone] at hanswers
  rw [Revokes, not_or, Bool.not_eq_true, Bool.not_eq_true] at hrevokes
  refine validityChecks_eq_ok.mpr ⟨⟨issued, expires, hissued.parse, hexpires.parse, hfrom, huntil⟩,
    _, status, rfl, ?_, hvalid, hrevokes⟩
  rw [hanswers]

omit [LawfulInfixLibrary] in
/-- A conclusion on version 1 claims is as strict as the live checks exactly where the claims were
issued before, or their status revokes them. -/
theorem strict_iff {call : Surroundings} {claims : CredentialCapabilityAttestationClaims}
    {now expires : Instant} {conclusion : Conclusion} {e : EventFields}
    (hone : claims.attestationVersion = "1") (hexpires : WrittenTime claims.expiresAt expires)
    (h : Concludes call claims.toClaimsFields now expires conclusion)
    (houtcome : e.outcome = conclusion.outcome)
    (hfailure : e.failureCode = conclusion.failureCode) :
    Strict call claims now e ↔ IssuedOrRevoked call claims.toClaimsFields now := by
  obtain ⟨issued, expires', hissued, hexpires', hlasting⟩ := claims.sound.lasting
  obtain rfl := writtenTime_unique hexpires hexpires'
  cases h with
  | expired hexpired =>
      have hfailed : e.outcome ≠ "Successful" := by
        rw [houtcome]
        decide
      have hcode : e.failureCode ≠ some "attestation_revalidation_revoked" := by
        rw [hfailure]
        decide
      exact ⟨fun _ => .inl ⟨issued, hissued, hlasting.le.trans hexpired⟩, fun _ =>
        ⟨fun hsuccess => absurd hsuccess hfailed, fun hsuccess => absurd hsuccess hfailed,
          fun hsuccess => absurd hsuccess hfailed, fun _ => ⟨expires, hexpires, hexpired⟩,
          fun hrevoked => absurd hrevoked hcode⟩⟩
  | revoked _ hanswers _ hrevokes =>
      have hfailed : e.outcome ≠ "Successful" := by
        rw [houtcome]
        decide
      have hcode : e.failureCode ≠ some "attestation_revalidation_expired" := by
        rw [hfailure]
        decide
      exact ⟨fun _ => .inr ⟨_, hanswers, hrevokes⟩, fun _ =>
        ⟨fun hsuccess => absurd hsuccess hfailed, fun hsuccess => absurd hsuccess hfailed,
          fun hsuccess => absurd hsuccess hfailed, fun hexpired => absurd hexpired hcode,
          fun _ => ⟨_, hanswers, hrevokes⟩⟩⟩
  | successful digest huntil hanswers hvalid hrevokes =>
      constructor
      · intro hstrict
        obtain ⟨issued', _, hissued', -, hfrom, -⟩ := hstrict.window houtcome
        exact .inl ⟨issued', hissued', hfrom⟩
      · intro hcondition
        have hfrom : issued ≤ now := by
          rcases hcondition with ⟨issued', hissued', hfrom⟩ | ⟨other, hother, hrevoked⟩
          · rw [writtenTime_unique hissued hissued']
            exact hfrom
          · obtain rfl := Option.some.inj (Reply.returned.inj (hanswers.symm.trans hother))
            exact absurd hrevoked hrevokes
        have hcode : ∀ code, e.failureCode ≠ some code := by
          intro code
          rw [hfailure]
          simp
        exact ⟨fun _ => ⟨issued, expires, hissued, hexpires, hfrom, huntil⟩,
          fun _ => ⟨_, hanswers, validate_version hvalid, hvalid, hrevokes⟩,
          fun _ => live_accepts hone hissued hexpires hfrom huntil hanswers hvalid hrevokes,
          fun hexpired => absurd hexpired (hcode _), fun hrevoked => absurd hrevoked (hcode _)⟩

/-- What is recorded of version 1 claims at an instant is as strict as the live checks exactly
where the instant is not before they were issued, or their status revokes them. -/
theorem offline_window_strict_iff {call : Surroundings} {workspace artifact : String}
    {reference : Option Attributes} {request : Option RequestFields} {host host' : Host state}
    {result : RestartRevalidationResult} {aggregate : AttestationArtifactAggregate}
    {z : ZonedDatetime} (hstore : InUse store host.stored)
    (hfound : store.getArtifactAggregate host.stored workspace artifact = .ok (some aggregate))
    (hone : aggregate.artifact.claimsPayload.attestationVersion = "1")
    (hclock : call.clock = .returned (some z))
    (h : (revalidate store call (.str workspace) (.str artifact) reference request).start host =
      (.ok result, host')) :
    Strict call aggregate.artifact.claimsPayload z.instant result.event.event.toEventFields ↔
      IssuedOrRevoked call aggregate.artifact.claimsPayload.toClaimsFields z.instant := by
  obtain ⟨-, found, now, conclusion, e, hrecorded⟩ := revalidate_recorded h
  obtain ⟨_, _, hworkspace, hartifact, hsame⟩ := hrecorded.found
  rw [← Value.str.inj hworkspace, ← Value.str.inj hartifact, hfound] at hsame
  obtain rfl := Option.some.inj (Except.ok.inj hsame)
  have hnow : now = z.instant := readClock_returned (hclock ▸ hrecorded.clock)
  have hsound := aggregate.artifact.claimsPayload.sound
  obtain ⟨⟨contextDigest, hconclude⟩, -⟩ := hrecorded.first ((version_one hsound).mp hone)
  obtain ⟨-, expires, -, hexpires, -⟩ := hsound.lasting
  rw [hstore.answers hrecorded.appended, ← hnow]
  exact strict_iff hone hexpires (concludeV1_concludes hexpires hconclude) hrecorded.outcome
    hrecorded.failureCode

end

/-- Version 1 claims in the instant they are issued. -/
theorem offline_window_strict_sample :
    ∃ (_ : PythonLibrary) (_ : UnicodeLibrary) (_ : ZonedTimeLibrary)
      (call : Surroundings) (aggregate : AttestationArtifactAggregate)
      (result : RestartRevalidationResult),
      Strict call aggregate.artifact.claimsPayload AttestationReference.issuedInstant
        result.event.event.toEventFields := by
  have hlawful := IssuanceHistories.referenceLibrary_lawful
  have htimes := earlierTimes_lawful
  have hdigests := AttestationReference.referenceLibrary_digests
  have hinfix := AttestationReference.referenceLibrary_infix
  have hcivil := earlierTimes_civil
  obtain ⟨-, hissued, hexpires⟩ := earlier_written
  let _ := ReferenceLibrary.referenceLibrary
  let _ := IssuanceHistories.referenceUnicode
  let _ := IssuanceHistories.referenceTimestamps
  let _ := earlierTimes
  obtain ⟨a, hone, hissuedAt⟩ := exists_firstArtifact hissued hexpires
  obtain ⟨s, call, aggregate, reference, request, result, host', hstore, rfl, htakes, hclock, -,
    hresult⟩ := exists_revalidation a hissued
  exact ⟨_, _, _, call, aggregate, result,
    (offline_window_strict_iff (show InUse _ (newHost s).stored from hstore) htakes.found hone
      hclock hresult).mpr
      (.inl ⟨_, by rw [hissuedAt]; exact hissued, le_refl _⟩)⟩

/-- Before they are issued, version 1 claims are recorded as successful. -/
theorem offline_window_before_issue :
    ¬∀ (_ : PythonLibrary) (_ : UnicodeLibrary) (_ : TimestampLibrary) (_ : ZonedTimeLibrary)
      (_ : LawfulTextLibrary) (_ : LawfulZonedTimeLibrary) (_ : LawfulDigestLibrary)
      (_ : LawfulInfixLibrary) (_ : LawfulCivilTimes) (state : Type)
      (store : AttestationPersistenceStore state) (call : Surroundings)
      (workspace artifact : String) (reference : Option Attributes)
      (request : Option RequestFields) (host host' : Host state)
      (result : RestartRevalidationResult) (aggregate : AttestationArtifactAggregate)
      (z : ZonedDatetime), InUse store host.stored →
      store.getArtifactAggregate host.stored workspace artifact = .ok (some aggregate) →
      aggregate.artifact.claimsPayload.attestationVersion = "1" →
      call.clock = .returned (some z) →
      (revalidate store call (.str workspace) (.str artifact) reference request).start host =
        (.ok result, host') →
      Strict call aggregate.artifact.claimsPayload z.instant result.event.event.toEventFields := by
  intro h
  have hlawful := IssuanceHistories.referenceLibrary_lawful
  have htimes := earlierTimes_lawful
  have hdigests := AttestationReference.referenceLibrary_digests
  have hinfix := AttestationReference.referenceLibrary_infix
  have hcivil := earlierTimes_civil
  obtain ⟨hearlier, hissued, hexpires⟩ := earlier_written
  let _ := ReferenceLibrary.referenceLibrary
  let _ := IssuanceHistories.referenceUnicode
  let _ := IssuanceHistories.referenceTimestamps
  let _ := earlierTimes
  obtain ⟨a, hone, hissuedAt⟩ := exists_firstArtifact hissued hexpires
  obtain ⟨s, call, aggregate, reference, request, result, host', hstore, rfl, htakes, hclock,
    hrevokes, hresult⟩ := exists_revalidation a hearlier
  have hstrict := h _ _ _ _ hlawful htimes hdigests hinfix hcivil _ _ _ _ _ _ _ (newHost s) host'
    result aggregate _ hstore htakes.found hone hclock hresult
  obtain ⟨-, found, now, conclusion, recorded, hrecorded⟩ := revalidate_recorded hresult
  rw [recorded_aggregate htakes hrecorded] at hrecorded
  have hnow : now = earlierInstant := readClock_returned (hclock ▸ hrecorded.clock)
  obtain ⟨⟨contextDigest, hconclude⟩, -⟩ := hrecorded.first (by rw [hone]; decide)
  obtain ⟨-, expires, -, hexpiresAt, -⟩ := aggregate.artifact.claimsPayload.sound.lasting
  rw [hstore.answers hrecorded.appended, ← hnow] at hstrict
  rcases (strict_iff hone hexpiresAt (concludeV1_concludes hexpiresAt hconclude) hrecorded.outcome
    hrecorded.failureCode).mp hstrict with ⟨issued, hwritten, hfrom⟩ | ⟨status, hanswers, hrevoked⟩
  · rw [hissuedAt] at hwritten
    rw [writtenTime_unique hwritten hissued, hnow] at hfrom
    exact absurd hfrom (by decide)
  · exact hrevokes _ status hanswers hrevoked

end DeliverySystem.RestartOutcomes

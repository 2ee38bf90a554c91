import DeliverySystem.AttestationConnection
import DeliverySystem.AttestationReference

/-!
# Histories of the connection

The statements of each method follow its transaction on the tables, so a call
that returns has committed what the store over undisturbed tables does. Over any
calls and any faults the store is open without a transaction or closed, and a
closed store stays closed.
-/
namespace DeliverySystem.ConnectionHistories
open PythonValues CanonicalValues JsonText AuthorityBindings AttestationClaims
open AttestationArtifacts AttestationRecords SequencedLogs AttestationStoreContract
open ConstrainedRows AttestationTables FallibleRuns FaultyConnections AttestationConnection
set_option autoImplicit false

/-! ## The statements follow the transactions -/

section
variable {α β : Type} {d : Database}

/-- The statements answer what the transaction answers and change nothing. -/
def Reads (d : Database) (x : Statements α) (y : StorePy α) : Prop :=
  Follows d x ((ofStore y).map fun a => (a, d))

/-- The statements answer what the transaction answers and leave what it leaves. -/
def Writes (d : Database) (x : Statements α) (y : StorePy (α × Database)) : Prop :=
  Follows d x (ofStore y)

theorem ofStore_bind (x : StorePy α) (f : α → StorePy β) :
    ofStore (x >>= f) = ofStore x >>= fun a => ofStore (f a) := by
  cases x <;> rfl

theorem ofStore_eq_ok {x : StorePy α} {a : α} (h : ofStore x = .ok a) : x = .ok a := by
  cases x with
  | error e => cases h
  | ok b =>
      cases h
      rfl

theorem Reads.pure (a : α) : Reads d (pure a) (.ok a) := Follows.pure a

theorem Reads.step {y : StorePy α} {f : α → Statements β} {g : α → StorePy β}
    (hf : ∀ a, y = .ok a → Reads d (f a) (g a)) : Reads d (pureStep y >>= f) (y >>= g) := by
  have hsame : ((ofStore (y >>= g)).map fun b => (b, d)) =
      ofStore y >>= fun a => (ofStore (g a)).map fun b => (b, d) := by
    cases y <;> rfl
  rw [Reads, hsame]
  exact Follows.bind_ofExcept fun a ha => hf a (ofStore_eq_ok ha)

theorem Reads.last (y : StorePy α) : Reads d (pureStep y) y := by
  cases y with
  | ok a => exact Follows.pure a
  | error e => exact Follows.throw _

theorem Reads.bind {x : Statements α} {y : StorePy α} {f : α → Statements β} {g : α → StorePy β}
    (hx : Reads d x y) (hf : ∀ a, y = .ok a → Reads d (f a) (g a)) :
    Reads d (x >>= f) (y >>= g) := by
  have hsame : ((ofStore (y >>= g)).map fun b => (b, d)) =
      ofStore y >>= fun a => (ofStore (g a)).map fun b => (b, d) := by
    cases y <;> rfl
  rw [Reads, hsame]
  exact Follows.bind_read hx fun a ha => hf a (ofStore_eq_ok ha)

theorem Reads.map (g : α → β) (y : StorePy α) : Reads d (g <$> pureStep y) (g <$> y) := by
  cases y with
  | ok a => exact Follows.pure (g a)
  | error e => exact Follows.throw _

theorem Writes.pure (a : α) : Writes d (pure a) (.ok (a, d)) := Follows.pure a

theorem Writes.bind {x : Statements α} {y : StorePy α} {f : α → Statements β}
    {g : α → StorePy (β × Database)} (hx : Reads d x y)
    (hf : ∀ a, y = .ok a → Writes d (f a) (g a)) : Writes d (x >>= f) (y >>= g) := by
  rw [Writes, ofStore_bind]
  exact Follows.bind_read hx fun a ha => hf a (ofStore_eq_ok ha)

theorem Writes.step {y : StorePy α} {f : α → Statements β} {g : α → StorePy (β × Database)}
    (hf : ∀ a, y = .ok a → Writes d (f a) (g a)) : Writes d (pureStep y >>= f) (y >>= g) :=
  Writes.bind (Reads.last y) hf

theorem Writes.last {y : StorePy α} : Writes d (pureStep y) (y >>= fun a => .ok (a, d)) := by
  cases y with
  | ok a => exact Follows.pure a
  | error e => exact Follows.throw _

theorem Writes.failed (code : String) :
    Writes d (pureStep (storeError code) : Statements α) (storeError code) :=
  Follows.throw _

theorem Writes.update {action : Database → StorePy Database} {f : Unit → Statements β}
    {g : Database → StorePy (β × Database)}
    (hf : ∀ d', action d = .ok d' → Writes d' (f ()) (g d')) :
    Writes d (update (fun db => ofStore (action db)) >>= f) (action d >>= g) := by
  rw [Writes, ofStore_bind]
  exact Follows.bind_update fun d' hd => hf d' (ofStore_eq_ok hd)

theorem Reads.recordErrors {x : Statements α} {y : StorePy α} (code : String)
    (h : Reads d x y) : Reads d (x.mapError (recordErrorsAs code)) (storeErrorsAs code y) := by
  refine Follows.mapError h (fun _ => rfl) ?_ ?_
  · intro a d' hresult
    cases y with
    | error e => cases hresult
    | ok b => exact hresult
  · intro e hresult
    cases y with
    | ok b => cases hresult
    | error f =>
        cases f with
        | integrityError => cases hresult
        | store c => cases hresult; rfl
        | record r => cases hresult; rfl
        | overflowError => cases hresult; rfl

end

section
variable [PythonLibrary] [UnicodeLibrary] [ZonedTimeLibrary]

theorem aggregateStatements_reads (d : Database) (key : Key) :
    Reads d (aggregateStatements key) (aggregateLocked d key) := by
  refine Reads.recordErrors aggregateCorrupt ?_
  refine Follows.bind_query ?_
  refine Follows.bind_query ?_
  rcases artifactRows d key with _ | ⟨artifactRow, _ | ⟨_, _⟩⟩
  · rcases referenceRows d key with _ | ⟨referenceRow, rows⟩
    · refine Follows.bind_query ?_
      exact Reads.step fun _ _ => Reads.pure none
    · exact Reads.last _
  · rcases referenceRows d key with _ | ⟨referenceRow, _ | ⟨_, _⟩⟩
    · exact Reads.last _
    · refine Reads.step fun artifact _ => ?_
      refine Reads.step fun reference _ => ?_
      refine Reads.step fun _ _ => ?_
      refine Reads.step fun aggregate _ => ?_
      refine Follows.bind_query ?_
      refine Reads.step fun parsed _ => ?_
      refine Reads.step fun _ _ => ?_
      exact Reads.step fun _ _ => Reads.pure (some aggregate)
    · exact Reads.last _
  · exact Reads.last _

/-- What a transaction does with an aggregate that its arguments make up. -/
def persistRows (key : Key) (candidate : AttestationArtifactAggregate) (db : Database) :
    StorePy (AttestationArtifactAggregate × Database) := do
  let existing ← aggregateLocked db key
  match existing with
  | some existing => do
      let existingArtifact ← ofRecord existing.artifact.toPayload
      let artifactPayload ← ofRecord candidate.artifact.toPayload
      storeErrorIf (existingArtifact ≠ artifactPayload) "attestation_artifact_conflict"
      let existingReference ← ofRecord existing.bindingReference.toPayload
      let referencePayload ← ofRecord candidate.bindingReference.toPayload
      storeErrorIf (existingReference ≠ referencePayload) "attestation_binding_reference_conflict"
      pure (existing, db)
  | none => do
      let artifactPayload ← ofRecord candidate.artifact.toPayload
      let db ← db.insertArtifact (artifactRow candidate.artifact.toArtifactFields artifactPayload)
      let referencePayload ← ofRecord candidate.bindingReference.toPayload
      let db ← db.insertReference (referenceRow referencePayload)
      let result ← aggregateLocked db key
      match result with
      | none => storeError aggregateCorrupt
      | some result => pure (result, db)

theorem persistStatements_writes (d : Database) (key : Key)
    (candidate : AttestationArtifactAggregate) :
    Writes d (persistStatements key candidate) (persistRows key candidate d) := by
  refine Writes.bind (aggregateStatements_reads d key) fun existing _ => ?_
  cases existing with
  | some existing =>
      refine Writes.step fun _ _ => ?_
      refine Writes.step fun _ _ => ?_
      refine Writes.step fun _ _ => ?_
      refine Writes.step fun _ _ => ?_
      refine Writes.step fun _ _ => ?_
      exact Writes.step fun _ _ => Writes.pure existing
  | none =>
      refine Writes.step fun _ _ => ?_
      refine Writes.update fun d' _ => ?_
      refine Writes.step fun _ _ => ?_
      refine Writes.update fun d'' _ => ?_
      refine Writes.bind (aggregateStatements_reads d'' key) fun result _ => ?_
      cases result with
      | none => exact Writes.failed _
      | some result => exact Writes.pure result

/-- What a transaction does with an event that its argument makes. -/
def appendRows (workspace : String) (e : AttestationRevalidationEvent) (db : Database) :
    StorePy (SequencedAttestationRevalidationEvent × Database) := do
  let aggregate ← aggregateLocked db (workspace, e.artifactId)
  match aggregate with
  | none => storeError "attestation_artifact_not_found"
  | some aggregate => do
      storeErrorIf (¬Tells e.toEventFields aggregate)
        "attestation_revalidation_event_binding_mismatch"
      let parsed ← renamed eventCorrupt (readEventRows (eventRows db (workspace, e.artifactId)))
      storeErrorIf (gapFree parsed = false) eventCorrupt
      match parsed.find? fun entry => entry.2.eventId = e.eventId with
      | some (sequence, existing) => do
          let existingPayload ← ofRecord existing.toPayload
          let payload ← ofRecord e.toPayload
          storeErrorIf (existingPayload ≠ payload) "attestation_revalidation_event_conflict"
          let sequenced ← ofRecord (SequencedAttestationRevalidationEvent.make sequence existing)
          pure (sequenced, db)
      | none => do
          let payload ← ofRecord e.toPayload
          let db ← db.insertEvent (eventRow payload (parsed.length + 1))
          match select db.events [0, 1] [.str workspace, .str e.eventId] with
          | [row] => do
              let (sequence, stored) ← readEventRow row
              let sequenced ← ofRecord (SequencedAttestationRevalidationEvent.make sequence stored)
              pure (sequenced, db)
          | _ => storeError eventCorrupt

theorem appendStatements_writes (d : Database) (workspace : String)
    (e : AttestationRevalidationEvent) :
    Writes d (appendStatements workspace e) (appendRows workspace e d) := by
  refine Writes.bind (aggregateStatements_reads d _) fun aggregate _ => ?_
  cases aggregate with
  | none => exact Writes.failed _
  | some aggregate =>
      refine Writes.step fun _ _ => ?_
      refine Follows.bind_query ?_
      refine Writes.step fun parsed _ => ?_
      refine Writes.step fun _ _ => ?_
      dsimp only
      cases parsed.find? fun entry => entry.2.eventId = e.eventId with
      | some found =>
          refine Writes.step fun _ _ => ?_
          refine Writes.step fun _ _ => ?_
          refine Writes.step fun _ _ => ?_
          exact Writes.last
      | none =>
          refine Writes.step fun _ _ => ?_
          refine Writes.update fun d' _ => ?_
          refine Follows.bind_query ?_
          rcases select d'.events [0, 1] [.str workspace, .str e.eventId] with _ | ⟨row, _ | ⟨_, _⟩⟩
          · exact Writes.failed _
          · refine Writes.step fun stored _ => ?_
            exact Writes.last
          · exact Writes.failed _

/-- What a transaction reads as the latest event. -/
def latestRows (key : Key) (db : Database) :
    StorePy (Option SequencedAttestationRevalidationEvent) := do
  let aggregate ← aggregateLocked db key
  match aggregate with
  | none => storeError "attestation_artifact_not_found"
  | some _ => do
      let parsed ← readEventRows (eventRows db key)
      storeErrorIf (gapFree parsed = false) eventCorrupt
      match parsed.getLast? with
      | none => pure none
      | some (sequence, e) =>
          some <$> ofRecord (SequencedAttestationRevalidationEvent.make sequence e)

theorem latestStatements_reads (d : Database) (key : Key) :
    Reads d (latestStatements key) (latestRows key d) := by
  refine Reads.bind (aggregateStatements_reads d key) fun aggregate _ => ?_
  cases aggregate with
  | none => exact Reads.last _
  | some aggregate =>
      refine Follows.bind_query ?_
      refine Reads.step fun parsed _ => ?_
      refine Reads.step fun _ _ => ?_
      cases parsed.getLast? with
      | none => exact Reads.pure none
      | some last => exact Reads.map some _

/-! ## Transactions that read raise codes of the store only -/

/-- Whatever is raised is a `StoreContractError`. -/
def OwnCodes {α : Type} (y : StorePy α) : Prop := ∀ f, y = .error f → ∃ code, f = .store code

omit [PythonLibrary] [UnicodeLibrary] [ZonedTimeLibrary] in
theorem storeErrorsAs_codes {α : Type} (code : String) (y : StorePy α) :
    OwnCodes (storeErrorsAs code y) := by
  intro f hf
  cases y with
  | ok a => cases hf
  | error e =>
      cases e with
      | store c => exact ⟨c, (Except.error.inj hf).symm⟩
      | record r => exact ⟨code, (Except.error.inj hf).symm⟩
      | integrityError => exact ⟨code, (Except.error.inj hf).symm⟩
      | overflowError => exact ⟨code, (Except.error.inj hf).symm⟩

omit [PythonLibrary] [UnicodeLibrary] [ZonedTimeLibrary] in
theorem OwnCodes.bind {α β : Type} {y : StorePy α} {g : α → StorePy β} (hy : OwnCodes y)
    (hg : ∀ a, y = .ok a → OwnCodes (g a)) : OwnCodes (y >>= g) := by
  intro f hf
  cases y with
  | error e => exact hy f (congrArg Except.error (Except.error.inj hf))
  | ok a => exact hg a rfl f hf

omit [PythonLibrary] [UnicodeLibrary] [ZonedTimeLibrary] in
theorem storeErrorIf_codes (condition : Prop) [Decidable condition] (code : String) :
    OwnCodes (storeErrorIf condition code) := by
  intro f hf
  rw [storeErrorIf] at hf
  split_ifs at hf
  exact ⟨code, (Except.error.inj hf).symm⟩

theorem readEventRows_codes (rows : List (Row Value)) : OwnCodes (readEventRows rows) := by
  induction rows with
  | nil => exact fun f hf => by cases hf
  | cons row rows ih =>
      exact (storeErrorsAs_codes projectionCorrupt _).bind fun parsed _ =>
        ih.bind fun rest _ f hf => by cases hf

variable [TimestampLibrary] [LawfulTextLibrary] [LawfulZonedTimeLibrary] [LawfulInfixLibrary]

/-- The last of the events without a gap is sequenced again. -/
theorem make_last {parsed : List (Value × AttestationRevalidationEvent)} {sequence : Value}
    {e : AttestationRevalidationEvent} (hgap : gapFree parsed = true)
    (hlast : parsed.getLast? = some (sequence, e)) :
    ∃ sequenced, SequencedAttestationRevalidationEvent.make sequence e = .ok sequenced := by
  have hmem : sequence ∈ (sequencesTo parsed.length).map Value.int := by
    have hall : parsed.map Prod.fst = (sequencesTo parsed.length).map .int := by
      simpa [gapFree] using hgap
    rw [← hall]
    exact List.mem_map_of_mem (f := Prod.fst) (List.mem_of_getLast? hlast)
  obtain ⟨n, hn, rfl⟩ := List.mem_map.mp hmem
  have hpositive : 1 ≤ n := by
    obtain ⟨i, -, rfl⟩ := List.mem_map.mp hn
    omega
  refine ⟨⟨n, e, hpositive⟩, ?_⟩
  simp only [SequencedAttestationRevalidationEvent.make, bind_eq_ok, persistedInteger_eq_ok]
  refine ⟨n, ⟨rfl, hpositive⟩, e, e.again_eq, ?_⟩
  rw [dif_pos hpositive]
  rfl

theorem latestRows_codes (key : Key) (db : Database) : OwnCodes (latestRows key db) := by
  refine (storeErrorsAs_codes aggregateCorrupt _).bind fun aggregate _ => ?_
  cases aggregate with
  | none => exact fun f hf => ⟨_, (Except.error.inj hf).symm⟩
  | some aggregate =>
      refine (readEventRows_codes _).bind fun parsed _ => ?_
      refine (storeErrorIf_codes _ eventCorrupt).bind fun _ hgap => ?_
      cases hlast : parsed.getLast? with
      | none => exact fun f hf => by cases hf
      | some last =>
          have hfree : gapFree parsed = true := by
            rw [storeErrorIf] at hgap
            split_ifs at hgap with hfalse
            · cases hgap
            · exact Bool.not_eq_false _ ▸ hfalse
          obtain ⟨sequenced, hmake⟩ := make_last hfree hlast
          intro f hf
          dsimp only at hf
          rw [ofRecord_ok hmake] at hf
          cases hf

end

/-! ## What the methods keep -/

section
variable {α : Type} {disk d : Database}

/-- In the transaction the statements raise what the transaction raises, or an error of the
driver. -/
theorem onConnection_follows {x : Statements α} {result : Except Thrown (α × Database)}
    (h : Follows d x result) :
    Meets (Active disk d) (onConnection x)
      (fun a s => ∃ d', result = .ok (a, d') ∧ Active disk d' s)
      (fun e s => Broken disk s ∧ ((∃ f, e = .driver f) ∨ result = .error e)) := by
  refine (onConnection_meets .transactionActive (h disk)).weaken (fun _ => id) ?_ ?_
  · rintro a s ⟨hstate, d', hresult, hholds⟩
    exact ⟨d', hresult, hstate, hholds⟩
  · rintro e s ⟨hstate, hlive, herror⟩
    exact ⟨⟨hstate, hlive⟩, herror⟩

/-- The statements and their commit. What is raised is to be handled; an error that is not the
driver's is one of the store, or the transaction's own. -/
theorem transaction_meets {x : Statements α} {y : StorePy (α × Database)} {last : α → Locked α}
    (h : Writes disk x y)
    (hlast : ∀ a d, Meets (Active disk d) (last a) (fun b s => b = a ∧ Idle d s)
      (fun e s => e = .own (.store outcomeUnknown) ∧ (Shut disk s ∨ Shut d s))) :
    Meets (Active disk disk) (onConnection x >>= last) (fun a s => ∃ d, y = .ok (a, d) ∧ Idle d s)
      (fun e s => Caught disk e s ∧
        ∀ f, e = .own f → (∃ code, f = .store code) ∨ y = .error f) := by
  refine Meets.bind ((onConnection_follows h).weaken (fun _ => id) (fun _ _ => id) ?_) fun a => ?_
  · rintro e s ⟨hbroken, hdriver | herror⟩
    · refine ⟨.inl hbroken, ?_⟩
      rintro f rfl
      obtain ⟨g, hg⟩ := hdriver
      cases hg
    · refine ⟨.inl hbroken, ?_⟩
      rintro f rfl
      cases y with
      | ok result => cases herror
      | error g =>
          cases g with
          | integrityError => cases herror
          | store c => exact .inl ⟨c, by cases herror; rfl⟩
          | record r => exact .inr (by cases herror; rfl)
          | overflowError => exact .inr (by cases herror; rfl)
  · rintro s ⟨d', hresult, hactive⟩
    refine (hlast a d' s hactive).weaken ?_ ?_
    · rintro b s' ⟨rfl, hidle⟩
      exact ⟨d', ofStore_eq_ok hresult, hidle⟩
    · rintro e s' ⟨rfl, hshut⟩
      refine ⟨.inr (.inl ?_), fun f hf => .inl ⟨_, by cases hf; rfl⟩⟩
      rcases hshut with hshut | hshut
      · exact ⟨_, _, rfl, .inr hshut, fun hne => absurd rfl hne⟩
      · exact ⟨_, _, rfl, .inr hshut, fun hne => absurd rfl hne⟩

theorem requireOpenLocked_atRest :
    Meets (AtRest disk) requireOpenLocked (fun _ => Idle disk) (Reported disk) := by
  rintro s (hidle | hshut)
  · exact requireOpenLocked_idle s hidle
  · refine (requireOpenLocked_shut (Q := fun _ => Idle disk) s hshut).weaken (fun _ _ => id) ?_
    rintro e s' ⟨rfl, hshut'⟩
    exact ⟨_, disk, rfl, .inr hshut', fun _ => rfl⟩

theorem beginLocked_atRest :
    Meets (AtRest disk) beginLocked (fun _ => Active disk disk) (Reported disk) := by
  rintro s (hidle | hshut)
  · exact beginLocked_meets s hidle
  · refine Meets.bind ((requireOpenLocked_shut (Q := fun _ _ => False)).weaken (fun _ => id)
      (fun _ _ => id) ?_) (fun _ _ => False.elim) s hshut
    rintro e s' ⟨rfl, hshut'⟩
    exact ⟨_, disk, rfl, .inr hshut', fun _ => rfl⟩

/-- A check before the transaction. -/
theorem bind_pureStep {β : Type} {P : SQLiteAttestationPersistenceStore → Prop}
    {Q : β → SQLiteAttestationPersistenceStore → Prop}
    {E : Thrown → SQLiteAttestationPersistenceStore → Prop} {y : StorePy α} {f : α → Locked β}
    (herror : ∀ e s, y = .error e → P s → E (thrown e) s)
    (hf : ∀ a, y = .ok a → Meets P (f a) Q E) : Meets P (pureStep y >>= f) Q E := by
  refine Meets.bind (R := fun a s => y = .ok a ∧ P s) ?_ fun a s hs => hf a hs.1 s hs.2
  refine Meets.ofExcept (fun a s hy hs => ⟨ofStore_eq_ok hy, hs⟩) fun e s hy hs => ?_
  cases y with
  | ok a => cases hy
  | error f =>
      cases hy
      exact herror f s rfl hs

/-- A check in the scope of the handlers. -/
theorem bind_check {β : Type} {Q : β → SQLiteAttestationPersistenceStore → Prop} {y : StorePy α}
    {f : α → Locked β} (hy : y ≠ .error .integrityError)
    (hf : ∀ a, y = .ok a → Meets (Idle disk) (f a) Q (Caught disk)) :
    Meets (Idle disk) (pureStep y >>= f) Q (Caught disk) := by
  refine bind_pureStep (fun e s he hidle => .inr (.inr ⟨hidle, e, ?_⟩)) hf
  cases e with
  | integrityError => exact absurd he hy
  | store code => rfl
  | record r => rfl
  | overflowError => rfl

theorem ofRecord_ne_integrityError (y : Py α) : ofRecord y ≠ .error .integrityError := by
  cases y with
  | ok a => exact fun h => by cases h
  | error e => exact fun h => by cases h

theorem storeErrorIf_ne_integrityError (condition : Prop) [Decidable condition] (code : String) :
    storeErrorIf condition code ≠ .error .integrityError := by
  rw [storeErrorIf]
  split_ifs
  · exact fun h => by cases h
  · exact fun h => by cases h

theorem storeErrorIf_eq_ok {condition : Prop} [Decidable condition] {code : String}
    (h : storeErrorIf condition code = .ok ()) : ¬condition := by
  intro hcondition
  rw [storeErrorIf_pos hcondition] at h
  cases h

theorem ofRecord_eq_ok {y : Py α} {a : α} (h : ofRecord y = .ok a) : y = .ok a := by
  cases y with
  | error e => cases h
  | ok b =>
      cases h
      rfl

end

section
variable [PythonLibrary] [UnicodeLibrary] [ZonedTimeLibrary] [TimestampLibrary]
  [LawfulTextLibrary] [LawfulZonedTimeLibrary] [LawfulDigestLibrary] [LawfulInfixLibrary]
variable {disk : Database}

/-- The transaction of a checked artifact and reference. -/
theorem persistTransaction_eq {workspace : String} {a : PersistedAttestationArtifact}
    {r : AttestationBindingReference} {candidate : AttestationArtifactAggregate} (db : Database)
    (hmatches : Matches a.toArtifactFields r.toReferenceFields)
    (hworkspace : ¬(a.workspaceIdentity ≠ workspace ∨ r.workspaceIdentity ≠ workspace))
    (hmake : AttestationArtifactAggregate.make a r = .ok candidate) :
    persistTransaction workspace db a r =
      persistRows (workspace, candidate.artifact.artifactId) candidate db := by
  rw [persistTransaction, ofRecord_ok (validateArtifactAggregate_eq hmatches), store_bind_ok]
  dsimp only
  rw [storeErrorIf_neg hworkspace, store_bind_ok, ofRecord_ok hmake, store_bind_ok]
  rfl

theorem persistArtifact_meets (workspace : String)
    (artifact : Supplied PersistedAttestationArtifact)
    (reference : Supplied AttestationBindingReference) :
    Meets (AtRest disk) (persistArtifact workspace artifact reference)
      (fun aggregate s => ∃ a r d, readArtifact artifact = .ok a ∧ readReference reference = .ok r ∧
        persistTransaction workspace disk a r = .ok (aggregate, d) ∧ Idle d s) (Reported disk) := by
  refine Meets.bind requireOpenLocked_atRest fun _ => ?_
  refine Meets.tryCatch (R := Caught disk) ?_ writeFailed_meets
  refine bind_check (ofRecord_ne_integrityError _) fun a ha => ?_
  refine bind_check (ofRecord_ne_integrityError _) fun r hr => ?_
  refine bind_check (ofRecord_ne_integrityError _) fun _ hmatches => ?_
  refine bind_check (storeErrorIf_ne_integrityError _ _) fun _ hworkspace => ?_
  refine bind_check (ofRecord_ne_integrityError _) fun candidate hmake => ?_
  refine Meets.bind (beginLocked_meets.weaken (fun _ => id) (fun _ _ => id)
    fun _ _ hs => .inr (.inl hs)) fun _ => ?_
  refine (transaction_meets (persistStatements_writes disk _ candidate)
    fun a d => commitLocked_meets a).weaken (fun _ => id) ?_ fun _ _ => And.left
  rintro aggregate s ⟨d, hrows, hidle⟩
  refine ⟨a, r, d, ofRecord_eq_ok ha, ofRecord_eq_ok hr, ?_, hidle⟩
  rw [persistTransaction_eq disk (require_eq_ok.mp (ofRecord_eq_ok hmatches))
    (storeErrorIf_eq_ok hworkspace) (ofRecord_eq_ok hmake)]
  exact hrows

omit [LawfulDigestLibrary] in
theorem appendTransaction_eq {workspace : String} {e : AttestationRevalidationEvent}
    (db : Database) (hworkspace : ¬e.workspaceIdentity ≠ workspace) :
    appendTransaction workspace db e = appendRows workspace e db := by
  rw [appendTransaction, ofRecord_ok e.again_eq, store_bind_ok, storeErrorIf_neg hworkspace,
    store_bind_ok]
  rfl

omit [LawfulDigestLibrary] in
theorem appendRevalidationEvent_meets (workspace : String)
    (e : Supplied AttestationRevalidationEvent) :
    Meets (AtRest disk) (appendRevalidationEvent workspace e)
      (fun sequenced s => ∃ event d, readEvent e = .ok event ∧
        appendTransaction workspace disk event = .ok (sequenced, d) ∧ Idle d s)
      (Reported disk) := by
  refine Meets.bind requireOpenLocked_atRest fun _ => ?_
  refine Meets.tryCatch (R := Caught disk) ?_ writeFailed_meets
  refine bind_check (ofRecord_ne_integrityError _) fun event hevent => ?_
  refine bind_check (storeErrorIf_ne_integrityError _ _) fun _ hworkspace => ?_
  refine Meets.bind (beginLocked_meets.weaken (fun _ => id) (fun _ _ => id)
    fun _ _ hs => .inr (.inl hs)) fun _ => ?_
  refine (transaction_meets (appendStatements_writes disk workspace event)
    fun a d => commitLocked_meets a).weaken (fun _ => id) ?_ fun _ _ => And.left
  rintro sequenced s ⟨d, hrows, hidle⟩
  refine ⟨event, d, ofRecord_eq_ok hevent, ?_, hidle⟩
  rw [appendTransaction_eq disk (storeErrorIf_eq_ok hworkspace)]
  exact hrows

omit [ZonedTimeLibrary] [TimestampLibrary] [LawfulTextLibrary] [LawfulZonedTimeLibrary]
  [LawfulDigestLibrary] [LawfulInfixLibrary] in
/-- A method that reads answers what its transaction reads. -/
theorem reading_meets {α : Type} {workspace workspaceIdentity : String} {statements : Statements α}
    {rows : StorePy α} (hreads : Reads disk statements rows) (hcodes : OwnCodes rows) :
    Meets (AtRest disk) (reading workspace workspaceIdentity statements)
      (fun a s => validateWorkspace workspaceIdentity = .ok () ∧ workspaceIdentity = workspace ∧
        rows = .ok a ∧ Idle disk s) (Reported disk) := by
  have hreported : ∀ {y : StorePy Unit} (hy : OwnCodes y) (e : StoreRaised)
      (s : SQLiteAttestationPersistenceStore), y = .error e → AtRest disk s →
        Reported disk (thrown e) s := by
    intro y hy e s he hrest
    obtain ⟨code, rfl⟩ := hy e he
    exact ⟨code, disk, rfl, hrest, fun _ => rfl⟩
  have hwrites : Writes disk statements (rows >>= fun a => .ok (a, disk)) := by
    have hsame : ofStore (rows >>= fun a => .ok (a, disk)) =
        (ofStore rows).map fun a => (a, disk) := by
      cases rows <;> rfl
    rw [Writes, hsame]
    exact hreads
  refine bind_pureStep (hreported (storeErrorIf_codes _ _)) fun _ hvalid => ?_
  refine bind_pureStep (hreported (storeErrorIf_codes _ _)) fun _ hworkspace => ?_
  refine Meets.bind beginLocked_atRest fun _ => ?_
  refine Meets.tryCatch ?_ readFailed_meets
  refine (transaction_meets hwrites fun a d => ?_).weaken (fun _ => id) ?_ ?_
  · exact Meets.bind (commitLocked_meets a) fun b => Meets.pure fun _ hs => ⟨rfl, hs.2⟩
  · rintro a s ⟨d, hrows, hidle⟩
    cases rows with
    | error e => cases hrows
    | ok b =>
        cases hrows
        exact ⟨hvalid, not_not.mp (storeErrorIf_eq_ok hworkspace), rfl, hidle⟩
  · rintro e s ⟨hcaught, hown⟩
    refine ⟨hcaught, fun f hf => (hown f hf).elim id fun herror => ?_⟩
    cases rows with
    | error g =>
        cases herror
        exact hcodes _ rfl
    | ok b => cases herror

/-! ## Calls, one after the other -/

inductive Call where
  | persistArtifact (artifact : Supplied PersistedAttestationArtifact)
      (reference : Supplied AttestationBindingReference)
  | appendRevalidationEvent (e : Supplied AttestationRevalidationEvent)
  | getArtifactAggregate (workspaceIdentity artifactId : String)
  | getLatestRevalidationEvent (workspaceIdentity artifactId : String)
  | close

inductive Answer where
  | persisted (aggregate : AttestationArtifactAggregate)
  | appended (e : SequencedAttestationRevalidationEvent)
  | found (aggregate : Option AttestationArtifactAggregate)
  | latest (e : Option SequencedAttestationRevalidationEvent)
  | closed

def Call.run (workspace : String) : Call → Locked Answer
  | .persistArtifact artifact reference => do
      let aggregate ← AttestationConnection.persistArtifact workspace artifact reference
      pure (.persisted aggregate)
  | .appendRevalidationEvent e => do
      let sequenced ← AttestationConnection.appendRevalidationEvent workspace e
      pure (.appended sequenced)
  | .getArtifactAggregate workspaceIdentity artifactId => do
      let aggregate ←
        AttestationConnection.getArtifactAggregate workspace workspaceIdentity artifactId
      pure (.found aggregate)
  | .getLatestRevalidationEvent workspaceIdentity artifactId => do
      let sequenced ←
        AttestationConnection.getLatestRevalidationEvent workspace workspaceIdentity artifactId
      pure (.latest sequenced)
  | .close => do
      closeStore
      pure .closed

/-- What a call answers and leaves where nothing fails. -/
def Call.effect (workspace : String) (db : Database) : Call → Except String Answer × Database
  | .persistArtifact artifact reference =>
      match readArtifact artifact, readReference reference with
      | .ok a, .ok r => ((store workspace).persistArtifact db a r).map (Except.map .persisted) id
      | _, _ => (.error projectionCorrupt, db)
  | .appendRevalidationEvent e =>
      match readEvent e with
      | .ok event =>
          ((store workspace).appendRevalidationEvent db event).map (Except.map .appended) id
      | .error _ => (.error eventCorrupt, db)
  | .getArtifactAggregate workspaceIdentity artifactId =>
      (((store workspace).getArtifactAggregate db workspaceIdentity artifactId).map .found, db)
  | .getLatestRevalidationEvent workspaceIdentity artifactId =>
      (((store workspace).getLatestRevalidationEvent db workspaceIdentity artifactId).map .latest,
        db)
  | .close => (.ok .closed, db)

/-- A store that was just constructed. -/
def opened (disk : Database) (faults : ℕ → Fault SqliteError) : SQLiteAttestationPersistenceStore :=
  ⟨⟨disk, some ⟨none⟩, faults⟩, .isOpen⟩

/-- The store after these calls, whatever they answered. -/
def after (workspace : String) (s : SQLiteAttestationPersistenceStore) (calls : List Call) :
    SQLiteAttestationPersistenceStore :=
  calls.foldl (fun s call => ((call.run workspace).start s).2) s

omit [PythonLibrary] [UnicodeLibrary] [ZonedTimeLibrary] [TimestampLibrary] [LawfulTextLibrary]
  [LawfulZonedTimeLibrary] [LawfulDigestLibrary] [LawfulInfixLibrary] in
theorem closeStore_meets :
    Meets (AtRest disk) closeStore (fun _ => Shut disk)
      (fun e s => e = .own (.store closeFailed) ∧ Shut disk s) := by
  refine Meets.bind_get fun s hrest => ?_
  rcases hrest with hidle | hshut
  · rw [if_neg (by rw [hidle.1]; decide)]
    refine Meets.bind_modify (R := fun s => s.state = .closed ∧ Live disk s.session) ?_ ?_
    · rintro _ rfl
      exact ⟨rfl, _, hidle.2⟩
    rw [if_neg (Live.connection_ne ⟨_, hidle.2⟩)]
    refine Meets.tryCatch (R := fun _ => Shut disk) ?_
      fun e => storeFailure_meets fun _ hs => ⟨rfl, hs⟩
    exact (onConnection_meets .closed (closeConnection_meets disk)).weaken (fun _ => id) (fun _ _ => id)
      fun _ _ hs => ⟨hs.1, hs.2.2⟩
  · rw [if_pos hshut.1]
    refine Meets.pure ?_
    rintro _ rfl
    exact hshut

/-- A call that returns has done what it does where nothing fails, a call that raises reports
what it has left. -/
theorem run_meets (workspace : String) (call : Call) :
    Meets (AtRest disk) (call.run workspace)
      (fun answer s => ∃ d, call.effect workspace disk = (.ok answer, d) ∧ AtRest d s)
      (Reported disk) := by
  cases call with
  | persistArtifact artifact reference =>
      refine Meets.bind (persistArtifact_meets workspace artifact reference) fun aggregate => ?_
      refine Meets.pure ?_
      rintro s ⟨a, r, d, ha, hr, htransaction, hidle⟩
      refine ⟨d, ?_, .inl hidle⟩
      simp only [Call.effect, ha, hr, store, commit, htransaction]
      rfl
  | appendRevalidationEvent e =>
      refine Meets.bind (appendRevalidationEvent_meets workspace e) fun sequenced => ?_
      refine Meets.pure ?_
      rintro s ⟨event, d, hevent, htransaction, hidle⟩
      refine ⟨d, ?_, .inl hidle⟩
      simp only [Call.effect, hevent, store, commit, htransaction]
      rfl
  | getArtifactAggregate workspaceIdentity artifactId =>
      refine Meets.bind (reading_meets (aggregateStatements_reads disk _)
        (storeErrorsAs_codes aggregateCorrupt _)) fun aggregate => ?_
      refine Meets.pure ?_
      rintro s ⟨hvalid, hworkspace, hrows, hidle⟩
      have hget : getTransaction workspace disk workspaceIdentity artifactId = .ok aggregate := by
        rw [getTransaction, hvalid, store_bind_ok, storeErrorIf_neg (not_not.mpr hworkspace),
          store_bind_ok]
        exact hrows
      refine ⟨disk, ?_, .inl hidle⟩
      simp only [Call.effect, store, hget]
      rfl
  | getLatestRevalidationEvent workspaceIdentity artifactId =>
      refine Meets.bind (reading_meets (latestStatements_reads disk _)
        (latestRows_codes _ disk)) fun sequenced => ?_
      refine Meets.pure ?_
      rintro s ⟨hvalid, hworkspace, hrows, hidle⟩
      have hlatest : latestTransaction workspace disk workspaceIdentity artifactId =
          .ok sequenced := by
        rw [latestTransaction, hvalid, store_bind_ok, storeErrorIf_neg (not_not.mpr hworkspace),
          store_bind_ok]
        exact hrows
      refine ⟨disk, ?_, .inl hidle⟩
      simp only [Call.effect, store, hlatest]
      rfl
  | close =>
      refine Meets.bind (closeStore_meets.weaken (fun _ => id) (fun _ _ => id) ?_) fun _ => ?_
      · rintro e s ⟨rfl, hshut⟩
        exact ⟨_, disk, rfl, .inr hshut, fun _ => rfl⟩
      · exact Meets.pure fun s hshut => ⟨disk, rfl, .inr hshut⟩

omit [ZonedTimeLibrary] [TimestampLibrary] [LawfulTextLibrary] [LawfulZonedTimeLibrary]
  [LawfulDigestLibrary] [LawfulInfixLibrary] in
theorem reading_shut {α : Type} (workspace workspaceIdentity : String) (statements : Statements α) :
    Meets (Shut disk) (reading workspace workspaceIdentity statements) (fun _ _ => False)
      (fun _ => Shut disk) := by
  refine bind_pureStep (fun _ _ _ => id) fun _ _ => ?_
  refine bind_pureStep (fun _ _ _ => id) fun _ _ => ?_
  refine Meets.bind (R := fun _ _ => False) ?_ fun _ _ => False.elim
  exact Meets.bind (requireOpenLocked_shut.weaken (fun _ => id) (fun _ _ => id)
    fun _ _ => And.right) fun _ _ => False.elim

omit [TimestampLibrary] [LawfulTextLibrary] [LawfulZonedTimeLibrary] [LawfulDigestLibrary]
  [LawfulInfixLibrary] in
/-- A closed store only raises, but for `close`. -/
theorem run_shut (workspace : String) {call : Call} (hcall : call ≠ .close) :
    Meets (Shut disk) (call.run workspace) (fun _ _ => False) (fun _ => Shut disk) := by
  have hrequired : ∀ {α : Type} (f : Unit → Locked α),
      Meets (Shut disk) (requireOpenLocked >>= f) (fun _ _ => False) (fun _ => Shut disk) :=
    fun f => Meets.bind (requireOpenLocked_shut.weaken (fun _ => id) (fun _ _ => id)
      fun _ _ => And.right) fun _ _ => False.elim
  cases call with
  | persistArtifact artifact reference =>
      exact Meets.bind (hrequired _) fun _ _ => False.elim
  | appendRevalidationEvent e => exact Meets.bind (hrequired _) fun _ _ => False.elim
  | getArtifactAggregate workspaceIdentity artifactId =>
      exact Meets.bind (reading_shut _ _ _) fun _ _ => False.elim
  | getLatestRevalidationEvent workspaceIdentity artifactId =>
      exact Meets.bind (reading_shut _ _ _) fun _ _ => False.elim
  | close => exact absurd rfl hcall

omit [LawfulDigestLibrary] [TimestampLibrary] [LawfulTextLibrary] [LawfulZonedTimeLibrary]
  [LawfulInfixLibrary] in
theorem close_shut (workspace : String) :
    Meets (Shut disk) (Call.run workspace .close) (fun _ => Shut disk) (fun _ => Shut disk) :=
  Meets.bind (closeStore_meets.weaken (fun _ => .inr) (fun _ _ => id) fun _ _ => And.right)
    fun _ => Meets.pure fun _ => id

/-- How a call on this store ends. -/
structure CallEnds (workspace : String) (call : Call) (s : SQLiteAttestationPersistenceStore)
    (ended : Except Thrown Answer × SQLiteAttestationPersistenceStore) : Prop where
  /-- Open with a live connection and no transaction, or closed without a connection. -/
  atRest : (ended.2.state = .isOpen ∧ ended.2.session.connection = some ⟨none⟩) ∨
    (ended.2.state = .closed ∧ ended.2.session.connection = none)
  /-- What was returned is committed, and nothing else. -/
  returned : ∀ answer, ended.1 = .ok answer →
    call.effect workspace s.session.disk = (.ok answer, ended.2.session.disk)
  /-- A raise has a code, and the database is as it was unless the commit may have happened. -/
  raised : ∀ e, ended.1 = .error e → ∃ code, e = .own (.store code) ∧
    (code ≠ outcomeUnknown → ended.2.session.disk = s.session.disk)
  /-- A closed store stays closed, and only `close` does not raise. -/
  closed : s.state = .closed →
    ended.2.state = .closed ∧ (call ≠ .close → ∃ e, ended.1 = .error e)

/-- A call on a store at rest leaves it at rest. -/
theorem start_atRest (workspace : String) (call : Call) {s : SQLiteAttestationPersistenceStore}
    (h : AtRest disk s) : ∃ d, AtRest d ((call.run workspace).start s).2 := by
  have hends := run_meets workspace call s h
  rcases hended : (call.run workspace).start s with ⟨_ | answer, s'⟩
  · rw [hended] at hends
    obtain ⟨code, d, -, hrest, -⟩ := hends
    exact ⟨d, hrest⟩
  · rw [hended] at hends
    obtain ⟨d, -, hrest⟩ := hends
    exact ⟨d, hrest⟩

/-- A store is at rest after any calls. -/
theorem after_atRest (workspace : String) (calls : List Call) :
    ∀ {disk : Database} {s : SQLiteAttestationPersistenceStore}, AtRest disk s →
      ∃ d, AtRest d (after workspace s calls) := by
  induction calls with
  | nil => exact fun h => ⟨_, h⟩
  | cons call calls ih =>
      intro disk s h
      obtain ⟨d, hrest⟩ := start_atRest workspace call h
      exact ih hrest

/-- After any calls on a store, under any faults of its connection, the next call ends with the
store open and no transaction or closed, has committed exactly what it returned, and has left the
database alone if it raised anything but an unknown outcome. -/
theorem connection_states (workspace : String) (disk : Database) (faults : ℕ → Fault SqliteError)
    (calls : List Call) (call : Call) :
    CallEnds workspace call (after workspace (opened disk faults) calls)
      ((call.run workspace).start (after workspace (opened disk faults) calls)) := by
  have hopened : AtRest disk (opened disk faults) := .inl ⟨rfl, rfl, rfl⟩
  obtain ⟨d, hrest⟩ := after_atRest workspace calls hopened
  generalize after workspace (opened disk faults) calls = s at hrest ⊢
  have hends := run_meets workspace call s hrest
  obtain ⟨d', hrest'⟩ := start_atRest workspace call hrest
  refine ⟨hrest'.imp (fun h => ⟨h.1, h.2.2⟩) (fun h => ⟨h.1, h.2.2⟩), ?_, ?_, ?_⟩
  · intro answer hanswer
    rcases hended : (call.run workspace).start s with ⟨result, s'⟩
    rw [hended] at hends hanswer
    cases hanswer
    obtain ⟨d'', heffect, hrest''⟩ := hends
    rw [hrest.disk_eq, heffect, hrest''.disk_eq]
  · intro e he
    rcases hended : (call.run workspace).start s with ⟨result, s'⟩
    rw [hended] at hends he
    cases he
    obtain ⟨code, d'', rfl, hrest'', hsame⟩ := hends
    refine ⟨code, rfl, fun hcode => ?_⟩
    rw [hrest''.disk_eq, hrest.disk_eq, hsame hcode]
  · intro hclosed
    have hshut : Shut d s := by
      rcases hrest with h | h
      · rw [h.1] at hclosed
        cases hclosed
      · exact h
    by_cases hcall : call = .close
    · subst hcall
      have hstays := close_shut workspace s hshut
      rcases hended : (Call.run workspace .close).start s with ⟨_ | answer, s'⟩
      · rw [hended] at hstays
        exact ⟨hstays.1, fun hne => absurd rfl hne⟩
      · rw [hended] at hstays
        exact ⟨hstays.1, fun hne => absurd rfl hne⟩
    · have hstays := run_shut workspace hcall s hshut
      rcases hended : (call.run workspace).start s with ⟨e | answer, s'⟩
      · rw [hended] at hstays
        exact ⟨hstays.1, fun _ => ⟨e, rfl⟩⟩
      · rw [hended] at hstays
        exact hstays.elim

end

/-- The third statement of a connection closes it and raises. -/
def closedByThird (n : ℕ) : Fault SqliteError :=
  if n = 2 then .raises ⟨.programmingError, "cannot operate on a closed database."⟩ .discarded
  else .none

/-- An artifact is persisted after such a read. -/
theorem connection_states_sample :
    ∃ (_ : PythonLibrary) (_ : UnicodeLibrary) (_ : ZonedTimeLibrary)
      (a : PersistedAttestationArtifact) (r : AttestationBindingReference),
      CallEnds a.workspaceIdentity (.persistArtifact (.record a) (.record r))
        (after a.workspaceIdentity (opened .empty closedByThird)
          [.getArtifactAggregate a.workspaceIdentity a.artifactId])
        ((Call.run a.workspaceIdentity (.persistArtifact (.record a) (.record r))).start
          (after a.workspaceIdentity (opened .empty closedByThird)
            [.getArtifactAggregate a.workspaceIdentity a.artifactId])) := by
  have hlawful := IssuanceHistories.referenceLibrary_lawful
  have htimes := AttestationReference.referenceTimes_lawful
  have hdigests := AttestationReference.referenceLibrary_digests
  have hinfix := AttestationReference.referenceLibrary_infix
  let _ := ReferenceLibrary.referenceLibrary
  let _ := IssuanceHistories.referenceUnicode
  let _ := IssuanceHistories.referenceTimestamps
  let _ := AttestationReference.referenceTimes
  obtain ⟨a, -⟩ := AttestationReference.exists_artifact_of_revision (le_refl 1)
  obtain ⟨r, -, -⟩ := AttestationStoreContract.exists_reference a
    (hexPattern_append (by decide : hexPattern "" AttestationReference.zeros = true))
  exact ⟨_, _, _, a, r, connection_states a.workspaceIdentity .empty closedByThird
    [.getArtifactAggregate a.workspaceIdentity a.artifactId]
    (.persistArtifact (.record a) (.record r))⟩

end DeliverySystem.ConnectionHistories

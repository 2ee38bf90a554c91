import DeliverySystem.AttestationMemoryStore
import DeliverySystem.AttestationReference
import DeliverySystem.AttestationTableLedger

/-!
# Two attestation stores

Both stores follow a ledger: whatever calls are made, in whatever order, their state
stands for one, and a call either answers as the ledger does or raises and leaves the
state as it is. The ledger only opens logs and appends events to them, so the events of
an artifact stay as they were numbered.
-/
namespace DeliverySystem.AttestationStores
open PythonValues CanonicalValues AuthorityBindings AttestationClaims AttestationArtifacts
open AttestationRecords SequencedLogs AttestationStoreContract
set_option autoImplicit false

section
variable [PythonLibrary] [UnicodeLibrary] [ZonedTimeLibrary]

/-- What a store keeps of an artifact with its reference, and of each of its events. -/
structure StoreView (state head record : Type) where
  head : state → Key → Option head
  events : state → Key → List record
  number : record → Int
  name : record → String
  text : record → String

def corruptionCodes : List String :=
  ["attestation_artifact_aggregate_corrupt", "attestation_revalidation_event_corrupt",
    "attestation_persistence_projection_corrupt"]

section
variable {state head record : Type}

/-- A call that may write, by whichever instance or thread: it holds the lock or the
transaction from its first read to its last write. -/
inductive Called (store : AttestationPersistenceStore state) (s : state) : state → Prop
  | persisted (a : PersistedAttestationArtifact) (r : AttestationBindingReference) :
      Called store s (store.persistArtifact s a r).2
  | appended (e : AttestationRevalidationEvent) :
      Called store s (store.appendRevalidationEvent s e).2

abbrev Run (store : AttestationPersistenceStore state) : state → state → Prop :=
  Relation.ReflTransGen (Called store)

/-- The log of events of every artifact is free of gaps and only grows, in every run
from the empty store. -/
structure LogKept (store : AttestationPersistenceStore state) (view : StoreView state head record)
    (empty : state) : Prop where
  /-- The events are numbered from one to their count. -/
  numbered : ∀ {s}, Run store empty s → ∀ key,
    (view.events s key).map view.number = sequencesTo (view.events s key).length
  /-- Each event identity occurs once. -/
  distinct : ∀ {s}, Run store empty s → ∀ key, ((view.events s key).map view.name).Nodup
  /-- What is stored of an event stays, where it is. -/
  appendOnly : ∀ {s s'}, Run store empty s → Run store s s' → ∀ key,
    view.events s key <+: view.events s' key
  /-- What is stored of an artifact and its reference stays. -/
  fixed : ∀ {s s'}, Run store empty s → Run store s s' → ∀ key h, view.head s key = some h →
    view.head s' key = some h
  /-- What was persisted is stored, and it is read ever after. -/
  persisted : ∀ {s s' a r aggregate}, Run store empty s →
    store.persistArtifact s a r = (.ok aggregate, s') →
      aggregate.artifact = a ∧ aggregate.bindingReference = r ∧
        (view.head s' (artifactKey a.toArtifactFields)).isSome ∧
        ∀ s'', Run store s' s'' → store.getArtifactAggregate s'' a.workspaceIdentity a.artifactId =
          .ok (some aggregate)
  /-- What was appended is stored under the number that was returned. -/
  appended : ∀ {s s' e sequenced}, Run store empty s →
    store.appendRevalidationEvent s e = (.ok sequenced, s') →
      sequenced.event = e ∧ ∃ record ∈ view.events s' (eventKey e.toEventFields),
        view.number record = sequenced.eventSequence ∧ view.name record = e.eventId ∧
          view.text record = eventText e.toEventFields
  /-- An identical event gets its number again. -/
  again : ∀ {s e record}, Run store empty s → record ∈ view.events s (eventKey e.toEventFields) →
    view.text record = eventText e.toEventFields →
      ∃ sequenced, store.appendRevalidationEvent s e = (.ok sequenced, s) ∧
        sequenced.eventSequence = view.number record ∧ sequenced.event = e
  /-- A different event of the same identity is rejected. -/
  conflict : ∀ {s e record}, Run store empty s → record ∈ view.events s (eventKey e.toEventFields) →
    view.name record = e.eventId → view.text record ≠ eventText e.toEventFields →
      ∃ code, store.appendRevalidationEvent s e = (.error code, s)
  /-- The latest event is the one with the greatest number. -/
  latest : ∀ {s}, Run store empty s → ∀ key, (view.head s key).isSome →
    (view.events s key = [] ∧ store.getLatestRevalidationEvent s key.1 key.2 = .ok none) ∨
      ∃ record sequenced, (view.events s key).getLast? = some record ∧
        store.getLatestRevalidationEvent s key.1 key.2 = .ok (some sequenced) ∧
        sequenced.eventSequence = (view.events s key).length ∧
        eventText sequenced.event.toEventFields = view.text record
  /-- No read finds the store corrupt. -/
  sound : ∀ {s}, Run store empty s → ∀ workspaceIdentity artifactId code,
    store.getArtifactAggregate s workspaceIdentity artifactId = .error code ∨
      store.getLatestRevalidationEvent s workspaceIdentity artifactId = .error code →
        code ∉ corruptionCodes

/-- The states of a store stand for ledgers, and its calls do what the ledger does or
nothing. -/
structure Follows (store : AttestationPersistenceStore state) (view : StoreView state head record)
    (stands : state → Ledger → Prop) (headOf : AttestationArtifactAggregate → head)
    (recordOf : ℕ × AttestationRevalidationEvent → record) : Prop where
  keyed : ∀ {s ledger}, stands s ledger → ∀ key log, ledger key = some log →
    artifactKey log.head.artifact.toArtifactFields = key
  telling : ∀ {s ledger}, stands s ledger → ∀ key log, ledger key = some log →
    ∀ e ∈ log.events, eventKey e.toEventFields = key ∧ Tells e.toEventFields log.head
  head : ∀ {s ledger}, stands s ledger → ∀ key,
    view.head s key = (ledger key).map fun log => headOf log.head
  events : ∀ {s ledger}, stands s ledger → ∀ key,
    view.events s key = (ledger key).elim [] fun log => (numbered log.events).map recordOf
  number : ∀ entry, view.number (recordOf entry) = entry.1 + 1
  name : ∀ entry, view.name (recordOf entry) = entry.2.eventId
  text : ∀ entry, view.text (recordOf entry) = eventText entry.2.toEventFields
  persist : ∀ {s ledger}, stands s ledger → ∀ a r,
    (∃ code, store.persistArtifact s a r = (.error code, s)) ∨
      ∃ aggregate s', aggregate.artifact = a ∧ aggregate.bindingReference = r ∧
        store.persistArtifact s a r = ((ledger.persist aggregate).1, s') ∧
        stands s' (ledger.persist aggregate).2
  append : ∀ {s ledger}, stands s ledger → ∀ e,
    (∃ s', store.appendRevalidationEvent s e = ((ledger.append e).1, s') ∧
        stands s' (ledger.append e).2 ∧ (s' = s ∨ ∃ log,
          ledger (eventKey e.toEventFields) = some log ∧ eventName e ∉ log.events.map eventName)) ∨
      (∃ code, store.appendRevalidationEvent s e = (.error code, s)) ∧
        ∀ log, ledger (eventKey e.toEventFields) = some log →
          eventName e ∉ log.events.map eventName
  get : ∀ {s ledger}, stands s ledger → ∀ key log, ledger key = some log →
    store.getArtifactAggregate s key.1 key.2 = .ok (some log.head)
  latest : ∀ {s ledger}, stands s ledger → ∀ key log, ledger key = some log →
    store.getLatestRevalidationEvent s key.1 key.2 = ledger.latest key
  sound : ∀ {s ledger}, stands s ledger → ∀ workspaceIdentity artifactId code,
    store.getArtifactAggregate s workspaceIdentity artifactId = .error code ∨
      store.getLatestRevalidationEvent s workspaceIdentity artifactId = .error code →
        code ∉ corruptionCodes

/-! ## A store that follows a ledger keeps its logs -/

variable {store : AttestationPersistenceStore state} {view : StoreView state head record}
  {stands : state → Ledger → Prop} {headOf : AttestationArtifactAggregate → head}
  {recordOf : ℕ × AttestationRevalidationEvent → record}

/-- One call moves the ledger by a step. -/
theorem Follows.step (h : Follows store view stands headOf recordOf) {s s' : state}
    {ledger : Ledger} (hs : stands s ledger) (hcall : Called store s s') :
    ∃ ledger', Logs.Step eventName ledger ledger' ∧ stands s' ledger' := by
  cases hcall with
  | persisted a r =>
      rcases h.persist hs a r with ⟨code, hrefused⟩ | ⟨aggregate, s', -, -, hanswer, hs'⟩
      · rw [hrefused]
        exact ⟨ledger, .stay, hs⟩
      · rw [hanswer]
        exact ⟨_, ledger.persist_step aggregate, hs'⟩
  | appended e =>
      rcases h.append hs e with ⟨s', hanswer, hs', -⟩ | ⟨⟨code, hrefused⟩, -⟩
      · rw [hanswer]
        exact ⟨_, ledger.append_step e, hs'⟩
      · rw [hrefused]
        exact ⟨ledger, .stay, hs⟩

theorem Follows.run (h : Follows store view stands headOf recordOf) {s s' : state}
    {ledger : Ledger} (hs : stands s ledger) (hdistinct : ledger.Distinct eventName)
    (hrun : Run store s s') :
    ∃ ledger', stands s' ledger' ∧ ledger.Extends ledger' ∧ ledger'.Distinct eventName :=
  Logs.run_extends (fun _ _ _ hs _ hcall => h.step hs hcall) hrun hs hdistinct

section
variable {s : state} {ledger : Ledger} {key : Key}
  {log : Log AttestationArtifactAggregate AttestationRevalidationEvent}

theorem Follows.stored (h : Follows store view stands headOf recordOf) (hs : stands s ledger)
    (hlog : ledger key = some log) : view.events s key = (numbered log.events).map recordOf := by
  rw [h.events hs, hlog, Option.elim_some]

theorem Follows.no_events (h : Follows store view stands headOf recordOf) (hs : stands s ledger)
    (hnone : ledger key = none) : view.events s key = [] := by
  rw [h.events hs, hnone, Option.elim_none]

/-- A stored record is that of an event of a log. -/
theorem Follows.of_mem (h : Follows store view stands headOf recordOf) (hs : stands s ledger)
    {r : record} (hmem : r ∈ view.events s key) :
    ∃ log entry, ledger key = some log ∧ entry ∈ numbered log.events ∧ recordOf entry = r := by
  cases hlog : ledger key with
  | none =>
      rw [h.no_events hs hlog] at hmem
      cases hmem
  | some log =>
      rw [h.stored hs hlog, List.mem_map] at hmem
      obtain ⟨entry, hentry, hrecord⟩ := hmem
      exact ⟨log, entry, rfl, hentry, hrecord⟩

theorem Follows.numbers (h : Follows store view stands headOf recordOf) (hs : stands s ledger)
    (key : Key) :
    (view.events s key).map view.number = sequencesTo (view.events s key).length := by
  cases hlog : ledger key with
  | none =>
      rw [h.no_events hs hlog]
      rfl
  | some log =>
      rw [h.stored hs hlog, List.length_map, numbered_length, sequencesTo,
        ← numbered_fst log.events, List.map_map, List.map_map]
      exact List.map_congr_left fun entry _ => h.number entry

theorem Follows.names (h : Follows store view stands headOf recordOf) (hs : stands s ledger)
    (hdistinct : ledger.Distinct eventName) (key : Key) :
    ((view.events s key).map view.name).Nodup := by
  cases hlog : ledger key with
  | none =>
      rw [h.no_events hs hlog]
      exact List.nodup_nil
  | some log =>
      have hnames : (view.events s key).map view.name = log.events.map eventName := by
        conv_rhs => rw [← numbered_snd log.events, List.map_map]
        rw [h.stored hs hlog, List.map_map]
        exact List.map_congr_left fun entry _ => h.name entry
      rw [hnames]
      exact hdistinct key log hlog

theorem Follows.prefix (h : Follows store view stands headOf recordOf) {s' : state}
    {ledger' : Ledger} (hs : stands s ledger) (hs' : stands s' ledger')
    (hextends : ledger.Extends ledger') (key : Key) : view.events s key <+: view.events s' key := by
  cases hlog : ledger key with
  | none =>
      rw [h.no_events hs hlog]
      exact List.nil_prefix
  | some log =>
      obtain ⟨log', hlog', -, hinitial⟩ := hextends key log hlog
      rw [h.stored hs hlog, h.stored hs' hlog']
      exact (numbered_initial hinitial).map recordOf

theorem Follows.head_stays (h : Follows store view stands headOf recordOf) {s' : state}
    {ledger' : Ledger} (hs : stands s ledger) (hs' : stands s' ledger')
    (hextends : ledger.Extends ledger') {key : Key} {kept : head}
    (hhead : view.head s key = some kept) : view.head s' key = some kept := by
  rw [h.head hs, Option.map_eq_some_iff] at hhead
  obtain ⟨log, hlog, rfl⟩ := hhead
  obtain ⟨log', hlog', hsame, -⟩ := hextends key log hlog
  rw [h.head hs', hlog', Option.map_some, hsame]

theorem Follows.persisted (h : Follows store view stands headOf recordOf) {s' : state}
    {a : PersistedAttestationArtifact} {r : AttestationBindingReference}
    {aggregate : AttestationArtifactAggregate} (hs : stands s ledger)
    (hdistinct : ledger.Distinct eventName)
    (hok : store.persistArtifact s a r = (.ok aggregate, s')) :
    aggregate.artifact = a ∧ aggregate.bindingReference = r ∧
      (view.head s' (artifactKey a.toArtifactFields)).isSome ∧
      ∀ s'', Run store s' s'' → store.getArtifactAggregate s'' a.workspaceIdentity a.artifactId =
        .ok (some aggregate) := by
  rcases h.persist hs a r with ⟨code, hrefused⟩ | ⟨aggregate', s₁, rfl, rfl, hanswer, hs₁⟩
  · rw [hrefused] at hok
    cases hok
  · rw [hanswer] at hok
    obtain ⟨hanswered, rfl⟩ := Prod.mk.inj hok
    obtain ⟨rfl, log, hlog, hhead⟩ := Ledger.persist_ok hanswered
    refine ⟨rfl, rfl, ?_, fun s'' hrun => ?_⟩
    · rw [h.head hs₁, hlog]
      rfl
    · have hdistinct' := (ledger.persist_step aggregate).distinct hdistinct
      obtain ⟨ledger'', hs'', hextends, -⟩ := h.run hs₁ hdistinct' hrun
      obtain ⟨log'', hlog'', hsame, -⟩ := hextends _ log hlog
      have hget := h.get hs'' _ log'' hlog''
      rw [hsame, hhead] at hget
      exact hget

theorem Follows.appended (h : Follows store view stands headOf recordOf) {s' : state}
    {e : AttestationRevalidationEvent} {sequenced : SequencedAttestationRevalidationEvent}
    (hs : stands s ledger) (hok : store.appendRevalidationEvent s e = (.ok sequenced, s')) :
    sequenced.event = e ∧ ∃ record ∈ view.events s' (eventKey e.toEventFields),
      view.number record = sequenced.eventSequence ∧ view.name record = e.eventId ∧
        view.text record = eventText e.toEventFields := by
  rcases h.append hs e with ⟨s₁, hanswer, hs₁, -⟩ | ⟨⟨code, hrefused⟩, -⟩
  · rw [hanswer] at hok
    obtain ⟨hanswered, rfl⟩ := Prod.mk.inj hok
    obtain ⟨log, n, hlog, hmem, rfl⟩ := Ledger.append_ok hanswered
    refine ⟨rfl, recordOf (n, e), ?_, h.number _, h.name _, h.text _⟩
    rw [h.stored hs₁ hlog]
    exact List.mem_map_of_mem hmem
  · rw [hrefused] at hok
    cases hok

/-- An identity that is there already is answered by the ledger, and nothing is written. -/
theorem Follows.append_there (h : Follows store view stands headOf recordOf)
    {e : AttestationRevalidationEvent} (hs : stands s ledger)
    (hlog : ledger (eventKey e.toEventFields) = some log)
    (hthere : eventName e ∈ log.events.map eventName) :
    store.appendRevalidationEvent s e = ((ledger.append e).1, s) := by
  rcases h.append hs e with ⟨s₁, hanswer, -, rfl | ⟨log', hlog', hfresh⟩⟩ | ⟨-, hfresh⟩
  · exact hanswer
  · obtain rfl := Option.some.inj (hlog.symm.trans hlog')
    exact absurd hthere hfresh
  · exact absurd hthere (hfresh log hlog)

variable [TimestampLibrary] [LawfulTextLibrary] [LawfulZonedTimeLibrary] [LawfulInfixLibrary]

theorem Follows.again (h : Follows store view stands headOf recordOf)
    {e : AttestationRevalidationEvent} {r : record} (hs : stands s ledger)
    (hdistinct : ledger.Distinct eventName) (hmem : r ∈ view.events s (eventKey e.toEventFields))
    (htext : view.text r = eventText e.toEventFields) :
    ∃ sequenced, store.appendRevalidationEvent s e = (.ok sequenced, s) ∧
      sequenced.eventSequence = view.number r ∧ sequenced.event = e := by
  obtain ⟨log, ⟨n, f⟩, hlog, hentry, rfl⟩ := h.of_mem hs hmem
  have hsame : f = e := eventText_injective ((h.text (n, f)).symm.trans htext)
  subst hsame
  have htells := (h.telling hs _ log hlog f (mem_of_mem_numbered hentry)).2
  have hledger := Ledger.append_again hlog htells (hdistinct _ log hlog) hentry
  have hthere : eventName f ∈ log.events.map eventName :=
    List.mem_map_of_mem (mem_of_mem_numbered hentry)
  rw [h.append_there hs hlog hthere, hledger]
  exact ⟨_, rfl, (h.number (n, f)).symm, rfl⟩

omit [TimestampLibrary] [LawfulTextLibrary] [LawfulZonedTimeLibrary] [LawfulInfixLibrary] in
theorem Follows.conflict (h : Follows store view stands headOf recordOf)
    {e : AttestationRevalidationEvent} {r : record} (hs : stands s ledger)
    (hdistinct : ledger.Distinct eventName) (hmem : r ∈ view.events s (eventKey e.toEventFields))
    (hname : view.name r = e.eventId) (htext : view.text r ≠ eventText e.toEventFields) :
    ∃ code, store.appendRevalidationEvent s e = (.error code, s) := by
  obtain ⟨log, ⟨n, f⟩, hlog, hentry, rfl⟩ := h.of_mem hs hmem
  have hsame : eventName f = eventName e := (h.name (n, f)).symm.trans hname
  have hdiffer : f ≠ e := by
    rintro rfl
    exact htext (h.text (n, f))
  obtain ⟨code, hledger⟩ :=
    Ledger.append_conflict hlog (hdistinct _ log hlog) hentry hsame hdiffer
  have hthere : eventName e ∈ log.events.map eventName :=
    hsame ▸ List.mem_map_of_mem (mem_of_mem_numbered hentry)
  rw [h.append_there hs hlog hthere, hledger]
  exact ⟨code, rfl⟩

omit [TimestampLibrary] [LawfulTextLibrary] [LawfulZonedTimeLibrary] [LawfulInfixLibrary] in
theorem Follows.latest_numbered (h : Follows store view stands headOf recordOf)
    (hs : stands s ledger) (hhead : (view.head s key).isSome) :
    (view.events s key = [] ∧ store.getLatestRevalidationEvent s key.1 key.2 = .ok none) ∨
      ∃ record sequenced, (view.events s key).getLast? = some record ∧
        store.getLatestRevalidationEvent s key.1 key.2 = .ok (some sequenced) ∧
        sequenced.eventSequence = (view.events s key).length ∧
        eventText sequenced.event.toEventFields = view.text record := by
  rw [h.head hs, Option.isSome_map] at hhead
  obtain ⟨log, hlog⟩ := Option.isSome_iff_exists.mp hhead
  rw [h.latest hs key log hlog, h.stored hs hlog, Ledger.latest, hlog, List.getLast?_map]
  dsimp only
  rw [numbered_getLast?]
  cases hlast : log.events.getLast? with
  | none =>
      rw [List.getLast?_eq_none_iff.mp hlast]
      exact .inl ⟨rfl, rfl⟩
  | some e =>
      refine .inr ⟨recordOf (log.events.length - 1, e), sequencedAt (log.events.length - 1, e), rfl,
        rfl, ?_, (h.text (log.events.length - 1, e)).symm⟩
      have hpositive : 0 < log.events.length := by
        rw [List.length_pos_iff]
        rintro hnil
        rw [hnil] at hlast
        cases hlast
      rw [List.length_map, numbered_length]
      change ((log.events.length - 1 : ℕ) : Int) + 1 = log.events.length
      omega

end

/-- A store that follows a ledger keeps its logs. -/
theorem Follows.logKept [TimestampLibrary] [LawfulTextLibrary] [LawfulZonedTimeLibrary]
    [LawfulInfixLibrary] (h : Follows store view stands headOf recordOf) {empty : state}
    (hempty : stands empty Logs.empty) : LogKept store view empty := by
  have hreached : ∀ {s}, Run store empty s → ∃ ledger, stands s ledger ∧
      ledger.Distinct eventName := by
    intro s hrun
    obtain ⟨ledger, hs, -, hdistinct⟩ := h.run hempty (fun _ _ hlog => by cases hlog) hrun
    exact ⟨ledger, hs, hdistinct⟩
  refine
    { numbered := ?_, distinct := ?_, appendOnly := ?_, fixed := ?_, persisted := ?_
      appended := ?_, again := ?_, conflict := ?_, latest := ?_, sound := ?_ }
  · intro s hrun key
    obtain ⟨ledger, hs, -⟩ := hreached hrun
    exact h.numbers hs key
  · intro s hrun key
    obtain ⟨ledger, hs, hdistinct⟩ := hreached hrun
    exact h.names hs hdistinct key
  · intro s s' hrun hlater key
    obtain ⟨ledger, hs, hdistinct⟩ := hreached hrun
    obtain ⟨ledger', hs', hextends, -⟩ := h.run hs hdistinct hlater
    exact h.prefix hs hs' hextends key
  · intro s s' hrun hlater key kept hhead
    obtain ⟨ledger, hs, hdistinct⟩ := hreached hrun
    obtain ⟨ledger', hs', hextends, -⟩ := h.run hs hdistinct hlater
    exact h.head_stays hs hs' hextends hhead
  · intro s s' a r aggregate hrun hok
    obtain ⟨ledger, hs, hdistinct⟩ := hreached hrun
    exact h.persisted hs hdistinct hok
  · intro s s' e sequenced hrun hok
    obtain ⟨ledger, hs, -⟩ := hreached hrun
    exact h.appended hs hok
  · intro s e r hrun hmem htext
    obtain ⟨ledger, hs, hdistinct⟩ := hreached hrun
    exact h.again hs hdistinct hmem htext
  · intro s e r hrun hmem hname htext
    obtain ⟨ledger, hs, hdistinct⟩ := hreached hrun
    exact h.conflict hs hdistinct hmem hname htext
  · intro s hrun key hhead
    obtain ⟨ledger, hs, -⟩ := hreached hrun
    exact h.latest_numbered hs hhead
  · intro s hrun workspaceIdentity artifactId code hread
    obtain ⟨ledger, hs, -⟩ := hreached hrun
    exact h.sound hs workspaceIdentity artifactId code hread

end

/-! ## The two stores follow ledgers -/

section
open AttestationMemoryStore InMemoryAttestationPersistenceStore

def memoryView : StoreView InMemoryAttestationPersistenceStore (String × String)
    (String × EventEntry) where
  head m key :=
    match m.artifactSnapshots.lookup key, m.referenceSnapshots.lookup key with
    | some artifact, some reference => some (artifact, reference)
    | _, _ => none
  events m key := (m.eventSnapshots.lookup key).elim [] KeyedRows.Rows.entries
  number record := record.2.1
  name record := record.1
  text record := record.2.2

/-- What a computation raises is one of these. -/
def RaisesOnly {α : Type} (allowed : List Raised) (x : Py α) : Prop :=
  ∀ e, x = .error e → e ∈ allowed

section
variable {α β : Type} {allowed : List Raised}

omit [PythonLibrary] [UnicodeLibrary] [ZonedTimeLibrary]

theorem RaisesOnly.bind {x : Py α} {f : α → Py β} (hx : RaisesOnly allowed x)
    (hf : ∀ a, RaisesOnly allowed (f a)) : RaisesOnly allowed (x >>= f) := by
  intro e he
  cases x with
  | error raised =>
      obtain rfl := Except.error.inj he
      exact hx raised rfl
  | ok a => exact hf a e he

theorem raisesOnly_require {condition : Prop} [Decidable condition] {e : Raised}
    (h : e ∈ allowed) : RaisesOnly allowed (require condition e) := by
  intro raised hraised
  rw [require] at hraised
  split_ifs at hraised
  exact Except.error.inj hraised ▸ h

theorem raisesOnly_orRaise {x : Option α} {e : Raised} (h : e ∈ allowed) :
    RaisesOnly allowed (orRaise x e) := by
  intro raised hraised
  cases x with
  | none => exact Except.error.inj hraised ▸ h
  | some a => cases hraised

theorem raisesOnly_pure (a : α) : RaisesOnly allowed (pure a) := by
  intro e he
  cases he

end

omit [ZonedTimeLibrary] in
/-- The codes of the errors for a key that is not canonical. -/
theorem keyOf_refused {workspaceIdentity artifactId : String} {e : StoreRaised}
    (h : keyOf workspaceIdentity artifactId = .error e) :
    e.code ∈ ["attestation_persistence_type_invalid",
      "attestation_persistence_payload_invalid"] := by
  have hcodes : ∀ raised ∈ [typeInvalid, payloadInvalid],
      (StoreRaised.record raised).code ∈ ["attestation_persistence_type_invalid",
        "attestation_persistence_payload_invalid"] := by decide
  have htext : RaisesOnly [typeInvalid, payloadInvalid] (persistedText (.str workspaceIdentity)) :=
    (raisesOnly_orRaise (by decide)).bind fun _ =>
      (raisesOnly_require (by decide)).bind fun _ => raisesOnly_pure _
  have hid : RaisesOnly [typeInvalid, payloadInvalid]
      (exactText (.str artifactId) (hexPattern "artifact-")) :=
    (raisesOnly_orRaise (by decide)).bind fun _ =>
      (raisesOnly_require (by decide)).bind fun _ => raisesOnly_pure _
  rw [keyOf] at h
  cases hworkspace : persistedText (.str workspaceIdentity) with
  | error raised =>
      rw [hworkspace] at h
      exact Except.error.inj h ▸ hcodes raised (htext raised hworkspace)
  | ok workspace =>
      rw [ofRecord_ok hworkspace, store_bind_ok] at h
      cases hartifact : exactText (.str artifactId) (hexPattern "artifact-") with
      | error raised =>
          rw [hartifact] at h
          exact Except.error.inj h ▸ hcodes raised (hid raised hartifact)
      | ok artifact =>
          rw [ofRecord_ok hartifact] at h
          cases h

variable [TimestampLibrary] [LawfulTextLibrary] [LawfulZonedTimeLibrary] [LawfulDigestLibrary]
  [LawfulInfixLibrary]

/-- The key of a stored artifact is canonical. -/
theorem keyOf_head (a : PersistedAttestationArtifact) :
    keyOf a.workspaceIdentity a.artifactId = .ok (artifactKey a.toArtifactFields) := by
  have hworkspace := ofRecord_ok (Settled.persistedText a.sound.workspace)
  have hartifact := ofRecord_ok (exactText_eq_ok.mpr ⟨rfl, a.sound.artifactIdForm⟩)
  simp only [keyOf, hworkspace, hartifact, store_bind_ok]
  rfl

omit [TimestampLibrary] [LawfulTextLibrary] [LawfulZonedTimeLibrary] [LawfulDigestLibrary]
  [LawfulInfixLibrary] in
theorem latest_sound {ledger : Ledger} {key : Key} {code : String}
    (h : ledger.latest key = .error code) : code ∉ corruptionCodes := by
  rw [Ledger.latest] at h
  cases hlog : ledger key with
  | none =>
      rw [hlog] at h
      exact Except.error.inj h ▸ by decide
  | some log =>
      rw [hlog] at h
      cases h

theorem memory_follows : Follows store memoryView Represents
    (fun aggregate => (artifactText aggregate.artifact.toArtifactFields,
      referenceText aggregate.bindingReference.toReferenceFields)) recordOf := by
  refine
    { keyed := fun h => h.keyed, telling := fun h => h.telling, head := ?_, events := ?_
      number := fun _ => rfl, name := fun _ => rfl, text := fun _ => rfl, persist := ?_
      append := ?_, get := ?_, latest := ?_, sound := ?_ }
  · intro m ledger h key
    simp only [memoryView, h.artifacts, h.references]
    cases ledger key <;> rfl
  · intro m ledger h key
    simp only [memoryView]
    cases hrecords : m.eventSnapshots.lookup key with
    | none =>
        have hquiet := (h.quiet key).mp hrecords
        cases hlog : ledger key with
        | none => rfl
        | some log =>
            rw [Option.elim_none, Option.elim_some, hquiet log hlog]
            rfl
    | some records =>
        obtain ⟨log, hlog, -, hentries⟩ := h.records key records hrecords
        rw [hlog, Option.elim_some, Option.elim_some, hentries]
        rfl
  · intro m ledger h a r
    by_cases hmatches : Matches a.toArtifactFields r.toReferenceFields
    · obtain ⟨hanswer, hm⟩ := h.persist ⟨a, r, hmatches⟩
      exact .inr ⟨⟨a, r, hmatches⟩, _, rfl, rfl, Prod.ext hanswer rfl, hm⟩
    · exact .inl ⟨_, persist_mismatch hmatches m⟩
  · intro m ledger h e
    obtain ⟨hanswer, hm, hwritten⟩ := h.append e
    exact .inl ⟨_, Prod.ext hanswer rfl, hm, hwritten⟩
  · intro m ledger h key log hlog
    have hkey := keyOf_head log.head.artifact
    obtain rfl := h.keyed key log hlog
    refine (h.get hkey).trans ?_
    rw [Ledger.aggregate, hlog]
    rfl
  · intro m ledger h key log hlog
    have hkey := keyOf_head log.head.artifact
    obtain rfl := h.keyed key log hlog
    exact h.latest hkey
  · intro m ledger h workspaceIdentity artifactId code hread
    cases hkey : keyOf workspaceIdentity artifactId with
    | error e =>
        obtain ⟨hget, hlatest⟩ := read_refused hkey m
        have hcode : e.code = code := by
          rw [hget, hlatest] at hread
          exact hread.elim Except.error.inj Except.error.inj
        have hcodes : ∀ code ∈ ["attestation_persistence_type_invalid",
            "attestation_persistence_payload_invalid"], code ∉ corruptionCodes := by decide
        exact hcode ▸ hcodes _ (keyOf_refused hkey)
    | ok key =>
        rw [h.get hkey, h.latest hkey] at hread
        exact latest_sound (hread.resolve_left fun heq => by cases heq)

end

section
open ConstrainedRows AttestationTables

def cellText : Value → String
  | .str s => s
  | _ => ""

def tablesView : StoreView Database (Row Value × Row Value) (Row Value) where
  head db key :=
    match artifactRows db key, referenceRows db key with
    | [artifact], [reference] => some (artifact, reference)
    | _, _ => none
  events db key := eventRows db key
  number row := sequenceOf row
  name row := cellText (cell row 1)
  text row := cellText (cell row 15)

variable [TimestampLibrary] [LawfulTextLibrary] [LawfulZonedTimeLibrary] [LawfulDigestLibrary]
  [LawfulInfixLibrary]

/-- An aggregate is persisted as the ledger does it, or refused. -/
theorem tables_persist {workspace : String} {heads : List AttestationArtifactAggregate}
    {db : Database} {ledger : Ledger} (h : Stands workspace heads db ledger)
    (aggregate : AttestationArtifactAggregate) :
    (∃ code, (store workspace).persistArtifact db aggregate.artifact aggregate.bindingReference =
        (.error code, db)) ∨
      ∃ db', (store workspace).persistArtifact db aggregate.artifact aggregate.bindingReference =
          ((ledger.persist aggregate).1, db') ∧
        ∃ heads', Stands workspace heads' db' (ledger.persist aggregate).2 := by
  by_cases hworkspace : aggregate.artifact.workspaceIdentity = workspace
  · by_cases hadmitted : ledger (headKey aggregate) = none → Admitted ledger aggregate
    · obtain ⟨heads', db', hanswer, hdb⟩ := h.persist aggregate hworkspace hadmitted
      exact .inr ⟨db', hanswer, heads', hdb⟩
    · obtain ⟨hnew, hrefused⟩ := Classical.not_imp.mp hadmitted
      exact .inl (h.persist_refused hworkspace hnew hrefused)
  · exact .inl ⟨_, persist_elsewhere aggregate hworkspace db⟩

theorem tables_append {workspace : String} {heads : List AttestationArtifactAggregate}
    {db : Database} {ledger : Ledger} (h : Stands workspace heads db ledger)
    (e : AttestationRevalidationEvent) :
    (∃ db', (store workspace).appendRevalidationEvent db e = ((ledger.append e).1, db') ∧
        (∃ heads', Stands workspace heads' db' (ledger.append e).2) ∧ (db' = db ∨ ∃ log,
          ledger (eventKey e.toEventFields) = some log ∧ eventName e ∉ log.events.map eventName)) ∨
      (∃ code, (store workspace).appendRevalidationEvent db e = (.error code, db)) ∧
        ∀ log, ledger (eventKey e.toEventFields) = some log →
          eventName e ∉ log.events.map eventName := by
  by_cases hworkspace : e.workspaceIdentity = workspace
  · by_cases hrecordable : ∀ log, ledger (eventKey e.toEventFields) = some log →
        Tells e.toEventFields log.head → eventName e ∉ log.events.map eventName →
          Recordable ledger e
    · obtain ⟨db', hanswer, hdb, hwritten⟩ := h.append e hworkspace hrecordable
      exact .inl ⟨db', hanswer, ⟨heads, hdb⟩, hwritten⟩
    · push Not at hrecordable
      obtain ⟨log, hlog, htells, hfresh, hrefused⟩ := hrecordable
      refine .inr ⟨h.append_refused hlog htells hfresh hrefused, fun log' hlog' => ?_⟩
      obtain rfl := Option.some.inj (hlog.symm.trans hlog')
      exact hfresh
  · refine .inr ⟨⟨_, append_elsewhere hworkspace db⟩, fun log hlog => ?_⟩
    exact absurd (h.log_workspace hlog) hworkspace

theorem tables_follow {workspace : String} (hopen : validateWorkspace workspace = .ok ()) :
    Follows (store workspace) tablesView (fun db ledger => ∃ heads, Stands workspace heads db ledger)
      (fun aggregate => (rowOfArtifact aggregate, rowOfReference aggregate)) rowOfEvent := by
  refine
    { keyed := ?_, telling := ?_, head := ?_, events := ?_, number := sequenceOf_rowOfEvent
      name := ?_, text := ?_, persist := ?_, append := ?_, get := ?_, latest := ?_, sound := ?_ }
  · rintro db ledger ⟨heads, h⟩ key log hlog
    exact (h.opened key log hlog).2
  · rintro db ledger ⟨heads, h⟩ key log hlog
    exact h.telling key log hlog
  · rintro db ledger ⟨heads, h⟩ key
    simp only [tablesView, h.artifactRows, h.referenceRows, Ledger.aggregate]
    cases ledger key <;> rfl
  · rintro db ledger ⟨heads, h⟩ key
    simp only [tablesView]
    cases hlog : ledger key with
    | none =>
        rw [eventRows, h.no_events hlog]
        rfl
    | some log =>
        rw [h.eventRows hlog]
        rfl
  · intro entry
    simp only [tablesView, rowOfEvent, eventRow_eq]
    rfl
  · intro entry
    simp only [tablesView, rowOfEvent, eventRow_eq]
    rfl
  · rintro db ledger ⟨heads, h⟩ a r
    by_cases hmatches : Matches a.toArtifactFields r.toReferenceFields
    · rcases tables_persist h ⟨a, r, hmatches⟩ with hrefused | ⟨db', hanswer, hdb⟩
      · exact .inl hrefused
      · exact .inr ⟨⟨a, r, hmatches⟩, db', rfl, rfl, hanswer, hdb⟩
    · exact .inl ⟨_, persist_mismatch hmatches workspace db⟩
  · rintro db ledger ⟨heads, h⟩ e
    exact tables_append h e
  · rintro db ledger ⟨heads, h⟩ key log hlog
    obtain rfl := h.log_workspace hlog
    refine (h.get hopen key.2).trans ?_
    rw [Ledger.aggregate, hlog]
    rfl
  · rintro db ledger ⟨heads, h⟩ key log hlog
    obtain rfl := h.log_workspace hlog
    exact h.latest hopen key.2
  · rintro db ledger ⟨heads, h⟩ workspaceIdentity artifactId code hread
    by_cases hworkspace : workspaceIdentity = workspace
    · subst hworkspace
      rw [h.get hopen, h.latest hopen] at hread
      exact latest_sound (hread.resolve_left fun heq => by cases heq)
    · obtain ⟨hget, hlatest⟩ := read_elsewhere hworkspace db artifactId
      have hcode : "attestation_persistence_workspace_mismatch" = code := by
        rw [hget, hlatest] at hread
        exact hread.elim Except.error.inj Except.error.inj
      exact hcode ▸ by decide

/-- In every run of either store, from empty, the log of events of every artifact is free
of gaps and only grows, and what is read is never corrupt. -/
theorem revalidation_logs_kept :
    LogKept AttestationMemoryStore.InMemoryAttestationPersistenceStore.store memoryView .empty ∧
      ∀ workspace, validateWorkspace workspace = .ok () →
        LogKept (store workspace) tablesView .empty :=
  ⟨memory_follows.logKept AttestationMemoryStore.InMemoryAttestationPersistenceStore.empty_represents,
    fun workspace hopen => (tables_follow hopen).logKept ⟨[], empty_stands workspace⟩⟩

end

end

theorem revalidation_logs_kept_sample :
    ∃ (_ : PythonLibrary) (_ : UnicodeLibrary) (_ : ZonedTimeLibrary),
      LogKept AttestationMemoryStore.InMemoryAttestationPersistenceStore.store memoryView .empty ∧
        LogKept (AttestationTables.store "workspace-1") tablesView .empty := by
  have hlawful := IssuanceHistories.referenceLibrary_lawful
  have htimes := AttestationReference.referenceTimes_lawful
  have hdigests := AttestationReference.referenceLibrary_digests
  have hinfix := AttestationReference.referenceLibrary_infix
  let _ := ReferenceLibrary.referenceLibrary
  let _ := IssuanceHistories.referenceUnicode
  let _ := IssuanceHistories.referenceTimestamps
  let _ := AttestationReference.referenceTimes
  have hopen := AttestationTables.validateWorkspace_settled
    ((by decide : Graphic "workspace-1").settled (by decide))
  exact ⟨_, _, _, revalidation_logs_kept.1, revalidation_logs_kept.2 "workspace-1" hopen⟩

end DeliverySystem.AttestationStores

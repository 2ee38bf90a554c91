import DeliverySystem.AttestationBoundary

/-!
# Tickets are sound and used once

What a step of the boundary can do is said once, in `Transition`. The invariant
follows the calls: a verification keeps what it has checked, at most one of them
has consumed the challenge of a request, and a consumed ticket has one consumer.
-/
namespace DeliverySystem.AttestationSingleUse
open PythonValues CanonicalValues JsonText AuthorityBindings AttestationClaims
open AttestationArtifacts AttestationVerification AttestationBoundary
set_option autoImplicit false

section
variable [PythonLibrary] [UnicodeLibrary] [ZonedTimeLibrary]
variable {c c' : Config}

/-! ## What a step can do -/

/-- The steps of a verification that leave the registries alone. -/
inductive Moves (c : Config) (call : VerifyCall) : Phase → Prop
  | failed {code : String} : (∀ l r, call.phase ≠ .returned l r) → Moves c call (.failed code)
  | found {now : Instant} {request : Nat} {snapshot : RequestFields} :
      call.phase = .entered → currentTime call.time = .ok now → call.request = some request →
      c.requests request = some snapshot → Moves c call (.found now snapshot)
  | compared {now : Instant} {snapshot : RequestFields} :
      call.phase = .found now snapshot → Moves c call (.compared now snapshot)
  | trusted {now : Instant} {snapshot : RequestFields}
      {envelope : SignedCredentialCapabilityAttestation} :
      call.phase = .compared now snapshot →
      parseUntrustedSignedAttestation call.submitted = .ok envelope →
      trustChecks call.dependencies envelope = .ok () →
      requestMismatch envelope.claims.toClaimsFields snapshot = none →
      Moves c call (.trusted ⟨now, snapshot, envelope⟩)
  | current {l : Locals} : call.phase = .trusted l → l.envelope.claims.attestationVersion = "2" →
      Moves c call (.current l)
  | unbound {l : Locals} : call.phase = .trusted l →
      l.envelope.claims.attestationVersion ≠ "2" → Moves c call (.bound l none)
  | valid {l : Locals} {consumedAt : Option ℚ} : call.phase = .bound l consumedAt →
      validityChecks call.dependencies l.envelope.claims l.now = .ok () →
      Moves c call (.valid l consumedAt)

/-- Everything that a step can do. -/
inductive Transition (c : Config) : Config → Prop
  | objects {requestObjects : Nat → Option RequestObject} {claimsObjects : Nat → Option ClaimsFields}
      {envelopeObjects : Nat → Option EnvelopeObject} {eventObjects : Nat → Option EventObject} :
      Transition c { c with requestObjects, claimsObjects, envelopeObjects, eventObjects }
  | created {number : Nat} {policy : Option (String → Reply Bool)} {values : Dict}
      {challenge : String} {reading : ℚ} {snapshot : RequestFields} :
      c.requests number = none → requestSnapshot policy values challenge = .ok snapshot →
      Transition c
        { c with
          requests := Function.update c.requests number (some snapshot)
          challenges := Function.update c.challenges number (some ⟨reading, false⟩)
          requestObjects := Function.update c.requestObjects number (some ⟨snapshot, true⟩) }
  | began {number : Nat} {call : VerifyCall} : c.verifications number = none →
      call.phase = .entered →
      Transition c { c with verifications := Function.update c.verifications number (some call) }
  | moved {number : Nat} {call : VerifyCall} {phase : Phase} :
      c.verifications number = some call → Moves c call phase →
      Transition c
        { c with verifications := Function.update c.verifications number (some { call with phase }) }
  | bound {number request : Nat} {call : VerifyCall} {l : Locals} {challenge : Challenge}
      {reading : ℚ} : c.verifications number = some call → call.phase = .current l →
      call.request = some request → c.challenges request = some challenge →
      challenge.consumed = false → challenge.young reading →
      Transition c
        { c with
          challenges :=
            Function.update c.challenges request (some { challenge with consumed := true })
          verifications := Function.update c.verifications number
            (some { call with phase := .bound l (some reading) }) }
  | registered {number : Nat} {call : VerifyCall} {l : Locals} {consumedAt : Option ℚ}
      {token : String} {record : TicketRecord} : c.verifications number = some call →
      call.phase = .valid l consumedAt → ticketRecord number l token = .ok record →
      Transition c
        { c with
          tickets := Function.update c.tickets number (some record)
          claimsObjects := Function.update c.claimsObjects number
            (some l.envelope.claims.toClaimsFields)
          envelopeObjects := Function.update c.envelopeObjects number
            (some ⟨number, .str l.envelope.proof⟩)
          verifications := Function.update c.verifications number
            (some { call with phase := .returned l consumedAt }) }
  | challengeConsumed {request : Nat} {challenge : Challenge} :
      c.challenges request = some challenge →
      Transition c
        { c with
          challenges :=
            Function.update c.challenges request (some { challenge with consumed := true }) }
  | took {number ticket : Nat} {record : TicketRecord} {outcome : ConsumeOutcome} :
      c.consumptions number = none → c.tickets ticket = some record → record.state = .active →
      outcome ≠ .event →
      Transition c
        { c with
          tickets := Function.update c.tickets ticket (some { record with state := .consumed })
          consumptions := Function.update c.consumptions number (some ⟨ticket, outcome⟩) }
  | refused {number ticket : Nat} {code : String} : c.consumptions number = none →
      Transition c
        { c with
          consumptions := Function.update c.consumptions number (some ⟨ticket, .refused code⟩) }
  | evented {number ticket : Nat} {record : TicketRecord} :
      c.consumptions number = some ⟨ticket, .taken⟩ → c.tickets ticket = some record →
      Transition c
        { c with
          consumptions := Function.update c.consumptions number (some ⟨ticket, .event⟩)
          events := Function.update c.events number (some ticket)
          eventObjects := Function.update c.eventObjects number
            (some ⟨record.envelope, record.claims, record.verifiedAt, record.eventId⟩) }

theorem Transition.refl (c : Config) : Transition c c := .objects

omit [PythonLibrary] [UnicodeLibrary] [ZonedTimeLibrary] in
@[simp] theorem failIf_eq_ok {condition : Prop} [Decidable condition] {code : String} {u : Unit} :
    failIf condition code = .ok u ↔ ¬condition := by
  unfold failIf
  split_ifs with h <;> simp [h]

omit [PythonLibrary] [UnicodeLibrary] [ZonedTimeLibrary] in
@[simp] theorem reporting_eq_ok {α : Type} {x : Py α} {a : α} :
    reporting x = .ok a ↔ x = .ok a := by
  cases x <;> simp [reporting, Except.mapError]

omit [PythonLibrary] [UnicodeLibrary] [ZonedTimeLibrary] in
@[simp] theorem returning_eq_ok {α : Type} {x : Py α} {a : α} :
    returning x = .ok a ↔ x = .ok a := by
  cases x <;> simp [returning, Except.mapError]

omit [PythonLibrary] [UnicodeLibrary] [ZonedTimeLibrary] in
@[simp] theorem noMismatch_eq_ok {mismatch : Option String} {u : Unit} :
    noMismatch mismatch = .ok u ↔ mismatch = none := by
  cases mismatch <;> simp [noMismatch]

omit [PythonLibrary] [UnicodeLibrary] [ZonedTimeLibrary] in
@[simp] theorem except_bind_eq_ok {α β : Type} {x : Except String α} {f : α → Except String β}
    {b : β} : (x >>= f) = .ok b ↔ ∃ a, x = .ok a ∧ f a = .ok b := by
  cases x <;> simp [bind, Except.bind]

omit [PythonLibrary] [UnicodeLibrary] [ZonedTimeLibrary] in
@[simp] theorem except_pure_eq_ok {α : Type} {a b : α} :
    (pure a : Except String α) = .ok b ↔ a = b := by
  simp [pure, Except.pure]

/-- A call that goes on by a move, or fails. -/
theorem Transition.proceed {number : Nat} {call : VerifyCall} {next : Except String Phase}
    (hcall : c.verifications number = some call) (hphase : ∀ l r, call.phase ≠ .returned l r)
    (hnext : ∀ phase, next = .ok phase → Moves c call phase) :
    Transition c (c.proceed number call next) := by
  cases next with
  | ok phase => exact .moved hcall (hnext phase rfl)
  | error code => exact .moved hcall (.failed hphase)

theorem findRequest_moves {call : VerifyCall} {phase : Phase} (hphase : call.phase = .entered)
    (h : findRequest c call = .ok phase) : Moves c call phase := by
  simp only [findRequest, except_bind_eq_ok, reporting_eq_ok] at h
  obtain ⟨now, hnow, h⟩ := h
  split at h
  · cases h
  · rename_i snapshot hsnapshot
    obtain rfl := except_pure_eq_ok.mp h
    obtain ⟨request, hrequest, hlookup⟩ := Option.bind_eq_some_iff.mp hsnapshot
    exact .found hphase hnow hrequest hlookup

theorem compareRequest_moves {call : VerifyCall} {now : Instant} {snapshot : RequestFields}
    {phase : Phase} (hphase : call.phase = .found now snapshot)
    (h : compareRequest c call now snapshot = .ok phase) : Moves c call phase := by
  unfold compareRequest at h
  split at h
  · cases h
  · simp only [except_bind_eq_ok, except_pure_eq_ok] at h
    obtain ⟨_, -, _, -, rfl⟩ := h
    exact .compared hphase

theorem checkEnvelope_moves {call : VerifyCall} {now : Instant} {snapshot : RequestFields}
    {phase : Phase} (hphase : call.phase = .compared now snapshot)
    (h : checkEnvelope call now snapshot = .ok phase) : Moves c call phase := by
  unfold checkEnvelope at h
  split at h
  · cases h
  · simp only [except_bind_eq_ok, except_pure_eq_ok, reporting_eq_ok, returning_eq_ok,
      noMismatch_eq_ok] at h
    obtain ⟨envelope, henvelope, _, htrust, _, hmatch, rfl⟩ := h
    exact .trusted hphase henvelope htrust hmatch

theorem checkChallenge_moves {call : VerifyCall} {l : Locals} {reading : ℚ} {phase : Phase}
    (hphase : call.phase = .trusted l) (h : checkChallenge c call l reading = .ok phase) :
    Moves c call phase := by
  unfold checkChallenge at h
  split_ifs at h with hversion
  · simp only [except_bind_eq_ok, except_pure_eq_ok] at h
    obtain ⟨_, -, rfl⟩ := h
    exact .current hphase hversion
  · obtain rfl := except_pure_eq_ok.mp h
    exact .unbound hphase hversion

theorem consumedChallenge_eq_ok {request : Nat} {reading : ℚ}
    {challenge : Challenge} (h : consumedChallenge c request reading = .ok challenge) :
    ∃ before, c.challenges request = some before ∧ before.consumed = false ∧
      before.young reading ∧ challenge = { before with consumed := true } := by
  unfold consumedChallenge at h
  split at h
  · cases h
  · rename_i before hbefore
    split_ifs at h with hconsumed hyoung
    obtain rfl := Except.ok.inj h
    exact ⟨before, hbefore, by simpa using hconsumed, hyoung, rfl⟩

theorem Transition.bindChallenge {number : Nat} {call : VerifyCall} {l : Locals} {reading : ℚ}
    (hcall : c.verifications number = some call) (hphase : call.phase = .current l) :
    Transition c (c.bindChallenge number call l reading) := by
  have hopen : ∀ l r, call.phase ≠ .returned l r := by simp [hphase]
  unfold Config.bindChallenge
  split
  · exact .moved hcall (.failed hopen)
  · rename_i request hrequest
    split
    · exact .moved hcall (.failed hopen)
    · rename_i challenge hchallenge
      obtain ⟨before, hbefore, hfresh, hyoung, rfl⟩ := consumedChallenge_eq_ok hchallenge
      exact .bound hcall hphase hrequest hbefore hfresh hyoung

theorem Transition.registerTicket {number : Nat} {call : VerifyCall} {l : Locals}
    {consumedAt : Option ℚ} {token : String} (hcall : c.verifications number = some call)
    (hphase : call.phase = .valid l consumedAt) :
    Transition c (c.registerTicket number call l consumedAt token) := by
  unfold Config.registerTicket
  split
  · exact .moved hcall (.failed (by simp [hphase]))
  · rename_i record hrecord
    exact .registered hcall hphase hrecord

theorem Transition.advance {number : Nat} {call : VerifyCall} {reading : ℚ} {token : String}
    (hcall : c.verifications number = some call) :
    Transition c (c.advance number call reading token) := by
  unfold Config.advance
  split
  case h_1 hphase => exact .proceed hcall (by simp [hphase]) fun _ => findRequest_moves hphase
  case h_2 hphase => exact .proceed hcall (by simp [hphase]) fun _ => compareRequest_moves hphase
  case h_3 hphase => exact .proceed hcall (by simp [hphase]) fun _ => checkEnvelope_moves hphase
  case h_4 hphase => exact .proceed hcall (by simp [hphase]) fun _ => checkChallenge_moves hphase
  case h_5 hphase => exact .bindChallenge hcall hphase
  case h_6 hphase =>
    refine .proceed hcall (by simp [hphase]) fun phase h => ?_
    simp only [except_bind_eq_ok, except_pure_eq_ok, returning_eq_ok] at h
    obtain ⟨_, hvalid, rfl⟩ := h
    exact .valid hphase hvalid
  case h_7 hphase => exact .registerTicket hcall hphase
  case h_8 => exact .refl c
  case h_9 => exact .refl c

theorem consumedRecord_eq_ok {ticket : Nat}
    {record : TicketRecord} (h : consumedRecord c ticket = .ok record) :
    ∃ before, c.tickets ticket = some before ∧ before.state = .active ∧
      record = { before with state := .consumed } := by
  unfold consumedRecord at h
  split at h
  · cases h
  · rename_i before hbefore
    split_ifs at h with hactive
    exact ⟨before, hbefore, hactive, (Except.ok.inj h).symm⟩

theorem Transition.consume {number ticket : Nat} {outcome : ConsumeOutcome}
    (houtcome : outcome ≠ .event) : Transition c (c.consume number ticket outcome) := by
  unfold Config.consume
  split
  · exact .refl c
  · rename_i hfree hrecord
    obtain ⟨before, hbefore, hactive, rfl⟩ := consumedRecord_eq_ok hrecord
    exact .took hfree hbefore hactive houtcome
  · rename_i hfree _
    exact .refused hfree

theorem Transition.registerEvent (number : Nat) : Transition c (c.registerEvent number) := by
  unfold Config.registerEvent
  split
  · rename_i ticket htaken
    split
    · rename_i record hrecord
      exact .evented htaken hrecord
    · exact .refl c
  · exact .refl c

/-- Every step is one of the transitions. -/
theorem step_transition (c : Config) (a : Action) : Transition c (c.step a) := by
  cases a with
  | createRequest number policy values challenge reading =>
      simp only [Config.step, Config.createRequest]
      split
      · rename_i hfree hsnapshot
        exact .created hfree hsnapshot
      · exact .refl c
  | verify number submitted request time dependencies =>
      simp only [Config.step, Config.beginVerify]
      split
      · rename_i hfree
        exact .began hfree rfl
      · exact .refl c
  | advance number reading token =>
      simp only [Config.step]
      split
      · rename_i call hcall
        exact .advance hcall
      · exact .refl c
  | consumeChallenge request reading =>
      simp only [Config.step, Config.consumeChallenge]
      split
      · rename_i challenge hchallenge
        obtain ⟨before, hbefore, -, -, rfl⟩ := consumedChallenge_eq_ok hchallenge
        exact .challengeConsumed hbefore
      · exact .refl c
  | consumeTicket number ticket => exact .consume (by simp)
  | takeRecord number ticket => exact .consume (by simp)
  | registerEvent number => exact .registerEvent number
  | tamperRequest request object => exact .objects
  | tamperClaims claims fields => exact .objects
  | tamperEnvelope envelope object => exact .objects
  | tamperEvent event object => exact .objects

/-! ## What a verification keeps -/

/-- The time is one in UTC and the snapshot is the one of the registry. -/
structure Asked (c : Config) (call : VerifyCall) (now : Instant) (snapshot : RequestFields) :
    Prop where
  time : currentTime call.time = .ok now
  request : ∃ request, call.request = some request ∧ c.requests request = some snapshot

structure Trusted (c : Config) (call : VerifyCall) (l : Locals) : Prop extends
    Asked c call l.now l.snapshot where
  parsed : parseUntrustedSignedAttestation call.submitted = .ok l.envelope
  trust : trustChecks call.dependencies l.envelope = .ok ()
  matching : requestMismatch l.envelope.claims.toClaimsFields l.snapshot = none

/-- Version 2 has consumed the challenge of its request while it was young. -/
structure Challenged (c : Config) (call : VerifyCall) (l : Locals) (consumedAt : Option ℚ) :
    Prop where
  version2 : l.envelope.claims.attestationVersion = "2" → ∃ reading request challenge,
    consumedAt = some reading ∧ call.request = some request ∧
      c.challenges request = some challenge ∧ challenge.consumed = true ∧ challenge.young reading
  version1 : l.envelope.claims.attestationVersion ≠ "2" → consumedAt = none

def Valid (call : VerifyCall) (l : Locals) : Prop :=
  validityChecks call.dependencies l.envelope.claims l.now = .ok ()

/-- What a call has established in the phase that it is in. -/
def PhaseHolds (c : Config) (call : VerifyCall) : Prop :=
  match call.phase with
  | .entered | .failed _ => True
  | .found now snapshot | .compared now snapshot => Asked c call now snapshot
  | .trusted l => Trusted c call l
  | .current l => Trusted c call l ∧ l.envelope.claims.attestationVersion = "2"
  | .bound l consumedAt => Trusted c call l ∧ Challenged c call l consumedAt
  | .valid l consumedAt | .returned l consumedAt =>
      Trusted c call l ∧ Challenged c call l consumedAt ∧ Valid call l

/-- The registries of requests and challenges only grow, and a consumed challenge
stays consumed. -/
structure Later (c c' : Config) : Prop where
  requests : ∀ request snapshot, c.requests request = some snapshot →
    c'.requests request = some snapshot
  challenges : ∀ request challenge, c.challenges request = some challenge →
    ∃ challenge', c'.challenges request = some challenge' ∧
      challenge'.issued = challenge.issued ∧
      (challenge.consumed = true → challenge'.consumed = true)

theorem Later.refl (hrequests : c'.requests = c.requests) (hchallenges : c'.challenges = c.challenges) :
    Later c c' := by
  refine ⟨fun request snapshot h => by rwa [hrequests], fun request challenge h => ?_⟩
  rw [hchallenges]
  exact ⟨challenge, h, rfl, id⟩

theorem Asked.mono {call : VerifyCall} {now : Instant} {snapshot : RequestFields}
    (h : Asked c call now snapshot) (hlater : Later c c') : Asked c' call now snapshot := by
  obtain ⟨request, hrequest, hlookup⟩ := h.request
  exact ⟨h.time, request, hrequest, hlater.requests request snapshot hlookup⟩

theorem Trusted.mono {call : VerifyCall} {l : Locals} (h : Trusted c call l)
    (hlater : Later c c') : Trusted c' call l :=
  ⟨h.toAsked.mono hlater, h.parsed, h.trust, h.matching⟩

theorem Challenged.mono {call : VerifyCall} {l : Locals} {consumedAt : Option ℚ}
    (h : Challenged c call l consumedAt) (hlater : Later c c') :
    Challenged c' call l consumedAt := by
  refine ⟨fun hversion => ?_, h.version1⟩
  obtain ⟨reading, request, challenge, hat, hrequest, hlookup, hconsumed, hyoung⟩ :=
    h.version2 hversion
  obtain ⟨challenge', hlookup', hissued, hstays⟩ := hlater.challenges request challenge hlookup
  refine ⟨reading, request, challenge', hat, hrequest, hlookup', hstays hconsumed, ?_⟩
  rw [Challenge.young, hissued]
  exact hyoung

theorem PhaseHolds.mono {call : VerifyCall} (h : PhaseHolds c call) (hlater : Later c c') :
    PhaseHolds c' call := by
  obtain ⟨submitted, request, time, dependencies, phase⟩ := call
  cases phase with
  | entered => trivial
  | failed code => trivial
  | found now snapshot => exact Asked.mono h hlater
  | compared now snapshot => exact Asked.mono h hlater
  | trusted l => exact Trusted.mono h hlater
  | current l => exact ⟨h.1.mono hlater, h.2⟩
  | bound l consumedAt => exact ⟨h.1.mono hlater, h.2.mono hlater⟩
  | valid l consumedAt => exact ⟨h.1.mono hlater, h.2.1.mono hlater, h.2.2⟩
  | returned l consumedAt => exact ⟨h.1.mono hlater, h.2.1.mono hlater, h.2.2⟩

/-- The facts are about the arguments of the call, whatever its phase. -/
theorem Asked.phase {call : VerifyCall} {now : Instant} {snapshot : RequestFields} (phase : Phase)
    (h : Asked c call now snapshot) : Asked c { call with phase } now snapshot :=
  ⟨h.time, h.request⟩

theorem Trusted.phase {call : VerifyCall} {l : Locals} (phase : Phase) (h : Trusted c call l) :
    Trusted c { call with phase } l :=
  ⟨h.toAsked.phase phase, h.parsed, h.trust, h.matching⟩

theorem Challenged.phase {call : VerifyCall} {l : Locals} {consumedAt : Option ℚ} (phase : Phase)
    (h : Challenged c call l consumedAt) : Challenged c { call with phase } l consumedAt :=
  ⟨h.version2, h.version1⟩

theorem PhaseHolds.at_phase {call : VerifyCall} (h : PhaseHolds c call) {phase : Phase}
    (hphase : call.phase = phase) : PhaseHolds c { call with phase } := by
  subst hphase
  exact h

theorem Moves.holds {call : VerifyCall} {phase : Phase} (h : Moves c call phase)
    (hholds : PhaseHolds c call) : PhaseHolds c { call with phase } := by
  cases h with
  | failed _ => trivial
  | found _ hnow hrequest hlookup => exact ⟨hnow, _, hrequest, hlookup⟩
  | compared hphase =>
      have hasked : Asked c _ _ _ := hholds.at_phase hphase
      exact hasked.phase _
  | trusted hphase hparsed htrust hmatch =>
      have hasked : Asked c _ _ _ := hholds.at_phase hphase
      exact ⟨hasked.phase _, hparsed, htrust, hmatch⟩
  | current hphase hversion =>
      have htrusted : Trusted c _ _ := hholds.at_phase hphase
      exact ⟨htrusted.phase _, hversion⟩
  | unbound hphase hversion =>
      have htrusted : Trusted c _ _ := hholds.at_phase hphase
      exact ⟨htrusted.phase _, fun h => absurd h hversion, fun _ => rfl⟩
  | valid hphase hvalid =>
      have hbound : Trusted c _ _ ∧ Challenged c _ _ _ := hholds.at_phase hphase
      exact ⟨hbound.1.phase _, hbound.2.phase _, hvalid⟩

/-! ## The challenge of a request -/

/-- The reading at which a call has consumed a challenge. -/
def consumedReading : Phase → Option ℚ
  | .bound _ consumedAt | .valid _ consumedAt | .returned _ consumedAt => consumedAt
  | _ => none

/-- The request whose challenge a call has consumed. -/
def spent (call : VerifyCall) : Option Nat :=
  (consumedReading call.phase).bind fun _ => call.request

theorem Moves.spent {call : VerifyCall} {phase : Phase} (h : Moves c call phase) {request : Nat}
    (hspent : spent { call with phase } = some request) :
    AttestationSingleUse.spent call = some request := by
  cases h with
  | valid hphase _ => simpa [AttestationSingleUse.spent, consumedReading, hphase] using hspent
  | _ => simp [AttestationSingleUse.spent, consumedReading] at hspent

theorem PhaseHolds.spent {call : VerifyCall} (h : PhaseHolds c call) {request : Nat}
    (hspent : spent call = some request) :
    ∃ challenge, c.challenges request = some challenge ∧ challenge.consumed = true := by
  obtain ⟨reading, hreading, hrequest⟩ := Option.bind_eq_some_iff.mp hspent
  have hchallenged : ∃ l consumedAt, Challenged c call l consumedAt ∧ consumedAt = some reading := by
    obtain ⟨submitted, named, time, dependencies, phase⟩ := call
    cases phase with
    | bound l consumedAt => exact ⟨l, consumedAt, h.2, hreading⟩
    | valid l consumedAt => exact ⟨l, consumedAt, h.2.1, hreading⟩
    | returned l consumedAt => exact ⟨l, consumedAt, h.2.1, hreading⟩
    | _ => cases hreading
  obtain ⟨l, consumedAt, hchallenged, rfl⟩ := hchallenged
  by_cases hversion : l.envelope.claims.attestationVersion = "2"
  · obtain ⟨_, named, challenge, -, hnamed, hlookup, hconsumed, -⟩ := hchallenged.version2 hversion
    obtain rfl := Option.some.inj (hnamed.symm.trans hrequest)
    exact ⟨challenge, hlookup, hconsumed⟩
  · cases hchallenged.version1 hversion

/-! ## The invariant -/

structure Invariant (c : Config) : Prop where
  challenges : ∀ request, c.requests request = none → c.challenges request = none
  phases : ∀ number call, c.verifications number = some call → PhaseHolds c call
  spentOnce : ∀ first call, c.verifications first = some call →
    ∀ second other, c.verifications second = some other →
      ∀ request, spent call = some request → spent other = some request → first = second
  tickets : ∀ ticket record, c.tickets ticket = some record →
    ∃ call l consumedAt token, c.verifications ticket = some call ∧
      call.phase = .returned l consumedAt ∧
      ticketRecord ticket l token = .ok { record with state := .active }
  returned : ∀ number call, c.verifications number = some call →
    ∀ l consumedAt, call.phase = .returned l consumedAt → ∃ record, c.tickets number = some record
  consumed : ∀ number call, c.consumptions number = some call → call.outcome.succeeded = true →
    ∃ record, c.tickets call.ticket = some record ∧ record.state = .consumed
  consumedOnce : ∀ first call, c.consumptions first = some call →
    ∀ second other, c.consumptions second = some other → call.outcome.succeeded = true →
      other.outcome.succeeded = true → call.ticket = other.ticket → first = second
  events : ∀ number ticket, c.events number = some ticket →
    c.consumptions number = some ⟨ticket, .event⟩

theorem initial_invariant : Invariant Config.initial where
  challenges _ _ := rfl
  phases _ _ h := by cases h
  spentOnce _ _ h := by cases h
  tickets _ _ h := by cases h
  returned _ _ h := by cases h
  consumed _ _ h := by cases h
  consumedOnce _ _ h := by cases h
  events _ _ h := by cases h

/-! ## One step keeps it -/

omit [PythonLibrary] [UnicodeLibrary] [ZonedTimeLibrary] in
/-- What holds of the entries of a table and of a new one holds after writing it. -/
theorem forall_update {α : Type} {f : Nat → Option α} {n : Nat} {x : α} {P : Nat → α → Prop}
    (hold : ∀ m y, m ≠ n → f m = some y → P m y) (hnew : P n x) :
    ∀ m y, Function.update f n (some x) m = some y → P m y := by
  intro m y h
  rw [Function.update_apply] at h
  split_ifs at h with hm
  · obtain rfl := Option.some.inj h
    rwa [hm]
  · exact hold m y hm h

omit [PythonLibrary] [UnicodeLibrary] [ZonedTimeLibrary] in
theorem update_ne {α : Type} {f : Nat → Option α} {n m : Nat} {x : Option α} (h : m ≠ n) :
    Function.update f n x m = f m := Function.update_of_ne h x f

omit [PythonLibrary] [UnicodeLibrary] [ZonedTimeLibrary] in
/-- An entry at a free number leaves the others. -/
theorem update_free {α : Type} {f : Nat → Option α} {n m : Nat} {x y : α} (hfree : f n = none)
    (h : f m = some y) : Function.update f n (some x) m = some y := by
  rw [update_ne]
  · exact h
  · rintro rfl
    rw [hfree] at h
    cases h

theorem Later.consume {request : Nat} {challenge : Challenge}
    (hlookup : c.challenges request = some challenge) (hrequests : c'.requests = c.requests)
    (hchallenges : c'.challenges =
      Function.update c.challenges request (some { challenge with consumed := true })) :
    Later c c' := by
  refine ⟨fun _ _ h => by rwa [hrequests], fun other before h => ?_⟩
  rw [hchallenges]
  by_cases hsame : other = request
  · subst hsame
    obtain rfl := Option.some.inj (hlookup.symm.trans h)
    exact ⟨_, Function.update_self .., rfl, fun _ => rfl⟩
  · exact ⟨before, by rwa [update_ne hsame], rfl, id⟩

/-- The registries of a state only grow in a step. -/
theorem Transition.later (h : Transition c c') (hinv : Invariant c) : Later c c' := by
  cases h with
  | created hfree _ =>
      exact ⟨fun request snapshot hlookup => update_free hfree hlookup,
        fun request challenge hlookup =>
          ⟨challenge, update_free (hinv.challenges _ hfree) hlookup, rfl, id⟩⟩
  | bound _ _ _ hlookup _ _ => exact .consume hlookup rfl rfl
  | challengeConsumed hlookup => exact .consume hlookup rfl rfl
  | _ => exact .refl rfl rfl

/-- The calls of a verification after one of them has moved on. -/
structure MovesOn (c c' : Config) (number : Nat) (call call' : VerifyCall) : Prop where
  found : c.verifications number = some call
  written : c'.verifications = Function.update c.verifications number (some call')
  holds : PhaseHolds c' call'
  open_ : ∀ l consumedAt, call.phase ≠ .returned l consumedAt

theorem MovesOn.phases {number : Nat} {call call' : VerifyCall}
    (h : MovesOn c c' number call call') (hinv : Invariant c) (hlater : Later c c') :
    ∀ n other, c'.verifications n = some other → PhaseHolds c' other := by
  rw [h.written]
  exact forall_update (fun n other _ hother => (hinv.phases n other hother).mono hlater) h.holds

/-- A call that has spent no challenge but one it had spent before, or one that was fresh. -/
theorem MovesOn.spentOnce {number : Nat} {call call' : VerifyCall}
    (h : MovesOn c c' number call call') (hinv : Invariant c)
    (hspent : ∀ request, spent call' = some request → spent call = some request ∨
      ∃ challenge, c.challenges request = some challenge ∧ challenge.consumed = false) :
    ∀ first one, c'.verifications first = some one →
      ∀ second other, c'.verifications second = some other →
        ∀ request, spent one = some request → spent other = some request → first = second := by
  have hagainst : ∀ n other, c.verifications n = some other → ∀ request,
      spent call' = some request → spent other = some request → n = number := by
    intro n other hother request hnew hold
    rcases hspent request hnew with hbefore | ⟨challenge, hlookup, hfresh⟩
    · exact hinv.spentOnce n other hother number call h.found request hold hbefore
    · obtain ⟨_, hlookup', hconsumed⟩ := (hinv.phases n other hother).spent hold
      obtain rfl := Option.some.inj (hlookup.symm.trans hlookup')
      rw [hfresh] at hconsumed
      cases hconsumed
  rw [h.written]
  refine forall_update (fun first one hfirst hone => ?_) ?_
  · exact forall_update
      (fun second other _ hother => hinv.spentOnce first one hone second other hother)
      (fun request hold hnew => hagainst first one hone request hnew hold)
  · exact forall_update
      (fun second other _ hother request hnew hold =>
        (hagainst second other hother request hnew hold).symm)
      (fun _ _ _ => rfl)

theorem MovesOn.tickets {number : Nat} {call call' : VerifyCall}
    (h : MovesOn c c' number call call') (hinv : Invariant c) :
    ∀ ticket record, c.tickets ticket = some record →
      ∃ call l consumedAt token, c'.verifications ticket = some call ∧
        call.phase = .returned l consumedAt ∧
        ticketRecord ticket l token = .ok { record with state := .active } := by
  intro ticket record hrecord
  obtain ⟨other, l, consumedAt, token, hother, hphase, hmade⟩ := hinv.tickets ticket record hrecord
  have hne : ticket ≠ number := by
    rintro rfl
    obtain rfl := Option.some.inj (h.found.symm.trans hother)
    exact h.open_ l consumedAt hphase
  exact ⟨other, l, consumedAt, token, by rwa [h.written, update_ne hne], hphase, hmade⟩

/-- A transition that leaves tickets, consumptions and events alone. -/
theorem Invariant.verification (hinv : Invariant c) {number : Nat} {call call' : VerifyCall}
    (h : MovesOn c c' number call call') (hlater : Later c c')
    (hspent : ∀ request, spent call' = some request → spent call = some request ∨
      ∃ challenge, c.challenges request = some challenge ∧ challenge.consumed = false)
    (hfree : ∀ request, c'.requests request = none → c'.challenges request = none)
    (hopen : ∀ l consumedAt, call'.phase ≠ .returned l consumedAt)
    (htickets : c'.tickets = c.tickets) (hconsumptions : c'.consumptions = c.consumptions)
    (hevents : c'.events = c.events) : Invariant c' where
  challenges := hfree
  phases := h.phases hinv hlater
  spentOnce := h.spentOnce hinv hspent
  tickets := by
    rw [htickets]
    exact h.tickets hinv
  returned := by
    rw [h.written, htickets]
    exact forall_update (fun n other _ hother => hinv.returned n other hother)
      (fun l consumedAt hphase => absurd hphase (hopen l consumedAt))
  consumed := by
    rw [hconsumptions, htickets]
    exact hinv.consumed
  consumedOnce := by
    rw [hconsumptions]
    exact hinv.consumedOnce
  events := by
    rw [hevents, hconsumptions]
    exact hinv.events

theorem Moves.open_ {call : VerifyCall} {phase : Phase} (h : Moves c call phase) :
    (∀ l consumedAt, call.phase ≠ .returned l consumedAt) ∧
      ∀ l consumedAt, phase ≠ .returned l consumedAt := by
  cases h with
  | failed hopen => exact ⟨hopen, by simp⟩
  | found hphase _ _ _ | compared hphase | trusted hphase _ _ _ | current hphase _
  | unbound hphase _ | valid hphase _ => simp [hphase]

/-- A ticket is registered under the number of a call that had none. -/
theorem Invariant.registered (hinv : Invariant c) {number : Nat} {call : VerifyCall} {l : Locals}
    {consumedAt : Option ℚ} {token : String} {record : TicketRecord}
    (hcall : c.verifications number = some call) (hphase : call.phase = .valid l consumedAt)
    (hrecord : ticketRecord number l token = .ok record)
    (hrequests : c'.requests = c.requests) (hchallenges : c'.challenges = c.challenges)
    (htickets : c'.tickets = Function.update c.tickets number (some record))
    (hverifications : c'.verifications = Function.update c.verifications number
      (some { call with phase := .returned l consumedAt }))
    (hconsumptions : c'.consumptions = c.consumptions) (hevents : c'.events = c.events) :
    Invariant c' := by
  have hlater : Later c c' := .refl hrequests hchallenges
  have hvalid : Trusted c call l ∧ Challenged c call l consumedAt ∧
      AttestationSingleUse.Valid call l := by
    have hholds := hinv.phases number call hcall
    rw [PhaseHolds, hphase] at hholds
    exact hholds
  have hmoves : MovesOn c c' number call { call with phase := .returned l consumedAt } :=
    ⟨hcall, hverifications, ⟨(hvalid.1.phase _).mono hlater, (hvalid.2.1.phase _).mono hlater,
      hvalid.2.2⟩, by simp [hphase]⟩
  -- The call had not returned, so its number is free among the tickets.
  have hnone : c.tickets number = none := by
    rw [Option.eq_none_iff_forall_ne_some]
    intro before hbefore
    obtain ⟨other, _, _, _, hother, hreturned, -⟩ := hinv.tickets number before hbefore
    obtain rfl := Option.some.inj (hcall.symm.trans hother)
    rw [hphase] at hreturned
    cases hreturned
  have hmade : ticketRecord number l token = .ok { record with state := .active } := by
    rw [hrecord]
    simp only [ticketRecord, bind_eq_ok, pure_eq_ok] at hrecord
    obtain ⟨_, -, payload, -, rfl⟩ := hrecord
    rfl
  refine
    { challenges := ?_
      phases := hmoves.phases hinv hlater
      spentOnce := hmoves.spentOnce hinv fun request h => .inl ?_
      tickets := ?_
      returned := ?_
      consumed := ?_
      consumedOnce := ?_
      events := ?_ }
  · rw [hrequests, hchallenges]
    exact hinv.challenges
  · simpa [spent, consumedReading, hphase] using h
  · rw [htickets]
    refine forall_update (fun n before _ hbefore => hmoves.tickets hinv n before hbefore)
      ⟨{ call with phase := .returned l consumedAt }, l, consumedAt, token, ?_, rfl, hmade⟩
    rw [hverifications, Function.update_self]
  · rw [hverifications, htickets]
    refine forall_update (fun n other hne hother l' r hreturned => ?_)
      (fun _ _ _ => ⟨record, Function.update_self ..⟩)
    obtain ⟨before, hbefore⟩ := hinv.returned n other hother l' r hreturned
    exact ⟨before, by rwa [update_ne hne]⟩
  · rw [hconsumptions, htickets]
    intro n other hother hsucceeded
    obtain ⟨before, hbefore, hstate⟩ := hinv.consumed n other hother hsucceeded
    exact ⟨before, update_free hnone hbefore, hstate⟩
  · rw [hconsumptions]
    exact hinv.consumedOnce
  · rw [hevents, hconsumptions]
    exact hinv.events

/-- The tickets after a call that may have consumed one. -/
structure Consumed (c c' : Config) (call : ConsumeCall) : Prop where
  kept : ∀ ticket record, c.tickets ticket = some record → ∃ state,
    c'.tickets ticket = some { record with state } ∧ (record.state = .consumed → state = .consumed)
  back : ∀ ticket record, c'.tickets ticket = some record → ∃ state,
    c.tickets ticket = some { record with state }
  taken : call.outcome.succeeded = true → ∃ record, c.tickets call.ticket = some record ∧
    record.state = .active ∧ c'.tickets call.ticket = some { record with state := .consumed }

theorem Consumed.take {ticket : Nat} {record : TicketRecord} {outcome : ConsumeOutcome}
    (hrecord : c.tickets ticket = some record) (hactive : record.state = .active)
    (htickets : c'.tickets =
      Function.update c.tickets ticket (some { record with state := .consumed })) :
    Consumed c c' ⟨ticket, outcome⟩ := by
  refine ⟨fun other before hbefore => ?_, fun other before hbefore => ?_,
    fun _ => ⟨record, hrecord, hactive, by rw [htickets, Function.update_self]⟩⟩
  · rw [htickets]
    by_cases hsame : other = ticket
    · subst hsame
      obtain rfl := Option.some.inj (hrecord.symm.trans hbefore)
      exact ⟨.consumed, Function.update_self .., fun _ => rfl⟩
    · exact ⟨before.state, by rwa [update_ne hsame], id⟩
  · rw [htickets] at hbefore
    by_cases hsame : other = ticket
    · subst hsame
      rw [Function.update_self] at hbefore
      obtain rfl := Option.some.inj hbefore
      exact ⟨record.state, hrecord⟩
    · rw [update_ne hsame] at hbefore
      exact ⟨before.state, hbefore⟩

/-- A ticket with an earlier consumer is not active, so a new consumer has another one. -/
theorem Consumed.other {call : ConsumeCall} (h : Consumed c c' call) (hinv : Invariant c)
    {n : Nat} {other : ConsumeCall} (hother : c.consumptions n = some other)
    (hsucceeded : other.outcome.succeeded = true) (hnew : call.outcome.succeeded = true) :
    call.ticket ≠ other.ticket := by
  intro hsame
  obtain ⟨record, hrecord, hactive, -⟩ := h.taken hnew
  obtain ⟨before, hbefore, hconsumed⟩ := hinv.consumed n other hother hsucceeded
  rw [← hsame] at hbefore
  obtain rfl := Option.some.inj (hrecord.symm.trans hbefore)
  rw [hactive] at hconsumed
  cases hconsumed

theorem Invariant.consumption (hinv : Invariant c) {number : Nat} {call : ConsumeCall}
    (hfree : c.consumptions number = none) (hconsumed : Consumed c c' call)
    (hlater : Later c c') (hchallenges : ∀ request, c'.requests request = none →
      c'.challenges request = none) (hverifications : c'.verifications = c.verifications)
    (hconsumptions : c'.consumptions = Function.update c.consumptions number (some call))
    (hevents : c'.events = c.events) : Invariant c' := by
  refine
    { challenges := hchallenges
      phases := ?_
      spentOnce := ?_
      tickets := fun ticket record hrecord => ?_
      returned := ?_
      consumed := ?_
      consumedOnce := ?_
      events := ?_ }
  · rw [hverifications]
    exact fun n other h => (hinv.phases n other h).mono hlater
  · rw [hverifications]
    exact hinv.spentOnce
  · obtain ⟨state, hbefore⟩ := hconsumed.back ticket record hrecord
    rw [hverifications]
    have hmade := hinv.tickets ticket { record with state } hbefore
    exact hmade
  · rw [hverifications]
    intro n other h l consumedAt hphase
    obtain ⟨record, hrecord⟩ := hinv.returned n other h l consumedAt hphase
    obtain ⟨state, hafter, -⟩ := hconsumed.kept _ record hrecord
    exact ⟨_, hafter⟩
  · rw [hconsumptions]
    refine forall_update (fun n other _ hlookup hsucceeded => ?_) fun hsucceeded => ?_
    · obtain ⟨record, hrecord, hstate⟩ := hinv.consumed n other hlookup hsucceeded
      obtain ⟨state, hafter, hstays⟩ := hconsumed.kept _ record hrecord
      exact ⟨_, hafter, hstays hstate⟩
    · obtain ⟨record, -, -, hafter⟩ := hconsumed.taken hsucceeded
      exact ⟨_, hafter, rfl⟩
  · rw [hconsumptions]
    refine forall_update (fun first one _ hone => ?_) ?_
    · exact forall_update
        (fun second other _ hsecond => hinv.consumedOnce first one hone second other hsecond)
        (fun hsucceeded hnew hsame =>
          absurd hsame.symm (hconsumed.other hinv hone hsucceeded hnew))
    · exact forall_update
        (fun second other _ hsecond hnew hsucceeded hsame =>
          absurd hsame (hconsumed.other hinv hsecond hsucceeded hnew))
        (fun _ _ _ => rfl)
  · rw [hevents, hconsumptions]
    exact fun n ticket h => update_free hfree (hinv.events n ticket h)

theorem Invariant.evented (hinv : Invariant c) {number ticket : Nat}
    (htaken : c.consumptions number = some ⟨ticket, .taken⟩)
    (hlater : Later c c') (hchallenges : ∀ request, c'.requests request = none →
      c'.challenges request = none) (hverifications : c'.verifications = c.verifications)
    (htickets : c'.tickets = c.tickets)
    (hconsumptions : c'.consumptions =
      Function.update c.consumptions number (some ⟨ticket, .event⟩))
    (hevents : c'.events = Function.update c.events number (some ticket)) : Invariant c' := by
  have htook := hinv.consumedOnce number _ htaken
  refine
    { challenges := hchallenges
      phases := ?_
      spentOnce := ?_
      tickets := ?_
      returned := ?_
      consumed := ?_
      consumedOnce := ?_
      events := ?_ }
  · rw [hverifications]
    exact fun n other h => (hinv.phases n other h).mono hlater
  · rw [hverifications]
    exact hinv.spentOnce
  · rw [hverifications, htickets]
    exact hinv.tickets
  · rw [hverifications, htickets]
    exact hinv.returned
  · rw [hconsumptions, htickets]
    exact forall_update (fun n other _ => hinv.consumed n other)
      fun _ => hinv.consumed number ⟨ticket, .taken⟩ htaken rfl
  · rw [hconsumptions]
    refine forall_update (fun first one _ hone => ?_) ?_
    · exact forall_update
        (fun second other _ hsecond => hinv.consumedOnce first one hone second other hsecond)
        (fun hsucceeded _ hsame => (htook first one hone rfl hsucceeded hsame.symm).symm)
    · exact forall_update
        (fun second other _ hsecond _ hsucceeded hsame =>
          htook second other hsecond rfl hsucceeded hsame)
        (fun _ _ _ => rfl)
  · rw [hevents, hconsumptions]
    refine forall_update (fun n other hne h => ?_) (Function.update_self ..)
    rw [update_ne hne]
    exact hinv.events n other h

/-- A transition that leaves calls, tickets and events alone. -/
theorem Invariant.quiet (hinv : Invariant c) (hlater : Later c c')
    (hchallenges : ∀ request, c'.requests request = none → c'.challenges request = none)
    (hverifications : c'.verifications = c.verifications) (htickets : c'.tickets = c.tickets)
    (hconsumptions : c'.consumptions = c.consumptions) (hevents : c'.events = c.events) :
    Invariant c' where
  challenges := hchallenges
  phases := by
    rw [hverifications]
    exact fun n other h => (hinv.phases n other h).mono hlater
  spentOnce := by
    rw [hverifications]
    exact hinv.spentOnce
  tickets := by
    rw [hverifications, htickets]
    exact hinv.tickets
  returned := by
    rw [hverifications, htickets]
    exact hinv.returned
  consumed := by
    rw [hconsumptions, htickets]
    exact hinv.consumed
  consumedOnce := by
    rw [hconsumptions]
    exact hinv.consumedOnce
  events := by
    rw [hevents, hconsumptions]
    exact hinv.events

/-- A call of `verify` that begins has established nothing. -/
theorem Invariant.began (hinv : Invariant c) {number : Nat} {call : VerifyCall}
    (hfree : c.verifications number = none) (hphase : call.phase = .entered) :
    Invariant { c with verifications := Function.update c.verifications number (some call) } where
  challenges := hinv.challenges
  phases := forall_update
    (fun n other _ h => (hinv.phases n other h).mono (.refl rfl rfl))
    (by rw [PhaseHolds, hphase]; trivial)
  spentOnce := by
    have hnone : ∀ request, spent call ≠ some request := by
      simp [spent, consumedReading, hphase]
    refine forall_update (fun first one _ hone => ?_) ?_
    · exact forall_update
        (fun second other _ hsecond => hinv.spentOnce first one hone second other hsecond)
        (fun request _ h => absurd h (hnone request))
    · exact forall_update (fun _ _ _ _ request h => absurd h (hnone request))
        (fun request h => absurd h (hnone request))
  tickets ticket record hrecord := by
    obtain ⟨other, l, consumedAt, token, hother, hmade⟩ := hinv.tickets ticket record hrecord
    exact ⟨other, l, consumedAt, token, update_free hfree hother, hmade⟩
  returned := forall_update (fun n other _ h => hinv.returned n other h)
    (fun l consumedAt h => by rw [hphase] at h; cases h)
  consumed := hinv.consumed
  consumedOnce := hinv.consumedOnce
  events := hinv.events

theorem challenges_update {request : Nat} {challenge challenge' : Challenge}
    (hinv : Invariant c) (hlookup : c.challenges request = some challenge) :
    ∀ other, c.requests other = none →
      Function.update c.challenges request (some challenge') other = none := by
  intro other hnone
  rw [update_ne]
  · exact hinv.challenges other hnone
  · rintro rfl
    rw [hinv.challenges other hnone] at hlookup
    cases hlookup

/-- The step lemma. -/
theorem Transition.invariant (h : Transition c c') (hinv : Invariant c) : Invariant c' := by
  have hlater := h.later hinv
  cases h with
  | objects => exact hinv.quiet hlater hinv.challenges rfl rfl rfl rfl
  | @created number policy values challenge reading snapshot hfree _ =>
      refine hinv.quiet hlater (fun request hrequest => ?_) rfl rfl rfl rfl
      by_cases hsame : request = number
      · subst hsame
        exact absurd hrequest (by simp)
      · simp only [ne_eq, hsame, not_false_eq_true, Function.update_of_ne] at hrequest ⊢
        exact hinv.challenges request hrequest
  | began hfree hphase => exact hinv.began hfree hphase
  | moved hcall hmoves =>
      exact hinv.verification ⟨hcall, rfl, (hmoves.holds (hinv.phases _ _ hcall)).mono hlater,
        hmoves.open_.1⟩ hlater (fun _ hspent => .inl (hmoves.spent hspent)) hinv.challenges
        hmoves.open_.2 rfl rfl rfl
  | @bound number request call l challenge reading hcall hphase hrequest hlookup hfresh hyoung =>
      have hcurrent : Trusted c call l ∧ l.envelope.claims.attestationVersion = "2" := by
        have hholds := hinv.phases number call hcall
        rw [PhaseHolds, hphase] at hholds
        exact hholds
      refine hinv.verification ⟨hcall, rfl, ⟨(hcurrent.1.phase _).mono hlater,
        ⟨fun _ => ⟨reading, request, _, rfl, hrequest, Function.update_self .., rfl, hyoung⟩,
          fun hversion => absurd hcurrent.2 hversion⟩⟩, by simp [hphase]⟩ hlater
        (fun other hspent => .inr ?_) (challenges_update hinv hlookup) (by simp) rfl rfl rfl
      obtain rfl : request = other := by
        simpa [spent, consumedReading, hrequest] using hspent
      exact ⟨challenge, hlookup, hfresh⟩
  | registered hcall hphase hrecord =>
      exact hinv.registered hcall hphase hrecord rfl rfl rfl rfl rfl rfl
  | challengeConsumed hlookup =>
      exact hinv.quiet hlater (challenges_update hinv hlookup) rfl rfl rfl rfl
  | @took number ticket record outcome hfree hrecord hactive _ =>
      exact hinv.consumption hfree (.take hrecord hactive rfl) hlater hinv.challenges rfl rfl rfl
  | refused hfree =>
      exact hinv.consumption hfree ⟨fun _ record h => ⟨record.state, h, id⟩,
        fun _ record h => ⟨record.state, h⟩, by simp [ConsumeOutcome.succeeded]⟩ hlater
        hinv.challenges rfl rfl rfl
  | evented htaken _ => exact hinv.evented htaken hlater hinv.challenges rfl rfl rfl rfl

/-- The run lemma. -/
theorem run_invariant (actions : List Action) : Invariant (run actions) := by
  have hfold : ∀ c, Invariant c → Invariant (actions.foldl Config.step c) := by
    induction actions with
    | nil => exact fun c h => h
    | cons a rest ih => exact fun c h => ih _ ((step_transition c a).invariant h)
  exact hfold _ initial_invariant

/-! ## Requests come from their creation -/

theorem advance_requests (c : Config) (number : Nat) (call : VerifyCall) (reading : ℚ)
    (token : String) : (c.advance number call reading token).requests = c.requests := by
  unfold Config.advance
  split
  case h_5 =>
    unfold Config.bindChallenge
    split
    · rfl
    · split <;> rfl
  case h_7 =>
    unfold Config.registerTicket
    split <;> rfl
  all_goals rfl

/-- Only its creation enters a request. -/
theorem step_requests {a : Action} {request : Nat} {snapshot : RequestFields}
    (h : (c.step a).requests request = some snapshot) :
    c.requests request = some snapshot ∨
      c.requests request = none ∧ ∃ policy values challenge reading,
        a = .createRequest request policy values challenge reading ∧
          requestSnapshot policy values challenge = .ok snapshot ∧
          (c.step a).challenges request = some ⟨reading, false⟩ := by
  cases a with
  | createRequest number policy values challenge reading =>
      simp only [Config.step, Config.createRequest] at h ⊢
      split at h
      · rename_i made hfree hmade
        have h : Function.update c.requests number (some made) request = some snapshot := h
        by_cases hsame : request = number
        · subst hsame
          rw [Function.update_self] at h
          obtain rfl := Option.some.inj h
          exact .inr ⟨hfree, policy, values, challenge, reading, rfl, hmade,
            Function.update_self ..⟩
        · rw [update_ne hsame] at h
          exact .inl h
      · exact .inl h
  | verify number submitted request time dependencies =>
      simp only [Config.step, Config.beginVerify] at h
      split at h <;> exact .inl h
  | advance number reading token =>
      simp only [Config.step] at h
      split at h
      · rw [advance_requests] at h
        exact .inl h
      · exact .inl h
  | consumeChallenge request reading =>
      simp only [Config.step, Config.consumeChallenge] at h
      split at h <;> exact .inl h
  | consumeTicket number ticket | takeRecord number ticket =>
      simp only [Config.step, Config.consume] at h
      split at h <;> exact .inl h
  | registerEvent number =>
      simp only [Config.step, Config.registerEvent] at h
      split at h
      · split at h <;> exact .inl h
      · exact .inl h
  | tamperRequest | tamperClaims | tamperEnvelope | tamperEvent => exact .inl h

/-- A request was entered by its creation, with the snapshot taken there and the
reading at which its challenge was issued. -/
def CreatedIn (actions : List Action) (c : Config) : Prop :=
  ∀ request snapshot, c.requests request = some snapshot →
    ∃ before policy values challenge reading after,
      actions = before ++ .createRequest request policy values challenge reading :: after ∧
      requestSnapshot policy values challenge = .ok snapshot ∧
      (run before).requests request = none ∧
      ∃ state, c.challenges request = some state ∧ state.issued = reading

theorem run_concat (actions : List Action) (a : Action) :
    run (actions ++ [a]) = (run actions).step a := List.foldl_concat ..

theorem run_created (actions : List Action) : CreatedIn actions (run actions) := by
  induction actions using List.reverseRecOn with
  | nil => exact fun request snapshot h => by cases h
  | append_singleton actions a ih =>
      intro request snapshot h
      rw [run_concat] at h ⊢
      rcases step_requests h with hold |
        ⟨hfree, policy, values, challenge, reading, rfl, hsnapshot, hchallenge⟩
      · obtain ⟨before, policy, values, challenge, reading, after, hactions, hsnapshot, hfree,
          state, hstate, hissued⟩ := ih request snapshot hold
        have hlater := (step_transition (run actions) a).later (run_invariant actions)
        obtain ⟨state', hstate', hissued', -⟩ := hlater.challenges request state hstate
        refine ⟨before, policy, values, challenge, reading, after ++ [a], ?_, hsnapshot, hfree,
          state', hstate', hissued'.trans hissued⟩
        rw [hactions, List.append_assoc, List.cons_append]
      · exact ⟨actions, policy, values, challenge, reading, [], rfl, hsnapshot, hfree, _,
          hchallenge, rfl⟩

end

/-! ## The text of claims determines them -/

section
variable [PythonLibrary] [UnicodeLibrary] [ZonedTimeLibrary] [TimestampLibrary]
  [LawfulTextLibrary] [LawfulZonedTimeLibrary] [LawfulDigestLibrary]

theorem claimsText_eq (claims : CredentialCapabilityAttestationClaims) :
    claimsText claims.toClaimsFields = .ok (dumps (.dict claims.canonicalPayload)) := by
  simp only [claimsText, bind_eq_ok, pure_eq_ok]
  exact ⟨_, claims.sound.normalize, rfl⟩

omit [TimestampLibrary] [LawfulTextLibrary] [LawfulZonedTimeLibrary] [LawfulDigestLibrary] in
theorem names_unique {raw : Dict} {f g : ClaimsFields} (hf : Names raw f) (hg : Names raw g)
    (hfvalid : f.Valid) (hgvalid : g.Valid) : f = g := by
  have htext : ∀ {s t : String} {key : String}, raw.get key = .str s → raw.get key = .str t →
      s = t := fun hs ht => Value.str.inj (hs.symm.trans ht)
  have hversion := htext hf.version hg.version
  have hgranted : f.grantedCapabilities = g.grantedCapabilities :=
    List.map_injective_iff.mpr (fun _ _ => Value.str.inj)
      (Option.some.inj (hf.granted.symm.trans hg.granted))
  have hrevision := Value.int.inj (hf.revision.symm.trans hg.revision)
  have hextension : f.challengeDigest = g.challengeDigest ∧
      f.credentialPrincipalIdentity = g.credentialPrincipalIdentity := by
    by_cases htwo : f.attestationVersion = "2"
    · obtain ⟨hchallenge, hprincipal⟩ := hf.extended htwo
      obtain ⟨hchallenge', hprincipal'⟩ := hg.extended (hversion ▸ htwo)
      exact ⟨htext hchallenge hchallenge', htext hprincipal hprincipal'⟩
    · have hbare : ∀ h : ClaimsFields, h.Valid → h.attestationVersion ≠ "2" →
          h.challengeDigest = "" ∧ h.credentialPrincipalIdentity = "" := fun h hvalid hone =>
        (hvalid.extension.resolve_right fun hcase => hone hcase.1).2
      obtain ⟨hchallenge, hprincipal⟩ := hbare f hfvalid htwo
      obtain ⟨hchallenge', hprincipal'⟩ := hbare g hgvalid (hversion ▸ htwo)
      exact ⟨hchallenge.trans hchallenge'.symm, hprincipal.trans hprincipal'.symm⟩
  have hattestation := htext hf.attestation hg.attestation
  have hissuer := htext hf.issuer hg.issuer
  have hkey := htext hf.key hg.key
  have halgorithm := htext hf.algorithm hg.algorithm
  have hclass := htext hf.credentialClass hg.credentialClass
  have hcredential := htext hf.credential hg.credential
  have hsubject := htext hf.subject hg.subject
  have hrepository := htext hf.repository hg.repository
  have hdriver := htext hf.driver hg.driver
  have hauthority := htext hf.authority hg.authority
  have hpreview := htext hf.preview hg.preview
  have hoperations := htext hf.operations hg.operations
  have hsnapshot := htext hf.snapshot hg.snapshot
  have hevidence := htext hf.evidence hg.evidence
  have hissued := htext hf.issuedAt hg.issuedAt
  have hexpires := htext hf.expiresAt hg.expiresAt
  have hnonce := htext hf.nonce hg.nonce
  have hsource := htext hf.source hg.source
  cases f
  cases g
  simp_all only

/-- Claims that the constructor made and that have one canonical text are the same. -/
theorem claims_of_text {a b : CredentialCapabilityAttestationClaims}
    (h : claimsText a.toClaimsFields = claimsText b.toClaimsFields) : a = b := by
  rw [claimsText_eq, claimsText_eq, Except.ok.injEq] at h
  have hkeeps := AuthorityIssuance.rejectDuplicatePairs_keeps
  have hread := congrArg (loads AuthorityBindingStores.rejectDuplicatePairs) h
  rw [loads_dumps hkeeps (canonicalPayload_plain _), loads_dumps hkeeps (canonicalPayload_plain _),
    Option.some.injEq, Value.dict.injEq, canonicalPayload_eq, canonicalPayload_eq] at hread
  simp only [List.cons.injEq, Prod.mk.injEq, Value.dict.injEq, true_and] at hread
  have hsame : a.toClaimsFields = b.toClaimsFields :=
    names_unique (hread.1 ▸ claimsEntries_names _) (claimsEntries_names _) a.sound.toValid
      b.sound.toValid
  cases a
  cases b
  cases hsame
  rfl

/-! ## Every interleaving -/

/-- A ticket with everything that was checked for it: the call of `verify` that
returned it, the claims of the envelope that the call was given, the snapshot of
its request, and what the dependencies answered the call. -/
structure Issued (c : Config) (ticket : Nat) (record : TicketRecord) (call : VerifyCall)
    (l : Locals) (consumedAt : Option ℚ) : Prop where
  found : c.verifications ticket = some call
  phase : call.phase = .returned l consumedAt
  time : call.time = some ⟨l.now, 0⟩
  parsed : parseUntrustedSignedAttestation call.submitted = .ok l.envelope
  request : ∃ request, call.request = some request ∧ c.requests request = some l.snapshot
  matching : requestMismatch l.envelope.claims.toClaimsFields l.snapshot = none
  vouched : Vouched call.dependencies l.envelope.claims l.envelope.proof l.now
  objects : record.claims = ticket ∧ record.envelope = ticket
  payload : claimsText l.envelope.claims.toClaimsFields = .ok record.claimsPayload
  proof : record.envelopeProof = l.envelope.proof

/-- The event and the objects it refers to are those of the verification, with
the claims and the proof that it verified. -/
structure Unchanged (c : Config) (event ticket : Nat) (record : TicketRecord)
    (envelope : SignedCredentialCapabilityAttestation) : Prop where
  event : c.eventObjects event =
    some ⟨ticket, ticket, record.verifiedAt, record.eventId⟩
  claims : ∃ fields, c.claimsObjects ticket = some fields ∧
    claimsText fields = claimsText envelope.claims.toClaimsFields ∧
    ∀ made : CredentialCapabilityAttestationClaims, fields = made.toClaimsFields →
      made = envelope.claims
  envelope : ∃ object fields, c.envelopeObjects ticket = some object ∧
    object.proof = .str envelope.proof ∧ c.claimsObjects object.claims = some fields ∧
    claimsText fields = claimsText envelope.claims.toClaimsFields ∧
    ∀ made : CredentialCapabilityAttestationClaims, fields = made.toClaimsFields →
      made = envelope.claims

structure SoundAndSingleUse (actions : List Action) (c : Config) : Prop where
  /-- A ticket is returned only for claims that every check accepted. -/
  sound : ∀ number call l consumedAt, c.verifications number = some call →
    call.phase = .returned l consumedAt →
      ∃ record, c.tickets number = some record ∧ Issued c number record call l consumedAt
  /-- Every ticket was returned by its call. -/
  returned : ∀ ticket record, c.tickets ticket = some record →
    ∃ call l consumedAt, Issued c ticket record call l consumedAt
  /-- A snapshot is the one taken when its request was created. -/
  snapshots : CreatedIn actions c
  /-- Two calls that got tickets for version 2 claims had different requests. -/
  single : ∀ first one l a second other m b,
    c.verifications first = some one → one.phase = .returned l a →
    c.verifications second = some other → other.phase = .returned m b →
    l.envelope.claims.attestationVersion = "2" → m.envelope.claims.attestationVersion = "2" →
    one.request = other.request → first = second
  /-- A ticket for version 2 claims consumed the challenge of its request in time. -/
  young : ∀ number call l consumedAt, c.verifications number = some call →
    call.phase = .returned l consumedAt → l.envelope.claims.attestationVersion = "2" →
      ∃ reading request challenge, consumedAt = some reading ∧ call.request = some request ∧
        c.challenges request = some challenge ∧ challenge.consumed = true ∧
        reading - challenge.issued < 300
  /-- A ticket has at most one successful consumer. -/
  once : ∀ first one second other, c.consumptions first = some one →
    c.consumptions second = some other → one.outcome.succeeded = true →
      other.outcome.succeeded = true → one.ticket = other.ticket → first = second
  /-- An accepted event was made by consuming a ticket and is as it was made. -/
  accepted : ∀ event, c.acceptsVerifiedEvent event = true →
    ∃ ticket record call l consumedAt, c.consumptions event = some ⟨ticket, .event⟩ ∧
      c.tickets ticket = some record ∧ record.state = .consumed ∧
      Issued c ticket record call l consumedAt ∧ Unchanged c event ticket record l.envelope

omit [PythonLibrary] [UnicodeLibrary] [ZonedTimeLibrary] [TimestampLibrary] [LawfulTextLibrary]
  [LawfulZonedTimeLibrary] [LawfulDigestLibrary] in
theorem currentTime_eq_ok {t : Option ZonedDatetime} {now : Instant} :
    currentTime t = .ok now ↔ t = some ⟨now, 0⟩ := by
  simp only [currentTime, bind_eq_ok, orRaise_eq_ok, require_eq_ok, pure_eq_ok]
  constructor
  · rintro ⟨⟨instant, offset⟩, rfl, _, hoffset, rfl⟩
    obtain rfl : offset = 0 := hoffset
    rfl
  · rintro rfl
    exact ⟨_, rfl, (), rfl, rfl⟩

theorem vouched_of_checks {d : BoundaryDependencies}
    {envelope : SignedCredentialCapabilityAttestation} {now : Instant}
    (htrust : trustChecks d envelope = .ok ()) (hvalid : validityChecks d envelope.claims now = .ok ()) :
    Vouched d envelope.claims envelope.proof now := by
  obtain ⟨hversion, halgorithm, hissuer, hsignature, hcapabilities⟩ := trustChecks_eq_ok.mp htrust
  obtain ⟨hwindow, hrevocation⟩ := validityChecks_eq_ok.mp hvalid
  exact ⟨hversion, halgorithm, hissuer, hsignature, hcapabilities, hwindow, hrevocation⟩

theorem Invariant.issued {c : Config} (hinv : Invariant c) {ticket : Nat} {record : TicketRecord}
    (hrecord : c.tickets ticket = some record) :
    ∃ call l consumedAt, Issued c ticket record call l consumedAt := by
  obtain ⟨call, l, consumedAt, token, hcall, hphase, hmade⟩ := hinv.tickets ticket record hrecord
  have hholds : Trusted c call l ∧ Challenged c call l consumedAt ∧
      AttestationSingleUse.Valid call l := by
    have hholds := hinv.phases ticket call hcall
    rw [PhaseHolds, hphase] at hholds
    exact hholds
  obtain ⟨htrusted, -, hvalid⟩ := hholds
  simp only [ticketRecord, bind_eq_ok, pure_eq_ok, TicketRecord.mk.injEq, and_true] at hmade
  obtain ⟨_, -, payload, hpayload, hclaims, henvelope, rfl, hproof, -, -⟩ := hmade
  exact ⟨call, l, consumedAt,
    { found := hcall
      phase := hphase
      time := currentTime_eq_ok.mp htrusted.time
      parsed := htrusted.parsed
      request := htrusted.request
      matching := htrusted.matching
      vouched := vouched_of_checks htrusted.trust hvalid
      objects := ⟨hclaims.symm, henvelope.symm⟩
      payload := hpayload
      proof := hproof.symm }⟩

theorem claims_unchanged {fields : ClaimsFields} {claims : CredentialCapabilityAttestationClaims}
    {payload : String} (hnow : claimsText fields = .ok payload)
    (hthen : claimsText claims.toClaimsFields = .ok payload) :
    claimsText fields = claimsText claims.toClaimsFields ∧
      ∀ made : CredentialCapabilityAttestationClaims, fields = made.toClaimsFields →
        made = claims := by
  refine ⟨hnow.trans hthen.symm, ?_⟩
  rintro made rfl
  exact claims_of_text (hnow.trans hthen.symm)

theorem Invariant.accepted {c : Config} (hinv : Invariant c) {event : Nat}
    (h : c.acceptsVerifiedEvent event = true) :
    ∃ ticket record call l consumedAt, c.consumptions event = some ⟨ticket, .event⟩ ∧
      c.tickets ticket = some record ∧ record.state = .consumed ∧
      Issued c ticket record call l consumedAt ∧ Unchanged c event ticket record l.envelope := by
  unfold Config.acceptsVerifiedEvent at h
  split at h
  · rename_i object record hobject hfound
    obtain ⟨ticket, hticket, hrecord⟩ := Option.bind_eq_some_iff.mp hfound
    have hevent := hinv.events event ticket hticket
    obtain ⟨consumed, hconsumed, hstate⟩ := hinv.consumed event _ hevent rfl
    obtain rfl := Option.some.inj (hrecord.symm.trans hconsumed)
    obtain ⟨call, l, consumedAt, hissued⟩ := hinv.issued hrecord
    obtain ⟨henvelope, hclaims, htext, hnested, hproof, hat, hid⟩ := of_decide_eq_true h
    obtain ⟨hclaimsObject, henvelopeObject⟩ := hissued.objects
    rw [henvelopeObject] at hnested hproof henvelope
    rw [hclaimsObject] at htext hclaims
    obtain ⟨fields, hfields, hnow⟩ := Option.map_eq_some_iff.mp htext
    obtain ⟨nested, hnestedFound, hnestedNow⟩ := Option.map_eq_some_iff.mp hnested
    obtain ⟨envelope, henvelopeFound, hnestedClaims⟩ := Option.bind_eq_some_iff.mp hnestedFound
    rw [henvelopeFound, Option.map_some, Option.some.injEq, hissued.proof] at hproof
    refine ⟨ticket, record, call, l, consumedAt, hevent, hrecord, hstate, hissued, ?_, ?_, ?_⟩
    · rw [hobject, ← hat, ← hid, ← henvelope]
      obtain ⟨_, _, _, _⟩ := object
      cases hclaims
      cases henvelope
      rfl
    · exact ⟨fields, hfields, claims_unchanged hnow hissued.payload⟩
    · exact ⟨envelope, nested, henvelopeFound, hproof, hnestedClaims,
        claims_unchanged hnestedNow hissued.payload⟩
  · cases h

/-- Whatever the interleaving, tickets are issued soundly and used once. -/
theorem boundary_sound_and_single_use (actions : List Action) :
    SoundAndSingleUse actions (run actions) := by
  have hinv := run_invariant actions
  have hchallenged : ∀ number call l consumedAt, (run actions).verifications number = some call →
      call.phase = .returned l consumedAt → Challenged (run actions) call l consumedAt := by
    intro number call l consumedAt hcall hphase
    have hholds := hinv.phases number call hcall
    rw [PhaseHolds, hphase] at hholds
    exact hholds.2.1
  refine
    { sound := fun number call l consumedAt hcall hphase => ?_
      returned := fun ticket record hrecord => hinv.issued hrecord
      snapshots := run_created actions
      single := ?_
      young := fun number call l consumedAt hcall hphase hversion =>
        (hchallenged number call l consumedAt hcall hphase).version2 hversion
      once := fun first one second other hone hother =>
        hinv.consumedOnce first one hone second other hother
      accepted := fun event h => hinv.accepted h }
  · obtain ⟨record, hrecord⟩ := hinv.returned number call hcall l consumedAt hphase
    obtain ⟨call', l', consumedAt', hissued⟩ := hinv.issued hrecord
    obtain rfl := Option.some.inj (hcall.symm.trans hissued.found)
    have hsame := hphase.symm.trans hissued.phase
    simp only [Phase.returned.injEq] at hsame
    obtain ⟨rfl, rfl⟩ := hsame
    exact ⟨record, hrecord, hissued⟩
  · intro first one l a second other m b hone hl hother hm htwo htwo' hrequest
    obtain ⟨reading, request, _, rfl, hspent, -⟩ :=
      (hchallenged first one l a hone hl).version2 htwo
    obtain ⟨reading', request', _, rfl, hspent', -⟩ :=
      (hchallenged second other m b hother hm).version2 htwo'
    obtain rfl : request = request' := Option.some.inj (hspent.symm.trans (hrequest.trans hspent'))
    exact hinv.spentOnce first one hone second other hother request
      (by simp [spent, consumedReading, hl, hspent])
      (by simp [spent, consumedReading, hm, hspent'])

end

/-- A ticket that nobody issued is refused, and its consumer has no event. -/
theorem boundary_sound_and_single_use_sample :
    ∃ (_ : PythonLibrary) (_ : UnicodeLibrary) (_ : ZonedTimeLibrary),
      SoundAndSingleUse [.takeRecord 1 0, .registerEvent 1]
        (run [.takeRecord 1 0, .registerEvent 1]) ∧
      (run [.takeRecord 1 0, .registerEvent 1]).consumptions 1 =
        some ⟨0, .refused "attestation_boundary_mismatch"⟩ := by
  have hlawful := IssuanceHistories.referenceLibrary_lawful
  have htimes := AttestationReference.referenceTimes_lawful
  have hdigests := AttestationReference.referenceLibrary_digests
  let _ := ReferenceLibrary.referenceLibrary
  let _ := IssuanceHistories.referenceUnicode
  let _ := IssuanceHistories.referenceTimestamps
  let _ := AttestationReference.referenceTimes
  exact ⟨_, _, _, boundary_sound_and_single_use _, rfl⟩

end DeliverySystem.AttestationSingleUse

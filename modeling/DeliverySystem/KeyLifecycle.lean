import DeliverySystem.AttestationVerification

/-!
# The lifecycle of Ed25519 keys

A lifecycle manifest classifies the keys of a trust bundle for one role. The
host reads a manifest for each of its two roles, checks it against the key
material, and builds the registry of issuer keys that the verifiers ask.
-/
namespace DeliverySystem.KeyLifecycle
open PythonValues JsonText AuthorityBindings AttestationArtifacts AttestationVerification
open AuthorityBindingStores Dict
set_option autoImplicit false

local instance bytesDecidableEq : DecidableEq ByteArray := ByteArray.instDecidableEq

/-- The Ed25519 keys of the cryptography package. -/
class Ed25519Library where
  PublicKey : Type
  PrivateKey : Type
  /-- `private_key.public_key()` -/
  derive : PrivateKey → PublicKey
  /-- `public_key.public_bytes(Raw, Raw)` -/
  publicBytes : PublicKey → ByteArray
  sign : PrivateKey → ByteArray → ByteArray
  /-- `verify(signature, payload)` does not raise. -/
  verify : PublicKey → ByteArray → ByteArray → Bool

/-- `Ed25519LifecycleError(code)` and `HostCompositionError(code)` -/
def fail (code : String) : Raised := .valueError code

/-! ## Manifests -/

inductive KeyState where
  | active | historical | retired | compromised
deriving Repr, DecidableEq

def KeyState.parse : String → Option KeyState
  | "active" => some .active
  | "historical" => some .historical
  | "retired" => some .retired
  | "compromised" => some .compromised
  | _ => none

/-- The keys of these states are trusted. -/
def KeyState.effective : KeyState → Bool
  | .active | .historical => true
  | .retired | .compromised => false

def algorithmName : String := "ed25519"

def safeId (value : Value) (field : String) : Py String := do
  let text ← orRaise value.text? (fail ("lifecycle_" ++ field ++ "_invalid"))
  require (idPattern text = true) (fail ("lifecycle_" ++ field ++ "_invalid"))
  pure text

def fingerprintText (value : Value) : Py String := do
  let text ← orRaise value.text? (fail "lifecycle_fingerprint_invalid")
  require (hexPattern "sha256:" text = true) (fail "lifecycle_fingerprint_invalid")
  pure text

def stateOf (value : Value) : Py KeyState := do
  let text ← orRaise value.text? (fail "lifecycle_state_invalid")
  orRaise (KeyState.parse text) (fail "lifecycle_state_unknown")

structure Ed25519LifecycleIdentity where
  issuerId : String
  keyId : String
  algorithm : String
deriving Repr, DecidableEq

/-- An entry that its constructor checked. -/
structure Ed25519LifecycleEntry where
  issuerId : String
  keyId : String
  algorithm : String
  publicKeyFingerprint : String
  state : KeyState
  issuerForm : idPattern issuerId = true
  keyForm : idPattern keyId = true
  algorithmForm : algorithm = algorithmName
  fingerprintForm : hexPattern "sha256:" publicKeyFingerprint = true
deriving DecidableEq

def Ed25519LifecycleEntry.identity (e : Ed25519LifecycleEntry) : Ed25519LifecycleIdentity :=
  ⟨e.issuerId, e.keyId, e.algorithm⟩

/-- `Ed25519LifecycleEntry(…)` -/
def Ed25519LifecycleEntry.make (issuer key algorithm fingerprint state : Value) :
    Py Ed25519LifecycleEntry := do
  let issuerId ← safeId issuer "issuer_id"
  let keyId ← safeId key "key_id"
  require (algorithm = .str algorithmName) (fail "lifecycle_algorithm_unsupported")
  let publicKeyFingerprint ← fingerprintText fingerprint
  let state ← stateOf state
  if h : idPattern issuerId = true ∧ idPattern keyId = true ∧
      hexPattern "sha256:" publicKeyFingerprint = true then
    pure { issuerId, keyId, algorithm := algorithmName, publicKeyFingerprint, state
           issuerForm := h.1, keyForm := h.2.1, algorithmForm := rfl, fingerprintForm := h.2.2 }
  else .error (fail "ed25519_lifecycle_invalid")

def roleNames : List String := ["attestation", "authority-binding"]

/-- A manifest that its constructor checked. -/
structure Ed25519LifecycleManifest where
  version : Int
  role : String
  issuerId : String
  keys : List Ed25519LifecycleEntry
  versionForm : version = 1
  roleForm : role ∈ roleNames
  nonEmpty : keys ≠ []
  distinct : (keys.map (·.keyId)).Nodup
  issuers : ∀ entry ∈ keys, entry.issuerId = issuerId

/-- The loop of the constructor, with the identities and key ids seen so far. -/
def checkEntries (issuerId : String) :
    List Ed25519LifecycleIdentity → List String → List Ed25519LifecycleEntry → Py Unit
  | _, _, [] => pure ()
  | identities, keyIds, entry :: rest => do
      require (entry.identity ∉ identities ∧ entry.keyId ∉ keyIds)
        (fail "lifecycle_identity_duplicate")
      require (entry.issuerId = issuerId) (fail "lifecycle_issuer_mismatch")
      checkEntries issuerId (entry.identity :: identities) (entry.keyId :: keyIds) rest

/-- `Ed25519LifecycleManifest(…)`. The role is text already: its only caller compared it. -/
def Ed25519LifecycleManifest.make (version : Value) (role : String) (issuer : Value)
    (keys : List Ed25519LifecycleEntry) : Py Ed25519LifecycleManifest := do
  require (version = .int 1) (fail "lifecycle_version_unsupported")
  require (role ∈ roleNames) (fail "lifecycle_role_invalid")
  let issuerId ← safeId issuer "issuer_id"
  require (keys ≠ []) (fail "lifecycle_keys_invalid")
  checkEntries issuerId [] [] keys
  if h : role ∈ roleNames ∧ keys ≠ [] ∧ (keys.map (·.keyId)).Nodup ∧
      ∀ entry ∈ keys, entry.issuerId = issuerId then
    pure { version := 1, role, issuerId, keys, versionForm := rfl, roleForm := h.1
           nonEmpty := h.2.1, distinct := h.2.2.1, issuers := h.2.2.2 }
  else .error (fail "ed25519_lifecycle_invalid")

def manifestFields : List String := ["version", "role", "issuer_id", "keys"]

def entryFields : List String :=
  ["issuer_id", "key_id", "algorithm", "public_key_fingerprint", "state"]

def entryOf (raw : Value) : Py Ed25519LifecycleEntry := do
  let fields ← orRaise raw.mapping? (fail "lifecycle_key_entry_invalid")
  require (hasExactly fields entryFields = true) (fail "lifecycle_key_field_unknown")
  Ed25519LifecycleEntry.make (get fields "issuer_id") (get fields "key_id")
    (get fields "algorithm") (get fields "public_key_fingerprint") (get fields "state")

/-- `Ed25519LifecycleManifest.from_value` -/
def Ed25519LifecycleManifest.fromValue (value : Value) (role : String) :
    Py Ed25519LifecycleManifest := do
  let fields ← orRaise value.mapping? (fail "lifecycle_manifest_invalid")
  require (hasExactly fields manifestFields = true) (fail "lifecycle_manifest_field_unknown")
  require (get fields "role" = .str role) (fail "lifecycle_role_mismatch")
  let rawKeys ← orRaise (get fields "keys").list? (fail "lifecycle_keys_invalid")
  require (rawKeys ≠ []) (fail "lifecycle_keys_invalid")
  let entries ← rawKeys.mapM entryOf
  Ed25519LifecycleManifest.make (get fields "version") role (get fields "issuer_id") entries

/-- `Ed25519LifecycleManifest.from_json`. Text that is no JSON and an object that
repeats a member are both refused, the latter under a code of its own. -/
def Ed25519LifecycleManifest.fromJson (text role : String) : Py Ed25519LifecycleManifest := do
  let value ← orRaise (loads rejectDuplicatePairs text) (fail "lifecycle_manifest_invalid")
  Ed25519LifecycleManifest.fromValue value role

/-- `parse_lifecycle_manifest` -/
def parseLifecycleManifest (value : Value) (role : String) : Py Ed25519LifecycleManifest :=
  match value with
  | .str text => Ed25519LifecycleManifest.fromJson text role
  | value => Ed25519LifecycleManifest.fromValue value role

/-! ## Preflight -/

section
variable [Ed25519Library]
open Ed25519Library

structure TrustedEd25519Key where
  issuerId : String
  keyId : String
  publicKey : PublicKey
  issuerForm : idPattern issuerId = true
  keyForm : idPattern keyId = true

def TrustedEd25519Key.identity (k : TrustedEd25519Key) : Ed25519LifecycleIdentity :=
  ⟨k.issuerId, k.keyId, algorithmName⟩

def publicKeyFingerprint (key : PublicKey) : String :=
  "sha256:" ++ ReferenceLibrary.sha256Hex (publicBytes key).toList

/-- The loop of `_candidate_map`, with the candidates seen so far. -/
def collectCandidates : List TrustedEd25519Key → List TrustedEd25519Key →
    Py (List TrustedEd25519Key)
  | seen, [] => pure seen
  | seen, candidate :: rest => do
      require (candidate.identity ∉ seen.map TrustedEd25519Key.identity)
        (fail "lifecycle_trust_candidate_duplicate")
      collectCandidates (seen ++ [candidate]) rest

/-- `_candidate_map`; the key of a candidate in the mapping is its identity. -/
def candidateMap (candidates : List TrustedEd25519Key) : Py (List TrustedEd25519Key) := do
  require (candidates ≠ []) (fail "lifecycle_trust_candidates_invalid")
  collectCandidates [] candidates

def findCandidate (candidates : List TrustedEd25519Key) (identity : Ed25519LifecycleIdentity) :
    Option TrustedEd25519Key :=
  candidates.find? (·.identity = identity)

/-- The classification of the candidates. -/
abbrev States := List (Ed25519LifecycleIdentity × KeyState)

/-- What a role is configured with, and the key pair and bundle loaded for it. -/
structure RoleMaterial where
  activeIssuerId : Value
  activeKeyId : Value
  privateKey : PrivateKey
  publicKey : PublicKey
  trustCandidates : List TrustedEd25519Key

structure Ed25519LifecyclePreflightResult where
  role : String
  mode : String
  activeIssuerId : String
  activeKeyId : String
  algorithm : String
  historicalTrustedIdentities : List Ed25519LifecycleIdentity
  excludedRetiredIdentities : List Ed25519LifecycleIdentity
  excludedCompromisedIdentities : List Ed25519LifecycleIdentity
  manifestVersion : Option Int
  validationCodes : List String
  effectiveTrustKeys : List TrustedEd25519Key

/-- One entry of the manifest against the candidates. -/
def classifyEntry (candidates : List TrustedEd25519Key) (entry : Ed25519LifecycleEntry) :
    Py (Ed25519LifecycleIdentity × KeyState) := do
  let candidate ← orRaise (findCandidate candidates entry.identity)
    (fail "lifecycle_identity_unknown")
  require (publicKeyFingerprint candidate.publicKey = entry.publicKeyFingerprint)
    (fail "lifecycle_fingerprint_mismatch")
  pure (entry.identity, entry.state)

/-- Without a manifest every candidate but the active one is historical. -/
def legacyStates (candidates : List TrustedEd25519Key) (active : Ed25519LifecycleIdentity) :
    States :=
  (active, .active) ::
    ((candidates.map TrustedEd25519Key.identity).filter (· ≠ active)).map (·, .historical)

/-- The classification by a manifest. The identities of a manifest are distinct, so
each assignment of the loop adds one. -/
def managedStates (role : String) (candidates : List TrustedEd25519Key)
    (active : Ed25519LifecycleIdentity) (manifest : Ed25519LifecycleManifest) : Py States := do
  require (manifest.role = role) (fail "lifecycle_role_mismatch")
  require (manifest.issuerId = active.issuerId) (fail "lifecycle_active_selector_disagreement")
  let states ← manifest.keys.mapM (classifyEntry candidates)
  require ((∀ identity ∈ states.map Prod.fst,
      identity ∈ candidates.map TrustedEd25519Key.identity) ∧
    ∀ identity ∈ candidates.map TrustedEd25519Key.identity, identity ∈ states.map Prod.fst)
    (fail "lifecycle_candidate_unclassified")
  let activeEntries := (states.filter (·.2 = .active)).map Prod.fst
  require (activeEntries.length = 1) (fail "lifecycle_active_count_invalid")
  require (activeEntries.head? = some active) (fail "lifecycle_active_selector_disagreement")
  pure states

/-- The classification with its mode and the version of the manifest. -/
def classify (role : String) (candidates : List TrustedEd25519Key)
    (active : Ed25519LifecycleIdentity) :
    Option Ed25519LifecycleManifest → Py (States × String × Option Int)
  | none => pure (legacyStates candidates active, "legacy", none)
  | some manifest => do
      let states ← managedStates role candidates active manifest
      pure (states, "managed", some manifest.version)

def inState (states : States) (test : KeyState → Bool) (candidate : TrustedEd25519Key) : Bool :=
  (states.lookup candidate.identity).any test

def challenge : ByteArray := "delivery-system:ed25519-lifecycle-preflight:v1".toUTF8

/-- `preflight_ed25519_lifecycle` -/
def preflightEd25519Lifecycle (role : String) (material : RoleMaterial)
    (manifest : Option Ed25519LifecycleManifest) : Py Ed25519LifecyclePreflightResult := do
  require (role ∈ roleNames) (fail "lifecycle_role_invalid")
  let activeIssuerId ← safeId material.activeIssuerId "active_issuer_id"
  let activeKeyId ← safeId material.activeKeyId "active_key_id"
  require (publicBytes (derive material.privateKey) = publicBytes material.publicKey)
    (fail "lifecycle_key_pair_mismatch")
  let candidates ← candidateMap material.trustCandidates
  let active : Ed25519LifecycleIdentity := ⟨activeIssuerId, activeKeyId, algorithmName⟩
  let activeCandidate ← orRaise (findCandidate candidates active)
    (fail "lifecycle_active_key_not_trusted")
  require (publicKeyFingerprint activeCandidate.publicKey =
    publicKeyFingerprint material.publicKey) (fail "lifecycle_active_fingerprint_mismatch")
  let (states, mode, manifestVersion) ← classify role candidates active manifest
  require (states.lookup active = some .active) (fail "lifecycle_active_selector_disagreement")
  let effective := candidates.filter (inState states KeyState.effective)
  require (effective ≠ []) (fail "lifecycle_effective_trust_empty")
  let identitiesIn := fun state =>
    (candidates.filter (inState states (· = state))).map TrustedEd25519Key.identity
  require (verify material.publicKey (sign material.privateKey challenge) challenge = true)
    (fail "lifecycle_self_check_failed")
  pure
    { role, mode, activeIssuerId, activeKeyId
      algorithm := algorithmName
      historicalTrustedIdentities := identitiesIn .historical
      excludedRetiredIdentities := identitiesIn .retired
      excludedCompromisedIdentities := identitiesIn .compromised
      manifestVersion
      validationCodes := ["preflight_valid"]
      effectiveTrustKeys := effective }

/-! ## The registry of issuer keys -/

structure TrustedEd25519IssuerKeyRegistry where
  entries : List TrustedEd25519Key
  nonEmpty : entries ≠ []
  distinct : (entries.map TrustedEd25519Key.identity).Nodup

/-- `TrustedEd25519IssuerKeyRegistry(entries)` -/
def TrustedEd25519IssuerKeyRegistry.make (entries : List TrustedEd25519Key) :
    Py TrustedEd25519IssuerKeyRegistry :=
  if nonEmpty : entries = [] then .error (fail "trusted_keys_invalid")
  else if distinct : (entries.map TrustedEd25519Key.identity).Nodup then
    .ok ⟨entries, nonEmpty, distinct⟩
  else .error (fail "trusted_key_duplicate")

namespace TrustedEd25519IssuerKeyRegistry

def resolve (r : TrustedEd25519IssuerKeyRegistry) (issuerId keyId algorithm : String) :
    Option PublicKey :=
  if algorithm = algorithmName then
    (findCandidate r.entries ⟨issuerId, keyId, algorithmName⟩).map (·.publicKey)
  else none

theorem untrusted_allowed : "attestation_issuer_untrusted" ∈ issuerFailureCodes := by decide

def evaluate (r : TrustedEd25519IssuerKeyRegistry)
    (issuerId keyId algorithm attestationVersion credentialClass : String) :
    IssuerTrustDecision :=
  if algorithm ≠ algorithmName then ⟨false, "attestation_algorithm_unsupported", by decide⟩
  else if r.resolve issuerId keyId algorithm = none then
    ⟨false, "attestation_issuer_untrusted", untrusted_allowed⟩
  else if attestationVersion ∉ ["2"] then
    ⟨false, "attestation_version_unsupported", by decide⟩
  else if credentialClass ∉ ["github-app-installation-token"] then
    ⟨false, "attestation_credential_class_unsupported", by decide⟩
  else ⟨true, "attestation_issuer_untrusted", untrusted_allowed⟩

end TrustedEd25519IssuerKeyRegistry

/-! ## Host composition -/

/-- The two roles, with the name each has in a manifest and the name the host
hands to its loaders. -/
inductive Role where
  | attestation
  | authorityBinding
deriving Repr, DecidableEq

/-- The role of a manifest and of the preflight. -/
def Role.policyName : Role → String
  | .attestation => "attestation"
  | .authorityBinding => "authority-binding"

/-- The role that the host gives to `_load_lifecycle_manifest`. -/
def Role.hostName : Role → String
  | .attestation => "attestation"
  | .authorityBinding => "authority_binding"

/-- `_read_external_json` of a file; `none` is one that cannot be opened or that
the validator of opened files refuses. -/
def readExternalJson (file : Option ByteArray) (errorCode : String) : Py Value := do
  let data ← orRaise file (fail errorCode)
  require (0 < data.size ∧ data.size ≤ 1024 * 1024) (fail errorCode)
  let text ← orRaise (String.fromUTF8? data) (fail errorCode)
  orRaise (loads rejectDuplicatePairs text) (fail errorCode)

/-- `_load_lifecycle_manifest` -/
def loadLifecycleManifest (files : String → Option ByteArray) (path : Option String)
    (role : String) : Py (Option Ed25519LifecycleManifest) :=
  match path with
  | none => pure none
  | some path => do
      let raw ← readExternalJson (files path) (role ++ "_lifecycle_manifest_invalid")
      let manifest ← guarded (parseLifecycleManifest raw role)
        (fail (role ++ "_lifecycle_manifest_invalid"))
      pure (some manifest)

/-- What the host builds for a role. -/
structure RoleTrust where
  preflight : Ed25519LifecyclePreflightResult
  registry : TrustedEd25519IssuerKeyRegistry

/-- The manifest of a role, loaded under the name that the host uses. -/
def hostManifest (files : String → Option ByteArray) (path : Option String) (role : Role) :
    Py (Option Ed25519LifecycleManifest) :=
  loadLifecycleManifest files path role.hostName

/-- The steps of the composition that concern one role. -/
def roleTrust (files : String → Option ByteArray) (path : Option String) (role : Role)
    (material : RoleMaterial) : Py RoleTrust := do
  let manifest ← hostManifest files path role
  let preflight ← preflightEd25519Lifecycle role.policyName material manifest
  let registry ← TrustedEd25519IssuerKeyRegistry.make preflight.effectiveTrustKeys
  pure { preflight, registry }

def keyPairMatches (material : RoleMaterial) : Prop :=
  publicBytes (derive material.privateKey) = publicBytes material.publicKey

instance (material : RoleMaterial) : Decidable (keyPairMatches material) :=
  inferInstanceAs (Decidable (_ = _))

/-- The trust part of the host composition, once keys and bundles are loaded. -/
def composeTrust (files : String → Option ByteArray)
    (attestationPath authorityPath : Option String) (attestation authority : RoleMaterial) :
    Py (RoleTrust × RoleTrust) := do
  require (keyPairMatches attestation) (fail "attestation_key_pair_mismatch")
  require (keyPairMatches authority) (fail "authority_binding_key_pair_mismatch")
  require (publicBytes (derive authority.privateKey) ≠ publicBytes attestation.publicKey)
    (fail "host_key_role_conflict")
  let attestationManifest ← hostManifest files attestationPath .attestation
  let authorityManifest ← hostManifest files authorityPath .authorityBinding
  let attestationPreflight ←
    preflightEd25519Lifecycle Role.attestation.policyName attestation attestationManifest
  let authorityPreflight ←
    preflightEd25519Lifecycle Role.authorityBinding.policyName authority authorityManifest
  let registry ← TrustedEd25519IssuerKeyRegistry.make attestationPreflight.effectiveTrustKeys
  let authorityRegistry ←
    TrustedEd25519IssuerKeyRegistry.make authorityPreflight.effectiveTrustKeys
  pure (⟨attestationPreflight, registry⟩, ⟨authorityPreflight, authorityRegistry⟩)

/-- The composition succeeds when the two keys are fit for it and each role is. -/
theorem composeTrust_eq_ok {files : String → Option ByteArray}
    {attestationPath authorityPath : Option String} {attestation authority : RoleMaterial}
    {trust : RoleTrust × RoleTrust} :
    composeTrust files attestationPath authorityPath attestation authority = .ok trust ↔
      keyPairMatches attestation ∧ keyPairMatches authority ∧
      publicBytes (derive authority.privateKey) ≠ publicBytes attestation.publicKey ∧
      roleTrust files attestationPath .attestation attestation = .ok trust.1 ∧
      roleTrust files authorityPath .authorityBinding authority = .ok trust.2 := by
  simp only [composeTrust, roleTrust, bind_eq_ok, require_eq_ok, pure_eq_ok]
  constructor
  · rintro ⟨_, hpair, _, hauthority, _, hconflict, m, hm, n, hn, p, hp, q, hq, r, hr, t, ht, rfl⟩
    exact ⟨hpair, hauthority, hconflict, ⟨m, hm, p, hp, r, hr, rfl⟩, ⟨n, hn, q, hq, t, ht, rfl⟩⟩
  · rintro ⟨hpair, hauthority, hconflict, ⟨m, hm, p, hp, r, hr, hleft⟩,
      ⟨n, hn, q, hq, t, ht, hright⟩⟩
    exact ⟨(), hpair, (), hauthority, (), hconflict, m, hm, n, hn, p, hp, q, hq, r, hr, t, ht,
      Prod.ext hleft hright⟩

/-! ## What a preflight establishes -/

theorem collectCandidates_eq_ok {seen candidates result : List TrustedEd25519Key}
    (hseen : (seen.map TrustedEd25519Key.identity).Nodup) :
    collectCandidates seen candidates = .ok result ↔
      result = seen ++ candidates ∧
        ((seen ++ candidates).map TrustedEd25519Key.identity).Nodup := by
  induction candidates generalizing seen with
  | nil =>
      simp only [collectCandidates, pure_eq_ok, List.append_nil, hseen, and_true]
      exact eq_comm
  | cons candidate rest ih =>
      simp only [collectCandidates, bind_eq_ok, require_eq_ok]
      constructor
      · rintro ⟨_, hnew, h⟩
        have hnext : ((seen ++ [candidate]).map TrustedEd25519Key.identity).Nodup := by
          rw [List.map_append, List.map_singleton]
          exact hseen.append (List.nodup_singleton _) (by simpa using hnew)
        simpa only [List.append_assoc, List.singleton_append] using (ih hnext).mp h
      · rintro ⟨rfl, hnodup⟩
        have hcut : ((seen ++ [candidate]).map TrustedEd25519Key.identity).Nodup := by
          rw [← List.singleton_append, ← List.append_assoc, List.map_append] at hnodup
          exact hnodup.of_append_left
        refine ⟨(), ?_, (ih hcut).mpr
          ⟨by rw [List.append_assoc, List.singleton_append], by
            rwa [List.append_assoc, List.singleton_append]⟩⟩
        rw [List.map_append, List.map_singleton] at hcut
        exact fun hmem => List.disjoint_of_nodup_append hcut hmem (List.mem_singleton_self _)

theorem candidateMap_eq_ok {candidates result : List TrustedEd25519Key} :
    candidateMap candidates = .ok result ↔
      result = candidates ∧ candidates ≠ [] ∧
        (candidates.map TrustedEd25519Key.identity).Nodup := by
  simp only [candidateMap, bind_eq_ok, require_eq_ok,
    collectCandidates_eq_ok (show (([] : List TrustedEd25519Key).map _).Nodup from List.nodup_nil),
    List.nil_append]
  constructor
  · rintro ⟨_, hne, hsame, hnodup⟩
    exact ⟨hsame, hne, hnodup⟩
  · rintro ⟨hsame, hne, hnodup⟩
    exact ⟨(), hne, hsame, hnodup⟩

/-- The state that a manifest, or its absence, gives to an identity. -/
def standing (manifest : Option Ed25519LifecycleManifest) (active : Ed25519LifecycleIdentity)
    (identity : Ed25519LifecycleIdentity) : Option KeyState :=
  match manifest with
  | none => some (if identity = active then .active else .historical)
  | some manifest => (manifest.keys.find? (·.identity = identity)).map (·.state)

omit [Ed25519Library] in
theorem lookup_states (entries : List Ed25519LifecycleEntry) (identity : Ed25519LifecycleIdentity) :
    (entries.map fun entry => (entry.identity, entry.state)).lookup identity =
      (entries.find? (·.identity = identity)).map (·.state) := by
  induction entries with
  | nil => rfl
  | cons entry rest ih =>
      by_cases hsame : entry.identity = identity
      · simp [hsame]
      · rw [List.map_cons, List.lookup_cons, ih, List.find?_cons_of_neg (by simpa using hsame)]
        simp [beq_eq_false_iff_ne.mpr (Ne.symm hsame)]

theorem lookup_legacyStates {candidates : List TrustedEd25519Key}
    {active : Ed25519LifecycleIdentity} {candidate : TrustedEd25519Key}
    (hmem : candidate ∈ candidates) :
    (legacyStates candidates active).lookup candidate.identity =
      standing none active candidate.identity := by
  by_cases hactive : candidate.identity = active
  · simp [legacyStates, standing, hactive]
  · have hlater : candidate.identity ∈
        (candidates.map TrustedEd25519Key.identity).filter (· ≠ active) :=
      List.mem_filter.mpr ⟨List.mem_map_of_mem hmem, by simpa using hactive⟩
    have hhistorical : ∀ identities : List Ed25519LifecycleIdentity,
        candidate.identity ∈ identities →
        (identities.map (·, KeyState.historical)).lookup candidate.identity =
          some .historical := by
      intro identities hin
      induction identities with
      | nil => cases hin
      | cons identity rest ih =>
          by_cases hsame : candidate.identity = identity
          · simp [hsame]
          · rw [List.map_cons, List.lookup_cons, beq_eq_false_iff_ne.mpr hsame]
            exact ih ((List.mem_cons.mp hin).resolve_left hsame)
    rw [legacyStates, List.lookup_cons, beq_eq_false_iff_ne.mpr hactive]
    exact (hhistorical _ hlater).trans (by simp [standing, hactive])

/-- What the classification by a manifest has checked. -/
structure Classifies (candidates : List TrustedEd25519Key) (active : Ed25519LifecycleIdentity)
    (manifest : Ed25519LifecycleManifest) : Prop where
  identities : (manifest.keys.map Ed25519LifecycleEntry.identity).Perm
    (candidates.map TrustedEd25519Key.identity)
  signer : ∀ entry ∈ manifest.keys, entry.state = .active ↔ entry.identity = active
  signerListed : ∃ entry ∈ manifest.keys, entry.identity = active

omit [Ed25519Library] in
theorem identities_nodup (manifest : Ed25519LifecycleManifest) :
    (manifest.keys.map Ed25519LifecycleEntry.identity).Nodup := by
  refine List.Nodup.of_map Ed25519LifecycleIdentity.keyId ?_
  rw [List.map_map]
  exact manifest.distinct

omit [Ed25519Library] in
theorem entry_unique {manifest : Ed25519LifecycleManifest} {a b : Ed25519LifecycleEntry}
    (ha : a ∈ manifest.keys) (hb : b ∈ manifest.keys) (hsame : a.identity = b.identity) : a = b :=
  List.inj_on_of_nodup_map (identities_nodup manifest) ha hb hsame

theorem classifyEntry_eq_ok {candidates : List TrustedEd25519Key}
    {entry : Ed25519LifecycleEntry} {state : Ed25519LifecycleIdentity × KeyState}
    (h : classifyEntry candidates entry = .ok state) : state = (entry.identity, entry.state) := by
  simp only [classifyEntry, bind_eq_ok, require_eq_ok, pure_eq_ok] at h
  obtain ⟨_, -, _, -, rfl⟩ := h
  rfl

theorem classifyEntries_eq_ok {candidates : List TrustedEd25519Key}
    {entries : List Ed25519LifecycleEntry} {states : States}
    (h : entries.mapM (classifyEntry candidates) = .ok states) :
    states = entries.map fun entry => (entry.identity, entry.state) := by
  have hpairs := mapM_eq_ok.mp h
  clear h
  induction hpairs with
  | nil => rfl
  | cons hentry _ ih => rw [classifyEntry_eq_ok hentry, List.map_cons, ← ih]

theorem managedStates_eq_ok {role : String} {candidates : List TrustedEd25519Key}
    {active : Ed25519LifecycleIdentity} {manifest : Ed25519LifecycleManifest} {states : States}
    (hdistinct : (candidates.map TrustedEd25519Key.identity).Nodup)
    (h : managedStates role candidates active manifest = .ok states) :
    states = manifest.keys.map (fun entry => (entry.identity, entry.state)) ∧
      Classifies candidates active manifest := by
  simp only [managedStates, bind_eq_ok, require_eq_ok, pure_eq_ok] at h
  obtain ⟨_, -, _, -, found, hfound, _, ⟨hknown, hclassified⟩, _, hcount, _, hactive, rfl⟩ := h
  obtain rfl := classifyEntries_eq_ok hfound
  rw [List.map_map] at hknown hclassified
  have hperm : (manifest.keys.map Ed25519LifecycleEntry.identity).Perm
      (candidates.map TrustedEd25519Key.identity) :=
    (List.perm_ext_iff_of_nodup (identities_nodup manifest) hdistinct).mpr fun identity =>
      ⟨hknown identity, hclassified identity⟩
  -- The active entries are a list of one identity, the configured one.
  obtain ⟨only, honly⟩ := List.length_eq_one_iff.mp hcount
  rw [honly, List.head?_cons, Option.some.injEq] at hactive
  subst hactive
  have hstate : ∀ entry ∈ manifest.keys, entry.state = .active → entry.identity = only := by
    intro entry hentry hstate
    have hmem : entry.identity ∈ [only] := by
      rw [← honly, List.mem_map]
      exact ⟨_, List.mem_filter.mpr ⟨List.mem_map_of_mem hentry, by simpa using hstate⟩, rfl⟩
    exact List.mem_singleton.mp hmem
  obtain ⟨entry, hentry, hidentity, hentryState⟩ :
      ∃ entry ∈ manifest.keys, entry.identity = only ∧ entry.state = .active := by
    have hmem : only ∈ [only] := List.mem_singleton_self _
    rw [← honly, List.mem_map] at hmem
    obtain ⟨pair, hpair, rfl⟩ := hmem
    obtain ⟨hpair, hpairState⟩ := List.mem_filter.mp hpair
    obtain ⟨entry, hentry, rfl⟩ := List.mem_map.mp hpair
    exact ⟨entry, hentry, rfl, by simpa using hpairState⟩
  refine ⟨rfl, hperm, fun other hother => ⟨hstate other hother, fun hsame => ?_⟩,
    entry, hentry, hidentity⟩
  rw [entry_unique hother hentry (hsame.trans hidentity.symm)]
  exact hentryState

theorem classify_eq_ok {role : String} {candidates : List TrustedEd25519Key}
    {active : Ed25519LifecycleIdentity} {manifest : Option Ed25519LifecycleManifest}
    {classified : States × String × Option Int}
    (hdistinct : (candidates.map TrustedEd25519Key.identity).Nodup)
    (h : classify role candidates active manifest = .ok classified) :
    (∀ candidate ∈ candidates, classified.1.lookup candidate.identity =
      standing manifest active candidate.identity) ∧
    ∀ m ∈ manifest, Classifies candidates active m := by
  cases manifest with
  | none =>
      obtain rfl := pure_eq_ok.mp h
      exact ⟨fun candidate hmem => lookup_legacyStates hmem, fun m hm => by cases hm⟩
  | some manifest =>
      simp only [classify, bind_eq_ok, pure_eq_ok] at h
      obtain ⟨states, hstates, rfl⟩ := h
      obtain ⟨rfl, hclassifies⟩ := managedStates_eq_ok hdistinct hstates
      refine ⟨fun candidate _ => lookup_states _ _, fun m hm => ?_⟩
      obtain rfl := Option.some.inj hm
      exact hclassifies

/-- What a preflight has checked. -/
structure Preflighted (role : String) (material : RoleMaterial)
    (manifest : Option Ed25519LifecycleManifest) (result : Ed25519LifecyclePreflightResult) :
    Prop where
  nonEmpty : result.effectiveTrustKeys ≠ []
  distinct : (material.trustCandidates.map TrustedEd25519Key.identity).Nodup
  issuer : material.activeIssuerId = .str result.activeIssuerId
  key : material.activeKeyId = .str result.activeKeyId
  active : ∃ candidate ∈ material.trustCandidates,
    candidate.identity = ⟨result.activeIssuerId, result.activeKeyId, algorithmName⟩ ∧
      publicKeyFingerprint candidate.publicKey = publicKeyFingerprint material.publicKey
  classifies : ∀ m ∈ manifest, Classifies material.trustCandidates
    ⟨result.activeIssuerId, result.activeKeyId, algorithmName⟩ m
  effective : ∀ candidate, candidate ∈ result.effectiveTrustKeys ↔
    candidate ∈ material.trustCandidates ∧
      ∃ state, standing manifest ⟨result.activeIssuerId, result.activeKeyId, algorithmName⟩
        candidate.identity = some state ∧ state.effective = true
  sublist : result.effectiveTrustKeys.Sublist material.trustCandidates

omit [Ed25519Library] in
theorem safeId_eq_ok {value : Value} {field text : String} (h : safeId value field = .ok text) :
    value = .str text := by
  simp only [safeId, bind_eq_ok, orRaise_eq_ok, require_eq_ok, pure_eq_ok,
    Value.text?_eq_some] at h
  obtain ⟨_, rfl, _, -, rfl⟩ := h
  rfl

theorem findCandidate_eq_some {candidates : List TrustedEd25519Key}
    {identity : Ed25519LifecycleIdentity} {candidate : TrustedEd25519Key}
    (h : findCandidate candidates identity = some candidate) :
    candidate ∈ candidates ∧ candidate.identity = identity :=
  ⟨List.mem_of_find?_eq_some h, by simpa using List.find?_some h⟩

theorem preflight_checks {role : String} {material : RoleMaterial}
    {manifest : Option Ed25519LifecycleManifest} {result : Ed25519LifecyclePreflightResult}
    (h : preflightEd25519Lifecycle role material manifest = .ok result) :
    Preflighted role material manifest result := by
  simp only [preflightEd25519Lifecycle, bind_eq_ok, require_eq_ok, orRaise_eq_ok, pure_eq_ok,
    candidateMap_eq_ok] at h
  obtain ⟨_, -, issuerId, hissuer, keyId, hkey, _, -, _, ⟨rfl, -, hdistinct⟩, candidate,
    hcandidate, _, hfingerprint, ⟨states, mode, version⟩, hstates, _, -, _, hne, _, -, rfl⟩ := h
  obtain ⟨hlookup, hclassifies⟩ := classify_eq_ok hdistinct hstates
  obtain ⟨hmem, hidentity⟩ := findCandidate_eq_some hcandidate
  refine
    { nonEmpty := hne
      distinct := hdistinct
      issuer := safeId_eq_ok hissuer
      key := safeId_eq_ok hkey
      active := ⟨candidate, hmem, hidentity, hfingerprint⟩
      classifies := hclassifies
      effective := fun other => ?_
      sublist := List.filter_sublist }
  simp only [List.mem_filter, inState, Option.any_eq_true]
  refine and_congr_right fun hother => ?_
  rw [hlookup other hother]

/-! ## The registry of a role -/

/-- The registry trusts the candidates that the manifest classifies active or
historical, or all of them where there is none; the configured signer is the one
active key. -/
structure Reaches (material : RoleMaterial) (manifest : Option Ed25519LifecycleManifest)
    (trust : RoleTrust) : Prop where
  trusted : ∀ issuerId keyId algorithm key,
    trust.registry.resolve issuerId keyId algorithm = some key ↔
      ∃ candidate ∈ material.trustCandidates,
        candidate.identity = ⟨issuerId, keyId, algorithm⟩ ∧ candidate.publicKey = key ∧
        ∀ m ∈ manifest, ∃ entry ∈ m.keys, entry.identity = ⟨issuerId, keyId, algorithm⟩ ∧
          (entry.state = .active ∨ entry.state = .historical)
  classified : ∀ m ∈ manifest, (m.keys.map Ed25519LifecycleEntry.identity).Perm
    (material.trustCandidates.map TrustedEd25519Key.identity)
  excluded : ∀ m ∈ manifest, ∀ entry ∈ m.keys,
    entry.state = .retired ∨ entry.state = .compromised →
      trust.registry.resolve entry.issuerId entry.keyId entry.algorithm = none
  signer : ∃ issuerId keyId key, material.activeIssuerId = .str issuerId ∧
    material.activeKeyId = .str keyId ∧
    trust.registry.resolve issuerId keyId algorithmName = some key ∧
    publicKeyFingerprint key = publicKeyFingerprint material.publicKey ∧
    ∀ m ∈ manifest, (∃ entry ∈ m.keys, entry.state = .active) ∧
      ∀ entry ∈ m.keys, entry.state = .active ↔
        entry.identity = ⟨issuerId, keyId, algorithmName⟩

theorem findCandidate_iff {candidates : List TrustedEd25519Key}
    {identity : Ed25519LifecycleIdentity} {candidate : TrustedEd25519Key}
    (hdistinct : (candidates.map TrustedEd25519Key.identity).Nodup) :
    findCandidate candidates identity = some candidate ↔
      candidate ∈ candidates ∧ candidate.identity = identity := by
  refine ⟨findCandidate_eq_some, ?_⟩
  rintro ⟨hmem, rfl⟩
  obtain ⟨found, hfound⟩ := Option.isSome_iff_exists.mp
    (List.find?_isSome.mpr ⟨candidate, hmem, by simp⟩ :
      (findCandidate candidates candidate.identity).isSome)
  obtain ⟨hfoundMem, hsame⟩ := findCandidate_eq_some hfound
  exact hfound.trans
    (congrArg some (List.inj_on_of_nodup_map hdistinct hfoundMem hmem hsame))

theorem TrustedEd25519IssuerKeyRegistry.resolve_eq_some {r : TrustedEd25519IssuerKeyRegistry}
    {issuerId keyId algorithm : String} {key : PublicKey} :
    r.resolve issuerId keyId algorithm = some key ↔
      ∃ candidate ∈ r.entries, candidate.identity = ⟨issuerId, keyId, algorithm⟩ ∧
        candidate.publicKey = key := by
  unfold TrustedEd25519IssuerKeyRegistry.resolve
  split_ifs with halgorithm
  · subst halgorithm
    simp only [Option.map_eq_some_iff, findCandidate_iff r.distinct, and_assoc]
  · refine iff_of_false (by simp) ?_
    rintro ⟨candidate, -, hidentity, -⟩
    exact halgorithm (congrArg Ed25519LifecycleIdentity.algorithm hidentity).symm

omit [Ed25519Library] in
theorem KeyState.effective_iff {state : KeyState} :
    state.effective = true ↔ state = .active ∨ state = .historical := by
  cases state <;> decide

omit [Ed25519Library] in
theorem standing_effective {manifest : Option Ed25519LifecycleManifest}
    {active identity : Ed25519LifecycleIdentity} :
    (∃ state, standing manifest active identity = some state ∧ state.effective = true) ↔
      ∀ m ∈ manifest, ∃ entry ∈ m.keys, entry.identity = identity ∧
        (entry.state = .active ∨ entry.state = .historical) := by
  cases manifest with
  | none =>
      refine iff_of_true ⟨_, rfl, ?_⟩ (fun m hm => by cases hm)
      split_ifs <;> rfl
  | some manifest =>
      simp only [standing, Option.map_eq_some_iff, Option.mem_def, Option.some.injEq,
        forall_eq', KeyState.effective_iff]
      constructor
      · rintro ⟨_, ⟨entry, hentry, rfl⟩, hstate⟩
        exact ⟨entry, List.mem_of_find?_eq_some hentry, by simpa using List.find?_some hentry,
          hstate⟩
      · rintro ⟨entry, hentry, rfl, hstate⟩
        obtain ⟨found, hfound⟩ := Option.isSome_iff_exists.mp
          (List.find?_isSome.mpr ⟨entry, hentry, by simp⟩ :
            (manifest.keys.find? (·.identity = entry.identity)).isSome)
        have hsame : found.identity = entry.identity := by simpa using List.find?_some hfound
        have hfoundMem := List.mem_of_find?_eq_some hfound
        rw [← entry_unique hfoundMem hentry hsame] at hstate
        exact ⟨found.state, ⟨found, hfound, rfl⟩, hstate⟩

/-- The registry built from an accepted preflight is the one the manifest asks for. -/
theorem preflight_reaches {role : String} {material : RoleMaterial}
    {manifest : Option Ed25519LifecycleManifest} {result : Ed25519LifecyclePreflightResult}
    (h : preflightEd25519Lifecycle role material manifest = .ok result) :
    ∃ registry, TrustedEd25519IssuerKeyRegistry.make result.effectiveTrustKeys = .ok registry ∧
      Reaches material manifest ⟨result, registry⟩ := by
  have hchecks := preflight_checks h
  have hdistinct : (result.effectiveTrustKeys.map TrustedEd25519Key.identity).Nodup :=
    hchecks.distinct.sublist (hchecks.sublist.map _)
  refine ⟨⟨result.effectiveTrustKeys, hchecks.nonEmpty, hdistinct⟩, ?_, ?_⟩
  · rw [TrustedEd25519IssuerKeyRegistry.make, dif_neg hchecks.nonEmpty, dif_pos hdistinct]
  have htrusted : ∀ issuerId keyId algorithm key,
      TrustedEd25519IssuerKeyRegistry.resolve
          ⟨result.effectiveTrustKeys, hchecks.nonEmpty, hdistinct⟩ issuerId keyId algorithm =
          some key ↔
        ∃ candidate ∈ material.trustCandidates,
          candidate.identity = ⟨issuerId, keyId, algorithm⟩ ∧ candidate.publicKey = key ∧
          ∀ m ∈ manifest, ∃ entry ∈ m.keys, entry.identity = ⟨issuerId, keyId, algorithm⟩ ∧
            (entry.state = .active ∨ entry.state = .historical) := by
    intro issuerId keyId algorithm key
    rw [TrustedEd25519IssuerKeyRegistry.resolve_eq_some]
    constructor
    · rintro ⟨candidate, hmem, hidentity, hkey⟩
      obtain ⟨hcandidate, hstate⟩ := (hchecks.effective candidate).mp hmem
      rw [hidentity] at hstate
      exact ⟨candidate, hcandidate, hidentity, hkey, standing_effective.mp hstate⟩
    · rintro ⟨candidate, hcandidate, hidentity, hkey, hentries⟩
      rw [← hidentity] at hentries
      exact ⟨candidate, (hchecks.effective candidate).mpr
        ⟨hcandidate, standing_effective.mpr hentries⟩, hidentity, hkey⟩
  refine
    { trusted := htrusted
      classified := fun m hm => (hchecks.classifies m hm).identities
      excluded := ?_
      signer := ?_ }
  · intro m hm entry hentry hstate
    rw [Option.eq_none_iff_forall_ne_some]
    intro key hkey
    obtain ⟨_, -, -, -, hentries⟩ := (htrusted _ _ _ key).mp hkey
    obtain ⟨other, hother, hsame, hotherState⟩ := hentries m hm
    rw [entry_unique hother hentry hsame] at hotherState
    rcases hstate with hstate | hstate <;> rw [hstate] at hotherState <;>
      simp at hotherState
  · obtain ⟨candidate, hcandidate, hidentity, hfingerprint⟩ := hchecks.active
    refine ⟨_, _, candidate.publicKey, hchecks.issuer, hchecks.key,
      (htrusted _ _ _ _).mpr ⟨candidate, hcandidate, hidentity, rfl, fun m hm => ?_⟩,
      hfingerprint, fun m hm => ?_⟩
    · obtain ⟨entry, hentry, hsame⟩ := (hchecks.classifies m hm).signerListed
      exact ⟨entry, hentry, hsame, .inl (((hchecks.classifies m hm).signer entry hentry).mpr hsame)⟩
    · obtain ⟨entry, hentry, hsame⟩ := (hchecks.classifies m hm).signerListed
      exact ⟨⟨entry, hentry, ((hchecks.classifies m hm).signer entry hentry).mpr hsame⟩,
        (hchecks.classifies m hm).signer⟩

/-! ## The manifest of a role reaches its registry -/

/-- What a role is given: no manifest, or one that the text of its file parses to. -/
inductive Supplied (files : String → Option ByteArray) (role : Role) :
    Option String → Option Ed25519LifecycleManifest → Prop
  | absent : Supplied files role none none
  | present {path text : String} {manifest : Ed25519LifecycleManifest} :
      files path = some text.toUTF8 →
      parseLifecycleManifest (.str text) role.policyName = .ok manifest →
      Supplied files role (some path) (some manifest)

omit [Ed25519Library] in
theorem fromValue_role {value : Value} {role : String} {manifest : Ed25519LifecycleManifest}
    (h : Ed25519LifecycleManifest.fromValue value role = .ok manifest) :
    ∃ fields, value = .dict fields ∧ get fields "role" = .str role := by
  simp only [Ed25519LifecycleManifest.fromValue, bind_eq_ok, orRaise_eq_ok, require_eq_ok] at h
  obtain ⟨fields, hfields, _, -, _, hrole, -⟩ := h
  cases value <;> cases hfields
  exact ⟨_, rfl, hrole⟩

omit [Ed25519Library] in
theorem fromJson_eq_ok {text role : String} {manifest : Ed25519LifecycleManifest} :
    Ed25519LifecycleManifest.fromJson text role = .ok manifest ↔
      ∃ value, loads rejectDuplicatePairs text = some value ∧
        Ed25519LifecycleManifest.fromValue value role = .ok manifest := by
  simp only [Ed25519LifecycleManifest.fromJson, bind_eq_ok, orRaise_eq_ok]

omit [Ed25519Library] in
theorem text_size_pos {text : String} {value : Value}
    (h : loads rejectDuplicatePairs text = some value) : 0 < text.toUTF8.size := by
  rcases Nat.eq_zero_or_pos text.toUTF8.size with hzero | hpos
  · have hempty : text = "" := by
      rw [String.toUTF8_eq_toByteArray, ByteArray.size_eq_zero_iff,
        String.toByteArray_eq_empty_iff] at hzero
      exact hzero
    have hnothing : loads rejectDuplicatePairs "" = none := by decide
    rw [hempty, hnothing] at h
    cases h
  · exact hpos

omit [Ed25519Library] in
theorem readExternalJson_text {text errorCode : String} {value raw : Value}
    (h : loads rejectDuplicatePairs text = some value) :
    readExternalJson (some text.toUTF8) errorCode = .ok raw ↔
      raw = value ∧ text.toUTF8.size ≤ 1024 * 1024 := by
  simp only [readExternalJson, bind_eq_ok, orRaise_eq_ok, require_eq_ok,
    AuthorityIssuance.fromUTF8?_toUTF8, Option.some.injEq, exists_eq_left', h, text_size_pos h,
    true_and]
  constructor
  · rintro ⟨_, hsize, hraw⟩
    exact ⟨hraw.symm, hsize⟩
  · rintro ⟨hraw, hsize⟩
    exact ⟨(), hsize, hraw.symm⟩

omit [Ed25519Library] in
/-- The host loads the manifest of the attestation role, and no other. -/
theorem hostManifest_supplied {files : String → Option ByteArray} {role : Role}
    {path : Option String} {manifest : Option Ed25519LifecycleManifest}
    (hsupplied : Supplied files role path manifest) :
    (∃ loaded, hostManifest files path role = .ok loaded) ↔
      path = none ∨ role = .attestation ∧
        ∀ data ∈ path.bind files, data.size ≤ 1024 * 1024 := by
  cases hsupplied with
  | absent => exact iff_of_true ⟨none, rfl⟩ (.inl rfl)
  | @present path text manifest hfile hparse =>
      obtain ⟨value, hvalue, hmanifest⟩ := fromJson_eq_ok.mp hparse
      obtain ⟨fields, rfl, hrole⟩ := fromValue_role hmanifest
      simp only [hostManifest, loadLifecycleManifest, bind_eq_ok, hfile,
        readExternalJson_text hvalue, guarded_eq_ok, pure_eq_ok, parseLifecycleManifest,
        reduceCtorEq, false_or, Option.bind_some, Option.mem_def, Option.some.injEq, forall_eq']
      constructor
      · rintro ⟨_, _, ⟨rfl, hsize⟩, loaded, hloaded, -⟩
        obtain ⟨_, hsame, hhost⟩ := fromValue_role hloaded
        obtain rfl := Value.dict.inj hsame
        rw [hrole] at hhost
        cases role with
        | attestation => exact ⟨rfl, hsize⟩
        | authorityBinding => exact absurd (Value.str.inj hhost) (by decide)
      · rintro ⟨rfl, hsize⟩
        exact ⟨_, _, ⟨rfl, hsize⟩, manifest, hmanifest, rfl⟩

omit [Ed25519Library] in
theorem hostManifest_same {files : String → Option ByteArray} {role : Role}
    {path : Option String} {manifest loaded : Option Ed25519LifecycleManifest}
    (hsupplied : Supplied files role path manifest)
    (h : hostManifest files path role = .ok loaded) : loaded = manifest := by
  have hfit := (hostManifest_supplied hsupplied).mp ⟨loaded, h⟩
  cases hsupplied with
  | absent => exact (Except.ok.inj h).symm
  | @present path text manifest hfile hparse =>
      obtain ⟨rfl, -⟩ := hfit.resolve_left (by simp)
      obtain ⟨value, hvalue, hmanifest⟩ := fromJson_eq_ok.mp hparse
      obtain ⟨fields, rfl, -⟩ := fromValue_role hmanifest
      simp only [hostManifest, loadLifecycleManifest, bind_eq_ok, hfile,
        readExternalJson_text hvalue, guarded_eq_ok, pure_eq_ok] at h
      obtain ⟨_, ⟨rfl, -⟩, found, hfound, rfl⟩ := h
      exact congrArg some (Except.ok.inj (hfound.symm.trans hmanifest))

/-- The policy of a role reaches its registry when it has no manifest, or has one
for the attestation role in a file that the host is ready to read. -/
theorem lifecycle_reaches_registry (files : String → Option ByteArray) (role : Role)
    (path : Option String) (manifest : Option Ed25519LifecycleManifest) (material : RoleMaterial)
    (result : Ed25519LifecyclePreflightResult)
    (hsupplied : Supplied files role path manifest)
    (hpreflight : preflightEd25519Lifecycle role.policyName material manifest = .ok result) :
    (∃ trust, roleTrust files path role material = .ok trust ∧ trust.preflight = result ∧
        Reaches material manifest trust) ↔
      path = none ∨ role = .attestation ∧
        ∀ data ∈ path.bind files, data.size ≤ 1024 * 1024 := by
  rw [← hostManifest_supplied hsupplied]
  constructor
  · rintro ⟨trust, htrust, -⟩
    simp only [roleTrust, bind_eq_ok] at htrust
    obtain ⟨loaded, hloaded, -⟩ := htrust
    exact ⟨loaded, hloaded⟩
  · rintro ⟨loaded, hloaded⟩
    obtain rfl := hostManifest_same hsupplied hloaded
    obtain ⟨registry, hregistry, hreaches⟩ := preflight_reaches hpreflight
    refine ⟨⟨result, registry⟩, ?_, rfl, hreaches⟩
    simp only [roleTrust, bind_eq_ok, pure_eq_ok]
    exact ⟨loaded, hloaded, result, hpreflight, registry, hregistry, rfl⟩

omit [Ed25519Library] in
theorem safeId_ok {text : String} (h : idPattern text = true) (field : String) :
    safeId (.str text) field = .ok text := by
  simp only [safeId, bind_eq_ok, orRaise_eq_ok, require_eq_ok, pure_eq_ok, Value.text?_eq_some]
  exact ⟨text, rfl, (), h, rfl⟩

omit [Ed25519Library] in
/-- An entry is made again from what it says. -/
theorem Ed25519LifecycleEntry.make_again (e : Ed25519LifecycleEntry) {state : String}
    (hstate : KeyState.parse state = some e.state) :
    Ed25519LifecycleEntry.make (.str e.issuerId) (.str e.keyId) (.str e.algorithm)
      (.str e.publicKeyFingerprint) (.str state) = .ok e := by
  obtain ⟨issuerId, keyId, algorithm, fingerprint, kept, hissuer, hkey, rfl, hfingerprint⟩ := e
  simp only [Ed25519LifecycleEntry.make, bind_eq_ok, require_eq_ok, safeId_ok hissuer,
    safeId_ok hkey, Except.ok.injEq, exists_eq_left']
  refine ⟨(), trivial, fingerprint, ?_, kept, ?_, ?_⟩
  · simp only [fingerprintText, bind_eq_ok, orRaise_eq_ok, require_eq_ok, pure_eq_ok,
      Value.text?_eq_some]
    exact ⟨fingerprint, rfl, (), hfingerprint, rfl⟩
  · simp only [stateOf, bind_eq_ok, orRaise_eq_ok, Value.text?_eq_some]
    exact ⟨state, rfl, hstate⟩
  · rw [dif_pos ⟨hissuer, hkey, hfingerprint⟩]
    rfl

omit [Ed25519Library] in
theorem checkEntries_ok {issuerId : String} {identities : List Ed25519LifecycleIdentity}
    {keyIds : List String} {entries : List Ed25519LifecycleEntry} {u : Unit}
    (hdistinct : (entries.map (·.keyId)).Nodup)
    (hnew : ∀ entry ∈ entries, entry.identity ∉ identities ∧ entry.keyId ∉ keyIds)
    (hissuer : ∀ entry ∈ entries, entry.issuerId = issuerId) :
    checkEntries issuerId identities keyIds entries = .ok u := by
  induction entries generalizing identities keyIds with
  | nil => rfl
  | cons entry rest ih =>
      rw [List.map_cons, List.nodup_cons] at hdistinct
      have hother : ∀ later ∈ rest, later.keyId ≠ entry.keyId := fun later hlater hsame =>
        hdistinct.1 (hsame ▸ List.mem_map_of_mem hlater)
      simp only [checkEntries, bind_eq_ok, require_eq_ok]
      refine ⟨(), hnew entry List.mem_cons_self, (), hissuer entry List.mem_cons_self,
        ih hdistinct.2 (fun later hlater => ?_)
          fun later hlater => hissuer later (List.mem_cons_of_mem _ hlater)⟩
      obtain ⟨hidentity, hkey⟩ := hnew later (List.mem_cons_of_mem _ hlater)
      simp only [List.mem_cons, not_or]
      exact ⟨⟨fun hsame => hother later hlater
        (congrArg Ed25519LifecycleIdentity.keyId hsame), hidentity⟩, hother later hlater, hkey⟩

omit [Ed25519Library] in
/-- A manifest is made again from what it says. -/
theorem Ed25519LifecycleManifest.make_again (m : Ed25519LifecycleManifest)
    (hissuer : idPattern m.issuerId = true) :
    Ed25519LifecycleManifest.make (.int m.version) m.role (.str m.issuerId) m.keys = .ok m := by
  obtain ⟨_, role, issuerId, keys, rfl, hrole, hkeys, hdistinct, hissuers⟩ := m
  simp only [Ed25519LifecycleManifest.make, bind_eq_ok, require_eq_ok, safeId_ok hissuer,
    Except.ok.injEq, exists_eq_left']
  refine ⟨(), trivial, (), hrole, (), hkeys, (), checkEntries_ok hdistinct
    (fun _ _ => ⟨List.not_mem_nil, List.not_mem_nil⟩) hissuers, ?_⟩
  rw [dif_pos ⟨hrole, hkeys, hdistinct, hissuers⟩]
  rfl

end

/-! ## A manifest for authority bindings -/

/-- Keys of one text each, which signs by writing it before the payload. -/
@[reducible] def textKeys : Ed25519Library where
  PublicKey := String
  PrivateKey := String
  derive := id
  publicBytes := String.toUTF8
  sign key payload := key.toUTF8 ++ payload
  verify key signature payload := signature.data = (key.toUTF8 ++ payload).data

section
attribute [local instance] textKeys

def sampleKey : TrustedEd25519Key where
  issuerId := "issuer-1"
  keyId := "key-1"
  publicKey := "public-key"
  issuerForm := by decide
  keyForm := by decide

def sampleMaterial : RoleMaterial where
  activeIssuerId := .str "issuer-1"
  activeKeyId := .str "key-1"
  privateKey := "public-key"
  publicKey := "public-key"
  trustCandidates := [sampleKey]

theorem fingerprint_pattern (key : Ed25519Library.PublicKey) :
    hexPattern "sha256:" (publicKeyFingerprint key) = true := by
  obtain ⟨hlength, hdigits⟩ :=
    ReferenceLibrary.sha256Hex_hexadecimal (Ed25519Library.publicBytes key).toList
  refine AttestationClaims.hexPattern_append ?_
  simp only [hexPattern, String.toList_empty, List.isPrefixOf_nil_left, List.length_nil,
    List.drop_zero, Bool.true_and, Bool.and_eq_true, decide_eq_true_eq, List.all_eq_true]
  exact ⟨hlength, hdigits⟩

def sampleEntry : Ed25519LifecycleEntry where
  issuerId := "issuer-1"
  keyId := "key-1"
  algorithm := "ed25519"
  publicKeyFingerprint := publicKeyFingerprint sampleKey.publicKey
  state := .active
  issuerForm := by decide
  keyForm := by decide
  algorithmForm := rfl
  fingerprintForm := fingerprint_pattern _

def sampleManifest (role : Role) : Ed25519LifecycleManifest where
  version := 1
  role := role.policyName
  issuerId := "issuer-1"
  keys := [sampleEntry]
  versionForm := rfl
  roleForm := by cases role <;> decide
  nonEmpty := List.cons_ne_nil _ _
  distinct := List.nodup_singleton _
  issuers := by simp [sampleEntry]

/-- The manifest as the JSON value of its file. -/
def sampleValue (role : Role) : Value :=
  .dict [("issuer_id", .str "issuer-1"),
    ("keys", .list [.dict [("algorithm", .str "ed25519"), ("issuer_id", .str "issuer-1"),
      ("key_id", .str "key-1"),
      ("public_key_fingerprint", .str (publicKeyFingerprint sampleKey.publicKey)),
      ("state", .str "active")]]),
    ("role", .str role.policyName), ("version", .int 1)]

theorem sampleValue_plain (role : Role) : Plain (sampleValue role) := by
  simp only [sampleValue, Plain, PlainEntries, PlainItems, List.map_cons, List.map_nil, and_true,
    true_and]
  exact ⟨by decide, by decide⟩

theorem sample_parses (role : Role) :
    parseLifecycleManifest (.str (dumps (sampleValue role))) role.policyName =
      .ok (sampleManifest role) := by
  have hentry : entryOf (.dict [("algorithm", .str "ed25519"), ("issuer_id", .str "issuer-1"),
      ("key_id", .str "key-1"),
      ("public_key_fingerprint", .str (publicKeyFingerprint sampleKey.publicKey)),
      ("state", .str "active")]) = .ok sampleEntry := by
    simp only [entryOf, bind_eq_ok, orRaise_eq_ok, require_eq_ok]
    exact ⟨_, rfl, (), rfl, sampleEntry.make_again rfl⟩
  have hvalue : Ed25519LifecycleManifest.fromValue (sampleValue role) role.policyName =
      .ok (sampleManifest role) := by
    simp only [Ed25519LifecycleManifest.fromValue, bind_eq_ok, orRaise_eq_ok, require_eq_ok,
      mapM_eq_ok]
    exact ⟨_, rfl, (), rfl, (), rfl, _, rfl, (), List.cons_ne_nil _ _, [sampleEntry],
      .cons hentry .nil,
      (sampleManifest role).make_again (by decide : idPattern "issuer-1" = true)⟩
  exact fromJson_eq_ok.mpr ⟨_, loads_dumps AuthorityIssuance.rejectDuplicatePairs_keeps
    (sampleValue_plain role), hvalue⟩

theorem sampleIdentity : sampleKey.identity = ⟨"issuer-1", "key-1", algorithmName⟩ := rfl

theorem sample_classify (role : Role) {manifest : Option Ed25519LifecycleManifest}
    (hmanifest : ∀ m ∈ manifest, m = sampleManifest role) :
    ∃ mode version, classify role.policyName [sampleKey] sampleKey.identity manifest =
      .ok ([(sampleKey.identity, .active)], mode, version) := by
  cases manifest with
  | none => exact ⟨"legacy", none, by simp [classify, legacyStates]⟩
  | some manifest =>
      obtain rfl := hmanifest manifest rfl
      refine ⟨"managed", some 1, ?_⟩
      have hentry : classifyEntry [sampleKey] sampleEntry = .ok (sampleKey.identity, .active) := by
        simp only [classifyEntry, bind_eq_ok, orRaise_eq_ok, require_eq_ok, pure_eq_ok]
        exact ⟨sampleKey, rfl, (), rfl, rfl⟩
      simp only [classify, managedStates, bind_eq_ok, require_eq_ok, pure_eq_ok, mapM_eq_ok]
      refine ⟨_, ⟨(), rfl, (), rfl, [(sampleKey.identity, .active)], .cons hentry .nil, (), ?_, (),
        rfl, (), rfl, rfl⟩, rfl⟩
      simp

theorem sample_preflight (role : Role) {manifest : Option Ed25519LifecycleManifest}
    (hmanifest : ∀ m ∈ manifest, m = sampleManifest role) :
    ∃ result, preflightEd25519Lifecycle role.policyName sampleMaterial manifest = .ok result := by
  obtain ⟨mode, version, hclassify⟩ := sample_classify role hmanifest
  simp only [preflightEd25519Lifecycle, bind_eq_ok, require_eq_ok, orRaise_eq_ok, pure_eq_ok,
    candidateMap_eq_ok]
  refine ⟨_, (), by cases role <;> decide, "issuer-1", safeId_ok (by decide) _, "key-1",
    safeId_ok (by decide) _, (), rfl, [sampleKey], ⟨rfl, List.cons_ne_nil _ _,
    List.nodup_singleton _⟩, sampleKey, rfl, (), rfl, _, hclassify, (), ?_, (), ?_, (), ?_, rfl⟩
  · simp [sampleIdentity]
  · simp [inState, KeyState.effective]
  · exact decide_eq_true rfl

/-- Without a manifest the attestation role trusts the bundle. -/
theorem lifecycle_reaches_registry_sample :
    ∃ trust, roleTrust (fun _ => none) none .attestation sampleMaterial = .ok trust ∧
      Reaches sampleMaterial none trust := by
  have hnone : ∀ m ∈ (none : Option Ed25519LifecycleManifest), m = sampleManifest .attestation :=
    fun m hm => by cases hm
  obtain ⟨result, hresult⟩ := sample_preflight .attestation hnone
  obtain ⟨trust, htrust, -, hreaches⟩ := (lifecycle_reaches_registry (fun _ => none) .attestation
    none none sampleMaterial result .absent hresult).mpr (.inl rfl)
  exact ⟨trust, htrust, hreaches⟩

end

/-- The manifest of the authority role is refused by the host. -/
theorem authority_manifest_refused :
    ¬∀ (_ : Ed25519Library) (files : String → Option ByteArray) (role : Role)
      (path : Option String) (manifest : Option Ed25519LifecycleManifest)
      (material : RoleMaterial) (result : Ed25519LifecyclePreflightResult),
      Supplied files role path manifest →
      preflightEd25519Lifecycle role.policyName material manifest = .ok result →
      ∃ trust, roleTrust files path role material = .ok trust ∧ trust.preflight = result ∧
        Reaches material manifest trust := by
  intro h
  let _ := textKeys
  have hsame : ∀ m ∈ some (sampleManifest .authorityBinding),
      m = sampleManifest .authorityBinding := fun m hm => (Option.some.inj hm).symm
  obtain ⟨result, hresult⟩ := sample_preflight .authorityBinding hsame
  have hsupplied : Supplied
      (fun _ => some (dumps (sampleValue .authorityBinding)).toUTF8) .authorityBinding
      (some "manifest.json") (some (sampleManifest .authorityBinding)) :=
    .present rfl (sample_parses .authorityBinding)
  obtain ⟨trust, htrust, -⟩ := h _ _ _ _ _ sampleMaterial result hsupplied hresult
  simp only [roleTrust, bind_eq_ok] at htrust
  obtain ⟨loaded, hloaded, -⟩ := htrust
  rcases (hostManifest_supplied hsupplied).mp ⟨loaded, hloaded⟩ with hnone | ⟨hrole, -⟩
  · cases hnone
  · cases hrole

end DeliverySystem.KeyLifecycle

import DeliverySystem.ConceptualPreviews
import DeliverySystem.MemoryPreviewStore
import DeliverySystem.PreviewHistories
import DeliverySystem.AttestationReference

/-!
# Resubmitted audits

An audit of the payload of the active one is answered with the active one. The
database looks among its active audits. The store in memory takes the first
audit of the payload, whatever its status: where an earlier audit of the payload
has been replaced and the payload has come back since, it replaces the active
audit once more, and with it every approval that was given for it.
-/
namespace DeliverySystem.ResubmittedAudits
open PythonValues CanonicalValues IssueCommands ExecutionContexts KeyedRows EventHistory
open ApplicationStatus AuditRecords EvidenceRecords RemoteSnapshots SealedPreviews PreviewStore
open AuditCommits PreviewHistories MemoryPreviewStore InMemoryPreviewStore ConceptualPreviews
open AuthorityBindings AttestationClaims AttestationArtifacts
open Relation
set_option autoImplicit false

section
variable [DatetimeLibrary] [PythonLibrary] [UnicodeLibrary] [IntegerLibrary] [CasefoldLibrary]

/-! ## The database -/

/-- What a commit checks before it looks for an audit of the same payload. -/
def checkCommit (context : StoreContext) (a : AuditRecord) (authority : AuditCommitAuthority)
    (s : PreviewTables) : Py Unit := do
  let missing := Raised.valueError "preview_not_found"
  let latest ← orRaise (s.previews.latestRevision a.previewId) missing
  raiseIf (latest ≠ a.revision) "audit_context_stale"
  let preview ← orRaise (s.previews.lookup (a.previewId, a.revision)) missing
  let named ← namedEvidence preview.canonicalPayload
  let evidence ← AuditCommits.readEvidenceRecords s named (some a.revision)
  let promotion ← reloadPromotion context.trustContext preview.canonicalPayload evidence
  validateCurrentAuditContext a authority preview evidence promotion context.workspaceIdentity
  verifyCandidate a authority preview.canonicalPayload evidence context.auditBackendScope

theorem applyAuditCommitAtomic_eq (context : StoreContext) (a : AuditRecord)
    (authority : AuditCommitAuthority) (s : PreviewTables) :
    AuditCommits.applyAuditCommitAtomic context a authority s =
      checkCommit context a authority s >>= fun _ => commitVerified a s := by
  simp only [AuditCommits.applyAuditCommitAtomic, checkCommit, bind_assoc]

omit [IntegerLibrary] [CasefoldLibrary] in
theorem verifyCandidate_formal {a : AuditRecord} {authority : AuditCommitAuthority}
    {canonical : Dict} {evidence : List Dict} {backendScope : String}
    (h : verifyCandidate a authority canonical evidence backendScope = .ok ()) :
    a.status = .active ∧ a.auditPayloadDigest ≠ "" := by
  simp only [verifyCandidate, bind_eq_ok, raiseIf_eq_ok, not_not, not_or] at h
  obtain ⟨_, hactive, projected, hprojected, _, ⟨hpayload, -⟩, -⟩ := h
  refine ⟨hactive, ?_⟩
  simp only [canonicalDigest, bind_eq_ok, pure_eq_ok] at hprojected
  obtain ⟨_, -, rfl⟩ := hprojected
  rw [hpayload]
  exact digest_ne_empty _

variable {s : PreviewTables}

/-- An accepted audit of the payload of an active one, in the database. -/
structure Repeats (context : StoreContext) (a : AuditRecord) (authority : AuditCommitAuthority)
    (b : AuditRecord) (s : PreviewTables) : Prop where
  accepted : checkCommit context a authority s = .ok ()
  stored : ∃ auditId, s.audits.latest auditId = some b
  beside : activeBeside a b
  payload : b.auditPayloadDigest = a.auditPayloadDigest

theorem Repeats.answered {context : StoreContext} {a b : AuditRecord}
    {authority : AuditCommitAuthority} (h : Repeats context a authority b s)
    (hs : PreviewHistories.Invariant s) :
    AuditCommits.applyAuditCommitAtomic context a authority s = .ok (s, b) := by
  have haccepted := h.accepted
  simp only [checkCommit, bind_eq_ok] at haccepted
  obtain ⟨_, -, _, -, _, -, _, -, _, -, _, -, _, -, hverified⟩ := haccepted
  obtain ⟨-, hformal⟩ := verifyCandidate_formal hverified
  have hactive : ∀ {auditId : String} {r : AuditRecord}, s.audits.latest auditId = some r →
      activeBeside a r → r.auditPayloadDigest = a.auditPayloadDigest →
      FormallyActive s auditId r := fun hr hbeside hpayload =>
    ⟨hr, hbeside.2.2, _, History.mem_of_latest hr, hpayload ▸ hformal⟩
  obtain ⟨auditId, hb⟩ := h.stored
  have hmem : b ∈ latestAudits s.audits := by
    rw [latestAudits, List.mem_map]
    refine ⟨(auditId, b), ?_, rfl⟩
    rw [List.mem_insertionSort]
    exact s.audits.mem_states.mpr hb
  have hfind : (latestAudits s.audits).find? (fun prior =>
      activeBeside a prior ∧ prior.auditPayloadDigest = a.auditPayloadDigest) = some b := by
    obtain ⟨found, hfound⟩ := Option.isSome_iff_exists.mp (List.find?_isSome.mpr
      ⟨b, hmem, by simpa using ⟨h.beside, h.payload⟩⟩ :
        ((latestAudits s.audits).find? fun prior =>
          activeBeside a prior ∧ prior.auditPayloadDigest = a.auditPayloadDigest).isSome = true)
    have hmatch := List.find?_some hfound
    simp only [decide_eq_true_eq] at hmatch
    have hlatest := List.mem_of_find?_eq_some hfound
    rw [latestAudits, List.mem_map] at hlatest
    obtain ⟨⟨otherId, other⟩, hstate, rfl⟩ := hlatest
    rw [List.mem_insertionSort, s.audits.mem_states] at hstate
    have hsame := hs.unique auditId otherId b other (hactive hb h.beside h.payload)
      (hactive hstate hmatch.1 hmatch.2) (h.beside.1.trans hmatch.1.1.symm)
    rw [hfound]
    rw [← hsame, hb] at hstate
    exact hstate.symm
  rw [applyAuditCommitAtomic_eq, h.accepted]
  simp only [bind, Except.bind, commitVerified, hfind]

/-! ## Histories in memory -/

/-- A save or a commit of the store in memory. -/
inductive MemoryStep (m : InMemoryPreviewStore) : InMemoryPreviewStore → Prop
  | saved {a : SaveArguments} {m' : InMemoryPreviewStore} (h : m.savePreviewRevision a = .ok m') :
      MemoryStep m m'
  | bound {promotion : RuntimePromotion} {a : SaveArguments} {m' : InMemoryPreviewStore}
      (h : m.bindAndSaveRepositoryAwarePreview promotion a = .ok m') : MemoryStep m m'
  | committed {a answered : AuditRecord} {authority : AuditCommitAuthority}
      {m' : InMemoryPreviewStore}
      (h : m.applyAuditCommitAtomic a authority = .ok (m', answered)) : MemoryStep m m'

/-- A store after some history of saves and commits. -/
def MemoryReachable (m : InMemoryPreviewStore) : Prop :=
  ∃ workspaceIdentity trustContext backendScope,
    ReflTransGen MemoryStep (.opened workspaceIdentity trustContext backendScope) m

/-- An audit stands under its own key, and one audit of a revision is active. -/
structure MemoryInvariant (m : InMemoryPreviewStore) : Prop where
  keyed : ∀ key a, m.audits.lookup key = some a → key = (a.workspaceIdentity, a.auditId)
  single : ∀ key key' a a', m.audits.lookup key = some a → m.audits.lookup key' = some a' →
    a.status = .active → a'.status = .active → a.workspaceIdentity = a'.workspaceIdentity →
    a.previewId = a'.previewId → a.revision = a'.revision → key = key'

variable {m m' : InMemoryPreviewStore}

/-- An audit that stays, or is made stale. -/
inductive Kept (a : AuditRecord) : AuditRecord → Prop
  | same : Kept a a
  | stale : Kept a (a.restamp .stale)

omit [UnicodeLibrary] [IntegerLibrary] [CasefoldLibrary] in
theorem Kept.key_eq {a b : AuditRecord} (h : Kept a b) :
    (b.workspaceIdentity, b.auditId) = (a.workspaceIdentity, a.auditId) := by
  cases h <;> rfl

omit [UnicodeLibrary] [IntegerLibrary] [CasefoldLibrary] in
theorem Kept.eq_of_active {a b : AuditRecord} (h : Kept a b) (hb : b.status = .active) :
    b = a := by
  cases h with
  | same => rfl
  | stale => cases hb

omit [UnicodeLibrary] [IntegerLibrary] [CasefoldLibrary] in
theorem replacedAudit_kept (scope : String) (b : PreviewBinding) (key : String × String)
    (a : AuditRecord) : Kept a (replacedAudit scope b key a) := by
  unfold replacedAudit
  split_ifs with h
  · rw [transition_stale h.2.1]
    exact .stale
  · exact .same

/-- What a save does to the audits. -/
theorem savePreviewRevisionImpl_audits {promotion : Option RuntimePromotion} {a : SaveArguments}
    (h : m.savePreviewRevisionImpl promotion a = .ok m') :
    m'.audits = m.audits ∨
      m'.audits = m.audits.mapRecords (replacedAudit (m.scope a.workspaceIdentity) a.binding) := by
  simp only [InMemoryPreviewStore.savePreviewRevisionImpl, bind_eq_ok] at h
  obtain ⟨_, -, canonical, -, items, -, _, -, h⟩ := h
  split_ifs at h
  · obtain rfl := pure_eq_ok.mp h
    exact .inl rfl
  · simp only [bind_eq_ok, pure_eq_ok] at h
    obtain ⟨_, -, records, -, rfl⟩ := h
    exact .inr rfl

/-- The record as a commit of `a` leaves it. -/
def besideAudit (a : AuditRecord) (key : String × String) (r : AuditRecord) : AuditRecord :=
  if key.1 = a.workspaceIdentity ∧ activeBeside a r then r.restamp .stale else r

omit [UnicodeLibrary] [IntegerLibrary] [CasefoldLibrary] in
theorem besideAudit_kept (a : AuditRecord) (key : String × String) (r : AuditRecord) :
    Kept r (besideAudit a key r) := by
  unfold besideAudit
  split_ifs
  · exact .stale
  · exact .same

/-- The active audits made stale one after another. -/
def stalePuts (workspace : String) (audits : Rows (String × String) AuditRecord)
    (actives : List AuditRecord) : Rows (String × String) AuditRecord :=
  actives.foldl (fun audits active =>
    audits.put (workspace, active.auditId) (active.restamp .stale)) audits

omit [UnicodeLibrary] [IntegerLibrary] [CasefoldLibrary] in
theorem foldlM_stale {workspace : String} {audits : Rows (String × String) AuditRecord}
    {actives : List AuditRecord} (h : ∀ active ∈ actives, active.status = .active) :
    actives.foldlM (fun audits active => do
      let stale ← active.transition .stale
      pure (Rows.put audits (workspace, active.auditId) stale)) audits =
        (.ok (stalePuts workspace audits actives) : Py _) := by
  induction actives generalizing audits with
  | nil => rfl
  | cons active rest ih =>
      obtain ⟨hactive, hrest⟩ := List.forall_mem_cons.mp h
      rw [List.foldlM_cons, transition_stale hactive]
      exact ih hrest

omit [UnicodeLibrary] [IntegerLibrary] [CasefoldLibrary] in
theorem lookup_stalePuts (workspace : String) (audits : Rows (String × String) AuditRecord)
    (actives : List AuditRecord) (key : String × String)
    (hdistinct : ∀ r ∈ actives, ∀ r' ∈ actives, r.auditId = r'.auditId → r = r') :
    (∀ r ∈ actives, key = (workspace, r.auditId) →
        (stalePuts workspace audits actives).lookup key = some (r.restamp .stale)) ∧
      ((∀ r ∈ actives, key ≠ (workspace, r.auditId)) →
        (stalePuts workspace audits actives).lookup key = audits.lookup key) := by
  induction actives generalizing audits with
  | nil => exact ⟨fun r hr => absurd hr List.not_mem_nil, fun _ => rfl⟩
  | cons active rest ih =>
      obtain ⟨hin, hout⟩ := ih (audits.put (workspace, active.auditId)
        (active.restamp .stale)) fun r hr r' hr' =>
          hdistinct r (List.mem_cons_of_mem _ hr) r' (List.mem_cons_of_mem _ hr')
      constructor
      · intro r hr hkey
        by_cases hlater : ∃ r' ∈ rest, key = (workspace, r'.auditId)
        · obtain ⟨r', hr', hkey'⟩ := hlater
          have hid : r.auditId = r'.auditId := congrArg Prod.snd (hkey.symm.trans hkey')
          rw [hdistinct r hr r' (List.mem_cons_of_mem _ hr') hid]
          exact hin r' hr' hkey'
        · push Not at hlater
          have hhead : r = active := by
            rcases List.mem_cons.mp hr with rfl | hr
            · rfl
            · exact absurd hkey (hlater r hr)
          subst hhead
          change (stalePuts workspace _ rest).lookup key = _
          rw [hout hlater, Rows.lookup_put, if_pos hkey]
      · intro hnone
        obtain ⟨hhead, hrest⟩ := List.forall_mem_cons.mp hnone
        change (stalePuts workspace _ rest).lookup key = _
        rw [hout hrest, Rows.lookup_put, if_neg hhead]

omit [PythonLibrary] [UnicodeLibrary] [IntegerLibrary] [CasefoldLibrary] in
theorem mem_listActiveAudits {a r : AuditRecord} :
    r ∈ m.listActiveAudits a ↔ ∃ key, m.audits.lookup key = some r ∧
      key.1 = a.workspaceIdentity ∧ activeBeside a r := by
  simp only [listActiveAudits, List.mem_map, List.mem_filter, decide_eq_true_eq,
    Rows.lookup_eq_some_iff]
  constructor
  · rintro ⟨⟨key, r⟩, ⟨hmem, hmatch⟩, rfl⟩
    exact ⟨key, hmem, hmatch⟩
  · rintro ⟨key, hmem, hmatch⟩
    exact ⟨(key, r), ⟨hmem, hmatch⟩, rfl⟩

omit [UnicodeLibrary] [IntegerLibrary] [CasefoldLibrary] in
/-- Making the active audits of a revision stale, key by key. -/
theorem MemoryInvariant.lookup_stale (hm : MemoryInvariant m) (a : AuditRecord)
    (key : String × String) :
    (stalePuts a.workspaceIdentity m.audits (m.listActiveAudits a)).lookup key =
      (m.audits.lookup key).map (besideAudit a key) := by
  have hkey : ∀ r ∈ m.listActiveAudits a,
      m.audits.lookup (a.workspaceIdentity, r.auditId) = some r ∧ activeBeside a r := by
    intro r hr
    obtain ⟨k, hlookup, hscope, hbeside⟩ := mem_listActiveAudits.mp hr
    have hown := hm.keyed k r hlookup
    have hid : k.2 = r.auditId := by rw [hown]
    have hsame : k = (a.workspaceIdentity, r.auditId) := Prod.ext hscope hid
    exact ⟨hsame ▸ hlookup, hbeside⟩
  obtain ⟨hin, hout⟩ := lookup_stalePuts a.workspaceIdentity m.audits (m.listActiveAudits a) key
    fun r hr r' hr' hid => by
      have hr'' := (hkey r hr).1
      rw [hid, (hkey r' hr').1] at hr''
      exact (Option.some.inj hr'').symm
  by_cases hlisted : ∃ r ∈ m.listActiveAudits a, key = (a.workspaceIdentity, r.auditId)
  · obtain ⟨r, hr, rfl⟩ := hlisted
    obtain ⟨hlookup, hbeside⟩ := hkey r hr
    rw [hin r hr rfl, hlookup, Option.map_some, besideAudit, if_pos ⟨rfl, hbeside⟩]
  · push Not at hlisted
    rw [hout hlisted]
    cases hlookup : m.audits.lookup key with
    | none => rfl
    | some r =>
        rw [Option.map_some, besideAudit, if_neg]
        rintro ⟨hscope, hbeside⟩
        have hid : key.2 = r.auditId := by rw [hm.keyed key r hlookup]
        exact hlisted r (mem_listActiveAudits.mpr ⟨key, hlookup, hscope, hbeside⟩)
          (Prod.ext hscope hid)

/-- What a commit that replaces the active audits leaves. -/
structure Replaced (a : AuditRecord) (m m' : InMemoryPreviewStore) : Prop where
  fresh : ∀ key r, m.audits.lookup key = some r → r.auditId ≠ a.auditId
  audits : ∀ key, m'.audits.lookup key = if key = (a.workspaceIdentity, a.auditId) then some a
    else (m.audits.lookup key).map (besideAudit a key)

omit [UnicodeLibrary] [IntegerLibrary] [CasefoldLibrary] in
theorem replaceActive_eq (m : InMemoryPreviewStore) (a : AuditRecord) :
    m.replaceActive a =
      if ∃ row ∈ (stalePuts a.workspaceIdentity m.audits (m.listActiveAudits a)).entries,
          row.1.2 = a.auditId then .error (.valueError "audit_persistence_failed")
      else .ok ({ m with audits := (stalePuts a.workspaceIdentity m.audits
        (m.listActiveAudits a)).put (a.workspaceIdentity, a.auditId) a }, a) := by
  have hactive : ∀ active ∈ m.listActiveAudits a, active.status = .active := fun r hr => by
    obtain ⟨_, -, -, hbeside⟩ := mem_listActiveAudits.mp hr
    exact hbeside.2.2
  rw [replaceActive, foldlM_stale hactive]
  split_ifs with hfresh
  · simp only [bind, Except.bind, raiseIf, if_pos hfresh, recode]
  · simp only [bind, Except.bind, raiseIf, if_neg hfresh, recode, pure, Except.pure]

omit [UnicodeLibrary] [IntegerLibrary] [CasefoldLibrary] in
theorem replaceActive_spec (hm : MemoryInvariant m) {a answered : AuditRecord}
    (h : m.replaceActive a = .ok (m', answered)) : answered = a ∧ Replaced a m m' := by
  rw [replaceActive_eq] at h
  split_ifs at h with hfresh
  obtain ⟨rfl, rfl⟩ := Prod.mk.inj (Except.ok.inj h)
  refine ⟨rfl, fun key r hr hid => hfresh ?_, fun key => ?_⟩
  · have hlater := hm.lookup_stale a key
    rw [hr, Option.map_some, Rows.lookup_eq_some_iff] at hlater
    have hown := hm.keyed key r hr
    exact ⟨_, hlater, by rw [hown]; exact hid⟩
  · rw [Rows.lookup_put, hm.lookup_stale]

theorem applyAuditCommitAtomic_audits (hm : MemoryInvariant m) {a answered : AuditRecord}
    {authority : AuditCommitAuthority}
    (h : m.applyAuditCommitAtomic a authority = .ok (m', answered)) :
    m' = m ∨ Replaced a m m' ∧ ∀ existing, m.findAuditByPayload a = some existing →
      existing.status ≠ .active := by
  simp only [InMemoryPreviewStore.applyAuditCommitAtomic, bind_eq_ok] at h
  obtain ⟨_, -, h⟩ := h
  split at h
  · rename_i existing hfound
    split_ifs at h with hactive
    · exact .inl (Prod.mk.inj (Except.ok.inj h)).1.symm
    · refine .inr ⟨(replaceActive_spec hm h).2, fun other hother => ?_⟩
      obtain rfl := Option.some.inj (hfound.symm.trans hother)
      exact hactive
  · rename_i hnone
    refine .inr ⟨(replaceActive_spec hm h).2, fun other hother => ?_⟩
    rw [hnone] at hother
    cases hother

/-! ## One active audit of a revision -/

omit [UnicodeLibrary] [IntegerLibrary] [CasefoldLibrary] in
/-- Audits that stay or are made stale keep the invariant. -/
theorem MemoryInvariant.kept (hm : MemoryInvariant m)
    (h : ∀ key r', m'.audits.lookup key = some r' → ∃ r, m.audits.lookup key = some r ∧ Kept r r') :
    MemoryInvariant m' := by
  constructor
  · intro key r' hr'
    obtain ⟨r, hr, hkept⟩ := h key r' hr'
    rw [hkept.key_eq]
    exact hm.keyed key r hr
  · intro key key' r₁ r₂ h₁ h₂ hactive₁ hactive₂ hworkspace hpreview hrevision
    obtain ⟨q₁, hq₁, hkept₁⟩ := h key r₁ h₁
    obtain ⟨q₂, hq₂, hkept₂⟩ := h key' r₂ h₂
    rw [← hkept₁.eq_of_active hactive₁] at hq₁
    rw [← hkept₂.eq_of_active hactive₂] at hq₂
    exact hm.single key key' r₁ r₂ hq₁ hq₂ hactive₁ hactive₂ hworkspace hpreview hrevision

omit [UnicodeLibrary] [IntegerLibrary] [CasefoldLibrary] in
theorem MemoryInvariant.replaced (hm : MemoryInvariant m) {a : AuditRecord}
    (h : Replaced a m m') : MemoryInvariant m' := by
  have hold : ∀ {key r}, m'.audits.lookup key = some r →
      key ≠ (a.workspaceIdentity, a.auditId) →
      ∃ q, m.audits.lookup key = some q ∧ r = besideAudit a key q := by
    intro key r hr hne
    rw [h.audits, if_neg hne, Option.map_eq_some_iff] at hr
    obtain ⟨q, hq, heq⟩ := hr
    exact ⟨q, hq, heq.symm⟩
  have hown : ∀ {r}, m'.audits.lookup (a.workspaceIdentity, a.auditId) = some r → r = a := by
    intro r hr
    rw [h.audits, if_pos rfl] at hr
    exact (Option.some.inj hr).symm
  -- an old audit that is still active is not on the revision of the new one
  have hapart : ∀ {key r}, m'.audits.lookup key = some r →
      key ≠ (a.workspaceIdentity, a.auditId) → r.status = .active →
      r.workspaceIdentity = a.workspaceIdentity → r.previewId = a.previewId →
      r.revision ≠ a.revision := by
    intro key r hr hne hactive hworkspace hpreview hrevision
    obtain ⟨q, hq, rfl⟩ := hold hr hne
    have hkey := hm.keyed key q hq
    unfold besideAudit at hactive hworkspace hpreview hrevision
    split_ifs at hactive hworkspace hpreview hrevision with hbeside
    · cases hactive
    · exact hbeside ⟨by rw [hkey, hworkspace], hpreview, hrevision, hactive⟩
  constructor
  · intro key r hr
    by_cases hkey : key = (a.workspaceIdentity, a.auditId)
    · subst hkey
      rw [hown hr]
    · obtain ⟨q, hq, rfl⟩ := hold hr hkey
      rw [(besideAudit_kept a key q).key_eq]
      exact hm.keyed key q hq
  · intro key key' r r' hr hr' hactive hactive' hworkspace hpreview hrevision
    by_cases hkey : key = (a.workspaceIdentity, a.auditId) <;>
      by_cases hkey' : key' = (a.workspaceIdentity, a.auditId)
    · rw [hkey, hkey']
    · subst hkey
      obtain rfl := hown hr
      exact absurd hrevision.symm
        (hapart hr' hkey' hactive' hworkspace.symm hpreview.symm)
    · subst hkey'
      obtain rfl := hown hr'
      exact absurd hrevision (hapart hr hkey hactive hworkspace hpreview)
    · obtain ⟨q, hq, rfl⟩ := hold hr hkey
      obtain ⟨q', hq', rfl⟩ := hold hr' hkey'
      rw [← (besideAudit_kept a key q).eq_of_active hactive] at hq
      rw [← (besideAudit_kept a key' q').eq_of_active hactive'] at hq'
      exact hm.single key key' _ _ hq hq' hactive hactive' hworkspace hpreview hrevision

theorem MemoryStep.invariant (h : MemoryStep m m') (hm : MemoryInvariant m) :
    MemoryInvariant m' := by
  have hsave : ∀ {promotion a}, m.savePreviewRevisionImpl promotion a = .ok m' →
      MemoryInvariant m' := by
    intro promotion a h
    rcases savePreviewRevisionImpl_audits h with haudits | haudits
    · exact hm.kept fun key r hr => ⟨r, haudits ▸ hr, .same⟩
    · refine hm.kept fun key r' hr' => ?_
      rw [haudits, Rows.lookup_mapRecords, Option.map_eq_some_iff] at hr'
      obtain ⟨r, hr, rfl⟩ := hr'
      exact ⟨r, hr, replacedAudit_kept _ _ _ _⟩
  cases h with
  | saved h => exact hsave h
  | bound h =>
      simp only [InMemoryPreviewStore.bindAndSaveRepositoryAwarePreview, bind_eq_ok] at h
      obtain ⟨_, -, _, -, _, -, _, -, h⟩ := h
      exact hsave h
  | committed h =>
      rcases applyAuditCommitAtomic_audits hm h with rfl | ⟨hreplaced, -⟩
      · exact hm
      · exact hm.replaced hreplaced

theorem MemoryReachable.invariant (h : MemoryReachable m) : MemoryInvariant m := by
  obtain ⟨workspaceIdentity, trustContext, backendScope, hsteps⟩ := h
  induction hsteps with
  | refl =>
      constructor
      · intro key a ha
        cases ha
      · intro key key' a a' ha
        cases ha
  | tail _ hstep ih => exact hstep.invariant ih

/-! ## The first audit of a payload -/

/-- An accepted audit of the payload of an active one, in memory. -/
structure MemoryRepeats (m : InMemoryPreviewStore) (a : AuditRecord)
    (authority : AuditCommitAuthority) (b : AuditRecord) : Prop where
  accepted : m.checkCommit a authority = .ok ()
  stored : ∃ key, m.audits.lookup key = some b
  workspace : b.workspaceIdentity = a.workspaceIdentity
  beside : activeBeside a b
  payload : b.auditPayloadDigest = a.auditPayloadDigest

/-- No audit of the payload came before `b`. -/
def NoneBefore (m : InMemoryPreviewStore) (a b : AuditRecord) : Prop :=
  ∃ key earlier later, m.audits.entries = earlier ++ (key, b) :: later ∧
    ∀ row ∈ earlier, ¬samePayload a row

omit [PythonLibrary] [UnicodeLibrary] [IntegerLibrary] [CasefoldLibrary] in
theorem MemoryInvariant.samePayload_of_lookup (hm : MemoryInvariant m) {a b : AuditRecord}
    {key : String × String} (hlookup : m.audits.lookup key = some b)
    (hworkspace : b.workspaceIdentity = a.workspaceIdentity) (hbeside : activeBeside a b)
    (hpayload : b.auditPayloadDigest = a.auditPayloadDigest) : samePayload a (key, b) := by
  have hkey := hm.keyed key b hlookup
  exact ⟨by rw [hkey]; exact hworkspace, hbeside.1, hbeside.2.1, hpayload⟩

omit [PythonLibrary] [UnicodeLibrary] [IntegerLibrary] [CasefoldLibrary] in
theorem findAuditByPayload_eq_some {a b : AuditRecord} :
    m.findAuditByPayload a = some b ↔ ∃ key earlier later,
      m.audits.entries = earlier ++ (key, b) :: later ∧ samePayload a (key, b) ∧
        ∀ row ∈ earlier, ¬samePayload a row := by
  simp only [findAuditByPayload, Option.map_eq_some_iff, List.find?_eq_some_iff_append,
    decide_eq_true_eq, Bool.not_eq_true', decide_eq_false_iff_not]
  constructor
  · rintro ⟨⟨key, r⟩, ⟨hsame, earlier, later, hentries, hnone⟩, rfl⟩
    exact ⟨key, earlier, later, hentries, hsame, hnone⟩
  · rintro ⟨key, earlier, later, hentries, hsame, hnone⟩
    exact ⟨(key, b), ⟨hsame, earlier, later, hentries, hnone⟩, rfl⟩

/-- The commit answers with the active audit and writes nothing exactly when that
audit is the first one of the payload. -/
theorem MemoryRepeats.answered_iff {a b : AuditRecord} {authority : AuditCommitAuthority}
    (h : MemoryRepeats m a authority b) (hm : MemoryInvariant m) :
    m.applyAuditCommitAtomic a authority = .ok (m, b) ↔ NoneBefore m a b := by
  obtain ⟨key, hb⟩ := h.stored
  have hcommit : m.applyAuditCommitAtomic a authority =
      (m.findAuditByPayload a).elim (m.replaceActive a) fun existing =>
        if existing.status = .active then .ok (m, existing) else m.replaceActive a := by
    rw [InMemoryPreviewStore.applyAuditCommitAtomic, h.accepted]
    cases m.findAuditByPayload a <;> rfl
  -- a commit that replaces answers with the new audit, whose identity is free
  have hnew : m.replaceActive a ≠ .ok (m, b) := by
    intro hreplace
    obtain ⟨rfl, hreplaced⟩ := replaceActive_spec hm hreplace
    exact hreplaced.fresh key b hb rfl
  constructor
  · intro hanswered
    rw [hcommit] at hanswered
    cases hfound : m.findAuditByPayload a with
    | some existing =>
        rw [hfound, Option.elim_some] at hanswered
        split_ifs at hanswered with hactive
        · obtain rfl := (Prod.mk.inj (Except.ok.inj hanswered)).2
          obtain ⟨k, earlier, later, hentries, -, hnone⟩ := findAuditByPayload_eq_some.mp hfound
          exact ⟨k, earlier, later, hentries, hnone⟩
        · exact absurd hanswered hnew
    | none =>
        rw [hfound, Option.elim_none] at hanswered
        exact absurd hanswered hnew
  · rintro ⟨k, earlier, later, hentries, hnone⟩
    have hlookup : m.audits.lookup k = some b := by
      rw [Rows.lookup_eq_some_iff, hentries]
      simp
    have hfound := findAuditByPayload_eq_some.mpr ⟨k, earlier, later, hentries,
      hm.samePayload_of_lookup hlookup h.workspace h.beside h.payload, hnone⟩
    rw [hcommit, hfound]
    exact if_pos h.beside.2.2

/-! ## Histories in which no payload comes back -/

/-- A step that commits no audit of a payload that has been replaced. -/
inductive UnreturnedStep (m : InMemoryPreviewStore) : InMemoryPreviewStore → Prop
  | saved {a : SaveArguments} {m' : InMemoryPreviewStore} (h : m.savePreviewRevision a = .ok m') :
      UnreturnedStep m m'
  | bound {promotion : RuntimePromotion} {a : SaveArguments} {m' : InMemoryPreviewStore}
      (h : m.bindAndSaveRepositoryAwarePreview promotion a = .ok m') : UnreturnedStep m m'
  | committed {a answered : AuditRecord} {authority : AuditCommitAuthority}
      {m' : InMemoryPreviewStore}
      (h : m.applyAuditCommitAtomic a authority = .ok (m', answered))
      (unreturned : ∀ row ∈ m.audits.entries, samePayload a row → row.2.status = .active) :
      UnreturnedStep m m'

def UnreturnedReachable (m : InMemoryPreviewStore) : Prop :=
  ∃ workspaceIdentity trustContext backendScope,
    ReflTransGen UnreturnedStep (.opened workspaceIdentity trustContext backendScope) m

theorem UnreturnedStep.step (h : UnreturnedStep m m') : MemoryStep m m' := by
  cases h with
  | saved h => exact .saved h
  | bound h => exact .bound h
  | committed h _ => exact .committed h

theorem UnreturnedReachable.reachable (h : UnreturnedReachable m) : MemoryReachable m := by
  obtain ⟨workspaceIdentity, trustContext, backendScope, hsteps⟩ := h
  exact ⟨workspaceIdentity, trustContext, backendScope,
    hsteps.lift id fun _ _ hstep => hstep.step⟩

/-- Two audits of one payload on one revision are one. -/
def OnePerPayload (m : InMemoryPreviewStore) : Prop :=
  ∀ key key' r r', m.audits.lookup key = some r → m.audits.lookup key' = some r' →
    key.1 = key'.1 → r.previewId = r'.previewId → r.revision = r'.revision →
    r.auditPayloadDigest = r'.auditPayloadDigest → key = key'

omit [UnicodeLibrary] [IntegerLibrary] [CasefoldLibrary] in
theorem Kept.subject_eq {a b : AuditRecord} (h : Kept a b) : b.previewId = a.previewId ∧
    b.revision = a.revision ∧ b.auditPayloadDigest = a.auditPayloadDigest := by
  cases h <;> exact ⟨rfl, rfl, rfl⟩

omit [UnicodeLibrary] [IntegerLibrary] [CasefoldLibrary] in
theorem OnePerPayload.kept (hm : OnePerPayload m)
    (h : ∀ key r', m'.audits.lookup key = some r' → ∃ r, m.audits.lookup key = some r ∧ Kept r r') :
    OnePerPayload m' := by
  intro key key' r₁ r₂ h₁ h₂ hscope hpreview hrevision hpayload
  obtain ⟨q₁, hq₁, hkept₁⟩ := h key r₁ h₁
  obtain ⟨q₂, hq₂, hkept₂⟩ := h key' r₂ h₂
  obtain ⟨hpreview₁, hrevision₁, hpayload₁⟩ := hkept₁.subject_eq
  obtain ⟨hpreview₂, hrevision₂, hpayload₂⟩ := hkept₂.subject_eq
  exact hm key key' q₁ q₂ hq₁ hq₂ hscope (by rw [← hpreview₁, hpreview, hpreview₂])
    (by rw [← hrevision₁, hrevision, hrevision₂]) (by rw [← hpayload₁, hpayload, hpayload₂])

omit [UnicodeLibrary] [IntegerLibrary] [CasefoldLibrary] in
theorem OnePerPayload.replaced (hone : OnePerPayload m) {a : AuditRecord}
    (h : Replaced a m m') (hnone : ∀ row ∈ m.audits.entries, ¬samePayload a row) :
    OnePerPayload m' := by
  have hcases : ∀ {key r}, m'.audits.lookup key = some r →
      key = (a.workspaceIdentity, a.auditId) ∧ r = a ∨
        ∃ q, m.audits.lookup key = some q ∧ Kept q r := by
    intro key r hr
    rw [h.audits] at hr
    split_ifs at hr with hkey
    · exact .inl ⟨hkey, (Option.some.inj hr).symm⟩
    · obtain ⟨q, hq, rfl⟩ := Option.map_eq_some_iff.mp hr
      exact .inr ⟨q, hq, besideAudit_kept a key q⟩
  -- an old audit has not the payload of the new one
  have hapart : ∀ {key q r}, m.audits.lookup key = some q → Kept q r →
      key.1 = a.workspaceIdentity → r.previewId = a.previewId → r.revision = a.revision →
      r.auditPayloadDigest ≠ a.auditPayloadDigest := by
    intro key q r hq hkept hscope hpreview hrevision hpayload
    obtain ⟨hpreview', hrevision', hpayload'⟩ := hkept.subject_eq
    exact hnone (key, q) (Rows.lookup_eq_some_iff.mp hq) ⟨hscope, by rw [← hpreview', hpreview],
      by rw [← hrevision', hrevision], by rw [← hpayload', hpayload]⟩
  intro key key' r r' hr hr' hscope hpreview hrevision hpayload
  rcases hcases hr with ⟨rfl, rfl⟩ | ⟨q, hq, hkept⟩ <;>
    rcases hcases hr' with ⟨rfl, rfl⟩ | ⟨q', hq', hkept'⟩
  · rfl
  · exact absurd hpayload.symm
      (hapart hq' hkept' hscope.symm hpreview.symm hrevision.symm)
  · exact absurd hpayload (hapart hq hkept hscope hpreview hrevision)
  · obtain ⟨hpreview₁, hrevision₁, hpayload₁⟩ := hkept.subject_eq
    obtain ⟨hpreview₂, hrevision₂, hpayload₂⟩ := hkept'.subject_eq
    exact hone key key' q q' hq hq' hscope (by rw [← hpreview₁, hpreview, hpreview₂])
      (by rw [← hrevision₁, hrevision, hrevision₂]) (by rw [← hpayload₁, hpayload, hpayload₂])

theorem UnreturnedStep.onePerPayload (h : UnreturnedStep m m') (hm : MemoryInvariant m)
    (hone : OnePerPayload m) : OnePerPayload m' := by
  have hsave : ∀ {promotion a}, m.savePreviewRevisionImpl promotion a = .ok m' →
      OnePerPayload m' := by
    intro promotion a h
    rcases savePreviewRevisionImpl_audits h with haudits | haudits
    · exact hone.kept fun key r hr => ⟨r, haudits ▸ hr, .same⟩
    · refine hone.kept fun key r' hr' => ?_
      rw [haudits, Rows.lookup_mapRecords, Option.map_eq_some_iff] at hr'
      obtain ⟨r, hr, rfl⟩ := hr'
      exact ⟨r, hr, replacedAudit_kept _ _ _ _⟩
  cases h with
  | saved h => exact hsave h
  | bound h =>
      simp only [InMemoryPreviewStore.bindAndSaveRepositoryAwarePreview, bind_eq_ok] at h
      obtain ⟨_, -, _, -, _, -, _, -, h⟩ := h
      exact hsave h
  | @committed a _ _ _ h unreturned =>
      rcases applyAuditCommitAtomic_audits hm h with rfl | ⟨hreplaced, hinactive⟩
      · exact hone
      · refine hone.replaced hreplaced fun row hrow hsame => ?_
        obtain ⟨found, hfound⟩ := Option.isSome_iff_exists.mp (List.find?_isSome.mpr
          ⟨row, hrow, by simpa using hsame⟩ :
            (m.audits.entries.find? fun row => samePayload a row).isSome = true)
        have hmatch := List.find?_some hfound
        simp only [decide_eq_true_eq] at hmatch
        refine hinactive found.2 ?_ (unreturned found (List.mem_of_find?_eq_some hfound) hmatch)
        rw [findAuditByPayload, hfound, Option.map_some]

theorem UnreturnedReachable.onePerPayload (h : UnreturnedReachable m) : OnePerPayload m := by
  obtain ⟨workspaceIdentity, trustContext, backendScope, hsteps⟩ := h
  induction hsteps with
  | refl =>
      intro key key' r r' hr
      cases hr
  | tail hprevious hstep ih =>
      have hreachable : UnreturnedReachable _ :=
        ⟨workspaceIdentity, trustContext, backendScope, hprevious⟩
      exact hstep.onePerPayload hreachable.reachable.invariant ih

omit [PythonLibrary] [UnicodeLibrary] [IntegerLibrary] [CasefoldLibrary] in
theorem OnePerPayload.noneBefore (hone : OnePerPayload m) (hm : MemoryInvariant m)
    {a b : AuditRecord} {key : String × String} (hlookup : m.audits.lookup key = some b)
    (hworkspace : b.workspaceIdentity = a.workspaceIdentity) (hbeside : activeBeside a b)
    (hpayload : b.auditPayloadDigest = a.auditPayloadDigest) : NoneBefore m a b := by
  have hmem := Rows.lookup_eq_some_iff.mp hlookup
  obtain ⟨earlier, later, hentries⟩ := List.append_of_mem hmem
  refine ⟨key, earlier, later, hentries, fun row hrow hsame => ?_⟩
  have hrow' : m.audits.lookup row.1 = some row.2 := by
    rw [Rows.lookup_eq_some_iff, hentries]
    exact List.mem_append_left _ hrow
  obtain ⟨hscope, hpreview, hrevision, hpayload'⟩ := hsame
  obtain ⟨hscope', hpreview', hrevision', hpayload''⟩ :=
    hm.samePayload_of_lookup hlookup hworkspace hbeside hpayload
  have hkey : row.1 = key := hone row.1 key row.2 b hrow' hlookup (hscope.trans hscope'.symm)
    (hpreview.trans hpreview'.symm) (hrevision.trans hrevision'.symm)
    (hpayload'.trans hpayload''.symm)
  have hnodup := m.audits.nodup
  rw [hentries, List.map_append, List.map_cons, List.nodup_append] at hnodup
  exact hnodup.2.2 row.1 (List.mem_map_of_mem hrow) key List.mem_cons_self hkey

/-- Both stores answer an audit of the payload of the active one with that audit
and write nothing: the database always, and the store in memory exactly when no
audit of the payload came before the active one, so through every history in
which no payload comes back after it was replaced. -/
theorem resubmitted_audit [SqliteLibrary] :
    (∀ workspace s, PreviewHistories.Reachable workspace s → ∀ context a authority b,
        StoreContext.workspaceIdentity context = workspace → Repeats context a authority b s →
        AuditCommits.applyAuditCommitAtomic context a authority s = .ok (s, b)) ∧
      (∀ m, MemoryReachable m → ∀ a authority b, MemoryRepeats m a authority b →
        (m.applyAuditCommitAtomic a authority = .ok (m, b) ↔ NoneBefore m a b)) ∧
      ∀ m, UnreturnedReachable m → ∀ a authority b, MemoryRepeats m a authority b →
        m.applyAuditCommitAtomic a authority = .ok (m, b) := by
  refine ⟨fun workspace s hs context a authority b _ h => h.answered hs.invariant,
    fun m hm a authority b h => h.answered_iff hm.invariant, fun m hm a authority b h => ?_⟩
  have hinvariant := hm.reachable.invariant
  obtain ⟨key, hb⟩ := h.stored
  exact (h.answered_iff hinvariant).mpr
    (hm.onePerPayload.noneBefore hinvariant hb h.workspace h.beside h.payload)

/-! ## A payload that comes back -/

omit [UnicodeLibrary] [IntegerLibrary] [CasefoldLibrary] in
/-- Making the active audits of a revision stale, as one pass over the rows. -/
theorem MemoryInvariant.stalePuts_eq (hm : MemoryInvariant m) (a : AuditRecord) :
    stalePuts a.workspaceIdentity m.audits (m.listActiveAudits a) =
      m.audits.mapRecords (besideAudit a) := by
  have hkeys : ∀ (actives : List AuditRecord) (audits : Rows (String × String) AuditRecord),
      (∀ r ∈ actives, (audits.lookup (a.workspaceIdentity, r.auditId)).isSome) →
      (stalePuts a.workspaceIdentity audits actives).entries.map Prod.fst =
        audits.entries.map Prod.fst := by
    intro actives
    induction actives with
    | nil => exact fun _ _ => rfl
    | cons r rest ih =>
        intro audits hpresent
        obtain ⟨hhead, hrest⟩ := List.forall_mem_cons.mp hpresent
        change (stalePuts a.workspaceIdentity (audits.put _ _) rest).entries.map Prod.fst = _
        rw [ih, Rows.keys_put, if_pos hhead]
        intro r' hr'
        rw [Rows.lookup_put]
        split_ifs
        · rfl
        · exact hrest r' hr'
  refine Rows.ext_lookup ?_ fun key => ?_
  · rw [hkeys, Rows.mapRecords, List.map_map]
    · rfl
    · intro r hr
      obtain ⟨key, hlookup, hscope, -⟩ := mem_listActiveAudits.mp hr
      have hown := hm.keyed key r hlookup
      have hid : key.2 = r.auditId := by rw [hown]
      have hsame : key = (a.workspaceIdentity, r.auditId) := Prod.ext hscope hid
      rw [← hsame, hlookup]
      rfl
  · rw [hm.lookup_stale, Rows.lookup_mapRecords]

section
variable [TimestampLibrary] [LawfulTextLibrary] [LawfulDigestLibrary] {p : EmptyPlan}

/-- The store that holds the Preview of a plan, and these audits. -/
def holding (p : EmptyPlan) (backendScope : String) (audits : Rows (String × String) AuditRecord) :
    InMemoryPreviewStore :=
  { InMemoryPreviewStore.opened (some p.workspaceIdentity) none backendScope with
    previews := Rows.put .empty (p.workspaceIdentity, p.previewId) p.saved
    previewHistory := Rows.put .empty (p.workspaceIdentity, p.previewId, p.revision) p.saved
    audits }

theorem holding_saved (h : p.Named) (backendScope : String) :
    (opened (some p.workspaceIdentity) none backendScope).savePreviewRevision p.arguments =
      .ok (holding p backendScope .empty) :=
  h.saved_memory rfl fun _ hsaved => by cases hsaved

theorem holding_accepts (h : p.Named) (o : EmptyPlan.Opinion) (backendScope : String)
    (audits : Rows (String × String) AuditRecord) :
    (holding p backendScope audits).checkCommit (h.audit o) (p.authority o backendScope) =
      .ok () := by
  have hreads := p.canonical_reads
  have hcanonical : p.saved.canonicalPayload = p.canonical := by
    simp only [EmptyPlan.saved]
  have htrust : (holding p backendScope audits).validateLoadedTrust p.saved = .ok () := by
    simp [validateLoadedTrust, hcanonical, hreads.previewLevel, pure, Except.pure]
  have hnamed : namedEvidence p.canonical = .ok [] := by
    have hempty : getOr p.canonical "evidence_ids" (.list []) = .list [] :=
      AcceptedPreviews.getOr_of_get hreads.empty.2.2.1 Value.noConfusion _
    simp [namedEvidence, hempty, Value.iterate, bind, Except.bind, pure, Except.pure]
  have hpromotion : reloadPromotion (holding p backendScope audits).trustContext p.canonical [] =
      .ok none := if_neg (by simp [repositoryLevel, hreads.previewLevel])
  have hremote : checkRemoteAuthority p.canonical none = .ok () := by
    simp [checkRemoteAuthority, hreads.remote.2.1, raiseIf]
  have hscope : (orText (holding p backendScope audits).workspaceIdentity
      (some p.workspaceIdentity)).getD "" = p.workspaceIdentity := by
    unfold orText
    split_ifs <;> rfl
  obtain ⟨hcontext, hcandidate⟩ := h.committable o backendScope
  have hhistory : (holding p backendScope audits).previewHistory.lookup
      (p.workspaceIdentity, p.previewId, p.revision) = some p.saved := by
    rw [holding, Rows.lookup_put]
    exact if_pos rfl
  have hlatest : (holding p backendScope audits).previews.lookup
      (p.workspaceIdentity, p.previewId) = some p.saved := by
    rw [holding, Rows.lookup_put]
    exact if_pos rfl
  have hkey : (h.audit o).workspaceIdentity = p.workspaceIdentity ∧
      (h.audit o).previewId = p.previewId ∧ (h.audit o).revision = p.revision := ⟨rfl, rfl, rfl⟩
  have hrevision : p.saved.revision = p.revision := by simp only [EmptyPlan.saved]
  have hbackend : (holding p backendScope audits).auditBackendScope = backendScope := rfl
  simp [InMemoryPreviewStore.checkCommit, hkey, hcanonical, hhistory, hlatest, htrust, hnamed,
    hpromotion, hremote, hscope, hcontext, hcandidate, hrevision, hbackend, orRaise, raiseIf,
    InMemoryPreviewStore.readEvidenceRecords, bind, Except.bind, pure, Except.pure]

/-- A commit whose payload was not the last to come adds its audit at the end and
makes the active one stale. -/
theorem holding_commits (h : p.Named) (o : EmptyPlan.Opinion) {backendScope : String}
    {audits : Rows (String × String) AuditRecord}
    (hm : MemoryInvariant (holding p backendScope audits))
    (hfresh : ∀ row ∈ audits.entries, row.1.2 ≠ o.auditId)
    (hinactive : ∀ existing, (holding p backendScope audits).findAuditByPayload (h.audit o) =
      some existing → existing.status ≠ .active) :
    ∃ audits', (holding p backendScope audits).applyAuditCommitAtomic (h.audit o)
          (p.authority o backendScope) = .ok (holding p backendScope audits', h.audit o) ∧
      audits'.entries = audits.entries.map (fun row =>
          (row.1, besideAudit (h.audit o) row.1 row.2)) ++
        [((p.workspaceIdentity, o.auditId), h.audit o)] := by
  set m := holding p backendScope audits
  set replaced := m.audits.mapRecords (besideAudit (h.audit o)) with hreplaced
  have hkeys : ∀ row ∈ replaced.entries, row.1.2 ≠ o.auditId := by
    intro row hrow
    simp only [hreplaced, Rows.mapRecords, List.mem_map] at hrow
    obtain ⟨old, hold, rfl⟩ := hrow
    exact hfresh old hold
  have hreplace : m.replaceActive (h.audit o) =
      .ok (holding p backendScope (replaced.put (p.workspaceIdentity, o.auditId) (h.audit o)),
        h.audit o) := by
    rw [replaceActive_eq, hm.stalePuts_eq, if_neg]
    · rfl
    · rintro ⟨row, hrow, hid⟩
      exact hkeys row hrow hid
  have hfree : replaced.lookup (p.workspaceIdentity, o.auditId) = none := by
    rw [Rows.lookup_eq_none_iff]
    intro hmem
    obtain ⟨row, hrow, hkey⟩ := List.mem_map.mp hmem
    exact hkeys row hrow (congrArg Prod.snd hkey)
  refine ⟨replaced.put (p.workspaceIdentity, o.auditId) (h.audit o), ?_,
    Rows.entries_put_fresh (h.audit o) hfree⟩
  rw [InMemoryPreviewStore.applyAuditCommitAtomic, holding_accepts h o backendScope audits]
  simp only [bind, Except.bind]
  split
  · rename_i existing hfound
    rw [if_neg (hinactive existing hfound), hreplace]
  · rw [hreplace]

omit [IntegerLibrary] [CasefoldLibrary] [TimestampLibrary] [LawfulTextLibrary]
  [LawfulDigestLibrary] in
theorem besideAudit_audit (h : p.Named) (o o' : EmptyPlan.Opinion) (auditId : String) :
    besideAudit (h.audit o) (p.workspaceIdentity, auditId) (h.audit o') =
      (h.audit o').restamp .stale :=
  if_pos ⟨rfl, rfl, rfl, rfl⟩

omit [IntegerLibrary] [CasefoldLibrary] [TimestampLibrary] [LawfulTextLibrary]
  [LawfulDigestLibrary] in
theorem besideAudit_stale (h : p.Named) (o o' : EmptyPlan.Opinion) (key : String × String) :
    besideAudit (h.audit o) key ((h.audit o').restamp .stale) = (h.audit o').restamp .stale :=
  if_neg fun hbeside => AuditStatus.noConfusion hbeside.2.2.2

/-- The digest of the payload that an audit of the plan has for its opinion. -/
def opinionDigest (p : EmptyPlan) (o : EmptyPlan.Opinion) : String :=
  p.payloadDigest o.registryVersion o.registryDigest o.result

/-- An audit, another one, and the payload of the first again: the next audit of
that payload replaces the active one. -/
theorem returned_replaced (h : p.Named) (o₁ o₂ o₃ o₄ : EmptyPlan.Opinion) (backendScope : String)
    (hids : [o₁.auditId, o₂.auditId, o₃.auditId, o₄.auditId].Nodup)
    (hother : opinionDigest p o₂ ≠ opinionDigest p o₁)
    (hsame₃ : opinionDigest p o₃ = opinionDigest p o₁)
    (hsame₄ : opinionDigest p o₄ = opinionDigest p o₁) :
    ∃ m m' : InMemoryPreviewStore, MemoryReachable m ∧
      MemoryRepeats m (h.audit o₄) (p.authority o₄ backendScope) (h.audit o₃) ∧
      m.applyAuditCommitAtomic (h.audit o₄) (p.authority o₄ backendScope) =
        .ok (m', h.audit o₄) ∧
      m'.audits.lookup (p.workspaceIdentity, o₃.auditId) =
        some ((h.audit o₃).restamp .stale) := by
  simp only [List.nodup_cons, List.mem_cons, List.not_mem_nil, or_false, not_or] at hids
  obtain ⟨⟨h₁₂, h₁₃, h₁₄⟩, ⟨h₂₃, h₂₄⟩, h₃₄, -⟩ := hids
  have hopened : MemoryReachable (holding p backendScope .empty) :=
    ⟨some p.workspaceIdentity, none, backendScope, .single (.saved (holding_saved h _))⟩
  have hnext : ∀ {audits audits' o}, MemoryReachable (holding p backendScope audits) →
      (holding p backendScope audits).applyAuditCommitAtomic (h.audit o)
        (p.authority o backendScope) = .ok (holding p backendScope audits', h.audit o) →
      MemoryReachable (holding p backendScope audits') := by
    rintro audits audits' o ⟨w, t, b, hsteps⟩ hcommit
    exact ⟨w, t, b, hsteps.tail (.committed hcommit)⟩
  -- the first audit of the payload, once it is stale, is found before any other
  have hfirst : ∀ {audits : Rows (String × String) AuditRecord} {rest o},
      audits.entries = ((p.workspaceIdentity, o₁.auditId), (h.audit o₁).restamp .stale) :: rest →
      opinionDigest p o = opinionDigest p o₁ → ∀ existing,
        (holding p backendScope audits).findAuditByPayload (h.audit o) = some existing →
          existing.status ≠ .active := by
    intro audits rest o hentries hdigest existing hfound
    have hmatch : samePayload (h.audit o)
        ((p.workspaceIdentity, o₁.auditId), (h.audit o₁).restamp .stale) :=
      ⟨rfl, rfl, rfl, hdigest.symm⟩
    change (audits.entries.find? fun row => samePayload (h.audit o) row).map Prod.snd = _
      at hfound
    rw [hentries, List.find?_cons_of_pos (by simpa using hmatch), Option.map_some] at hfound
    obtain rfl := Option.some.inj hfound
    exact AuditStatus.noConfusion
  obtain ⟨audits₁, hcommit₁, hentries₁⟩ := holding_commits h o₁ hopened.invariant
    (fun row hrow => absurd hrow List.not_mem_nil) fun _ hfound => by cases hfound
  have hreach₁ := hnext hopened hcommit₁
  rw [Rows.entries_empty, List.map_nil, List.nil_append] at hentries₁
  obtain ⟨audits₂, hcommit₂, hentries₂⟩ := holding_commits h o₂ hreach₁.invariant
    (by simpa [hentries₁] using h₁₂) fun existing hfound => by
      change (audits₁.entries.find? fun row => samePayload (h.audit o₂) row).map Prod.snd = _
        at hfound
      have hapart : ¬samePayload (h.audit o₂)
          ((p.workspaceIdentity, o₁.auditId), h.audit o₁) := fun hsame =>
        hother hsame.2.2.2.symm
      rw [hentries₁, List.find?_cons_of_neg (by simpa using hapart)] at hfound
      cases hfound
  have hreach₂ := hnext hreach₁ hcommit₂
  simp only [hentries₁, List.map_cons, List.map_nil, List.cons_append, List.nil_append,
    besideAudit_audit] at hentries₂
  obtain ⟨audits₃, hcommit₃, hentries₃⟩ := holding_commits h o₃ hreach₂.invariant
    (by simpa [hentries₂] using ⟨h₁₃, h₂₃⟩) (hfirst hentries₂ hsame₃)
  have hreach₃ := hnext hreach₂ hcommit₃
  simp only [hentries₂, List.map_cons, List.map_nil, List.cons_append, List.nil_append,
    besideAudit_audit, besideAudit_stale] at hentries₃
  obtain ⟨audits₄, hcommit₄, hentries₄⟩ := holding_commits h o₄ hreach₃.invariant
    (by simpa [hentries₃] using ⟨h₁₄, h₂₄, h₃₄⟩) (hfirst hentries₃ hsame₄)
  simp only [hentries₃, List.map_cons, List.map_nil, List.cons_append, List.nil_append,
    besideAudit_audit, besideAudit_stale] at hentries₄
  refine ⟨_, _, hreach₃, ⟨holding_accepts h o₄ backendScope audits₃,
    ⟨(p.workspaceIdentity, o₃.auditId), ?_⟩, rfl, ⟨rfl, rfl, rfl⟩, hsame₃.trans hsame₄.symm⟩,
    hcommit₄, ?_⟩
  · change audits₃.lookup _ = _
    rw [Rows.lookup_eq_some_iff, hentries₃]
    simp
  · change audits₄.lookup _ = _
    rw [Rows.lookup_eq_some_iff, hentries₄]
    simp

/-! ## The same plan in the database -/

theorem database_accepts (h : p.Named) (o : EmptyPlan.Opinion) {context : StoreContext}
    {s : PreviewTables} (hscope : context.workspaceIdentity = p.workspaceIdentity)
    (hlatest : s.previews.latestRevision p.previewId = some p.revision)
    (hsaved : s.previews.lookup (p.previewId, p.revision) = some p.saved) :
    ResubmittedAudits.checkCommit context (h.audit o) (p.authority o context.auditBackendScope) s =
      .ok () := by
  have hreads := p.canonical_reads
  have hcanonical : p.saved.canonicalPayload = p.canonical := by
    simp only [EmptyPlan.saved]
  have hnamed : namedEvidence p.canonical = .ok [] := by
    have hempty : getOr p.canonical "evidence_ids" (.list []) = .list [] :=
      AcceptedPreviews.getOr_of_get hreads.empty.2.2.1 Value.noConfusion _
    simp [namedEvidence, hempty, Value.iterate, bind, Except.bind, pure, Except.pure]
  have hpromotion : reloadPromotion context.trustContext p.canonical [] = .ok none :=
    if_neg (by simp [repositoryLevel, hreads.previewLevel])
  obtain ⟨hcontext, hcandidate⟩ := h.committable o context.auditBackendScope
  have hkey : (h.audit o).workspaceIdentity = p.workspaceIdentity ∧
      (h.audit o).previewId = p.previewId ∧ (h.audit o).revision = p.revision := ⟨rfl, rfl, rfl⟩
  simp [ResubmittedAudits.checkCommit, hkey, hcanonical, hlatest, hsaved, hnamed, hpromotion,
    hscope, hcontext, hcandidate, orRaise, raiseIf, AuditCommits.readEvidenceRecords, bind,
    Except.bind, pure, Except.pure]

/-- The Preview saved and an audit of it committed, in one database. -/
theorem database_holds [SqliteLibrary] (h : p.Named) (o : EmptyPlan.Opinion)
    (context : StoreContext) (hscope : context.workspaceIdentity = p.workspaceIdentity)
    (hmax : p.revision ≤ maxInteger) :
    ∃ s, PreviewHistories.Reachable p.workspaceIdentity s ∧
      s.previews.latestRevision p.previewId = some p.revision ∧
      s.previews.lookup (p.previewId, p.revision) = some p.saved ∧
      s.audits = History.empty.append o.auditId (h.audit o) := by
  have hnone : (PreviewTables.empty).previews.latestRevision p.previewId = none := rfl
  obtain ⟨s, hsave, hinsert, -, -, -, haudits⟩ := h.saved_database (s := .empty) hscope hmax
    fun latest hlatest => by
      rw [hnone] at hlatest
      cases hlatest
  have hlatest : s.previews.latestRevision p.previewId = some p.revision := by
    rw [Rows.latestRevision_insert hinsert (fun m hm => by rw [hnone] at hm; cases hm), if_pos rfl]
  have hsaved : s.previews.lookup (p.previewId, p.revision) = some p.saved := by
    rw [Rows.lookup_insert hinsert, if_pos rfl]
  have hempty : s.audits = History.empty := haudits
  have hcommit : AuditCommits.applyAuditCommitAtomic context (h.audit o)
      (p.authority o context.auditBackendScope) s =
        .ok ({ s with audits := s.audits.append o.auditId (h.audit o) }, h.audit o) := by
    rw [applyAuditCommitAtomic_eq, database_accepts h o hscope hlatest hsaved]
    simp only [bind, Except.bind, commitVerified, hempty]
    rfl
  refine ⟨{ s with audits := s.audits.append o.auditId (h.audit o) },
    .tail (.single ⟨context, .savePreviewRevision p.arguments, hscope, hsave⟩)
      ⟨context, .applyAuditCommitAtomic (h.audit o) (p.authority o context.auditBackendScope),
        hscope, ?_⟩, hlatest, hsaved, congrArg (History.append · o.auditId (h.audit o)) hempty⟩
  rw [perform, hcommit]
  rfl

end
end

/-! ## Runs -/

/-- Python's parser, on one time in UTC. -/
@[reducible] def sampleDatetimes : DatetimeLibrary where
  fromisoformat s :=
    if s = "2026-01-01T00:00:00Z".replace "Z" "+00:00" then
      some ⟨AttestationReference.issuedInstant, some 0⟩
    else none

section
attribute [local instance] ReferenceLibrary.referenceLibrary sampleDatetimes referenceUnicode
  referenceIntegers referenceCasefold referenceSqlite IssuanceHistories.referenceTimestamps
  IssuanceHistories.referenceLibrary_lawful AttestationReference.referenceLibrary_digests

def sampleOpinion (auditId : String) (h : auditId ≠ "") (result : AuditResult) :
    EmptyPlan.Opinion where
  auditId := auditId
  result := result
  registryVersion := "1"
  registryDigest := "registry-1"
  createdAt := "2026-01-01T00:00:00Z"
  present := h
  registry := ⟨Graphic.settled (by decide : Graphic "1") (by decide),
    Graphic.settled (by decide : Graphic "registry-1") (by decide)⟩
  created := ⟨by decide, by
    rw [parseTimestamp]
    change (if "2026-01-01T00:00:00Z".replace "Z" "+00:00" =
        "2026-01-01T00:00:00Z".replace "Z" "+00:00" then
      some (⟨AttestationReference.issuedInstant, some 0⟩ : ParsedDatetime) else none).bind
        ParsedDatetime.offset = some 0
    rw [if_pos rfl]
    rfl⟩

theorem sample_planDigest : EmptyPlan.planDigest =
    "sha256:44136fa355b3678a1146ad16f7e8649e94fb4fc21fe77e8310c060f61caaff8a" := by
  rw [EmptyPlan.planDigest, ReferenceLibrary.referenceLibrary_digest]
  decide +kernel

theorem sample_operationSetDigest : EmptyPlan.operationSetDigest =
    "sha256:ba5624360ac5d36813a9164c26097f580a7bc1f3fcda4d729737301b4ac4cc62" := by
  rw [EmptyPlan.operationSetDigest, ReferenceLibrary.referenceLibrary_digest]
  decide +kernel

theorem sample_sealDigest : (EmptyPlan.sample 1).sealDigest =
    "sha256:fa80fa46b2d132c6e1c5074821b98e1b710e70d474f7835cf81c91a799ce6a5e" := by
  rw [EmptyPlan.sealDigest, EmptyPlan.entries, sample_planDigest, sample_operationSetDigest,
    ReferenceLibrary.referenceLibrary_digest]
  decide +kernel

theorem sample_contextDigest : (EmptyPlan.sample 1).contextDigest "1" "registry-1" =
    "sha256:a5b38ef77814cd585e6f604d06f40a4bc8ea6800e848707d6c34578a2a122cac" := by
  rw [EmptyPlan.contextDigest, EmptyPlan.contextEntries, sample_sealDigest,
    ReferenceLibrary.referenceLibrary_digest]
  decide +kernel

theorem sample_blockedDigest : (EmptyPlan.sample 1).payloadDigest "1" "registry-1" .blocked =
    "sha256:5b2e2506297071d5a9b0aa58e7513de648ea9da599d6b9cef18af725b2b0bab0" := by
  rw [EmptyPlan.payloadDigest, EmptyPlan.projectionEntries, sample_sealDigest,
    sample_contextDigest, sample_planDigest, sample_operationSetDigest,
    ReferenceLibrary.referenceLibrary_digest]
  decide +kernel

theorem sample_passedDigest : (EmptyPlan.sample 1).payloadDigest "1" "registry-1" .passed =
    "sha256:0662963afa8ee865427d534cb058a222d7680429cb0468649b30606a8b083104" := by
  rw [EmptyPlan.payloadDigest, EmptyPlan.projectionEntries, sample_sealDigest,
    sample_contextDigest, sample_planDigest, sample_operationSetDigest,
    ReferenceLibrary.referenceLibrary_digest]
  decide +kernel

theorem sample_payloadDigest : (EmptyPlan.sample 1).payloadDigest "1" "registry-1" .blocked ≠
    (EmptyPlan.sample 1).payloadDigest "1" "registry-1" .passed := by
  rw [sample_blockedDigest, sample_passedDigest]
  decide

end

/-- Audits that passed, were blocked, passed and passed: the fourth, of the payload
of the active third, replaces it. -/
theorem resubmitted_audit_replaces :
    ∃ (_ : DatetimeLibrary) (_ : PythonLibrary) (_ : UnicodeLibrary) (_ : IntegerLibrary)
      (_ : CasefoldLibrary) (m m' : InMemoryPreviewStore) (a b : AuditRecord)
      (authority : AuditCommitAuthority), MemoryReachable m ∧ MemoryRepeats m a authority b ∧
        m.applyAuditCommitAtomic a authority = .ok (m', a) ∧ a.auditId ≠ b.auditId ∧
        m'.audits.lookup (b.workspaceIdentity, b.auditId) = some (b.restamp .stale) := by
  have hlawful := IssuanceHistories.referenceLibrary_lawful
  have hdigests := AttestationReference.referenceLibrary_digests
  have hother := sample_payloadDigest
  let _ := ReferenceLibrary.referenceLibrary
  let _ := sampleDatetimes
  let _ := referenceUnicode
  let _ := referenceIntegers
  let _ := referenceCasefold
  let _ := IssuanceHistories.referenceTimestamps
  have hnamed := EmptyPlan.sample_named (le_refl 1)
  obtain ⟨m, m', hreach, hrepeats, hcommit, hlookup⟩ := returned_replaced hnamed
    (sampleOpinion "audit-1" (by decide) .passed) (sampleOpinion "audit-2" (by decide) .blocked)
    (sampleOpinion "audit-3" (by decide) .passed) (sampleOpinion "audit-4" (by decide) .passed)
    "scope-1" (by decide) hother rfl rfl
  exact ⟨_, _, _, _, _, m, m', _, _, _, hreach, hrepeats, hcommit,
    (by decide : "audit-4" ≠ "audit-3"), hlookup⟩

/-- A second audit that passes is answered with the first one in both stores. -/
theorem resubmitted_audit_sample :
    ∃ (_ : DatetimeLibrary) (_ : PythonLibrary) (_ : UnicodeLibrary) (_ : IntegerLibrary)
      (_ : CasefoldLibrary) (_ : SqliteLibrary) (context : StoreContext) (s : PreviewTables)
      (m : InMemoryPreviewStore) (a b : AuditRecord) (authority : AuditCommitAuthority),
      a.auditId ≠ b.auditId ∧
        AuditCommits.applyAuditCommitAtomic context a authority s = .ok (s, b) ∧
        m.applyAuditCommitAtomic a authority = .ok (m, b) := by
  have hlawful := IssuanceHistories.referenceLibrary_lawful
  have hdigests := AttestationReference.referenceLibrary_digests
  let _ := ReferenceLibrary.referenceLibrary
  let _ := sampleDatetimes
  let _ := referenceUnicode
  let _ := referenceIntegers
  let _ := referenceCasefold
  let _ := referenceSqlite
  let _ := IssuanceHistories.referenceTimestamps
  have h := EmptyPlan.sample_named (le_refl 1)
  let context : StoreContext := ⟨"workspace-1", none, "scope-1"⟩
  let first := sampleOpinion "audit-1" (by decide) .passed
  let second := sampleOpinion "audit-2" (by decide) .passed
  obtain ⟨s, hs, hlatest, hsaved, haudits⟩ :=
    database_holds h first context rfl (by decide)
  have hrepeats : Repeats context (h.audit second)
      ((EmptyPlan.sample 1).authority second context.auditBackendScope) (h.audit first) s :=
    { accepted := database_accepts h second rfl hlatest hsaved
      stored := ⟨"audit-1", by rw [haudits]; exact History.latest_append_self _ _ _⟩
      beside := ⟨rfl, rfl, rfl⟩
      payload := rfl }
  have hopened : UnreturnedReachable (holding (EmptyPlan.sample 1) "scope-1" .empty) :=
    ⟨some "workspace-1", none, "scope-1", .single (.saved (holding_saved h _))⟩
  obtain ⟨audits, hcommit, hentries⟩ := holding_commits h first hopened.reachable.invariant
    (fun row hrow => absurd hrow List.not_mem_nil) fun _ hfound => by cases hfound
  have hreach : UnreturnedReachable (holding (EmptyPlan.sample 1) "scope-1" audits) := by
    obtain ⟨w, t, b, hsteps⟩ := hopened
    exact ⟨w, t, b, hsteps.tail (.committed hcommit fun row hrow => absurd hrow List.not_mem_nil)⟩
  have hmemory : MemoryRepeats (holding (EmptyPlan.sample 1) "scope-1" audits) (h.audit second)
      ((EmptyPlan.sample 1).authority second "scope-1") (h.audit first) :=
    { accepted := holding_accepts h second "scope-1" audits
      stored := ⟨("workspace-1", "audit-1"), by
        change audits.lookup _ = _
        rw [Rows.lookup_eq_some_iff, hentries]
        exact List.mem_append_right _ List.mem_cons_self⟩
      workspace := rfl
      beside := ⟨rfl, rfl, rfl⟩
      payload := rfl }
  exact ⟨_, _, _, _, _, referenceSqlite, context, s, _, _, _, _, (by decide : "audit-2" ≠ "audit-1"),
    resubmitted_audit.1 "workspace-1" s hs context _ _ _ rfl hrepeats,
    resubmitted_audit.2.2 _ hreach _ _ _ hmemory⟩

end DeliverySystem.ResubmittedAudits

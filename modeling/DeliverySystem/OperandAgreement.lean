import DeliverySystem.PostconditionObservation
import DeliverySystem.DispatchHistory

/-!
# When the observer resolves the operands of the command

The Applier materialized a relationship command; the observer resolves the
operands of the same operation from the same receipts. It finds the same two
issues exactly when each created operand was stored with an identity that names
its node, and no reference of a V1 Preview reads as a tagged endpoint.
-/
namespace DeliverySystem.OperandAgreement
open PythonValues WriteOperations ApplicationIdentity ExecutionRecords ExecutionContexts
open KeyedRows ExecutionStore ExecutionTransactions ExecutionInvariant ApplicationStatus
open IssueCommands WriteOperationRepeats Applier ApplierLedger PostconditionObservation
set_option autoImplicit false

/-! ## Tagged references -/

theorem untagged?_eq_some {tag ref name : String} :
    untagged? tag ref = some name ↔ ref = tag ++ name := by
  unfold untagged?
  rw [← String.toList_inj, String.toList_append]
  constructor
  · intro h
    split_ifs at h with hprefix
    obtain ⟨rest, hrest⟩ := List.isPrefixOf_iff_prefix.mp hprefix
    rw [← hrest, List.drop_left, Option.some.injEq] at h
    rw [← hrest, ← h, String.toList_ofList]
  · intro h
    rw [h, if_pos (List.isPrefixOf_iff_prefix.mpr (List.prefix_append _ _)), List.drop_left,
      String.ofList_toList]

theorem taggedEndpoint?_eq_some {ref : String} {endpoint : Endpoint} :
    taggedEndpoint? ref = some endpoint ↔ ref = endpointText endpoint := by
  have hdisjoint : ∀ a b : String, "work_item:" ++ a ≠ "existing_issue:" ++ b := by
    intro a b h
    have := @endpointText_injective { endpointType := .workItem, ref := a }
      { endpointType := .existingIssue, ref := b } h
    simp at this
  obtain ⟨endpointType, name⟩ := endpoint
  unfold taggedEndpoint?
  cases hwork : untagged? "work_item:" ref with
  | some found =>
      have href := untagged?_eq_some.mp hwork
      cases endpointType with
      | workItem =>
          simp only [Option.some.injEq, Endpoint.mk.injEq, true_and, endpointText,
            EndpointType.prefixText]
          rw [← untagged?_eq_some, hwork, Option.some.injEq]
      | existingIssue =>
          simp only [Option.some.injEq, Endpoint.mk.injEq, reduceCtorEq, false_and, false_iff,
            endpointText, EndpointType.prefixText]
          exact fun h => hdisjoint _ _ (href.symm.trans h)
  | none =>
      cases endpointType with
      | workItem =>
          simp only [Option.map_eq_some_iff, Endpoint.mk.injEq, reduceCtorEq, false_and, and_false,
            exists_false, false_iff, endpointText, EndpointType.prefixText]
          rw [← untagged?_eq_some, hwork]
          simp
      | existingIssue =>
          simp only [Option.map_eq_some_iff, Endpoint.mk.injEq, true_and, exists_eq_right,
            endpointText, EndpointType.prefixText]
          exact untagged?_eq_some

/-! ## Creations of a write-eligible set -/

/-- The creations come first, one for each of the distinct references. -/
structure CreatesFirst (operations : List WriteOperation) (refs : List String) : Prop where
  distinct : refs.Nodup
  rest : ∃ relationships, operations = refs.map createOperation ++ relationships ∧
    ∀ operation ∈ relationships, operation.operationKind ≠ "create_issue"

theorem createsRef_createOperation (clientRef ref : String) :
    createsRef clientRef (createOperation ref) = true ↔ ref = clientRef := by
  simp [createsRef, createOperation]

theorem filter_creates {refs : List String} (hdistinct : refs.Nodup) (clientRef : String) (k : Nat) :
    ((refs.map createOperation).zipIdx k).filter (fun entry => createsRef clientRef entry.1) =
      if clientRef ∈ refs then [(createOperation clientRef, k + refs.idxOf clientRef)] else [] := by
  induction refs generalizing k with
  | nil => simp
  | cons ref refs ih =>
      rw [List.nodup_cons] at hdistinct
      rw [List.map_cons, List.zipIdx_cons, List.filter_cons, ih hdistinct.2]
      by_cases href : ref = clientRef
      · subst href
        simp [(createsRef_createOperation ref ref).mpr rfl, hdistinct.1]
      · have hno : createsRef clientRef (createOperation ref) = false := by
          rw [Bool.eq_false_iff, ne_eq, createsRef_createOperation]
          exact href
        simp only [hno, Bool.false_eq_true, if_false, List.mem_cons, Ne.symm href, false_or]
        rw [List.idxOf_cons_ne _ href]
        split_ifs
        · rw [Nat.add_right_comm, Nat.add_assoc]
        · rfl

theorem CreatesFirst.createMatches {operations : List WriteOperation} {refs : List String}
    (h : CreatesFirst operations refs) {n : Nat} (hn : refs.length ≤ n) (clientRef : String) :
    createMatches (operations.take n) clientRef =
      if clientRef ∈ refs then [(createOperation clientRef, refs.idxOf clientRef)] else [] := by
  obtain ⟨relationships, rfl, hkinds⟩ := h.rest
  have htake : (refs.map createOperation ++ relationships).take n =
      refs.map createOperation ++ relationships.take (n - refs.length) := by
    rw [List.take_append, List.length_map, List.take_of_length_le (by simpa using hn)]
  have hnone : ((relationships.take (n - refs.length)).zipIdx
      (0 + (refs.map createOperation).length)).filter
        (fun entry => createsRef clientRef entry.1) = [] := by
    rw [List.filter_eq_nil_iff]
    intro entry hentry
    have hmem := List.mem_of_mem_take (List.fst_mem_of_mem_zipIdx hentry)
    simp [createsRef, hkinds entry.1 hmem]
  rw [PostconditionObservation.createMatches, htake, List.zipIdx_append, List.filter_append, hnone,
    List.append_nil, filter_creates h.distinct, Nat.zero_add]

theorem CreatesFirst.find {operations : List WriteOperation} {refs : List String}
    (h : CreatesFirst operations refs) (clientRef : String) :
    operations.zipIdx.find? (fun entry => createsRef clientRef entry.1) =
      if clientRef ∈ refs then some (createOperation clientRef, refs.idxOf clientRef) else none := by
  have hlength : refs.length ≤ operations.length := by
    obtain ⟨relationships, rfl, -⟩ := h.rest
    simp
  have hmatches := h.createMatches hlength clientRef
  rw [List.take_length, PostconditionObservation.createMatches] at hmatches
  rw [← List.head?_filter, hmatches]
  split_ifs <;> rfl

/-- A relationship stands after every creation. -/
theorem CreatesFirst.le_index {operations : List WriteOperation} {refs : List String}
    (h : CreatesFirst operations refs) {index : Nat} {operation : WriteOperation}
    (hoperation : operations[index]? = some operation)
    (hkind : operation.operationKind ≠ "create_issue") : refs.length ≤ index := by
  obtain ⟨relationships, rfl, -⟩ := h.rest
  by_contra hlt
  rw [List.getElem?_append_left (by simpa using hlt), List.getElem?_map,
    Option.map_eq_some_iff] at hoperation
  obtain ⟨ref, -, rfl⟩ := hoperation
  exact hkind rfl

/-! ## Stored receipts of creations -/

section
variable [PythonLibrary]

/-- What a stored receipt of the operation at `index` says. -/
structure StoredReceipt (context : ExecutionContext) (index : Nat) (operation : WriteOperation)
    (r : OperationReceipt) : Prop where
  identity : r.identity = context.identity
  place : r.operationIndex = index
  canonical : r.canonicalOperation = operation
  authority : r.authorityBinding.applicationId = context.identity.applicationId ∧
    r.authorityBinding.driverIdentity = context.identity.values.driverIdentity ∧
    r.authorityBinding.remoteAuthority = context.identity.values.remoteAuthority
  intact : r.verifyIntegrity = true
  kind : r.remoteResult.resultKind = "github." ++ operation.operationKind ++ ".v1"
  created : operation.operationKind = "create_issue" →
    createdPayload context.identity.values.repositoryIdentity r.remoteResult.resultPayload = true

/-- The rows of the first `n` operations are receipts that were stored for them. -/
def StoredReceipts (context : ExecutionContext) (t : Tables) (n : Nat) : Prop :=
  ∀ i operation r, i < n → context.expectedOperations[i]? = some operation →
    t.operationReceipts.lookup (operationIdentity context.identity.applicationId i operation) =
      some r → StoredReceipt context i operation r

/-- The stored receipt of the creation of `clientRef`. -/
def createReceipt (context : ExecutionContext) (t : Tables) (clientRef : String) :
    Option OperationReceipt :=
  (context.expectedOperations.zipIdx.find? fun entry => createsRef clientRef entry.1).bind
    fun entry => t.operationReceipts.lookup
      (operationIdentity context.identity.applicationId entry.2 entry.1)

variable {context : ExecutionContext} {t : Tables} {refs : List String} {n : Nat}

theorem authority_repository (context : ExecutionContext) :
    context.authority.repositoryIdentity = context.identity.values.repositoryIdentity := by
  rw [fromAuthority_values context.identity_eq]
  rfl

omit [PythonLibrary] in
theorem CreatesFirst.operation {operations : List WriteOperation}
    (h : CreatesFirst operations refs) {clientRef : String} (href : clientRef ∈ refs) :
    operations[refs.idxOf clientRef]? = some (createOperation clientRef) := by
  obtain ⟨relationships, rfl, -⟩ := h.rest
  have hlt := List.idxOf_lt_length_of_mem href
  rw [List.getElem?_append_left (by simpa using hlt), List.getElem?_map,
    List.getElem?_eq_getElem hlt, Option.map_some, List.getElem_idxOf]

/-- The receipt of a creation is the row at its place, and was stored for it. -/
theorem createReceipt_eq_some (hcreates : CreatesFirst context.expectedOperations refs)
    (hn : refs.length ≤ n) (hstored : StoredReceipts context t n) {clientRef : String}
    {r : OperationReceipt} :
    createReceipt context t clientRef = some r ↔
      clientRef ∈ refs ∧ t.operationReceipts.lookup (operationIdentity
        context.identity.applicationId (refs.idxOf clientRef) (createOperation clientRef)) = some r ∧
      StoredReceipt context (refs.idxOf clientRef) (createOperation clientRef) r := by
  rw [createReceipt, hcreates.find]
  split_ifs with href
  · rw [Option.bind_some]
    constructor
    · intro h
      have hlt := (List.idxOf_lt_length_of_mem href).trans_le hn
      exact ⟨href, h, hstored _ _ r hlt (hcreates.operation href) h⟩
    · exact fun h => h.2.1
  · simp [href]

theorem StoredReceipt.operationIdentity_eq {i : Nat} {operation : WriteOperation}
    {r : OperationReceipt} (h : StoredReceipt context i operation r) :
    r.operationIdentity = operationIdentity context.identity.applicationId i operation := by
  rw [r.valid.binding.2.2, r.valid.binding.1, h.identity, h.place, h.canonical]

theorem StoredReceipt.get {i : Nat} {operation : WriteOperation} {r : OperationReceipt}
    (h : StoredReceipt context i operation r) {id : String}
    (hrow : t.operationReceipts.lookup id = some r)
    (hid : id = operationIdentity context.identity.applicationId i operation) :
    getOperationReceipt context.identity.values.workspaceIdentity context.identity.applicationId id
      t = .ok r :=
  getOperationReceipt_eq_ok.mpr ⟨hrow, by rw [r.valid.binding.1, h.identity],
    h.operationIdentity_eq.trans hid.symm, by rw [h.identity], h.intact⟩

/-! ## Issues that receipts name -/

theorem make_eq_ok {repository issueNumber numericIssueId nodeId : Value}
    {reference : RemoteIssueReference} :
    RemoteIssueReference.make repository issueNumber numericIssueId nodeId = .ok reference ↔
      normalizeRepositoryIdentity repository = .ok reference.repositoryIdentity ∧
        positiveInt? issueNumber = some reference.issueNumber ∧
        presentText? numericIssueId = some reference.numericIssueId ∧
        presentText? nodeId = some reference.nodeId := by
  simp only [RemoteIssueReference.make, bind_eq_ok, orRaise_eq_ok, pure_eq_ok]
  constructor
  · rintro ⟨repositoryIdentity, hr, number, hn, numeric, hi, node, hd, rfl⟩
    exact ⟨hr, hn, hi, hd⟩
  · rintro ⟨hr, hn, hi, hd⟩
    exact ⟨_, hr, _, hn, _, hi, _, hd, rfl⟩

/-- Two payloads of one repository name the same issue only with equal fields. -/
theorem make_inj {repository n n' i i' d d' : Value} {reference : RemoteIssueReference}
    (h : RemoteIssueReference.make repository n i d = .ok reference) :
    RemoteIssueReference.make repository n' i' d' = .ok reference ↔ n = n' ∧ i = i' ∧ d = d' := by
  constructor
  · intro h'
    rw [make_eq_ok, positiveInt?_eq_some, presentText?_eq_some, presentText?_eq_some] at h h'
    exact ⟨h.2.1.1.trans h'.2.1.1.symm, h.2.2.1.1.trans h'.2.2.1.1.symm,
      h.2.2.2.1.trans h'.2.2.2.1.symm⟩
  · rintro ⟨rfl, rfl, rfl⟩
    exact h

omit [PythonLibrary] in
theorem numericIdText_pattern {text : String} (h : numericIdText text = true) :
    numericIdPattern text = true := by
  unfold numericIdText at h
  unfold numericIdPattern
  cases htext : text.toList with
  | nil => simp [htext] at h
  | cons c rest =>
      simp only [htext, List.length_cons, List.head?_cons, ne_eq, Option.some.injEq,
        decide_not, List.all_cons, Bool.and_eq_true, decide_eq_true_eq, Bool.not_eq_true',
        decide_eq_false_iff_not] at h ⊢
      obtain ⟨⟨⟨-, hlength⟩, hzero⟩, ⟨hlow, hhigh⟩, hrest⟩ := h
      refine ⟨⟨⟨?_, hhigh⟩, by omega⟩, hrest⟩
      -- a digit that is not zero is at least one
      have hval : ('0').val ≤ c.val := hlow
      have hne : ('0').val ≠ c.val := fun heq => hzero (Char.ext heq.symm)
      have hone : ('1').val ≤ c.val := by
        have h0 : ('0').val.toNat = 48 := by decide
        have h1 : ('1').val.toNat = 49 := by decide
        rw [UInt32.le_iff_toNat_le] at hval ⊢
        have hnat : ('0').val.toNat ≠ c.val.toNat := fun heq => hne (UInt32.toNat_inj.mp heq)
        omega
      exact hone

omit [PythonLibrary] in
/-- An item of a payload with exactly the created fields is read as `get` reads it. -/
theorem require_of_created {payload : Dict} {key : String}
    (h : Dict.hasExactly payload createdPayloadFields = true) (hkey : key ∈ createdPayloadFields) :
    Dict.require payload key = .ok (Dict.get payload key) := by
  have hmem := ((Dict.hasExactly_iff payload createdPayloadFields).mp h key).mpr hkey
  obtain ⟨entry, hentry, rfl⟩ := List.mem_map.mp hmem
  have hlookup : (payload.lookup entry.1).isSome := by
    rw [List.lookup_isSome_iff]
    exact ⟨entry, hentry, beq_self_eq_true _⟩
  obtain ⟨value, hvalue⟩ := Option.isSome_iff_exists.mp hlookup
  simp [Dict.require, Dict.get, hvalue, orRaise]

/-- The Applier reads the issue of a stored receipt. -/
theorem referenceFromReceipt_eq_ok (hcreates : CreatesFirst context.expectedOperations refs)
    (hn : refs.length ≤ n) (hstored : StoredReceipts context t n) {clientRef : String}
    {reference : RemoteIssueReference} :
    referenceFromReceipt context.identity.values.workspaceIdentity context t clientRef =
        .ok reference ↔
      ∃ r, createReceipt context t clientRef = some r ∧ issueOf r = .ok reference := by
  simp only [createReceipt_eq_some hcreates hn hstored, referenceFromReceipt, bind_eq_ok,
    orRaise_eq_ok, raiseIf_eq_ok, hcreates.find, authority_repository]
  constructor
  · rintro ⟨⟨operation, index⟩, hfind, r, hget, _, hmatch, repository, hrepository, number,
      hnumber, numeric, hnumeric, node, hnode, hmake⟩
    split_ifs at hfind with href
    obtain ⟨rfl, rfl⟩ := Prod.mk.inj (Option.some.inj hfind)
    have hrow := (getOperationReceipt_eq_ok.mp hget).1
    have hlt := (List.idxOf_lt_length_of_mem href).trans_le hn
    have hr := hstored _ _ r hlt (hcreates.operation href) hrow
    have hexact : Dict.hasExactly r.remoteResult.resultPayload createdPayloadFields = true := by
      have hcreated := hr.created rfl
      simp only [createdPayload, Bool.and_eq_true] at hcreated
      exact hcreated.1.1.1.1.1
    rw [require_of_created hexact (by decide), Except.ok.injEq] at hrepository hnumber hnumeric hnode
    subst hrepository hnumber hnumeric hnode
    exact ⟨r, ⟨href, hrow, hr⟩, hmake⟩
  · rintro ⟨r, ⟨href, hrow, hr⟩, hissue⟩
    have hcreated := hr.created rfl
    simp only [createdPayload, Bool.and_eq_true, decide_eq_true_eq] at hcreated
    have hexact := hcreated.1.1.1.1.1
    refine ⟨(createOperation clientRef, refs.idxOf clientRef), by rw [if_pos href], r,
      hr.get hrow rfl, (), ?_, _, require_of_created hexact (by decide), _,
      require_of_created hexact (by decide), _, require_of_created hexact (by decide), _,
      require_of_created hexact (by decide), hissue⟩
    simp [hr.kind, createOperation, hcreated.1.1.1.1.2]

/-- The observer accepts a stored receipt of a creation whose result identity
names the node, and reads the same issue. -/
theorem receiptOperand_eq_ok {i : Nat} {clientRef : String} {r : OperationReceipt}
    (h : StoredReceipt context i (createOperation clientRef) r) {reference : RemoteIssueReference} :
    receiptOperand r context.identity (operationIdentity context.identity.applicationId i
        (createOperation clientRef)) i (createOperation clientRef) = .ok reference ↔
      identityNamesNode r.remoteResult = true ∧ issueOf r = .ok reference := by
  have hcreated := h.created rfl
  simp only [createdPayload, Bool.and_eq_true, decide_eq_true_eq] at hcreated
  obtain ⟨⟨⟨⟨⟨hexact, hrepository⟩, hnumber⟩, hnumeric⟩, hnode⟩, hexecutor⟩ := hcreated
  have hkind : r.remoteResult.resultKind = "github.create_issue.v1" := h.kind
  have happlication : r.applicationId = context.identity.applicationId := by
    rw [r.valid.binding.1, h.identity]
  have hpattern : (Dict.get r.remoteResult.resultPayload "numeric_issue_id").text?.any
      numericIdPattern = true := by
    cases htext : (Dict.get r.remoteResult.resultPayload "numeric_issue_id").text? with
    | none => simp [htext] at hnumeric
    | some text =>
        rw [htext, Option.any_some] at hnumeric
        exact numericIdText_pattern hnumeric
  have hnumberSome : positiveInt? (Dict.get r.remoteResult.resultPayload "issue_number") ≠ none :=
    Option.isSome_iff_ne_none.mp hnumber
  simp only [receiptOperand, bind_eq_ok, raiseIf_eq_ok]
  constructor
  · rintro ⟨_, -, _, -, _, -, _, hchecks, hmade⟩
    simp only [not_or, Bool.not_eq_false] at hchecks
    refine ⟨hchecks.2.2.2.2.2.1, ?_⟩
    split at hmade
    · simp at hmade
    · rename_i hissue
      rw [hissue, ← pure_eq_ok.mp hmade]
  · rintro ⟨hnames, hissue⟩
    have hpresent : presentText? (Dict.get r.remoteResult.resultPayload "node_id") ≠ none := by
      rw [issueOf, make_eq_ok] at hissue
      rw [hissue.2.2.2]
      exact Option.some_ne_none _
    refine ⟨(), ?_, (), ?_, (), ?_, (), ?_, ?_⟩
    · simp [happlication, h.identity, h.operationIdentity_eq, h.place, h.canonical, h.authority]
    · simp [hrepository]
    · simp [hkind]
    · simp [hexact, hnumberSome, hpattern, hpresent, hexecutor, hnames, r.valid.result.2]
    · rw [hissue]
      rfl

/-- The observer resolves a created operand from the same receipt. -/
theorem observedCreation_eq_ok (hcreates : CreatesFirst context.expectedOperations refs)
    (hn : refs.length ≤ n) (hstored : StoredReceipts context t n) {ambiguous clientRef : String}
    {reference : RemoteIssueReference} :
    observedCreation context.identity context.expectedOperations n t ambiguous clientRef =
        .ok reference ↔
      ∃ r, createReceipt context t clientRef = some r ∧
        identityNamesNode r.remoteResult = true ∧ issueOf r = .ok reference := by
  simp only [createReceipt_eq_some hcreates hn hstored, observedCreation,
    hcreates.createMatches hn]
  by_cases href : clientRef ∈ refs
  · simp only [if_pos href, bind_eq_ok, loadOperationReceipt, recode_eq_ok]
    constructor
    · rintro ⟨r, hget, hoperand⟩
      have hrow := (getOperationReceipt_eq_ok.mp hget).1
      have hlt := (List.idxOf_lt_length_of_mem href).trans_le hn
      have hr := hstored _ _ r hlt (hcreates.operation href) hrow
      exact ⟨r, ⟨href, hrow, hr⟩, (receiptOperand_eq_ok hr).mp hoperand⟩
    · rintro ⟨r, ⟨-, hrow, hr⟩, hnames⟩
      exact ⟨r, hr.get hrow rfl, (receiptOperand_eq_ok hr).mpr hnames⟩
  · simp [href]

/-! ## Existing endpoints -/

/-- The parts of a Preview that its execution context snapshots. -/
structure Snapshots (canonical : Dict) (context : ExecutionContext) : Prop where
  version : context.canonicalVersion = canonical.get "canonical_version"
  bindings : (getOr canonical "existing_endpoint_bindings" (.list [])).sequence? =
    some context.existingEndpointBindings
  snapshot : context.remoteSnapshot = canonical.get "remote_snapshot"

omit [PythonLibrary] in
theorem iterate_of_sequence {value : Value} {items : List Value}
    (h : value.sequence? = some items) : Value.iterate value = .ok items := by
  cases value <;> simp_all [Value.sequence?, Value.iterate]

omit [PythonLibrary] in
/-- A default is not used for a key that holds a mapping. -/
theorem getOr_of_mapping {d entries : Dict} {key : String}
    (h : (Dict.get d key).mapping? = some entries) (default : Value) :
    (getOr d key default).mapping? = some entries := by
  unfold Dict.get at h
  unfold getOr
  cases hlookup : d.lookup key with
  | none => simp [hlookup, Value.mapping?] at h
  | some value => simpa [hlookup] using h

/-- What the Applier resolves from a binding, the observer resolves too. -/
theorem observedBinding_of_reference {canonical : Dict} (h : Snapshots canonical context)
    {endpointRef : String} {reference : RemoteIssueReference}
    (hreference : referenceFromExistingBinding context endpointRef = .ok reference) :
    observedBinding canonical context.identity endpointRef = .ok reference := by
  simp only [referenceFromExistingBinding, bind_eq_ok, orRaise_eq_ok, raiseIf_eq_ok] at hreference
  obtain ⟨_, -, found, hfound, binding, rfl, snapshot, hsnapshot, entries, hentries, foundRecord,
    hrecord, record, rfl, _, hdigest, _, -, hmade⟩ := hreference
  rw [h.snapshot] at hsnapshot
  split at hmade
  · simp at hmade
  · rename_i hmake
    obtain rfl := pure_eq_ok.mp hmade
    simp only [bind_eq_ok, authority_repository] at hmake
    simp only [observedBinding, bind_eq_ok, orRaise_eq_ok, raiseIf_eq_ok]
    exact ⟨_, iterate_of_sequence h.bindings, _, hfound, snapshot, getOr_of_mapping hsnapshot _,
      entries, hentries, binding, rfl, _, hrecord, record, rfl, (), hdigest, hmake⟩

/-! ## The condition -/

/-- The creation of `clientRef` is stored with an identity that names its node. -/
def CreateObservable (context : ExecutionContext) (t : Tables) (clientRef : String) : Prop :=
  ∃ r, createReceipt context t clientRef = some r ∧ identityNamesNode r.remoteResult = true

/-- The receipts of two creations name one issue. -/
def SameIssue (context : ExecutionContext) (t : Tables) (a b : String) : Prop :=
  ∃ r r', createReceipt context t a = some r ∧ createReceipt context t b = some r' ∧
    ∀ field ∈ ["issue_number", "numeric_issue_id", "node_id"],
      Dict.get r.remoteResult.resultPayload field = Dict.get r'.remoteResult.resultPayload field

/-- When the observer can resolve the references of a relationship. In V2 the
created operands must be observable. In V1 moreover no reference may read as
tagged, unless both read as work items whose creations named the same issues. -/
def Observable (context : ExecutionContext) (t : Tables) (clientRefs : List String) : Prop :=
  if context.canonicalVersion = .str "2" then
    ∀ ref ∈ clientRefs, ∀ name, untagged? "work_item:" ref = some name →
      CreateObservable context t name
  else
    (∀ ref ∈ clientRefs, taggedEndpoint? ref = none ∧ CreateObservable context t ref) ∨
      ∀ ref ∈ clientRefs, ∃ name, untagged? "work_item:" ref = some name ∧
        CreateObservable context t name ∧ SameIssue context t name ref

/-- Under one receipt of the creation, being observed is being observable. -/
theorem observedCreation_iff (hcreates : CreatesFirst context.expectedOperations refs)
    (hn : refs.length ≤ n) (hstored : StoredReceipts context t n) {ambiguous clientRef : String}
    {reference : RemoteIssueReference}
    (h : referenceFromReceipt context.identity.values.workspaceIdentity context t clientRef =
      .ok reference) :
    observedCreation context.identity context.expectedOperations n t ambiguous clientRef =
        .ok reference ↔ CreateObservable context t clientRef := by
  rw [observedCreation_eq_ok hcreates hn hstored]
  obtain ⟨r, hr, hissue⟩ := (referenceFromReceipt_eq_ok hcreates hn hstored).mp h
  constructor
  · rintro ⟨r', hr', hnames, -⟩
    exact ⟨r', hr', hnames⟩
  · rintro ⟨r', hr', hnames⟩
    obtain rfl : r = r' := Option.some.inj (hr.symm.trans hr')
    exact ⟨r, hr, hnames, hissue⟩

/-- The observer takes the receipt of another creation for the issue of `ref`
exactly when that receipt is observable and names the same issue. -/
theorem observedCreation_iff_sameIssue (hcreates : CreatesFirst context.expectedOperations refs)
    (hn : refs.length ≤ n) (hstored : StoredReceipts context t n) {ambiguous name ref : String}
    {reference : RemoteIssueReference}
    (h : referenceFromReceipt context.identity.values.workspaceIdentity context t ref =
      .ok reference) :
    observedCreation context.identity context.expectedOperations n t ambiguous name =
        .ok reference ↔ CreateObservable context t name ∧ SameIssue context t name ref := by
  have hrepository : ∀ {i clientRef} {r : OperationReceipt},
      StoredReceipt context i (createOperation clientRef) r →
        Dict.get r.remoteResult.resultPayload "repository_identity" =
          .str context.identity.values.repositoryIdentity := by
    intro i clientRef r hr
    have hcreated := hr.created rfl
    simp only [createdPayload, Bool.and_eq_true, decide_eq_true_eq] at hcreated
    exact hcreated.1.1.1.1.2
  rw [observedCreation_eq_ok hcreates hn hstored]
  obtain ⟨r, hr, hissue⟩ := (referenceFromReceipt_eq_ok hcreates hn hstored).mp h
  have hstoredRef := ((createReceipt_eq_some hcreates hn hstored).mp hr).2.2
  rw [issueOf, hrepository hstoredRef] at hissue
  have hsame : ∀ r', createReceipt context t name = some r' →
      (issueOf r' = .ok reference ↔ ∀ field ∈ ["issue_number", "numeric_issue_id", "node_id"],
        Dict.get r'.remoteResult.resultPayload field =
          Dict.get r.remoteResult.resultPayload field) := by
    intro r' hr'
    have hstoredName := ((createReceipt_eq_some hcreates hn hstored).mp hr').2.2
    rw [issueOf, hrepository hstoredName, make_inj hissue]
    simp [eq_comm]
  constructor
  · rintro ⟨r', hr', hnames, hissue'⟩
    exact ⟨⟨r', hr', hnames⟩, r', r, hr', hr, (hsame r' hr').mp hissue'⟩
  · rintro ⟨⟨r', hr', hnames⟩, r₁, r₂, hr₁, hr₂, hfields⟩
    obtain rfl : r' = r₁ := Option.some.inj (hr'.symm.trans hr₁)
    obtain rfl : r = r₂ := Option.some.inj (hr.symm.trans hr₂)
    exact ⟨r', hr', hnames, (hsame r' hr').mpr hfields⟩

/-! ## Resolution -/

omit [PythonLibrary] in
theorem distinctPair_eq_ok {resolved : List RemoteIssueReference}
    {first second : RemoteIssueReference} (hne : first ≠ second) :
    resolved.length = 2 → (distinctPair resolved = .ok (first, second) ↔
      resolved = [first, second]) := by
  intro hlength
  obtain ⟨a, b, rfl⟩ := List.length_eq_two.mp hlength
  simp only [distinctPair, firstTwo, bind_eq_ok, orRaise_eq_ok, raiseIf_eq_ok, pure_eq_ok,
    List.cons.injEq, and_true]
  constructor
  · rintro ⟨⟨_, _⟩, ⟨x, hx, y, hy, hxy⟩, _, -, hpair⟩
    simp_all
  · rintro ⟨rfl, rfl⟩
    exact ⟨(a, b), ⟨a, rfl, b, rfl, rfl⟩, (), hne, rfl⟩

omit [PythonLibrary] in
/-- Two operands resolve to a pair of issues when each resolves to its own. -/
theorem resolved_pair_iff {operand : Type} {resolve : operand → Py RemoteIssueReference}
    {a b : operand} {first second : RemoteIssueReference} (hne : first ≠ second) :
    (do
      let resolved ← [a, b].mapM resolve
      distinctPair resolved : Py (RemoteIssueReference × RemoteIssueReference)) =
        .ok (first, second) ↔ resolve a = .ok first ∧ resolve b = .ok second := by
  simp only [bind_eq_ok, mapM_eq_ok]
  constructor
  · rintro ⟨resolved, hresolved, hpair⟩
    obtain _ | ⟨hx, _ | ⟨hy, _ | _⟩⟩ := hresolved
    rw [distinctPair_eq_ok hne rfl] at hpair
    obtain ⟨rfl, rfl, -⟩ : _ = first ∧ _ = second ∧ True := by simpa using hpair
    exact ⟨hx, hy⟩
  · rintro ⟨ha, hb⟩
    exact ⟨[first, second], .cons ha (.cons hb .nil), (distinctPair_eq_ok hne rfl).mpr rfl⟩

/-! ## Write-eligible Previews -/

def relationshipRecords (canonical : Dict) : Value :=
  match Dict.get canonical "remote_snapshot" with
  | .dict remote => getOr remote "relationship_records" (.list [])
  | _ => .list []

/-- The stored operations of a Preview are write-eligible under its version. A V1
Preview has no endpoint bindings. -/
inductive WriteEligible (canonical : Dict) : Prop
  | v1 {items : List Value} {semantic : Dict} {e : WriteOperationEvaluation WriteOperation}
      (version : Dict.get canonical "canonical_version" ≠ .str "2")
      (unbound : canonical.lookup "existing_endpoint_bindings" = none)
      (evaluated : evaluateWriteOperations (Dict.get canonical "operation_intents") items semantic =
        .ok e)
      (eligible : e.eligible = true)
  | v2 {items bindings records : List Value} {semantic : Dict}
      {e : WriteOperationEvaluation WriteOperationV2}
      (version : Dict.get canonical "canonical_version" = .str "2")
      (bound : getOr canonical "existing_endpoint_bindings" (.list []) = .list bindings)
      (recorded : relationshipRecords canonical = .list records)
      (evaluated : evaluateWriteOperationsV2 (Dict.get canonical "operation_intents") items semantic
        bindings records = .ok e)
      (eligible : e.eligible = true)

/-- A context of an authority over the write-eligible Preview it approves. -/
structure ApprovedPreview (authority : ApplicationAuthority) (canonical : Dict)
    (context : ExecutionContext) : Prop where
  created : createExecutionContext authority (.dict canonical) = .ok context
  eligible : WriteEligible canonical

omit [PythonLibrary] in
theorem getOr_intents {d : Dict} {key : String} (h : Dict.get d key ≠ .null) (default : Value) :
    getOr d key default = Dict.get d key := by
  unfold Dict.get at h ⊢
  unfold getOr
  cases hlookup : d.lookup key with
  | none => simp [hlookup] at h
  | some value => rfl

omit [PythonLibrary] in
theorem evaluated_intents {intents : Value} {items : List Value} {semantic : Dict}
    {e : WriteOperationEvaluation WriteOperation}
    (h : evaluateWriteOperations intents items semantic = .ok e) :
    intents ≠ .null ∧ normalizeWriteOperations intents = .ok e.operations := by
  simp only [evaluateWriteOperations, bind_eq_ok, pure_eq_ok] at h
  obtain ⟨operations, hoperations, refs, -, planned, -, rfl⟩ := h
  refine ⟨?_, hoperations⟩
  rintro rfl
  simp [normalizeWriteOperations, Value.sequence?, orRaise, bind, Except.bind] at hoperations

omit [PythonLibrary] in
theorem evaluated_intentsV2 {intents : Value} {items bindings records : List Value}
    {semantic : Dict} {e : WriteOperationEvaluation WriteOperationV2}
    (h : evaluateWriteOperationsV2 intents items semantic bindings records = .ok e) :
    intents ≠ .null ∧ normalizeWriteOperationsV2 intents = .ok e.operations := by
  simp only [evaluateWriteOperationsV2, bind_eq_ok, pure_eq_ok] at h
  obtain ⟨operations, hoperations, refs, -, existing, -, _, -, planned, -, rfl⟩ := h
  refine ⟨?_, hoperations⟩
  rintro rfl
  simp [normalizeWriteOperationsV2, Value.sequence?, orRaise, bind, Except.bind] at hoperations

/-- How the operations of a write-eligible Preview look in the envelope. -/
structure EligibleShape (context : ExecutionContext) (refs : List String) : Prop where
  creates : CreatesFirst context.expectedOperations refs
  relationship : ∀ operation ∈ context.expectedOperations,
    operation.operationKind ≠ "create_issue" →
      relationshipKinds operation.operationKind ≠ none ∧
        ∃ a b, operation.clientRefs = [a, b] ∧
          (context.canonicalVersion = .str "2" →
            ∃ first second, a = endpointText first ∧ b = endpointText second)

theorem ApprovedPreview.shape {authority : ApplicationAuthority} {canonical : Dict}
    (h : ApprovedPreview authority canonical context) : ∃ refs, EligibleShape context refs := by
  obtain ⟨hoperations, hversion, -, -⟩ := createExecutionContext_spec h.created
  cases h.eligible with
  | @v1 items semantic e version unbound evaluated eligible =>
      obtain ⟨hnull, hnormalized⟩ := evaluated_intents evaluated
      obtain ⟨refs, planned, hrefs, -, hexpected⟩ := eligible_expected evaluated eligible
      have hall : context.expectedOperations = expectedOperations refs planned := by
        rw [executionOperations, if_neg version, getOr_intents hnull, hnormalized,
          Except.ok.injEq] at hoperations
        rw [← hoperations, hexpected]
      have hkinds : ∀ operation ∈ planned.map relationshipOperation,
          operation.operationKind ≠ "create_issue" := by
        intro operation hmem
        obtain ⟨p, -, rfl⟩ := List.mem_map.mp hmem
        exact operationKind_ne_create p.kind
      refine ⟨refs, ⟨(itemRefs_spec hrefs).1, _, hall, hkinds⟩, fun operation hmem hkind => ?_⟩
      rw [hall, expectedOperations, List.mem_append] at hmem
      rcases hmem with hmem | hmem
      · obtain ⟨ref, -, rfl⟩ := List.mem_map.mp hmem
        exact absurd rfl hkind
      · obtain ⟨p, -, rfl⟩ := List.mem_map.mp hmem
        refine ⟨by simp [relationshipOperation], p.source, p.target, rfl, fun htwo => ?_⟩
        exact absurd (hversion.symm.trans htwo) version
  | @v2 items bindings records semantic e version bound recorded evaluated eligible =>
      obtain ⟨hnull, hnormalized⟩ := evaluated_intentsV2 evaluated
      obtain ⟨refs, planned, hrefs, -, hexpected⟩ := eligible_expectedV2 evaluated eligible
      have hall : context.expectedOperations = refs.map createOperation ++
          planned.map (encodeOperation ∘ relationshipOperationV2) := by
        rw [executionOperations, if_pos version, getOr_intents hnull, hnormalized, hexpected]
          at hoperations
        rw [← Except.ok.inj hoperations, expectedOperationsV2, List.map_append, List.map_map,
          List.map_map]
        rfl
      have hkinds : ∀ operation ∈ planned.map (encodeOperation ∘ relationshipOperationV2),
          operation.operationKind ≠ "create_issue" := by
        intro operation hmem
        obtain ⟨p, -, rfl⟩ := List.mem_map.mp hmem
        exact operationKind_ne_create p.kind
      refine ⟨refs, ⟨(itemRefsV2_spec hrefs).1, _, hall, hkinds⟩, fun operation hmem hkind => ?_⟩
      rw [hall, List.mem_append] at hmem
      rcases hmem with hmem | hmem
      · obtain ⟨ref, -, rfl⟩ := List.mem_map.mp hmem
        exact absurd rfl hkind
      · obtain ⟨p, -, rfl⟩ := List.mem_map.mp hmem
        exact ⟨by simp [relationshipOperationV2, encodeOperation], _, _, rfl,
          fun _ => ⟨p.source, p.target, rfl, rfl⟩⟩

/-! ## The two resolutions -/

/-- The issues that the Applier put into a relationship command. -/
theorem materialize_relationship {workspace : String} {attempt : OperationAttemptState}
    {read : Nat → Tables} {revalidate : String → Py Unit} {command : RelationshipCommand}
    (h : materialize workspace context attempt read revalidate = .ok (.relationship command)) :
    attempt.operation.operationKind ≠ "create_issue" ∧
      (context.canonicalVersion = .str "2" → materializeTagged workspace context
        attempt.operation.clientRefs read revalidate = .ok command) ∧
      (context.canonicalVersion ≠ .str "2" → materializeUntagged workspace context
        attempt.operation.clientRefs read = .ok command) := by
  have hmapped : ∀ {x : Py RelationshipCommand}, IssueCommand.relationship <$> x =
      .ok (.relationship command) → x = .ok command := by
    intro x hx
    cases x with
    | error => simp [Functor.map, Except.map] at hx
    | ok made => simpa [Functor.map, Except.map] using hx
  have hcreated : ∀ {x : Py CreateIssueCommand}, IssueCommand.createIssue <$> x ≠
      .ok (.relationship command) := by
    intro x
    cases x <;> simp [Functor.map, Except.map]
  simp only [materialize] at h
  split_ifs at h with hkind hrelationship hversion
  · simp only [bind_eq_ok] at h
    obtain ⟨ref, -, item, -, ⟨title, body⟩, -, h⟩ := h
    exact absurd h hcreated
  · exact ⟨hkind, fun _ => hmapped h, fun hne => absurd hversion hne⟩
  · exact ⟨hkind, fun heq => absurd heq hversion, fun _ => hmapped h⟩

theorem relationshipCommand_eq_ok {repository : String} {first second : RemoteIssueReference}
    {command : RelationshipCommand}
    (h : RelationshipCommand.make repository first second = .ok command) :
    command.first = first ∧ command.second = second ∧ first ≠ second := by
  simp only [RelationshipCommand.make, bind_eq_ok, raiseIf_eq_ok, pure_eq_ok, not_or] at h
  obtain ⟨repositoryIdentity, -, _, hchecks, rfl⟩ := h
  exact ⟨rfl, rfl, hchecks.2.2⟩

omit [PythonLibrary] in
theorem firstTwo_pair {α : Type} {a b x y : α} (h : firstTwo [a, b] = .ok (x, y)) :
    x = a ∧ y = b := by
  simp only [firstTwo, bind_eq_ok, orRaise_eq_ok, pure_eq_ok, Prod.mk.injEq] at h
  obtain ⟨first, hfirst, second, hsecond, rfl, rfl⟩ := h
  exact ⟨(Option.some.inj hfirst).symm, (Option.some.inj hsecond).symm⟩

/-- A V2 command holds the issues of its two endpoints. -/
theorem materializeTagged_eq_ok {workspace : String} {a b : Endpoint}
    {revalidate : String → Py Unit} {command : RelationshipCommand}
    (h : materializeTagged workspace context [endpointText a, endpointText b] (fun _ => t)
      revalidate = .ok command) :
    referenceFromEndpoint workspace context t a = .ok command.first ∧
      referenceFromEndpoint workspace context t b = .ok command.second ∧
      command.first ≠ command.second := by
  have hendpoints : [endpointText a, endpointText b].mapM taggedEndpoint? = some [a, b] := by
    simp [taggedEndpoint?_eq_some.mpr rfl]
  simp only [materializeTagged, hendpoints, bind_eq_ok, orRaise_eq_ok, raiseIf_eq_ok,
    Option.some.injEq] at h
  obtain ⟨_, rfl, references, hreferences, ⟨first, second⟩, hpair, _, -, _, -, hmake⟩ := h
  obtain ⟨hfirst, hsecond, hne⟩ := relationshipCommand_eq_ok hmake
  rw [mapM_eq_ok] at hreferences
  obtain _ | ⟨hx, _ | ⟨hy, _ | _⟩⟩ := hreferences
  obtain ⟨rfl, rfl⟩ := firstTwo_pair hpair
  rw [hfirst, hsecond]
  exact ⟨hx, hy, hne⟩

/-- A V1 command holds the issues of its two created references. -/
theorem materializeUntagged_eq_ok {workspace a b : String} {command : RelationshipCommand}
    (h : materializeUntagged workspace context [a, b] (fun _ => t) = .ok command) :
    referenceFromReceipt workspace context t a = .ok command.first ∧
      referenceFromReceipt workspace context t b = .ok command.second ∧
      command.first ≠ command.second := by
  simp only [materializeUntagged, bind_eq_ok, raiseIf_eq_ok] at h
  obtain ⟨_, -, references, hreferences, ⟨first, second⟩, hpair, hmake⟩ := h
  obtain ⟨hfirst, hsecond, hne⟩ := relationshipCommand_eq_ok hmake
  rw [mapM_eq_ok] at hreferences
  obtain _ | ⟨hx, _ | ⟨hy, _ | _⟩⟩ := hreferences
  obtain ⟨rfl, rfl⟩ := firstTwo_pair hpair
  rw [hfirst, hsecond]
  exact ⟨hx, hy, hne⟩

/-- An endpoint of a V2 command is observed when, if created, it is observable. -/
theorem observedEndpoint_iff {canonical : Dict} (hsnapshots : Snapshots canonical context)
    (hcreates : CreatesFirst context.expectedOperations refs) (hn : refs.length ≤ n)
    (hstored : StoredReceipts context t n) {endpoint : Endpoint}
    {reference : RemoteIssueReference}
    (h : referenceFromEndpoint context.identity.values.workspaceIdentity context t endpoint =
      .ok reference) :
    observedEndpoint canonical context.identity context.expectedOperations n t endpoint =
        .ok reference ↔
      ∀ name, untagged? "work_item:" (endpointText endpoint) = some name →
        CreateObservable context t name := by
  obtain ⟨endpointType, ref⟩ := endpoint
  cases endpointType with
  | workItem =>
      have htag : ∀ name, untagged? "work_item:" (endpointText ⟨.workItem, ref⟩) = some name ↔
          name = ref := by
        intro name
        rw [untagged?_eq_some]
        have hinj := @endpointText_injective ⟨.workItem, ref⟩ ⟨.workItem, name⟩
        constructor
        · intro heq
          exact (congrArg Endpoint.ref (hinj heq)).symm
        · rintro rfl
          rfl
      simp only [htag, forall_eq]
      exact observedCreation_iff hcreates hn hstored h
  | existingIssue =>
      have htag : ∀ name, untagged? "work_item:" (endpointText ⟨.existingIssue, ref⟩) ≠
          some name := by
        intro name hname
        have heq := @endpointText_injective ⟨.existingIssue, ref⟩ ⟨.workItem, name⟩
          (untagged?_eq_some.mp hname)
        simp at heq
      have hobserved := observedBinding_of_reference hsnapshots h
      simp only [htag, false_implies, implies_true, iff_true]
      exact hobserved

/-! ## The references of one relationship -/

section
variable {canonical : Dict} {operations : List WriteOperation} {operation : WriteOperation}
  {identity : LogicalApplicationIdentity} {index : Nat} {a b : String}
  {first second : RemoteIssueReference}

/-- Two tagged references resolve as the endpoints they stand for. -/
theorem resolveTagged_eq {x y : Endpoint} (hkind : relationshipKinds operation.operationKind ≠ none)
    (hrefs : operation.clientRefs = [a, b]) (hx : taggedEndpoint? a = some x)
    (hy : taggedEndpoint? b = some y) :
    resolveOperands canonical identity operations index operation t = (do
      let resolved ← [x, y].mapM (observedEndpoint canonical identity operations index t)
      distinctPair resolved) := by
  have htagged : [a, b].filterMap taggedEndpoint? = [x, y] := by simp [hx, hy]
  simp only [resolveOperands, hrefs, htagged, List.any_cons, hx, Option.isSome_some, Bool.true_or,
    if_true]
  simp [raiseIf, hkind, bind, Except.bind]

theorem resolveTagged_iff {x y : Endpoint} (hkind : relationshipKinds operation.operationKind ≠ none)
    (hrefs : operation.clientRefs = [a, b]) (hx : taggedEndpoint? a = some x)
    (hy : taggedEndpoint? b = some y) (hne : first ≠ second) :
    resolveOperands canonical identity operations index operation t = .ok (first, second) ↔
      observedEndpoint canonical identity operations index t x = .ok first ∧
        observedEndpoint canonical identity operations index t y = .ok second := by
  rw [resolveTagged_eq hkind hrefs hx hy, resolved_pair_iff hne]

/-- Two references without a tag resolve as creations. -/
theorem resolveUntagged_iff (hkind : relationshipKinds operation.operationKind ≠ none)
    (hrefs : operation.clientRefs = [a, b]) (ha : taggedEndpoint? a = none)
    (hb : taggedEndpoint? b = none) (hab : a ≠ b) (hne : first ≠ second) :
    resolveOperands canonical identity operations index operation t = .ok (first, second) ↔
      observedCreation identity operations index t "reconciliation_correlation_invalid" a =
          .ok first ∧
        observedCreation identity operations index t "reconciliation_correlation_invalid" b =
          .ok second := by
  rw [← resolved_pair_iff hne]
  simp [resolveOperands, hrefs, ha, hb, hkind, hab, raiseIf]

/-- A reference with a tag and one without never resolve together. -/
theorem resolveMixed_ne_ok {pair : RemoteIssueReference × RemoteIssueReference}
    (hrefs : operation.clientRefs = [a, b])
    (hmixed : (taggedEndpoint? a).isSome ≠ (taggedEndpoint? b).isSome) :
    resolveOperands canonical identity operations index operation t ≠ .ok pair := by
  cases ha : taggedEndpoint? a <;> cases hb : taggedEndpoint? b <;>
    simp_all [resolveOperands, raiseIf, bind, Except.bind]

end

/-- Without bindings, no existing endpoint is observed. -/
theorem observedBinding_unbound {canonical : Dict} {identity : LogicalApplicationIdentity}
    (h : canonical.lookup "existing_endpoint_bindings" = none) {endpointRef : String}
    {reference : RemoteIssueReference} :
    observedBinding canonical identity endpointRef ≠ .ok reference := by
  intro hobserved
  simp only [observedBinding, getOr, h, Value.iterate, bind_eq_ok, orRaise_eq_ok] at hobserved
  obtain ⟨_, hbindings, binding, hbinding, _, -, _, -, _, hsome, -⟩ := hobserved
  obtain rfl := Except.ok.inj hbindings
  simp_all [firstEntry]

/-- Under V2 the observer reads the endpoints as the Applier does. -/
theorem resolveTaggedCommand_iff {canonical : Dict} (hsnapshots : Snapshots canonical context)
    (hshape : EligibleShape context refs) (hn : refs.length ≤ n)
    (hstored : StoredReceipts context t n) {operation : WriteOperation} {x y : Endpoint}
    (hversion : context.canonicalVersion = .str "2")
    (hkind : relationshipKinds operation.operationKind ≠ none)
    (hrefs : operation.clientRefs = [endpointText x, endpointText y])
    {revalidate : String → Py Unit} {command : RelationshipCommand}
    (hcommand : materializeTagged context.identity.values.workspaceIdentity context
      operation.clientRefs (fun _ => t) revalidate = .ok command) :
    resolveOperands canonical context.identity context.expectedOperations n operation t =
        .ok (command.first, command.second) ↔ Observable context t operation.clientRefs := by
  rw [hrefs] at hcommand
  obtain ⟨hfirst, hsecond, hne⟩ := materializeTagged_eq_ok hcommand
  rw [resolveTagged_iff hkind hrefs (taggedEndpoint?_eq_some.mpr rfl)
    (taggedEndpoint?_eq_some.mpr rfl) hne,
    observedEndpoint_iff hsnapshots hshape.creates hn hstored hfirst,
    observedEndpoint_iff hsnapshots hshape.creates hn hstored hsecond, hrefs, Observable,
    if_pos hversion]
  simp

/-- Under V1 the observer may take a reference for an endpoint. -/
theorem resolveUntaggedCommand_iff {canonical : Dict}
    (hunbound : canonical.lookup "existing_endpoint_bindings" = none)
    (hshape : EligibleShape context refs) (hn : refs.length ≤ n)
    (hstored : StoredReceipts context t n) {operation : WriteOperation} {a b : String}
    (hversion : context.canonicalVersion ≠ .str "2")
    (hkind : relationshipKinds operation.operationKind ≠ none)
    (hrefs : operation.clientRefs = [a, b]) {command : RelationshipCommand}
    (hcommand : materializeUntagged context.identity.values.workspaceIdentity context
      operation.clientRefs (fun _ => t) = .ok command) :
    resolveOperands canonical context.identity context.expectedOperations n operation t =
        .ok (command.first, command.second) ↔ Observable context t operation.clientRefs := by
  rw [hrefs] at hcommand
  obtain ⟨hfirst, hsecond, hne⟩ := materializeUntagged_eq_ok hcommand
  have hab : a ≠ b := by
    rintro rfl
    exact hne (Except.ok.inj (hfirst.symm.trans hsecond))
  rw [Observable, if_neg hversion, hrefs]
  simp only [List.forall_mem_cons, List.not_mem_nil, false_implies, implies_true, and_true]
  have htag : ∀ {ref : String}, taggedEndpoint? ref = none →
      ∀ name, untagged? "work_item:" ref ≠ some name := by
    intro ref hnone name hname
    simp [taggedEndpoint?, hname] at hnone
  cases ha : taggedEndpoint? a with
  | none =>
      cases hb : taggedEndpoint? b with
      | none =>
          rw [resolveUntagged_iff hkind hrefs ha hb hab hne,
            observedCreation_iff hshape.creates hn hstored hfirst,
            observedCreation_iff hshape.creates hn hstored hsecond]
          simp [htag ha]
      | some y =>
          refine iff_of_false (resolveMixed_ne_ok hrefs (by simp [ha, hb])) ?_
          simp [htag ha]
  | some x =>
      cases hb : taggedEndpoint? b with
      | none =>
          refine iff_of_false (resolveMixed_ne_ok hrefs (by simp [ha, hb])) ?_
          simp [htag hb]
      | some y =>
          rw [resolveTagged_iff hkind hrefs ha hb hne]
          have hobserved : ∀ {ref : String} {endpoint : Endpoint}
              {reference : RemoteIssueReference}, taggedEndpoint? ref = some endpoint →
              referenceFromReceipt context.identity.values.workspaceIdentity context t ref =
                .ok reference →
              (observedEndpoint canonical context.identity context.expectedOperations n t endpoint =
                  .ok reference ↔ ∃ name, untagged? "work_item:" ref = some name ∧
                CreateObservable context t name ∧ SameIssue context t name ref) := by
            rintro ref ⟨endpointType, name⟩ reference hendpoint hreference
            have href := taggedEndpoint?_eq_some.mp hendpoint
            cases endpointType with
            | workItem =>
                have hname : untagged? "work_item:" ref = some name := untagged?_eq_some.mpr href
                simp only [hname, Option.some.injEq, exists_eq_left']
                exact observedCreation_iff_sameIssue hshape.creates hn hstored hreference
            | existingIssue =>
                refine iff_of_false (observedBinding_unbound hunbound) ?_
                rintro ⟨other, hother, -⟩
                have heq := @endpointText_injective ⟨.existingIssue, name⟩ ⟨.workItem, other⟩
                  (href.symm.trans (untagged?_eq_some.mp hother))
                simp at heq
          rw [hobserved ha hfirst, hobserved hb hsecond]
          simp

end

end DeliverySystem.OperandAgreement

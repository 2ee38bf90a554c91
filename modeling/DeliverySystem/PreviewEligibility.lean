import DeliverySystem.KeyedRows
import DeliverySystem.SealedPreviews

/-!
# One eligibility

The level of a stored Preview, its eligibility for approval, and the evaluation
of its operations agree. The operations that the evaluation returns have the
digest under which they were sealed, since a mapping has one canonical form in
whatever order it is written.
-/
namespace DeliverySystem.PreviewEligibility
open PythonValues CanonicalValues WriteOperations IssueCommands ExecutionContexts
open AuditRecords EvidenceRecords RemoteSnapshots SealedPreviews
set_option autoImplicit false

/-! ## Mappings that are equal in Python -/

theorem lookup_sortKeysEntries (d : Dict) (key : String) :
    (sortKeysEntries d).lookup key = (d.lookup key).map sortKeys := by
  induction d with
  | nil => rfl
  | cons entry rest ih =>
      obtain ⟨k, v⟩ := entry
      by_cases hk : key = k
      · subst hk
        simp [sortKeysEntries]
      · have hne : (key == k) = false := by simpa using hk
        simp [sortKeysEntries, List.lookup_cons, hne, ih]

theorem keys_sortKeysEntries (d : Dict) :
    (sortKeysEntries d).map Prod.fst = d.map Prod.fst := by
  induction d with
  | nil => rfl
  | cons entry rest ih =>
      obtain ⟨k, v⟩ := entry
      simp [sortKeysEntries, ih]

/-- Equal mappings have equal values under each key. -/
theorem sortKeys_get {d d' : Dict} (hnodup : (d.map Prod.fst).Nodup)
    (h : sortKeys (.dict d) = sortKeys (.dict d')) (key : String) :
    sortKeys (Dict.get d key) = sortKeys (Dict.get d' key) := by
  simp only [sortKeys, Value.dict.injEq] at h
  have hperm : (sortKeysEntries d).Perm (sortKeysEntries d') :=
    (sortEntries_perm _).symm.trans (h ▸ sortEntries_perm _)
  have hkeys : ((sortKeysEntries d).map Prod.fst).Nodup := by
    rw [keys_sortKeysEntries]
    exact hnodup
  have hlookup := lookup_eq_of_perm hperm hkeys key
  rw [lookup_sortKeysEntries, lookup_sortKeysEntries] at hlookup
  simp only [Dict.get]
  cases hd : d.lookup key <;> cases hd' : d'.lookup key <;> simp_all

theorem sortKeys_eq_str {v : Value} {s : String} : sortKeys v = .str s ↔ v = .str s := by
  cases v <;> simp [sortKeys]

theorem sortKeys_eq_null {v : Value} : sortKeys v = .null ↔ v = .null := by
  cases v <;> simp [sortKeys]

theorem sortKeysItems_str (texts : List String) :
    sortKeysItems (texts.map .str) = texts.map .str := by
  induction texts with
  | nil => rfl
  | cons s texts ih => simp [sortKeysItems, sortKeys, ih]

theorem sortKeysItems_eq_str {items : List Value} {texts : List String}
    (h : sortKeysItems items = texts.map .str) : items = texts.map .str := by
  induction items generalizing texts with
  | nil =>
      cases texts with
      | nil => rfl
      | cons s texts => simp [sortKeysItems] at h
  | cons item items ih =>
      cases texts with
      | nil => simp [sortKeysItems] at h
      | cons s texts =>
          simp only [sortKeysItems, List.map_cons, List.cons.injEq, sortKeys_eq_str] at h
          rw [h.1, ih h.2, List.map_cons]

theorem sortKeys_eq_texts {v : Value} {texts : List String}
    (h : sortKeys v = sortKeys (Value.texts texts)) : v = Value.texts texts := by
  simp only [Value.texts, sortKeys, sortKeysItems_str] at h ⊢
  cases v <;> simp only [sortKeys, reduceCtorEq, Value.list.injEq] at h ⊢
  exact sortKeysItems_eq_str h

theorem sortKeys_eq_list {v : Value} {items : List Value} (h : sortKeys v = sortKeys (.list items)) :
    ∃ items', v = .list items' := by
  cases v <;> simp [sortKeys] at h ⊢

/-! ## One canonical form -/

section
variable [PythonLibrary] [UnicodeLibrary]

theorem normalize_dict_eq_ok {entries : Dict} {v : Value} :
    CanonicalValues.normalize (.dict entries) = .ok v ↔ ∃ made, List.Forall₂ (fun e e' : String × Value =>
      e'.1 = UnicodeLibrary.nfc e.1 ∧ CanonicalValues.normalize e.2 = .ok e'.2) entries made ∧
      (made.map Prod.fst).Nodup ∧ v = .dict (sortEntries made) := by
  simp only [CanonicalValues.normalize, bind_eq_ok, raiseIf_eq_ok, pure_eq_ok, not_not, normalizeEntries_eq_ok]
  constructor
  · rintro ⟨made, hmade, _, hnodup, rfl⟩
    exact ⟨made, hmade, hnodup, rfl⟩
  · rintro ⟨made, hmade, hnodup, rfl⟩
    exact ⟨made, hmade, (), hnodup, rfl⟩

/-- The keys of a mapping become their NFC. -/
theorem normalized_keys {entries made : Dict} (h : List.Forall₂ (fun e e' : String × Value =>
      e'.1 = UnicodeLibrary.nfc e.1 ∧ CanonicalValues.normalize e.2 = .ok e'.2) entries made) :
    made.map Prod.fst = (entries.map Prod.fst).map UnicodeLibrary.nfc := by
  induction h with
  | nil => rfl
  | cons he _ ih => simp [he.1, ih]

/-- The keys of a mapping that normalizes are distinct. -/
theorem normalize_nodup {entries : Dict} {v : Value}
    (h : CanonicalValues.normalize (.dict entries) = .ok v) : (entries.map Prod.fst).Nodup := by
  obtain ⟨made, hmade, hnodup, -⟩ := normalize_dict_eq_ok.mp h
  rw [normalized_keys hmade] at hnodup
  exact hnodup.of_map _

/-- Values with the same canonical form may stand for each other in a mapping. -/
theorem normalize_dict_congr {entries entries' : Dict} {v : Value}
    (hsame : List.Forall₂ (fun e e' : String × Value => e'.1 = e.1 ∧
      ∀ v, CanonicalValues.normalize e.2 = .ok v → CanonicalValues.normalize e'.2 = .ok v) entries entries')
    (h : CanonicalValues.normalize (.dict entries) = .ok v) : CanonicalValues.normalize (.dict entries') = .ok v := by
  obtain ⟨made, hmade, hnodup, rfl⟩ := normalize_dict_eq_ok.mp h
  refine normalize_dict_eq_ok.mpr ⟨made, ?_, hnodup, rfl⟩
  clear h hnodup
  induction hsame generalizing made with
  | nil =>
      cases hmade
      exact .nil
  | cons he _ ih =>
      cases hmade with
      | cons hhead hrest => exact .cons ⟨he.1 ▸ hhead.1, he.2 _ hhead.2⟩ (ih _ hrest)

/-- Mappings with the same keys and one canonical form have the same values, up to
normalization. -/
theorem normalize_dict_values {entries entries' : Dict} {v : Value}
    (hkeys : entries.map Prod.fst = entries'.map Prod.fst)
    (h : CanonicalValues.normalize (.dict entries) = .ok v)
    (h' : CanonicalValues.normalize (.dict entries') = .ok v) :
    List.Forall₂ (fun e e' : String × Value =>
      CanonicalValues.normalize e.2 = CanonicalValues.normalize e'.2) entries entries' := by
  obtain ⟨made, hmade, -, rfl⟩ := normalize_dict_eq_ok.mp h
  obtain ⟨made', hmade', hnodup', hsorted⟩ := normalize_dict_eq_ok.mp h'
  have hperm : made.Perm made' :=
    (sortEntries_perm made).symm.trans (Value.dict.inj hsorted ▸ sortEntries_perm made')
  obtain rfl := KeyedRows.eq_of_keys
    ((normalized_keys hmade).trans (hkeys ▸ (normalized_keys hmade').symm)) hnodup' fun row hrow =>
      hperm.mem_iff.mp hrow
  clear h h' hkeys hnodup' hsorted hperm
  induction hmade generalizing entries' with
  | nil =>
      cases hmade'
      exact .nil
  | cons he _ ih =>
      cases hmade' with
      | cons he' hrest => exact .cons (he.2.trans he'.2.symm) (ih hrest)

omit [PythonLibrary] [UnicodeLibrary] in
theorem get_of_mem {d : Dict} (hnodup : (d.map Prod.fst).Nodup) {key : String} {value : Value}
    (h : (key, value) ∈ d) : Dict.get d key = value := by
  induction d with
  | nil => cases h
  | cons entry rest ih =>
      obtain ⟨k, v⟩ := entry
      rw [List.map_cons, List.nodup_cons] at hnodup
      rcases List.mem_cons.mp h with hhead | hrest
      · obtain ⟨rfl, rfl⟩ := Prod.mk.inj hhead
        simp [Dict.get]
      · have hne : key ≠ k := by
          rintro rfl
          exact hnodup.1 (List.mem_map.mpr ⟨_, hrest, rfl⟩)
        have hbeq : (key == k) = false := by simpa using hne
        have htail := ih hnodup.2 hrest
        simp only [Dict.get, List.lookup_cons, hbeq] at htail ⊢
        exact htail

omit [PythonLibrary] [UnicodeLibrary] in
/-- A mapping with exactly these keys is these keys with their values. -/
theorem perm_of_hasExactly {d : Dict} {fields : List String} (hnodup : (d.map Prod.fst).Nodup)
    (hfields : fields.Nodup) (h : Dict.hasExactly d fields = true) :
    d.Perm (fields.map fun key => (key, Dict.get d key)) := by
  have hkeys := (Dict.hasExactly_iff d fields).mp h
  have hmade : (fields.map fun key => (key, Dict.get d key)).Nodup :=
    hfields.map fun a b hab => (Prod.ext_iff.mp hab).1
  rw [List.perm_ext_iff_of_nodup hnodup.of_map hmade]
  rintro ⟨key, value⟩
  rw [List.mem_map]
  constructor
  · intro hmem
    exact ⟨key, (hkeys key).mp (List.mem_map_of_mem hmem), by rw [get_of_mem hnodup hmem]⟩
  · rintro ⟨key', hmem, hsame⟩
    obtain ⟨rfl, rfl⟩ := Prod.mk.inj hsame
    obtain ⟨⟨k, v⟩, hentry, rfl⟩ := List.mem_map.mp ((hkeys key').mpr hmem)
    rwa [get_of_mem hnodup hentry]

/-! ## The digest of the evaluated operations -/

omit [PythonLibrary] [UnicodeLibrary] in
theorem textList?_eq {value : Value} {texts : List String} (h : textList? value = some texts) :
    value = Value.texts texts := by
  obtain ⟨items, hitems, htexts⟩ := Option.bind_eq_some_iff.mp h
  have hvalue : value = .list items := by
    cases value <;> simp_all [Value.list?]
  rw [hvalue, Value.texts]
  congr 1
  clear h hitems hvalue
  induction items generalizing texts with
  | nil =>
      rw [List.mapM_nil, Option.pure_def, Option.some.injEq] at htexts
      simp [← htexts]
  | cons v items ih =>
      simp only [List.mapM_cons, Option.pure_def, Option.bind_eq_bind,
        Option.bind_eq_some_iff, Option.some.injEq] at htexts
      obtain ⟨t, ht, ts, hts, rfl⟩ := htexts
      rw [Value.nonEmptyText?_eq_some] at ht
      rw [List.map_cons, ← ih hts, ht.1]

/-- The entries of `WriteOperation.toDict`. -/
def operationEntries (operation : WriteOperation) : Dict :=
  [("operation_kind", .str operation.operationKind),
    ("client_refs", Value.texts operation.clientRefs),
    ("depends_on", Value.texts operation.dependsOn)]

/-- The entries of `WriteOperationV2.toDict`. -/
def operationEntriesV2 : WriteOperationV2 → Dict
  | .createIssue endpoint dependsOn =>
      [("operation_kind", .str "create_issue"), ("endpoint", Endpoint.toDict endpoint),
        ("depends_on", Value.texts dependsOn)]
  | .relationship kind first second dependsOn =>
      [("operation_kind", .str kind.operationKind),
        ("operands", .list [Endpoint.toDict first, Endpoint.toDict second]),
        ("depends_on", Value.texts dependsOn)]

/-- Two keys that the digest of V1 operations leaves out. -/
def withoutIds (operation : Dict) : Dict :=
  operation.filter fun entry => entry.1 ∉ ["id", "operation_id"]

/-- A V1 operation has the canonical form of the mapping it was read from. -/
theorem normalize_operation {fields : Dict} {operation : WriteOperation} {v : Value}
    (hoperation : normalizeWriteOperation (.dict fields) = .ok operation)
    (hv : CanonicalValues.normalize (.dict (withoutIds fields)) = .ok v) :
    CanonicalValues.normalize (.dict (withoutIds (operationEntries operation))) = .ok v := by
  simp only [normalizeWriteOperation, bind_eq_ok, orRaise_eq_ok, raiseIf_eq_ok, pure_eq_ok,
    Value.mapping?, Option.some.injEq, Bool.not_eq_false, not_not] at hoperation
  obtain ⟨fields', rfl, _, hexactly, kind, hkind, refs, hrefs, deps, hdeps, _, -, rfl⟩ := hoperation
  have hkeys := (Dict.hasExactly_iff fields operationFields).mp hexactly
  have hfilter : withoutIds fields = fields := by
    refine List.filter_eq_self.mpr fun entry hentry => ?_
    have hmem := (hkeys entry.1).mp (List.mem_map_of_mem hentry)
    simp only [operationFields, List.mem_cons, List.not_mem_nil, or_false] at hmem
    rcases hmem with h | h | h <;> simp [h]
  rw [hfilter] at hv
  have hperm := perm_of_hasExactly (normalize_nodup hv) (by decide) hexactly
  have hsame := normalize_dict_perm hperm hv
  simp only [operationFields, List.map_cons, List.map_nil, textList?_eq hrefs, textList?_eq hdeps,
    (Value.nonEmptyText?_eq_some.mp hkind).1] at hsame
  exact hsame

theorem normalize_endpoint {value v : Value} {endpoint : Endpoint}
    (hendpoint : v2Endpoint value = .ok endpoint) (hv : CanonicalValues.normalize value = .ok v) :
    CanonicalValues.normalize (Endpoint.toDict endpoint) = .ok v := by
  simp only [v2Endpoint, bind_eq_ok, orRaise_eq_ok, pure_eq_ok] at hendpoint
  obtain ⟨fields, hfields, ⟨endpointType, raw⟩, htype, ref, href, rfl⟩ := hendpoint
  obtain rfl : value = .dict fields := by
    cases value <;> simp_all [Value.mapping?]
  obtain rfl := (Value.nonEmptyText?_eq_some.mp href).1
  unfold v2EndpointType at htype
  split_ifs at htype with hwork hexisting
  · simp only [Option.some.injEq, Prod.mk.injEq] at htype
    obtain ⟨rfl, hraw⟩ := htype
    have hsame := normalize_dict_perm (perm_of_hasExactly (normalize_nodup hv) (by decide)
      hwork.2) hv
    simp only [List.map_cons, List.map_nil, hwork.1, hraw] at hsame
    exact hsame
  · simp only [Option.some.injEq, Prod.mk.injEq] at htype
    obtain ⟨rfl, hraw⟩ := htype
    have hsame := normalize_dict_perm (perm_of_hasExactly (normalize_nodup hv) (by decide)
      hexisting.2) hv
    simp only [List.map_cons, List.map_nil, hexisting.1, hraw] at hsame
    exact hsame

theorem normalize_list_congr {items items' : List Value} {v : Value}
    (hsame : List.Forall₂ (fun a b => ∀ v, CanonicalValues.normalize a = .ok v → CanonicalValues.normalize b = .ok v) items items')
    (h : CanonicalValues.normalize (.list items) = .ok v) : CanonicalValues.normalize (.list items') = .ok v := by
  simp only [CanonicalValues.normalize, bind_eq_ok, normalizeItems_eq_ok, pure_eq_ok] at h ⊢
  obtain ⟨made, hmade, rfl⟩ := h
  refine ⟨made, ?_, rfl⟩
  induction hsame generalizing made with
  | nil =>
      cases hmade
      exact .nil
  | cons he _ ih =>
      cases hmade with
      | cons hhead hrest => exact .cons (he _ hhead) (ih _ hrest)

/-- A V2 operation has the canonical form of the mapping it was read from. -/
theorem normalize_operationV2 {fields : Dict} {operation : WriteOperationV2} {v : Value}
    (hoperation : normalizeWriteOperationV2 (.dict fields) = .ok operation)
    (hv : CanonicalValues.normalize (.dict fields) = .ok v) :
    CanonicalValues.normalize (.dict (operationEntriesV2 operation)) = .ok v := by
  have hnodup := normalize_nodup hv
  simp only [normalizeWriteOperationV2, bind_eq_ok, orRaise_eq_ok, Value.mapping?,
    Option.some.injEq, Value.text?_eq_some] at hoperation
  obtain ⟨fields', rfl, kind, hkind, deps, hdeps, hbranch⟩ := hoperation
  have hdeps' := textList?_eq hdeps
  split_ifs at hbranch with hcreate
  · subst hcreate
    simp only [bind_eq_ok, raiseIf_eq_ok, pure_eq_ok, Bool.not_eq_false] at hbranch
    obtain ⟨_, hexactly, endpoint, hendpoint, _, -, rfl⟩ := hbranch
    have hsame := normalize_dict_perm (perm_of_hasExactly hnodup (by decide) hexactly) hv
    simp only [List.map_cons, List.map_nil, hkind, hdeps'] at hsame
    refine normalize_dict_congr ?_ hsame
    exact .cons ⟨rfl, fun v h => h⟩ (.cons ⟨rfl, fun v h => normalize_endpoint hendpoint h⟩
      (.cons ⟨rfl, fun v h => h⟩ .nil))
  · simp only [bind_eq_ok, orRaise_eq_ok, raiseIf_eq_ok, Bool.not_eq_false] at hbranch
    obtain ⟨planned, hplanned, _, hexactly, hoperands⟩ := hbranch
    have hsame := normalize_dict_perm (perm_of_hasExactly hnodup (by decide) hexactly) hv
    split at hoperands
    · rename_i left right hpair
      simp only [bind_eq_ok, raiseIf_eq_ok, pure_eq_ok] at hoperands
      obtain ⟨first, hfirst, second, hsecond, _, -, rfl⟩ := hoperands
      have hkind' : kind = planned.operationKind := by
        unfold relationshipKinds at hplanned
        split at hplanned
        all_goals first
          | (obtain rfl := Option.some.inj hplanned; rfl)
          | cases hplanned
      simp only [List.map_cons, List.map_nil, hkind, hdeps', hpair] at hsame
      rw [hkind'] at hsame
      refine normalize_dict_congr ?_ hsame
      refine .cons ⟨rfl, fun v h => h⟩ (.cons ⟨rfl, fun v h => ?_⟩
        (.cons ⟨rfl, fun v h => h⟩ .nil))
      exact normalize_list_congr (.cons (fun v h => normalize_endpoint hfirst h)
        (.cons (fun v h => normalize_endpoint hsecond h) .nil)) h
    · cases hoperands

omit [PythonLibrary] [UnicodeLibrary] in
/-- What an evaluation of a canonical mapping returns as its operations. -/
theorem evaluateCanonical_operations {canonical : Dict} {operations : List Value} {e : Evaluated}
    (hintents : getOr canonical "operation_intents" (.list []) = .list operations)
    (he : evaluateCanonical canonical = .ok e) :
    if isVersion2 canonical then ∃ made : List WriteOperationV2,
      List.Forall₂ (fun value made => normalizeWriteOperationV2 value = .ok made) operations made ∧
        e.operations = made.map WriteOperationV2.toDict
    else ∃ made : List WriteOperation,
      List.Forall₂ (fun value made => normalizeWriteOperation value = .ok made) operations made ∧
        e.operations = made.map WriteOperation.toDict := by
  simp only [evaluateCanonical, bind_eq_ok, hintents] at he
  obtain ⟨items, -, semantic, -, hbranch⟩ := he
  by_cases hversion : isVersion2 canonical
  · rw [if_pos hversion] at hbranch ⊢
    simp only [bind_eq_ok, pure_eq_ok] at hbranch
    obtain ⟨remote, -, bindings, -, records, -, evaluation, hevaluation, rfl⟩ := hbranch
    simp only [evaluateWriteOperationsV2, normalizeWriteOperationsV2, Value.sequence?, bind_eq_ok,
      orRaise_eq_ok, Option.some.injEq, pure_eq_ok] at hevaluation
    obtain ⟨made, ⟨_, rfl, hmade⟩, _, -, _, -, _, -, _, -, rfl⟩ := hevaluation
    exact ⟨made, mapM_eq_ok.mp hmade, rfl⟩
  · rw [if_neg hversion] at hbranch ⊢
    simp only [bind_eq_ok, pure_eq_ok] at hbranch
    obtain ⟨evaluation, hevaluation, rfl⟩ := hbranch
    simp only [evaluateWriteOperations, normalizeWriteOperations, Value.sequence?, bind_eq_ok,
      orRaise_eq_ok, Option.some.injEq, pure_eq_ok] at hevaluation
    obtain ⟨made, ⟨_, rfl, hmade⟩, _, -, _, -, rfl⟩ := hevaluation
    exact ⟨made, mapM_eq_ok.mp hmade, rfl⟩

omit [PythonLibrary] [UnicodeLibrary] in
theorem mapM_mapping?_eq {items : List Value} {entries : List Dict} :
    items.mapM Value.mapping? = some entries ↔ items = entries.map .dict := by
  induction items generalizing entries with
  | nil => cases entries <;> simp
  | cons item items ih =>
      simp only [List.mapM_cons, Option.pure_def, Option.bind_eq_bind, Option.bind_eq_some_iff,
        Option.some.injEq, ih]
      constructor
      · rintro ⟨d, hd, rest, rfl, rfl⟩
        cases item <;> simp_all [Value.mapping?]
      · cases entries with
        | nil => simp
        | cons d rest =>
            rw [List.map_cons, List.cons.injEq]
            rintro ⟨rfl, rfl⟩
            exact ⟨d, rfl, rest, rfl, rfl⟩

/-- Operations have the canonical form of the mappings they were read from. -/
theorem normalize_made {op : Type} {read : Value → Py op} {entriesOf : op → Dict}
    {keep : Dict → Dict}
    (hread : ∀ {fields operation v}, read (.dict fields) = .ok operation →
      CanonicalValues.normalize (.dict (keep fields)) = .ok v →
      CanonicalValues.normalize (.dict (keep (entriesOf operation))) = .ok v)
    {entries : List Dict} {made : List op}
    (hmade : List.Forall₂ (fun value made => read value = .ok made) (entries.map .dict) made)
    (v : Value) (hv : CanonicalValues.normalize (Value.dicts (entries.map keep)) = .ok v) :
    CanonicalValues.normalize (Value.dicts ((made.map entriesOf).map keep)) = .ok v := by
  refine normalize_list_congr ?_ hv
  rw [List.forall₂_map_left_iff] at hmade
  simp only [List.map_map, List.forall₂_map_left_iff, List.forall₂_map_right_iff]
  exact hmade.imp fun fields operation hone v hnormal => hread hone hnormal

/-- The evaluated operations keep the digest of the operations that were sealed. -/
theorem operationSetDigest_evaluated {canonical : Dict} {operations : List Value} {e : Evaluated}
    {d : String}
    (hintents : getOr canonical "operation_intents" (.list []) = .list operations)
    (he : evaluateCanonical canonical = .ok e)
    (hd : operationSetDigest (isVersion2 canonical) operations = .ok d) :
    operationSetDigest (isVersion2 canonical) e.operations = .ok d := by
  have hmade := evaluateCanonical_operations hintents he
  simp only [operationSetDigest, operationSetDigestPayload, canonicalDigest, bind_eq_ok,
    orRaise_eq_ok, mapM_mapping?_eq] at hd ⊢
  obtain ⟨payload, ⟨entries, rfl, hpayload⟩, v, hv, hdigest⟩ := hd
  by_cases hversion : isVersion2 canonical
  · simp only [if_pos hversion, pure_eq_ok] at hmade hpayload ⊢
    obtain ⟨made, hmade, hoperations⟩ := hmade
    subst hpayload
    have hkept : ∀ w, CanonicalValues.normalize (Value.dicts (entries.map id)) = .ok w →
        CanonicalValues.normalize (Value.dicts ((made.map operationEntriesV2).map id)) = .ok w :=
      normalize_made normalize_operationV2 hmade
    simp only [List.map_id] at hkept
    refine ⟨_, ⟨made.map operationEntriesV2, ?_, rfl⟩, v, ?_, Except.ok.inj hdigest⟩
    · rw [hoperations, List.map_map]
      refine List.map_congr_left fun operation _ => ?_
      cases operation <;> rfl
    · refine normalize_dict_congr ?_ hv
      exact .cons ⟨rfl, fun v h => h⟩ (.cons ⟨rfl, hkept⟩ .nil)
  · simp only [if_neg hversion, pure_eq_ok] at hmade hpayload ⊢
    obtain ⟨made, hmade, hoperations⟩ := hmade
    subst hpayload
    have hkept := normalize_made normalize_operation hmade
    refine ⟨_, ⟨made.map operationEntries, ?_, rfl⟩, v, ?_, Except.ok.inj hdigest⟩
    · rw [hoperations, List.map_map]
      rfl
    · refine normalize_dict_congr ?_ hv
      exact .cons ⟨rfl, hkept⟩ .nil

/-! ## What validation establishes -/

/-- The facts of a validated canonical mapping that decide its eligibility. -/
structure Validated (canonical : Dict) : Prop where
  workspace : ∃ workspace, canonical.get "workspace_identity" = .str workspace
  blockers : ∃ texts, canonical.get "blockers" = Value.texts texts
  semantic : ∃ semantic, canonical.get "semantic_payload" = .dict semantic
  items : ∃ items, canonical.get "items" = .list items
  bound : canonical.get "preview_level" ≠ .str "Conceptual" →
    (∃ repository, canonical.get "repository_identity" = .str repository) ∧
      ∃ digest, canonical.get "remote_snapshot_digest" = .str digest
  snapshot : ∀ remote, canonical.get "remote_snapshot" = .dict remote →
    canonical.get "remote_snapshot_digest" ≠ .null
  plan : ∃ d, planDigestOf (isVersion2 canonical) (canonical.get "semantic_payload") = .ok d ∧
    canonical.get "plan_digest" = .str d
  operations : ∃ operations d, canonical.get "operation_intents" = .list operations ∧
    operationSetDigest (isVersion2 canonical) operations = .ok d ∧
    canonical.get "operation_set_digest" = .str d
  signed : ∃ d, canonicalDigest (.dict (unsealed canonical)) = .ok d ∧
    canonical.get "sealed_preview_digest" = .str d

theorem toDict_nodup {p : SealedPreview} {canonical : Dict} (h : p.toDict = .ok canonical) :
    (canonical.map Prod.fst).Nodup := by
  simp only [SealedPreview.toDict, bind_eq_ok, orRaise_eq_ok] at h
  obtain ⟨value, hvalue, hmapping⟩ := h
  obtain ⟨made, -, hnodup, rfl⟩ := normalize_dict_eq_ok.mp hvalue
  obtain rfl := Option.some.inj hmapping
  exact ((sortEntries_perm made).map Prod.fst).nodup_iff.mpr hnodup

omit [PythonLibrary] [UnicodeLibrary] in
theorem allTexts_eq {items : List Value} {texts : List String} (h : allTexts items = some texts) :
    items = texts.map .str := by
  unfold allTexts at h
  induction items generalizing texts with
  | nil =>
      rw [List.mapM_nil, Option.pure_def, Option.some.injEq] at h
      simp [← h]
  | cons v items ih =>
      simp only [List.mapM_cons, Option.pure_def, Option.bind_eq_bind,
        Option.bind_eq_some_iff, Option.some.injEq, Value.text?_eq_some] at h
      obtain ⟨t, rfl, ts, hts, rfl⟩ := h
      rw [List.map_cons, ih hts]

omit [PythonLibrary] [UnicodeLibrary] in
theorem list?_eq_some {value : Value} {items : List Value} :
    value.list? = some items ↔ value = .list items := by
  cases value <;> simp [Value.list?]

omit [PythonLibrary] [UnicodeLibrary] in
theorem mapping?_eq_some {value : Value} {d : Dict} : value.mapping? = some d ↔ value = .dict d := by
  cases value <;> simp [Value.mapping?]

variable [IntegerLibrary] [DatetimeLibrary] [CasefoldLibrary]

/-- A validated canonical mapping repeats the given one up to the order of keys. -/
theorem validatePreviewPayload_validated {given canonical : Dict} {b : PreviewBinding}
    {evidence : List Dict} {workspace : String} {promotion : Option RuntimePromotion}
    (h : validatePreviewPayload given b evidence workspace promotion = .ok canonical) :
    Validated canonical := by
  simp only [validatePreviewPayload, bind_eq_ok, raiseIf_eq_ok, orRaise_eq_ok, pure_eq_ok, not_or,
    not_not, list?_eq_some, mapping?_eq_some] at h
  obtain ⟨_, -, parsed, hparsed, canonical', htoDict, _, hsame, _, -, _, hworkspace, _, hinvariants,
    _, -, semantic, hsemantic, operations, hoperations, planDigest, hplan, _, ⟨rfl, hplan'⟩,
    operationDigest, hoperation, _, ⟨rfl, hoperation'⟩, _, hremote, _, -, _, hsnapshot, _, -,
    sealedDigest, hsealed, _, hsealed', rfl⟩ := h
  have hget := sortKeys_get (toDict_nodup htoDict) hsame
  simp only [SealedPreview.fromDict, bind_eq_ok, orRaise_eq_ok] at hparsed
  obtain ⟨bindings, -, _, -, _, -, _, -, _, -, _, -, _, -, _, -, _, -, _, -, items, hitems, _, -,
    blockers, hblockers, -⟩ := hparsed
  obtain ⟨blockerItems, hlist, htexts⟩ := Option.bind_eq_some_iff.mp hblockers
  obtain ⟨itemValues, hitemList, -⟩ := Option.bind_eq_some_iff.mp hitems
  rw [list?_eq_some] at hlist hitemList
  refine ⟨⟨_, hworkspace⟩, ⟨blockers, ?_⟩, ⟨_, hsemantic⟩, ?_, ?_, ?_, ⟨_, ?_, hplan'⟩,
    ⟨_, _, hoperations, hoperation, hoperation'⟩, ⟨_, hsealed, hsealed'⟩⟩
  · refine sortKeys_eq_texts ?_
    rw [hget, hlist, Value.texts, allTexts_eq htexts]
  · exact sortKeys_eq_list (by rw [hget, hitemList])
  · intro hlevel
    simp only [validateSealedPreviewInvariants, bind_eq_ok, if_neg hlevel, orRaise_eq_ok] at hinvariants
    obtain ⟨_, -, _, -, _, -, _, -, repository, hrepository, _, -, digest, hdigest, -⟩ := hinvariants
    exact ⟨⟨repository, (presentText?_eq_some.mp hrepository).1⟩,
      digest, (Value.nonEmptyText?_eq_some.mp hdigest).1⟩
  · intro remote hremote' hnull
    simp only [checkRemoteSnapshot, hremote', bind_eq_ok, raiseIf_eq_ok, not_not] at hsnapshot
    obtain ⟨_, -, made, -, _, hmade, -⟩ := hsnapshot
    rw [hnull, ← hmade] at hremote
    cases hremote
  · rw [hsemantic]
    exact hplan

end

/-! ## The three deciders -/

theorem truthy_texts {texts : List String} (h : Value.truthy (Value.texts texts) = false) :
    Value.texts texts = .list [] := by
  cases texts with
  | nil => rfl
  | cons s texts => simp [Value.truthy, Value.texts] at h

theorem require_of_get (d : Dict) {k : String} (h : d.get k ≠ .null) :
    ∃ value, Dict.require d k = .ok value := by
  simp only [Dict.get, Dict.require] at h ⊢
  cases hd : d.lookup k with
  | none => simp [hd] at h
  | some value => exact ⟨value, rfl⟩

section
variable [PythonLibrary] [UnicodeLibrary]

/-- A complete snapshot, no blocker, and operations that are evaluated eligible. -/
structure Eligible (canonical : Dict) : Prop where
  complete : ∃ remote, canonical.get "remote_snapshot" = .dict remote ∧
    Dict.get remote "query_complete" = .bool true ∧
    Dict.get remote "pagination_complete" = .bool true
  unblocked : canonical.get "blockers" = .list []
  evaluated : ∃ e, evaluateCanonical canonical = .ok e ∧ e.eligible = true

theorem runtimePreviewLevel_writeEligible {canonical : Dict} (hvalid : Validated canonical) :
    runtimePreviewLevel canonical = .ok .writeEligible ↔ Eligible canonical := by
  constructor
  · intro h
    unfold runtimePreviewLevel at h
    split at h
    · rename_i remote hremote
      split_ifs at h with hdigest hcomplete <;> try cases h
      split at h
      · rename_i e he
        split_ifs at h with heligible <;> try cases h
        obtain ⟨texts, htexts⟩ := hvalid.blockers
        rw [htexts] at heligible
        refine ⟨⟨remote, hremote, hcomplete⟩, ?_, e, he, heligible.1⟩
        rw [htexts, truthy_texts heligible.2]
      all_goals cases h
    · cases h
  · rintro ⟨⟨remote, hremote, hcomplete⟩, hblockers, e, he, heligible⟩
    have hdigest := hvalid.snapshot remote hremote
    simp [runtimePreviewLevel, hremote, hdigest, hcomplete, he, heligible, hblockers, Value.truthy]

/-- The comparisons at approval repeat what validation established. -/
theorem approvalComparisons_eq {canonical : Dict} {e : Evaluated} (hvalid : Validated canonical)
    (he : evaluateCanonical canonical = .ok e) :
    approvalComparisons canonical = .ok e.eligible := by
  obtain ⟨planDigest, hplan, hplan'⟩ := hvalid.plan
  obtain ⟨operations, operationDigest, hoperations, hoperation, hoperation'⟩ := hvalid.operations
  obtain ⟨sealedDigest, hsealed, hsealed'⟩ := hvalid.signed
  obtain ⟨semantic, hsemantic⟩ := hvalid.semantic
  obtain ⟨items, hitems⟩ := hvalid.items
  obtain ⟨_, hintents⟩ := require_of_get canonical (k := "operation_intents")
    (by rw [hoperations]; exact Value.noConfusion)
  obtain ⟨_, hitemList⟩ := require_of_get canonical (k := "items")
    (by rw [hitems]; exact Value.noConfusion)
  obtain ⟨_, hpayload⟩ := require_of_get canonical (k := "semantic_payload")
    (by rw [hsemantic]; exact Value.noConfusion)
  have hlisted : getOr canonical "operation_intents" (.list []) = .list operations := by
    simp only [Dict.get, getOr] at hoperations ⊢
    cases hd : List.lookup "operation_intents" canonical <;> simp_all
  have hmade := operationSetDigest_evaluated hlisted he hoperation
  simp [approvalComparisons, hintents, hitemList, hpayload, he, hmade, hplan, hsealed, hplan',
    hoperation', hsealed', bind, Except.bind, pure, Except.pure]

theorem previewIsApprovalEligible_iff {canonical : Dict} {level : PreviewLevel}
    (hvalid : Validated canonical) (hlevel : runtimePreviewLevel canonical = .ok level)
    (htext : canonical.get "preview_level" = .str level.text) :
    previewIsApprovalEligible canonical = .ok true ↔ level = .writeEligible := by
  constructor
  · intro h
    unfold previewIsApprovalEligible at h
    by_cases hwrite : canonical.get "preview_level" = .str "WriteEligible"
    swap
    · simp [hwrite] at h
    rw [htext, Value.str.injEq] at hwrite
    cases level with
    | writeEligible => rfl
    | conceptual => exact absurd hwrite (by decide)
    | repositoryAware => exact absurd hwrite (by decide)
  · rintro rfl
    obtain ⟨-, hblockers, e, he, heligible⟩ := (runtimePreviewLevel_writeEligible hvalid).mp hlevel
    obtain ⟨workspace, hworkspace⟩ := hvalid.workspace
    obtain ⟨⟨repository, hrepository⟩, digest, hdigest⟩ := hvalid.bound (by
      rw [htext]
      decide)
    have hcompared := approvalComparisons_eq hvalid he
    simp [previewIsApprovalEligible, htext, PreviewLevel.text, hworkspace, hrepository, hdigest,
      hblockers, hcompared, heligible, Value.text?]

end
end DeliverySystem.PreviewEligibility

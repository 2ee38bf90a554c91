import DeliverySystem.AuthorityBindings
import DeliverySystem.NormalForms
import DeliverySystem.PairedLists
import DeliverySystem.PreviewEligibility

/-!
# Records of a snapshot as they are written

An issue or a relationship is written with its texts normalized and its keys in order.
A written record passes the checks of its version again where its identity is a text
and its time keeps its zone, and it is read to the record with the texts normalized.
-/
namespace DeliverySystem.SnapshotForms
open PythonValues CanonicalValues AuthorityBindings NormalForms RemoteSnapshots IssueCommands
open AuditRecords
open PreviewEligibility (normalize_dict_eq_ok)
set_option autoImplicit false

/-- The states of an issue are folded already. -/
class LawfulCasefold [CasefoldLibrary] : Prop where
  casefold_state {s : String} (h : s ∈ ["open", "closed"]) : CasefoldLibrary.casefold s = s

/-! ## Sorted lists -/

section
variable {α : Type}

theorem insertionSort_eq_self {r : α → α → Prop} [DecidableRel r] [Std.Total r] [IsTrans α r]
    {xs : List α} : xs.insertionSort r = xs ↔ xs.Pairwise r :=
  ⟨fun h => h ▸ List.pairwise_insertionSort r xs, fun h => h.insertionSort_eq⟩

/-- A list has one order where different items do not stand before each other. -/
theorem insertionSort_eq_of_perm {r : α → α → Prop} [DecidableRel r] [Std.Total r] [IsTrans α r]
    {xs ys : List α} (hperm : xs.Perm ys) (hanti : ∀ a ∈ xs, ∀ b ∈ xs, r a b → r b a → a = b) :
    xs.insertionSort r = ys.insertionSort r := by
  refine List.Perm.eq_of_pairwise (fun a b ha hb => ?_) (List.pairwise_insertionSort r xs)
    (List.pairwise_insertionSort r ys)
    ((List.perm_insertionSort r xs).trans (hperm.trans (List.perm_insertionSort r ys).symm))
  exact hanti a ((List.perm_insertionSort r xs).mem_iff.mp ha) b
    (hperm.mem_iff.mpr ((List.perm_insertionSort r ys).mem_iff.mp hb))

/-- Sorting by a key is sorting the keys. -/
theorem map_insertionSort (key : α → String) (xs : List α) :
    (xs.insertionSort fun a b => key a ≤ key b).map key =
      (xs.map key).insertionSort (· ≤ ·) := by
  have htotal : Std.Total fun a b : α => key a ≤ key b := ⟨fun a b => le_total (key a) (key b)⟩
  have htrans : IsTrans α fun a b => key a ≤ key b := ⟨fun a b c => le_trans⟩
  refine List.Perm.eq_of_pairwise (fun a b _ _ => le_antisymm)
    (List.pairwise_map.mpr (List.pairwise_insertionSort _ xs)) (List.pairwise_insertionSort _ _)
    (((List.perm_insertionSort _ xs).map key).trans (List.perm_insertionSort _ _).symm)

end

instance : Std.Total RemoteRelationshipRecord.before where
  total a b := by
    unfold RemoteRelationshipRecord.before
    rcases lt_trichotomy a.relationshipType b.relationshipType with h | h | h
    · exact .inl (.inl h)
    · rcases lt_trichotomy a.sourceIssueId b.sourceIssueId with h' | h' | h'
      · exact .inl (.inr ⟨h, .inl h'⟩)
      · exact (le_total a.targetIssueId b.targetIssueId).imp
          (fun h'' => .inr ⟨h, .inr ⟨h', h''⟩⟩) fun h'' => .inr ⟨h.symm, .inr ⟨h'.symm, h''⟩⟩
      · exact .inr (.inr ⟨h.symm, .inl h'⟩)
    · exact .inr (.inl h)

instance : IsTrans RemoteRelationshipRecord RemoteRelationshipRecord.before where
  trans a b c hab hbc := by
    unfold RemoteRelationshipRecord.before at *
    rcases hab with h | ⟨h, hab⟩
    · rcases hbc with h' | ⟨h', -⟩
      · exact .inl (h.trans h')
      · exact .inl (h' ▸ h)
    · rcases hbc with h' | ⟨h', hbc⟩
      · exact .inl (h ▸ h')
      · refine .inr ⟨h.trans h', ?_⟩
        rcases hab with g | ⟨g, hab⟩
        · rcases hbc with g' | ⟨g', -⟩
          · exact .inl (g.trans g')
          · exact .inl (g' ▸ g)
        · rcases hbc with g' | ⟨g', hbc⟩
          · exact .inl (g ▸ g')
          · exact .inr ⟨g.trans g', hab.trans hbc⟩

theorem before_antisymm {a b : RemoteRelationshipRecord} (hab : a.before b) (hba : b.before a) :
    a = b := by
  unfold RemoteRelationshipRecord.before at hab hba
  have hkind : a.relationshipType = b.relationshipType :=
    le_antisymm (hab.elim le_of_lt fun h => h.1.le) (hba.elim le_of_lt fun h => h.1.le)
  obtain ⟨-, hab⟩ := hab.resolve_left (by rw [hkind]; exact lt_irrefl _)
  obtain ⟨-, hba⟩ := hba.resolve_left (by rw [hkind]; exact lt_irrefl _)
  have hsource : a.sourceIssueId = b.sourceIssueId :=
    le_antisymm (hab.elim le_of_lt fun h => h.1.le) (hba.elim le_of_lt fun h => h.1.le)
  obtain ⟨-, hab⟩ := hab.resolve_left (by rw [hsource]; exact lt_irrefl _)
  obtain ⟨-, hba⟩ := hba.resolve_left (by rw [hsource]; exact lt_irrefl _)
  have htarget := le_antisymm hab hba
  cases a
  cases b
  simp_all

theorem inTexts_mem {s : String} {texts : List String} (h : s ∈ texts) :
    inTexts (.str s) texts = .ok true := by
  have hhashable : (Value.str s).hashable = true := rfl
  rw [inTexts, if_pos hhashable, Except.ok.injEq, List.any_eq_true]
  exact ⟨s, h, decide_eq_true rfl⟩

theorem of_inTexts {value : Value} {texts : List String} (h : inTexts value texts = .ok true) :
    ∃ s ∈ texts, value = .str s := by
  rw [inTexts] at h
  split_ifs at h
  obtain ⟨s, hs, heq⟩ := List.any_eq_true.mp (Except.ok.inj h)
  exact ⟨s, hs, of_decide_eq_true heq⟩

/-! ## Records that are written -/

section
variable [PythonLibrary] [UnicodeLibrary] [TimestampLibrary] [LawfulTextLibrary]

omit [TimestampLibrary] [LawfulTextLibrary] [PythonLibrary] [UnicodeLibrary] in
theorem get_sortEntries {d : Dict} (h : (Dict.keys d).Nodup) (key : String) :
    Dict.get (sortEntries d) key = d.get key := by
  rw [Dict.get, Dict.get, lookup_eq_of_perm (sortEntries_perm d).symm h]

omit [TimestampLibrary] [LawfulTextLibrary] [PythonLibrary] [UnicodeLibrary] in
theorem get_sorted {d : Dict} (h : (Dict.keys d).Nodup) {e : String × Value} (he : e ∈ d) :
    Dict.get (sortEntries d) e.1 = e.2 := by
  rw [get_sortEntries h]
  induction d with
  | nil => cases he
  | cons f d ih =>
      obtain ⟨key, value⟩ := f
      obtain ⟨hnot, hrest⟩ := List.nodup_cons.mp h
      simp only [Dict.get, List.lookup_cons]
      rcases List.mem_cons.mp he with rfl | he
      · simp
      · have hne : (e.1 == key) = false := beq_false_of_ne fun heq =>
          hnot (List.mem_map.mpr ⟨e, he, heq⟩)
        rw [hne]
        exact ih hrest he

/-- A mapping under plain keys is normalized value by value. -/
theorem normalize_plain {entries entries' : Dict} (hkeys : ∀ key ∈ Dict.keys entries, Graphic key)
    (hnodup : (Dict.keys entries).Nodup)
    (hvalues : List.Forall₂ (fun e e' : String × Value => e'.1 = e.1 ∧
      CanonicalValues.normalize e.2 = .ok e'.2) entries entries') :
    CanonicalValues.normalize (.dict entries) = .ok (.dict (sortEntries entries')) := by
  have hsame : entries'.map Prod.fst = entries.map Prod.fst := by
    clear hkeys hnodup
    induction hvalues with
    | nil => rfl
    | cons h _ ih => rw [List.map_cons, List.map_cons, h.1, ih]
  refine normalize_dict_eq_ok.mpr ⟨entries', ?_, hsame ▸ hnodup, rfl⟩
  clear hnodup hsame
  induction hvalues with
  | nil => exact .nil
  | @cons e e' rest rest' h _ ih =>
      have hkey := (LawfulTextLibrary.graphic (hkeys e.1 (by simp [Dict.keys]))).1
      exact .cons ⟨by rw [hkey, h.1], h.2⟩ (ih fun key hkey => hkeys key (by
        rw [Dict.keys, List.map_cons]
        exact List.mem_cons_of_mem _ hkey))

omit [TimestampLibrary] [LawfulTextLibrary] in
@[simp] theorem normalize_str (s : String) :
    CanonicalValues.normalize (.str s) = .ok (.str (canonicalText s)) := by
  rw [CanonicalValues.normalize]

theorem canonicalText_plain {s : String} (h : Graphic s) (hne : s ≠ "") : canonicalText s = s :=
  (h.settled hne).canonicalText

variable [DatetimeLibrary] [CasefoldLibrary]

def issueEntries (r : RemoteIssueRecord) : Dict :=
  [("issue_id", .str r.issueId), ("item_type", .str r.itemType), ("title", .str r.title),
    ("updated_at", .str r.updatedAt), ("repository_identity", .str r.repositoryIdentity)]

/-- The record with its texts normalized. -/
def settledIssue (r : RemoteIssueRecord) : RemoteIssueRecord where
  issueId := canonicalText r.issueId
  itemType := r.itemType
  title := canonicalText r.title
  updatedAt := canonicalText r.updatedAt
  repositoryIdentity := canonicalText r.repositoryIdentity

def issueEntriesV2 (r : RemoteIssueRecordV2) : Dict :=
  [("issue_id", .str r.issueId), ("numeric_issue_id", .str r.numericIssueId),
    ("issue_number", .int r.issueNumber), ("item_type", .str r.itemType), ("title", .str r.title),
    ("body", .str r.body), ("state", .str r.state), ("updated_at", .str r.updatedAt),
    ("repository_identity", .str r.repositoryIdentity)]

/-- The record with its texts normalized. -/
def settledIssueV2 (r : RemoteIssueRecordV2) : RemoteIssueRecordV2 where
  issueId := canonicalText r.issueId
  numericIssueId := r.numericIssueId
  issueNumber := r.issueNumber
  itemType := r.itemType
  title := canonicalText r.title
  body := canonicalText r.body
  state := r.state
  updatedAt := canonicalText r.updatedAt
  repositoryIdentity := canonicalText r.repositoryIdentity

def settledRelationship (r : RemoteRelationshipRecord) : RemoteRelationshipRecord where
  relationshipType := r.relationshipType
  sourceIssueId := canonicalText r.sourceIssueId
  targetIssueId := canonicalText r.targetIssueId

/-- What the constructor of a version 1 record makes sure of. -/
structure IssueSound (r : RemoteIssueRecord) : Prop where
  itemType : r.itemType ∈ ["issue", "pull_request"]
  title : PythonLibrary.strip r.title ≠ ""
  updatedAt : PythonLibrary.strip r.updatedAt ≠ ""
  repository : PythonLibrary.strip r.repositoryIdentity ≠ ""

omit [UnicodeLibrary] [TimestampLibrary] [LawfulTextLibrary] [CasefoldLibrary] in
theorem issueSound {v : Value} {r : RemoteIssueRecord} (h : RemoteIssueRecord.fromDict v = .ok r) :
    IssueSound r := by
  simp only [RemoteIssueRecord.fromDict, bind_eq_ok, orRaise_eq_ok, raiseIf_eq_ok, pure_eq_ok,
    presentText?_eq_some] at h
  obtain ⟨value, -, id, -, _, -, known, hknown, _, htrue, title, ⟨-, htitle⟩, updated,
    ⟨-, hupdated⟩, repository, ⟨-, hrepository⟩, _, -, rfl⟩ := h
  refine ⟨?_, htitle, hupdated, hrepository⟩
  obtain rfl : known = true := by simpa using htrue
  obtain ⟨text, htext, heq⟩ := of_inTexts hknown
  rw [heq]
  exact htext

omit [DatetimeLibrary] [CasefoldLibrary] in
theorem plainType {s : String} (h : s ∈ ["issue", "pull_request"]) : canonicalText s = s := by
  have hplain : ∀ s ∈ ["issue", "pull_request"], Graphic s ∧ s ≠ "" := by decide
  exact canonicalText_plain (hplain s h).1 (hplain s h).2

omit [DatetimeLibrary] [CasefoldLibrary] in
theorem normalize_issue {r : RemoteIssueRecord} (h : IssueSound r) :
    CanonicalValues.normalize r.toDict =
      .ok (.dict (sortEntries (issueEntries (settledIssue r)))) := by
  refine normalize_plain ?_ ?_ ?_
  · simp only [Dict.keys, List.map_cons, List.map_nil]
    decide
  · simp only [Dict.keys, List.map_cons, List.map_nil]
    decide
  · simp only [issueEntries, settledIssue, List.forall₂_cons,
      List.forall₂_nil_left_iff, normalize_str, plainType h.itemType, and_self]

variable [LawfulSpacing] [LawfulBlanks]

omit [CasefoldLibrary] [TimestampLibrary] [LawfulTextLibrary] in
/-- A written record is read where its identity is a text and its time has a zone. -/
theorem reads_issue {r j : RemoteIssueRecord} (h : IssueSound r) :
    RemoteIssueRecord.fromDict (.dict (sortEntries (issueEntries (settledIssue r)))) = .ok j ↔
      settledIssue r = j ∧ canonicalText r.issueId ≠ "" ∧
        isTimezoneAwareTimestamp (canonicalText r.updatedAt) = true := by
  have hkeys : (Dict.keys (issueEntries (settledIssue r))).Nodup := by
    simp only [issueEntries, Dict.keys, List.map_cons, List.map_nil]
    decide
  have hvalues := fun e => get_sorted hkeys (e := e)
  have hknown := inTexts_mem h.itemType
  have hpresent : ∀ {s : String}, PythonLibrary.strip s ≠ "" →
      presentText? (.str (canonicalText s)) = some (canonicalText s) := fun hs =>
    presentText?_eq_some.mpr ⟨rfl, canonicalText_present hs⟩
  generalize sortEntries (issueEntries (settledIssue r)) = d at hvalues
  simp only [issueEntries, settledIssue, List.forall_mem_cons, List.not_mem_nil, false_implies,
    implies_true, and_true] at hvalues
  obtain ⟨hid, htype, htitle, hupdated, hrepository⟩ := hvalues
  simp only [RemoteIssueRecord.fromDict, Value.mapping?, orRaise_eq_ok, bind_eq_ok,
    raiseIf_eq_ok, pure_eq_ok, Option.some.injEq, exists_eq_left', hid, htype, htitle, hupdated,
    hrepository, textOrInteger?, hknown, hpresent h.title, hpresent h.updatedAt,
    hpresent h.repository, Value.toText, Except.ok.injEq, Bool.not_eq_false]
  constructor
  · rintro ⟨_, hne, _, -, _, haware, rfl⟩
    exact ⟨rfl, hne, haware⟩
  · rintro ⟨rfl, hne, haware⟩
    exact ⟨(), hne, (), trivial, (), haware, rfl⟩

/-- What the constructor of a version 2 record makes sure of. -/
structure IssueSoundV2 (r : RemoteIssueRecordV2) : Prop where
  issueId : PythonLibrary.strip r.issueId ≠ ""
  numericId : numericIdText r.numericIssueId = true
  number : 1 ≤ r.issueNumber
  itemType : r.itemType = "issue"
  title : PythonLibrary.strip r.title ≠ ""
  state : r.state ∈ ["open", "closed"]
  repository : PythonLibrary.strip r.repositoryIdentity ≠ ""

omit [UnicodeLibrary] [TimestampLibrary] [LawfulTextLibrary] [LawfulSpacing] [LawfulBlanks] in
theorem issueSoundV2 {v : Value} {r : RemoteIssueRecordV2}
    (h : RemoteIssueRecordV2.fromDict v = .ok r) : IssueSoundV2 r := by
  simp only [RemoteIssueRecordV2.fromDict, bind_eq_ok, orRaise_eq_ok, raiseIf_eq_ok, pure_eq_ok,
    presentText?_eq_some, positiveInt?_eq_some, Bool.not_eq_false, not_not] at h
  obtain ⟨value, -, _, -, id, ⟨-, hid⟩, numeric, -, _, hnumeric, number, ⟨-, hnumber⟩, _, -, title,
    ⟨-, htitle⟩, body, -, state, -, _, hstate, updated, -, _, -, repository, ⟨-, hrepository⟩,
    rfl⟩ := h
  exact ⟨hid, hnumeric, hnumber, rfl, htitle, hstate, hrepository⟩

omit [PythonLibrary] [UnicodeLibrary] [TimestampLibrary] [LawfulTextLibrary] [DatetimeLibrary]
  [CasefoldLibrary] [LawfulSpacing] [LawfulBlanks] in
theorem numericId_graphic {s : String} (h : numericIdText s = true) : Graphic s ∧ s ≠ "" := by
  simp only [numericIdText, Bool.and_eq_true, decide_eq_true_eq, List.all_eq_true] at h
  obtain ⟨⟨⟨hlength, -⟩, -⟩, hdigits⟩ := h
  refine ⟨fun c hc => ?_, ?_⟩
  · obtain ⟨hlow, hhigh⟩ := hdigits c hc
    have hlow' : '0'.toNat ≤ c.toNat := hlow
    have hhigh' : c.toNat ≤ '9'.toNat := hhigh
    simp only [Char.reduceToNat] at hlow' hhigh'
    omega
  · rintro rfl
    simp at hlength

omit [DatetimeLibrary] [CasefoldLibrary] [LawfulSpacing] [LawfulBlanks] in
theorem normalize_issueV2 {r : RemoteIssueRecordV2} (h : IssueSoundV2 r) :
    RemoteIssueRecordV2.toDict r =
      .ok (.dict (sortEntries (issueEntriesV2 (settledIssueV2 r)))) := by
  have hstates : ∀ s ∈ ["open", "closed"], Graphic s ∧ s ≠ "" := by decide
  have hstate := canonicalText_plain (hstates _ h.state).1 (hstates _ h.state).2
  have hnumeric := canonicalText_plain (numericId_graphic h.numericId).1
    (numericId_graphic h.numericId).2
  have htype : canonicalText r.itemType = r.itemType := by
    rw [h.itemType]
    exact plainType (by decide)
  refine normalize_plain ?_ ?_ ?_
  · simp only [Dict.keys, List.map_cons, List.map_nil]
    decide
  · simp only [Dict.keys, List.map_cons, List.map_nil]
    decide
  · simp only [issueEntriesV2, settledIssueV2, List.forall₂_cons, List.forall₂_nil_left_iff,
      CanonicalValues.normalize, hstate, hnumeric, htype, and_self]

omit [TimestampLibrary] [LawfulTextLibrary] in
/-- A written record is read where its time has a zone. -/
theorem reads_issueV2 [LawfulCasefold] {r j : RemoteIssueRecordV2} (h : IssueSoundV2 r) :
    RemoteIssueRecordV2.fromDict (.dict (sortEntries (issueEntriesV2 (settledIssueV2 r)))) =
        .ok j ↔
      settledIssueV2 r = j ∧ isTimezoneAwareTimestamp (canonicalText r.updatedAt) = true := by
  have hkeys : (Dict.keys (issueEntriesV2 (settledIssueV2 r))).Nodup := by
    simp only [issueEntriesV2, Dict.keys, List.map_cons, List.map_nil]
    decide
  have hexactly : Dict.hasExactly (sortEntries (issueEntriesV2 (settledIssueV2 r)))
      issueFieldsV2 = true := by
    rw [Dict.hasExactly_iff]
    intro key
    rw [Dict.keys, ((sortEntries_perm _).map Prod.fst).mem_iff]
    rfl
  have hvalues := fun e => get_sorted hkeys (e := e)
  have hpresent : ∀ {s : String}, PythonLibrary.strip s ≠ "" →
      presentText? (.str (canonicalText s)) = some (canonicalText s) := fun hs =>
    presentText?_eq_some.mpr ⟨rfl, canonicalText_present hs⟩
  have hnumber : positiveInt? (.int r.issueNumber) = some r.issueNumber :=
    positiveInt?_eq_some.mpr ⟨rfl, h.number⟩
  generalize sortEntries (issueEntriesV2 (settledIssueV2 r)) = d at hexactly hvalues
  simp only [issueEntriesV2, settledIssueV2, List.forall_mem_cons, List.not_mem_nil,
    false_implies, implies_true, and_true] at hvalues
  obtain ⟨hid, hnumeric, hissueNumber, htype, htitle, hbody, hstate, hupdated, hrepository⟩ :=
    hvalues
  simp only [RemoteIssueRecordV2.fromDict, Value.mapping?, orRaise_eq_ok, bind_eq_ok,
    raiseIf_eq_ok, pure_eq_ok, Option.some.injEq, exists_eq_left', hexactly, hid, hnumeric,
    hissueNumber, htype, htitle, hbody, hstate, hupdated, hrepository, hpresent h.issueId,
    hpresent h.title, hpresent h.repository, hnumber, Value.text?, issueBody?, h.numericId,
    h.itemType, LawfulCasefold.casefold_state h.state, Bool.not_eq_false, not_not]
  constructor
  · rintro ⟨_, -, _, -, _, -, _, -, _, haware, rfl⟩
    exact ⟨by rw [settledIssueV2, h.itemType], haware⟩
  · rintro ⟨rfl, haware⟩
    exact ⟨(), trivial, (), trivial, (), trivial, (), h.state, (), haware,
      by rw [settledIssueV2, h.itemType]⟩

omit [LawfulSpacing] [LawfulBlanks] [DatetimeLibrary] [CasefoldLibrary] [UnicodeLibrary]
  [TimestampLibrary] [LawfulTextLibrary] in
theorem relationshipSound {v : Value} {r : RemoteRelationshipRecord}
    (h : RemoteRelationshipRecord.fromDict v = .ok r) :
    r.relationshipType ∈ remoteRelationshipTypes := by
  simp only [RemoteRelationshipRecord.fromDict, bind_eq_ok, orRaise_eq_ok, raiseIf_eq_ok,
    pure_eq_ok] at h
  obtain ⟨value, -, known, hknown, _, htrue, source, -, target, -, rfl⟩ := h
  obtain rfl : known = true := by simpa using htrue
  obtain ⟨text, htext, heq⟩ := of_inTexts hknown
  rw [heq]
  exact htext

def relationshipEntries (r : RemoteRelationshipRecord) : Dict :=
  [("kind", .str r.relationshipType), ("from", .str r.sourceIssueId),
    ("to", .str r.targetIssueId)]

omit [LawfulSpacing] [LawfulBlanks] [DatetimeLibrary] [CasefoldLibrary] in
theorem normalize_relationship {r : RemoteRelationshipRecord}
    (h : r.relationshipType ∈ remoteRelationshipTypes) :
    CanonicalValues.normalize r.toDict =
      .ok (.dict (sortEntries (relationshipEntries (settledRelationship r)))) := by
  have hplain : ∀ s ∈ remoteRelationshipTypes, Graphic s ∧ s ≠ "" := by decide
  have hkind := canonicalText_plain (hplain _ h).1 (hplain _ h).2
  refine normalize_plain ?_ ?_ ?_
  · simp only [Dict.keys, List.map_cons, List.map_nil]
    decide
  · simp only [Dict.keys, List.map_cons, List.map_nil]
    decide
  · simp only [relationshipEntries, settledRelationship, List.forall₂_cons,
      List.forall₂_nil_left_iff, CanonicalValues.normalize, hkind, and_self]

omit [LawfulSpacing] [LawfulBlanks] [DatetimeLibrary] [CasefoldLibrary] [TimestampLibrary]
  [LawfulTextLibrary] in
theorem reads_relationship {r : RemoteRelationshipRecord}
    (h : r.relationshipType ∈ remoteRelationshipTypes) :
    RemoteRelationshipRecord.fromDict
      (.dict (sortEntries (relationshipEntries (settledRelationship r)))) =
        .ok (settledRelationship r) := by
  have hkeys : (Dict.keys (relationshipEntries (settledRelationship r))).Nodup := by
    simp only [relationshipEntries, Dict.keys, List.map_cons, List.map_nil]
    decide
  have hvalues := fun e => get_sorted hkeys (e := e)
  have hknown := inTexts_mem h
  generalize sortEntries (relationshipEntries (settledRelationship r)) = d at hvalues
  simp only [relationshipEntries, settledRelationship, List.forall_mem_cons, List.not_mem_nil,
    false_implies, implies_true, and_true] at hvalues
  obtain ⟨hkind, hfrom, hto⟩ := hvalues
  simp only [RemoteRelationshipRecord.fromDict, Value.mapping?, orRaise_eq_ok, bind_eq_ok,
    raiseIf_eq_ok, pure_eq_ok, Option.some.injEq, exists_eq_left', hkind, hfrom, hto, hknown,
    textOrInteger?, Value.toText, Except.ok.injEq]
  exact ⟨(), by decide, rfl⟩

/-! ## The two versions -/

/-- How the records of a version are written, and when a written one is read. -/
structure Written {issue : Type} (version : SnapshotVersion issue) (updatedAt : issue → String)
    (settled : issue → issue) (form : issue → Value) : Prop where
  id (i : issue) : version.issueId (settled i) = canonicalText (version.issueId i)
  repository (i : issue) :
    version.repositoryIdentity (settled i) = canonicalText (version.repositoryIdentity i)
  request (i : issue) : version.pullRequest (settled i) = version.pullRequest i
  form_settled (i : issue) : form (settled i) = form i
  form_id {i j : issue} (h : form i = form j) :
    canonicalText (version.issueId i) = canonicalText (version.issueId j)
  writes {v : Value} {i : issue} (h : version.fromDict v = .ok i) :
    ∃ w, version.toDict i = .ok w ∧ CanonicalValues.normalize w = .ok (form i)
  reads {v : Value} {i j : issue} (h : version.fromDict v = .ok i) :
    version.fromDict (form i) = .ok j ↔ settled i = j ∧ canonicalText (version.issueId i) ≠ "" ∧
      isTimezoneAwareTimestamp (canonicalText (updatedAt i)) = true
  schema : Graphic version.schemaVersion ∧ version.schemaVersion ≠ ""

omit [CasefoldLibrary] in
theorem written_issues : Written typedRemoteSnapshot RemoteIssueRecord.updatedAt settledIssue
    fun i => .dict (sortEntries (issueEntries (settledIssue i))) where
  id _ := rfl
  repository _ := rfl
  request _ := rfl
  form_settled i := by
    simp only [settledIssue, (canonicalText_spec _).2.2]
  form_id {i j} h := by
    have hget := fun i : RemoteIssueRecord => get_sorted
      (d := issueEntries (settledIssue i)) (e := ("issue_id", .str (canonicalText i.issueId)))
      (by simp only [issueEntries, Dict.keys, List.map_cons, List.map_nil]; decide)
      List.mem_cons_self
    have hsame := (hget i).symm.trans ((congrArg (Dict.get · "issue_id") (Value.dict.inj h)).trans
      (hget j))
    exact Value.str.inj hsame
  writes h := ⟨_, rfl, normalize_issue (issueSound h)⟩
  reads h := reads_issue (issueSound h)
  schema := (by decide : Graphic "remote-snapshot-v1" ∧ "remote-snapshot-v1" ≠ "")

theorem written_issuesV2 [LawfulCasefold] :
    Written typedRemoteSnapshotV2 RemoteIssueRecordV2.updatedAt settledIssueV2
      fun i => .dict (sortEntries (issueEntriesV2 (settledIssueV2 i))) where
  id _ := rfl
  repository _ := rfl
  request _ := rfl
  form_settled i := by
    simp only [settledIssueV2, (canonicalText_spec _).2.2]
  form_id {i j} h := by
    have hget := fun i : RemoteIssueRecordV2 => get_sorted
      (d := issueEntriesV2 (settledIssueV2 i)) (e := ("issue_id", .str (canonicalText i.issueId)))
      (by simp only [issueEntriesV2, Dict.keys, List.map_cons, List.map_nil]; decide)
      List.mem_cons_self
    have hsame := (hget i).symm.trans ((congrArg (Dict.get · "issue_id") (Value.dict.inj h)).trans
      (hget j))
    exact Value.str.inj hsame
  writes h := by
    have hwritten := normalize_issueV2 (issueSoundV2 h)
    exact ⟨_, hwritten, normalize_again _ _ hwritten⟩
  reads {v i j} h := by
    have hid : canonicalText i.issueId ≠ "" := by
      intro hempty
      have hpresent := canonicalText_present (issueSoundV2 h).issueId
      rw [hempty] at hpresent
      exact hpresent (LawfulTextLibrary.graphic (by decide : Graphic "")).2.1
    exact (reads_issueV2 (issueSoundV2 h)).trans
      ⟨fun ⟨hsettled, haware⟩ => ⟨hsettled, hid, haware⟩,
        fun ⟨hsettled, _, haware⟩ => ⟨hsettled, haware⟩⟩
  schema := (by decide : Graphic "remote-snapshot-v2" ∧ "remote-snapshot-v2" ≠ "")

end

end DeliverySystem.SnapshotForms

import DeliverySystem.AuditRecords
import DeliverySystem.AuthorityIssuance
import DeliverySystem.CivilTimes
import DeliverySystem.FallibleRuns
import DeliverySystem.IssueBodies

/-!
# Manifests of backups

A backup carries a manifest that names its format, the release and the workspace
that it was made for, and the size and the digest of its database. The manifest
that a backup writes is the one a restore reads, and every manifest that is read
can be written and read again.
-/
namespace DeliverySystem.BackupManifests
open PythonValues CanonicalValues JsonText AuthorityBindings AuthorityBindingStores
open AuditRecords CivilTimes
set_option autoImplicit false

def backupFormat : String := "delivery-system-sqlite-backup"

def backupFormatVersion : Int := 1

def expectedSchemaVersion : Int := 7

def databaseFilename : String := "state.sqlite3"

def maxManifestBytes : ℕ := 65536

def manifestFields : List String :=
  ["format", "format_version", "release_id", "schema_version", "workspace_identity",
    "database_filename", "database_size", "database_sha256", "created_at_utc"]

structure SQLiteBackupManifest where
  format : String
  formatVersion : Int
  releaseId : String
  schemaVersion : Int
  workspaceIdentity : String
  databaseFilename : String
  databaseSize : Int
  databaseSha256 : String
  createdAtUtc : String
deriving Repr, DecidableEq

/-- The characters that `\d` matches in a pattern on text. -/
class DecimalLibrary where
  isDecimal : Char → Bool

class LawfulDecimalLibrary [DecimalLibrary] : Prop where
  digit {c : Char} : c.isDigit = true → DecimalLibrary.isDecimal c = true

/-! ## Writing and reading -/

namespace SQLiteBackupManifest

def values (m : SQLiteBackupManifest) : Dict :=
  [("format", .str m.format), ("format_version", .int m.formatVersion),
    ("release_id", .str m.releaseId), ("schema_version", .int m.schemaVersion),
    ("workspace_identity", .str m.workspaceIdentity),
    ("database_filename", .str m.databaseFilename), ("database_size", .int m.databaseSize),
    ("database_sha256", .str m.databaseSha256), ("created_at_utc", .str m.createdAtUtc)]

def toJsonBytes (m : SQLiteBackupManifest) : ByteArray := (dumps (.dict m.values)).toUTF8

end SQLiteBackupManifest

/-! `parse_constant` raises on the names of floats that are no numbers. -/

mutual
def constantFree : Value → Bool
  | .float literal => literal ∉ ["NaN", "Infinity", "-Infinity"]
  | .list items | .tuple items => constantFreeItems items
  | .dict entries => constantFreeEntries entries
  | _ => true

def constantFreeItems : List Value → Bool
  | [] => true
  | item :: rest => constantFree item && constantFreeItems rest

def constantFreeEntries : Dict → Bool
  | [] => true
  | (_, value) :: rest => constantFree value && constantFreeEntries rest
end

section
variable [DecimalLibrary]

/-- As many characters that `\d` matches, and what follows them. -/
def decimalGroup (width : ℕ) (text : List Char) : Option (List Char) :=
  if (text.take width).length = width ∧ (text.take width).all DecimalLibrary.isDecimal = true then
    some (text.drop width)
  else none

/-- `(?:\.\d+)?Z` at the end of the text. -/
def utcSuffix : List Char → Bool
  | ['Z'] => true
  | '.' :: rest => rest.getLast? = some 'Z' && rest.dropLast ≠ [] &&
      rest.dropLast.all DecimalLibrary.isDecimal
  | _ => false

/-- `_UTC_TIMESTAMP_RE.fullmatch` -/
def utcTimestamp (s : String) : Bool :=
  let suffix := do
    let text ← decimalGroup 4 s.toList
    let text ← literal '-' text
    let text ← decimalGroup 2 text
    let text ← literal '-' text
    let text ← decimalGroup 2 text
    let text ← literal 'T' text
    let text ← decimalGroup 2 text
    let text ← literal ':' text
    let text ← decimalGroup 2 text
    let text ← literal ':' text
    decimalGroup 2 text
  suffix.any utcSuffix

end

/-- A step of the reader that gives nothing raises this cause. -/
def orCause {α : Type} (x : Option α) (cause : String) : Except String α :=
  x.elim (.error cause) .ok

/-- `type(value) is dict and set(value) == MANIFEST_FIELDS` -/
def exactFields? : Value → Option Dict
  | .dict value => if Dict.hasExactly value manifestFields then some value else none
  | _ => none

/-- A text under a key, which must pass a test. -/
def manifestText (value : Dict) (key cause : String) (test : String → Bool) :
    Except String String :=
  match Dict.get value key with
  | .str s => if test s then .ok s else .error cause
  | _ => .error cause

/-- An integer under a key, which must pass a test. -/
def manifestInt (value : Dict) (key cause : String) (test : Int → Bool) : Except String Int :=
  match Dict.get value key with
  | .int n => if test n then .ok n else .error cause
  | _ => .error cause

section
variable [DatetimeLibrary] [PythonLibrary] [DecimalLibrary]

/-- The time of the text up to its suffix `Z`, in UTC. -/
def readsTime (s : String) : Bool :=
  (DatetimeLibrary.fromisoformat (String.ofList s.toList.dropLast ++ "+00:00")).isSome

/-- `SQLiteBackupManifest.from_json_bytes`. Every error is raised as `manifest_malformed`; the text
here is that of its cause. -/
def fromJsonBytes (payload : ByteArray) : Except String SQLiteBackupManifest := do
  let text ← orCause (String.fromUTF8? payload) "decode"
  let loaded ← orCause ((loads rejectDuplicatePairs text).filter constantFree) "json"
  let value ← orCause (exactFields? loaded) "manifest_fields"
  let format ← manifestText value "format" "manifest_format" (· = backupFormat)
  let formatVersion ← manifestInt value "format_version" "manifest_format_version"
    (· = backupFormatVersion)
  let releaseId ← manifestText value "release_id" "manifest_release_id"
    (PythonLibrary.strip · ≠ "")
  let schemaVersion ← manifestInt value "schema_version" "manifest_schema_version"
    (· = expectedSchemaVersion)
  let workspaceIdentity ← manifestText value "workspace_identity" "manifest_workspace_identity"
    (PythonLibrary.strip · ≠ "")
  let databaseFilename ← manifestText value "database_filename" "manifest_database_filename"
    (· = databaseFilename)
  let databaseSize ← manifestInt value "database_size" "manifest_database_size" (0 ≤ ·)
  let databaseSha256 ← manifestText value "database_sha256" "manifest_database_sha256"
    (hexPattern "")
  let createdAtUtc ← manifestText value "created_at_utc" "manifest_created_at" utcTimestamp
  let createdAtUtc ← orCause (some createdAtUtc |>.filter readsTime) "created_at_utc"
  pure { format, formatVersion, releaseId, schemaVersion, workspaceIdentity, databaseFilename
         databaseSize, databaseSha256, createdAtUtc }

/-! ## Manifests that are read -/

/-- What a restore asks of a manifest. -/
structure SQLiteBackupManifest.Valid (m : SQLiteBackupManifest) : Prop where
  format : m.format = backupFormat ∧ m.formatVersion = backupFormatVersion
  schemaVersion : m.schemaVersion = expectedSchemaVersion
  names : PythonLibrary.strip m.releaseId ≠ "" ∧ PythonLibrary.strip m.workspaceIdentity ≠ ""
  databaseFilename : m.databaseFilename = BackupManifests.databaseFilename
  databaseSize : 0 ≤ m.databaseSize
  databaseSha256 : hexPattern "" m.databaseSha256 = true
  createdAtUtc : utcTimestamp m.createdAtUtc = true ∧ readsTime m.createdAtUtc = true

omit [DatetimeLibrary] [PythonLibrary] [DecimalLibrary] in
theorem orCause_eq_ok {α : Type} {x : Option α} {cause : String} {a : α} :
    orCause x cause = .ok a ↔ x = some a := by
  cases x <;> simp [orCause]

omit [DatetimeLibrary] [PythonLibrary] [DecimalLibrary] in
theorem exactFields?_eq_some {loaded : Value} {value : Dict} : exactFields? loaded = some value ↔
    loaded = .dict value ∧ Dict.hasExactly value manifestFields = true := by
  cases loaded with
  | dict entries =>
      simp only [exactFields?, Option.ite_none_right_eq_some, Option.some.injEq, Value.dict.injEq]
      constructor
      · rintro ⟨h, rfl⟩
        exact ⟨rfl, h⟩
      · rintro ⟨rfl, h⟩
        exact ⟨h, rfl⟩
  | _ => simp [exactFields?]

omit [DatetimeLibrary] [PythonLibrary] [DecimalLibrary] in
theorem manifestText_eq_ok {value : Dict} {key cause : String} {test : String → Bool} {s : String} :
    manifestText value key cause test = .ok s ↔ Dict.get value key = .str s ∧ test s = true := by
  unfold manifestText
  split
  · rename_i text hget
    rw [hget, Value.str.injEq]
    by_cases htest : test text = true
    · rw [if_pos htest, Except.ok.injEq]
      exact ⟨by rintro rfl; exact ⟨rfl, htest⟩, And.left⟩
    · rw [if_neg htest]
      refine ⟨nofun, ?_⟩
      rintro ⟨rfl, h⟩
      exact absurd h htest
  · rename_i hother
    exact ⟨nofun, fun h => absurd h.1 (hother s)⟩

omit [DatetimeLibrary] [PythonLibrary] [DecimalLibrary] in
theorem manifestInt_eq_ok {value : Dict} {key cause : String} {test : Int → Bool} {n : Int} :
    manifestInt value key cause test = .ok n ↔ Dict.get value key = .int n ∧ test n = true := by
  unfold manifestInt
  split
  · rename_i m hget
    rw [hget, Value.int.injEq]
    by_cases htest : test m = true
    · rw [if_pos htest, Except.ok.injEq]
      exact ⟨by rintro rfl; exact ⟨rfl, htest⟩, And.left⟩
    · rw [if_neg htest]
      refine ⟨nofun, ?_⟩
      rintro ⟨rfl, h⟩
      exact absurd h htest
  · rename_i hother
    exact ⟨nofun, fun h => absurd h.1 (hother n)⟩

/-- The mapping that a manifest is read from. -/
structure ReadFrom (value : Dict) (m : SQLiteBackupManifest) : Prop where
  fields : Dict.hasExactly value manifestFields = true
  values : ∀ entry ∈ m.values, Dict.get value entry.1 = entry.2
  valid : m.Valid

theorem fromJsonBytes_eq_ok {payload : ByteArray} {m : SQLiteBackupManifest} :
    fromJsonBytes payload = .ok m ↔ ∃ text value, String.fromUTF8? payload = some text ∧
      loads rejectDuplicatePairs text = some (.dict value) ∧ constantFree (.dict value) = true ∧
      ReadFrom value m := by
  simp only [fromJsonBytes, FallibleRuns.fallible_bind_eq_ok, FallibleRuns.fallible_pure_eq_ok,
    orCause_eq_ok, Option.filter_eq_some_iff, exactFields?_eq_some, manifestText_eq_ok,
    manifestInt_eq_ok, decide_eq_true_eq, Option.some.injEq]
  constructor
  · rintro ⟨text, htext, loaded, ⟨hloaded, hconstant⟩, value, ⟨rfl, hfields⟩, format, ⟨hformat, rfl⟩,
      version, ⟨hversion, rfl⟩, releaseId, ⟨hrelease, hreleaseText⟩, schema, ⟨hschema, rfl⟩,
      workspace, ⟨hworkspace, hworkspaceText⟩, filename, ⟨hfilename, rfl⟩, size, ⟨hsize, hpositive⟩,
      sha256, ⟨hsha256, hpattern⟩, created, ⟨hcreated, htimestamp⟩, _, ⟨rfl, htime⟩, rfl⟩
    refine ⟨text, value, htext, hloaded, hconstant, hfields, ?_, ⟨⟨rfl, rfl⟩, rfl,
      ⟨hreleaseText, hworkspaceText⟩, rfl, hpositive, hpattern, htimestamp, htime⟩⟩
    simp [SQLiteBackupManifest.values, hformat, hversion, hrelease, hschema, hworkspace, hfilename,
      hsize, hsha256, hcreated]
  · rintro ⟨text, value, htext, hloaded, hconstant, hfields, hvalues, hvalid⟩
    simp only [SQLiteBackupManifest.values, List.forall_mem_cons, List.not_mem_nil, false_implies,
      implies_true, and_true] at hvalues
    obtain ⟨hformat, hversion, hrelease, hschema, hworkspace, hfilename, hsize, hsha256, hcreated⟩ :=
      hvalues
    exact ⟨text, htext, _, ⟨hloaded, hconstant⟩, value, ⟨rfl, hfields⟩, _,
      ⟨hformat, hvalid.format.1⟩, _, ⟨hversion, hvalid.format.2⟩, _, ⟨hrelease, hvalid.names.1⟩, _,
      ⟨hschema, hvalid.schemaVersion⟩, _, ⟨hworkspace, hvalid.names.2⟩, _,
      ⟨hfilename, hvalid.databaseFilename⟩, _, ⟨hsize, hvalid.databaseSize⟩, _,
      ⟨hsha256, hvalid.databaseSha256⟩, _, ⟨hcreated, hvalid.createdAtUtc.1⟩, _,
      ⟨rfl, hvalid.createdAtUtc.2⟩, rfl⟩

omit [DatetimeLibrary] [PythonLibrary] [DecimalLibrary] in
theorem constantFreeEntries_iff {d : Dict} :
    constantFreeEntries d = true ↔ ∀ e ∈ d, constantFree e.2 = true := by
  induction d with
  | nil => simp [constantFreeEntries]
  | cons entry rest ih =>
      obtain ⟨key, value⟩ := entry
      simp [constantFreeEntries, ih]

omit [DatetimeLibrary] [PythonLibrary] [DecimalLibrary] in
/-- The mapping of a manifest is read back with its keys in order. -/
theorem loads_values (m : SQLiteBackupManifest) :
    loads rejectDuplicatePairs (dumps (.dict m.values)) = some (.dict (sortEntries m.values)) := by
  have hkeys : (m.values.map Prod.fst).Nodup := by
    change manifestFields.Nodup
    decide
  have hsame : dumps (.dict m.values) = dumps (.dict (sortEntries m.values)) := by
    have hsorted : sortKeys (.dict m.values) = .dict (sortEntries m.values) := rfl
    rw [← hsorted, dumps, dumps, IssueBodies.render_sortKeys]
  rw [hsame]
  refine loads_dumps AuthorityIssuance.rejectDuplicatePairs_keeps
    ⟨sortEntries_sorted hkeys, plainEntries_of_forall fun entry hentry => ?_⟩
  have hmem := (sortEntries_perm _).mem_iff.mp hentry
  simp only [SQLiteBackupManifest.values, List.mem_cons, List.not_mem_nil, or_false] at hmem
  rcases hmem with rfl | rfl | rfl | rfl | rfl | rfl | rfl | rfl | rfl <;> trivial

/-- A manifest is read back as it was written exactly when it is valid. -/
theorem fromJsonBytes_toJsonBytes (m : SQLiteBackupManifest) :
    fromJsonBytes m.toJsonBytes = .ok m ↔ m.Valid := by
  have hperm := sortEntries_perm m.values
  have hkeys : (m.values.map Prod.fst).Nodup := by
    change manifestFields.Nodup
    decide
  rw [fromJsonBytes_eq_ok]
  constructor
  · rintro ⟨_, _, -, -, -, hread⟩
    exact hread.valid
  · intro hvalid
    refine ⟨_, _, AuthorityIssuance.fromUTF8?_toUTF8 _, loads_values m, ?_, ?_, ?_, hvalid⟩
    · rw [constantFree, constantFreeEntries_iff]
      intro entry hentry
      have hmem := hperm.mem_iff.mp hentry
      simp only [SQLiteBackupManifest.values, List.mem_cons, List.not_mem_nil, or_false] at hmem
      rcases hmem with rfl | rfl | rfl | rfl | rfl | rfl | rfl | rfl | rfl <;> rfl
    · rw [Dict.hasExactly_iff]
      exact fun key => (hperm.map Prod.fst).mem_iff
    · intro entry hentry
      rw [Dict.get, lookup_eq_of_perm hperm ((hperm.map Prod.fst).nodup_iff.mpr hkeys)]
      simp only [SQLiteBackupManifest.values, List.mem_cons, List.not_mem_nil, or_false] at hentry
      rcases hentry with rfl | rfl | rfl | rfl | rfl | rfl | rfl | rfl | rfl <;> rfl

/-- What is read is valid, and a manifest that was read can be written and read again. -/
theorem manifest_round_trip {payload : ByteArray} {m : SQLiteBackupManifest}
    (h : fromJsonBytes payload = .ok m) :
    m.Valid ∧ fromJsonBytes m.toJsonBytes = .ok m := by
  obtain ⟨_, _, -, -, -, hread⟩ := fromJsonBytes_eq_ok.mp h
  exact ⟨hread.valid, (fromJsonBytes_toJsonBytes m).mpr hread.valid⟩

end

/-! ## The time of a manifest -/

section
variable [DecimalLibrary] [LawfulDecimalLibrary]

theorem decimalGroup_padded (width n : ℕ) (rest : List Char) :
    decimalGroup width (padded width n ++ rest) = some rest := by
  have htake : (padded width n ++ rest).take width = padded width n :=
    List.take_left' (padded_length width n)
  have hdrop : (padded width n ++ rest).drop width = rest :=
    List.drop_left' (padded_length width n)
  have hdigits : (padded width n).all DecimalLibrary.isDecimal = true :=
    List.all_eq_true.mpr fun c hc => LawfulDecimalLibrary.digit (padded_digits width n c hc)
  rw [decimalGroup, htake, hdrop, if_pos ⟨padded_length width n, hdigits⟩]

/-- The time that a backup writes has the form that a restore asks for. -/
theorem utcTimestamp_civilText (t : CivilTime) : utcTimestamp (civilText t true) = true := by
  have hsuffix : utcSuffix ('.' :: (padded 6 t.microsecond ++ ['Z'])) = true := by
    have hdigits : (padded 6 t.microsecond).all DecimalLibrary.isDecimal = true :=
      List.all_eq_true.mpr fun c hc => LawfulDecimalLibrary.digit (padded_digits 6 _ c hc)
    have hne : padded 6 t.microsecond ≠ [] :=
      List.ne_nil_of_length_pos (by rw [padded_length]; decide)
    simp [utcSuffix, hdigits, hne]
  simp only [utcTimestamp, civilText, String.toList_ofList, civilCharacters, decimalGroup_padded,
    literal_self, Option.bind_eq_bind, Option.bind_some, if_true]
  simpa using hsuffix

end
end DeliverySystem.BackupManifests

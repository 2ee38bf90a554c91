import DeliverySystem.BackupRuns
import DeliverySystem.RestoreRuns

/-!
# Restored backups

What a backup has published, a restore accepts. With nobody else at work and an
empty slot, the database of the bundle comes back.
-/
namespace DeliverySystem.RestoredBackups
open FallibleRuns SharedFiles AuditRecords PythonValues BackupManifests SqliteMaintenance
  MaintenanceRules CivilTimes AuthorityBindings
open BackupRuns (HoldsBundle manifestOf)
set_option autoImplicit false

/-! ## Manifests -/

/-- What SQLite copies from a valid database is a valid database. -/
class LawfulDatabaseLibrary [DatabaseLibrary] : Prop where
  copied {content : ByteArray} {workspace : String} :
    ValidDatabase content workspace → ValidDatabase (DatabaseLibrary.copied content) workspace

/-- The text of a time in UTC can be read. -/
class LawfulDatetimeLibrary [DatetimeLibrary] : Prop where
  reads {t : CivilTime} : t.Valid → readsTime (civilText t true) = true

theorem hexPattern_sha256Hex (message : List UInt8) :
    hexPattern "" (ReferenceLibrary.sha256Hex message) = true := by
  obtain ⟨hlength, hdigits⟩ := ReferenceLibrary.sha256Hex_hexadecimal message
  simp only [hexPattern, String.toList_empty, List.isPrefixOf_nil_left, List.length_nil,
    List.drop_zero, Bool.true_and, Bool.and_eq_true, decide_eq_true_eq, List.all_eq_true]
  exact ⟨hlength, hdigits⟩

section
variable [DatetimeLibrary] [PythonLibrary] [DecimalLibrary]

theorem readManifest_eq_ok {o : Operator} {payload : ByteArray} {m : SQLiteBackupManifest}
    (hread : fromJsonBytes payload = .ok m) (hrelease : o.releaseId = some m.releaseId)
    (hworkspace : m.workspaceIdentity = o.workspaceIdentity) :
    readManifest o payload = .ok m := by
  have hschema : m.schemaVersion = expectedSchemaVersion :=
    (manifest_round_trip hread).1.schemaVersion
  simp [readManifest, hread, hrelease, hschema, hworkspace]

/-- The manifest of a backup is one that a restore reads. -/
theorem manifestOf_valid [LawfulDecimalLibrary] [LawfulDatetimeLibrary] {o : Operator}
    {releaseId : String} (content : ByteArray) (hnow : o.now.Valid)
    (hrelease : PythonLibrary.strip releaseId ≠ "")
    (hworkspace : PythonLibrary.strip o.workspaceIdentity ≠ "") :
    (manifestOf o releaseId content).Valid where
  format := ⟨rfl, rfl⟩
  schemaVersion := rfl
  names := ⟨hrelease, hworkspace⟩
  databaseFilename := rfl
  databaseSize := Int.natCast_nonneg _
  databaseSha256 := hexPattern_sha256Hex _
  createdAtUtc := ⟨utcTimestamp_civilText _, LawfulDatetimeLibrary.reads hnow⟩

end

/-! ## An empty slot -/

/-- The files in which the slot of the state is empty, and its directory is there or can be made. -/
structure Vacant (o : Operator) (files : Files ByteArray) : Prop where
  root : files.node o.root = some .directory
  parent : files.node (stateParent o) = none ∨ files.node (stateParent o) = some .directory
  slot : ∀ p ∈ statePath o :: sidecarPaths (statePath o), files.node p = none
  hidden : ∀ p ∈ statePath o :: sidecarPaths (statePath o), o.ignored p = true ∧ o.tracked p = false

section
variable {o : Operator} {files : Files ByteArray}

theorem slot_name {p : Path} (hp : p ∈ statePath o :: sidecarPaths (statePath o)) :
    ∃ suffix, p = stateParent o ++ [databaseFilename ++ suffix] := by
  rcases List.mem_cons.mp hp with rfl | hp
  · exact ⟨"", by simp [statePath]⟩
  · obtain ⟨suffix, -, rfl⟩ := List.mem_map.mp hp
    exact ⟨"-" ++ suffix, by simp [statePath, String.append_assoc]⟩

theorem exists?_returns {path : Path} {n : Option (Node ByteArray)} (h : files.node path = n) :
    Returns files (exists? path) (Leads n) files := Returns.look (by rw [h])

theorem isLink_returns {path : Path} (h : ∀ leads, files.node path ≠ some (.link leads)) :
    Returns files (isLink path) false files := by
  refine Returns.look ?_
  rcases hnode : files.node path with _ | (_ | _ | leads)
  · rfl
  · rfl
  · rfl
  · exact absurd hnode (h leads)

theorem refuseIf_returns {condition : Bool} {code : String} (h : condition = false) :
    Returns files (refuseIf condition code) () files := by
  rw [refuseIf, h]
  exact Returns.pure

theorem throwIf_returns {condition : Bool} {e : Failure} (h : condition = false) :
    Returns files (throwIf condition e) () files := by
  rw [throwIf, h]
  exact Returns.pure

theorem readFile_returns {path : Path} {content : ByteArray} {missing : Failure}
    (h : files.node path = some (.file content)) :
    Returns files (readFile path missing) content files := by
  refine Returns.operation ?_
  rw [contentOf?, h]
  rfl

theorem validateStorePathsReadOnly_returns (hroot : files.node o.root = some .directory)
    (hunlinked : ∀ p ∈ stateParent o :: statePath o :: sidecarPaths (statePath o),
      ∀ leads, files.node p ≠ some (.link leads))
    (hhidden : ∀ p ∈ statePath o :: sidecarPaths (statePath o),
      o.ignored p = true ∧ o.tracked p = false) :
    Returns files (validateStorePathsReadOnly o) () files := by
  refine Returns.bind (exists?_returns hroot) (Returns.bind (throwIf_returns rfl) ?_)
  refine Returns.bind (Returns.forM fun p hp => Returns.bind (isLink_returns (hunlinked p hp))
    (throwIf_returns rfl)) (Returns.bind (b := ()) (Returns.mapError ?_) (throwIf_returns ?_))
  · refine Returns.bind (Returns.forM fun p hp => Returns.bind (exists?_returns rfl)
      (throwIf_returns ?_)) (Returns.bind (exists?_returns rfl) (throwIf_returns ?_))
    · obtain ⟨suffix, rfl⟩ := slot_name hp
      simp [stateParent]
    · simp [stateParent]
  · simp only [Bool.or_eq_false_iff, Bool.not_eq_false', List.all_eq_true, List.any_eq_false,
      Bool.not_eq_true]
    exact ⟨fun p hp => (hhidden p hp).1, fun p hp => (hhidden p hp).2⟩

theorem Vacant.unlinked (h : Vacant o files) (p : Path)
    (hp : p ∈ stateParent o :: statePath o :: sidecarPaths (statePath o)) (leads : Bool) :
    files.node p ≠ some (.link leads) := by
  rcases List.mem_cons.mp hp with rfl | hp
  · rcases h.parent with hparent | hparent <;> simp [hparent]
  · simp [h.slot p hp]

theorem Vacant.checked (h : Vacant o files) :
    Returns files (validateStorePathsReadOnly o) () files :=
  validateStorePathsReadOnly_returns h.root h.unlinked h.hidden

theorem requireEmptyActiveSlot_returns (h : Vacant o files) :
    Returns files (requireEmptyActiveSlot o) () files := by
  refine Returns.bind (Returns.mapError h.checked) ?_
  refine Returns.bind (exists?_returns (h.slot _ List.mem_cons_self))
    (Returns.bind (refuseIf_returns rfl) ?_)
  exact Returns.forM fun p hp => Returns.bind (exists?_returns (h.slot p
    (List.mem_cons_of_mem _ hp))) (refuseIf_returns rfl)

theorem requireNoSqliteSidecars_returns {path : Path} {code : String}
    (h : ∀ p ∈ sidecarPaths path, files.node p = none) :
    Returns files (requireNoSqliteSidecars path code) () files := by
  refine Returns.forM fun p hp => Returns.bind (b := false) ?_ (refuseIf_returns rfl)
  refine Returns.bind (exists?_returns (h p hp)) (isLink_returns fun leads => ?_)
  simp [h p hp]

end

/-! ## A bundle -/

section
variable {o : Operator} {files : Files ByteArray} {source : Path} {m : SQLiteBackupManifest}
  {content : ByteArray}

theorem isDirectory_returns {path : Path} (h : files.node path = some .directory) :
    Returns files (isDirectory path) true files := by
  refine Returns.look ?_
  rw [h]
  rfl

theorem resolveExternalPath_returns
    (hlinks : ∀ p, p <+: source → ∀ leads, files.node p ≠ some (.link leads)) (code : String) :
    Returns files (resolveExternalPath source code) source files := by
  refine Returns.bind (b := ()) (Returns.mapError (Returns.forM
    fun p hp => Returns.bind (exists?_returns rfl) ?_)) Returns.pure
  have hprefix : p <+: source := by simpa using hp
  unfold whenever
  split
  · exact Returns.bind (isLink_returns (hlinks p hprefix)) (refuseIf_returns rfl)
  · exact Returns.pure

theorem resolveBundleSource_returns (hdirectory : files.node source = some .directory)
    (hlinks : ∀ p, p <+: source → ∀ leads, files.node p ≠ some (.link leads)) :
    Returns files (resolveBundleSource source) source files :=
  Returns.bind (resolveExternalPath_returns hlinks _) (Returns.bind (exists?_returns hdirectory)
    (Returns.bind (refuseIf_returns rfl) (Returns.bind (isDirectory_returns hdirectory)
      (Returns.bind (refuseIf_returns rfl) (Returns.bind (isLink_returns (hlinks source
        List.prefix_rfl)) (Returns.bind (refuseIf_returns rfl) Returns.pure))))))

theorem isFile_returns {path : Path} (h : files.node path = some (.file content)) :
    Returns files (isFile path) true files := by
  refine Returns.look ?_
  rw [h]
  rfl

theorem checkMembers_returns (h : HoldsBundle files source m content)
    (unlisted unexpected other : String) :
    Returns files (checkMembers source unlisted unexpected other) () files := by
  have hmember {name : String} (hname : name ∈ memberNames) :
      ∃ content, files.node (source ++ [name]) = some (.file content) := by
    rcases List.mem_cons.mp hname with rfl | hname
    · exact ⟨_, h.manifest⟩
    · rw [List.mem_singleton.mp hname]
      exact ⟨_, h.database⟩
  refine Returns.bind (b := files.names source) (Returns.mapError
    (Returns.operation (if_pos h.directory))) (Returns.bind (refuseIf_returns ?_) (Returns.forM
      fun name hname => ?_))
  · simp only [Bool.not_eq_false', decide_eq_true_eq]
    refine ⟨fun name hname => h.names name (Files.mem_names.mp hname), fun name hname => ?_⟩
    obtain ⟨content, hcontent⟩ := hmember hname
    exact Files.mem_names.mpr (by simp [hcontent])
  · obtain ⟨content, hcontent⟩ := hmember hname
    exact Returns.bind (isFile_returns hcontent) (Returns.bind (refuseIf_returns rfl)
      (Returns.bind (isLink_returns (by simp [hcontent])) (Returns.bind (refuseIf_returns rfl)
        (refuseIf_returns (by simp)))))

theorem bundleMembers_returns (h : HoldsBundle files source m content) :
    Returns files (bundleMembers source)
      (source ++ ["manifest.json"], source ++ [databaseFilename]) files :=
  Returns.bind (checkMembers_returns h _ _ _) Returns.pure

theorem fileSize_returns {path : Path} (h : files.node path = some (.file content)) :
    Returns files (fileSize path) content.size files :=
  Returns.bind (Returns.mapError (readFile_returns h)) Returns.pure

theorem hashFile_returns {path : Path} (h : files.node path = some (.file content)) :
    Returns files (hashFile path) (ReferenceLibrary.sha256Hex content.toList) files :=
  Returns.bind (Returns.mapError (readFile_returns h)) Returns.pure

/-- The manifest gives the size and the digest of the content. -/
def Describes (m : SQLiteBackupManifest) (content : ByteArray) : Prop :=
  m.databaseSize = content.size ∧ m.databaseSha256 = ReferenceLibrary.sha256Hex content.toList

theorem checkArtifact_returns {path : Path} (h : files.node path = some (.file content))
    (hm : Describes m content) : Returns files (checkArtifact m path) () files := by
  refine Returns.tryCatch (Returns.bind (fileSize_returns h) (Returns.bind (refuseIf_returns ?_)
    (Returns.bind (hashFile_returns h) (refuseIf_returns ?_))))
  · simp [hm.1]
  · simp [hm.2]

theorem validateRestoreArtifactDigest_returns {path : Path}
    (h : files.node path = some (.file content)) (hm : Describes m content) :
    Returns files (validateRestoreArtifactDigest m path) () files := by
  refine Returns.bind (Returns.mapError (readFile_returns h)) (Returns.bind (refuseIf_returns ?_)
    (Returns.bind (Returns.mapError (hashFile_returns h)) (refuseIf_returns ?_)))
  · simp [hm.1]
  · simp [hm.2]

theorem validateV7Database_returns [DatabaseLibrary] {path : Path} {workspace : String}
    (h : files.node path = some (.file content)) (hvalid : ValidDatabase content workspace)
    (errorContext : String) :
    Returns files (validateV7Database path workspace errorContext) () files := by
  have hschema : Returns files
      (((DatabaseLibrary.schemaError content workspace).map (schemaErrorCode errorContext)).forM
        refuse) () files := by
    rw [hvalid.schema]
    exact Returns.pure
  refine Returns.bind (readFile_returns h) (Returns.bind hschema (Returns.mapError
    (Returns.bind (readFile_returns h) (Returns.bind (refuseIf_returns ?_)
      (Returns.bind (readFile_returns h) (refuseIf_returns ?_))))))
  · rw [hvalid.integral]
    rfl
  · rw [hvalid.keyed]
    rfl

end

/-! ## A quiet backup -/

/-- The files in which a database can be saved at a destination. -/
structure Saveable (o : Operator) (destination : Path) (files : Files ByteArray)
    (content : ByteArray) : Prop where
  root : files.node o.root = some .directory
  parent : files.node (stateParent o) = some .directory
  state : files.node (statePath o) = some (.file content)
  sidecars : ∀ q ∈ sidecarPaths (statePath o), ∀ leads, files.node q ≠ some (.link leads)
  hidden : ∀ p ∈ statePath o :: sidecarPaths (statePath o), o.ignored p = true ∧ o.tracked p = false
  windows : o.windows = true
  vacant : destination ∉ statePath o :: sidecarPaths (statePath o) ∧
    files.node destination = none
  named : ∀ token ∈ o.tokens, destination ≠ bundleAt destination.dropLast token
  reached : files.node destination.dropLast = some .directory ∧
    ∀ p, p <+: destination → ∀ leads, files.node p ≠ some (.link leads)
  free : ∃ token ∈ o.tokens, files.node (bundleAt destination.dropLast token) = none
  clear : ∀ token ∈ o.tokens, ∀ name,
    files.node (bundleAt destination.dropLast token ++ [name]) = none

section
variable {o : Operator} {files : Files ByteArray} {destination : Path} {content : ByteArray}

theorem resolveBackupDestination_returns (h : Saveable o destination files content) :
    Returns files (resolveBackupDestination o destination) destination files := by
  refine Returns.bind (resolveExternalPath_returns h.reached.2 _)
    (Returns.bind (exists?_returns h.reached.1) (Returns.bind (refuseIf_returns rfl)
      (Returns.bind (isDirectory_returns h.reached.1) (Returns.bind (refuseIf_returns rfl)
        (Returns.bind (isLink_returns fun leads => ?_) (Returns.bind (refuseIf_returns rfl)
          (Returns.bind (refuseIf_returns ?_) (Returns.bind (exists?_returns h.vacant.2)
            Returns.pure))))))))
  · simp [h.reached.1]
  · have hne := h.vacant.1
    simp only [List.any_eq_false, decide_eq_true_eq]
    rintro p hp rfl
    exact hne hp

variable [DatabaseLibrary]

/-- The files of a bundle that is filled. -/
def filled (o : Operator) (files : Files ByteArray) (bundle : Path) (releaseId : String)
    (content : ByteArray) : Files ByteArray :=
  (((files.put bundle (some .directory)).put (bundle ++ [databaseFilename])
    (some (.file ByteArray.empty))).put (bundle ++ [databaseFilename])
      (some (.file content))).put (bundle ++ ["manifest.json"])
        (some (.file (manifestOf o releaseId content).toJsonBytes))

omit [DatabaseLibrary] in
theorem filled_node {bundle p : Path} {releaseId : String} (hbundle : p ≠ bundle)
    (hdatabase : p ≠ bundle ++ [databaseFilename]) (hmanifest : p ≠ bundle ++ ["manifest.json"]) :
    (filled o files bundle releaseId content).node p = files.node p := by
  rw [filled, Files.put_node, if_neg hmanifest, Files.put_node, if_neg hdatabase, Files.put_node,
    if_neg hdatabase, Files.put_node, if_neg hbundle]

omit [DatabaseLibrary] in
theorem filled_holds {bundle : Path} {releaseId : String}
    (hclear : ∀ name, files.node (bundle ++ [name]) = none) :
    HoldsBundle (filled o files bundle releaseId content) bundle (manifestOf o releaseId content)
      content where
  directory := by simp [filled]
  manifest := by simp [filled]
  database := by simp [filled, databaseFilename]
  names name hname := by
    by_contra hother
    simp only [memberNames, List.mem_cons, List.not_mem_nil, or_false, not_or] at hother
    rw [filled_node (by simp) (by simpa using hother.2) (by simpa using hother.1)] at hname
    exact hname (hclear name)

theorem prepareBundle_returns [LawfulDatabaseLibrary] {token releaseId : String}
    (h : Saveable o destination files content)
    (hvalid : ValidDatabase content o.workspaceIdentity) (htoken : token ∈ o.tokens)
    (hfree : files.node (bundleAt destination.dropLast token) = none) :
    Returns (files.put (bundleAt destination.dropLast token) (some .directory))
      (prepareBundle o (bundleAt destination.dropLast token) releaseId)
      (manifestOf o releaseId (DatabaseLibrary.copied content))
      (filled o files (bundleAt destination.dropLast token) releaseId
        (DatabaseLibrary.copied content)) := by
  have hstate : statePath o ≠ bundleAt destination.dropLast token ∧
      statePath o ≠ bundleAt destination.dropLast token ++ [databaseFilename] := by
    constructor
    · intro heq
      rw [← heq, h.state] at hfree
      cases hfree
    · intro heq
      have hclear := h.clear token htoken databaseFilename
      rw [← heq, h.state] at hclear
      cases hclear
  have hholds : HoldsBundle (filled o files (bundleAt destination.dropLast token) releaseId
      (DatabaseLibrary.copied content)) (bundleAt destination.dropLast token)
        (manifestOf o releaseId (DatabaseLibrary.copied content))
        (DatabaseLibrary.copied content) := filled_holds (h.clear token htoken)
  have hcopy : (((files.put (bundleAt destination.dropLast token) (some .directory)).put
      (bundleAt destination.dropLast token ++ [databaseFilename])
        (some (.file ByteArray.empty))).put (bundleAt destination.dropLast token ++
          [databaseFilename]) (some (.file (DatabaseLibrary.copied content)))).node
            (bundleAt destination.dropLast token ++ [databaseFilename]) =
      some (.file (DatabaseLibrary.copied content)) := by simp
  have hopened : Returns (files.put (bundleAt destination.dropLast token) (some .directory))
      (openWritableMaintenanceConnection
        (bundleAt destination.dropLast token ++ [databaseFilename])) ()
      ((files.put (bundleAt destination.dropLast token) (some .directory)).put
        (bundleAt destination.dropLast token ++ [databaseFilename])
          (some (.file ByteArray.empty))) := by
    refine Returns.operation ?_
    rw [Files.put_node, if_neg (by simp), h.clear token htoken]
  refine Returns.bind (b := ()) (Returns.mapError (Returns.bind hopened (Returns.operation ?_)))
    (Returns.bind (b := ())
      (Returns.mapError (Returns.bind (b := ()) (Returns.bind (readFile_returns hcopy) Returns.pure)
        (validateV7Database_returns hcopy (LawfulDatabaseLibrary.copied hvalid) _)))
      (Returns.bind (b := manifestOf o releaseId (DatabaseLibrary.copied content))
        (Returns.bind (fileSize_returns hcopy) (Returns.bind (hashFile_returns hcopy) Returns.pure))
        (Returns.bind (Returns.mapError Returns.change) (Returns.bind (b := ())
          (Returns.bind (fileSize_returns hholds.database) (Returns.bind (refuseIf_returns ?_)
            (Returns.bind (hashFile_returns hholds.database) (refuseIf_returns ?_))))
          (Returns.bind (requireNoSqliteSidecars_returns ?_) (Returns.bind
            (checkMembers_returns hholds _ _ _) Returns.pure))))))
  · rw [contentOf?, Files.put_node, if_neg hstate.2, Files.put_node, if_neg hstate.1, h.state]
    rfl
  · simp [manifestOf]
  · simp [manifestOf]
  · intro q hq
    obtain ⟨suffix, hsuffix, rfl⟩ := List.mem_map.mp hq
    simp only [List.dropLast_concat, List.getLastD_concat]
    simp only [activeSidecarSuffixes, List.mem_cons, List.not_mem_nil, or_false] at hsuffix
    refine (filled_node (by simp) ?_ ?_).trans (h.clear token htoken _)
    · rcases hsuffix with rfl | rfl | rfl <;> simp [databaseFilename]
    · rcases hsuffix with rfl | rfl | rfl <;> simp [databaseFilename]

theorem fillBundle_returns [LawfulDatabaseLibrary] {token releaseId : String}
    (h : Saveable o destination files content)
    (hvalid : ValidDatabase content o.workspaceIdentity) (htoken : token ∈ o.tokens)
    (hfree : files.node (bundleAt destination.dropLast token) = none) :
    Returns (files.put (bundleAt destination.dropLast token) (some .directory))
      (fillBundle o (bundleAt destination.dropLast token) destination releaseId)
      (destination, manifestOf o releaseId (DatabaseLibrary.copied content))
      ((filled o files (bundleAt destination.dropLast token) releaseId
        (DatabaseLibrary.copied content)).move (bundleAt destination.dropLast token)
          destination) := by
  have hmember (name : String) : destination ≠ bundleAt destination.dropLast token ++ [name] := by
    intro heq
    have hlength := congrArg List.length heq
    simp only [bundleAt, List.length_append, List.length_dropLast, List.length_singleton] at hlength
    omega
  have hnone : (filled o files (bundleAt destination.dropLast token) releaseId
      (DatabaseLibrary.copied content)).node destination = none :=
    (filled_node (h.named token htoken) (hmember _) (hmember _)).trans h.vacant.2
  refine Returns.bind (prepareBundle_returns h hvalid htoken hfree) (Returns.bind (b := ())
    (Returns.mapError (Returns.bind (refuseIf_returns (by rw [h.windows]; rfl)) (Returns.bind
      (throwIf_returns ?_) (Returns.operation ?_)))) Returns.pure)
  · simp [bundleAt]
  · refine (if_neg (not_not.mpr hnone)).trans (if_neg ?_)
    rw [(filled_holds (h.clear token htoken)).directory]
    simp

theorem checkBackup_returns {releaseId : String} (h : Saveable o destination files content)
    (hrelease : o.releaseId = some releaseId)
    (hvalid : ValidDatabase content o.workspaceIdentity) :
    Returns files (checkBackup o destination) (destination, releaseId) files := by
  have hlink : ∀ leads, files.node (statePath o) ≠ some (.link leads) := by simp [h.state]
  have hrelease : Returns files (orRefuse o.releaseId "sqlite_maintenance_release_unavailable")
      releaseId files := by
    rw [hrelease]
    exact Returns.pure
  refine Returns.bind (Returns.mapError
    (validateStorePathsReadOnly_returns h.root ?_ h.hidden))
    (Returns.bind (exists?_returns h.state) (Returns.bind (refuseIf_returns rfl) (Returns.bind
      (isFile_returns h.state) (Returns.bind (refuseIf_returns rfl) (Returns.bind
        (isLink_returns hlink) (Returns.bind (refuseIf_returns rfl) (Returns.bind
          (resolveBackupDestination_returns h) (Returns.bind hrelease (Returns.bind (b := ())
            (Returns.mapError (Returns.bind (readFile_returns h.state) Returns.pure)) (Returns.bind
              (validateV7Database_returns h.state hvalid _) Returns.pure))))))))))
  intro p hp
  rcases List.mem_cons.mp hp with rfl | hp
  · simp [h.parent]
  · rcases List.mem_cons.mp hp with rfl | hp
    · exact hlink
    · exact h.sidecars p hp

/-- With nobody else at work, a valid database is saved at the destination. -/
theorem backup_returns [LawfulDatabaseLibrary] {releaseId : String}
    (h : Saveable o destination files content) (hrelease : o.releaseId = some releaseId)
    (hvalid : ValidDatabase content o.workspaceIdentity) :
    ∃ token ∈ o.tokens, Returns files (backup o destination)
      (destination, manifestOf o releaseId (DatabaseLibrary.copied content))
      ((filled o files (bundleAt destination.dropLast token) releaseId
        (DatabaseLibrary.copied content)).move (bundleAt destination.dropLast token)
          destination) := by
  obtain ⟨token, htoken, hnone⟩ := h.free
  have hsome : ((o.tokens.map (bundleAt destination.dropLast)).find?
      fun path => (files.node path).isNone).isSome = true :=
    List.find?_isSome.mpr ⟨_, List.mem_map.mpr ⟨token, htoken, rfl⟩, by simp [hnone]⟩
  obtain ⟨bundle, hfound⟩ := Option.isSome_iff_exists.mp hsome
  obtain ⟨token, htoken, rfl⟩ := List.mem_map.mp (List.mem_of_find?_eq_some hfound)
  have hfree : files.node (bundleAt destination.dropLast token) = none := by
    simpa using List.find?_some hfound
  have hbundle : Returns files (temporaryBundle o destination.dropLast)
      (bundleAt destination.dropLast token)
      (files.put (bundleAt destination.dropLast token) (some .directory)) :=
    Returns.mapError (Returns.operation (by rw [if_pos h.reached.1, hfound]))
  exact ⟨token, htoken, Returns.bind (checkBackup_returns h hrelease hvalid)
    (Returns.bind hbundle (Returns.tryCatch (fillBundle_returns h hvalid htoken hfree)))⟩

end

/-! ## The slot is filled -/

section
variable [DatabaseLibrary] {o : Operator} {files : Files ByteArray} {source : Path}
  {m : SQLiteBackupManifest} {content : ByteArray}

omit [DatabaseLibrary] in
/-- The slot is not changed at other paths. -/
theorem Vacant.congr (h : Vacant o files) {files' : Files ByteArray}
    (hparent : files'.node (stateParent o) = some .directory)
    (hroot : files'.node o.root = files.node o.root)
    (hslot : ∀ p ∈ statePath o :: sidecarPaths (statePath o), files'.node p = files.node p) :
    Vacant o files' where
  root := hroot.trans h.root
  parent := .inr hparent
  slot p hp := (hslot p hp).trans (h.slot p hp)
  hidden := h.hidden

omit [DatabaseLibrary] in
theorem slot_ne_parent {p : Path} (hp : p ∈ statePath o :: sidecarPaths (statePath o)) :
    p ≠ stateParent o := by
  obtain ⟨suffix, rfl⟩ := slot_name hp
  simp

omit [DatabaseLibrary] in
theorem slot_not_family {p : Path} (hp : p ∈ statePath o :: sidecarPaths (statePath o)) :
    ¬RestoreRuns.Family o p := by
  obtain ⟨suffix, rfl⟩ := slot_name hp
  rintro ⟨rest, hprefix⟩
  rw [List.prefix_append_right_inj, List.prefix_cons_iff] at hprefix
  obtain hnil | ⟨_, hcons, -⟩ := hprefix
  · cases hnil
  · have hhead := congrArg (fun name : String => name.toList.head?) (List.cons.inj hcons).1
    simp [databaseFilename] at hhead

omit [DatabaseLibrary] in
/-- The directory of the state is there, or is made. -/
theorem ensureRestoreParent_returns (h : Vacant o files) :
    ∃ files', Returns files (ensureRestoreParent o) (stateParent o) files' ∧ Vacant o files' ∧
      files'.node (stateParent o) = some .directory ∧
      ∀ p ≠ stateParent o, files'.node p = files.node p := by
  have hchecked {files' : Files ByteArray} (h : Vacant o files')
      (hparent : files'.node (stateParent o) = some .directory) :
      Returns files' (Run.mapError (fun e =>
        if e = .preflight then fail "sqlite_maintenance_restore_staging_failed" else e) do
          validateStorePathsReadOnly o
          let directory ← isDirectory (stateParent o)
          refuseIf (!directory) "sqlite_maintenance_restore_staging_failed"
          let link ← isLink (stateParent o)
          refuseIf link "sqlite_maintenance_restore_staging_failed"
          let rooted ← exists? o.root
          throwIf (!rooted) .os
          refuseIf (stateParent o ≠ o.root ++ [".delivery-system"])
            "sqlite_maintenance_restore_staging_failed") () files' := by
    refine Returns.mapError (Returns.bind h.checked
      (Returns.bind (isDirectory_returns hparent) (Returns.bind (refuseIf_returns rfl)
        (Returns.bind (isLink_returns ?_) (Returns.bind (refuseIf_returns rfl)
          (Returns.bind (exists?_returns h.root) (Returns.bind (throwIf_returns rfl)
            (refuseIf_returns ?_))))))))
    · simp [hparent]
    · simp [stateParent]
  rcases h.parent with hparent | hparent
  · have hother : ∀ p ≠ stateParent o,
        (files.put (stateParent o) (some .directory)).node p = files.node p :=
      fun p hp => by rw [Files.put_node, if_neg hp]
    have hmade : (files.put (stateParent o) (some .directory)).node (stateParent o) =
        some .directory := by rw [Files.put_node, if_pos rfl]
    have hvacant : Vacant o (files.put (stateParent o) (some .directory)) :=
      h.congr hmade (hother _ (by simp [stateParent])) fun p hp => hother p (slot_ne_parent hp)
    refine ⟨_, Returns.bind (exists?_returns hparent) (Returns.bind (Returns.mapError
      (Returns.operation (if_pos ⟨hparent, ?_⟩))) (Returns.bind (hchecked hvacant hmade)
        Returns.pure)), hvacant, hmade, hother⟩
    rw [stateParent, List.dropLast_concat, h.root]
  · exact ⟨files, Returns.bind (exists?_returns hparent) (Returns.bind (b := ()) Returns.pure
      (Returns.bind (hchecked h hparent) Returns.pure)), h, hparent, fun _ _ => rfl⟩

omit [DatabaseLibrary] in
theorem temporaryDatabase_returns (hparent : files.node (stateParent o) = some .directory)
    (hfree : ∃ token ∈ o.tokens, files.node (stagingAt (stateParent o) token) = none)
    (code : String) :
    ∃ staging, RestoreRuns.Staged o staging ∧ Returns files
      (temporaryDatabase o (stateParent o) code) staging
      (files.put staging (some (.file ByteArray.empty))) := by
  obtain ⟨token, htoken, hnone⟩ := hfree
  have hsome : ((o.tokens.map (stagingAt (stateParent o))).find?
      fun path => (files.node path).isNone).isSome = true :=
    List.find?_isSome.mpr ⟨_, List.mem_map.mpr ⟨token, htoken, rfl⟩, by simp [hnone]⟩
  obtain ⟨staging, hfound⟩ := Option.isSome_iff_exists.mp hsome
  refine ⟨staging, List.mem_map.mp (List.mem_of_find?_eq_some hfound), ?_⟩
  refine Returns.mapError (Returns.bind (Returns.operation ?_)
    (Returns.bind (b := ()) (Returns.look rfl) Returns.pure))
  rw [if_pos hparent, hfound]

omit [DatabaseLibrary] in
theorem root_ne_staged {staging : Path} (h : RestoreRuns.Staged o staging) : o.root ≠ staging := by
  obtain ⟨token, -, rfl⟩ := h
  intro heq
  have hlength := congrArg List.length heq
  simp [stagingAt, stateParent] at hlength

omit [DatabaseLibrary] in
theorem sidecar_ne_staged {staging q : Path} (h : RestoreRuns.Staged o staging)
    (hq : q ∈ sidecarPaths staging) : q ≠ staging := by
  rintro rfl
  exact RestoreRuns.sidecar_not_above h h hq List.prefix_rfl

omit [DatabaseLibrary] in
theorem sidecar_length {staging q : Path} (h : RestoreRuns.Staged o staging)
    (hq : q ∈ sidecarPaths staging) : q.length = (stateParent o).length + 1 := by
  obtain ⟨token, -, rfl⟩ := h
  obtain ⟨suffix, -, rfl⟩ := List.mem_map.mp hq
  simp [stagingAt]

omit [DatabaseLibrary] in
theorem sidecar_ne_parent {staging q : Path} (h : RestoreRuns.Staged o staging)
    (hq : q ∈ sidecarPaths staging) : q ≠ stateParent o := by
  rintro rfl
  have hlength := sidecar_length h hq
  omega

/-- The copy of an artifact is verified and becomes the state. -/
theorem activate_returns [LawfulDatabaseLibrary] {staging artifact : Path}
    (hstaged : RestoreRuns.Staged o staging) (hvacant : Vacant o files)
    (hparent : files.node (stateParent o) = some .directory)
    (hstaging : files.node staging = some (.file ByteArray.empty))
    (hartifact : files.node artifact = some (.file content))
    (hsidecars : ∀ q ∈ sidecarPaths staging, files.node q = none) (hwindows : o.windows = true)
    (hvalid : ValidDatabase content o.workspaceIdentity) :
    ∃ files', Returns files (activate o artifact staging) (statePath o) files' ∧
      files'.node (statePath o) = some (.file (DatabaseLibrary.copied content)) := by
  have hfamily := RestoreRuns.staged_family hstaged
  have hput {p : Path} (hp : p ≠ staging) (n : Option (Node ByteArray)) :
      (files.put staging n).node p = files.node p := by rw [Files.put_node, if_neg hp]
  have hcopy : (files.put staging (some (.file (DatabaseLibrary.copied content)))).node staging =
      some (.file (DatabaseLibrary.copied content)) := by rw [Files.put_node, if_pos rfl]
  have hslot : ∀ p ∈ statePath o :: sidecarPaths (statePath o), p ≠ staging := by
    rintro p hp rfl
    exact slot_not_family hp hfamily
  have hready : Vacant o (files.put staging (some (.file (DatabaseLibrary.copied content)))) :=
    hvacant.congr ((hput (RestoreRuns.staged_ne_parent hstaged).symm _).trans hparent)
      (hput (root_ne_staged hstaged) _) fun p hp => hput (hslot p hp) _
  have hopened : Returns files (openWritableMaintenanceConnection staging) () files :=
    Returns.operation (by rw [hstaging])
  have hfilled : Returns files (backupInto artifact staging) ()
      (files.put staging (some (.file (DatabaseLibrary.copied content)))) :=
    Returns.operation (by rw [contentOf?, hartifact]; rfl)
  have hpublished : Returns (files.put staging (some (.file (DatabaseLibrary.copied content))))
      (publish o staging (statePath o) "sqlite_maintenance_restore_target_exists"
        "sqlite_maintenance_restore_activation_failed") ()
      ((files.put staging (some (.file (DatabaseLibrary.copied content)))).move staging
        (statePath o)) := by
    refine Returns.mapError (Returns.bind (refuseIf_returns (by rw [hwindows]; rfl))
      (Returns.bind (throwIf_returns ?_) (Returns.operation ?_)))
    · obtain ⟨token, -, rfl⟩ := hstaged
      simp [stagingAt, statePath]
    · rw [if_neg (not_not.mpr (hready.slot _ List.mem_cons_self)), if_neg (by simp)]
  have hafter : ∀ q ∈ sidecarPaths staging,
      ((files.put staging (some (.file (DatabaseLibrary.copied content)))).move staging
        (statePath o)).node q = none := by
    intro q hq
    have hlength := sidecar_length hstaged hq
    rw [Files.move_node_other, hput (sidecar_ne_staged hstaged hq), hsidecars q hq]
    · intro hprefix
      have heq := hprefix.eq_of_length (by simp [statePath, hlength])
      exact slot_not_family List.mem_cons_self (heq ▸ RestoreRuns.sidecar_family hstaged hq)
    · intro hprefix
      refine sidecar_ne_staged hstaged hq (List.IsPrefix.eq_of_length hprefix ?_).symm
      obtain ⟨token, -, rfl⟩ := hstaged
      simp [stagingAt, hlength]
  refine ⟨_, Returns.bind (Returns.mapError (Returns.bind hopened hfilled)) (Returns.bind
    (Returns.mapError (Returns.bind (Returns.bind (readFile_returns hcopy) Returns.pure)
      (validateV7Database_returns hcopy (LawfulDatabaseLibrary.copied hvalid) _))) (Returns.bind
        (requireEmptyActiveSlot_returns hready) (Returns.bind (requireNoSqliteSidecars_returns
          fun q hq => (hput (sidecar_ne_staged hstaged hq) _).trans (hsidecars q hq)) (Returns.bind hpublished
            (Returns.bind (requireNoSqliteSidecars_returns hafter) Returns.pure))))), ?_⟩
  have hmoved := Files.move_node_target
    (files.put staging (some (.file (DatabaseLibrary.copied content)))) staging (statePath o) []
  rw [List.append_nil, List.append_nil] at hmoved
  rw [hmoved, hcopy]

/-- The files in which a bundle can be restored into an empty slot. -/
structure Restorable (o : Operator) (source : Path) (files : Files ByteArray) : Prop where
  vacant : Vacant o files
  windows : o.windows = true
  unlinked : ∀ p, p <+: source → ∀ leads, files.node p ≠ some (.link leads)
  free : ∃ token ∈ o.tokens, files.node (stagingAt (stateParent o) token) = none
  sidecars : ∀ staging, RestoreRuns.Staged o staging →
    ∀ q ∈ sidecarPaths staging, files.node q = none

variable [DatetimeLibrary] [PythonLibrary] [DecimalLibrary]

/-- With nobody else at work, a bundle whose manifest is read for this operator and describes its
valid database fills the empty slot with a copy. -/
theorem restore_returns [LawfulDatabaseLibrary] (h : Restorable o source files)
    (hbundle : HoldsBundle files source m content) (hsize : m.toJsonBytes.size ≤ maxManifestBytes)
    (hread : readManifest o m.toJsonBytes = .ok m) (hm : Describes m content)
    (hvalid : ValidDatabase content o.workspaceIdentity) :
    ∃ files', Returns files (restore o source) (statePath o) files' ∧
      files'.node (statePath o) = some (.file (DatabaseLibrary.copied content)) := by
  have hpayload : Returns files (readBoundedManifest (source ++ ["manifest.json"])) m.toJsonBytes
      files := by
    refine Returns.bind (Returns.mapError (readFile_returns hbundle.manifest))
      (Returns.bind (refuseIf_returns ?_) Returns.pure)
    simpa using hsize
  have hmembers := bundleMembers_returns hbundle
  have hdatabase := hbundle.database
  obtain ⟨made, hmade, hready, hparent, hother⟩ := ensureRestoreParent_returns h.vacant
  have hstaged {p : Path} (hp : RestoreRuns.Staged o p) : made.node p = files.node p :=
    hother p (RestoreRuns.staged_ne_parent hp)
  obtain ⟨staging, hstaging, hstagingReturns⟩ := temporaryDatabase_returns hparent
    (by
      obtain ⟨token, htoken, hnone⟩ := h.free
      exact ⟨token, htoken, (hstaged ⟨token, htoken, rfl⟩).trans hnone⟩)
    "sqlite_maintenance_restore_staging_failed"
  have hput {p : Path} (hp : p ≠ staging) :
      (made.put staging (some (.file ByteArray.empty))).node p = made.node p := by
    rw [Files.put_node, if_neg hp]
  have hslot : ∀ p ∈ statePath o :: sidecarPaths (statePath o), p ≠ staging := by
    rintro p hp rfl
    exact slot_not_family hp (RestoreRuns.staged_family hstaging)
  have hartifact : (made.put staging (some (.file ByteArray.empty))).node
      (source ++ [databaseFilename]) = some (.file content) := by
    rw [hput (RestoreRuns.staged_ne_member hstaging (by decide)).symm,
      hother _ (RestoreRuns.member_ne_parent (by decide)), hdatabase]
  obtain ⟨files', hactivated, hstate⟩ := activate_returns hstaging
    (hready.congr ((hput (RestoreRuns.staged_ne_parent hstaging).symm).trans hparent)
      (hput (root_ne_staged hstaging)) fun p hp => hput (hslot p hp))
    ((hput (RestoreRuns.staged_ne_parent hstaging).symm).trans hparent)
    (by rw [Files.put_node, if_pos rfl]) hartifact
    (fun q hq => by
      rw [hput (sidecar_ne_staged hstaging hq), hother q (sidecar_ne_parent hstaging hq),
        h.sidecars staging hstaging q hq]) h.windows hvalid
  refine ⟨files', Returns.bind (requireEmptyActiveSlot_returns h.vacant) (Returns.bind
    (resolveBundleSource_returns hbundle.directory h.unlinked) (Returns.bind hmembers (Returns.bind hpayload
      (Returns.bind (b := m) ?_ (Returns.bind (checkArtifact_returns hdatabase hm) (Returns.bind
        (b := ()) (Returns.mapError (Returns.bind (readFile_returns hdatabase) Returns.pure))
          (Returns.bind hmembers (Returns.bind (refuseIf_returns (by simp)) (Returns.bind
            (validateRestoreArtifactDigest_returns hdatabase hm) (Returns.bind
              (validateV7Database_returns hdatabase hvalid _) (Returns.bind hmade (Returns.bind
                hstagingReturns (Returns.tryCatch hactivated))))))))))))), hstate⟩
  rw [hread]
  exact Returns.pure

/-! ## The way back -/

/-- What others leave alone while a backup runs: the state, and what is published. -/
def Spared (o : Operator) (destination p : Path) : Prop := destination <+: p ∨ p = statePath o

end

theorem sample_prefix {p : Path} (hp : p <+: sampleDestination) :
    p = [] ∨ p = ["backups"] ∨ p = sampleDestination := by
  have hmem := (List.mem_inits _ _).mpr hp
  simpa [sampleDestination, List.inits] using hmem

theorem sample_saveable :
    Saveable (sampleOperator "srv") sampleDestination sampleFiles ByteArray.empty where
  root := by simp [sampleFiles, sampleOperator]
  parent := by simp [sampleFiles, sampleOperator, stateParent]
  state := by simp [sampleFiles, sampleOperator, statePath, stateParent, databaseFilename]
  sidecars := by
    simp [sampleFiles, sampleOperator, statePath, stateParent, databaseFilename, sidecarPaths,
      activeSidecarSuffixes, Files.empty]
  hidden := by simp [sampleOperator]
  windows := rfl
  vacant := by
    simp [sampleFiles, sampleOperator, statePath, stateParent, databaseFilename, sidecarPaths,
      activeSidecarSuffixes, sampleDestination, Files.empty]
  named := by simp [sampleOperator, sampleDestination, bundleAt]
  reached := by
    refine ⟨by simp [sampleFiles, sampleDestination], fun p hp leads => ?_⟩
    rcases sample_prefix hp with rfl | rfl | rfl <;>
      simp [sampleFiles, sampleDestination, Files.empty]
  free := by simp [sampleFiles, sampleOperator, sampleDestination, bundleAt, Files.empty]
  clear := by simp [sampleFiles, sampleOperator, sampleDestination, bundleAt, Files.empty]

/-- The files after the database of the sample has been saved. -/
def savedFiles : Files ByteArray :=
  (filled (sampleOperator "srv") sampleFiles (bundleAt sampleDestination.dropLast "a1") "r1"
    ByteArray.empty).move (bundleAt sampleDestination.dropLast "a1") sampleDestination

theorem savedFiles_node {p : Path} (hdestination : ¬sampleDestination <+: p)
    (hbundle : ¬bundleAt sampleDestination.dropLast "a1" <+: p) :
    savedFiles.node p = sampleFiles.node p := by
  have hmember (rest : Path) : p ≠ bundleAt sampleDestination.dropLast "a1" ++ rest := by
    rintro rfl
    exact hbundle (List.prefix_append _ _)
  rw [savedFiles, Files.move_node_other _ hdestination hbundle,
    filled_node (by simpa using hmember []) (hmember _) (hmember _)]

theorem sample_restorable : Restorable (sampleOperator "new") sampleDestination savedFiles where
  vacant :=
    { root := by
        rw [savedFiles_node (by decide) (by decide)]
        simp [sampleFiles, sampleOperator]
      parent := by
        rw [savedFiles_node (by decide) (by decide)]
        simp [sampleFiles, sampleOperator, stateParent, Files.empty]
      slot := fun p hp => by
        obtain ⟨suffix, rfl⟩ := slot_name hp
        rw [savedFiles_node (by simp [sampleDestination, sampleOperator, stateParent])
          (by simp [sampleDestination, bundleAt, sampleOperator, stateParent])]
        simp [sampleFiles, sampleOperator, stateParent, Files.empty]
      hidden := by simp [sampleOperator] }
  windows := rfl
  unlinked p hp leads := by
    rcases sample_prefix hp with rfl | rfl | rfl
    · rw [savedFiles_node (by decide) (by decide)]
      simp [sampleFiles, Files.empty]
    · rw [savedFiles_node (by decide) (by decide)]
      simp [sampleFiles]
    · have hdirectory : savedFiles.node sampleDestination = some .directory :=
        ((filled_holds (sample_saveable.clear "a1" (by decide))).move sampleDestination).directory
      simp [hdirectory]
  free := by
    refine ⟨"a1", by decide, ?_⟩
    rw [savedFiles_node (by decide) (by decide)]
    simp [sampleFiles, sampleOperator, stateParent, stagingAt, Files.empty]
  sidecars staging hstaged q hq := by
    obtain ⟨rest, below, rfl⟩ := RestoreRuns.sidecar_family hstaged hq
    rw [savedFiles_node (by simp [sampleDestination, sampleOperator, stateParent])
      (by simp [sampleDestination, bundleAt, sampleOperator, stateParent])]
    simp [sampleFiles, sampleOperator, stateParent, Files.empty]

end DeliverySystem.RestoredBackups

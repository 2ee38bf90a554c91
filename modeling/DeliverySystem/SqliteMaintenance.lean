import DeliverySystem.BackupManifests
import DeliverySystem.SharedFiles

/-!
# Backup and restore of the database

An operator copies the database of a workspace into a bundle and brings it back.
Every look at the files and every change of them is an operation of its own,
between which others may change the files and at which the system may fail.
What was made under a temporary name becomes visible by one rename, which does
not replace anything.
-/
namespace DeliverySystem.SqliteMaintenance
open PythonValues FallibleRuns SharedFiles AuditRecords BackupManifests CivilTimes
set_option autoImplicit false

/-! ## Errors -/

inductive Failure where
  | os
  /-- `sqlite3.Error`; whether it is an `OperationalError`, and one of a busy database. -/
  | sqlite (operational busy : Bool)
  /-- `StorePreflightError` -/
  | preflight
  /-- `SQLiteMaintenanceError` -/
  | maintenance (code : String) (cleanupFailed : Bool)
  | destinationExists
  | runtime (text : String)
deriving Repr, DecidableEq

def fail (code : String) : Failure := .maintenance code false

abbrev Maintenance (α : Type) := Run (World ByteArray Failure) Failure α

def refuse {α : Type} (code : String) : Maintenance α := throw (fail code)

def refuseIf (condition : Bool) (code : String) : Maintenance Unit :=
  if condition then refuse code else pure ()

def throwIf (condition : Bool) (e : Failure) : Maintenance Unit :=
  if condition then throw e else pure ()

def whenever (condition : Bool) (x : Maintenance Unit) : Maintenance Unit :=
  if condition then x else pure ()

/-- `except (OSError, sqlite3.Error)`, raised as an error of the maintenance. -/
def systemError (code : String) : Failure → Failure
  | .os | .sqlite _ _ => fail code
  | e => e

/-- `except OSError` -/
def osError (code : String) : Failure → Failure
  | .os => fail code
  | e => e

/-- `except sqlite3.Error` -/
def sqliteError (code : String) : Failure → Failure
  | .sqlite _ _ => fail code
  | e => e

/-! ## The operator -/

/-- What SQLite and the schema make of the content of a database. -/
class DatabaseLibrary where
  /-- The code that the validation of schema seven raises for a workspace. -/
  schemaError : ByteArray → String → Option String
  /-- `PRAGMA integrity_check` gives `ok`. -/
  integral : ByteArray → Bool
  /-- `PRAGMA foreign_key_check` gives nothing. -/
  keyed : ByteArray → Bool
  /-- `Connection.backup` into another database. -/
  copied : ByteArray → ByteArray

/-- The content is a database of schema seven for the workspace. -/
structure ValidDatabase [DatabaseLibrary] (content : ByteArray) (workspace : String) : Prop where
  schema : DatabaseLibrary.schemaError content workspace = none
  integral : DatabaseLibrary.integral content = true
  keyed : DatabaseLibrary.keyed content = true

/-- What a command is run with. Paths are those after resolution. -/
structure Operator where
  root : Path
  workspaceIdentity : String
  /-- `current_release_id()`, `none` where it raises. -/
  releaseId : Option String
  /-- `os.name == "nt"` -/
  windows : Bool
  ignored : Path → Bool
  tracked : Path → Bool
  /-- The names that `tempfile` tries. -/
  tokens : List String
  /-- The time, in UTC. -/
  now : CivilTime

def stateParent (o : Operator) : Path := o.root ++ [".delivery-system"]

def statePath (o : Operator) : Path := stateParent o ++ [databaseFilename]

def activeSidecarSuffixes : List String := ["wal", "shm", "journal"]

def sidecarPaths (path : Path) : List Path :=
  activeSidecarSuffixes.map fun suffix => path.dropLast ++ [path.getLastD "" ++ "-" ++ suffix]

/-! ## Looks -/

def Leads : Option (Node ByteArray) → Bool
  | some (.link leads) => leads
  | some _ => true
  | none => false

def exists? (path : Path) : Maintenance Bool := look fun files => Leads (files.node path)

/-- `_is_reparse_or_symlink` -/
def isLink (path : Path) : Maintenance Bool :=
  look fun files => (files.node path).any fun n => match n with
    | .link _ => true
    | _ => false

def isFile (path : Path) : Maintenance Bool :=
  look fun files => (files.node path).any fun n => match n with
    | .file _ => true
    | .link leads => leads
    | .directory => false

def isDirectory (path : Path) : Maintenance Bool :=
  look fun files => (files.node path).any fun n => match n with
    | .directory => true
    | .link leads => leads
    | .file _ => false

/-- `_path_present` -/
def pathPresent (path : Path) : Maintenance Bool := do
  let present ← exists? path
  if present then pure true else isLink path

/-- The content of a file. -/
def contentOf? (files : Files ByteArray) (path : Path) : Option ByteArray :=
  (files.node path).bind fun n => match n with
    | .file content => some content
    | _ => none

/-- An operation that reads a file. -/
def readFile (path : Path) (missing : Failure) : Maintenance ByteArray :=
  operation (fun files => match contentOf? files path with
    | some content => .ok (content, files)
    | none => .error missing) fun _ files => files

/-- `list(directory.iterdir())` -/
def listNames (directory : Path) : Maintenance (List String) :=
  operation (fun files => if files.node directory = some .directory then
    .ok (files.names directory, files) else .error .os) fun _ files => files

/-! ## Paths -/

/-- `RuntimeContext.validate_store_paths_read_only` -/
def validateStorePathsReadOnly (o : Operator) : Maintenance Unit := do
  let rooted ← exists? o.root
  throwIf (!rooted) .os
  let sidecars := statePath o :: sidecarPaths (statePath o)
  (stateParent o :: sidecars).forM fun path => do
    let link ← isLink path
    throwIf link .preflight
  Run.mapError (fun e => if e = .os then .preflight else e) do
    sidecars.forM fun path => do
      let present ← exists? path
      throwIf (present && path.dropLast.dropLast ≠ o.root) .preflight
    let present ← exists? (stateParent o)
    throwIf (present && stateParent o ≠ o.root ++ [".delivery-system"]) .preflight
  throwIf (!sidecars.all o.ignored || sidecars.any o.tracked) .preflight

/-- `_validate_active_store_paths` -/
def validateActiveStorePaths (o : Operator) : Maintenance Unit :=
  (validateStorePathsReadOnly o).mapError fun e =>
    if e = .preflight then fail "sqlite_maintenance_backup_source_unsafe" else e

/-- `_require_no_sqlite_sidecars` -/
def requireNoSqliteSidecars (path : Path) (errorCode : String) : Maintenance Unit :=
  (sidecarPaths path).forM fun sidecar => do
    let present ← pathPresent sidecar
    refuseIf present errorCode

/-- `_reject_reparse_chain` -/
def rejectReparseChain (path : Path) (code : String) : Maintenance Unit :=
  path.inits.reverse.forM fun current => do
    let present ← exists? current
    whenever present do
      let link ← isLink current
      refuseIf link code

/-- `_resolve_external_path`, of a path in its resolved form. -/
def resolveExternalPath (value : Path) (code : String) : Maintenance Path := do
  Run.mapError (osError code) (rejectReparseChain value code)
  pure value

/-- `_resolve_backup_destination` -/
def resolveBackupDestination (o : Operator) (value : Path) : Maintenance Path := do
  let invalid := "sqlite_maintenance_backup_destination_invalid"
  let destination ← resolveExternalPath value invalid
  let parent := destination.dropLast
  let present ← exists? parent
  refuseIf (!present) invalid
  let directory ← isDirectory parent
  refuseIf (!directory) invalid
  let link ← isLink parent
  refuseIf link invalid
  refuseIf ((statePath o :: sidecarPaths (statePath o)).any (destination = ·)) invalid
  let present ← exists? destination
  if present then do
    let link ← isLink destination
    refuseIf link invalid
    refuse "sqlite_maintenance_backup_destination_exists"
  else pure destination

/-- `_resolve_bundle_source` -/
def resolveBundleSource (value : Path) : Maintenance Path := do
  let unsafe_ := "sqlite_maintenance_restore_artifact_unsafe"
  let source ← resolveExternalPath value unsafe_
  let present ← exists? source
  refuseIf (!present) "sqlite_maintenance_restore_artifact_missing"
  let directory ← isDirectory source
  refuseIf (!directory) unsafe_
  let link ← isLink source
  refuseIf link unsafe_
  pure source

def memberNames : List String := ["manifest.json", databaseFilename]

/-- The members of a bundle, none of which may be missing, added or a link. -/
def checkMembers (source : Path) (unlisted unexpected unsafe_ : String) : Maintenance Unit := do
  let names ← Run.mapError (osError unlisted) (listNames source)
  refuseIf (!(names ⊆ memberNames ∧ memberNames ⊆ names)) unexpected
  memberNames.forM fun name => do
    let path := source ++ [name]
    let file ← isFile path
    refuseIf (!file) unsafe_
    let link ← isLink path
    refuseIf link unsafe_
    refuseIf (path.dropLast ≠ source) unsafe_

/-- `_bundle_members` -/
def bundleMembers (source : Path) : Maintenance (Path × Path) := do
  checkMembers source "sqlite_maintenance_restore_artifact_unsafe"
    "sqlite_maintenance_restore_artifact_unexpected_member"
    "sqlite_maintenance_restore_artifact_unsafe"
  pure (source ++ ["manifest.json"], source ++ [databaseFilename])

/-- `_require_backup_bundle_members` -/
def requireBackupBundleMembers (source : Path) : Maintenance Unit :=
  checkMembers source "sqlite_maintenance_backup_verification_failed"
    "sqlite_maintenance_backup_verification_failed"
    "sqlite_maintenance_backup_verification_failed"

/-! ## Databases -/

/-- `_open_read_only_connection` -/
def openReadOnlyConnection (path : Path) : Maintenance Unit := do
  let _ ← readFile path .os
  pure ()

/-- `_open_writable_maintenance_connection`, which makes the file where there is none. -/
def openWritableMaintenanceConnection (path : Path) : Maintenance Unit :=
  operation (fun files => match files.node path with
    | none => .ok ((), files.put path (some (.file ByteArray.empty)))
    | some (.file _) => .ok ((), files)
    | some _ => .error (.sqlite true false)) fun fault files =>
      if files.node path = none ∧ fault.left.isSome = true then
        files.put path (some (.file ByteArray.empty))
      else files

section
variable [DatabaseLibrary]

/-- `source_connection.backup(destination_connection)` -/
def backupInto (source target : Path) : Maintenance Unit :=
  operation (fun files => match contentOf? files source with
    | some content =>
        .ok ((), files.put target (some (.file (DatabaseLibrary.copied content))))
    | none => .error (.sqlite false false)) fun fault files =>
      match fault.left with
      | some content => files.put target (some (.file content))
      | none => files

/-- `_schema_error_code` -/
def schemaErrorCode (errorContext code : String) : String :=
  if code = "attestation_persistence_sqlite_busy" then
    if errorContext = "backup_source" then "sqlite_maintenance_backup_source_busy"
    else "sqlite_maintenance_restore_verification_failed"
  else if code ∈ ["attestation_persistence_schema_version_unsupported",
      "attestation_persistence_schema_shape_mismatch"] then
    if errorContext = "backup_source" then "sqlite_maintenance_backup_source_schema_mismatch"
    else if errorContext ∈ ["restore_artifact", "restore_staging"] then
      "sqlite_maintenance_restore_schema_mismatch"
    else "sqlite_maintenance_backup_verification_failed"
  else if code = "attestation_persistence_workspace_mismatch" then
    if errorContext = "restore_artifact" then "sqlite_maintenance_restore_workspace_mismatch"
    else "sqlite_maintenance_backup_source_invalid"
  else if errorContext = "backup_source" then "sqlite_maintenance_backup_source_invalid"
  else if errorContext = "restore_artifact" then "sqlite_maintenance_restore_verification_failed"
  else "sqlite_maintenance_backup_verification_failed"

/-- `_validation_failure_code` -/
def validationFailureCode (errorContext : String) : String :=
  if errorContext = "backup_source" then "sqlite_maintenance_backup_source_invalid"
  else if errorContext ∈ ["restore_artifact", "restore_staging"] then
    "sqlite_maintenance_restore_verification_failed"
  else "sqlite_maintenance_backup_verification_failed"

/-- An error of SQLite in the checks after the schema. -/
def validationError (errorContext : String) : Failure → Failure
  | .sqlite true true =>
      fail (if errorContext = "backup_source" then "sqlite_maintenance_backup_source_busy"
        else if errorContext ∈ ["restore_artifact", "restore_staging"] then
          "sqlite_maintenance_restore_verification_failed"
        else "sqlite_maintenance_backup_verification_failed")
  | .sqlite _ _ => fail (validationFailureCode errorContext)
  | e => e

/-- `_validate_v7_database`, through a connection to the path. -/
def validateV7Database (path : Path) (workspace errorContext : String) : Maintenance Unit := do
  let content ← readFile path (.sqlite false false)
  ((DatabaseLibrary.schemaError content workspace).map (schemaErrorCode errorContext)).forM refuse
  Run.mapError (validationError errorContext) do
    let content ← readFile path (.sqlite false false)
    refuseIf (!DatabaseLibrary.integral content) (validationFailureCode errorContext)
    let content ← readFile path (.sqlite false false)
    refuseIf (!DatabaseLibrary.keyed content) (validationFailureCode errorContext)

end

/-! ## Manifests -/

/-- `_file_size` -/
def fileSize (path : Path) : Maintenance Int := do
  let content ← Run.mapError (osError "sqlite_maintenance_backup_verification_failed")
    (readFile path .os)
  pure content.size

/-- `_hash_file` -/
def hashFile (path : Path) : Maintenance String := do
  let content ← Run.mapError (osError "sqlite_maintenance_backup_verification_failed")
    (readFile path .os)
  pure (ReferenceLibrary.sha256Hex content.toList)

/-- `_manifest_for_database` -/
def manifestForDatabase (path : Path) (releaseId workspaceIdentity : String) (now : CivilTime) :
    Maintenance SQLiteBackupManifest := do
  let databaseSize ← fileSize path
  let databaseSha256 ← hashFile path
  pure
    { format := backupFormat, formatVersion := backupFormatVersion, releaseId
      schemaVersion := expectedSchemaVersion, workspaceIdentity
      databaseFilename := databaseFilename, databaseSize, databaseSha256
      createdAtUtc := civilText now true }

/-- `_validate_manifest_database` -/
def validateManifestDatabase (m : SQLiteBackupManifest) (path : Path) (errorCode : String) :
    Maintenance Unit := do
  let size ← fileSize path
  refuseIf (m.databaseSize ≠ size) errorCode
  let sha256 ← hashFile path
  refuseIf (m.databaseSha256 ≠ sha256) errorCode

/-- `_validate_restore_artifact_digest` -/
def validateRestoreArtifactDigest (m : SQLiteBackupManifest) (path : Path) : Maintenance Unit := do
  let content ← Run.mapError (osError "sqlite_maintenance_restore_artifact_size_mismatch")
    (readFile path .os)
  refuseIf (m.databaseSize ≠ content.size) "sqlite_maintenance_restore_artifact_size_mismatch"
  let sha256 ← Run.mapError (fun e => match e with
    | .maintenance _ _ => fail "sqlite_maintenance_restore_artifact_digest_mismatch"
    | e => e) (hashFile path)
  refuseIf (m.databaseSha256 ≠ sha256) "sqlite_maintenance_restore_artifact_digest_mismatch"

/-- `_read_bounded_manifest` -/
def readBoundedManifest (path : Path) : Maintenance ByteArray := do
  let content ← Run.mapError (osError "sqlite_maintenance_restore_artifact_malformed")
    (readFile path .os)
  refuseIf (decide (maxManifestBytes < content.size)) "sqlite_maintenance_restore_artifact_malformed"
  pure content

/-! ## Temporary names and publication -/

def bundleAt (parent : Path) (token : String) : Path :=
  parent ++ [".delivery-system-backup-" ++ token]

def stagingAt (parent : Path) (token : String) : Path :=
  parent ++ [".delivery-system-state-" ++ token ++ ".sqlite3"]

/-- The first name that is not taken, made with a node. -/
def makeTemporary (parent : Path) (candidates : List Path) (n : Node ByteArray) :
    Maintenance Path :=
  operation (fun files =>
    if files.node parent = some .directory then
      match candidates.find? fun path => (files.node path).isNone with
      | some path => .ok (path, files.put path (some n))
      | none => .error .os
    else .error .os) fun _ files => files

/-- `_temporary_bundle` -/
def temporaryBundle (o : Operator) (parent : Path) : Maintenance Path :=
  Run.mapError (osError "sqlite_maintenance_backup_creation_failed")
    (makeTemporary parent (o.tokens.map (bundleAt parent)) .directory)

/-- `_temporary_database` -/
def temporaryDatabase (o : Operator) (parent : Path) (errorCode : String) : Maintenance Path :=
  Run.mapError (osError errorCode) do
    let path ← makeTemporary parent (o.tokens.map (stagingAt parent)) (.file ByteArray.empty)
    -- the descriptor is closed
    look fun _ => ()
    pure path

/-- `_atomic_publish_no_replace` -/
def atomicPublishNoReplace (o : Operator) (source destination : Path) : Maintenance Unit := do
  refuseIf (!o.windows) "sqlite_maintenance_publication_unsupported"
  throwIf (source.dropLast ≠ destination.dropLast) (.runtime "publication_parent_mismatch")
  operation (fun files =>
    if files.node destination ≠ none then .error .destinationExists
    else if files.node source = none then .error .os
    else .ok ((), files.move source destination)) fun _ files => files

/-- `_publish` -/
def publish (o : Operator) (source destination : Path) (existsCode failureCode : String) :
    Maintenance Unit :=
  (atomicPublishNoReplace o source destination).mapError fun e => match e with
    | .destinationExists => fail existsCode
    | .os | .sqlite _ _ => fail failureCode
    | e => e

/-! ## Cleaning up -/

/-- `path.unlink()` -/
def unlink (path : Path) : Maintenance Unit :=
  operation (fun files => match files.node path with
    | none | some .directory => .error .os
    | some _ => .ok ((), files.put path none)) fun _ files => files

/-- `shutil.rmtree(path)` -/
def removeDirectory (path : Path) : Maintenance Unit :=
  operation (fun files => if files.node path = none then .error .os
    else .ok ((), files.removeTree path fun _ => true)) fun fault files =>
      files.removeTree path fault.removed

/-- `_cleanup_path` -/
def cleanupPath (path : Path) : Maintenance Unit := do
  let present ← pathPresent path
  whenever present do
    let link ← isLink path
    if link then unlink path
    else do
      let directory ← isDirectory path
      if directory then removeDirectory path else unlink path

/-- Whether the cleanup of a candidate did not fail. -/
def attempt (candidate : Path) : Maintenance Bool :=
  tryCatch (do cleanupPath candidate; pure true) fun e => if e = .os then pure false else throw e

/-- `_cleanup`, of one temporary path: whether nothing failed. -/
def cleanup (path : Path) : Maintenance Bool := do
  let directory ← isDirectory path
  let link ← isLink path
  let candidates := if directory && !link then [path] else path :: sidecarPaths path
  candidates.foldlM (fun clean candidate => do
    let removed ← attempt candidate
    pure (clean && removed)) true

/-- Run with a temporary path, which is cleaned up when the maintenance raises. -/
def withCleanup {α : Type} (path : Path) (x : Maintenance α) : Maintenance α :=
  tryCatch x fun e => match e with
    | .maintenance code flag => do
        let clean ← cleanup path
        throw (.maintenance code (flag || !clean))
    | e => throw e

/-! ## The commands -/

/-- An error on opening the source. -/
def sourceError : Failure → Failure
  | .sqlite true true => fail "sqlite_maintenance_backup_source_busy"
  | .os | .sqlite _ _ => fail "sqlite_maintenance_backup_source_invalid"
  | e => e

/-- An error on verifying the copy of a backup. -/
def copyError : Failure → Failure
  | .maintenance code flag =>
      if code = "sqlite_maintenance_backup_source_busy" then
        fail "sqlite_maintenance_backup_verification_failed"
      else .maintenance code flag
  | e => systemError "sqlite_maintenance_backup_verification_failed" e

/-- `path.write_bytes(content)` -/
def writeBytes (path : Path) (content : ByteArray) : Maintenance Unit :=
  change (fun files => files.put path (some (.file content))) fun fault files =>
    match fault.left with
    | some content => files.put path (some (.file content))
    | none => files

/-- `path.mkdir(parents=False, exist_ok=False)` -/
def makeDirectory (path : Path) : Maintenance Unit :=
  operation (fun files =>
    if files.node path = none ∧ files.node path.dropLast = some .directory then
      .ok ((), files.put path (some .directory))
    else .error .os) fun _ files => files

def orRefuse {α : Type} (x : Option α) (code : String) : Maintenance α := x.elim (refuse code) pure

section
variable [DatabaseLibrary]

/-- What `backup` makes in its temporary bundle. -/
def prepareBundle (o : Operator) (bundle : Path) (releaseId : String) :
    Maintenance SQLiteBackupManifest := do
  let database := bundle ++ [databaseFilename]
  Run.mapError (sqliteError "sqlite_maintenance_backup_creation_failed") do
    openWritableMaintenanceConnection database
    backupInto (statePath o) database
  Run.mapError copyError do
    openReadOnlyConnection database
    validateV7Database database o.workspaceIdentity "backup_copy"
  let manifest ← manifestForDatabase database releaseId o.workspaceIdentity o.now
  Run.mapError (osError "sqlite_maintenance_backup_creation_failed")
    (writeBytes (bundle ++ ["manifest.json"]) manifest.toJsonBytes)
  validateManifestDatabase manifest database "sqlite_maintenance_backup_verification_failed"
  requireNoSqliteSidecars database "sqlite_maintenance_backup_verification_failed"
  requireBackupBundleMembers bundle
  pure manifest

def fillBundle (o : Operator) (bundle destination : Path) (releaseId : String) :
    Maintenance (Path × SQLiteBackupManifest) := do
  let manifest ← prepareBundle o bundle releaseId
  publish o bundle destination "sqlite_maintenance_backup_destination_exists"
    "sqlite_maintenance_backup_creation_failed"
  pure (destination, manifest)

/-- The checks of `backup` before it makes anything, which give the destination and the release. -/
def checkBackup (o : Operator) (destination : Path) : Maintenance (Path × String) := do
  validateActiveStorePaths o
  let present ← exists? (statePath o)
  refuseIf (!present) "sqlite_maintenance_backup_source_missing"
  let file ← isFile (statePath o)
  refuseIf (!file) "sqlite_maintenance_backup_source_invalid"
  let link ← isLink (statePath o)
  refuseIf link "sqlite_maintenance_backup_source_invalid"
  let destination ← resolveBackupDestination o destination
  let releaseId ← orRefuse o.releaseId "sqlite_maintenance_release_unavailable"
  Run.mapError sourceError (openReadOnlyConnection (statePath o))
  validateV7Database (statePath o) o.workspaceIdentity "backup_source"
  pure (destination, releaseId)

def backup (o : Operator) (destination : Path) : Maintenance (Path × SQLiteBackupManifest) := do
  let (destination, releaseId) ← checkBackup o destination
  let bundle ← temporaryBundle o destination.dropLast
  withCleanup bundle (fillBundle o bundle destination releaseId)

/-- `_require_empty_active_slot` -/
def requireEmptyActiveSlot (o : Operator) : Maintenance Unit := do
  Run.mapError (fun e =>
    if e = .preflight then fail "sqlite_maintenance_restore_target_exists" else e)
      (validateStorePathsReadOnly o)
  let present ← exists? (statePath o)
  refuseIf present "sqlite_maintenance_restore_target_exists"
  (sidecarPaths (statePath o)).forM fun sidecar => do
    let present ← exists? sidecar
    refuseIf present "sqlite_maintenance_restore_target_sidecar_exists"

/-- `_ensure_restore_parent` -/
def ensureRestoreParent (o : Operator) : Maintenance Path := do
  let failed := "sqlite_maintenance_restore_staging_failed"
  let present ← exists? (stateParent o)
  whenever (!present) (Run.mapError (osError failed) (makeDirectory (stateParent o)))
  Run.mapError (fun e => if e = .preflight then fail failed else e) do
    validateStorePathsReadOnly o
    let directory ← isDirectory (stateParent o)
    refuseIf (!directory) failed
    let link ← isLink (stateParent o)
    refuseIf link failed
    let rooted ← exists? o.root
    throwIf (!rooted) .os
    refuseIf (stateParent o ≠ o.root ++ [".delivery-system"]) failed
  pure (stateParent o)

/-- The manifest of a bundle, which must be for this release and workspace. -/
def readManifest [DatetimeLibrary] [PythonLibrary] [DecimalLibrary] (o : Operator)
    (payload : ByteArray) : Except Failure SQLiteBackupManifest :=
  match fromJsonBytes payload with
  | .error cause =>
      if cause = "manifest_schema_version" then
        .error (fail "sqlite_maintenance_restore_schema_mismatch")
      else .error (fail "sqlite_maintenance_restore_artifact_malformed")
  | .ok manifest =>
      match o.releaseId with
      | none => .error (fail "sqlite_maintenance_release_unavailable")
      | some releaseId =>
          if manifest.releaseId ≠ releaseId then
            .error (fail "sqlite_maintenance_restore_release_mismatch")
          else if manifest.schemaVersion ≠ expectedSchemaVersion then
            .error (fail "sqlite_maintenance_restore_schema_mismatch")
          else if manifest.workspaceIdentity ≠ o.workspaceIdentity then
            .error (fail "sqlite_maintenance_restore_workspace_mismatch")
          else .ok manifest

/-- The first check of the artifact; what it raises tells a wrong size from a wrong digest. -/
def checkArtifact (manifest : SQLiteBackupManifest) (path : Path) : Maintenance Unit :=
  tryCatch (validateManifestDatabase manifest path
    "sqlite_maintenance_restore_artifact_digest_mismatch") fun e => match e with
      | .maintenance code flag => do
          let size ← fileSize path
          refuseIf (manifest.databaseSize ≠ size)
            "sqlite_maintenance_restore_artifact_size_mismatch"
          throw (.maintenance code flag)
      | e => throw e

/-- What `restore` does with its staging database. -/
def activate (o : Operator) (artifact staging : Path) : Maintenance Path := do
  Run.mapError (sqliteError "sqlite_maintenance_restore_staging_failed") do
    openWritableMaintenanceConnection staging
    backupInto artifact staging
  Run.mapError (systemError "sqlite_maintenance_restore_verification_failed") do
    openReadOnlyConnection staging
    validateV7Database staging o.workspaceIdentity "restore_staging"
  requireEmptyActiveSlot o
  requireNoSqliteSidecars staging "sqlite_maintenance_restore_staging_failed"
  publish o staging (statePath o) "sqlite_maintenance_restore_target_exists"
    "sqlite_maintenance_restore_activation_failed"
  requireNoSqliteSidecars staging "sqlite_maintenance_restore_activation_failed"
  pure (statePath o)

def restore [DatetimeLibrary] [PythonLibrary] [DecimalLibrary] (o : Operator) (source : Path) :
    Maintenance Path := do
  requireEmptyActiveSlot o
  let source ← resolveBundleSource source
  let (manifestPath, artifact) ← bundleMembers source
  let payload ← readBoundedManifest manifestPath
  let manifest ← Run.ofExcept (readManifest o payload)
  checkArtifact manifest artifact
  Run.mapError (systemError "sqlite_maintenance_restore_verification_failed")
    (openReadOnlyConnection artifact)
  let members ← bundleMembers source
  refuseIf (members ≠ (manifestPath, artifact)) "sqlite_maintenance_restore_artifact_unsafe"
  validateRestoreArtifactDigest manifest artifact
  validateV7Database artifact o.workspaceIdentity "restore_artifact"
  let parent ← ensureRestoreParent o
  let staging ← temporaryDatabase o parent "sqlite_maintenance_restore_staging_failed"
  withCleanup staging (activate o artifact staging)

end

end DeliverySystem.SqliteMaintenance

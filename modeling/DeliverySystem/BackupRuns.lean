import DeliverySystem.MaintenanceRules

/-!
# Runs of a backup

Whatever others do to the files and wherever the system fails, a backup works in
a temporary bundle only, until it gives the bundle the name of the destination,
where nothing was. What appears there is complete: a verified copy and its
manifest.
-/
namespace DeliverySystem.BackupRuns
open FallibleRuns SharedFiles Ambient AuditRecords PythonValues BackupManifests SqliteMaintenance
  MaintenanceRules CivilTimes
set_option autoImplicit false

/-- The temporary bundles, and what is in them. -/
def Bundled (o : Operator) (destination p : Path) : Prop :=
  ∃ token ∈ o.tokens, bundleAt destination.dropLast token <+: p

/-- The manifest for a copy. -/
def manifestOf (o : Operator) (releaseId : String) (content : ByteArray) : SQLiteBackupManifest where
  format := backupFormat
  formatVersion := backupFormatVersion
  releaseId := releaseId
  schemaVersion := expectedSchemaVersion
  workspaceIdentity := o.workspaceIdentity
  databaseFilename := databaseFilename
  databaseSize := content.size
  databaseSha256 := ReferenceLibrary.sha256Hex content.toList
  createdAtUtc := civilText o.now true

/-- A path holds a bundle, and nothing else. -/
structure HoldsBundle (files : Files ByteArray) (path : Path) (m : SQLiteBackupManifest)
    (content : ByteArray) : Prop where
  directory : files.node path = some .directory
  manifest : files.node (path ++ ["manifest.json"]) = some (.file m.toJsonBytes)
  database : files.node (path ++ [databaseFilename]) = some (.file content)
  names : ∀ name, files.node (path ++ [name]) ≠ none → name ∈ memberNames

theorem HoldsBundle.congr {files files' : Files ByteArray} {path : Path} {m : SQLiteBackupManifest}
    {content : ByteArray} (h : HoldsBundle files path m content)
    (hsame : ∀ p, path <+: p → files'.node p = files.node p) :
    HoldsBundle files' path m content where
  directory := (hsame _ List.prefix_rfl).trans h.directory
  manifest := (hsame _ (List.prefix_append _ _)).trans h.manifest
  database := (hsame _ (List.prefix_append _ _)).trans h.database
  names name hname := by
    rw [hsame _ (List.prefix_append _ _)] at hname
    exact h.names name hname

theorem HoldsBundle.about {A : Ambient ByteArray Failure} {path : Path} {m : SQLiteBackupManifest}
    {content : ByteArray} (hpath : ∀ p, path <+: p → A.fixed p) :
    A.About fun files => HoldsBundle files path m content :=
  fun _ _ hsame h => h.congr fun p hp => hsame p (hpath p hp)

theorem HoldsBundle.move {files : Files ByteArray} {source : Path} {m : SQLiteBackupManifest}
    {content : ByteArray} (h : HoldsBundle files source m content) (target : Path) :
    HoldsBundle (files.move source target) target m content where
  directory := by
    have hself := files.move_node_target source target []
    rw [List.append_nil, List.append_nil] at hself
    rw [hself, h.directory]
  manifest := by rw [Files.move_node_target, h.manifest]
  database := by rw [Files.move_node_target, h.database]
  names name hname := by
    rw [Files.move_node_target] at hname
    exact h.names name hname

section
variable [DatabaseLibrary] {o : Operator} {spared : Path → Prop} {destination : Path}
  {publishes : Prop}

/-- What a destination holds after a publication. -/
def Published (o : Operator) (files : Files ByteArray) (destination : Path) : Prop :=
  ∃ releaseId content, o.releaseId = some releaseId ∧ ValidDatabase content o.workspaceIdentity ∧
    HoldsBundle files destination (manifestOf o releaseId content) content

/-- What a backup does to the files in one step, and whether that may be a publication. -/
structure BackupStep (o : Operator) (destination : Path) (publishes : Prop)
    (before after : Files ByteArray) : Prop where
  others : ∀ p, ¬Bundled o destination p → ¬destination <+: p → after.node p = before.node p
  destination : (∀ p, ¬Bundled o destination p → after.node p = before.node p) ∨
    publishes ∧ before.node destination = none ∧ Published o after destination

theorem BackupStep.mono {publishes' : Prop} {before after : Files ByteArray}
    (h : BackupStep o destination publishes before after) (himp : publishes → publishes') :
    BackupStep o destination publishes' before after :=
  ⟨h.others, h.destination.imp id (And.imp_left himp)⟩

theorem BackupStep.ofBundled {before after : Files ByteArray}
    (h : ∀ p, ¬Bundled o destination p → after.node p = before.node p) :
    BackupStep o destination publishes before after := ⟨fun p hp _ => h p hp, .inl h⟩

/-- Others leave the temporary bundles alone, and the paths that are spared. -/
def backupAmbient (o : Operator) (destination : Path) (spared : Path → Prop) (publishes : Prop) :
    Ambient ByteArray Failure where
  fixed p := Bundled o destination p ∨ spared p
  faults e := e = .os ∨ ∃ operational busy, e = .sqlite operational busy
  allowed := BackupStep o destination publishes
  refl _ := .ofBundled fun _ _ => rfl

/-- The paths that a backup relies upon: the temporary bundles, and the state if it is spared. -/
def Watched (o : Operator) (destination : Path) (spared : Path → Prop) (p : Path) : Prop :=
  Bundled o destination p ∨ spared p ∧ p = statePath o

/-- What is known of the files while one bundle is being filled. -/
def Beside (o : Operator) (destination : Path) (spared : Path → Prop) (bundle p : Path) : Prop :=
  Watched o destination spared p ∧ ¬bundle <+: p

variable {start : Files ByteArray} {bundle : Path}

theorem about_watched :
    (backupAmbient o destination spared publishes).About (Same (Watched o destination spared) start) :=
  about_same fun _ hp => hp.imp id And.left

theorem about_beside :
    (backupAmbient o destination spared publishes).About (Same (Beside o destination spared bundle) start) :=
  about_same fun _ hp => hp.1.imp id And.left

/-- What has been done with the bundle. -/
def Filling (o : Operator) (destination : Path) (spared : Path → Prop) (bundle : Path)
    (start files : Files ByteArray) : Prop :=
  files.node bundle = some .directory ∧ Same (Beside o destination spared bundle) start files

theorem about_filling (hbundle : Bundled o destination bundle) :
    (backupAmbient o destination spared publishes).About (Filling o destination spared bundle start) :=
  (About.node (show (backupAmbient o destination spared publishes).fixed bundle from .inl hbundle)
    fun n => n = some .directory).and about_beside

omit [DatabaseLibrary] in
theorem Bundled.below {p q : Path} (h : Bundled o destination p) (hq : p <+: q) :
    Bundled o destination q := by
  obtain ⟨token, htoken, hprefix⟩ := h
  exact ⟨token, htoken, hprefix.trans hq⟩

/-- A change of a member of the bundle. -/
theorem put_member {files : Files ByteArray} (hbundle : Bundled o destination bundle)
    (h : Filling o destination spared bundle start files) (name : String)
    (n : Option (Node ByteArray)) :
    BackupStep o destination publishes files (files.put (bundle ++ [name]) n) ∧
      Filling o destination spared bundle start (files.put (bundle ++ [name]) n) := by
  refine ⟨.ofBundled fun p hp => ?_, ?_, fun p hp => ?_⟩
  · rw [Files.put_node, if_neg]
    rintro rfl
    exact hp (hbundle.below (List.prefix_append _ _))
  · rw [Files.put_node, if_neg (by simp), h.1]
  · rw [Files.put_node, if_neg, h.2 p hp]
    rintro rfl
    exact hp.2 (List.prefix_append _ _)

/-- The content comes from the state as it was in the beginning. -/
def FromState (o : Operator) (spared : Path → Prop) (start : Files ByteArray)
    (content : ByteArray) : Prop :=
  spared (statePath o) → ∃ original, contentOf? start (statePath o) = some original ∧
    content = DatabaseLibrary.copied original

/-- A bundle is made under a name that was free. -/
theorem temporaryBundle_does :
    (backupAmbient o destination spared publishes).Does (Same (Watched o destination spared) start)
      (temporaryBundle o destination.dropLast)
      (fun bundle files => (∃ token ∈ o.tokens, bundleAt destination.dropLast token = bundle ∧
          start.node bundle = none) ∧ Filling o destination spared bundle start files)
      fun _ => Same (Watched o destination spared) start := by
  refine Does.mapError (Does.operation about_watched ?_ (fun _ _ h _ => h)
    fun _ files _ h => ⟨(backupAmbient o destination spared publishes).refl files, h⟩)
  intro files bundle files' h heq
  split_ifs at heq
  cases hfound : (o.tokens.map (bundleAt destination.dropLast)).find?
      fun path => (files.node path).isNone with
  | none =>
      rw [hfound] at heq
      cases heq
  | some path =>
      rw [hfound] at heq
      obtain ⟨rfl, rfl⟩ := Prod.mk.inj (Except.ok.inj heq)
      obtain ⟨token, htoken, rfl⟩ := List.mem_map.mp (List.mem_of_find?_eq_some hfound)
      have hbundle : Bundled o destination (bundleAt destination.dropLast token) :=
        ⟨token, htoken, List.prefix_rfl⟩
      have hfree : files.node (bundleAt destination.dropLast token) = none := by
        simpa using List.find?_some hfound
      refine ⟨.ofBundled fun p hp => ?_, ⟨token, htoken, rfl, ?_⟩, ?_, fun p hp => ?_⟩
      · rw [Files.put_node, if_neg]
        rintro rfl
        exact hp hbundle
      · rw [← h _ (.inl hbundle), hfree]
      · rw [Files.put_node, if_pos rfl]
      · rw [Files.put_node, if_neg, h p hp.1]
        rintro rfl
        exact hp.2 List.prefix_rfl

/-! ## The bundle -/

/-- A bundle with a copy in it. -/
def Holding (o : Operator) (destination : Path) (spared : Path → Prop) (bundle : Path)
    (start : Files ByteArray) (content : ByteArray) (files : Files ByteArray) : Prop :=
  files.node (bundle ++ [databaseFilename]) = some (.file content) ∧
    Filling o destination spared bundle start files

theorem about_holding (hbundle : Bundled o destination bundle) (content : ByteArray) :
    (backupAmbient o destination spared publishes).About
      (Holding o destination spared bundle start content) :=
  (About.node (show (backupAmbient o destination spared publishes).fixed (bundle ++ [databaseFilename]) from
    .inl (hbundle.below (List.prefix_append _ _))) fun n => n = some (.file content)).and
    (about_filling hbundle)

omit [DatabaseLibrary] in
theorem Holding.content {content : ByteArray} {files : Files ByteArray}
    (h : Holding o destination spared bundle start content files) :
    contentOf? files (bundle ++ [databaseFilename]) = some content := by
  rw [contentOf?, h.1]
  rfl

theorem openWritable_does (hbundle : Bundled o destination bundle) (name : String) :
    (backupAmbient o destination spared publishes).Does (Filling o destination spared bundle start)
      (openWritableMaintenanceConnection (bundle ++ [name]))
      (fun _ => Filling o destination spared bundle start)
      fun _ => Filling o destination spared bundle start := by
  refine Does.operation (about_filling hbundle) ?_ (fun _ _ h _ => h) ?_
  · rintro files _ files' h heq
    split at heq
    · obtain ⟨-, rfl⟩ := Prod.mk.inj (Except.ok.inj heq)
      exact put_member hbundle h name _
    · obtain ⟨-, rfl⟩ := Prod.mk.inj (Except.ok.inj heq)
      exact ⟨(backupAmbient o destination spared publishes).refl _, h⟩
    · cases heq
  · rintro fault files - h
    split
    · exact put_member hbundle h name _
    · exact ⟨(backupAmbient o destination spared publishes).refl _, h⟩

/-- The state is copied into the bundle. -/
theorem backupInto_does (hbundle : Bundled o destination bundle) :
    (backupAmbient o destination spared publishes).Does (Filling o destination spared bundle start)
      (backupInto (statePath o) (bundle ++ [databaseFilename]))
      (fun _ files => ∃ content,
        (¬Bundled o destination (statePath o) → FromState o spared start content) ∧
          Holding o destination spared bundle start content files)
      fun _ => Filling o destination spared bundle start := by
  refine Does.operation (about_filling hbundle) ?_ (fun _ _ h _ => h) ?_
  · rintro files _ files' h heq
    cases hcontent : contentOf? files (statePath o) with
    | none =>
        rw [hcontent] at heq
        cases heq
    | some original =>
        rw [hcontent] at heq
        obtain ⟨-, rfl⟩ := Prod.mk.inj (Except.ok.inj heq)
        obtain ⟨hstep, hfilling⟩ := put_member hbundle h databaseFilename
          (some (.file (DatabaseLibrary.copied original)))
        refine ⟨hstep, DatabaseLibrary.copied original, fun hstate hspared =>
          ⟨original, ?_, rfl⟩, ?_, hfilling⟩
        · rw [contentOf?, ← h.2 _ ⟨.inr ⟨hspared, rfl⟩, fun hbelow => hstate (hbundle.below hbelow)⟩]
          exact hcontent
        · rw [Files.put_node, if_pos rfl]
  · rintro fault files - h
    cases fault.left with
    | none => exact ⟨(backupAmbient o destination spared publishes).refl _, h⟩
    | some content => exact put_member hbundle h databaseFilename _

omit [DatabaseLibrary] in
theorem manifestForDatabase_does {A : Ambient ByteArray Failure} {K : Files ByteArray → Prop}
    (hK : A.About K) {path : Path} {content : ByteArray}
    (hcontent : ∀ files, K files → contentOf? files path = some content) (releaseId : String) :
    A.Does K (manifestForDatabase path releaseId o.workspaceIdentity o.now)
      (fun m files => m = manifestOf o releaseId content ∧ K files) fun _ => K := by
  refine Does.bind (R := fun size files => size = (content.size : Int) ∧ K files)
    ((Does.mapError (readFile_content hK hcontent _)).bind fun read => Does.of_prop ?_)
      fun size => Does.of_prop ?_
  · rintro rfl
    exact Does.pure fun _ h => ⟨rfl, h⟩
  rintro rfl
  refine Does.bind (R := fun sha256 files =>
      sha256 = ReferenceLibrary.sha256Hex content.toList ∧ K files)
    ((Does.mapError (readFile_content hK hcontent _)).bind fun read => Does.of_prop ?_)
      fun sha256 => Does.of_prop ?_
  · rintro rfl
    exact Does.pure fun _ h => ⟨rfl, h⟩
  rintro rfl
  exact Does.pure fun _ h => ⟨rfl, h⟩

omit [DatabaseLibrary] in
theorem bundle_ne_member (bundle : Path) {name other : String} (h : name ≠ other) :
    bundle ++ [name] ≠ bundle ++ [other] := by simpa using h

/-- A bundle that is filled and verified. -/
def Prepared (o : Operator) (destination : Path) (spared : Path → Prop) (bundle : Path)
    (start : Files ByteArray) (releaseId : String) (content : ByteArray) (files : Files ByteArray) :
    Prop :=
  HoldsBundle files bundle (manifestOf o releaseId content) content ∧
    Same (Beside o destination spared bundle) start files

/-- The copy is valid, and is that of the state. -/
def Copied (o : Operator) (destination : Path) (spared : Path → Prop) (start : Files ByteArray)
    (content : ByteArray) : Prop :=
  ValidDatabase content o.workspaceIdentity ∧
    (¬Bundled o destination (statePath o) → FromState o spared start content)

theorem about_prepared {releaseId : String} {content : ByteArray}
    (hbundle : Bundled o destination bundle) :
    (backupAmbient o destination spared publishes).About
      (Prepared o destination spared bundle start releaseId content) :=
  (HoldsBundle.about (A := backupAmbient o destination spared publishes) fun _ hp =>
    .inl (hbundle.below hp)).and about_beside

/-- A bundle that is filled and verified, or left for the cleanup. -/
theorem prepareBundle_does {releaseId : String} (hbundle : Bundled o destination bundle) :
    (backupAmbient o destination spared publishes).Does
      (Filling o destination spared bundle start) (prepareBundle o bundle releaseId)
      (fun m files => ∃ content, (Copied o destination spared start content ∧
        m = manifestOf o releaseId content) ∧
          Prepared o destination spared bundle start releaseId content files)
      fun _ => Filling o destination spared bundle start := by
  refine Does.bind (Does.mapError (Does.bind (openWritable_does hbundle _) fun _ =>
    backupInto_does hbundle)) fun _ => Does.each fun content => Does.of_prop fun hfrom => ?_
  have hK : (backupAmbient o destination spared publishes).About (Holding o destination spared
    bundle start content) := about_holding hbundle content
  have hfilling (e : Failure) (files : Files ByteArray)
      (h : Holding o destination spared bundle start content files) :
      Filling o destination spared bundle start files := h.2
  refine Does.bind (Does.mapError (Looks.next (Looks.bind (looks_readFile _ _) fun _ =>
    Looks.pure _) hK hfilling fun _ => (validateV7Database_does hK (fun _ h => h.content) _ _).weaken
      (fun _ => id) (fun _ _ => id) hfilling)) fun _ => Does.of_prop fun hvalid => ?_
  refine Does.bind ((manifestForDatabase_does hK (fun _ h => h.content) _).weaken (fun _ => id)
    (fun _ _ => id) hfilling) fun m => Does.of_prop ?_
  rintro rfl
  have hwritten : (backupAmbient o destination spared publishes).About fun files =>
      files.node (bundle ++ ["manifest.json"]) =
        some (.file (manifestOf o releaseId content).toJsonBytes) ∧
      Holding o destination spared bundle start content files :=
    (About.node (show (backupAmbient o destination spared publishes).fixed _ from
      .inl (hbundle.below (List.prefix_append _ _))) fun n => n = _).and hK
  refine Does.bind (R := fun _ files => files.node (bundle ++ ["manifest.json"]) =
      some (.file (manifestOf o releaseId content).toJsonBytes) ∧
        Holding o destination spared bundle start content files)
    (Does.mapError (Does.change hK ?_ ?_)) fun _ => ?_
  · rintro files ⟨hdatabase, h⟩
    obtain ⟨hstep, hkept⟩ := put_member hbundle h "manifest.json"
      (some (.file (manifestOf o releaseId content).toJsonBytes))
    refine ⟨hstep, ?_, ?_, hkept⟩
    · rw [Files.put_node, if_pos rfl]
    · rw [Files.put_node, if_neg (bundle_ne_member _ (by decide)), hdatabase]
  · rintro fault files - h
    cases fault.left with
    | none => exact ⟨(backupAmbient o destination spared publishes).refl _, h.2⟩
    | some content => exact put_member hbundle h.2 "manifest.json" _
  refine Looks.next (Looks.bind (looks_fileSize _) fun _ => Looks.bind (looks_refuseIf _ _)
      fun _ => Looks.bind (looks_hashFile _) fun _ => looks_refuseIf _ _) hwritten
        (fun _ _ h => h.2.2) fun _ =>
    Looks.next (looks_requireNoSqliteSidecars _ _) hwritten (fun _ _ h => h.2.2) fun _ =>
      Does.bind ((checkMembers_does hwritten (fun p hp => .inl (hbundle.below hp)) _ _ _).weaken
        (fun _ => id) (fun _ _ => id) fun _ _ h => h.2.2) fun _ => Does.pure ?_
  rintro files ⟨hnames, hmanifest, hdatabase, hdirectory, hsame⟩
  exact ⟨content, ⟨⟨hvalid, hfrom⟩, rfl⟩, ⟨hdirectory, hmanifest, hdatabase, hnames⟩, hsame⟩

/-- The whole bundle gets the name of the destination, where nothing was. -/
theorem publish_does {releaseId existsCode failureCode : String} {content : ByteArray}
    (hpublishes : publishes) (hrelease : o.releaseId = some releaseId)
    (hbundle : Bundled o destination bundle) (hvalid : ValidDatabase content o.workspaceIdentity) :
    (backupAmbient o destination spared publishes).Does
      (Prepared o destination spared bundle start releaseId content)
      (publish o bundle destination existsCode failureCode)
      (fun _ files => (∀ p, destination <+: p → spared p) →
        HoldsBundle files destination (manifestOf o releaseId content) content)
      fun _ => Filling o destination spared bundle start := by
  have hK : (backupAmbient o destination spared publishes).About
      (Prepared o destination spared bundle start releaseId content) := about_prepared hbundle
  refine Does.mapError (Looks.next (looks_refuseIf _ _) hK (fun _ _ h => ⟨h.1.directory, h.2⟩)
    fun _ => Looks.next (looks_throwIf _ _) hK (fun _ _ h => ⟨h.1.directory, h.2⟩) fun _ => ?_)
  refine Does.operation hK ?_ (fun _ _ h _ => ⟨h.1.directory, h.2⟩) fun _ files _ h =>
    ⟨(backupAmbient o destination spared publishes).refl files, h.1.directory, h.2⟩
  rintro files _ files' ⟨hholds, -⟩ heq
  split_ifs at heq with hfree
  obtain ⟨-, rfl⟩ := Prod.mk.inj (Except.ok.inj heq)
  refine ⟨⟨fun p hp hdestination => files.move_node_other hdestination fun hbelow =>
    hp (hbundle.below hbelow), .inr ⟨hpublishes, not_not.mp hfree, releaseId, content, hrelease,
      hvalid, hholds.move destination⟩⟩, fun _ => hholds.move destination⟩

/-- A publication that raises has published nothing. -/
theorem publish_raises {releaseId existsCode failureCode : String} {content : ByteArray}
    (hbundle : Bundled o destination bundle) :
    (backupAmbient o destination spared publishes).Raises
      (Prepared o destination spared bundle start releaseId content)
      (publish o bundle destination existsCode failureCode)
      fun _ => Filling o destination spared bundle start := by
  have hK : (backupAmbient o destination spared publishes).About
      (Prepared o destination spared bundle start releaseId content) := about_prepared hbundle
  have hfilling (e : Failure) (files : Files ByteArray)
      (h : Prepared o destination spared bundle start releaseId content files) :
      Filling o destination spared bundle start files := ⟨h.1.directory, h.2⟩
  exact Raises.mapError (Looks.raises (looks_refuseIf _ _) hK hfilling fun _ =>
    Looks.raises (looks_throwIf _ _) hK hfilling fun _ => Raises.operation hK
      (fun files e h _ => hfilling e files h) fun fault files _ h =>
        ⟨(backupAmbient o destination spared publishes).refl files, hfilling fault.error files h⟩)

/-! ## The backup -/

theorem removable_bundle (hbundle : Bundled o destination bundle) :
    Removable (backupAmbient o destination spared publishes)
      (Same (Beside o destination spared bundle) start) bundle where
  put files h := by
    refine ⟨.ofBundled fun p hp => ?_, fun p hp => ?_⟩
    · rw [Files.put_node, if_neg]
      rintro rfl
      exact hp hbundle
    · rw [Files.put_node, if_neg, h p hp]
      rintro rfl
      exact hp.2 List.prefix_rfl
  remove files selected h := by
    refine ⟨.ofBundled fun p hp => ?_, fun p hp => ?_⟩
    · rw [Files.removeTree_node, if_neg fun habove => hp (hbundle.below habove.1)]
    · rw [Files.removeTree_node, if_neg fun habove => hp.2 habove.1, h p hp]

/-- The temporary bundles are as in the beginning. -/
def Unbundled (o : Operator) (destination : Path) (start files : Files ByteArray) : Prop :=
  ∀ token ∈ o.tokens, files.node (bundleAt destination.dropLast token) =
    start.node (bundleAt destination.dropLast token)

/-- An error that does not report a failed cleanup leaves no bundle. -/
def Cleaned (o : Operator) (destination : Path) (start : Files ByteArray) (e : Failure)
    (files : Files ByteArray) : Prop :=
  (∃ code, e = .maintenance code false) → Unbundled o destination start files

/-- The cleanup of a bundle, after an error. -/
theorem cleaned_does {α : Type} {Q : α → Files ByteArray → Prop} {token : String} {e : Failure}
    (htoken : token ∈ o.tokens)
    (hfree : start.node (bundleAt destination.dropLast token) = none) :
    (backupAmbient o destination spared publishes).Does
      (Filling o destination spared (bundleAt destination.dropLast token) start)
      (withCleanup (bundleAt destination.dropLast token) (throw e : Maintenance α)) Q
      (Cleaned o destination start) := by
  have hbundle : Bundled o destination (bundleAt destination.dropLast token) :=
    ⟨token, htoken, List.prefix_rfl⟩
  refine withCleanup_does (Does.throw fun _ => id)
    (cleanup_directory_does (A := backupAmbient o destination spared publishes) (.inl rfl)
      (.inl hbundle) about_beside (removable_bundle hbundle)) ?_ ?_ ?_
  · rintro e files (rfl | ⟨_, _, rfl⟩) - ⟨code, heq⟩
    · cases heq
    · cases heq
  · rintro e files hne - ⟨code, rfl⟩
    exact absurd rfl (hne code false)
  · rintro code flag files hgone hsame ⟨code', heq⟩ token' htoken'
    by_cases hpath : bundleAt destination.dropLast token <+: bundleAt destination.dropLast token'
    · rw [← hpath.eq_of_length (by simp [bundleAt]), hfree]
      exact hgone (Failure.maintenance.inj heq).2
    · exact hsame _ ⟨.inl ⟨token', htoken', List.prefix_rfl⟩, hpath⟩

/-- What a backup returns: the destination with the manifest of a copy, and it holds them. -/
def Returned (o : Operator) (destination : Path) (spared : Path → Prop)
    (start : Files ByteArray) (releaseId : String) (result : Path × SQLiteBackupManifest)
    (files : Files ByteArray) : Prop :=
  ∃ content, Copied o destination spared start content ∧
    result = (destination, manifestOf o releaseId content) ∧
    ((∀ p, destination <+: p → spared p) →
      HoldsBundle files destination (manifestOf o releaseId content) content)

omit [DatabaseLibrary] in
theorem resolveBackupDestination_does {A : Ambient ByteArray Failure} {K : Files ByteArray → Prop}
    (hK : A.About K) (value : Path) :
    A.Does K (resolveBackupDestination o value) (fun resolved files => resolved = value ∧ K files)
      fun _ => K := by
  refine Does.bind (R := fun resolved files => resolved = value ∧ K files)
    ((Looks.mapError (Looks.forM fun _ _ => Looks.bind (looks_exists? _) fun _ =>
      looks_whenever (Looks.bind (looks_isLink _) fun _ => looks_refuseIf _ _))).next hK
        (fun _ _ => id) fun _ => Does.pure fun _ h => ⟨rfl, h⟩) fun resolved => Does.of_prop ?_
  rintro rfl
  refine Looks.next (looks_exists? _) hK (fun _ _ => id) fun _ =>
    Looks.next (looks_refuseIf _ _) hK (fun _ _ => id) fun _ =>
    Looks.next (looks_isDirectory _) hK (fun _ _ => id) fun _ =>
    Looks.next (looks_refuseIf _ _) hK (fun _ _ => id) fun _ =>
    Looks.next (looks_isLink _) hK (fun _ _ => id) fun _ =>
    Looks.next (looks_refuseIf _ _) hK (fun _ _ => id) fun _ =>
    Looks.next (looks_refuseIf _ _) hK (fun _ _ => id) fun _ =>
    Looks.next (looks_exists? _) hK (fun _ _ => id) fun _ => ?_
  split
  · exact Looks.next (looks_isLink _) hK (fun _ _ => id) fun _ =>
      Looks.next (looks_refuseIf _ _) hK (fun _ _ => id) fun _ => Does.throw fun _ => id
  · exact Does.pure fun _ h => ⟨rfl, h⟩

theorem checkBackup_does {A : Ambient ByteArray Failure} {K : Files ByteArray → Prop}
    (hK : A.About K) :
    A.Does K (checkBackup o destination) (fun checked files => (∃ releaseId,
      o.releaseId = some releaseId ∧ checked = (destination, releaseId)) ∧ K files) fun _ => K := by
  have hkept : ∀ (e : Failure) (files : Files ByteArray), K files → K files := fun _ _ => id
  refine Looks.next (Looks.mapError (looks_validateStorePathsReadOnly o)) hK hkept fun _ =>
    Looks.next (looks_exists? _) hK hkept fun _ => Looks.next (looks_refuseIf _ _) hK hkept fun _ =>
    Looks.next (looks_isFile _) hK hkept fun _ => Looks.next (looks_refuseIf _ _) hK hkept fun _ =>
    Looks.next (looks_isLink _) hK hkept fun _ => Looks.next (looks_refuseIf _ _) hK hkept fun _ =>
    Does.bind (resolveBackupDestination_does hK _) fun resolved => Does.of_prop ?_
  rintro rfl
  cases hrelease : o.releaseId with
  | none => exact Does.throw fun _ => id
  | some releaseId =>
      refine Does.bind (R := fun release files => release = releaseId ∧ K files)
        (Does.pure fun _ h => ⟨rfl, h⟩) fun _ => Does.of_prop ?_
      rintro rfl
      exact Looks.next (Looks.mapError (Looks.bind (looks_readFile _ _) fun _ => Looks.pure _)) hK
        hkept fun _ => Looks.next (looks_validateV7Database _ _ _) hK hkept fun _ =>
          Does.pure fun _ h => ⟨⟨_, rfl, rfl⟩, h⟩

omit [DatabaseLibrary] in
theorem kept_cleaned {e : Failure} {files : Files ByteArray}
    (h : Same (Watched o destination spared) start files) : Cleaned o destination start e files :=
  fun _ token htoken => h _ (.inl ⟨token, htoken, List.prefix_rfl⟩)

theorem backup_does (hpublishes : publishes) :
    (backupAmbient o destination spared publishes).Does
      (Same (Watched o destination spared) start) (backup o destination)
      (fun result files => ∃ releaseId, o.releaseId = some releaseId ∧
        Returned o destination spared start releaseId result files)
      (Cleaned o destination start) := by
  refine Does.bind ((checkBackup_does about_watched).weaken (fun _ => id) (fun _ _ => id)
    fun _ _ => kept_cleaned) fun checked => Does.of_prop ?_
  rintro ⟨releaseId, hrelease, rfl⟩
  refine Does.bind (temporaryBundle_does.weaken (fun _ => id) (fun _ _ => id)
    fun _ _ => kept_cleaned) fun bundle => Does.of_prop ?_
  rintro ⟨token, htoken, rfl, hfree⟩
  have hbundle : Bundled o destination (bundleAt destination.dropLast token) :=
    ⟨token, htoken, List.prefix_rfl⟩
  refine Does.tryCatch (R := fun _ => Filling o destination spared
    (bundleAt destination.dropLast token) start) (Does.bind (prepareBundle_does hbundle) fun m =>
      Does.each fun content => Does.of_prop ?_) fun e => ?_
  · rintro ⟨hcopied, rfl⟩
    exact Does.bind (publish_does hpublishes hrelease hbundle hcopied.1) fun _ =>
      Does.pure fun files h => ⟨releaseId, hrelease, content, hcopied, rfl, h⟩
  · exact cleaned_does htoken hfree

theorem backup_raises : (backupAmbient o destination spared publishes).Raises
    (Same (Watched o destination spared) start) (backup o destination)
    (Cleaned o destination start) := by
  refine Raises.bind ((checkBackup_does about_watched).weaken (fun _ => id) (fun _ _ => id)
    fun _ _ => kept_cleaned) fun checked => Raises.of_prop ?_
  rintro ⟨releaseId, hrelease, rfl⟩
  refine Raises.bind (temporaryBundle_does.weaken (fun _ => id) (fun _ _ => id)
    fun _ _ => kept_cleaned) fun bundle => Raises.of_prop ?_
  rintro ⟨token, htoken, rfl, hfree⟩
  have hbundle : Bundled o destination (bundleAt destination.dropLast token) :=
    ⟨token, htoken, List.prefix_rfl⟩
  refine Raises.tryCatch (R := fun _ => Filling o destination spared
    (bundleAt destination.dropLast token) start) (Raises.bind (prepareBundle_does hbundle) fun m =>
      Raises.each fun content => Raises.of_prop ?_) fun e => ?_
  · rintro ⟨-, rfl⟩
    exact Raises.last (publish_raises hbundle)
  · exact Raises.of_does (cleaned_does (Q := fun _ _ => True) htoken hfree)

end

end DeliverySystem.BackupRuns

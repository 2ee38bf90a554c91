import DeliverySystem.SqliteMaintenance

/-!
# Rules for the maintenance of a database

The checks of the maintenance only look at the files. What they read of a path
that nobody else changes is what it holds, and what has been cleaned up is gone.
-/
namespace DeliverySystem.MaintenanceRules
open FallibleRuns SharedFiles Ambient AuditRecords PythonValues BackupManifests SqliteMaintenance
set_option autoImplicit false

/-! ## Runs that only look -/

section
variable {A : Ambient ByteArray Failure}

theorem looks_throwIf (condition : Bool) (e : Failure) :
    A.Looks (throwIf condition e) := Looks.ite (Looks.throw _) (Looks.pure _)

theorem looks_refuseIf (condition : Bool) (code : String) :
    A.Looks (refuseIf condition code) := looks_throwIf condition _

theorem looks_whenever {condition : Bool} {x : Maintenance Unit} (hx : A.Looks x) :
    A.Looks (whenever condition x) := Looks.ite hx (Looks.pure _)

theorem looks_exists? (path : Path) : A.Looks (exists? path) := Looks.look

theorem looks_isLink (path : Path) : A.Looks (isLink path) := Looks.look

theorem looks_isFile (path : Path) : A.Looks (isFile path) := Looks.look

theorem looks_isDirectory (path : Path) : A.Looks (isDirectory path) :=
  Looks.look

theorem looks_pathPresent (path : Path) : A.Looks (pathPresent path) :=
  Looks.bind (looks_exists? path) fun _ =>
    Looks.ite (Looks.pure _) (looks_isLink path)

theorem looks_readFile (path : Path) (missing : Failure) : A.Looks (readFile path missing) := by
  refine Looks.operation fun files a files' heq => ?_
  split at heq
  · exact (Prod.mk.inj (Except.ok.inj heq)).2.symm
  · cases heq

theorem looks_listNames (path : Path) : A.Looks (listNames path) := by
  refine Looks.operation fun files a files' heq => ?_
  split_ifs at heq
  exact (Prod.mk.inj (Except.ok.inj heq)).2.symm

theorem looks_validateStorePathsReadOnly (o : Operator) :
    A.Looks (validateStorePathsReadOnly o) := by
  refine Looks.bind (looks_exists? _) fun _ => Looks.bind (looks_throwIf _ _) fun _ =>
    Looks.bind (Looks.forM fun _ _ => ?_) fun _ => Looks.bind (Looks.mapError ?_) fun _ =>
      looks_throwIf _ _
  · exact Looks.bind (looks_isLink _) fun _ => looks_throwIf _ _
  · refine Looks.bind (Looks.forM fun _ _ => ?_) fun _ => ?_
    · exact Looks.bind (looks_exists? _) fun _ => looks_throwIf _ _
    · exact Looks.bind (looks_exists? _) fun _ => looks_throwIf _ _

theorem looks_requireNoSqliteSidecars (path : Path) (code : String) :
    A.Looks (requireNoSqliteSidecars path code) :=
  Looks.forM fun _ _ => Looks.bind (looks_pathPresent _) fun _ => looks_refuseIf _ _

theorem looks_resolveExternalPath (value : Path) (code : String) :
    A.Looks (resolveExternalPath value code) := by
  refine Looks.bind (Looks.mapError (Looks.forM fun _ _ => ?_)) fun _ => Looks.pure _
  refine Looks.bind (looks_exists? _) fun _ => looks_whenever ?_
  exact Looks.bind (looks_isLink _) fun _ => looks_refuseIf _ _

theorem looks_checkMembers (source : Path) (unlisted unexpected other : String) :
    A.Looks (checkMembers source unlisted unexpected other) := by
  refine Looks.bind (Looks.mapError (looks_listNames _)) fun _ =>
    Looks.bind (looks_refuseIf _ _) fun _ => Looks.forM fun _ _ => ?_
  refine Looks.bind (looks_isFile _) fun _ => Looks.bind (looks_refuseIf _ _) fun _ =>
    Looks.bind (looks_isLink _) fun _ => Looks.bind (looks_refuseIf _ _) fun _ =>
      looks_refuseIf _ _

theorem looks_bundleMembers (source : Path) : A.Looks (bundleMembers source) :=
  Looks.bind (looks_checkMembers _ _ _ _) fun _ => Looks.pure _

theorem looks_resolveBundleSource (value : Path) :
    A.Looks (resolveBundleSource value) := by
  refine Looks.bind (looks_resolveExternalPath _ _) fun _ =>
    Looks.bind (looks_exists? _) fun _ => Looks.bind (looks_refuseIf _ _) fun _ =>
      Looks.bind (looks_isDirectory _) fun _ => Looks.bind (looks_refuseIf _ _) fun _ =>
        Looks.bind (looks_isLink _) fun _ => Looks.bind (looks_refuseIf _ _) fun _ =>
          Looks.pure _

theorem looks_fileSize (path : Path) : A.Looks (fileSize path) :=
  Looks.bind (Looks.mapError (looks_readFile _ _)) fun _ => Looks.pure _

theorem looks_hashFile (path : Path) : A.Looks (hashFile path) :=
  Looks.bind (Looks.mapError (looks_readFile _ _)) fun _ => Looks.pure _

theorem looks_validateV7Database [DatabaseLibrary] (path : Path) (workspace errorContext : String) :
    A.Looks (validateV7Database path workspace errorContext) := by
  refine Looks.bind (looks_readFile _ _) fun content => Looks.bind ?_ fun _ =>
    Looks.mapError (Looks.bind (looks_readFile _ _) fun _ =>
      Looks.bind (looks_refuseIf _ _) fun _ => Looks.bind (looks_readFile _ _) fun _ =>
        looks_refuseIf _ _)
  cases (DatabaseLibrary.schemaError content workspace).map (schemaErrorCode errorContext) with
  | none => exact Looks.pure _
  | some code => exact Looks.throw _

theorem looks_requireEmptyActiveSlot (o : Operator) :
    A.Looks (requireEmptyActiveSlot o) := by
  refine Looks.bind (Looks.mapError (looks_validateStorePathsReadOnly o)) fun _ =>
    Looks.bind (looks_exists? _) fun _ => Looks.bind (looks_refuseIf _ _) fun _ =>
      Looks.forM fun _ _ => Looks.bind (looks_exists? _) fun _ => looks_refuseIf _ _

end

/-! ## What is known -/

/-- Files that are the same under these paths. -/
def Same (paths : Path → Prop) (start files : Files ByteArray) : Prop :=
  ∀ p, paths p → files.node p = start.node p

theorem about_same {A : Ambient ByteArray Failure} {paths : Path → Prop} {start : Files ByteArray}
    (hpaths : ∀ p, paths p → A.fixed p) : A.About (Same paths start) := by
  intro files files' hsame h p hp
  rw [hsame p (hpaths p hp), h p hp]

/-- What is read of a path that is the same as in the beginning. -/
theorem readFile_does {A : Ambient ByteArray Failure} {paths : Path → Prop}
    {start : Files ByteArray} {K : Files ByteArray → Prop} (hK : A.About K)
    (hsame : ∀ files, K files → Same paths start files) (path : Path) (missing : Failure) :
    A.Does K (readFile path missing)
      (fun content files => (paths path → contentOf? start path = some content) ∧ K files)
      fun _ => K := by
  refine Does.operation hK ?_ (fun _ _ h _ => h) fun _ files _ h => ⟨A.refl files, h⟩
  intro files content files' h heq
  cases hcontent : contentOf? files path with
  | none =>
      rw [hcontent] at heq
      cases heq
  | some found =>
      rw [hcontent] at heq
      obtain ⟨rfl, rfl⟩ := Prod.mk.inj (Except.ok.inj heq)
      refine ⟨A.refl _, fun hpath => ?_, h⟩
      rw [contentOf?, ← hsame _ h path hpath]
      exact hcontent

theorem readFile_content {A : Ambient ByteArray Failure} {K : Files ByteArray → Prop}
    (hK : A.About K) {path : Path} {content : ByteArray}
    (hcontent : ∀ files, K files → contentOf? files path = some content) (missing : Failure) :
    A.Does K (readFile path missing) (fun read files => read = content ∧ K files) fun _ => K := by
  refine Does.operation hK ?_ (fun _ _ h _ => h) fun _ files _ h => ⟨A.refl files, h⟩
  intro files read files' h heq
  rw [hcontent files h] at heq
  obtain ⟨rfl, rfl⟩ := Prod.mk.inj (Except.ok.inj heq)
  exact ⟨A.refl _, rfl, h⟩

theorem refuseIf_does {A : Ambient ByteArray Failure} {K : Files ByteArray → Prop}
    (condition : Bool) (code : String) :
    A.Does K (refuseIf condition code) (fun _ files => condition = false ∧ K files) fun _ => K := by
  cases condition with
  | true => exact Does.throw fun _ h => h
  | false => exact Does.pure fun _ h => ⟨rfl, h⟩

/-- The artifact has the size and the digest of the manifest. -/
theorem validateRestoreArtifactDigest_does {A : Ambient ByteArray Failure} {paths : Path → Prop}
    {start : Files ByteArray} {K : Files ByteArray → Prop} (hK : A.About K)
    (hsame : ∀ files, K files → Same paths start files) (m : SQLiteBackupManifest) (path : Path) :
    A.Does K (validateRestoreArtifactDigest m path)
      (fun _ files => (paths path → ∃ content, contentOf? start path = some content ∧
        m.databaseSize = content.size ∧
        m.databaseSha256 = ReferenceLibrary.sha256Hex content.toList) ∧ K files) fun _ => K := by
  refine Does.bind (Does.mapError (readFile_does hK hsame path .os)) fun content => ?_
  refine Does.of_prop fun hcontent => ?_
  refine Does.bind (refuseIf_does _ _) fun _ => Does.of_prop fun hsize => ?_
  refine Does.bind (Does.mapError (Does.bind (Does.mapError (readFile_does hK hsame path .os))
    fun read => Does.pure (Q := fun sha256 files => (paths path → ∃ content,
      contentOf? start path = some content ∧ sha256 = ReferenceLibrary.sha256Hex content.toList) ∧
        K files) ?_)) fun sha256 => ?_
  · rintro files ⟨hread, h⟩
    exact ⟨fun hpath => ⟨read, hread hpath, rfl⟩, h⟩
  refine Does.of_prop fun hsha256 => ?_
  refine (refuseIf_does _ _).weaken (fun _ => id) ?_ fun _ _ => id
  rintro _ files ⟨hequal, h⟩
  refine ⟨fun hpath => ?_, h⟩
  obtain ⟨read, hread, rfl⟩ := hsha256 hpath
  obtain rfl := Option.some.inj ((hcontent hpath).symm.trans hread)
  exact ⟨content, hread, by simpa using hsize, by simpa using hequal⟩

/-- A database that is known passes the checks only if it is valid. -/
theorem validateV7Database_does [DatabaseLibrary] {A : Ambient ByteArray Failure} {K : Files ByteArray → Prop}
    (hK : A.About K) {path : Path} {content : ByteArray}
    (hcontent : ∀ files, K files → contentOf? files path = some content)
    (workspace errorContext : String) : A.Does K (validateV7Database path workspace errorContext)
      (fun _ files => ValidDatabase content workspace ∧ K files) fun _ => K := by
  refine Does.bind (readFile_content hK hcontent _) fun read => Does.of_prop ?_
  rintro rfl
  refine Does.bind (R := fun _ files => DatabaseLibrary.schemaError read workspace = none ∧ K files)
    ?_ fun _ => Does.of_prop fun hschema => ?_
  · cases hschema : DatabaseLibrary.schemaError read workspace with
    | none => exact Does.pure fun _ h => ⟨rfl, h⟩
    | some code => exact Does.throw fun _ h => h
  refine Does.mapError (Does.bind (readFile_content hK hcontent _) fun read' => Does.of_prop ?_)
  rintro rfl
  refine Does.bind (refuseIf_does _ _) fun _ => Does.of_prop fun hintegral => ?_
  refine Does.bind (readFile_content hK hcontent _) fun read' => Does.of_prop ?_
  rintro rfl
  refine (refuseIf_does _ _).weaken (fun _ => id) ?_ fun _ _ => id
  rintro _ files ⟨hkeyed, h⟩
  exact ⟨⟨hschema, by simpa using hintegral, by simpa using hkeyed⟩, h⟩

/-- The members of a directory that others leave alone. -/
theorem checkMembers_does {A : Ambient ByteArray Failure} {K : Files ByteArray → Prop}
    (hK : A.About K) {path : Path} (hpath : ∀ p, path <+: p → A.fixed p)
    (unlisted unexpected other : String) :
    A.Does K (checkMembers path unlisted unexpected other)
      (fun _ files => (∀ name, files.node (path ++ [name]) ≠ none → name ∈ memberNames) ∧ K files)
      fun _ => K := by
  have hnames : A.About fun files =>
      (∀ name, files.node (path ++ [name]) ≠ none → name ∈ memberNames) ∧ K files :=
    (About.all fun name => About.node (hpath _ (List.prefix_append _ _))
      fun n => n ≠ none → name ∈ memberNames).and hK
  refine Does.bind (R := fun names files =>
    (∀ name, files.node (path ++ [name]) ≠ none → name ∈ names) ∧ K files)
    (Does.mapError (Does.operation hK ?_ (fun _ _ h _ => h)
      fun _ files _ h => ⟨A.refl files, h⟩)) fun names => ?_
  · rintro files names files' h heq
    split_ifs at heq
    obtain ⟨rfl, rfl⟩ := Prod.mk.inj (Except.ok.inj heq)
    exact ⟨A.refl _, fun name hname => Files.mem_names.mpr hname, h⟩
  refine Does.bind ((refuseIf_does _ _).weaken (fun _ => id) (fun _ _ => id) fun _ _ h => h.2)
    fun _ => Does.of_prop fun hsubset => ?_
  have hsubset : names ⊆ memberNames := by
    simp only [Bool.not_eq_false', decide_eq_true_eq] at hsubset
    exact hsubset.1
  refine ((Looks.forM fun name _ => ?_).does hnames (fun _ _ => id) fun _ _ h => h.2).weaken
    (fun files h => ⟨fun name hname => hsubset (h.1 name hname), h.2⟩) (fun _ _ => id) fun _ _ => id
  exact Looks.bind (looks_isFile _) fun _ => Looks.bind (looks_refuseIf _ _) fun _ =>
    Looks.bind (looks_isLink _) fun _ => Looks.bind (looks_refuseIf _ _) fun _ =>
      looks_refuseIf _ _

/-! ## Cleaning up -/

section
variable {A : Ambient ByteArray Failure} {K : Files ByteArray → Prop} {path : Path}

theorem isLink_does (hK : A.About K) {n : Option (Node ByteArray)}
    (hn : ∀ files, K files → files.node path = n) :
    A.Does K (isLink path) (fun link files => (link = true ↔ ∃ leads, n = some (.link leads)) ∧
      K files) fun e files => A.faults e ∧ K files := by
  refine Does.look hK (fun files h => ⟨?_, h⟩) fun _ _ hfault h => ⟨hfault, h⟩
  rw [hn files h]
  rcases n with _ | (_ | _ | _) <;> simp

theorem pathPresent_does (hK : A.About K) {n : Option (Node ByteArray)}
    (hn : ∀ files, K files → files.node path = n) :
    A.Does K (pathPresent path) (fun present files => (present = true ↔ n ≠ none) ∧ K files)
      fun e files => A.faults e ∧ K files := by
  refine Does.bind (Does.look_eq hK (a := Leads n) fun files h => by rw [hn files h])
    fun present => Does.of_prop ?_
  rintro rfl
  cases hleads : Leads n with
  | true =>
      refine Does.pure fun _ h => ⟨?_, h⟩
      rcases n with _ | _
      · cases hleads
      · simp
  | false =>
      refine (isLink_does hK hn).weaken (fun _ => id) (fun link files h => ⟨?_, h.2⟩) fun _ _ => id
      rw [h.1]
      rcases n with _ | (_ | _ | _)
      · simp
      · cases hleads
      · cases hleads
      · simp

/-- What is known is kept when a path is removed, in whole or in part. -/
structure Removable (A : Ambient ByteArray Failure) (K : Files ByteArray → Prop) (path : Path) :
    Prop where
  put : ∀ files, K files → A.allowed files (files.put path none) ∧ K (files.put path none)
  remove : ∀ files selected, K files →
    A.allowed files (files.removeTree path selected) ∧ K (files.removeTree path selected)

theorem Removable.node (h : Removable A K path) {q : Path} {P : Prop} :
    Removable A (fun files => (P → files.node q = none) ∧ K files) path where
  put files hK := by
    refine ⟨(h.put files hK.2).1, fun hP => ?_, (h.put files hK.2).2⟩
    rw [Files.put_node]
    split
    · rfl
    · exact hK.1 hP
  remove files selected hK := by
    refine ⟨(h.remove files selected hK.2).1, fun hP => ?_, (h.remove files selected hK.2).2⟩
    rw [Files.removeTree_node]
    split
    · rfl
    · exact hK.1 hP

theorem unlink_does (hos : A.faults .os) (hK : A.About K) (h : Removable A K path) :
    A.Does K (unlink path) (fun _ files => files.node path = none ∧ K files)
      fun e files => A.faults e ∧ K files := by
  refine Does.operation hK ?_ ?_ fun _ files hfault h => ⟨A.refl files, hfault, h⟩
  · rintro files _ files' hfiles heq
    split at heq
    · cases heq
    · cases heq
    · obtain ⟨-, rfl⟩ := Prod.mk.inj (Except.ok.inj heq)
      refine ⟨(h.put files hfiles).1, ?_, (h.put files hfiles).2⟩
      rw [Files.put_node, if_pos rfl]
  · rintro files e hfiles heq
    split at heq
    · obtain rfl := Except.error.inj heq
      exact ⟨hos, hfiles⟩
    · obtain rfl := Except.error.inj heq
      exact ⟨hos, hfiles⟩
    · cases heq

theorem removeDirectory_does (hos : A.faults .os) (hK : A.About K) (h : Removable A K path) :
    A.Does K (removeDirectory path) (fun _ files => files.node path = none ∧ K files)
      fun e files => A.faults e ∧ K files := by
  refine Does.operation hK ?_ ?_ fun fault files hfault hfiles =>
    ⟨(h.remove files fault.removed hfiles).1, hfault, (h.remove files fault.removed hfiles).2⟩
  · rintro files _ files' hfiles heq
    split_ifs at heq
    obtain ⟨-, rfl⟩ := Prod.mk.inj (Except.ok.inj heq)
    refine ⟨(h.remove files _ hfiles).1, ?_, (h.remove files _ hfiles).2⟩
    rw [Files.removeTree_node, if_pos ⟨List.prefix_rfl, rfl⟩]
  · rintro files e hfiles heq
    split_ifs at heq
    obtain rfl := Except.error.inj heq
    exact ⟨hos, hfiles⟩

/-- A path that is present is gone after its removal, whatever it is. -/
theorem remove_does (hos : A.faults .os) (hK : A.About K) (h : Removable A K path) :
    A.Does K (do
        let link ← isLink path
        if link then unlink path
        else do
          let directory ← isDirectory path
          if directory then removeDirectory path else unlink path)
      (fun _ files => files.node path = none ∧ K files) fun e files => A.faults e ∧ K files := by
  refine Does.bind (Does.look_keeps hK) fun link => ?_
  split
  · exact unlink_does hos hK h
  · refine Does.bind (Does.look_keeps hK) fun directory => ?_
    split
    · exact removeDirectory_does hos hK h
    · exact unlink_does hos hK h

/-- A path that others leave alone is gone when it has been cleaned up. -/
theorem cleanupPath_gone (hos : A.faults .os) (hfixed : A.fixed path) (hK : A.About K)
    (h : Removable A K path) : A.Does K (cleanupPath path)
      (fun _ files => files.node path = none ∧ K files) fun e files => A.faults e ∧ K files := by
  have hnode (n : Option (Node ByteArray)) : A.About fun files => files.node path = n ∧ K files :=
    (About.node hfixed fun m => m = n).and hK
  refine (Does.each (K := fun n files => files.node path = n ∧ K files) fun n => ?_).weaken
    (fun files hfiles => ⟨_, rfl, hfiles⟩) (fun _ _ => id) fun _ _ => id
  refine Does.bind ((pathPresent_does (hnode n) fun _ h => h.1).weaken (fun _ => id)
    (fun _ _ => id) fun _ _ h => ⟨h.1, h.2.2⟩) fun present => Does.of_prop fun hpresent => ?_
  unfold whenever
  split
  · exact (remove_does hos hK h).weaken (fun _ => And.right) (fun _ _ => id) fun _ _ => id
  · rename_i hfalse
    refine Does.pure fun files hfiles => ⟨?_, hfiles.2⟩
    rw [hfiles.1]
    by_contra hsome
    exact hfalse (hpresent.mpr hsome)

/-- The cleanup of a path that others may change keeps what is known. -/
theorem cleanupPath_keeps (hos : A.faults .os) (hK : A.About K) (h : Removable A K path) :
    A.Does K (cleanupPath path) (fun _ => K) fun e files => A.faults e ∧ K files := by
  have hpresent : A.Does K (pathPresent path) (fun _ => K) fun e files => A.faults e ∧ K files := by
    refine Does.bind (Does.look_keeps hK) fun present => ?_
    split
    · exact Does.pure fun _ => id
    · exact Does.look_keeps hK
  refine Does.bind hpresent fun present => ?_
  unfold whenever
  split
  · exact (remove_does hos hK h).weaken (fun _ => id) (fun _ _ => And.right) fun _ _ => id
  · exact Does.pure fun _ => id

theorem attempt_does {Q : Files ByteArray → Prop} (hQ : ∀ files, Q files → K files)
    (h : A.Does K (cleanupPath path) (fun _ => Q) fun e files => A.faults e ∧ K files) :
    A.Does K (attempt path) (fun clean files => (clean = true → Q files) ∧ K files)
      fun e files => A.faults e ∧ K files := by
  refine Does.tryCatch (R := fun e files => A.faults e ∧ K files)
    (Does.bind h fun _ => Does.pure fun files hfiles => ⟨fun _ => hfiles, hQ files hfiles⟩)
    fun e => ?_
  split
  · exact Does.pure fun _ hfiles => ⟨nofun, hfiles.2⟩
  · exact Does.throw fun _ => id

/-- The first candidate is gone when no cleanup of a candidate failed. -/
theorem candidates_does (hos : A.faults .os) (hfixed : A.fixed path) (hK : A.About K)
    (h : Removable A K path) {candidates : List Path}
    (hcandidates : ∀ q ∈ candidates, Removable A K q) :
    A.Does K ((path :: candidates).foldlM (fun clean candidate => do
        let removed ← attempt candidate
        pure (clean && removed)) true)
      (fun clean files => (clean = true → files.node path = none) ∧ K files)
      fun e files => A.faults e ∧ K files := by
  have hgone {P : Prop} : A.About fun files => (P → files.node path = none) ∧ K files :=
    (About.imp fun _ => About.node hfixed fun n => n = none).and hK
  have hrest (candidates : List Path) (hcandidates : ∀ q ∈ candidates, Removable A K q)
      (clean : Bool) : A.Does (fun files => (clean = true → files.node path = none) ∧ K files)
        (candidates.foldlM (fun clean candidate => do
          let removed ← attempt candidate
          pure (clean && removed)) clean)
        (fun clean files => (clean = true → files.node path = none) ∧ K files)
        fun e files => A.faults e ∧ K files := by
    induction candidates generalizing clean with
    | nil => exact Does.pure fun _ => id
    | cons q candidates ih =>
        obtain ⟨hq, hcandidates⟩ := List.forall_mem_cons.mp hcandidates
        rw [List.foldlM_cons]
        refine Does.bind (Does.bind ((attempt_does (fun _ => id) (cleanupPath_keeps hos hgone
          hq.node)).weaken (fun _ => id) (fun _ _ => And.right) fun _ _ h => ⟨h.1, h.2.2⟩)
            fun removed => Does.pure (Q := fun clean files =>
              (clean = true → files.node path = none) ∧ K files) fun files hfiles =>
                ⟨fun hclean => hfiles.1 (Bool.and_elim_left hclean), hfiles.2⟩) fun _ =>
                  ih hcandidates _
  rw [List.foldlM_cons]
  exact Does.bind (Does.bind (attempt_does (fun _ => And.right) (cleanupPath_gone hos hfixed hK
    h)) fun removed => Does.pure (Q := fun clean files =>
      (clean = true → files.node path = none) ∧ K files) fun files hfiles =>
        ⟨fun hclean => (hfiles.1 hclean).1, hfiles.2⟩) fun _ => hrest candidates hcandidates _

/-- A temporary path is gone after a cleanup in which nothing failed. -/
theorem cleanup_does (hos : A.faults .os) (hfixed : A.fixed path) (hK : A.About K)
    (h : Removable A K path) (hsidecars : ∀ q ∈ sidecarPaths path, Removable A K q) :
    A.Does K (cleanup path) (fun clean files => (clean = true → files.node path = none) ∧ K files)
      fun e files => A.faults e ∧ K files := by
  refine Does.bind (Does.look_keeps hK) fun directory => Does.bind (Does.look_keeps hK) fun link =>
    ?_
  dsimp only
  split
  · exact candidates_does hos hfixed hK h nofun
  · exact candidates_does hos hfixed hK h hsidecars

/-- The cleanup of a directory does not look for sidecars. -/
theorem cleanup_directory_does (hos : A.faults .os) (hfixed : A.fixed path) (hK : A.About K)
    (h : Removable A K path) :
    A.Does (fun files => files.node path = some .directory ∧ K files) (cleanup path)
      (fun clean files => (clean = true → files.node path = none) ∧ K files)
      fun e files => A.faults e ∧ K files := by
  have hnode : A.About fun files => files.node path = some .directory ∧ K files :=
    (About.node hfixed fun n => n = some .directory).and hK
  refine Does.bind ((Does.look_eq hnode (a := true) fun files hfiles => by rw [hfiles.1]; rfl).weaken
    (fun _ => id) (fun _ _ => id) fun _ _ h => ⟨h.1, h.2.2⟩) fun directory => Does.of_prop ?_
  rintro rfl
  refine Does.bind ((Does.look_eq hnode (a := false) fun files hfiles => by rw [hfiles.1]; rfl).weaken
    (fun _ => id) (fun _ _ => id) fun _ _ h => ⟨h.1, h.2.2⟩) fun link => Does.of_prop ?_
  rintro rfl
  exact (candidates_does hos hfixed hK h (List.forall_mem_nil _)).weaken (fun _ => And.right) (fun _ _ => id)
    fun _ _ => id

/-- The error of a run with a temporary path says whether the path is gone. -/
theorem withCleanup_does {α : Type} {Q : α → Files ByteArray → Prop}
    {I K' : Files ByteArray → Prop} {x : Maintenance α} {E : Failure → Files ByteArray → Prop}
    (hx : A.Does I x Q fun _ => K') (hcleanup : A.Does K' (cleanup path)
      (fun clean files => (clean = true → files.node path = none) ∧ K files)
      fun e files => A.faults e ∧ K files)
    (hfault : ∀ e files, A.faults e → K files → E e files)
    (hother : ∀ e files, (∀ code flag, e ≠ .maintenance code flag) → K' files → E e files)
    (hE : ∀ code flag files, (flag = false → files.node path = none) → K files →
      E (.maintenance code flag) files) :
    A.Does I (withCleanup path x) Q E := by
  refine Does.tryCatch hx fun e => ?_
  split
  · rename_i code flag
    refine Does.bind (hcleanup.weaken (fun _ => id) (fun _ _ => id)
      fun e files h => hfault e files h.1 h.2) fun clean => Does.throw ?_
    intro files hfiles
    refine hE _ _ files (fun hflag => hfiles.1 ?_) hfiles.2
    simpa using (Bool.or_eq_false_iff.mp hflag).2
  · rename_i hne
    exact Does.throw fun files hfiles => hother e files (fun code flag heq => hne code flag heq)
      hfiles

end

/-! ## A sample operator -/

/-- Every content is a valid database, and is copied as it is. -/
@[reducible] def sampleDatabases : DatabaseLibrary where
  schemaError _ _ := none
  integral _ := true
  keyed _ := true
  copied := id

def sampleOperator (root : String) : Operator where
  root := [root]
  workspaceIdentity := "acme/widgets"
  releaseId := some "r1"
  windows := true
  ignored _ := true
  tracked _ := false
  tokens := ["a1"]
  now := ⟨2026, 1, 1, 0, 0, 0, 0⟩

def sampleDestination : Path := ["backups", "monday"]

/-- A checkout with a database, an empty checkout and a directory for backups. -/
def sampleFiles : Files ByteArray :=
  ((((Files.empty.put ["srv"] (some .directory)).put ["srv", ".delivery-system"]
    (some .directory)).put ["srv", ".delivery-system", "state.sqlite3"]
      (some (.file ByteArray.empty))).put ["new"] (some .directory)).put ["backups"]
        (some .directory)

/-- The system fails once, and a tree that is being removed is left where it is. -/
def sampleMoments : List (Moment ByteArray Failure) :=
  [⟨id, none⟩, ⟨id, some ⟨.os, none, fun _ => false⟩⟩]

end DeliverySystem.MaintenanceRules

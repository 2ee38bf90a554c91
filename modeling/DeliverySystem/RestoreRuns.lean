import DeliverySystem.MaintenanceRules

/-!
# Runs of a restore

Whatever others do to the files and wherever the system fails, a restore touches
nothing but its staging database, the directory of the state and the state
itself, and the state only by putting a verified database into an empty slot.
-/
namespace DeliverySystem.RestoreRuns
open FallibleRuns SharedFiles Ambient AuditRecords PythonValues BackupManifests SqliteMaintenance
  MaintenanceRules
set_option autoImplicit false

/-! ## The paths of a restore -/

/-- The staging databases with their sidecars, and what is below them. -/
def Family (o : Operator) (p : Path) : Prop :=
  ∃ rest, stateParent o ++ [".delivery-system-state-" ++ rest] <+: p

def Staged (o : Operator) (p : Path) : Prop :=
  ∃ token ∈ o.tokens, stagingAt (stateParent o) token = p

theorem staged_family {o : Operator} {p : Path} (h : Staged o p) : Family o p := by
  obtain ⟨token, -, rfl⟩ := h
  refine ⟨token ++ ".sqlite3", ?_⟩
  rw [stagingAt, String.append_assoc]

theorem sidecar_family {o : Operator} {p q : Path} (h : Staged o p) (hq : q ∈ sidecarPaths p) :
    Family o q := by
  obtain ⟨token, -, rfl⟩ := h
  obtain ⟨suffix, -, rfl⟩ := List.mem_map.mp hq
  refine ⟨token ++ ".sqlite3" ++ "-" ++ suffix, ?_⟩
  simp [stagingAt, String.append_assoc]

theorem Family.below {o : Operator} {p q : Path} (h : Family o p) (hq : p <+: q) : Family o q := by
  obtain ⟨rest, hrest⟩ := h
  exact ⟨rest, hrest.trans hq⟩

theorem not_family_parent (o : Operator) : ¬Family o (stateParent o) := by
  rintro ⟨rest, hprefix⟩
  have hlength := hprefix.length_le
  simp at hlength

theorem not_family_state (o : Operator) : ¬Family o (statePath o) := by
  rintro ⟨rest, hprefix⟩
  rw [statePath, List.prefix_append_right_inj, List.prefix_cons_iff] at hprefix
  obtain hnil | ⟨_, hcons, -⟩ := hprefix
  · cases hnil
  · have hhead := congrArg (fun name : String => name.toList.head?) (List.cons.inj hcons).1
    simp [databaseFilename] at hhead

section
variable [DatabaseLibrary] {o : Operator} {spared : Path → Prop}

/-- What a restore does to the files in one step. -/
structure RestoreStep (o : Operator) (before after : Files ByteArray) : Prop where
  others : ∀ p, ¬Family o p → ¬statePath o <+: p → p ≠ stateParent o →
    after.node p = before.node p
  parent : after.node (stateParent o) = before.node (stateParent o) ∨
    before.node (stateParent o) = none ∧ after.node (stateParent o) = some .directory
  state : after.node (statePath o) = before.node (statePath o) ∨
    before.node (statePath o) = none ∧ ∃ content, after.node (statePath o) = some (.file content) ∧
      ValidDatabase content o.workspaceIdentity

theorem RestoreStep.ofFamily {before after : Files ByteArray}
    (h : ∀ p, ¬Family o p → after.node p = before.node p) : RestoreStep o before after where
  others p hp _ _ := h p hp
  parent := .inl (h _ (not_family_parent o))
  state := .inl (h _ (not_family_state o))

/-- Others leave the staging databases alone, and the paths that are spared. -/
def restoreAmbient (o : Operator) (spared : Path → Prop) : Ambient ByteArray Failure where
  fixed p := Staged o p ∨ spared p
  faults e := e = .os ∨ ∃ operational busy, e = .sqlite operational busy
  allowed := RestoreStep o
  refl _ := .ofFamily fun _ _ => rfl

/-! ## The steps of a restore -/

/-- The paths that a restore relies upon: its staging databases, and the bundle if it is spared. -/
def Watched (o : Operator) (spared : Path → Prop) (source p : Path) : Prop :=
  Staged o p ∨ spared p ∧ (p = source ++ ["manifest.json"] ∨ p = source ++ [databaseFilename])

omit [DatabaseLibrary] in
theorem staged_ne_parent {p : Path} (h : Staged o p) : p ≠ stateParent o := by
  rintro rfl
  exact not_family_parent o (staged_family h)

omit [DatabaseLibrary] in
theorem state_not_above {p : Path} (h : Staged o p) : ¬statePath o <+: p := by
  obtain ⟨token, -, rfl⟩ := h
  intro hprefix
  rw [statePath, stagingAt, List.prefix_append_right_inj, List.prefix_cons_iff] at hprefix
  obtain hnil | ⟨_, hcons, -⟩ := hprefix
  · cases hnil
  · have hhead := congrArg (fun name : String => name.toList.head?) (List.cons.inj hcons).1
    simp [databaseFilename] at hhead

omit [DatabaseLibrary] in
theorem staged_ne_member {p source : Path} {name : String} (h : Staged o p)
    (hname : name ∈ memberNames) : p ≠ source ++ [name] := by
  obtain ⟨token, -, rfl⟩ := h
  intro heq
  have hlast := congrArg (fun q : Path => (q.getLastD "").toList.head?) heq
  simp only [memberNames, databaseFilename, List.mem_cons, List.not_mem_nil, or_false] at hname
  rcases hname with rfl | rfl <;> simp [stagingAt] at hlast

omit [DatabaseLibrary] in
theorem member_ne_parent {source : Path} {name : String} (hname : name ∈ memberNames) :
    source ++ [name] ≠ stateParent o := by
  intro heq
  have hlast := congrArg (fun q : Path => q.getLastD "") heq
  simp only [memberNames, databaseFilename, List.mem_cons, List.not_mem_nil, or_false] at hname
  rcases hname with rfl | rfl <;> simp [stateParent] at hlast

omit [DatabaseLibrary] in
theorem Watched.ne_parent {source p : Path} (h : Watched o spared source p) :
    p ≠ stateParent o := by
  rcases h with h | ⟨-, rfl | rfl⟩
  · exact staged_ne_parent h
  · exact member_ne_parent (by decide)
  · exact member_ne_parent (by decide)

variable {start : Files ByteArray} {source : Path}

/-- The state directory is there, and was made if it was not. -/
theorem ensureRestoreParent_does :
    (restoreAmbient o spared).Does (Same (Watched o spared source) start) (ensureRestoreParent o)
      (fun parent files => parent = stateParent o ∧ Same (Watched o spared source) start files)
      fun _ => Same (Watched o spared source) start := by
  have hK : (restoreAmbient o spared).About (Same (Watched o spared source) start) :=
    about_same fun p hp => hp.imp id And.left
  have hmake : (restoreAmbient o spared).Does (Same (Watched o spared source) start)
      (makeDirectory (stateParent o)) (fun _ => Same (Watched o spared source) start)
      fun _ => Same (Watched o spared source) start := by
    refine Does.operation hK ?_ (fun _ _ h _ => h)
      fun _ files _ h => ⟨(restoreAmbient o spared).refl files, h⟩
    intro files _ files' h heq
    split_ifs at heq with hfree
    obtain ⟨-, rfl⟩ := Prod.mk.inj (Except.ok.inj heq)
    refine ⟨⟨fun p _ _ hp => ?_, .inr ⟨hfree.1, ?_⟩, .inl ?_⟩, fun p hp => ?_⟩
    · rw [Files.put_node, if_neg hp]
    · rw [Files.put_node, if_pos rfl]
    · rw [Files.put_node, if_neg (by simp [statePath])]
    · rw [Files.put_node, if_neg hp.ne_parent, h p hp]
  refine Looks.next (looks_exists? _) hK (fun _ _ => id) fun present => ?_
  refine Does.bind (R := fun _ => Same (Watched o spared source) start) ?_ fun _ => ?_
  · unfold whenever
    split
    · exact Does.mapError hmake
    · exact Does.pure fun _ => id
  refine Does.bind (Looks.does (Looks.mapError ?_) hK (fun _ _ => id) fun _ _ => id) fun _ =>
    Does.pure fun _ h => ⟨rfl, h⟩
  exact Looks.bind (looks_validateStorePathsReadOnly o) fun _ =>
    Looks.bind (looks_isDirectory _) fun _ => Looks.bind (looks_refuseIf _ _) fun _ =>
      Looks.bind (looks_isLink _) fun _ => Looks.bind (looks_refuseIf _ _) fun _ =>
        Looks.bind (looks_exists? _) fun _ => Looks.bind (looks_throwIf _ _) fun _ =>
          looks_refuseIf _ _

/-- An error after which nothing is left of the staging database. -/
def Clean (e : Failure) : Prop :=
  ∃ code, e = .maintenance code false ∧ code ≠ "sqlite_maintenance_restore_staging_failed"

/-- The other paths that a restore relies upon. -/
def Beside (o : Operator) (staging p : Path) : Prop := Staged o p ∧ p ≠ staging

/-- A change of a staging database alone. -/
theorem RestoreStep.put {files : Files ByteArray} {staging : Path} (h : Staged o staging)
    (n : Option (Node ByteArray)) : RestoreStep o files (files.put staging n) := by
  refine .ofFamily fun p hp => ?_
  rw [Files.put_node, if_neg]
  rintro rfl
  exact hp (staged_family h)

/-- A staging database is made under a name that was free. -/
theorem temporaryDatabase_does :
    (restoreAmbient o spared).Does (Same (Watched o spared source) start)
      (temporaryDatabase o (stateParent o) "sqlite_maintenance_restore_staging_failed")
      (fun staging files => (Staged o staging ∧ start.node staging = none) ∧
        (∃ content, files.node staging = some (.file content)) ∧
          Same (fun p => Watched o spared source p ∧ p ≠ staging) start files)
      fun e files => Clean e → Same (Watched o spared source) start files := by
  have hK : (restoreAmbient o spared).About (Same (Watched o spared source) start) :=
    about_same fun p hp => hp.imp id And.left
  have hclean {e : Failure} (he : (restoreAmbient o spared).faults e) :
      ¬Clean (osError "sqlite_maintenance_restore_staging_failed" e) := by
    rcases he with rfl | ⟨operational, busy, rfl⟩
    · rintro ⟨code, heq, hne⟩
      exact hne (Failure.maintenance.inj heq).1.symm
    · rintro ⟨code, heq, -⟩
      cases heq
  refine Does.mapError (Does.bind (R := fun staging files =>
    (Staged o staging ∧ start.node staging = none) ∧
      (∃ content, files.node staging = some (.file content)) ∧
        Same (fun p => Watched o spared source p ∧ p ≠ staging) start files) ?_ fun staging => ?_)
  · refine Does.operation hK ?_ (fun _ _ h _ _ => h)
      fun _ files _ h => ⟨(restoreAmbient o spared).refl files, fun _ => h⟩
    intro files staging files' h heq
    split_ifs at heq
    cases hfound : (o.tokens.map (stagingAt (stateParent o))).find?
        fun path => (files.node path).isNone with
    | none =>
        rw [hfound] at heq
        cases heq
    | some path =>
        rw [hfound] at heq
        obtain ⟨rfl, rfl⟩ := Prod.mk.inj (Except.ok.inj heq)
        have hstaged : Staged o path := List.mem_map.mp (List.mem_of_find?_eq_some hfound)
        have hfree : files.node path = none := by
          simpa using List.find?_some hfound
        refine ⟨.put hstaged _, ⟨hstaged, ?_⟩, ⟨ByteArray.empty, ?_⟩, fun p hp => ?_⟩
        · rw [← h path (.inl hstaged), hfree]
        · rw [Files.put_node, if_pos rfl]
        · rw [Files.put_node, if_neg hp.2, h p hp.1]
  · refine Does.of_prop fun hstaged => ?_
    have hafter : (restoreAmbient o spared).About fun files =>
        (∃ content, files.node staging = some (.file content)) ∧
          Same (fun p => Watched o spared source p ∧ p ≠ staging) start files :=
      (About.node (show (restoreAmbient o spared).fixed staging from .inl hstaged.1)
        fun n => ∃ content, n = some (.file content)).and
        (about_same fun p hp => hp.1.imp id And.left)
    exact Does.bind (Does.look hafter (Q := fun _ files =>
      (∃ content, files.node staging = some (.file content)) ∧
        Same (fun p => Watched o spared source p ∧ p ≠ staging) start files) (fun _ => id)
      fun _ _ hfault _ h => absurd h (hclean hfault)) fun _ => Does.pure fun _ h => ⟨hstaged, h⟩

/-- The content comes from the artifact as it was in the beginning. -/
def FromArtifact (spared : Path → Prop) (source : Path) (start : Files ByteArray)
    (content : ByteArray) : Prop :=
  spared (source ++ [databaseFilename]) → ∃ original,
    contentOf? start (source ++ [databaseFilename]) = some original ∧
      content = DatabaseLibrary.copied original

/-- What an activated state holds. -/
def Activated (o : Operator) (spared : Path → Prop) (source : Path)
    (start files : Files ByteArray) : Prop :=
  ∃ content, ValidDatabase content o.workspaceIdentity ∧ FromArtifact spared source start content ∧
    (spared (statePath o) → files.node (statePath o) = some (.file content))

/-- The publication puts a verified database into an empty slot. -/
theorem publish_does {staging : Path} (hstaged : Staged o staging) {content : ByteArray}
    (hvalid : ValidDatabase content o.workspaceIdentity) {existsCode failureCode : String} :
    (restoreAmbient o spared).Does
      (fun files => files.node staging = some (.file content) ∧ Same (Beside o staging) start files)
      (publish o staging (statePath o) existsCode failureCode)
      (fun _ files => (spared (statePath o) → files.node (statePath o) = some (.file content)) ∧
        Same (Beside o staging) start files)
      fun _ => Same (Beside o staging) start := by
  have hK : (restoreAmbient o spared).About fun files =>
      files.node staging = some (.file content) ∧ Same (Beside o staging) start files :=
    (About.node (show (restoreAmbient o spared).fixed staging from .inl hstaged)
      fun n => n = some (.file content)).and (about_same fun p hp => .inl hp.1)
  refine Does.mapError (Looks.next (looks_refuseIf _ _) hK (fun _ _ h => h.2) fun _ =>
    Looks.next (looks_throwIf _ _) hK (fun _ _ h => h.2) fun _ => ?_)
  refine Does.operation hK ?_ (fun _ _ h _ => h.2)
    fun _ files _ h => ⟨(restoreAmbient o spared).refl files, h.2⟩
  rintro files _ files' ⟨hcontent, hsame⟩ heq
  split_ifs at heq with hfree
  obtain ⟨-, rfl⟩ := Prod.mk.inj (Except.ok.inj heq)
  have hstate : (files.move staging (statePath o)).node (statePath o) = some (.file content) := by
    have hmoved := files.move_node_target staging (statePath o) []
    rw [List.append_nil, List.append_nil] at hmoved
    rw [hmoved, hcontent]
  have hother {p : Path} (hp : ¬statePath o <+: p) (hp' : ¬staging <+: p) :
      (files.move staging (statePath o)).node p = files.node p := files.move_node_other hp hp'
  refine ⟨⟨fun p hp hp' _ => hother hp' fun hbelow => hp ((staged_family hstaged).below hbelow),
    .inl (hother ?_ ?_), .inr ⟨not_not.mp hfree, content, hstate, hvalid⟩⟩, fun _ => hstate,
    fun p hp => ?_⟩
  · intro hprefix
    have hlength := hprefix.length_le
    simp [statePath] at hlength
  · intro hprefix
    exact not_family_parent o ((staged_family hstaged).below hprefix)
  · rw [hother (state_not_above hp.1) fun hprefix => hp.2 ?_, hsame p hp]
    obtain ⟨⟨token, -, rfl⟩, -⟩ := hp
    obtain ⟨token', -, rfl⟩ := hstaged
    refine (List.IsPrefix.eq_of_length hprefix ?_).symm
    simp [stagingAt]

/-- A staging database that is filled, verified and published, or left for the cleanup. -/
theorem activate_does {staging : Path} (hstaged : Staged o staging) :
    (restoreAmbient o spared).Does
      (fun files => (∃ content, files.node staging = some (.file content)) ∧
        Same (fun p => Watched o spared source p ∧ p ≠ staging) start files)
      (activate o (source ++ [databaseFilename]) staging)
      (fun path files => path = statePath o ∧ Activated o spared source start files)
      fun _ => Same (Beside o staging) start := by
  have hfixed : (restoreAmbient o spared).fixed staging := .inl hstaged
  have hbeside {files : Files ByteArray}
      (h : Same (fun p => Watched o spared source p ∧ p ≠ staging) start files) :
      Same (Beside o staging) start files := fun p hp => h p ⟨.inl hp.1, hp.2⟩
  have hK : (restoreAmbient o spared).About fun files =>
      (∃ content, files.node staging = some (.file content)) ∧
        Same (fun p => Watched o spared source p ∧ p ≠ staging) start files :=
    (About.node hfixed fun n => ∃ content, n = some (.file content)).and
      (about_same fun p hp => hp.1.imp id And.left)
  have hfilled (content : ByteArray) : (restoreAmbient o spared).About fun files =>
      files.node staging = some (.file content) ∧ Same (Beside o staging) start files :=
    (About.node hfixed fun n => n = some (.file content)).and (about_same fun p hp => .inl hp.1)
  have hopened : (restoreAmbient o spared).Does (fun files =>
      (∃ content, files.node staging = some (.file content)) ∧
        Same (fun p => Watched o spared source p ∧ p ≠ staging) start files)
      (openWritableMaintenanceConnection staging) (fun _ files =>
        (∃ content, files.node staging = some (.file content)) ∧
          Same (fun p => Watched o spared source p ∧ p ≠ staging) start files)
      fun _ => Same (Beside o staging) start := by
    refine Does.operation hK ?_ (fun _ _ h _ => hbeside h.2) ?_
    · rintro files _ files' ⟨⟨content, hcontent⟩, h⟩ heq
      rw [hcontent] at heq
      obtain ⟨-, rfl⟩ := Prod.mk.inj (Except.ok.inj heq)
      exact ⟨(restoreAmbient o spared).refl _, ⟨content, hcontent⟩, h⟩
    · rintro fault files - ⟨⟨content, hcontent⟩, h⟩
      rw [if_neg (by simp [hcontent])]
      exact ⟨(restoreAmbient o spared).refl _, hbeside h⟩
  have hcopied : (restoreAmbient o spared).Does (fun files =>
      (∃ content, files.node staging = some (.file content)) ∧
        Same (fun p => Watched o spared source p ∧ p ≠ staging) start files)
      (backupInto (source ++ [databaseFilename]) staging) (fun _ files => ∃ content,
        FromArtifact spared source start content ∧ files.node staging = some (.file content) ∧
          Same (Beside o staging) start files)
      fun _ => Same (Beside o staging) start := by
    have hput {files : Files ByteArray} (n : Option (Node ByteArray))
        (h : Same (fun p => Watched o spared source p ∧ p ≠ staging) start files) :
        Same (Beside o staging) start (files.put staging n) := by
      intro p hp
      rw [Files.put_node, if_neg hp.2, hbeside h p hp]
    refine Does.operation hK ?_ (fun _ _ h _ => hbeside h.2) ?_
    · rintro files _ files' ⟨-, h⟩ heq
      cases hcontent : contentOf? files (source ++ [databaseFilename]) with
      | none =>
          rw [hcontent] at heq
          cases heq
      | some original =>
          rw [hcontent] at heq
          obtain ⟨-, rfl⟩ := Prod.mk.inj (Except.ok.inj heq)
          refine ⟨.put hstaged _, DatabaseLibrary.copied original, fun hspared =>
            ⟨original, ?_, rfl⟩, ?_, hput _ h⟩
          · rw [contentOf?, ← h _ ⟨.inr ⟨hspared, .inr rfl⟩,
              (staged_ne_member hstaged (by decide)).symm⟩]
            exact hcontent
          · rw [Files.put_node, if_pos rfl]
    · rintro fault files - ⟨-, h⟩
      cases fault.left with
      | none => exact ⟨(restoreAmbient o spared).refl _, hbeside h⟩
      | some content => exact ⟨.put hstaged _, hput _ h⟩
  refine Does.bind (Does.mapError (Does.bind hopened fun _ => hcopied)) fun _ =>
    Does.each fun content => Does.of_prop fun hfrom => ?_
  have hread (files : Files ByteArray) (h : files.node staging = some (.file content) ∧
      Same (Beside o staging) start files) : contentOf? files staging = some content := by
    rw [contentOf?, h.1]
    rfl
  refine Does.bind (Does.mapError (Looks.next (Looks.bind (looks_readFile _ _) fun _ =>
    Looks.pure _) (hfilled content) (fun _ _ h => h.2) fun _ =>
      (validateV7Database_does (hfilled content) hread _ _).weaken (fun _ => id) (fun _ _ => id)
        fun _ _ h => h.2)) fun _ => Does.of_prop fun hvalid => ?_
  refine Looks.next (looks_requireEmptyActiveSlot o) (hfilled content) (fun _ _ h => h.2) fun _ =>
    Looks.next (looks_requireNoSqliteSidecars _ _) (hfilled content) (fun _ _ h => h.2) fun _ =>
      Does.bind (publish_does hstaged hvalid) fun _ => ?_
  have hpublished : (restoreAmbient o spared).About fun files =>
      (spared (statePath o) → files.node (statePath o) = some (.file content)) ∧
        Same (Beside o staging) start files :=
    (About.imp fun hspared => About.node (show (restoreAmbient o spared).fixed _ from
      .inr hspared) fun n => n = some (.file content)).and (about_same fun p hp => .inl hp.1)
  exact Looks.next (looks_requireNoSqliteSidecars _ _) hpublished (fun _ _ h => h.2) fun _ =>
    Does.pure fun files h => ⟨rfl, content, hvalid, hfrom, h.1⟩

/-! ## The restore -/

omit [DatabaseLibrary] in
theorem sidecar_not_above {p q staging : Path} (hp : Staged o p) (hstaged : Staged o staging)
    (hq : q ∈ sidecarPaths staging) : ¬q <+: p := by
  obtain ⟨token, -, rfl⟩ := hp
  obtain ⟨token', -, rfl⟩ := hstaged
  obtain ⟨suffix, hsuffix, rfl⟩ := List.mem_map.mp hq
  intro hprefix
  have heq := hprefix.eq_of_length (by simp [stagingAt])
  -- a sidecar does not end in the digit of `sqlite3`
  have hlast := congrArg (fun p : Path => (p.getLastD "").toList.reverse.head?) heq
  simp only [activeSidecarSuffixes, List.mem_cons, List.not_mem_nil, or_false] at hsuffix
  rcases hsuffix with rfl | rfl | rfl <;> simp [stagingAt] at hlast

/-- The staging databases that are not cleaned up are kept. -/
theorem removable_family {staging q : Path} (hq : Family o q)
    (hbeside : ∀ p, Beside o staging p → ¬q <+: p) :
    Removable (restoreAmbient o spared) (Same (Beside o staging) start) q where
  put files h := by
    refine ⟨.ofFamily fun p hp => ?_, fun p hp => ?_⟩
    · rw [Files.put_node, if_neg]
      rintro rfl
      exact hp hq
    · rw [Files.put_node, if_neg, h p hp]
      rintro rfl
      exact hbeside p hp List.prefix_rfl
  remove files selected h := by
    refine ⟨.ofFamily fun p hp => ?_, fun p hp => ?_⟩
    · rw [Files.removeTree_node, if_neg fun habove => hp (hq.below habove.1)]
    · rw [Files.removeTree_node, if_neg fun habove => hbeside p hp habove.1, h p hp]

/-- What a restore does with its staging database, and the cleanup of it. -/
theorem staged_does {staging : Path} (hstaged : Staged o staging)
    (hfree : start.node staging = none) :
    (restoreAmbient o spared).Does
      (fun files => (∃ content, files.node staging = some (.file content)) ∧
        Same (fun p => Watched o spared source p ∧ p ≠ staging) start files)
      (withCleanup staging (activate o (source ++ [databaseFilename]) staging))
      (fun path files => path = statePath o ∧ Activated o spared source start files)
      fun e files => Clean e → Same (Staged o) start files := by
  refine withCleanup_does (activate_does hstaged) (cleanup_does (A := restoreAmbient o spared)
    (.inl rfl) (.inl hstaged) (about_same fun p hp => .inl hp.1) (removable_family (staged_family hstaged) ?_)
    fun q hq => removable_family (sidecar_family hstaged hq)
      fun p hp => sidecar_not_above hp.1 hstaged hq) ?_ ?_ ?_
  · rintro p ⟨hp, hne⟩ hprefix
    obtain ⟨token, -, rfl⟩ := hp
    obtain ⟨token', -, rfl⟩ := hstaged
    exact hne (List.IsPrefix.eq_of_length hprefix (by simp [stagingAt])).symm
  · rintro e files (rfl | ⟨_, _, rfl⟩) - ⟨code, heq, -⟩
    · cases heq
    · cases heq
  · rintro e files hne - ⟨code, rfl, -⟩
    exact absurd rfl (hne code false)
  · rintro code flag files hgone hsame ⟨code', heq, -⟩ p hp
    by_cases hpath : p = staging
    · rw [hpath, hfree]
      exact hgone (Failure.maintenance.inj heq).2
    · exact hsame p ⟨hp, hpath⟩

section
variable [DatetimeLibrary] [PythonLibrary] [DecimalLibrary]

/-- The content is the database of a bundle for this release and workspace, which has the size
and the digest that the manifest of the bundle gives. -/
def FromBundle (o : Operator) (source : Path) (start : Files ByteArray) (content : ByteArray) :
    Prop :=
  ∃ payload manifest original,
    contentOf? start (source ++ ["manifest.json"]) = some payload ∧
    payload.size ≤ maxManifestBytes ∧ readManifest o payload = .ok manifest ∧
    contentOf? start (source ++ [databaseFilename]) = some original ∧
    manifest.databaseSize = original.size ∧
    manifest.databaseSha256 = ReferenceLibrary.sha256Hex original.toList ∧
    content = DatabaseLibrary.copied original

theorem restore_does :
    (restoreAmbient o spared).Does (Same (Watched o spared source) start) (restore o source)
      (fun path files => path = statePath o ∧ ∃ content, ValidDatabase content o.workspaceIdentity ∧
        (spared (statePath o) → files.node (statePath o) = some (.file content)) ∧
        (spared (source ++ ["manifest.json"]) → spared (source ++ [databaseFilename]) →
          FromBundle o source start content))
      fun e files => Clean e → Same (Staged o) start files := by
  have hK : (restoreAmbient o spared).About (Same (Watched o spared source) start) :=
    about_same fun p hp => hp.imp id And.left
  have hkept (e : Failure) (files : Files ByteArray)
      (h : Same (Watched o spared source) start files) : Clean e → Same (Staged o) start files :=
    fun _ p hp => h p (.inl hp)
  have hsource : (restoreAmbient o spared).Does (Same (Watched o spared source) start)
      (resolveBundleSource source)
      (fun resolved files => resolved = source ∧ Same (Watched o spared source) start files)
      fun _ => Same (Watched o spared source) start := by
    refine Does.bind (R := fun resolved files =>
      resolved = source ∧ Same (Watched o spared source) start files) ?_ fun resolved =>
        Does.of_prop ?_
    · exact Does.bind (Looks.does (Looks.mapError (Looks.forM fun _ _ => Looks.bind
        (looks_exists? _) fun _ => looks_whenever (Looks.bind (looks_isLink _) fun _ =>
          looks_refuseIf _ _))) hK (fun _ _ => id) fun _ _ => id) fun _ =>
            Does.pure fun _ h => ⟨rfl, h⟩
    · rintro rfl
      exact Looks.next (looks_exists? _) hK (fun _ _ => id) fun _ =>
        Looks.next (looks_refuseIf _ _) hK (fun _ _ => id) fun _ =>
        Looks.next (looks_isDirectory _) hK (fun _ _ => id) fun _ =>
        Looks.next (looks_refuseIf _ _) hK (fun _ _ => id) fun _ =>
        Looks.next (looks_isLink _) hK (fun _ _ => id) fun _ =>
        Looks.next (looks_refuseIf _ _) hK (fun _ _ => id) fun _ => Does.pure fun _ h => ⟨rfl, h⟩
  have hmembers : (restoreAmbient o spared).Does (Same (Watched o spared source) start)
      (bundleMembers source) (fun members files =>
        members = (source ++ ["manifest.json"], source ++ [databaseFilename]) ∧
          Same (Watched o spared source) start files)
      fun _ => Same (Watched o spared source) start :=
    Looks.next (looks_checkMembers _ _ _ _) hK (fun _ _ => id) fun _ => Does.pure fun _ h =>
      ⟨rfl, h⟩
  refine Looks.next (looks_requireEmptyActiveSlot o) hK hkept fun _ =>
    Does.bind (hsource.weaken (fun _ => id) (fun _ _ => id) hkept) fun resolved => Does.of_prop ?_
  rintro rfl
  refine Does.bind (hmembers.weaken (fun _ => id) (fun _ _ => id) hkept) fun members =>
    Does.of_prop ?_
  rintro rfl
  dsimp only
  refine Does.bind (R := fun payload files =>
    (Watched o spared resolved (resolved ++ ["manifest.json"]) →
      contentOf? start (resolved ++ ["manifest.json"]) = some payload ∧
        payload.size ≤ maxManifestBytes) ∧
      Same (Watched o spared resolved) start files) ?_ fun payload => Does.of_prop fun hpayload => ?_
  · refine ((Does.mapError (readFile_does hK (fun _ => id) _ _)).bind fun payload =>
      Does.of_prop fun hcontent => (refuseIf_does _ _).bind fun _ => Does.of_prop fun hsize =>
        Does.pure fun files h => ⟨fun hpath => ⟨hcontent hpath, ?_⟩, h⟩).weaken (fun _ => id)
          (fun _ _ => id) hkept
    simpa using hsize
  refine Does.bind (R := fun manifest files => readManifest o payload = .ok manifest ∧
    Same (Watched o spared resolved) start files)
    (Does.ofExcept (fun _ _ h hsame => ⟨h, hsame⟩) fun e files _ => hkept e files) fun manifest =>
      Does.of_prop fun hmanifest => ?_
  have hchecked : (restoreAmbient o spared).Looks
      (checkArtifact manifest (resolved ++ [databaseFilename])) := by
    refine Looks.tryCatch (Looks.bind (looks_fileSize _) fun _ => Looks.bind (looks_refuseIf _ _)
      fun _ => Looks.bind (looks_hashFile _) fun _ => looks_refuseIf _ _) fun e => ?_
    split
    · exact Looks.bind (looks_fileSize _) fun _ => Looks.bind (looks_refuseIf _ _) fun _ =>
        Looks.throw _
    · exact Looks.throw _
  refine Looks.next hchecked hK hkept fun _ => Looks.next (Looks.mapError
    (Looks.bind (looks_readFile _ _) fun _ => Looks.pure _)) hK hkept fun _ =>
      Looks.next (looks_bundleMembers _) hK hkept fun members =>
        Looks.next (looks_refuseIf _ _) hK hkept fun _ => ?_
  refine Does.bind ((validateRestoreArtifactDigest_does hK (fun _ => id) _ _).weaken (fun _ => id)
    (fun _ _ => id) hkept) fun _ => Does.of_prop fun hdigest => ?_
  refine Looks.next (looks_validateV7Database _ _ _) hK hkept fun _ =>
    Does.bind (ensureRestoreParent_does.weaken (fun _ => id) (fun _ _ => id) hkept) fun parent =>
      Does.of_prop ?_
  rintro rfl
  refine Does.bind (temporaryDatabase_does.weaken (fun _ => id) (fun _ _ => id)
    fun e files h hclean p hp => h hclean p (.inl hp)) fun staging => Does.of_prop fun hstaged =>
      (staged_does hstaged.1 hstaged.2).weaken (fun _ => id) ?_ fun _ _ => id
  rintro path files ⟨rfl, content, hvalid, hfrom, hstate⟩
  refine ⟨rfl, content, hvalid, hstate, fun hmanifestSpared hspared => ?_⟩
  obtain ⟨hread, hsize⟩ := hpayload (.inr ⟨hmanifestSpared, .inl rfl⟩)
  obtain ⟨original, horiginal, hdatabase, hsha256⟩ := hdigest (.inr ⟨hspared, .inr rfl⟩)
  obtain ⟨original', horiginal', rfl⟩ := hfrom hspared
  obtain rfl := Option.some.inj (horiginal.symm.trans horiginal')
  exact ⟨payload, manifest, original, hread, hsize, hmanifest, horiginal, hdatabase, hsha256, rfl⟩

end

end

end DeliverySystem.RestoreRuns

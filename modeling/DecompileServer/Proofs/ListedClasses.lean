import DecompileServer.Proofs.ArchiveClasses

/-!
# Listed classes can be read

An archive lists a class by the name of an entry, and the class is read from the directory to which
all entries have been extracted. Whatever comes after the entry, its file stays a file, since an entry
that would have it otherwise cannot be extracted; so the class can be read (`listed_class_is_read`).
-/
namespace DecompileServer

variable {settings : SearchSettings} {host made after : Host} {archive : Path}

namespace Archive

variable {destination path : Path} {entry : Entry} {entries : List Entry}

/-- A file stays a file when entries are extracted. -/
theorem keeps_isFile_extractEntries (entries : List Entry) :
    Effect.Keeps (·.isFile path = true) (extractEntries destination entries) := by
  induction entries with
  | nil => exact Effect.Keeps.pure _
  | cons entry rest ih => exact Effect.Keeps.bind (keeps_isFile_extractEntry entry) fun _ => ih

/-- Every entry that is to be a file is one when all entries have been extracted. -/
theorem isFile_of_extractEntries (file : entry.extractsDirectory = false) (member : entry ∈ entries)
    (extracted : (extractEntries destination entries).run host = (.ok (), after)) :
    after.isFile (destination.join entry.name) = true := by
  induction entries generalizing host with
  | nil => cases member
  | cons first rest ih =>
    obtain ⟨_, middle, head, others⟩ := Effect.run_bind_eq_ok.mp extracted
    obtain rfl | later := List.mem_cons.mp member
    · have kept : ((extractEntries destination rest).run middle).2.isFile
          (destination.join entry.name) = true :=
        keeps_isFile_extractEntries rest middle (isFile_of_extractEntry file head)
      rwa [others] at kept
    · exact ih later others

/-- A class that is listed can be read when the archive has been extracted. -/
theorem exists_readClass {names : List String} {name : ClassName} {workspace : Workspace}
    (listed : classEntries host archive = .ok names) (member : name.filePath ∈ names)
    (unchanged : load made archive = load host archive)
    (extracted : (extractAll archive workspace.path).run made = (.ok (), after)) :
    ∃ bytes, readClass after (workspace.fileOf name) = .ok bytes := by
  obtain ⟨stored, loaded, listed⟩ := Effect.except_bind_eq_ok.mp listed
  obtain ⟨entry, inside, named, file⟩ :=
    exists_of_mem_classNamesOf (Effect.except_mapError_eq_ok.mp listed) member
  obtain ⟨again, middle, observed, rest⟩ := Effect.run_bind_eq_ok.mp extracted
  obtain ⟨looked, rfl⟩ := Effect.run_observe_eq_ok.mp observed
  obtain rfl : again = stored := Except.ok.inj (looked.symm.trans (unchanged.trans loaded))
  have filed := isFile_of_extractEntries file inside (Effect.run_adapt_eq_ok.mp rest)
  rw [named] at filed
  obtain ⟨bytes, looked⟩ := Host.isFile_iff_exists_read.mp filed
  exact ⟨bytes, Effect.except_mapError_eq_ok.mpr looked⟩

/-- An archive that can be opened fails to be extracted for no other reason than extraction. -/
theorem exists_cause_of_extractAll {stored : Contents} {failure : Failure}
    (loaded : load made archive = .ok stored)
    (failed : (extractAll archive path).run made = (.error failure, after)) :
    ∃ cause, failure = .extraction archive cause := by
  obtain opened | ⟨_, middle, -, rest⟩ := Effect.run_bind_eq_error.mp failed
  · rw [Effect.run_observe, loaded] at opened
    cases opened
  · rw [Effect.run_adapt] at rest
    obtain ⟨fault, -, rfl⟩ := Effect.except_mapError_eq_error.mp (congrArg Prod.fst rest)
    exact ⟨_, rfl⟩

end Archive

/-- Whether a failure is that a file is missing or cannot be read. -/
def Failure.IsOfReading (failure : Failure) : Prop :=
  ∃ path, failure = .fileNotFound path ∨ failure = .unreadable path

/-- A workspace cannot be made for no other reason than extraction. -/
theorem Workspace.exists_cause_of_create {root : Option Path} {failure : Failure}
    (failed : (create root archive).run host = (.error failure, after)) :
    ∃ cause, failure = .extraction archive cause := by
  obtain none | ⟨known, middle, -, rest⟩ := Effect.run_bind_eq_error.mp failed
  · cases none
  · obtain failed | ⟨path, last, -, none⟩ := Effect.run_bind_eq_error.mp rest
    · rw [Effect.run_adapt] at failed
      obtain ⟨⟨fault, path⟩, -, rfl⟩ := Effect.except_mapError_eq_error.mp (congrArg Prod.fst failed)
      exact ⟨_, rfl⟩
    · cases none

namespace SearchSettings

variable {className : Option String} {failure : Failure}

/-- The wanted class of an archive whose listed classes can be read fails over its name only. -/
theorem not_isOfReading_of_primaryOf {entries : List String} {workspace : Workspace}
    {wanted : String} (readable : ∀ name : ClassName, name.filePath ∈ entries →
      ∃ bytes, readClass host (workspace.fileOf name) = .ok bytes)
    (failed : primaryOf host archive entries workspace wanted = .error failure) :
    ¬failure.IsOfReading := by
  obtain refused | ⟨name, -, failed⟩ := Effect.except_bind_eq_error.mp failed
  · obtain ⟨_, -, rfl⟩ := Effect.except_mapError_eq_error.mp refused
    simp [Failure.IsOfReading]
  · dsimp only at failed
    split at failed
    · cases failed
      simp [Failure.IsOfReading]
    · rename_i known
      obtain ⟨bytes, read⟩ := readable name (by simpa using known)
      obtain unread | ⟨_, -, none⟩ := Effect.except_bind_eq_error.mp failed
      · rw [read] at unread
        cases unread
      · cases none

/-- A new workspace leaves an archive that is listed as it is. -/
theorem load_of_create {root : Option Path} {entries : List String} {workspace : Workspace}
    (closed : host.tree.IsClosed) (listed : Archive.classEntries host archive = .ok entries)
    (created : (Workspace.create root archive).run host = (.ok workspace, made)) :
    ∃ stored, Archive.load host archive = .ok stored ∧ Archive.load made archive = .ok stored := by
  obtain ⟨stored, loaded, -⟩ := Effect.except_bind_eq_ok.mp listed
  obtain ⟨base, site, rfl⟩ := Workspace.site_of_create closed created
  exact ⟨stored, loaded, Archive.load_eq site site.furnished_put.toConfined loaded⟩

/-- A search in an archive that ends over reading a file has failed to open the archive. -/
theorem classEntries_of_archiveSearch (closed : host.tree.IsClosed)
    (search : ArchiveSearch settings host archive className (.error failure) after)
    (reading : failure.IsOfReading) : Archive.classEntries host archive = .error failure := by
  cases search with
  | unlisted _ _ _ refused => exact refused
  | unnamed _ refused =>
    rw [eq_of_wantedName_error refused] at reading
    simp [Failure.IsOfReading] at reading
  | empty => simp [Failure.IsOfReading] at reading
  | unmade _ _ _ _ _ refused =>
    obtain ⟨_, rfl⟩ := Workspace.exists_cause_of_create refused
    simp [Failure.IsOfReading] at reading
  | cutOff _ _ _ _ _ _ lists created failed =>
    obtain ⟨_, _, opened⟩ := load_of_create closed lists.listed created
    obtain ⟨_, rfl⟩ := Archive.exists_cause_of_extractAll opened failed
    simp [Failure.IsOfReading] at reading
  | unread _ _ _ _ _ _ lists created extracted failed =>
    obtain ⟨_, loaded, opened⟩ := load_of_create closed lists.listed created
    refine absurd reading (not_isOfReading_of_primaryOf (fun name member => ?_) failed)
    exact Archive.exists_readClass lists.listed member (opened.trans loaded.symm) extracted

/-- A search in an archive that fails over reading a file has failed to open the archive. -/
theorem classEntries_of_isOfReading (closed : host.tree.IsClosed)
    (failed : (settings.findInArchive archive className).run host = (.error failure, after))
    (reading : failure.IsOfReading) : Archive.classEntries host archive = .error failure := by
  have search := settings.archiveSearch host archive className
  rw [failed] at search
  exact classEntries_of_archiveSearch closed search reading

/-- A class that an archive lists can be read back. If the archive is extracted to a workspace, and is
still what it was when it was listed, the class is read from there, whatever else the archive holds.
So a search in the archive that fails over a file that is missing or cannot be read has not come as far
as the workspace: the archive itself cannot be opened. -/
theorem listed_class_is_read (settings : SearchSettings) (host : Host) (archive : Path) :
    (∀ (names : List String) (name : ClassName), Archive.classEntries host archive = .ok names →
      name.filePath ∈ names → ∀ (workspace : Workspace) (made after : Host),
        Archive.load made archive = Archive.load host archive →
        (Archive.extractAll archive workspace.path).run made = (.ok (), after) →
        ∃ bytes, readClass after (workspace.fileOf name) = .ok bytes) ∧
      (host.tree.IsClosed → ∀ className failure after,
        (settings.findInArchive archive className).run host = (.error failure, after) →
        ∀ path, failure = .fileNotFound path ∨ failure = .unreadable path →
          Archive.classEntries host archive = .error failure) :=
  ⟨fun _ _ listed member _ _ _ unchanged extracted =>
      Archive.exists_readClass listed member unchanged extracted,
    fun closed _ _ _ failed path reading =>
      classEntries_of_isOfReading closed failed ⟨path, reading⟩⟩

/-- A class whose file has an alias in an archive. -/
def aliasedClass : ClassName := ⟨"A", by decide⟩

/-- A workspace for the archive. -/
def aliasedWorkspace : Workspace := ⟨⟨"/tmp/javadc-jar-000000"⟩⟩

/-- The machine of the archive with the workspace, which is empty. -/
def openedHost : Host :=
  { aliasedHost with tree := aliasedHost.tree.put ["tmp", "javadc-jar-000000"] .directory }

set_option maxRecDepth 100000 in
/-- The theorem on an archive in which a later entry writes over the file of the class, and on one
that does not exist. -/
theorem listed_class_is_read_aliased : aliasedHost.tree.IsClosed ∧
    (∃ names after, Archive.classEntries aliasedHost ⟨"/x.jar"⟩ = .ok names ∧
      aliasedClass.filePath ∈ names ∧
      Archive.load openedHost ⟨"/x.jar"⟩ = Archive.load aliasedHost ⟨"/x.jar"⟩ ∧
      (Archive.extractAll ⟨"/x.jar"⟩ aliasedWorkspace.path).run openedHost = (.ok (), after) ∧
      ∃ bytes, readClass after (aliasedWorkspace.fileOf aliasedClass) = .ok bytes) ∧
    ∃ after, (findInArchive {} ⟨"/y.jar"⟩ (some "A")).run aliasedHost =
        (.error (.fileNotFound ⟨"/y.jar"⟩), after) ∧
      Archive.classEntries aliasedHost ⟨"/y.jar"⟩ = .error (.fileNotFound ⟨"/y.jar"⟩) := by
  have closed : aliasedHost.tree.IsClosed := by decide
  obtain ⟨reads, -⟩ := listed_class_is_read {} aliasedHost ⟨"/x.jar"⟩
  obtain ⟨-, fails⟩ := listed_class_is_read {} aliasedHost ⟨"/y.jar"⟩
  have listed : Archive.classEntries aliasedHost ⟨"/x.jar"⟩ =
      .ok ["A.class", "./A.class", "./B.class"] := by decide +kernel
  have member : aliasedClass.filePath ∈ ["A.class", "./A.class", "./B.class"] := by decide
  have node : openedHost.nodeAt ⟨"/x.jar"⟩ = aliasedHost.nodeAt ⟨"/x.jar"⟩ := by decide +kernel
  have unchanged : Archive.load openedHost ⟨"/x.jar"⟩ = Archive.load aliasedHost ⟨"/x.jar"⟩ := by
    rw [Archive.load, node, Archive.load]
  have finished : ((Archive.extractAll ⟨"/x.jar"⟩ aliasedWorkspace.path).run openedHost).1 =
      .ok () := by decide +kernel
  have missing : ((findInArchive {} ⟨"/y.jar"⟩ (some "A")).run aliasedHost).1 =
      .error (.fileNotFound ⟨"/y.jar"⟩) := by decide +kernel
  rcases extracted : (Archive.extractAll ⟨"/x.jar"⟩ aliasedWorkspace.path).run openedHost
    with ⟨result, after⟩
  rw [extracted] at finished
  obtain rfl := finished
  rcases searched : (findInArchive {} ⟨"/y.jar"⟩ (some "A")).run aliasedHost with ⟨result, left⟩
  rw [searched] at missing
  obtain rfl := missing
  have readable := reads _ aliasedClass listed member aliasedWorkspace openedHost after unchanged
    extracted
  exact ⟨closed, ⟨_, after, listed, member, unchanged, rfl, readable⟩, left, rfl,
    fails closed _ _ _ searched _ (.inl rfl)⟩

end SearchSettings

end DecompileServer

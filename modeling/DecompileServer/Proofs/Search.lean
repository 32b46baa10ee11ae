import DecompileServer.Proofs.Workspace
import DecompileServer.Target

/-!
# What searches find

What it takes for a class to be found, one law for each way to look for it, and the ways in which a
search in an archive ends (`archiveSearch`). Only the last of them leaves the workspace that it has
made.
-/
namespace DecompileServer

variable {settings : SearchSettings} {host after : Host} {path archive : Path} {located : Located}

/-- A class file is read exactly if the disk gives its content. -/
theorem readClass_eq_ok_iff {bytes : List UInt8} :
    readClass host path = .ok bytes ↔ host.read path = .ok bytes :=
  Effect.except_mapError_eq_ok

namespace SearchSettings

/-- A class is found by the path of its file exactly if this is no archive, can be read and gets a
name. -/
theorem findFile_eq_ok_iff :
    settings.findFile host path = .ok located ↔
      path.isArchive = false ∧ ∃ name bytes, host.read path = .ok bytes ∧
        settings.inference.infer path bytes = .ok name ∧ located = ⟨name, bytes, none⟩ := by
  unfold findFile
  constructor
  · intro found
    split at found
    · cases found
    · rename_i other
      obtain ⟨bytes, read, found⟩ := Effect.except_bind_eq_ok.mp found
      obtain ⟨name, named, found⟩ := Effect.except_bind_eq_ok.mp found
      exact ⟨by simpa using other, name, bytes, readClass_eq_ok_iff.mp read,
        Effect.except_mapError_eq_ok.mp named, (Except.ok.inj found).symm⟩
  · rintro ⟨other, name, bytes, read, named, rfl⟩
    rw [other, if_neg (by decide)]
    exact Effect.except_bind_eq_ok.mpr ⟨bytes, readClass_eq_ok_iff.mpr read,
      Effect.except_bind_eq_ok.mpr ⟨name, Effect.except_mapError_eq_ok.mpr named, rfl⟩⟩

/-- A class is found on a classpath exactly if its name is one and the first file that it has there
can be read. -/
theorem findOnClasspath_eq_ok_iff {text : String} {classpath : List Path} :
    settings.findOnClasspath host text classpath = .ok located ↔
      ∃ name path bytes, ClassName.ofDotted text = .ok name ∧
        firstFile? host name (settings.searchRoots host classpath) = some path ∧
        host.read path = .ok bytes ∧ located = ⟨name, bytes, none⟩ := by
  unfold findOnClasspath
  constructor
  · intro found
    obtain ⟨name, named, found⟩ := Effect.except_bind_eq_ok.mp found
    dsimp only at found
    split at found
    · cases found
    · rename_i path first
      obtain ⟨bytes, read, found⟩ := Effect.except_bind_eq_ok.mp found
      exact ⟨name, path, bytes, Effect.except_mapError_eq_ok.mp named, first,
        readClass_eq_ok_iff.mp read, (Except.ok.inj found).symm⟩
  · rintro ⟨name, path, bytes, named, first, read, rfl⟩
    refine Effect.except_bind_eq_ok.mpr ⟨name, Effect.except_mapError_eq_ok.mpr named, ?_⟩
    dsimp only
    rw [first]
    exact Effect.except_bind_eq_ok.mpr ⟨bytes, readClass_eq_ok_iff.mpr read, rfl⟩

section InArchives

variable {className : Option String} {wanted : String} {entries : List String}
  {workspace : Workspace}

/-- The wanted name is the one that was given, without white space around it, if that leaves
something. -/
theorem wantedName_eq_ok_iff :
    wantedName className = .ok wanted ↔
      ∃ asked, className = some asked ∧ wanted = Text.trim asked ∧ wanted ≠ "" := by
  cases className with
  | none => simp [wantedName]
  | some asked =>
    rw [wantedName, Option.map_some]
    dsimp only
    by_cases blank : Text.trim asked = ""
    · rw [if_pos blank]
      constructor
      · rintro ⟨⟩
      · rintro ⟨_, ⟨⟩, rfl, filled⟩
        exact absurd blank filled
    · rw [if_neg blank]
      constructor
      · rintro ⟨⟩
        exact ⟨asked, rfl, rfl, blank⟩
      · rintro ⟨_, ⟨⟩, rfl, _⟩
        rfl

/-- A name that is wanted is missing, if it is refused. -/
theorem eq_of_wantedName_error {failure : Failure}
    (refused : wantedName className = .error failure) :
    failure = .missingParameter "className" := by
  unfold wantedName at refused
  split at refused
  · cases refused
    rfl
  · split at refused
    · cases refused
      rfl
    · cases refused

/-- The wanted class is read from a workspace exactly if its name is listed and its file is there. -/
theorem primaryOf_eq_ok_iff :
    primaryOf host archive entries workspace wanted = .ok located ↔
      ∃ name bytes, ClassName.ofDotted wanted = .ok name ∧ name.filePath ∈ entries ∧
        host.read (workspace.fileOf name) = .ok bytes ∧ located = ⟨name, bytes, some workspace⟩ := by
  unfold primaryOf
  constructor
  · intro found
    obtain ⟨name, read, found⟩ := Effect.except_bind_eq_ok.mp found
    dsimp only at found
    split at found
    · cases found
    · rename_i known
      obtain ⟨bytes, looked, found⟩ := Effect.except_bind_eq_ok.mp found
      exact ⟨name, bytes, Effect.except_mapError_eq_ok.mp read, by simpa using known,
        readClass_eq_ok_iff.mp looked, (Except.ok.inj found).symm⟩
  · rintro ⟨name, bytes, read, known, looked, rfl⟩
    refine Effect.except_bind_eq_ok.mpr ⟨name, Effect.except_mapError_eq_ok.mpr read, ?_⟩
    dsimp only
    rw [if_neg (by simpa using known)]
    exact Effect.except_bind_eq_ok.mpr ⟨bytes, readClass_eq_ok_iff.mpr looked, rfl⟩

/-- A class that is read from a workspace comes with it. -/
theorem workspace_of_primaryOf
    (found : primaryOf host archive entries workspace wanted = .ok located) :
    located.workspace = some workspace := by
  obtain ⟨name, bytes, -, -, -, rfl⟩ := primaryOf_eq_ok_iff.mp found
  rfl

/-- Whether a class is wanted and an archive can be listed and holds some. -/
structure Lists (host : Host) (archive : Path) (className : Option String) (wanted : String)
    (entries : List String) : Prop where
  /-- The name of the wanted class is given. -/
  named : wantedName className = .ok wanted
  /-- The archive can be listed. -/
  listed : Archive.classEntries host archive = .ok entries
  /-- There are some classes. -/
  filled : entries.isEmpty = false

/-- How a search in an archive ends, and what it leaves. -/
inductive ArchiveSearch (settings : SearchSettings) (host : Host) (archive : Path)
    (className : Option String) : Except Failure Located → Host → Prop where
  /-- No class is wanted. -/
  | unnamed (failure : Failure) (refused : wantedName className = .error failure) :
      ArchiveSearch settings host archive className (.error failure) host
  /-- The archive cannot be listed. -/
  | unlisted (wanted : String) (failure : Failure) (named : wantedName className = .ok wanted)
      (refused : Archive.classEntries host archive = .error failure) :
      ArchiveSearch settings host archive className (.error failure) host
  /-- The archive holds no class. -/
  | empty (wanted : String) (entries : List String) (named : wantedName className = .ok wanted)
      (listed : Archive.classEntries host archive = .ok entries) (bare : entries.isEmpty = true) :
      ArchiveSearch settings host archive className (.error (.emptyArchive archive)) host
  /-- No workspace can be made. -/
  | unmade (wanted : String) (entries : List String) (failure : Failure) (after : Host)
      (lists : Lists host archive className wanted entries)
      (refused : (Workspace.create settings.workspaceRoot archive).run host =
        (.error failure, after)) :
      ArchiveSearch settings host archive className (.error failure) after
  /-- The archive cannot be extracted. -/
  | cutOff (wanted : String) (entries : List String) (workspace : Workspace) (made : Host)
      (failure : Failure) (left : Host) (lists : Lists host archive className wanted entries)
      (created : (Workspace.create settings.workspaceRoot archive).run host = (.ok workspace, made))
      (failed : (Archive.extractAll archive workspace.path).run made = (.error failure, left)) :
      ArchiveSearch settings host archive className (.error failure)
        (left.removeAll workspace.path)
  /-- The wanted class cannot be read. -/
  | unread (wanted : String) (entries : List String) (workspace : Workspace) (made : Host)
      (failure : Failure) (left : Host) (lists : Lists host archive className wanted entries)
      (created : (Workspace.create settings.workspaceRoot archive).run host = (.ok workspace, made))
      (extracted : (Archive.extractAll archive workspace.path).run made = (.ok (), left))
      (failed : primaryOf left archive entries workspace wanted = .error failure) :
      ArchiveSearch settings host archive className (.error failure)
        (left.removeAll workspace.path)
  /-- The wanted class is found. -/
  | found (wanted : String) (entries : List String) (workspace : Workspace) (made : Host)
      (located : Located) (after : Host) (lists : Lists host archive className wanted entries)
      (created : (Workspace.create settings.workspaceRoot archive).run host = (.ok workspace, made))
      (extracted : (Archive.extractAll archive workspace.path).run made = (.ok (), after))
      (primary : primaryOf after archive entries workspace wanted = .ok located) :
      ArchiveSearch settings host archive className (.ok located) after

/-- Every search in an archive ends in one of these ways. -/
theorem archiveSearch (settings : SearchSettings) (host : Host) (archive : Path)
    (className : Option String) :
    ArchiveSearch settings host archive className
      ((settings.findInArchive archive className).run host).1
      ((settings.findInArchive archive className).run host).2 := by
  unfold findInArchive
  cases named : wantedName className with
  | error failure =>
    rw [Effect.run_bind_of_error Effect.run_lift]
    exact .unnamed failure named
  | ok wanted =>
    rw [Effect.run_bind_of_ok Effect.run_lift]
    cases listed : Archive.classEntries host archive with
    | error failure =>
      rw [Effect.run_bind_of_error (by rw [Effect.run_observe, listed])]
      exact .unlisted wanted failure named listed
    | ok entries =>
      rw [Effect.run_bind_of_ok (Effect.run_observe_eq_ok.mpr ⟨listed, rfl⟩)]
      split
      · rename_i bare
        exact .empty wanted entries named listed bare
      · rename_i some
        have lists : Lists host archive className wanted entries :=
          ⟨named, listed, by simpa using some⟩
        rcases created : (Workspace.create settings.workspaceRoot archive).run host
          with ⟨failure | workspace, made⟩
        · rw [Effect.run_bind_of_error created]
          exact .unmade wanted entries failure made lists created
        · rw [Effect.run_bind_of_ok created]
          rcases extracted : (Archive.extractAll archive workspace.path).run made
            with ⟨failure | ⟨⟩, left⟩
          · rw [Workspace.run_guarding_of_error (Effect.run_bind_of_error extracted)]
            exact .cutOff wanted entries workspace made failure left lists created extracted
          · cases primary : primaryOf left archive entries workspace wanted with
            | error failure =>
              rw [Workspace.run_guarding_of_error
                (by rw [Effect.run_bind_of_ok extracted, Effect.run_observe, primary])]
              exact .unread wanted entries workspace made failure left lists created extracted
                primary
            | ok located =>
              rw [Workspace.run_guarding_of_ok
                (by rw [Effect.run_bind_of_ok extracted, Effect.run_observe, primary])]
              exact .found wanted entries workspace made located left lists created extracted
                primary

/-- A class is found in an archive exactly if the archive lists some, can be extracted to a new
workspace, and the wanted class is read from that. -/
theorem findInArchive_eq_ok_iff :
    (settings.findInArchive archive className).run host = (.ok located, after) ↔
      ∃ wanted entries workspace made, Lists host archive className wanted entries ∧
        (Workspace.create settings.workspaceRoot archive).run host = (.ok workspace, made) ∧
        (Archive.extractAll archive workspace.path).run made = (.ok (), after) ∧
        primaryOf after archive entries workspace wanted = .ok located := by
  constructor
  · intro ran
    have search := settings.archiveSearch host archive className
    rw [ran] at search
    cases search with
    | found wanted entries workspace made _ _ lists created extracted primary =>
      exact ⟨wanted, entries, workspace, made, lists, created, extracted, primary⟩
  · rintro ⟨wanted, entries, workspace, made, lists, created, extracted, primary⟩
    rw [findInArchive, lists.named, Effect.run_bind_of_ok Effect.run_lift,
      Effect.run_bind_of_ok (Effect.run_observe_eq_ok.mpr ⟨lists.listed, rfl⟩), lists.filled,
      if_neg (by decide), Effect.run_bind_of_ok created]
    refine Workspace.run_guarding_of_ok ?_
    rw [Effect.run_bind_of_ok extracted]
    exact Effect.run_observe_eq_ok.mpr ⟨primary, rfl⟩

end InArchives

end SearchSettings

end DecompileServer

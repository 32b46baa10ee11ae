import DecompileServer.Proofs.Agreement
import Mathlib.Data.List.Find

/-!
# No name escapes its root

Whatever text a client sends or a class file holds, it names a class only if it is segments with
single slashes between them. So the path of the class file leads from a directory down to a file
strictly below it, and no two names share a path or need the file of the other for a directory.
Hence a search on a classpath, a look into a workspace and the staging of a class reach nothing but
such files (`LooksOnlyAt`, `Host.Within`), and an engine is told nothing else (`Answer`).
-/
namespace DecompileServer

open Disk (Location)
open Host (Site Furnished Within)

/-- Whether a text is segments with single slashes between them, each of them some letters and
digits of ASCII, underscores and dollar signs. -/
def IsSegmented (text : String) : Prop :=
  ∃ segments : List String, segments ≠ [] ∧
    (∀ segment ∈ segments, segment ≠ "" ∧ ∀ character ∈ segment.toList,
      character.isAlphanum = true ∨ character = '_' ∨ character = '$') ∧
    text = "/".intercalate segments

/-- Whether the file of a class with the given content lies below the directory that a path leads
to, at the location that the packages and the simple name of the class make up. -/
def StoredBelow (host : Host) (root : Path) (name : ClassName) (bytes : List UInt8) : Prop :=
  ∃ base executable, host.LeadsTo root base ∧
    host.tree.find? (base ++ name.packages ++ [name.simpleName ++ ".class"]) =
      some (.file bytes executable)

/-- Whether what a look at a host gives depends on nothing stored but what the given paths lead to.
-/
def LooksOnlyAt {α : Type} (host : Host) (paths : Path → Prop) (look : Host → α) : Prop :=
  ∀ tree, (∀ path, paths path → Host.nodeAt { host with tree } path = host.nodeAt path) →
    look { host with tree } = look host

/-- What an engine may be told of a class when it has been given a primary class and a workspace. -/
inductive Answer (host : Host) (workspace : Path) (primary : ClassName) (bytes : List UInt8) :
    String → Option (List UInt8) → Prop where
  /-- The bytes of the primary class. -/
  | primary : Answer host workspace primary bytes primary.text (some bytes)
  /-- A class file of the workspace. -/
  | stored (name : ClassName) (content : List UInt8)
      (found : StoredBelow host workspace name content) :
      Answer host workspace primary bytes name.text (some content)
  /-- No bytes, for a core class. -/
  | core (rest : String) : Answer host workspace primary bytes ("java/lang/" ++ rest) (some [])
  /-- Nothing. -/
  | unknown (asked : String) : Answer host workspace primary bytes asked none

namespace ClassName

/-- A text is read as a name exactly if it is segments with slashes between them. -/
theorem exists_ofText_iff {text : String} :
    (∃ name, ofText text = .ok name) ↔ IsSegmented text := by
  simp only [exists_ofText_eq_ok, isClassName_iff_exists, IsSegmented, IsSegment,
    isSegmentCharacter_iff]

/-- A path through the file of a class leads to the file of the same class only. -/
theorem eq_of_prefix_components {root : Path} {name other : ClassName}
    (inside : (root.join name.filePath).components <+: (root.join other.filePath).components) :
    name = other := by
  have whole := inside
  rw [components_join_filePath, components_join_filePath, List.append_assoc, List.append_assoc,
    List.prefix_append_right_inj] at inside
  obtain same | shorter := List.prefix_concat_iff.mp inside
  · -- Both paths are the same, so their steps are.
    have steps : (root.join name.filePath).components = (root.join other.filePath).components := by
      rw [components_join_filePath, components_join_filePath, List.append_assoc, same,
        List.append_assoc]
    rw [Path.components_join name.isAbsolute_filePath name.moves_filePath,
      Path.components_join other.isAbsolute_filePath other.moves_filePath,
      List.append_right_inj] at steps
    have texts := congrArg (List.map Path.Component.text) steps
    simp only [List.map_map, Function.comp_def, Path.text_componentOf, List.map_id'] at texts
    exact eq_of_steps_filePath texts
  · -- The file would be a package, but it has a dot in its name.
    have member : Path.Component.name (name.simpleName ++ ".class") ∈ other.packages.map .name :=
      shorter.subset (List.mem_append_right _ List.mem_cons_self)
    obtain ⟨package, found, same⟩ := List.mem_map.mp member
    obtain rfl := Path.Component.name.inj same
    refine absurd ?_ (isSegment_of_mem_packages found).dot_notMem
    rw [String.toList_append]
    exact List.mem_append_right _ (by decide)

/-- The file name of a class is a step that leads down. -/
theorem isStep_file (name : ClassName) :
    ∀ step ∈ name.packages ++ [name.simpleName ++ ".class"], Path.IsStep step ∧ step ≠ ".." := by
  intro step member
  rw [← steps_filePath] at member
  exact ⟨Path.isStep_of_mem_steps member, notUp_of_mem_steps member⟩

end ClassName

section Reading

variable {host : Host} {root : Path} {name : ClassName} {bytes : List UInt8}

/-- What is read along the path of a class file lies below the directory. -/
theorem storedBelow_of_read (looked : host.read (root.join name.filePath) = .ok bytes) :
    StoredBelow host root name bytes := by
  obtain ⟨location, executable, led, found⟩ := Host.read_eq_ok_iff.mp looked
  obtain ⟨base, leads, rfl⟩ := ClassName.leadsTo_of_locate led
  rw [name.steps_filePath, ← List.append_assoc] at found
  exact ⟨base, executable, leads, found⟩

/-- Reading looks at its path only. -/
theorem read_eq_of_nodeAt {other : Host} {path : Path} (same : other.nodeAt path = host.nodeAt path) :
    other.read path = host.read path := by
  rw [Host.read, same, Host.read]

/-- Reading a class file looks at its path only. -/
theorem readClass_eq_of_nodeAt {other : Host} {path : Path}
    (same : other.nodeAt path = host.nodeAt path) : readClass other path = readClass host path := by
  rw [readClass, read_eq_of_nodeAt same, readClass]

end Reading

section Searching

variable {settings : SearchSettings} {host : Host} {name : String} {classpath : List Path}
  {workspace : Workspace} {archive : Path} {entries : List String} {wanted : String}

/-- The first class file that is found is in one of the directories. -/
theorem mem_of_firstFile? {className : ClassName} {roots : List Path} {path : Path}
    (found : SearchSettings.firstFile? host className roots = some path) :
    ∃ root ∈ roots, path = root.join className.filePath := by
  obtain ⟨root, member, same⟩ := List.mem_map.mp (List.mem_of_find?_eq_some found)
  exact ⟨root, member, same.symm⟩

/-- A class that is found on a classpath lies below one of the directories. -/
theorem storedBelow_of_findOnClasspath {located : Located}
    (found : settings.findOnClasspath host name classpath = .ok located) :
    ClassName.ofDotted name = .ok located.name ∧
      ∃ root ∈ settings.searchRoots host classpath,
        StoredBelow host root located.name located.bytes := by
  obtain ⟨className, path, bytes, named, first, looked, rfl⟩ :=
    SearchSettings.findOnClasspath_eq_ok_iff.mp found
  obtain ⟨root, member, rfl⟩ := mem_of_firstFile? first
  exact ⟨named, root, member, storedBelow_of_read looked⟩

/-- A search on a classpath looks at the files that the name has in the directories. -/
theorem looksOnlyAt_findOnClasspath (settings : SearchSettings) (host : Host) (name : String)
    (classpath : List Path) :
    LooksOnlyAt host
      (fun path => ∃ className, ClassName.ofDotted name = .ok className ∧
        ∃ root ∈ settings.searchRoots host classpath, path = root.join className.filePath)
      (fun host => settings.findOnClasspath host name classpath) := by
  intro tree same
  unfold SearchSettings.findOnClasspath
  cases named : ClassName.ofDotted name with
  | error refused => rfl
  | ok className =>
    have each : ∀ root ∈ settings.searchRoots host classpath,
        Host.nodeAt { host with tree } (root.join className.filePath) =
          host.nodeAt (root.join className.filePath) :=
      fun root member => same _ ⟨className, named, root, member, rfl⟩
    have first : SearchSettings.firstFile? { host with tree } className
        (settings.searchRoots host classpath) =
          SearchSettings.firstFile? host className (settings.searchRoots host classpath) := by
      refine List.find?_congr fun path member => ?_
      obtain ⟨root, inside, rfl⟩ := List.mem_map.mp member
      rw [Host.isFile, each root inside, Host.isFile]
    have roots : settings.searchRoots { host with tree } classpath =
        settings.searchRoots host classpath := rfl
    simp only [Except.mapError, bind, Except.bind, roots, first]
    cases found : SearchSettings.firstFile? host className
        (settings.searchRoots host classpath) with
    | none => rfl
    | some path =>
      obtain ⟨root, member, rfl⟩ := mem_of_firstFile? found
      simp only [readClass_eq_of_nodeAt (each root member)]

/-- What a lookup in a workspace gives is a class file below it. -/
theorem storedBelow_of_lookup {asked : String} {bytes : List UInt8}
    (found : workspace.lookup host asked = some bytes) :
    ∃ name : ClassName, asked = name.text ∧ StoredBelow host workspace.path name bytes := by
  unfold Workspace.lookup at found
  split at found
  · rename_i name named
    refine ⟨name, ClassName.ofText_eq_ok_iff.mp named, storedBelow_of_read ?_⟩
    cases looked : host.read (workspace.fileOf name) with
    | error fault =>
      rw [looked] at found
      cases found
    | ok content =>
      rw [looked] at found
      exact looked.trans (congrArg Except.ok (Option.some.inj found))
  · cases found

/-- A lookup in a workspace looks at the file that the name has there. -/
theorem looksOnlyAt_lookup (workspace : Workspace) (host : Host) (asked : String) :
    LooksOnlyAt host
      (fun path => ∃ name : ClassName, asked = name.text ∧
        path = workspace.path.join name.filePath)
      (fun host => workspace.lookup host asked) := by
  intro tree same
  unfold Workspace.lookup
  cases named : ClassName.ofText asked with
  | error refused => rfl
  | ok name =>
    have there := same _ ⟨name, ClassName.ofText_eq_ok_iff.mp named, rfl⟩
    exact congrArg Except.toOption (read_eq_of_nodeAt there)

/-- The class that is read from a workspace is the wanted one and lies below the workspace. -/
theorem storedBelow_of_primaryOf {located : Located}
    (found : SearchSettings.primaryOf host archive entries workspace wanted = .ok located) :
    ClassName.ofDotted wanted = .ok located.name ∧
      StoredBelow host workspace.path located.name located.bytes := by
  obtain ⟨name, bytes, named, -, looked, rfl⟩ := SearchSettings.primaryOf_eq_ok_iff.mp found
  exact ⟨named, storedBelow_of_read looked⟩

/-- Reading the wanted class from a workspace looks at the file that the name has there. -/
theorem looksOnlyAt_primaryOf (host : Host) (archive : Path) (entries : List String)
    (workspace : Workspace) (wanted : String) :
    LooksOnlyAt host
      (fun path => ∃ name, ClassName.ofDotted wanted = .ok name ∧
        path = workspace.path.join name.filePath)
      (fun host => SearchSettings.primaryOf host archive entries workspace wanted) := by
  intro tree same
  unfold SearchSettings.primaryOf
  cases named : ClassName.ofDotted wanted with
  | error refused => rfl
  | ok name =>
    have there := same _ ⟨name, named, rfl⟩
    simp only [Except.mapError, bind, Except.bind, Workspace.fileOf, readClass_eq_of_nodeAt there]

/-- A class that is found in an archive was read from a workspace, under the name that was given. -/
theorem primaryOf_of_findInArchive {className : Option String} {located : Located} {after : Host}
    (found : (settings.findInArchive archive className).run host = (.ok located, after)) :
    ∃ asked entries workspace, className = some asked ∧
      SearchSettings.primaryOf after archive entries workspace (Text.trim asked) =
        .ok located := by
  obtain ⟨wanted, entries, workspace, _, lists, -, -, primary⟩ :=
    SearchSettings.findInArchive_eq_ok_iff.mp found
  obtain ⟨asked, rfl, rfl, -⟩ := SearchSettings.wantedName_eq_ok_iff.mp lists.named
  exact ⟨asked, entries, workspace, rfl, primary⟩

end Searching

/-- A class that has been found in an archive, and what that leaves. -/
structure FoundIn (host : Host) (asked : String) (located : Located) (workspace : Workspace)
    (base : Location) (after : Host) : Prop where
  /-- The class is the one that was asked for. -/
  named : ClassName.ofDotted asked = .ok located.name
  /-- The class comes with the workspace. -/
  comes : located.workspace = some workspace
  /-- The directory of the workspace did not exist before. -/
  site : Site host workspace.path base
  /-- Nothing has changed outside of the workspace. -/
  furnished : Furnished host base after
  /-- The class is in the workspace. -/
  stored : StoredBelow after workspace.path located.name located.bytes

section Handing

variable {settings : SearchSettings} {options : EngineOptions} {host after : Host}
  {archive : Path} {className : Option String} {located : Located}

/-- A class that is found in an archive was asked for and lies below a new workspace. -/
theorem foundIn_of_findInArchive (closed : host.tree.IsClosed)
    (found : (settings.findInArchive archive className).run host = (.ok located, after)) :
    ∃ asked workspace base, className = some asked ∧
      FoundIn host asked located workspace base after := by
  obtain ⟨asked, entries, workspace, given, primary⟩ := primaryOf_of_findInArchive found
  have leaves := SearchSettings.leaves_findInArchive settings archive className closed
  rw [found] at leaves
  cases leaves with
  | extracted _ other base _ comes site furnished =>
    have same := SearchSettings.workspace_of_primaryOf primary
    obtain rfl := Option.some.inj (comes.symm.trans same)
    obtain ⟨named, stored⟩ := storedBelow_of_primaryOf primary
    exact ⟨asked, other, base, given, ClassName.ofDotted_of_trim named, comes, site, furnished,
      stored⟩

/-- The lookup for a class gives its bytes, a class file of its workspace, no bytes for a core class
or nothing. -/
theorem answer_lookupFor {workspace : Workspace} (comes : located.workspace = some workspace)
    (asked : String) :
    Answer host workspace.path located.name located.bytes asked
      (lookupFor located.name located.bytes (located.auxiliary host) asked) := by
  have auxiliary : located.auxiliary host asked = workspace.lookup host asked := by
    rw [Located.auxiliary, comes, Option.bind_some]
  unfold lookupFor
  split
  · rename_i itself
    rw [itself]
    exact .primary
  · rw [auxiliary]
    split
    · rename_i content found
      obtain ⟨name, rfl, stored⟩ := storedBelow_of_lookup found
      exact .stored name content stored
    · split
      · rename_i begins
        obtain ⟨rest, rfl⟩ := Text.startsWith_iff.mp begins
        exact .core rest
      · exact .unknown asked

end Handing

/-- A class that is staged is written to its file below the directory. -/
theorem storedBelow_of_write {host after : Host} {directory path : Path} {name : ClassName}
    {bytes : List UInt8}
    (written : (Staging.write directory name bytes).run host = (.ok path, after)) :
    path = directory.join name.filePath ∧ StoredBelow after directory name bytes := by
  have finish : ∀ {middle : Host},
      (do
        Host.change (·.write (directory.join name.filePath) bytes)
        pure (directory.join name.filePath) : Effect Disk.Fault Path).run middle =
          (.ok path, after) →
      path = directory.join name.filePath ∧ StoredBelow after directory name bytes := by
    intro middle ran
    obtain ⟨_, last, changed, rest⟩ := Effect.run_bind_eq_ok.mp ran
    cases rest
    have reads := Host.read_of_write (Effect.run_change_eq_ok.mp changed)
    exact ⟨rfl, storedBelow_of_read reads⟩
  unfold Staging.write at written
  dsimp only at written
  split at written
  · obtain ⟨_, middle, _, rest⟩ := Effect.run_bind_eq_ok.mp written
    exact finish rest
  · exact finish written

/-- No name escapes its root.

A text is read as a name exactly if it is segments with single slashes between them, and a text with
dots exactly if that holds of it with a slash for each dot and without the white space around; both
forms of a name are read back as the name. The path of its class file in a directory has the
components of the directory, then the segments, the last one with the ending, and none of them is
empty or a dot or leads upwards. No path leads through the file of another class.

So a search on a classpath, a lookup in a workspace and the reading of the wanted class from one
depend on the files of such paths alone and find what lies there, staging writes there and touches
nothing else, and a class from an archive lies in a new workspace. Whatever name an engine asks for,
the lookup that it is handed answers with the bytes of the class, a class file of the workspace, no
bytes for a core class, or nothing. -/
theorem names_stay_below (settings : SearchSettings) (options : EngineOptions) (host : Host)
    (closed : host.tree.IsClosed) :
    (∀ text, (∃ name, ClassName.ofText text = .ok name) ↔ IsSegmented text) ∧
    (∀ text, (∃ name, ClassName.ofDotted text = .ok name) ↔
      IsSegmented (ClassName.slashed (Text.trim text))) ∧
    (∀ name, ClassName.ofText name.text = .ok name ∧ ClassName.ofDotted name.dotted = .ok name) ∧
    (∀ (root : Path) (name : ClassName),
      let steps := name.packages ++ [name.simpleName ++ ".class"]
      name.text = "/".intercalate (name.packages ++ [name.simpleName]) ∧
      (root.join name.filePath).components = root.components ++ steps.map .name ∧
      ∀ step ∈ steps, Path.IsStep step ∧ step ≠ "..") ∧
    (∀ (root : Path) (name other : ClassName),
      (root.join name.filePath).components <+: (root.join other.filePath).components →
      name = other) ∧
    (∀ text classpath,
      LooksOnlyAt host
        (fun path => ∃ name, ClassName.ofDotted text = .ok name ∧
          ∃ root ∈ settings.searchRoots host classpath, path = root.join name.filePath)
        (fun host => settings.findOnClasspath host text classpath) ∧
      ∀ located, settings.findOnClasspath host text classpath = .ok located →
        ClassName.ofDotted text = .ok located.name ∧
        ∃ root ∈ settings.searchRoots host classpath,
          StoredBelow host root located.name located.bytes) ∧
    (∀ (workspace : Workspace) asked,
      LooksOnlyAt host
        (fun path => ∃ name : ClassName, asked = name.text ∧
          path = workspace.path.join name.filePath)
        (fun host => workspace.lookup host asked) ∧
      ∀ bytes, workspace.lookup host asked = some bytes →
        ∃ name : ClassName, asked = name.text ∧ StoredBelow host workspace.path name bytes) ∧
    (∀ (workspace : Workspace) archive entries wanted,
      LooksOnlyAt host
        (fun path => ∃ name, ClassName.ofDotted wanted = .ok name ∧
          path = workspace.path.join name.filePath)
        (fun host => SearchSettings.primaryOf host archive entries workspace wanted)) ∧
    (∀ directory name bytes,
      (∀ base, host.LeadsTo directory base →
        Within host directory base ((Staging.write directory name bytes).run host).2) ∧
      ∀ path after, (Staging.write directory name bytes).run host = (.ok path, after) →
        path = directory.join name.filePath ∧ StoredBelow after directory name bytes) ∧
    (∀ archive className located after,
      (settings.findInArchive archive className).run host = (.ok located, after) →
      ∃ asked workspace base, className = some asked ∧
        FoundIn host asked located workspace base after ∧
        ∃ lookup, Hands settings options (.inArchive archive className) host
            ⟨located.name, lookup, options⟩ after ∧
          ∀ asked,
            Answer after workspace.path located.name located.bytes asked (lookup asked)) := by
  refine ⟨fun text => ?_, fun text => ?_, fun name => ⟨name.ofText_text, name.ofDotted_dotted⟩,
    fun root name => ⟨name.text_eq_intercalate, ?_, name.isStep_file⟩,
    fun root name other => ClassName.eq_of_prefix_components,
    fun text classpath => ⟨looksOnlyAt_findOnClasspath settings host text classpath,
      fun located => storedBelow_of_findOnClasspath⟩,
    fun workspace asked => ⟨looksOnlyAt_lookup workspace host asked,
      fun bytes => storedBelow_of_lookup⟩,
    fun workspace archive entries wanted =>
      looksOnlyAt_primaryOf host archive entries workspace wanted,
    fun directory name bytes => ⟨fun base leads => ?_, fun path after => storedBelow_of_write⟩,
    fun archive className located after found => ?_⟩
  · exact ClassName.exists_ofText_iff
  · exact ClassName.exists_ofText_iff
  · rw [ClassName.components_join_filePath, List.append_assoc, List.map_append, List.map_singleton]
  · exact Staging.keeps_write (Host.tolerates_within host) name bytes host (.refl leads)
  · obtain ⟨asked, workspace, base, given, holds⟩ := foundIn_of_findInArchive closed found
    exact ⟨asked, workspace, base, given, holds, _, hands_of_find found,
      answer_lookupFor holds.comes⟩

set_option maxRecDepth 100000 in
/-- The theorem on an archive with a class in a package, which is asked for with white space around
its name. -/
theorem names_stay_below_sample :
    sampleHost.tree.IsClosed ∧
      ∃ after workspace base, FoundIn sampleHost " a.B "
          ⟨sampleClass, [0xCA], some sampleWorkspace⟩ workspace base after ∧
        ∃ lookup, Hands {} {} (.inArchive ⟨"/b.jar"⟩ (some " a.B ")) sampleHost
            ⟨sampleClass, lookup, {}⟩ after ∧
          ∀ asked, Answer after workspace.path sampleClass [0xCA] asked (lookup asked) := by
  have closed : sampleHost.tree.IsClosed := by decide
  have finished : ((SearchSettings.findInArchive {} ⟨"/b.jar"⟩ (some " a.B ")).run sampleHost).1 =
      .ok ⟨sampleClass, [0xCA], some sampleWorkspace⟩ := by
    decide +kernel
  obtain ⟨-, -, -, -, -, -, -, -, -, archives⟩ := names_stay_below {} {} sampleHost closed
  have each := archives ⟨"/b.jar"⟩ (some " a.B ")
  rcases found : (SearchSettings.findInArchive {} ⟨"/b.jar"⟩ (some " a.B ")).run sampleHost
    with ⟨result, after⟩
  rw [found] at each finished
  obtain rfl := finished
  obtain ⟨asked, workspace, base, given, holds, handed⟩ := each _ after rfl
  obtain rfl := Option.some.inj given
  exact ⟨closed, after, workspace, base, holds, handed⟩

end DecompileServer

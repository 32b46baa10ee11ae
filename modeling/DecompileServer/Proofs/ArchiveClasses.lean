import DecompileServer.Proofs.Archive.Entries
import DecompileServer.Proofs.Containment

/-!
# Classes of archives

A class that is found in an archive has the content of the last entry that leads to its file, and so
have the classes that come with it. Whether an archive has a class is asked of the names of its
entries as they stand, so the two agree for every class to which only entries of its own name lead
(`archive_classes`), and can differ for others (`other_name_answers_for_class`).
-/
namespace DecompileServer

open Archive (Entry IsLastContent Extracted)
open Disk (Location)
open Host (Site)

variable {settings : SearchSettings} {host after : Host} {archive : Path}
  {className : Option String} {located : Located} {name : ClassName}

namespace Archive

/-- Whether an entry is extracted to the file of a class. -/
def Entry.LeadsToClass (entry : Entry) (name : ClassName) : Prop :=
  entry.LeadsTo (Path.mk name.filePath).steps

instance (entry : Entry) (name : ClassName) : Decidable (entry.LeadsToClass name) :=
  inferInstanceAs (Decidable (entry.LeadsTo _))

variable {entry : Entry}

/-- An entry of the name of the file of a class is a class file. -/
theorem isClass_of_name (named : entry.name = name.filePath) :
    entry.isClass = true ∧ entry.extractsDirectory = false := by
  simp [Entry.isClass, Entry.isDirectory, Entry.extractsDirectory, named, ClassName.filePath,
    List.getLast?_append, Text.endsWith, List.isSuffixOf_iff_suffix]

/-- An entry of the name of the file of a class leads there. -/
theorem leadsToClass_of_name (named : entry.name = name.filePath) : entry.LeadsToClass name := by
  refine ⟨(isClass_of_name named).2, ?_⟩
  rw [named, Host.resolve_of_names fun step member => (name.moves_of_mem_steps step member).2,
    List.nil_append]

/-- The names of all class files are listed. -/
theorem mem_classNamesOf {entries : List Entry} {names : List String}
    (listed : classNamesOf entries = .ok names) (member : entry ∈ entries)
    (isClass : entry.isClass = true) : entry.name ∈ names := by
  induction entries generalizing names with
  | nil => cases member
  | cons first rest ih =>
    obtain ⟨_, _, listed⟩ := Effect.except_bind_eq_ok.mp listed
    obtain ⟨further, later, same⟩ := Effect.except_bind_eq_ok.mp listed
    obtain rfl := Except.ok.inj same
    obtain rfl | inside := List.mem_cons.mp member
    · rw [if_pos isClass]
      exact List.mem_cons_self
    · have found := ih later inside
      split
      · exact List.mem_cons_of_mem _ found
      · exact found

/-- The file of a class is listed exactly if an entry bears its name. -/
theorem filePath_mem_classNamesOf_iff {entries : List Entry} {names : List String}
    (listed : classNamesOf entries = .ok names) :
    name.filePath ∈ names ↔ ∃ entry ∈ entries, entry.name = name.filePath := by
  constructor
  · intro member
    obtain ⟨entry, inside, named, -⟩ := exists_of_mem_classNamesOf listed member
    exact ⟨entry, inside, named⟩
  · rintro ⟨entry, inside, named⟩
    rw [← named]
    exact mem_classNamesOf listed inside (isClass_of_name named).1

end Archive

namespace SearchSettings

/-- How an archive was searched with success: its entries are listed and have been extracted to a
new workspace. -/
structure Searched (settings : SearchSettings) (host : Host) (archive : Path)
    (stored : Archive.Contents) (listed : List String) (workspace : Workspace) (base : Location)
    (after : Host) : Prop where
  /-- The archive can be read. -/
  loaded : Archive.load host archive = .ok stored
  /-- The class files of the archive are listed. -/
  lists : Archive.classNamesOf stored.entries = .ok listed
  /-- There are some. -/
  filled : listed.isEmpty = false
  /-- The workspace is new. -/
  site : Site host workspace.path base
  /-- The workspace can be made and the archive be extracted to it. -/
  extracts : ∃ made, (Workspace.create settings.workspaceRoot archive).run host =
    (.ok workspace, made) ∧ (Archive.extractAll archive workspace.path).run made = (.ok (), after)
  /-- All entries have been extracted. -/
  extracted : Extracted host workspace.path base stored.entries after

variable {stored : Archive.Contents} {listed : List String} {workspace : Workspace} {base : Location}

/-- A class that has been found in an archive was read from a workspace with all entries. -/
theorem searched_of_findInArchive (closed : host.tree.IsClosed)
    (found : (settings.findInArchive archive className).run host = (.ok located, after)) :
    ∃ wanted stored listed workspace base,
      settings.Searched host archive stored listed workspace base after ∧
        primaryOf after archive listed workspace wanted = .ok located := by
  obtain ⟨wanted, listed, workspace, made, ⟨-, lists, filled⟩, created, extracts, primary⟩ :=
    findInArchive_eq_ok_iff.mp found
  obtain ⟨stored, loaded, lists⟩ := Effect.except_bind_eq_ok.mp lists
  obtain ⟨base, site, rfl⟩ := Workspace.site_of_create closed created
  obtain ⟨again, middle, observed, rest⟩ := Effect.run_bind_eq_ok.mp extracts
  obtain ⟨looked, rfl⟩ := Effect.run_observe_eq_ok.mp observed
  obtain rfl : again = stored := Except.ok.inj
    (looked.symm.trans (Archive.load_eq site site.furnished_put.toConfined loaded))
  have extracted :=
    (Extracted.start site).extractEntries site (Effect.run_adapt_eq_ok.mp rest)
  exact ⟨wanted, again, listed, workspace, base, ⟨loaded, Effect.except_mapError_eq_ok.mp lists,
    filled, site, ⟨_, created, extracts⟩, extracted⟩, primary⟩

namespace Searched

variable (searched : settings.Searched host archive stored listed workspace base after)
include searched

/-- The file of a class in the workspace has the content of the last entry that leads there. -/
theorem read_eq_ok_iff {content : List UInt8} :
    after.read (workspace.fileOf name) = .ok content ↔
      IsLastContent stored.entries (·.LeadsToClass name) content :=
  searched.extracted.read_eq_ok_iff searched.site

/-- The lookup in the workspace gives the content of the last entry that leads to the file. -/
theorem lookup_eq_some_iff {content : List UInt8} :
    workspace.lookup after name.text = some content ↔
      IsLastContent stored.entries (·.LeadsToClass name) content := by
  rw [← searched.read_eq_ok_iff, Workspace.lookup, ClassName.ofText_text]
  dsimp only
  cases after.read (workspace.fileOf name) <;> simp [Except.toOption]

/-- The lookup in the workspace knows the classes that entries lead to. -/
theorem lookup_isSome_iff : (workspace.lookup after name.text).isSome = true ↔
    ∃ entry ∈ stored.entries, entry.LeadsToClass name := by
  rw [Option.isSome_iff_exists]
  constructor
  · rintro ⟨content, known⟩
    exact (searched.lookup_eq_some_iff.mp known).exists_selected
  · intro leads
    obtain ⟨content, last⟩ := IsLastContent.exists_of_selected
      (fun entry member led => (searched.extracted.written entry member led.1).reached) leads
    exact ⟨content, searched.lookup_eq_some_iff.mpr last⟩

/-- Another class of the archive is found exactly if an entry bears its name. -/
theorem exists_findInArchive_iff {asked : String} (read : ClassName.ofDotted asked = .ok name) :
    (∃ other left, (settings.findInArchive archive (some asked)).run host = (.ok other, left)) ↔
      ∃ entry ∈ stored.entries, entry.name = name.filePath := by
  have listing : Archive.classEntries host archive = .ok listed :=
    Effect.except_bind_eq_ok.mpr
      ⟨stored, searched.loaded, Effect.except_mapError_eq_ok.mpr searched.lists⟩
  obtain ⟨trimmed, filled⟩ := ClassName.ofDotted_trim read
  constructor
  · rintro ⟨other, left, found⟩
    obtain ⟨wanted, again, _, _, ⟨given, same, -⟩, -, -, primary⟩ :=
      findInArchive_eq_ok_iff.mp found
    obtain rfl := Except.ok.inj (listing.symm.trans same)
    obtain ⟨_, wants, rfl, -⟩ := wantedName_eq_ok_iff.mp given
    obtain rfl := Option.some.inj wants
    obtain ⟨_, _, named, known, -⟩ := primaryOf_eq_ok_iff.mp primary
    obtain rfl := Except.ok.inj (trimmed.symm.trans named)
    exact (Archive.filePath_mem_classNamesOf_iff searched.lists).mp known
  · intro present
    obtain ⟨made, created, extracts⟩ := searched.extracts
    obtain ⟨entry, member, named⟩ := present
    have known := searched.lookup_isSome_iff.mpr
      ⟨entry, member, Archive.leadsToClass_of_name named⟩
    obtain ⟨content, known⟩ := Option.isSome_iff_exists.mp known
    have looked := searched.read_eq_ok_iff.mpr (searched.lookup_eq_some_iff.mp known)
    have lists := (Archive.filePath_mem_classNamesOf_iff searched.lists).mpr ⟨entry, member, named⟩
    have wants : wantedName (some asked) = .ok (Text.trim asked) :=
      wantedName_eq_ok_iff.mpr ⟨asked, rfl, rfl, filled⟩
    exact ⟨_, after, findInArchive_eq_ok_iff.mpr ⟨Text.trim asked, listed, workspace, made,
      ⟨wants, listing, searched.filled⟩, created, extracts,
      primaryOf_eq_ok_iff.mpr ⟨name, content, trimmed, lists, looked, rfl⟩⟩⟩

end Searched

/-- A class that is found in an archive has the content of the last entry that leads to its file.
Every class that comes with it has the content of the last entry that leads to its own, and is there
exactly if one does; it is found in the archive, however its name is written, exactly if an entry
bears the name of its file, which then leads there. So for a class to which only entries lead that
bear that name, what comes is the content of the last of these, and it comes exactly if the class is
found. -/
theorem archive_classes (settings : SearchSettings) (host after : Host) (archive : Path)
    (className : Option String) (located : Located) (closed : host.tree.IsClosed)
    (found : (settings.findInArchive archive className).run host = (.ok located, after)) :
    ∃ stored, Archive.load host archive = .ok stored ∧
      IsLastContent stored.entries (·.LeadsToClass located.name) located.bytes ∧
      (∀ (name : ClassName) (content : List UInt8),
        located.auxiliary after name.text = some content ↔
          IsLastContent stored.entries (·.LeadsToClass name) content) ∧
      (∀ name : ClassName, (located.auxiliary after name.text).isSome = true ↔
        ∃ entry ∈ stored.entries, entry.LeadsToClass name) ∧
      (∀ asked name, ClassName.ofDotted asked = .ok name →
        ((∃ other left,
            (settings.findInArchive archive (some asked)).run host = (.ok other, left)) ↔
          ∃ entry ∈ stored.entries, entry.name = name.filePath)) ∧
      (∀ (name : ClassName), ∀ entry ∈ stored.entries, entry.name = name.filePath →
        entry.LeadsToClass name) ∧
      ∀ name : ClassName,
        (∀ entry ∈ stored.entries, entry.LeadsToClass name → entry.name = name.filePath) →
        (name = located.name → IsLastContent stored.entries (·.name = name.filePath)
          located.bytes) ∧
        (∀ content, located.auxiliary after name.text = some content ↔
          IsLastContent stored.entries (·.name = name.filePath) content) ∧
        ∀ asked, ClassName.ofDotted asked = .ok name →
          ((located.auxiliary after name.text).isSome = true ↔ ∃ other left,
            (settings.findInArchive archive (some asked)).run host = (.ok other, left)) := by
  obtain ⟨wanted, stored, listed, workspace, base, searched, primary⟩ :=
    searched_of_findInArchive closed found
  obtain ⟨primaryName, bytes, -, -, looked, rfl⟩ := primaryOf_eq_ok_iff.mp primary
  have last := searched.read_eq_ok_iff.mp looked
  have leads : ∀ name : ClassName, ∀ entry ∈ stored.entries, entry.name = name.filePath →
      entry.LeadsToClass name := fun _ _ _ => Archive.leadsToClass_of_name
  refine ⟨stored, searched.loaded, last, fun name content => searched.lookup_eq_some_iff,
    fun name => searched.lookup_isSome_iff,
    fun asked name read => searched.exists_findInArchive_iff read, leads, fun name plain => ?_⟩
  have same : ∀ entry ∈ stored.entries, entry.LeadsToClass name ↔ entry.name = name.filePath :=
    fun entry member => ⟨plain entry member, leads name entry member⟩
  refine ⟨?_, fun content => ?_, fun asked read => ?_⟩
  · rintro rfl
    exact last.of_same same
  · refine searched.lookup_eq_some_iff.trans ⟨fun known => known.of_same same, fun known => ?_⟩
    exact known.of_same fun entry member => (same entry member).symm
  · rw [searched.exists_findInArchive_iff read]
    refine searched.lookup_isSome_iff.trans ⟨?_, ?_⟩
    · rintro ⟨entry, member, led⟩
      exact ⟨entry, member, plain entry member led⟩
    · rintro ⟨entry, member, named⟩
      exact ⟨entry, member, leads name entry member named⟩

/-- The entries of an archive in which single dots lead two further names to files of classes. -/
def aliasedEntries : List Entry :=
  [⟨"A.class", .ok ⟨.stored, [1], 2768625435⟩⟩, ⟨"./A.class", .ok ⟨.stored, [2], 1007455905⟩⟩,
    ⟨"./B.class", .ok ⟨.stored, [3], 1259060791⟩⟩]

/-- The archive. -/
def aliasedJar : List UInt8 :=
  [80, 75, 3, 4, 20, 0, 0, 0, 0, 0, 0, 0, 33, 0, 27, 223, 5, 165, 1, 0, 0, 0, 1, 0, 0, 0, 7, 0, 0,
    0, 65, 46, 99, 108, 97, 115, 115, 1, 80, 75, 3, 4, 20, 0, 0, 0, 0, 0, 0, 0, 33, 0, 161, 142, 12,
    60, 1, 0, 0, 0, 1, 0, 0, 0, 9, 0, 0, 0, 46, 47, 65, 46, 99, 108, 97, 115, 115, 2, 80, 75, 3, 4,
    20, 0, 0, 0, 0, 0, 0, 0, 33, 0, 55, 190, 11, 75, 1, 0, 0, 0, 1, 0, 0, 0, 9, 0, 0, 0, 46, 47, 66,
    46, 99, 108, 97, 115, 115, 3, 80, 75, 1, 2, 20, 3, 20, 0, 0, 0, 0, 0, 0, 0, 33, 0, 27, 223, 5,
    165, 1, 0, 0, 0, 1, 0, 0, 0, 7, 0, 0, 0, 0, 0, 0, 0, 0, 0, 0, 0, 164, 1, 0, 0, 0, 0, 65, 46, 99,
    108, 97, 115, 115, 80, 75, 1, 2, 20, 3, 20, 0, 0, 0, 0, 0, 0, 0, 33, 0, 161, 142, 12, 60, 1, 0,
    0, 0, 1, 0, 0, 0, 9, 0, 0, 0, 0, 0, 0, 0, 0, 0, 0, 0, 164, 1, 38, 0, 0, 0, 46, 47, 65, 46, 99,
    108, 97, 115, 115, 80, 75, 1, 2, 20, 3, 20, 0, 0, 0, 0, 0, 0, 0, 33, 0, 55, 190, 11, 75, 1, 0,
    0, 0, 1, 0, 0, 0, 9, 0, 0, 0, 0, 0, 0, 0, 0, 0, 0, 0, 164, 1, 78, 0, 0, 0, 46, 47, 66, 46, 99,
    108, 97, 115, 115, 80, 75, 5, 6, 0, 0, 0, 0, 3, 0, 3, 0, 163, 0, 0, 0, 118, 0, 0, 0, 0, 0]

/-- A machine with the archive. -/
def aliasedHost : Host where
  tree := ⟨[(["tmp"], .directory), (["x.jar"], .file aliasedJar false)]⟩
  workingDirectory := []
  environment := []

set_option maxRecDepth 100000 in
/-- The theorem on an archive in which two entries lead to the file of one class, and one of another
name to that of another class. The later entry counts for the first class, and the second one comes
with it but is not found. -/
theorem archive_classes_sample :
    aliasedHost.tree.IsClosed ∧ ∃ located after,
      (findInArchive {} ⟨"/x.jar"⟩ (some "A")).run aliasedHost = (.ok located, after) ∧
      IsLastContent aliasedEntries (·.LeadsToClass ⟨"A", by decide⟩) [2] ∧ located.bytes = [2] ∧
      (∀ (name : ClassName) content, located.auxiliary after name.text = some content ↔
        IsLastContent aliasedEntries (·.LeadsToClass name) content) ∧
      located.auxiliary after "B" = some [3] ∧
      (¬∃ other left,
        (findInArchive {} ⟨"/x.jar"⟩ (some "B")).run aliasedHost = (.ok other, left)) ∧
      located.auxiliary after "C" = none := by
  have closed : aliasedHost.tree.IsClosed := by decide
  have finished : ((findInArchive {} ⟨"/x.jar"⟩ (some "A")).run aliasedHost).1 =
      .ok ⟨⟨"A", by decide⟩, [2], some ⟨⟨"/tmp/javadc-jar-000000"⟩⟩⟩ := by
    decide +kernel
  rcases found : (findInArchive {} ⟨"/x.jar"⟩ (some "A")).run aliasedHost with ⟨result, after⟩
  rw [found] at finished
  obtain rfl := finished
  obtain ⟨stored, loaded, primary, others, present, named, -, plain⟩ :=
    archive_classes {} aliasedHost after ⟨"/x.jar"⟩ (some "A") _ closed found
  have known : Archive.load aliasedHost ⟨"/x.jar"⟩ = .ok ⟨aliasedEntries⟩ := rfl
  obtain rfl := Except.ok.inj (loaded.symm.trans known)
  have last : IsLastContent aliasedEntries (·.LeadsToClass ⟨"B", by decide⟩) [3] :=
    ⟨aliasedEntries.take 2, _, [], _, rfl, by decide +kernel, by simp, rfl, by decide +kernel⟩
  have bare : ¬∃ entry ∈ aliasedEntries, entry.name = "B.class" := by decide
  have none : ¬∃ entry ∈ aliasedEntries, entry.LeadsToClass ⟨"C", by decide⟩ := by
    decide +kernel
  refine ⟨closed, _, after, rfl, primary, rfl, others, (others ⟨"B", by decide⟩ [3]).mpr last,
    fun found => bare ((named "B" ⟨"B", by decide⟩ (by decide)).mp found), ?_⟩
  exact Option.not_isSome_iff_eq_none.mp (mt (present ⟨"C", by decide⟩).mp none)

set_option maxRecDepth 100000 in
/-- What an entry holds can be taken for a class whose file bears another name: the class is found
with the content of the second entry, though only the first bears the name of its file, and it comes
with a class of which no entry bears the name, and which is not found. -/
theorem other_name_answers_for_class :
    ∃ located after, (findInArchive {} ⟨"/x.jar"⟩ (some "A")).run aliasedHost =
        (.ok located, after) ∧
      Archive.load aliasedHost ⟨"/x.jar"⟩ = .ok ⟨aliasedEntries⟩ ∧
      ¬IsLastContent aliasedEntries (·.name = located.name.filePath) located.bytes ∧
      ∃ name : ClassName, (located.auxiliary after name.text).isSome = true ∧
        (¬∃ entry ∈ aliasedEntries, entry.name = name.filePath) ∧
        ¬∃ other left,
          (findInArchive {} ⟨"/x.jar"⟩ (some name.text)).run aliasedHost = (.ok other, left) := by
  have finished : ((findInArchive {} ⟨"/x.jar"⟩ (some "A")).run aliasedHost).1 =
      .ok ⟨⟨"A", by decide⟩, [2], some ⟨⟨"/tmp/javadc-jar-000000"⟩⟩⟩ := by
    decide +kernel
  have known : (Workspace.lookup ⟨⟨"/tmp/javadc-jar-000000"⟩⟩
      ((findInArchive {} ⟨"/x.jar"⟩ (some "A")).run aliasedHost).2 "B").isSome = true := by
    decide +kernel
  have refused : ((findInArchive {} ⟨"/x.jar"⟩ (some "B")).run aliasedHost).1 =
      .error (.notInArchive "B" ⟨"/x.jar"⟩) := by
    decide +kernel
  rcases found : (findInArchive {} ⟨"/x.jar"⟩ (some "A")).run aliasedHost with ⟨result, after⟩
  rw [found] at finished known
  obtain rfl := finished
  refine ⟨_, after, rfl, rfl, ?_, ⟨"B", by decide⟩, ?_, by decide, ?_⟩
  · rintro ⟨before, entry, later, packed, whole, named, -, reached, same⟩
    have member : entry ∈ aliasedEntries := whole ▸ List.mem_append_right _ List.mem_cons_self
    have content : ∀ entry ∈ aliasedEntries, entry.name = "A.class" →
        entry.packed = .ok ⟨.stored, [1], 2768625435⟩ := by
      decide
    rw [content entry member named] at reached
    obtain rfl := Except.ok.inj reached
    exact absurd same (by decide)
  · exact known
  · rintro ⟨other, left, searched⟩
    rw [searched] at refused
    cases refused

end SearchSettings

end DecompileServer

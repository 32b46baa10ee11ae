import DecompileServer.Decompiler
import DecompileServer.Proofs.Engine.Quiet
import DecompileServer.Proofs.Search

/-!
# Requests leave no trace

A request extracts into a workspace of its own, and whoever holds the workspace removes it: the
search for the class if it fails, else the decompiler when the engine has answered. What is written
before that lies in the workspace, so every request leaves the host as it was.
-/
namespace DecompileServer

open Disk (Location)
open Host (Site Furnished)

variable {host after : Host}

namespace SearchSettings

/-- What a search in an archive may leave: the host from before, or the host with the workspace of
the class that has been found. -/
inductive Leaves (host : Host) : Except Failure Located → Host → Prop where
  /-- A failure leaves the host. -/
  | failed (failure : Failure) : Leaves host (.error failure) host
  /-- A class that is found leaves its workspace, on a site. -/
  | extracted (located : Located) (workspace : Workspace) (base : Location) (after : Host)
      (some : located.workspace = some workspace) (site : Site host workspace.path base)
      (furnished : Furnished host base after) : Leaves host (.ok located) after

/-- Extracting an archive to a new workspace changes nothing outside of it, however that ends. -/
theorem furnished_of_extractAll {root : Option Path} {archive : Path} {workspace : Workspace}
    {made left : Host} {result : Except Failure Unit} (closed : host.tree.IsClosed)
    (created : (Workspace.create root archive).run host = (.ok workspace, made))
    (extracted : (Archive.extractAll archive workspace.path).run made = (result, left)) :
    ∃ base, Site host workspace.path base ∧ Furnished host base left := by
  obtain ⟨base, site, rfl⟩ := Workspace.site_of_create closed created
  have kept := Archive.keeps_extractAll site.tolerates archive _ site.furnished_put
  rw [extracted] at kept
  exact ⟨base, site, kept⟩

/-- However a search in an archive ends, it leaves nothing but the workspace of a class that has been
found. -/
theorem leaves_of_archiveSearch {settings : SearchSettings} {archive : Path}
    {className : Option String} {result : Except Failure Located} (closed : host.tree.IsClosed)
    (search : ArchiveSearch settings host archive className result after) :
    Leaves host result after := by
  cases search with
  | unnamed failure _ => exact .failed failure
  | unlisted _ failure _ _ => exact .failed failure
  | empty => exact .failed _
  | unmade _ _ failure _ _ refused =>
    obtain rfl := Workspace.eq_of_create_error refused
    exact .failed failure
  | cutOff _ _ workspace _ failure left _ created failed =>
    obtain ⟨base, site, furnished⟩ := furnished_of_extractAll closed created failed
    rw [site.removeAll_eq furnished.toConfined]
    exact .failed failure
  | unread _ _ workspace _ failure left _ created extracted _ =>
    obtain ⟨base, site, furnished⟩ := furnished_of_extractAll closed created extracted
    rw [site.removeAll_eq furnished.toConfined]
    exact .failed failure
  | found _ _ workspace _ located _ _ created extracted primary =>
    obtain ⟨base, site, furnished⟩ := furnished_of_extractAll closed created extracted
    exact .extracted located workspace base _ (workspace_of_primaryOf primary) site furnished

/-- Searching an archive leaves nothing but the workspace of a class that has been found. -/
theorem leaves_findInArchive (settings : SearchSettings) (archive : Path)
    (className : Option String) (closed : host.tree.IsClosed) :
    Leaves host ((settings.findInArchive archive className).run host).1
      ((settings.findInArchive archive className).run host).2 :=
  leaves_of_archiveSearch closed (settings.archiveSearch host archive className)

/-- A search outside of archives leaves the host, and what it finds comes without a workspace. -/
theorem leaves_find (settings : SearchSettings) (target : Target) (closed : host.tree.IsClosed) :
    Leaves host ((settings.find target).run host).1 ((settings.find target).run host).2 ∨
      ((settings.find target).run host).2 = host ∧
        ∀ located, ((settings.find target).run host).1 = .ok located →
          located.workspace = none := by
  cases target with
  | file path =>
    refine .inr ⟨rfl, fun located found => ?_⟩
    obtain ⟨_, name, bytes, _, _, rfl⟩ := findFile_eq_ok_iff.mp found
    rfl
  | onClasspath text classpath =>
    refine .inr ⟨rfl, fun located found => ?_⟩
    obtain ⟨name, file, bytes, _, _, _, rfl⟩ := findOnClasspath_eq_ok_iff.mp found
    rfl
  | inArchive archive className =>
    exact .inl (leaves_findInArchive settings archive className closed)

end SearchSettings

namespace Decompiler

variable {decompiler : Decompiler}

/-- A class that has been found gives what the engine answers for it. -/
theorem result_of_decompileLocated (located : Located) :
    ((decompiler.decompileLocated located).run after).1 =
      ((decompiler.engine ⟨located.name, lookupFor located.name located.bytes
        (located.auxiliary after), decompiler.options⟩).run after).1.mapError
          fun fault => .engine fault.message :=
  rfl

/-- A quiet engine leaves it to the release of the class what becomes of the host. -/
theorem host_of_decompileLocated (quiet : decompiler.engine.IsQuiet) (closed : after.tree.IsClosed)
    (located : Located) :
    ((decompiler.decompileLocated located).run after).2 =
      ((located.release : Effect Failure Unit).run after).2 := by
  have still : ((decompiler.engine.decompile decompiler.options located.name located.bytes
      (located.auxiliary after)).run after).2 = after := quiet _ after closed
  unfold decompileLocated
  rw [ExceptT.run_mk]
  change ((located.release : Effect Failure Unit).run ((decompiler.engine.decompile
    decompiler.options located.name located.bytes (located.auxiliary after)).run after).2).2 = _
  rw [still]

/-- With a quiet engine, a request leaves the host as it was. -/
theorem host_of_decompile (quiet : decompiler.engine.IsQuiet) (closed : host.tree.IsClosed)
    (target : Target) : ((decompiler.decompile target).run host).2 = host := by
  unfold decompile
  rcases ran : (decompiler.settings.find target).run host with ⟨result, left⟩
  obtain leaves | ⟨same, plain⟩ := decompiler.settings.leaves_find target closed
  · rw [ran] at leaves
    cases leaves with
    | failed failure => rw [Effect.run_bind_of_error ran]
    | extracted located workspace base _ some site furnished =>
      rw [Effect.run_bind_of_ok ran, host_of_decompileLocated quiet furnished.closed,
        Located.release, some]
      exact site.removeAll_eq furnished.toConfined
  · rw [ran] at same plain
    obtain rfl := same
    cases result with
    | error failure => rw [Effect.run_bind_of_error ran]
    | ok located =>
      rw [Effect.run_bind_of_ok ran, host_of_decompileLocated quiet closed, Located.release,
        plain located rfl]
      rfl

/-- With a quiet engine, the service leaves the host as it was. -/
theorem host_of_service (quiet : decompiler.engine.IsQuiet) (closed : host.tree.IsClosed)
    (target : Target) : ((decompiler.service target).run host).2 = host :=
  host_of_decompile quiet closed target

end Decompiler

/-- No request leaves a trace. Whatever is stored, whatever is asked for and whatever comes of it,
the service leaves the host as it was if its engine does. A search in an archive that fails leaves
the host as well, and one that succeeds differs from it by a workspace of the class alone, which
removing gives back the host. The external engine leaves the host on every exit if its program
changes nothing away from its staging directory, and so does the service with it. -/
theorem leaves_no_trace (decompiler : Decompiler) (target : Target) (host : Host)
    (closed : host.tree.IsClosed) (quiet : decompiler.engine.IsQuiet)
    (external : ExternalEngine) (confined : external.IsConfined) :
    ((decompiler.service target).run host).2 = host ∧
      (∀ archive className,
        match (decompiler.settings.findInArchive archive className).run host with
        | (.error _, after) => after = host
        | (.ok located, after) => ∃ workspace base, located.workspace = some workspace ∧
            host.tree.find? base = none ∧ after.locate workspace.path = .ok base ∧
            after.tree.remove base = host.tree ∧ after.removeAll workspace.path = host ∧
            ((decompiler.decompileLocated located).run after).2 = host) ∧
      (∀ request, ((external.engine request).run host).2 = host) ∧
      (({ decompiler with engine := external.engine }.service target).run host).2 = host := by
  have external_quiet := ExternalEngine.isQuiet_engine confined
  refine ⟨Decompiler.host_of_service quiet closed target, ?_,
    fun request => external_quiet request host closed,
    Decompiler.host_of_service external_quiet closed target⟩
  intro archive className
  have leaves := decompiler.settings.leaves_findInArchive archive className closed
  rcases ran : (decompiler.settings.findInArchive archive className).run host
    with ⟨failure | located, after⟩
  · rw [ran] at leaves
    cases leaves
    rfl
  · have whole := Decompiler.host_of_decompile quiet closed (.inArchive archive className)
    have found : (decompiler.settings.find (.inArchive archive className)).run host =
        (.ok located, after) := ran
    rw [Decompiler.decompile, Effect.run_bind_of_ok found] at whole
    rw [ran] at leaves
    cases leaves with
    | extracted _ workspace base _ some site furnished =>
      exact ⟨workspace, base, some, site.free, site.locate_eq furnished, furnished.outside,
        site.removeAll_eq furnished.toConfined, whole⟩

/-- A class file that declares the class A. -/
def leafClass : List UInt8 :=
  [202, 254, 186, 190, 0, 0, 0, 52, 0, 3, 1, 0, 1, 65, 7, 0, 1, 0, 33, 0, 2, 0, 0, 0, 0, 0, 0, 0, 0,
    0, 0]

/-- An archive of that class and another one. The content of the other one is a single byte, and its
checksum is that of the byte two. -/
def pairedJar (content : UInt8) : List UInt8 :=
  [80, 75, 3, 4, 20, 0, 0, 0, 0, 0, 0, 0, 33, 0, 97, 2, 206, 82, 31, 0, 0, 0, 31, 0, 0, 0, 7, 0, 0,
    0, 65, 46, 99, 108, 97, 115, 115] ++ leafClass ++
    [80, 75, 3, 4, 20, 0, 0, 0, 0, 0, 0, 0, 33, 0, 161, 142, 12, 60, 1, 0, 0, 0, 1, 0, 0, 0, 7, 0, 0,
      0, 66, 46, 99, 108, 97, 115, 115, content, 80, 75, 1, 2, 20, 3, 20, 0, 0, 0, 0, 0, 0, 0, 33, 0,
      97, 2, 206, 82, 31, 0, 0, 0, 31, 0, 0, 0, 7, 0, 0, 0, 0, 0, 0, 0, 0, 0, 0, 0, 164, 1, 0, 0, 0,
      0, 65, 46, 99, 108, 97, 115, 115, 80, 75, 1, 2, 20, 3, 20, 0, 0, 0, 0, 0, 0, 0, 33, 0, 161, 142,
      12, 60, 1, 0, 0, 0, 1, 0, 0, 0, 7, 0, 0, 0, 0, 0, 0, 0, 0, 0, 0, 0, 164, 1, 68, 0, 0, 0, 66, 46,
      99, 108, 97, 115, 115, 80, 75, 5, 6, 0, 0, 0, 0, 2, 0, 2, 0, 106, 0, 0, 0, 106, 0, 0, 0, 0, 0]

/-- A machine with a directory for temporary files, the archive, the same with a damaged second class,
and the archive of the external program. -/
def pairedHost : Host where
  tree := ⟨[(["tmp"], .directory), (["x.jar"], .file (pairedJar 2) false),
    (["torn.jar"], .file (pairedJar 3) false), (["cfr.jar"], .file [] false)]⟩
  workingDirectory := []
  environment := []

/-- An external program that writes a source text to a file in its staging directory and prints what
it reads there. -/
def writing : ExternalEngine where
  archive := ⟨"/cfr.jar"⟩
  launcher host command := do
    let directory ← command.arguments[4]?
    let file := (Path.mk directory).join "A.java"
    let after ← (host.write file "class A {}".toUTF8.toList).toOption
    let output ← (after.read file).toOption
    some (⟨true, output, []⟩, after)

/-- The program writes in its staging directory only. -/
theorem isConfined_writing : writing.IsConfined := by
  intro host staged directory options outcome after base closed led started
  obtain ⟨left, written, started⟩ := Option.bind_eq_some_iff.mp started
  obtain ⟨output, -, ended⟩ := Option.bind_eq_some_iff.mp started
  obtain ⟨-, rfl⟩ := Prod.mk.inj (Option.some.inj ended)
  obtain ⟨closed, outside, working, environment⟩ := Host.confined_write closed led (by decide)
    (by decide) (by decide) (Effect.except_toOption_eq_some.mp written)
  exact ⟨closed, outside, working, environment⟩

/-- The machine with an empty workspace. -/
def openedHost : Host :=
  { pairedHost with tree := pairedHost.tree.put ["tmp", "javadc-jar-000000"] .directory }

/-- The machine with both classes in the workspace, the second one with the given content. -/
def filledHost (content : List UInt8) : Host :=
  { openedHost with
    tree := (openedHost.tree.put ["tmp", "javadc-jar-000000", "A.class"]
      (.file leafClass false)).put ["tmp", "javadc-jar-000000", "B.class"] (.file content false) }

/-- The machine once the engine has made its staging directory as well. -/
def stagingHost : Host :=
  { filledHost [2] with tree := (filledHost [2]).tree.put ["tmp", "javadc-cfr-000000"] .directory }

/-- The machine once the class is staged. -/
def stagedHost : Host :=
  { stagingHost with
    tree := stagingHost.tree.put ["tmp", "javadc-cfr-000000", "A.class"] (.file leafClass false) }

set_option maxRecDepth 100000 in
/-- The class is found in the archive, with a workspace. -/
theorem findInArchive_pairedHost :
    (SearchSettings.findInArchive {} ⟨"/x.jar"⟩ (some "A")).run pairedHost =
      (.ok ⟨⟨"A", by decide⟩, leafClass, some ⟨⟨"/tmp/javadc-jar-000000"⟩⟩⟩, filledHost [2]) :=
  Effect.run_eq (by decide +kernel) (by decide +kernel)

/-- The engine makes a staging directory. -/
theorem makeTemporary_filledHost :
    (Host.makeTemporary (filledHost [2]).temporaryPath ExternalEngine.beginning).run
      (filledHost [2]) = (.ok ⟨"/tmp/javadc-cfr-000000"⟩, stagingHost) :=
  Effect.run_eq (by decide +kernel) (by decide +kernel)

/-- The class is staged there. -/
theorem write_stagingHost :
    (Staging.write ⟨"/tmp/javadc-cfr-000000"⟩ ⟨"A", by decide⟩ leafClass).run stagingHost =
      (.ok ⟨"/tmp/javadc-cfr-000000/A.class"⟩, stagedHost) :=
  Effect.run_eq (by decide +kernel) (by decide +kernel)

set_option maxRecDepth 100000 in
/-- The source text comes from the file that the program writes. -/
theorem service_pairedHost :
    (((Decompiler.mk {} writing.engine {}).service (.inArchive ⟨"/x.jar"⟩ (some "A"))).run
      pairedHost).1 = .ok "class A {}" := by
  have parsed : ClassFile.parse leafClass = .ok ⟨"A", none, [], []⟩ := by decide +kernel
  have launched : (writing.launch stagedHost ⟨"/tmp/javadc-cfr-000000/A.class"⟩
      ⟨"/tmp/javadc-cfr-000000"⟩ {}).1 = .ok "class A {}" := by
    decide +kernel
  have planned : ∀ request, writing.planFor request ⟨"A", none, [], []⟩ = [] := by
    intro request
    rw [ExternalEngine.planFor, Staging.plan]
  have answered : ∀ lookup, ((writing.engine ⟨⟨"A", by decide⟩,
      lookupFor ⟨"A", by decide⟩ leafClass lookup, {}⟩).run (filledHost [2])).1 = .ok "class A {}" := by
    intro lookup
    rw [← launched]
    refine ExternalEngine.result_of_staged rfl (by decide) makeTemporary_filledHost parsed
      write_stagingHost ?_
    rw [planned]
    rfl
  have found : ((Decompiler.mk {} writing.engine {}).settings.find
      (.inArchive ⟨"/x.jar"⟩ (some "A"))).run pairedHost = _ := findInArchive_pairedHost
  rw [Decompiler.service, Effect.run_adapt, Decompiler.decompile, Effect.run_bind_of_ok found,
    Decompiler.result_of_decompileLocated]
  dsimp only
  rw [answered]
  rfl

set_option maxRecDepth 100000 in
/-- The theorem on a request that fails when it has extracted an archive up to damaged content, and on
one for which the program writes in its staging directory. -/
theorem leaves_no_trace_written :
    pairedHost.tree.IsClosed ∧ writing.IsConfined ∧
      (Archive.extractAll ⟨"/torn.jar"⟩ ⟨"/tmp/javadc-jar-000000"⟩).run openedHost =
        (.error (.extraction ⟨"/torn.jar"⟩ (.archive .checksum)), filledHost [3]) ∧
      ((Decompiler.mk {} writing.engine {}).service (.inArchive ⟨"/torn.jar"⟩ (some "A"))).run
          pairedHost =
        (.error ⟨.jar, .extraction ⟨"/torn.jar"⟩ (.archive .checksum)⟩, pairedHost) ∧
      (∃ located, (SearchSettings.findInArchive {} ⟨"/x.jar"⟩ (some "A")).run pairedHost =
          (.ok located, filledHost [2]) ∧
        located.workspace = some ⟨⟨"/tmp/javadc-jar-000000"⟩⟩ ∧
        (filledHost [2]).removeAll ⟨"/tmp/javadc-jar-000000"⟩ = pairedHost) ∧
      ((Decompiler.mk {} writing.engine {}).service (.inArchive ⟨"/x.jar"⟩ (some "A"))).run
          pairedHost = (.ok "class A {}", pairedHost) := by
  have closed : pairedHost.tree.IsClosed := by decide
  have quiet := ExternalEngine.isQuiet_engine isConfined_writing
  have general := fun target host closed => leaves_no_trace ⟨{}, writing.engine, {}⟩ target host closed
    quiet writing isConfined_writing
  have torn := (general (.inArchive ⟨"/torn.jar"⟩ (some "A")) pairedHost closed).1
  have whole := (general (.inArchive ⟨"/x.jar"⟩ (some "A")) pairedHost closed).1
  -- On a given host the search would be run here, so this is said of every host.
  have removed : ∀ (host : Host) located after, host.tree.IsClosed →
      (SearchSettings.findInArchive {} ⟨"/x.jar"⟩ (some "A")).run host = (.ok located, after) →
      ∃ workspace, located.workspace = some workspace ∧ after.removeAll workspace.path = host := by
    intro host located after closed ran
    have searched := (general (.inArchive ⟨"/x.jar"⟩ (some "A")) host closed).2.1 ⟨"/x.jar"⟩
      (some "A")
    rw [ran] at searched
    obtain ⟨workspace, _, held, -, -, -, removed, -⟩ := searched
    exact ⟨workspace, held, removed⟩
  have stopped : (Archive.extractAll ⟨"/torn.jar"⟩ ⟨"/tmp/javadc-jar-000000"⟩).run openedHost =
      (.error (.extraction ⟨"/torn.jar"⟩ (.archive .checksum)), filledHost [3]) :=
    Effect.run_eq (by decide +kernel) (by decide +kernel)
  have failed : (((Decompiler.mk {} writing.engine {}).service (.inArchive ⟨"/torn.jar"⟩
      (some "A"))).run pairedHost).1 =
        .error ⟨.jar, .extraction ⟨"/torn.jar"⟩ (.archive .checksum)⟩ := by
    decide +kernel
  obtain ⟨_, held, left⟩ := removed _ _ _ closed findInArchive_pairedHost
  obtain rfl := Option.some.inj held
  exact ⟨closed, isConfined_writing, stopped, Effect.run_eq failed torn,
    ⟨_, findInArchive_pairedHost, rfl, left⟩, Effect.run_eq service_pairedHost whole⟩

end DecompileServer

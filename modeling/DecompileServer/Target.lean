import DecompileServer.Inference
import DecompileServer.Workspace

/-!
# Finding classes

A request names a class in one of three ways: by the path of its file, by its name on a classpath,
or by its name inside an archive. Finding it gives its name, its bytes and, for a class from an
archive, the workspace in which the other classes of the archive can be looked up.
-/
namespace DecompileServer

/-- How a request names a class. -/
inductive Target where
  /-- By the path of a class file. -/
  | file (path : Path)
  /-- By a name to look for in directories, or in the default ones if none are given. -/
  | onClasspath (name : String) (classpath : List Path)
  /-- By a name in an archive. -/
  | inArchive (archive : Path) (className : Option String)
  deriving DecidableEq, Repr

/-- Where classes are looked for. -/
structure SearchSettings where
  /-- The variable of the environment that holds the default classpath. -/
  classpathVariable : String := "CLASSPATH"
  /-- The directory for workspaces, if not the one for temporary files. -/
  workspaceRoot : Option Path := none
  /-- How a bare class file gets its name. -/
  inference : Inference := .directory
  deriving DecidableEq, Repr

/-- A class that has been found. -/
structure Located where
  /-- The name of the class. -/
  name : ClassName
  /-- The content of its class file. -/
  bytes : List UInt8
  /-- The workspace with the other classes of its archive, if it comes from one. -/
  workspace : Option Workspace
  deriving DecidableEq

namespace Located

/-- Another class that comes with this one. -/
def auxiliary (located : Located) (host : Host) (name : String) : Option (List UInt8) :=
  located.workspace.bind fun workspace => workspace.lookup host name

/-- Removes what was made to find the class. -/
def release {ε : Type} (located : Located) : Effect ε Unit :=
  match located.workspace with
  | some workspace => workspace.release
  | none => pure ()

end Located

/-- The content of a class file. -/
def readClass (host : Host) (path : Path) : Except Failure (List UInt8) :=
  (host.read path).mapError (Failure.ofDisk path)

namespace SearchSettings

/-- Finds a class by the path of its file. An archive is refused without a look at the disk. -/
def findFile (settings : SearchSettings) (host : Host) (path : Path) : Except Failure Located := do
  if path.isArchive then throw (.notClassFile path)
  let bytes ← readClass host path
  let name ← (settings.inference.infer path bytes).mapError .invalidName
  pure { name, bytes, workspace := none }

/-- The directories to search: those given, else those of the variable of the environment, else the
working directory. -/
def searchRoots (settings : SearchSettings) (host : Host) (classpath : List Path) : List Path :=
  match classpath with
  | _ :: _ => classpath
  | [] =>
    match host.valueOf? settings.classpathVariable with
    | none => [host.workingPath]
    | some value =>
      if value = "" then [host.workingPath]
      else (Text.splitAt ':' value.toList).map fun piece => ⟨String.ofList piece⟩

/-- The first file in the directories that is the class file of a name. -/
def firstFile? (host : Host) (name : ClassName) (roots : List Path) : Option Path :=
  (roots.map fun root => root.join name.filePath).find? host.isFile

/-- Finds a class by its name on a classpath. -/
def findOnClasspath (settings : SearchSettings) (host : Host) (name : String)
    (classpath : List Path) : Except Failure Located := do
  let className ← (ClassName.ofDotted name).mapError .invalidName
  let roots := settings.searchRoots host classpath
  match firstFile? host className roots with
  | none => throw (.notOnClasspath name roots.length)
  | some path =>
    let bytes ← readClass host path
    pure { name := className, bytes, workspace := none }

/-- The name of a class in an archive, without white space around it; it may not be left out. -/
def wantedName (className : Option String) : Except Failure String :=
  match className.map Text.trim with
  | none => .error (.missingParameter "className")
  | some name => if name = "" then .error (.missingParameter "className") else .ok name

/-- Reads the wanted class of an archive from the workspace that the archive was extracted to. -/
def primaryOf (host : Host) (archive : Path) (entries : List String) (workspace : Workspace)
    (wanted : String) : Except Failure Located := do
  let name ← (ClassName.ofDotted wanted).mapError .invalidName
  if !entries.contains name.filePath then throw (.notInArchive wanted archive)
  let bytes ← readClass host (workspace.fileOf name)
  pure { name, bytes, workspace := some workspace }

/-- Finds a class in an archive by extracting all of it. A failure leaves no workspace. -/
def findInArchive (settings : SearchSettings) (archive : Path) (className : Option String) :
    Effect Failure Located := do
  let wanted ← wantedName className
  let entries ← Host.observe (Archive.classEntries · archive)
  if entries.isEmpty then throw (.emptyArchive archive)
  let workspace ← Workspace.create settings.workspaceRoot archive
  workspace.guarding do
    Archive.extractAll archive workspace.path
    Host.observe fun host => primaryOf host archive entries workspace wanted

/-- Finds the class that a request names. -/
def find (settings : SearchSettings) (target : Target) : Effect Failure Located :=
  match target with
  | .file path => Host.observe (settings.findFile · path)
  | .onClasspath name classpath =>
    Host.observe fun host => settings.findOnClasspath host name classpath
  | .inArchive archive className => settings.findInArchive archive className

end SearchSettings

end DecompileServer

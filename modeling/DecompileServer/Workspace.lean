import DecompileServer.Archive.Extraction
import DecompileServer.Disk.Temporary

/-!
# Workspaces

A workspace is a temporary directory that holds what one request has extracted from an archive. Each
has a name of its own, so requests never share one, and it lasts as long as the request.
-/
namespace DecompileServer

/-- A directory with the content of an archive. -/
structure Workspace where
  /-- The path of the directory. -/
  path : Path
  deriving DecidableEq

namespace Workspace

/-- The beginning of the name of every workspace. -/
def beginning : String := "javadc-jar-"

/-- Makes an empty workspace for an archive, below the given directory or the one for temporary
files. -/
def create (root : Option Path) (archive : Path) : Effect Failure Workspace := do
  let host ← get
  let path ← (Host.makeTemporary (root.getD host.temporaryPath) beginning).adapt
    fun (fault, path) => .extraction archive (.workspace fault path)
  pure ⟨path⟩

/-- Removes a workspace. -/
def release {ε : Type} (workspace : Workspace) : Effect ε Unit :=
  Host.discard workspace.path

/-- The file of a class in a workspace. -/
def fileOf (workspace : Workspace) (name : ClassName) : Path :=
  workspace.path.join name.filePath

/-- The class of the given name in a workspace, if the name is one and the class is there. -/
def lookup (workspace : Workspace) (host : Host) (name : String) : Option (List UInt8) :=
  match ClassName.ofText name with
  | .ok name => (host.read (workspace.fileOf name)).toOption
  | .error _ => none

/-- Runs an effect that uses a workspace and removes the workspace if the effect fails. -/
def guarding {ε α : Type} (workspace : Workspace) (use : Effect ε α) : Effect ε α :=
  ExceptT.mk fun host =>
    match use.run host with
    | (.ok value, after) => (.ok value, after)
    | (.error failure, after) => (.error failure, after.removeAll workspace.path)

end Workspace

end DecompileServer

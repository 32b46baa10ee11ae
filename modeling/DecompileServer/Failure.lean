import DecompileServer.Archive.Fault
import DecompileServer.ClassName
import DecompileServer.Path

/-!
# Failures of a request

The reasons for which a class cannot be found or decompiled. Each ends the request that met it, and
its wording is what the client is told.
-/
namespace DecompileServer

/-- Why an archive could not be extracted. -/
inductive ExtractionCause where
  /-- The archive, or a file of it, is at fault. -/
  | archive (fault : Archive.Fault)
  /-- The directory to extract to cannot be made. -/
  | workspace (fault : Disk.Fault) (path : Path)
  deriving DecidableEq, Repr

/-- The wording of a cause. -/
def ExtractionCause.message : ExtractionCause → String
  | .archive fault => fault.message
  | .workspace fault path =>
    "cannot create workspace: " ++ fault.message ++ " at path " ++ Text.quote path.text

/-- Why a request fails. -/
inductive Failure where
  /-- The file does not exist. -/
  | fileNotFound (path : Path)
  /-- An archive is given where one class file is wanted. -/
  | notClassFile (path : Path)
  /-- A parameter is missing. -/
  | missingParameter (name : String)
  /-- No directory of the classpath holds the class. -/
  | notOnClasspath (name : String) (searched : Nat)
  /-- The archive holds no class. -/
  | emptyArchive (path : Path)
  /-- The archive does not hold the class. -/
  | notInArchive (className : String) (path : Path)
  /-- The archive cannot be listed or extracted. -/
  | extraction (path : Path) (cause : ExtractionCause)
  /-- The engine fails. -/
  | engine (message : String)
  /-- The file cannot be read. -/
  | unreadable (path : Path)
  /-- The name is not that of a class. -/
  | invalidName (name : InvalidName)
  deriving DecidableEq, Repr

namespace Failure

/-- The wording of a failure. -/
def message : Failure → String
  | .fileNotFound path => "File not found: " ++ path.text
  | .notClassFile path =>
    path.text ++ " is a JAR archive, not a class file; use decompile-from-jar instead"
  | .missingParameter name => "Missing required parameter: " ++ name
  | .notOnClasspath name searched =>
    "Could not find class file for package: " ++ name ++ " (searched " ++ toString searched ++
      " classpath entries)"
  | .emptyArchive path => "No class files found in JAR: " ++ path.text
  | .notInArchive className path => "Class " ++ className ++ " not found in JAR: " ++ path.text
  | .extraction path cause => "Failed to extract JAR " ++ path.text ++ ": " ++ cause.message
  | .engine text => text
  | .unreadable path => "Failed to read " ++ path.text
  | .invalidName name => name.message

/-- Whether the request breaks down, so that nobody is left to word the failure. -/
def isBreakdown : Failure → Bool
  | .extraction _ (.archive .contradictory) => true
  | _ => false

/-- The failure to read a file that the disk refuses. -/
def ofDisk (path : Path) : Disk.Fault → Failure
  | .missing => .fileNotFound path
  | _ => .unreadable path

end Failure

end DecompileServer

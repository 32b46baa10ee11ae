import DecompileServer.Target

/-!
# Engines

An engine turns one class into source text. It asks for the bytes of classes by name, first of all
those of the class itself, and writes nowhere on the host but in directories of its own, which it
removes.
-/
namespace DecompileServer

/-- The choices that are passed to an engine. -/
structure EngineOptions where
  /-- Whether imports of the core packages are left out. -/
  hideLangImports : Bool := true
  /-- Whether the source begins with the version of the engine. -/
  showVersion : Bool := false
  deriving DecidableEq, Repr

/-- Gives the bytes of a class by its name, if it is known. No bytes at all stand for a class that
needs none. -/
abbrev ClassLookup := String → Option (List UInt8)

/-- What an engine is asked to do. -/
structure EngineRequest where
  /-- The name of the class. -/
  name : ClassName
  /-- Gives the bytes of classes. -/
  lookup : ClassLookup
  /-- The choices. -/
  options : EngineOptions

/-- Why an engine fails. -/
inductive EngineFault where
  /-- The bytes are not a class file. -/
  | invalidClassFile (reason : String)
  /-- The class is not known. -/
  | classUnavailable (name : String)
  /-- The archive of the external program is missing. -/
  | programMissing (path : Path)
  /-- The external program cannot be started. -/
  | notStarted (program : String)
  /-- The external program ends with an error. -/
  | programFailed (errors : String)
  /-- The classes cannot be written for the external program. -/
  | staging
  /-- Another reason. -/
  | other (reason : String)
  deriving DecidableEq, Repr

/-- The wording of a fault. -/
def EngineFault.message : EngineFault → String
  | .invalidClassFile reason => "Invalid class file: " ++ reason
  | .classUnavailable name => "Class bytes unavailable for " ++ name
  | .programMissing path => "CFR jar not found at " ++ path.text ++ " (set CFR_JAR or pass --cfr)"
  | .notStarted program => "Failed to execute " ++ program ++ " (ensure a JRE/JDK is installed)"
  | .programFailed errors => "CFR decompilation failed: " ++ errors
  | .staging => "Failed to stage classes for decompilation"
  | .other reason => reason

/-- A way to decompile. -/
abbrev Engine := EngineRequest → Effect EngineFault String

/-- An engine that looks at its request alone. -/
def Engine.ofFunction (decompile : EngineRequest → Except EngineFault String) : Engine :=
  fun request => Host.observe fun _ => decompile request

/-- The package whose classes need no bytes. -/
def corePackage : String := "java/lang/"

/-- The lookup for the class of the given name and bytes: itself, then what else is known, then the
core classes, which need no bytes. -/
def lookupFor (name : ClassName) (bytes : List UInt8) (auxiliary : ClassLookup) : ClassLookup :=
  fun asked =>
    if asked = name.text then some bytes
    else
      match auxiliary asked with
      | some found => some found
      | none => if Text.startsWith asked corePackage then some [] else none

end DecompileServer

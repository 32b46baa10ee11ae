import DecompileServer.Disk.Temporary
import DecompileServer.Engine.Staging
import DecompileServer.Program.Command

/-!
# The external engine

The engine runs an external program on class files in a directory of their own, which is removed
again whatever happens. The program gets the class under the name that its file declares, so that
the program's own lookups agree with it.
-/
namespace DecompileServer

/-- How the external program is run. -/
structure ExternalEngine where
  /-- The archive of the program. -/
  archive : Path
  /-- The virtual machine that runs it. -/
  machine : String := "java"
  /-- The greatest number of classes to stage beside the one to decompile. -/
  budget : Nat := 512
  /-- Runs commands. -/
  launcher : Launcher

namespace ExternalEngine

/-- The beginning of the name of every staging directory. -/
def beginning : String := "javadc-cfr-"

/-- The word for a truth value. -/
def flag (value : Bool) : String :=
  if value then "true" else "false"

/-- The command that decompiles a staged class. -/
def command (engine : ExternalEngine) (staged directory : Path) (options : EngineOptions) :
    Command where
  program := engine.machine
  arguments :=
    ["-jar", engine.archive.text, staged.text, "--extraclasspath", directory.text,
      "--hidelangimports", flag options.hideLangImports, "--showversion", flag options.showVersion,
      "--silent", "true"]

/-- What the outcome of the external program says. -/
def resultOf (outcome : Outcome) : Except EngineFault String :=
  if outcome.succeeded then .ok (Utf8.decodeLossy outcome.output)
  else .error (.programFailed (Text.trim (Utf8.decodeLossy outcome.errors)))

/-- The source text that the external program writes for a staged class, and how it leaves the
host. -/
def launch (engine : ExternalEngine) (host : Host) (staged directory : Path)
    (options : EngineOptions) : Except EngineFault String × Host :=
  if !host.isFile engine.archive then (.error (.programMissing engine.archive), host)
  else
    match engine.launcher host (engine.command staged directory options) with
    | none => (.error (.notStarted engine.machine), host)
    | some (outcome, after) => (resultOf outcome, after)

/-- The name under which a class is staged: the one that it declares, if that is well formed. -/
def stagedName (name : ClassName) (summary : ClassFile.Summary) : ClassName :=
  match ClassName.ofText summary.declared with
  | .ok declared => declared
  | .error _ => name

/-- The plan for the classes that a class may need. -/
def planFor (engine : ExternalEngine) (request : EngineRequest) (summary : ClassFile.Summary) :
    List StagingStep :=
  Staging.plan request.lookup [summary.declared, request.name.text] engine.budget summary.references

/-- The names that were asked for, and the result. -/
structure Traced where
  /-- The names, in order. -/
  asked : List String
  /-- The source text, or why there is none. -/
  result : Except EngineFault String

/-- Stages a class with those that it may need and runs the external program on it. -/
def decompileIn (engine : ExternalEngine) (request : EngineRequest) (directory : Path)
    (primary : List UInt8) (host : Host) : Traced × Host :=
  match ClassFile.parse primary with
  | .error fault =>
    (⟨[], .error (.invalidClassFile (request.name.text ++ ": " ++ fault.message))⟩, host)
  | .ok summary =>
    match (Staging.write directory (stagedName request.name summary) primary).run host with
    | (.error _, after) => (⟨[], .error .staging⟩, after)
    | (.ok staged, after) =>
      let steps := engine.planFor request summary
      match (Staging.writeAll directory steps).run after with
      | (.error written, last) => (⟨written.map (·.asked), .error .staging⟩, last)
      | (.ok (), staging) =>
        let (result, last) := engine.launch staging staged directory request.options
        (⟨steps.map (·.asked), result⟩, last)

/-- Decompiles a class, keeping the names that are asked for. -/
def trace (engine : ExternalEngine) (request : EngineRequest) (host : Host) : Traced × Host :=
  let name := request.name.text
  match request.lookup name with
  | none => (⟨[name], .error (.classUnavailable name)⟩, host)
  | some primary =>
    if !ClassFile.hasMagic primary then
      (⟨[name], .error (.invalidClassFile (name ++ ": missing class-file magic"))⟩, host)
    else
      match (Host.makeTemporary host.temporaryPath beginning).run host with
      | (.error _, after) => (⟨[name], .error .staging⟩, after)
      | (.ok directory, after) =>
        let (traced, last) := engine.decompileIn request directory primary after
        (⟨name :: traced.asked, traced.result⟩, last.removeAll directory)

/-- The engine that runs the external program. -/
def engine (external : ExternalEngine) : Engine := fun request =>
  ExceptT.mk fun host =>
    let (traced, after) := external.trace request host
    (traced.result, after)

end ExternalEngine

end DecompileServer

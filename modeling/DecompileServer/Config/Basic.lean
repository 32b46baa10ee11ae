import DecompileServer.Log.Level
import DecompileServer.Decompiler
import DecompileServer.Engine.External

/-!
# Configuration

Everything that can be set about the server, with the values that hold unless something else is set,
and the rules that a configuration has to obey.
-/
namespace DecompileServer

/-- What can be set about the external engine. -/
structure EngineConfig where
  /-- The archive of the external program, if it is not in its usual place. -/
  archive : Option Path := none
  /-- The virtual machine that runs it. -/
  machine : String := "java"
  /-- The choices that are passed to it. -/
  options : EngineOptions := {}
  /-- The greatest number of classes to stage beside the one to decompile. -/
  budget : Nat := 512
  deriving DecidableEq, Repr

/-- The address that HTTP is served on. -/
structure HttpConfig where
  /-- The host. -/
  host : String := "127.0.0.1"
  /-- The port. -/
  port : UInt16 := 3000
  deriving DecidableEq, Repr

/-- Everything that can be set about the server. -/
structure Config where
  /-- The external engine. -/
  engine : EngineConfig := {}
  /-- Where classes are looked for. -/
  search : SearchSettings := {}
  /-- The address for HTTP. -/
  http : HttpConfig := {}
  /-- The name of the level of the log. -/
  level : String := "warn"
  deriving DecidableEq, Repr

/-- Why a configuration is refused. -/
inductive ConfigRule where
  /-- No class may be staged. -/
  | noBudget
  /-- The virtual machine is not named. -/
  | blankMachine
  /-- The variable of the classpath is not named. -/
  | blankVariable
  /-- The port is zero. -/
  | zeroPort
  /-- There is no such level. -/
  | unknownLevel (name : String)
  /-- The variable for the port does not hold one. -/
  | noPort (value : String)
  deriving DecidableEq, Repr

/-- The name of the variable that sets the port. -/
def portVariable : String := "PORT"

/-- The wording of a broken rule. -/
def ConfigRule.message : ConfigRule → String
  | .noBudget => "decompiler.max_staged_classes must be at least 1"
  | .blankMachine => "decompiler.java must not be empty"
  | .blankVariable => "classpath.env_var must not be empty"
  | .zeroPort => "http.port must be between 1 and 65535"
  | .unknownLevel name =>
    "Invalid log level '" ++ name ++ "'. Must be one of: " ++ ", ".intercalate Level.names
  | .noPort value => portVariable ++ " must be a port number, got '" ++ value ++ "'"

namespace Config

/-- The first rule that a configuration breaks. -/
def brokenRule? (config : Config) : Option ConfigRule :=
  if config.engine.budget = 0 then some .noBudget
  else if Text.isBlankText config.engine.machine then some .blankMachine
  else if Text.isBlankText config.search.classpathVariable then some .blankVariable
  else if config.http.port = 0 then some .zeroPort
  else if Level.ofName? config.level = none then some (.unknownLevel config.level)
  else none

/-- Whether a configuration obeys all rules. -/
def IsValid (config : Config) : Prop :=
  config.engine.budget ≠ 0 ∧ ¬ Text.isBlankText config.engine.machine ∧
    ¬ Text.isBlankText config.search.classpathVariable ∧ config.http.port ≠ 0 ∧
    Level.ofName? config.level ≠ none

instance (config : Config) : Decidable config.IsValid := by
  unfold IsValid
  infer_instance

/-- A configuration breaks no rule exactly when it is valid. -/
theorem brokenRule?_eq_none_iff (config : Config) : config.brokenRule? = none ↔ config.IsValid := by
  unfold brokenRule? IsValid
  repeat' split
  all_goals simp_all

/-- The decompiler that a configuration describes, with the external engine in the given archive. -/
def decompiler (config : Config) (launcher : Launcher) (archive : Path) : Decompiler where
  settings := config.search
  engine := ExternalEngine.engine
    { archive, machine := config.engine.machine, budget := config.engine.budget, launcher }
  options := config.engine.options

end Config

end DecompileServer

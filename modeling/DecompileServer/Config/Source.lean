import DecompileServer.Config.Reader

/-!
# Where a configuration comes from

A configuration is read from the file that is named, or from the usual one if that exists. Variables
of the environment then override some of its parts.
-/
namespace DecompileServer

open Json (ReadFault)

/-- Why there is no configuration. -/
inductive ConfigFault where
  /-- The file that is named does not exist. -/
  | missing (path : Path)
  /-- The file cannot be read. -/
  | unreadable (path : Path)
  /-- The file does not hold a configuration. -/
  | malformed (path : Path) (fault : ReadFault)
  /-- The configuration breaks a rule. -/
  | invalid (rule : ConfigRule)
  deriving DecidableEq, Repr

/-- The wording of a fault. -/
def ConfigFault.message : ConfigFault → String
  | .missing path => "configuration file not found: " ++ path.text
  | .unreadable path => "failed to read configuration file: " ++ path.text
  | .malformed path fault =>
    "failed to parse configuration file: " ++ path.text ++ ": " ++ fault.message
  | .invalid rule => "configuration validation failed: " ++ rule.message

namespace Host

/-- The home directory of the user. -/
def homePath (host : Host) : Path :=
  match host.valueOf? "HOME" with
  | none | some "" => ⟨"/root"⟩
  | some home => ⟨home⟩

/-- The usual directory for the configuration and the external program. -/
def configDirectory (host : Host) : Path :=
  host.homePath.join ".java-decompiler-mcp"

/-- The usual file of the configuration. -/
def configPath (host : Host) : Path :=
  host.configDirectory.join "config.json"

/-- The usual place of the archive of the external program. -/
def archivePath (host : Host) : Path :=
  (host.configDirectory.join "tools").join "cfr.jar"

end Host

namespace Config

/-- The file to read the configuration from, if any. One that is named has to exist. -/
def sourceOf (host : Host) (named : Option Path) : Except ConfigFault (Option Path) :=
  match named with
  | some path => if host.holds path then .ok (some path) else .error (.missing path)
  | none => .ok (if host.holds host.configPath then some host.configPath else none)

/-- The text of a file. -/
def readSource (host : Host) (path : Path) : Except ConfigFault String :=
  match host.read path with
  | .error _ => .error (.unreadable path)
  | .ok bytes => (Utf8.decode bytes).mapError fun _ => .unreadable path

/-- The configuration, unless it breaks a rule. -/
def checked (config : Config) : Except ConfigFault Config :=
  match config.brokenRule? with
  | some rule => .error (.invalid rule)
  | none => .ok config

/-- The configuration of the file that is named, or of the usual one. Without either, everything is
as it is unless set. -/
def load (host : Host) (named : Option Path) : Except ConfigFault Config := do
  match ← sourceOf host named with
  | none => pure {}
  | some path =>
    let text ← readSource host path
    let config ← (ofText text).mapError (.malformed path)
    config.checked

/-- The value of a variable, unless it is blank. -/
def setting? (valueOf : String → Option String) (name : String) : Option String :=
  (valueOf name).filter fun value => !Text.isBlankText value

/-- The characters after a plus sign, if there is one. -/
def withoutPlus (characters : List Char) : List Char :=
  match characters with
  | '+' :: rest => rest
  | _ => characters

/-- The port that a text stands for: decimal digits, with a plus sign in front or without. -/
def portOfText? (text : String) : Option UInt16 :=
  let digits := withoutPlus text.toList
  if digits.isEmpty || !digits.all Char.isDigit then none
  else
    let value := digits.foldl (fun value digit => value * 10 + (digit.toNat - 48)) 0
    if bounded : value < UInt16.size then some (UInt16.ofNatLT value bounded) else none

/-- Replaces the archive and the virtual machine by what the environment says. -/
def withPrograms (config : Config) (valueOf : String → Option String) : Config :=
  let engine := config.engine
  { config with engine :=
    { engine with
      archive := ((setting? valueOf "CFR_JAR").map Path.mk).or engine.archive
      machine := (setting? valueOf "JAVADC_JAVA").getD engine.machine } }

/-- Applies the environment to a configuration. A variable for the port that holds none is a fault;
the other variables have been applied then. -/
def override (config : Config) (valueOf : String → Option String) : Except ConfigRule Unit × Config :=
  let changed := config.withPrograms valueOf
  match setting? valueOf portVariable with
  | none => (.ok (), changed)
  | some text =>
    match portOfText? (Text.trim text) with
    | some port =>
      if port = 0 then (.error (.noPort text), changed)
      else (.ok (), { changed with http := { changed.http with port } })
    | none => (.error (.noPort text), changed)

/-- Whether the environment asks for HTTP. -/
def wantsHttp (valueOf : String → Option String) : Bool :=
  (valueOf "MCP_USE_HTTP").any fun value => Text.equalsIgnoringCase (Text.trim value) "true"

/-- The archive of the external program: the one that is named, else the one of the configuration,
else the usual one. -/
def archive (config : Config) (host : Host) (named : Option Path) : Path :=
  (named.or config.engine.archive).getD host.archivePath

end Config

end DecompileServer

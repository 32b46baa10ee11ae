import DecompileServer.CommandLine.Arguments
import DecompileServer.Config.Source
import DecompileServer.Log.Filter
import DecompileServer.Log.Journal

/-!
# Starting the server

The arguments, the configuration and the environment together say how to serve, or that and why the
program ends at once.
-/
namespace DecompileServer.CommandLine

/-- How to serve. -/
structure Settings where
  /-- The configuration. -/
  config : Config
  /-- The archive of the external program. -/
  archive : Path
  /-- Whether to serve over HTTP. -/
  http : Bool
  /-- The filter of the log. -/
  filter : Log.Filter
  /-- What is said about the filter before anything else. -/
  notices : List String := []
  deriving DecidableEq, Repr

/-- Why the program ends without serving. -/
inductive Ending where
  /-- The arguments say so. -/
  | stopped (stop : Stop)
  /-- There is no configuration. -/
  | misconfigured (fault : ConfigFault)
  deriving DecidableEq, Repr

/-- The variable with the filter of the log. -/
def filterVariable : String := "RUST_LOG"

/-- The configuration that holds in the end. -/
def configFor (arguments : Arguments) (host : Host) : Except ConfigFault Config := do
  let loaded ← Config.load host arguments.config
  let (result, config) := loaded.override host.valueOf?
  result.mapError .invalid
  match arguments.port with
  | some port => pure { config with http := { config.http with port } }
  | none => pure config

/-- How to serve, given arguments that make sense. -/
def settingsFor (arguments : Arguments) (host : Host) : Except ConfigFault Settings := do
  let config ← configFor arguments host
  let filter := (host.valueOf? filterVariable).getD ""
  pure
    { config
      archive := config.archive host arguments.archive
      http := arguments.http || Config.wantsHttp host.valueOf?
      filter := .ofText filter (arguments.level config.level)
      notices := Log.Filter.notices filter }

/-- How to serve, or why not. -/
def start (arguments : List String) (host : Host) : Except Ending Settings := do
  let arguments ← (Arguments.read arguments).mapError .stopped
  (settingsFor arguments host).mapError .misconfigured

/-- What the program leaves when it has ended. -/
structure Report where
  /-- The exit status. -/
  status : Nat
  /-- What was written to the output. -/
  output : String := ""
  /-- The lines that were written to the error output. -/
  messages : List String := []
  deriving DecidableEq, Repr

/-- The line with the version. -/
def versionLine : String :=
  Session.serverName ++ " " ++ Session.serverVersion ++ "\n"

/-- The first line of the help. -/
def summaryLine : String :=
  "MCP server that decompiles Java .class and .jar bytecode into readable source"

/-- How the program is called. -/
def usageLine : String := "Usage: " ++ Session.serverName ++ " [OPTIONS] [CONFIG_FILE]"

/-- The help. -/
def helpText : String :=
  "\n".intercalate
    [summaryLine, "", usageLine, "", "Arguments:",
      "  [CONFIG_FILE]  Path to configuration file", "", "Options:",
      "      --http         Serve over HTTP instead of stdio (also enabled by MCP_USE_HTTP=true)",
      "      --port <PORT>  HTTP port (overrides PORT and the config file)",
      "      --cfr <FILE>   Path to cfr.jar (overrides CFR_JAR and the config file)",
      "  -v, --verbose...   Increase logging verbosity (-v for info, -vv for debug, -vvv for trace)",
      "  -q, --quiet        Decrease logging verbosity (only show errors)",
      "  -h, --help         Print help",
      "  -V, --version      Print version", ""]

/-- What a program leaves that does not serve. -/
def Ending.report : Ending → Report
  | .stopped .version => { status := 0, output := versionLine }
  | .stopped .help => { status := 0, output := helpText }
  | .stopped .mistake => { status := 2, messages := ["error: unexpected arguments", "", usageLine] }
  | .misconfigured fault => { status := 1, messages := ["Configuration error: " ++ fault.message] }

/-- The first line of a program that serves. -/
def banner : String := "Java Decompiler MCP Server v" ++ Session.serverVersion

/-- The lines of a program that begins to serve. -/
def Settings.messages (settings : Settings) : List String :=
  settings.notices ++ banner ::
    if settings.http then
      let port := toString settings.config.http.port.toNat
      ["Starting in HTTP mode on port " ++ port ++ "...",
        "MCP endpoint: http://" ++ settings.config.http.host ++ ":" ++ port ++ "/mcp"]
    else ["Starting in stdio mode..."]

/-- The decompiler that the settings describe. -/
def Settings.decompiler (settings : Settings) (launcher : Launcher) : Decompiler :=
  settings.config.decompiler launcher settings.archive

/-- The service that the settings describe. -/
def Settings.service (settings : Settings) (launcher : Launcher) : Service :=
  (settings.decompiler launcher).service

/-- What a program leaves whose conversation has ended. -/
def Settings.report (settings : Settings) (conversation : Conversation) : Report where
  status := if conversation.brokeDown then 101 else if conversation.fault.isNone then 0 else 1
  output := conversation.output
  messages := settings.messages

/-- What a program leaves that cannot listen for HTTP. -/
def Settings.unbound (settings : Settings) : Report where
  status := 1
  messages := settings.messages

/-- Runs the program where nothing can be listened on: over its input, or to the fault that HTTP
cannot be served. -/
def run (launcher : Launcher) (arguments : List String) (host : Host) (input : List UInt8) :
    Report × Host :=
  match start arguments host with
  | .error ending => (ending.report, host)
  | .ok settings =>
    if settings.http then (settings.unbound, host)
    else
      let conversation := Conversation.run (settings.service launcher) { host } input
      (settings.report conversation, conversation.host)

/-- The lines for the log of a program that serves. -/
def Settings.journal (settings : Settings) (launcher : Launcher) (host : Host) (input : List UInt8) :
    List Log.Line :=
  let missing := if host.isFile settings.archive then [] else [Log.Line.of Log.server .warn ["cfr_jar"]]
  let configured := Log.Line.of (Log.decompiling ++ "::service") .info ["cfr_jar", "java"]
  let failed := Log.Line.of Log.server .error ["error"]
  let service :=
    if settings.http then [failed]
    else
      let decompiler := settings.decompiler launcher
      let conversation := Conversation.run decompiler.service { host } input
      Log.Line.of Log.server .info [] ::
        Log.ofConversation decompiler { host } input ++
          if conversation.fault.isSome then [failed]
          else if conversation.brokeDown then []
          else [Log.Line.of Log.server .info []]
  missing ++ configured :: service

/-- The lines in the log of a program that has run where nothing can be listened on. -/
def logged (launcher : Launcher) (arguments : List String) (host : Host) (input : List UInt8) :
    List Log.Line :=
  match start arguments host with
  | .error _ => []
  | .ok settings => (settings.journal launcher host input).filter settings.filter.admits

end DecompileServer.CommandLine

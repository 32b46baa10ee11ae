import DecompileServer.CommandLine.Startup

/-!
# What a line can reach

The files that a line from a client may lead the server to read, known before it is handled.
-/
namespace DecompileServer

/-- The files that finding a class may read. -/
def SearchSettings.reach (settings : SearchSettings) (host : Host) : Target → List Path
  | .file path => [path]
  | .inArchive archive _ => [archive]
  | .onClasspath name classpath =>
    match ClassName.ofDotted name with
    | .ok className => (settings.searchRoots host classpath).map fun root => root.join className.filePath
    | .error _ => []

namespace CommandLine

/-- The target of the call of a tool that a line holds, if it does. -/
def targetOfLine? (line : String) : Option Target :=
  match Rpc.Message.ofLine line with
  | .ok (.request _ "tools/call" (some params)) =>
    match ToolCallParams.ofJson params with
    | .ok call => (Tools.targetOf call.name call.arguments).toOption
    | .error _ => none
  | _ => none

/-- The files that a line may lead the server to read. -/
def Settings.reach (settings : Settings) (host : Host) (line : String) : List Path :=
  match targetOfLine? line with
  | some target => settings.archive :: settings.config.search.reach host target
  | none => []

end CommandLine

end DecompileServer

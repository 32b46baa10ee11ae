import DecompileServer.CommandLine.Reach
import DecompileServer.Disk.Snapshot

/-!
# The program

The program reads what it needs of the machine into a host, lets the library do the work and writes
what the library says. It starts no other program and listens on no address.
-/
namespace DecompileServer

open CommandLine (Report Settings)

/-- What is stored at a path of the machine. -/
def nodeOnDisk (path : Path) : IO (Option Disk.Node) := do
  try
    let content ← IO.FS.readBinFile path.text
    return some (.file content.toList false)
  catch _ =>
    try
      let found ← IO.FS.realPath path.text
      return if ← found.isDir then some .directory else none
    catch _ => return none

/-- The host with what the machine stores at some paths. -/
def learn (host : Host) (paths : List Path) : IO Host :=
  paths.foldlM (fun host path => do
    match ← nodeOnDisk path with
    | some node => return host.knowing path node
    | none => return host) host

/-- The variables of the environment that the program always looks at. -/
def knownVariables : List String :=
  ["HOME", "TMPDIR", "CLASSPATH", "CFR_JAR", "JAVADC_JAVA", portVariable, "MCP_USE_HTTP",
    CommandLine.filterVariable]

/-- The host with a variable of the environment. -/
def learnVariable (host : Host) (name : String) : IO Host := do
  match ← IO.getEnv name with
  | some value => return { host with environment := (name, value) :: host.environment }
  | none => return host

/-- The host at the start of the program. -/
def startingHost : IO Host := do
  let directory : Path := ⟨toString (← IO.currentDir)⟩
  let bare : Host :=
    { tree := {}, workingDirectory := Disk.locationFrom [] directory.pieces, environment := [] }
  let host ← knownVariables.foldlM learnVariable bare
  let host := (host.knowing directory .directory).knowing host.temporaryPath .directory
  learn host [host.configPath, host.archivePath]

/-- Writes what the program leaves and gives its status. -/
def writeReport (report : Report) : IO UInt32 := do
  report.messages.forM IO.eprintln
  IO.print report.output
  return UInt32.ofNat report.status

/-- Reads bytes up to the end of a line, after those given last first. -/
partial def readLine (input : IO.FS.Stream) (before : List UInt8) : IO (List UInt8) := do
  match (← input.read 1).toList with
  | [] => return before.reverse
  | byte :: _ =>
    if byte = Rpc.Lines.newline then return (byte :: before).reverse
    else readLine input (byte :: before)

/-- Converses over the standard streams until the input ends or is at fault. -/
partial def converse (settings : Settings) (input output : IO.FS.Stream)
    (conversation : Conversation) : IO Conversation := do
  match Rpc.Lines.read (← readLine input []) with
  | none => return { conversation with session := conversation.session.shutdown }
  | some (.error fault, _) => return { conversation with fault := some fault }
  | some (.ok text, _) =>
    let host ← learn conversation.host (settings.reach conversation.host text)
    let after := { conversation with host, replies := [] }.next
      (settings.service Launcher.never) text
    output.putStr after.output
    output.flush
    if after.brokeDown then return after else converse settings input output after

/-- Serves as the settings say. -/
def serve (settings : Settings) (host : Host) : IO UInt32 := do
  if settings.http then writeReport settings.unbound
  else
    settings.messages.forM IO.eprintln
    let last ← converse settings (← IO.getStdin) (← IO.getStdout) { host }
    return UInt32.ofNat (settings.report last).status

end DecompileServer

open DecompileServer in
/-- Runs the program. -/
def main (arguments : List String) : IO UInt32 := do
  let host ← startingHost
  let host ← match CommandLine.Arguments.read arguments with
    | .ok given => learn host given.config.toList
    | .error _ => pure host
  match CommandLine.start arguments host with
  | .error ending => writeReport ending.report
  | .ok settings =>
    let host ← learnVariable host settings.config.search.classpathVariable
    serve settings host

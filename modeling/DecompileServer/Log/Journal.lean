import DecompileServer.Log.Line
import DecompileServer.Session.Conversation

/-!
# What a conversation writes to the log

A journal lists the lines for the log in order, whether or not a filter lets them through. Of the
external engine it says no more than that it has staged its classes.
-/
namespace DecompileServer.Log

/-- A line of the part that finds classes. -/
def locating (level : Level) (fields : List String) : Line :=
  .of (decompiling ++ "::locator") level fields

/-- A line about the workspace of an archive. -/
def workspaceLine : Line :=
  .of (decompiling ++ "::archive") .debug ["workspace"]

/-- The lines before a class is found, or is not. -/
def ofSearch (settings : SearchSettings) (host : Host) : Target → List Line
  | .file path =>
    match readClass host path with
    | .ok bytes =>
      if !path.isArchive && settings.inference == .classFile && !(ClassFile.parse bytes).toBool then
        [locating .debug ["path", "error"]]
      else []
    | .error _ => []
  | .onClasspath name classpath =>
    match ClassName.ofDotted name with
    | .ok className =>
      let roots := (settings.searchRoots host classpath).takeWhile fun root =>
        !host.isFile (root.join className.filePath)
      roots.map fun _ => locating .trace ["candidate"]
    | .error _ => []
  | .inArchive archive className =>
    match SearchSettings.wantedName className, Archive.classEntries host archive with
    | .ok _, .ok (_ :: _) => [workspaceLine]
    | _, _ => []

/-- The line about a class that has been found. -/
def ofFound : Target → Line
  | .file _ => locating .info ["mode", "path", "internal_name", "size"]
  | .onClasspath .. => locating .info ["mode", "name", "path", "size"]
  | .inArchive .. => locating .info ["mode", "jar", "internal_name", "entries", "workspace"]

/-- The lines about a workspace that is removed, as often as it was made. -/
def ofRemoval (target : Target) (search : List Line) : List Line :=
  match target with
  | .inArchive .. => search
  | _ => []

/-- The line about a request that fails. -/
def failedRequest : Line :=
  .of (decompiling ++ "::service") .info ["error"]

/-- The lines about a class that is handed to the engine. -/
def ofEngine (decompiler : Decompiler) (host : Host) (located : Located) (removal : List Line) :
    List Line :=
  let orchestrating (level : Level) (further : String) : Line :=
    .of (decompiling ++ "::orchestrator") level ["class", further]
  let staged :=
    if (ClassFile.parse located.bytes).toBool then
      [Line.of (decompiling ++ "::cfr") .debug ["class", "staged", "stage"]]
    else []
  let (answer, _) := (decompiler.decompileLocated located).run host
  orchestrating .debug "options" :: staged ++
    match answer with
    | .ok _ => removal ++ [Line.of (decompiling ++ "::service") .debug ["chars"]]
    | .error _ => orchestrating .warn "error" :: removal ++ [failedRequest]

/-- The lines about a request for source text. -/
def ofRequest (decompiler : Decompiler) (target : Target) (host : Host) : List Line :=
  let search := ofSearch decompiler.settings host target
  let removal := ofRemoval target search
  search ++
    match (decompiler.settings.find target).run host with
    | (.ok located, after) => ofFound target :: ofEngine decompiler after located removal
    | (.error failure, _) => removal ++ if failure.isBreakdown then [] else [failedRequest]

/-- A line of a session. -/
def conversing (level : Level) (fields : List String) : Line :=
  .of (clients ++ "::session") level fields

/-- The lines about a call of a tool. -/
def ofCall (decompiler : Decompiler) (params : Option Json.Value) (host : Host) : List Line :=
  match params.map ToolCallParams.ofJson with
  | some (.ok read) =>
    Line.of (clients ++ "::tools") .debug ["tool"] ::
      match Tools.targetOf read.name read.arguments with
      | .ok target => ofRequest decompiler target host
      | .error _ => []
  | _ => []

/-- The lines about a line that a session handles. -/
def ofLine (decompiler : Decompiler) (session : Session) (line : String) (host : Host) :
    List Line :=
  match Rpc.Message.ofLine line with
  | .error _ => [conversing .debug ["code"]]
  | .ok (.request id method params) =>
    conversing .debug ["id", "method"] ::
      match method, session.phase with
      | "initialize", .awaiting =>
        if (session.opening id params).2.phase = .awaiting then []
        else [conversing .info ["client", "requested_version"]]
      | "tools/call", .running => ofCall decompiler params host
      | _, _ => []
  | .ok (.notification method _) =>
    if (session.notification method).phase = session.phase then [conversing .trace ["method"]]
    else [conversing .info []]

/-- The lines about a conversation. -/
def ofConversation (decompiler : Decompiler) (conversation : Conversation) (input : List UInt8) :
    List Line :=
  match _found : Rpc.Lines.read input with
  | none => [.of (clients ++ "::server") .info []]
  | some (.error _, _) => []
  | some (.ok line, further) =>
    let lines :=
      if Text.isBlankText line then []
      else ofLine decompiler conversation.session line conversation.host
    let after := conversation.next decompiler.service line
    if after.session.phase = .shuttingDown || after.brokeDown then lines
    else lines ++ ofConversation decompiler after further
termination_by input.length
decreasing_by exact Rpc.Lines.length_lt_of_read _found

end DecompileServer.Log

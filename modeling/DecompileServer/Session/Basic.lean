import DecompileServer.Rpc.Message
import DecompileServer.Session.Params
import DecompileServer.Tools

/-!
# Sessions

A session is the conversation with one client. The client opens it with a request, confirms the
answer with a notification, and only then may use the tools. A session that is shut down stays so.
-/
namespace DecompileServer

open Rpc (Message Reply RequestId)

/-- How far a conversation has come. -/
inductive Phase where
  /-- The client has not opened it yet. -/
  | awaiting
  /-- The client has opened it but not confirmed the answer. -/
  | initialising
  /-- The client may use the tools. -/
  | running
  /-- The conversation is over. -/
  | shuttingDown
  deriving DecidableEq, Repr

/-- The conversation with one client. -/
structure Session where
  /-- How far it has come. -/
  phase : Phase := .awaiting
  /-- Who the client is, if it said so. -/
  client : Option ClientInfo := none
  deriving DecidableEq, Repr

/-- What a message leads to: a reply perhaps, and the session and the host as they are afterwards. -/
structure Turn where
  /-- The reply. -/
  reply : Option Reply
  /-- Whether there is none because the server broke down over the message. -/
  brokeDown : Bool := false
  /-- The session. -/
  session : Session
  /-- The host. -/
  host : Host

namespace Session

/-- The version of the protocol that the server speaks. -/
def protocolVersion : String := "2024-11-05"

/-- The name of the server. -/
def serverName : String := "java-decompiler-mcp"

/-- The version of the server. -/
def serverVersion : String := "0.1.0"

/-- The result for a client that opens a conversation. -/
def welcome : Json.Value :=
  .ofMembers
    [("protocolVersion", .string protocolVersion),
      ("capabilities", .ofMembers [("tools", .ofMembers [])]),
      ("serverInfo", .ofMembers
        [("name", .string serverName), ("version", .string serverVersion)])]

/-- The parameters of a request, or the reply to a request of which they are missing or wrong. -/
def readParams {α : Type} (id : RequestId) (what : String)
    (read : Json.Value → Except Json.ReadFault α) (params : Option Json.Value) : Except Reply α :=
  match params with
  | none => .error (.badParams id ("Missing " ++ what ++ " params"))
  | some value =>
    (read value).mapError fun fault =>
      .badParams id ("Invalid " ++ what ++ " params: " ++ fault.message)

/-- Opens the conversation. -/
def opening (session : Session) (id : RequestId) (params : Option Json.Value) : Reply × Session :=
  if session.phase ≠ .awaiting then (.untimely id "Server already initialised", session)
  else
    match readParams id "initialize" OpeningParams.ofJson params with
    | .error refusal => (refusal, session)
    | .ok read => (.result id welcome, { phase := .initialising, client := read.client })

/-- The reply to a request for the tools outside of their time. -/
def notRunning (id : RequestId) : Reply :=
  .untimely id "Server not initialised"

/-- Lists the tools. -/
def listTools (session : Session) (id : RequestId) : Reply :=
  if session.phase = .running then .result id (.ofMembers [("tools", Tools.definitions)])
  else notRunning id

/-- Calls a tool. There is no reply to a call over which the service breaks down. -/
def callTool (service : Service) (session : Session) (id : RequestId)
    (params : Option Json.Value) (host : Host) : Option Reply × Host :=
  if session.phase ≠ .running then (some (notRunning id), host)
  else
    match readParams id "tool call" ToolCallParams.ofJson params with
    | .error refusal => (some refusal, host)
    | .ok read =>
      let (result, after) := Tools.call service read.name read.arguments host
      (result.map fun result => .result id result.toJson, after)

/-- Answers a request. -/
def request (service : Service) (session : Session) (id : RequestId) (method : String)
    (params : Option Json.Value) (host : Host) : Turn :=
  match method with
  | "initialize" =>
    let (reply, after) := session.opening id params
    { reply := some reply, session := after, host }
  | "tools/list" => { reply := some (session.listTools id), session, host }
  | "tools/call" =>
    let (reply, after) := session.callTool service id params host
    { reply, brokeDown := reply.isNone, session, host := after }
  | "ping" => { reply := some (.result id (.ofMembers [])), session, host }
  | _ => { reply := some (.unknownMethod id method), session, host }

/-- Takes note of a notification. One that confirms the opening lets the client use the tools; any
other changes nothing. -/
def notification (session : Session) (method : String) : Session :=
  if method = "notifications/initialized" ∧ session.phase = .initialising then
    { session with phase := .running }
  else session

/-- Handles a message. -/
def handle (service : Service) (session : Session) (message : Message) (host : Host) : Turn :=
  match message with
  | .request id method params => session.request service id method params host
  | .notification method _ => { reply := none, session := session.notification method, host }

/-- Handles a line. -/
def handleLine (service : Service) (session : Session) (line : String) (host : Host) : Turn :=
  match Message.ofLine line with
  | .ok message => session.handle service message host
  | .error refusal => { reply := some refusal.reply, session, host }

/-- Ends the conversation. -/
def shutdown (session : Session) : Session :=
  { session with phase := .shuttingDown }

end Session

end DecompileServer

import DecompileServer.Http.Exchange
import DecompileServer.Session.Basic

/-!
# Sessions over HTTP

Many clients talk to one hub, each in a session of its own, which is opened by its first message and
named by a header from then on. A request is served in two steps: the first consults the directory
of open sessions, the second talks to the session or ends it. Between the two, steps of other
requests may come; a session that has been taken out of the directory is still there for those that
found it before.
-/
namespace DecompileServer.Http

open Rpc (Message)

/-- All sessions. -/
structure Hub where
  /-- The numbers of the open sessions, by their ids. -/
  directory : List (String × Nat) := []
  /-- Every session that was ever opened, in order. -/
  sessions : List Session := []
  /-- The host. -/
  host : Host
  deriving DecidableEq

namespace Hub

/-- The number of the open session with an id. -/
def find? (hub : Hub) (id : String) : Option Nat :=
  hub.directory.lookup id

/-- The session with a number. -/
def session (hub : Hub) (number : Nat) : Session :=
  (hub.sessions[number]?).getD {}

/-- Opens a session under an id. Its number is the number of sessions opened before. -/
def add (hub : Hub) (id : String) : Hub :=
  { hub with
    directory := hub.directory.filter (·.1 ≠ id) ++ [(id, hub.sessions.length)]
    sessions := hub.sessions ++ [{}] }

/-- Takes an id out of the directory. -/
def forget (hub : Hub) (id : String) : Hub :=
  { hub with directory := hub.directory.filter (·.1 ≠ id) }

/-- Replaces the session with a number. -/
def setSession (hub : Hub) (number : Nat) (session : Session) : Hub :=
  { hub with sessions := hub.sessions.set number session }

end Hub

/-- The header that names the session. -/
def sessionHeader : String := "mcp-session-id"

/-- The older name of that header. -/
def olderSessionHeader : String := "x-mcp-session-id"

/-- The id of the session that a request names. An unreadable or empty header names none, even if
the older one is there. -/
def Request.sessionId? (request : Request) : Option String :=
  match request.header? sessionHeader with
  | some value => (visibleText? value).filter (· ≠ "")
  | none => ((request.header? olderSessionHeader).bind visibleText?).filter (· ≠ "")

/-- A response with a JSON body. -/
def jsonResponse (status : Nat) (body : String) : Response :=
  { status, contentType := some "application/json", body }

/-- A response that tells what is wrong. -/
def errorResponse (status : Nat) (message : String) : Response :=
  jsonResponse status (Json.Value.ofMembers [("error", .string message)]).text

/-- The response to a request for a session that is not open. -/
def notFound (id : String) : Response :=
  errorResponse 404 ("Session not found: " ++ id)

/-- A response that tells in plain text what is wrong. -/
def plainResponse (status : Nat) (body : String) : Response :=
  { status, contentType := some "text/plain; charset=utf-8", body }

/-- The greatest number of bytes in a body. -/
def bodyLimit : Nat := 2097152

/-- The text of a body, or the response to a body that has none. -/
def textOfBody (body : List UInt8) : Except Response String :=
  if bodyLimit < body.length then
    .error (plainResponse 413 "Failed to buffer the request body: length limit exceeded")
  else
    (Utf8.decode body).mapError fun fault =>
      plainResponse 400 ("Request body didn't contain valid UTF-8: " ++ fault.message)

/-- Whether a message opens a session. -/
def opensSession (body : String) : Bool :=
  match Message.ofLine body with
  | .ok message => message.isRequestFor "initialize"
  | .error _ => false

/-- What is left of a request after the directory has been consulted. -/
inductive Errand where
  /-- A message for a session. -/
  | talk (id : String) (number : Nat) (line : String)
  /-- The end of a session. -/
  | close (number : Nat)
  /-- Nothing but the response. -/
  | done (response : Response)
  deriving DecidableEq, Repr

/-- The methods and the answer of a path. -/
inductive Route where
  /-- Messages and ends of sessions. -/
  | messages
  /-- The question whether the server is up. -/
  | health
  deriving DecidableEq, Repr

/-- The route of a path. -/
def Route.ofPath? (path : String) : Option Route :=
  if path = "/mcp" then some .messages else if path = "/health" then some .health else none

/-- The response to a method that a route does not have. -/
def Route.notAllowed (route : Route) : Response :=
  { status := 405, allow := some (match route with
    | .messages => "POST,DELETE"
    | .health => "GET,HEAD") }

/-- The response that the server is up. -/
def healthy : Response :=
  jsonResponse 200 (Json.Value.ofMembers [("status", .string "ok")]).text

namespace Hub

/-- Takes in a message. One that names no session has to open one, under the next id. -/
def arrivePost (hub : Hub) (ids : Nat → String) (request : Request) : Errand × Hub :=
  match textOfBody request.body with
  | .error refusal => (.done refusal, hub)
  | .ok line =>
    match request.sessionId? with
    | some id =>
      match hub.find? id with
      | some number => (.talk id number line, hub)
      | none => (.done (notFound id), hub)
    | none =>
      if opensSession line then
        let id := ids hub.sessions.length
        (.talk id hub.sessions.length line, hub.add id)
      else
        (.done (errorResponse 400
          "Missing Mcp-Session-Id header; only initialize opens a session"), hub)

/-- Takes in the end of a session, which is out of the directory from then on. -/
def arriveDelete (hub : Hub) (request : Request) : Errand × Hub :=
  match request.sessionId? with
  | none => (.done (errorResponse 400 "Missing Mcp-Session-Id header"), hub)
  | some id =>
    match hub.find? id with
    | some number => (.close number, hub.forget id)
    | none => (.done (notFound id), hub)

/-- The first step of a request. -/
def arrive (hub : Hub) (ids : Nat → String) (request : Request) : Errand × Hub :=
  match Route.ofPath? request.path with
  | none => (.done { status := 404 }, hub)
  | some .messages =>
    match request.method with
    | "POST" => hub.arrivePost ids request
    | "DELETE" => hub.arriveDelete request
    | _ => (.done Route.messages.notAllowed, hub)
  | some .health =>
    match request.method with
    | "GET" => (.done healthy, hub)
    | "HEAD" => (.done { healthy with body := "" }, hub)
    | _ => (.done Route.health.notAllowed, hub)

/-- The response to a message for a session. -/
def responseTo (id : String) (turn : Turn) : Response :=
  match turn.reply with
  | some reply => { jsonResponse 200 reply.text with session := some id }
  | none => { status := if turn.brokeDown then 500 else 202, session := some id }

/-- The second step of a request. -/
def perform (hub : Hub) (service : Service) (errand : Errand) : Response × Hub :=
  match errand with
  | .talk id number line =>
    let turn := (hub.session number).handleLine service line hub.host
    (responseTo id turn, { hub.setSession number turn.session with host := turn.host })
  | .close number =>
    ({ status := 204 }, hub.setSession number (hub.session number).shutdown)
  | .done response => (response, hub)

/-- Serves a request with no other in between. -/
def serve (hub : Hub) (ids : Nat → String) (service : Service) (request : Request) :
    Response × Hub :=
  let (errand, after) := hub.arrive ids request
  after.perform service errand

end Hub

end DecompileServer.Http

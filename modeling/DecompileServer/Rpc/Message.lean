import DecompileServer.Json.Draft
import DecompileServer.Rpc.Reply

/-!
# Incoming messages

A message is an object that names the version of the protocol and a method. With an id it is a
request, which wants a reply; without one it is a notification, which gets none.
-/
namespace DecompileServer.Rpc

/-- A message of a client. -/
inductive Message where
  /-- A message that wants a reply. -/
  | request (id : RequestId) (method : String) (params : Option Json.Value)
  /-- A message that wants none. -/
  | notification (method : String) (params : Option Json.Value)

/-- Why a line is no message. -/
inductive Refusal where
  /-- The line is not JSON. -/
  | notJson
  /-- The JSON is not a message; its id is given if only the method is at fault. -/
  | notRequest (id : Option RequestId)
  deriving DecidableEq

/-- The reply to a line that is no message. -/
def Refusal.reply : Refusal → Reply
  | .notJson => .notJson
  | .notRequest id => .notRequest id

namespace Message

/-- The name of the method. -/
def method : Message → String
  | .request _ method _ | .notification method _ => method

/-- The parameters of a message; `null` is the same as none. -/
def paramsOf (value : Json.Value) : Option Json.Value :=
  match value.member? "params" with
  | some .null => none
  | other => other

/-- The text under a key, or a refusal without an id. -/
def textOf (value : Json.Value) (key : String) : Except Refusal String :=
  match (value.member? key).bind Json.Value.string? with
  | some text => .ok text
  | none => .error (.notRequest none)

/-- The message that a value stands for. -/
def ofValue (value : Json.Value) : Except Refusal Message := do
  let version ← textOf value "jsonrpc"
  if version ≠ Reply.version then throw (.notRequest none)
  match value.member? "id" with
  | none =>
    let method ← textOf value "method"
    pure (.notification method (paramsOf value))
  | some idValue =>
    match RequestId.ofJson? idValue with
    | none => throw (.notRequest none)
    | some id =>
      let method ← textOf value "method"
      if method = "" then throw (.notRequest (some id))
      pure (.request id method (paramsOf value))

/-- The message of a line. -/
def ofLine (line : String) : Except Refusal Message :=
  match Json.parse line with
  | .error _ => .error .notJson
  | .ok value => ofValue value

/-- Whether a message is a request for the given method. -/
def isRequestFor (wanted : String) : Message → Bool
  | .request _ method _ => method = wanted
  | .notification .. => false

end Message

end DecompileServer.Rpc

import DecompileServer.Json.Printer

/-!
# Replies

A request is answered by one reply with its id, which holds a result or an error. An error also
answers what is no request at all; then it has no id.
-/
namespace DecompileServer.Rpc

/-- Whether an integer fits in 64 bits with a sign. -/
def isSigned (value : Int) : Bool :=
  -0x8000000000000000 ≤ value && value < 0x8000000000000000

/-- The id of a request. -/
inductive RequestId where
  /-- An integer that fits in 64 bits with a sign. -/
  | integer (value : Int) (fits : isSigned value = true)
  /-- A text. -/
  | text (value : String)
  deriving DecidableEq

/-- What is wrong when a reply holds an error. -/
inductive ErrorCode where
  /-- The line is not JSON. -/
  | parseError
  /-- The JSON is not a request, or not one for this moment. -/
  | invalidRequest
  /-- There is no such method. -/
  | methodNotFound
  /-- The parameters do not fit the method. -/
  | invalidParams
  /-- The server itself is at fault. -/
  | internalError
  deriving DecidableEq, Repr

namespace ErrorCode

/-- The number of a code. -/
def number : ErrorCode → Int
  | .parseError => -32700
  | .invalidRequest => -32600
  | .methodNotFound => -32601
  | .invalidParams => -32602
  | .internalError => -32603

/-- The usual wording of a code. -/
def message : ErrorCode → String
  | .parseError => "Parse error"
  | .invalidRequest => "Invalid Request"
  | .methodNotFound => "Method not found"
  | .invalidParams => "Invalid params"
  | .internalError => "Internal error"

end ErrorCode

/-- What is sent for an incoming message. -/
inductive Reply where
  /-- The result of a request. -/
  | result (id : RequestId) (value : Json.Value)
  /-- An error, with the id of the request if there is one. -/
  | error (id : Option RequestId) (code : ErrorCode) (message : String)

namespace RequestId

/-- An integer in the range of 64 bits with a sign is in the wider range of JSON integers. -/
theorem isWide_of_isSigned {value : Int} (fits : isSigned value = true) :
    Json.isWide value = true := by
  simp only [isSigned, Json.isWide, Bool.and_eq_true, decide_eq_true_eq] at fits ⊢
  omega

/-- The id as it is sent. -/
def toJson : RequestId → Json.Value
  | .integer value fits => .number (.integer value (isWide_of_isSigned fits))
  | .text value => .string value

/-- The id that a value stands for. -/
def ofJson? : Json.Value → Option RequestId
  | .number (.integer value _) => if fits : isSigned value = true then some (.integer value fits) else none
  | .string value => some (.text value)
  | _ => none

/-- The text of an id. -/
def display : RequestId → String
  | .integer value _ => toString value
  | .text value => value

end RequestId

namespace Reply

/-- The version that every message names. -/
def version : String := "2.0"

/-- Whether a reply holds an error. -/
def isError : Reply → Bool
  | .result .. => false
  | .error .. => true

theorem isError_iff {reply : Reply} :
    reply.isError = true ↔ ∃ id code message, reply = .error id code message := by
  cases reply with
  | result id value => simp [isError]
  | error id code message => simp [isError]

/-- The id of a reply. -/
def id? : Reply → Option RequestId
  | .result id _ => some id
  | .error id .. => id

/-- The members of a reply, in the order in which they are sent. -/
def members : Reply → List (String × Json.Value)
  | .result id value =>
    [("jsonrpc", .string version), ("id", id.toJson), ("result", value)]
  | .error id code message =>
    [("jsonrpc", .string version)] ++ (id.map fun id => ("id", id.toJson)).toList ++
      [("error", .object [("code", .integer code.number), ("message", .string message)])]

/-- The reply as a value. -/
def toJson (reply : Reply) : Json.Value :=
  .ofMembers reply.members

/-- The reply as it is sent. -/
def text (reply : Reply) : String :=
  String.ofList ('\x7b' :: (Json.Value.memberCharacters reply.members ++ ['\x7d']))

/-- The error for a line that is not JSON. -/
def notJson : Reply :=
  .error none .parseError ErrorCode.parseError.message

/-- The error for JSON that is not a request. -/
def notRequest (id : Option RequestId) : Reply :=
  .error id .invalidRequest ErrorCode.invalidRequest.message

/-- The error for a request that comes at the wrong moment. -/
def untimely (id : RequestId) (message : String) : Reply :=
  .error (some id) .invalidRequest message

/-- The error for a method that does not exist. -/
def unknownMethod (id : RequestId) (method : String) : Reply :=
  .error (some id) .methodNotFound ("Method not found: " ++ method)

/-- The error for parameters that do not fit. -/
def badParams (id : RequestId) (message : String) : Reply :=
  .error (some id) .invalidParams message

/-- The error for a fault of the server. -/
def serverFault (id : RequestId) (message : String) : Reply :=
  .error (some id) .internalError message

end Reply

end DecompileServer.Rpc

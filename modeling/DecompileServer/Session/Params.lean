import DecompileServer.Json.Record

/-!
# Parameters of requests

Two methods have parameters that are records. A member that is no field is passed over.
-/
namespace DecompileServer

open Json (RecordField ReadFault Reader RecordShape)

/-- Who a client is. -/
structure ClientInfo where
  /-- The name of the client. -/
  name : String
  /-- The version of the client. -/
  version : Option String
  deriving DecidableEq, Repr

/-- The parameters with which a client opens a conversation. -/
structure OpeningParams where
  /-- The version of the protocol that the client speaks. -/
  protocolVersion : String
  /-- What the client can do. -/
  capabilities : Json.Value
  /-- Who the client is. -/
  client : Option ClientInfo

/-- The parameters of a call of a tool. -/
structure ToolCallParams where
  /-- The name of the tool. -/
  name : String
  /-- The arguments. -/
  arguments : Json.Value

/-- The form of parameters. -/
def paramsShape {σ : Type} (name : String) (fields : List (RecordField σ)) : RecordShape σ where
  name
  fields
  isClosed := false
  surplus count := .shape (.wrongLength count "fewer elements in array")

/-- The form of a client. -/
def ClientInfo.shape : RecordShape ClientInfo :=
  paramsShape "ClientInfo"
    [(RecordField.of "name" (Reader.string "a string") fun name client => { client with name }).required,
      .of "version" (Reader.optional (Reader.string "a string")) fun version client =>
        { client with version }]

/-- The form of the parameters that open a conversation. -/
def OpeningParams.shape : RecordShape OpeningParams :=
  paramsShape "InitializeParams"
    [(RecordField.of "protocolVersion" (Reader.string "a string") fun protocolVersion params =>
        { params with protocolVersion }).required,
      .of "capabilities" Reader.value fun capabilities params => { params with capabilities },
      .of "clientInfo" (Reader.optional (ClientInfo.shape.reader ⟨"", none⟩)) fun client params =>
        { params with client }]

/-- The form of the parameters of a call of a tool. -/
def ToolCallParams.shape : RecordShape ToolCallParams :=
  paramsShape "ToolCallParams"
    [(RecordField.of "name" (Reader.string "a string") fun name params => { params with name }).required,
      .of "arguments" Reader.value fun arguments params => { params with arguments }]

/-- Reads the parameters that open a conversation. -/
def OpeningParams.ofJson (value : Json.Value) : Except ReadFault OpeningParams :=
  Json.readValue (shape.reader ⟨"", .null, none⟩) value

/-- Reads the parameters of a call of a tool. -/
def ToolCallParams.ofJson (value : Json.Value) : Except ReadFault ToolCallParams :=
  Json.readValue (shape.reader ⟨"", .null⟩) value

end DecompileServer

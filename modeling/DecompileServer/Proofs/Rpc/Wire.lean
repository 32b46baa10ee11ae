import DecompileServer.Proofs.Json.Printer
import DecompileServer.Proofs.Rpc.Lines
import DecompileServer.Proofs.Session.Echo
import DecompileServer.Proofs.Tools

/-!
# Replies on the wire

Replies are written one to a line, and the same lines are read back. Each says what its reply does
(`Reply.SaidBy`), so that a text in a reply, with whatever characters, is what the client gets
(`replies_survive`).
-/
namespace DecompileServer

open Rpc (Message Reply RequestId)

namespace Rpc

/-- The text of a reply has no controls, so no newline. -/
theorem Reply.hasNoControls_text (reply : Reply) : Json.HasNoControls reply.text.toList := by
  simp [Reply.text, Json.hasNoControls_members]

namespace Lines

/-- A text without controls is its line. -/
theorem strip_of_hasNoControls {characters : List Char} (visible : Json.HasNoControls characters) :
    strip (characters ++ ['\n']) = characters := by
  obtain same | carriage := strip_append characters
  · exact same
  · rw [carriage, Json.hasNoControls_append] at visible
    simp at visible

/-- A reply is read from the line that it is written to. -/
theorem read_write (reply : Reply) (more : List UInt8) :
    read (Utf8.encode (write reply) ++ more) = some (.ok reply.text, more) := by
  have visible := reply.hasNoControls_text
  have unbroken : newline ∉ Utf8.encode reply.text := by
    refine newline_notMem_encode fun character member => ?_
    rintro rfl
    exact absurd (visible '\n' member) (by decide)
  have whole : Utf8.encode (write reply) ++ more = Utf8.encode reply.text ++ newline :: more := by
    rw [write, Utf8.encode_append, List.append_assoc]
    rfl
  rw [whole, read_append_newline (Utf8.decode_encode _) unbroken, strip_of_hasNoControls visible,
    String.ofList_toList]

/-- Replies are read from the lines that they are written to, and nothing else is. -/
theorem readAll_write (replies : List Reply) :
    readAll (Utf8.encode (String.join (replies.map write))) =
      replies.map fun reply => .ok reply.text := by
  induction replies with
  | nil => exact readAll_eq_nil_iff.mpr rfl
  | cons first further ih =>
    have whole : Utf8.encode (String.join ((first :: further).map write)) =
        Utf8.encode (write first) ++ Utf8.encode (String.join (further.map write)) := by
      rw [← Utf8.encode_append]
      simp
    rw [whole, readAll_of_read (read_write first _), ih]
    rfl

end Lines

/-- Whether a reply is one that the server can send: if it holds a result, this is tidy. -/
def Reply.IsTidy : Reply → Prop
  | .result _ value => value.IsTidy 126
  | .error .. => True

/-- Whether a value says what a reply does: the version, the id if there is one, and the result or
the code and the message of the error. -/
structure Reply.SaidBy (reply : Reply) (value : Json.Value) : Prop where
  /-- The version. -/
  version : value.member? "jsonrpc" = some (.string "2.0")
  /-- The id. -/
  id : (value.member? "id").bind RequestId.ofJson? = reply.id?
  /-- There is no id at all if the reply has none. -/
  nameless : reply.id? = none → value.member? "id" = none
  /-- The result. -/
  result : ∀ id given, reply = .result id given →
    value.member? "result" = some given ∧ value.member? "error" = none
  /-- The error. -/
  error : ∀ id code message, reply = .error id code message →
    value.member? "result" = none ∧ ∃ error, value.member? "error" = some error ∧
      error.member? "code" = some (.integer code.number) ∧
      error.member? "message" = some (.string message)

namespace Reply

/-- The members of a tidy reply are tidy. -/
theorem IsTidy.members {reply : Reply} (tidy : reply.IsTidy) :
    ∀ member ∈ reply.members, member.2.IsTidy 126 := by
  have idTidy : ∀ id : RequestId, id.toJson.IsTidy 126 := by
    intro id
    cases id with
    | integer value fits => exact .integer 126 value _
    | text value => exact .string 126 value
  cases reply with
  | result id value =>
    simp only [Reply.members, List.mem_cons, List.not_mem_nil, or_false, forall_eq_or_imp, forall_eq]
    exact ⟨.string 126 version, idTidy id, tidy⟩
  | error id code message =>
    have number : (Json.Value.integer code.number).IsTidy 125 := by
      cases code <;> exact .integer 125 _ _
    have body : (Json.Value.object
        [("code", .integer code.number), ("message", .string message)]).IsTidy 126 := by
      have order : "code" < "message" := by decide
      refine .object (by simpa using order) ?_
      simp only [List.mem_cons, List.not_mem_nil, or_false, forall_eq_or_imp, forall_eq]
      exact ⟨number, .string 125 message⟩
    cases id with
    | none => simpa [Reply.members] using ⟨.string 126 version, body⟩
    | some id => simpa [Reply.members] using ⟨.string 126 version, idTidy id, body⟩

/-- The value of a reply says what the reply does. -/
theorem saidBy_toJson (reply : Reply) : reply.SaidBy reply.toJson := by
  have read : ∀ id : RequestId, RequestId.ofJson? id.toJson = some id := fun id =>
    RequestId.ofJson?_eq_some.mpr rfl
  cases reply with
  | result id value =>
    have whole : (Reply.result id value).toJson =
        .object [("id", id.toJson), ("jsonrpc", .string version), ("result", value)] := rfl
    rw [whole]
    refine ⟨rfl, read id, fun none => (by cases none), ?_, fun _ _ _ same => (by cases same)⟩
    rintro _ _ ⟨rfl, rfl⟩
    exact ⟨rfl, rfl⟩
  | error id code message =>
    cases id with
    | none =>
      refine ⟨rfl, rfl, fun _ => rfl, fun _ _ same => (by cases same), ?_⟩
      rintro _ _ _ ⟨rfl, rfl, rfl⟩
      exact ⟨rfl, _, rfl, rfl, rfl⟩
    | some id =>
      refine ⟨rfl, read id, fun none => (by cases none), fun _ _ same => (by cases same), ?_⟩
      rintro _ _ _ ⟨rfl, rfl, rfl⟩
      exact ⟨rfl, _, rfl, rfl, rfl⟩

/-- The text of a tidy reply says what the reply does. -/
theorem parse_text {reply : Reply} (tidy : reply.IsTidy) :
    ∃ value, Json.parse reply.text = .ok value ∧ reply.SaidBy value :=
  ⟨reply.toJson, Json.parse_members tidy.members, reply.saidBy_toJson⟩

end Reply

end Rpc

/-- The result of a call of a tool is tidy. -/
theorem ToolResult.isTidy_toJson (result : ToolResult) : result.toJson.IsTidy 3 := by
  have item : (Json.Value.ofMembers
      [("type", .string "text"), ("text", .string result.text)]).IsTidy 1 := by
    refine .ofMembers ?_
    simp only [List.mem_cons, List.not_mem_nil, or_false, forall_eq_or_imp, forall_eq]
    exact ⟨.string _ _, .string _ _⟩
  have content : (Json.Value.array [.ofMembers
      [("type", .string "text"), ("text", .string result.text)]]).IsTidy 2 :=
    .array (by simpa using item)
  unfold toJson
  refine .ofMembers fun member inside => ?_
  obtain rfl | flag := List.mem_cons.mp inside
  · exact content
  · split at flag
    · obtain rfl := List.mem_singleton.mp flag
      exact .boolean _ _
    · cases flag

/-- The only text of a result of a call is there as it is. -/
theorem ToolResult.exists_item (result : ToolResult) :
    ∃ item, result.toJson.member? "content" = some (.array [item]) ∧
      item.member? "text" = some (.string result.text) := by
  rw [toJson_eq]
  exact ⟨_, rfl, rfl⟩

namespace Tools

/-- The description of a text argument is tidy. -/
theorem isTidy_textSchema (description : String) : (textSchema description).IsTidy 2 := by
  refine .ofMembers ?_
  simp only [List.mem_cons, List.not_mem_nil, or_false, forall_eq_or_imp, forall_eq]
  exact ⟨.string _ _, .string _ _⟩

/-- The description of a tool is tidy. -/
theorem isTidy_definition (name description needed : String) {arguments : List (String × Json.Value)}
    (each : ∀ argument ∈ arguments, argument.2.IsTidy 2) :
    (definition name description arguments needed).IsTidy 5 := by
  have properties : (Json.Value.ofMembers arguments).IsTidy 3 := .ofMembers each
  have required : (Json.Value.array [.string needed]).IsTidy 3 :=
    .array (by simpa using Json.Value.IsTidy.string 2 needed)
  have schema : (Json.Value.ofMembers [("type", .string "object"),
      ("properties", .ofMembers arguments), ("required", .array [.string needed])]).IsTidy 4 := by
    refine .ofMembers ?_
    simp only [List.mem_cons, List.not_mem_nil, or_false, forall_eq_or_imp, forall_eq]
    exact ⟨.string _ _, properties, required⟩
  refine .ofMembers ?_
  simp only [List.mem_cons, List.not_mem_nil, or_false, forall_eq_or_imp, forall_eq]
  exact ⟨.string _ _, .string _ _, schema⟩

/-- The descriptions of the tools are tidy. -/
theorem isTidy_definitions : definitions.IsTidy 6 := by
  have items : (Json.Value.ofMembers [("type", .string "string")]).IsTidy 1 :=
    .ofMembers (by simpa using Json.Value.IsTidy.string 0 "string")
  have directories : (Json.Value.ofMembers
      [("type", .string "array"), ("items", .ofMembers [("type", .string "string")]),
        ("description", .string "Directories to search, first match wins")]).IsTidy 2 := by
    refine .ofMembers ?_
    simp only [List.mem_cons, List.not_mem_nil, or_false, forall_eq_or_imp, forall_eq]
    exact ⟨.string _ _, items, .string _ _⟩
  refine .array ?_
  simp only [List.mem_cons, List.not_mem_nil, or_false, forall_eq_or_imp, forall_eq]
  refine ⟨isTidy_definition _ _ _ ?_, isTidy_definition _ _ _ ?_, isTidy_definition _ _ _ ?_⟩
  · simpa using isTidy_textSchema _
  · simpa using ⟨isTidy_textSchema _, directories⟩
  · simpa using ⟨isTidy_textSchema _, isTidy_textSchema _⟩

end Tools

namespace Session

variable {service : Service} {session : Session} {line method : String} {host : Host}
  {id : RequestId} {params : Option Json.Value} {reply : Reply}

/-- The result for a client that opens a conversation is tidy. -/
theorem isTidy_welcome : welcome.IsTidy 3 := by
  have nothing : (Json.Value.ofMembers []).IsTidy 1 := .ofMembers (by simp)
  have capabilities : (Json.Value.ofMembers [("tools", .ofMembers [])]).IsTidy 2 :=
    .ofMembers (by simpa using nothing)
  have server : (Json.Value.ofMembers
      [("name", .string serverName), ("version", .string serverVersion)]).IsTidy 2 := by
    refine .ofMembers ?_
    simp only [List.mem_cons, List.not_mem_nil, or_false, forall_eq_or_imp, forall_eq]
    exact ⟨.string _ _, .string _ _⟩
  refine .ofMembers ?_
  simp only [List.mem_cons, List.not_mem_nil, or_false, forall_eq_or_imp, forall_eq]
  exact ⟨.string _ _, capabilities, server⟩

/-- The reply to a request is tidy. -/
theorem isTidy_of_request
    (replied : (session.request service id method params host).reply = some reply) :
    reply.IsTidy := by
  have room {depth : Nat} {value : Json.Value} (tidy : value.IsTidy depth) (bound : depth ≤ 126) :
      (Reply.result id value).IsTidy := tidy.mono bound
  cases answers_of_request replied with
  | refused => trivial
  | welcomed => exact room isTidy_welcome (by decide)
  | listed =>
    have tools : (Json.Value.ofMembers [("tools", Tools.definitions)]).IsTidy 7 :=
      .ofMembers (by simpa using Tools.isTidy_definitions)
    exact room tools (by decide)
  | called result => exact room result.isTidy_toJson (by decide)
  | alive =>
    have nothing : (Json.Value.ofMembers []).IsTidy 1 := .ofMembers (by simp)
    exact room nothing (by decide)

/-- The reply to a line is tidy. -/
theorem isTidy_of_handleLine (replied : (session.handleLine service line host).reply = some reply) :
    reply.IsTidy := by
  cases parsed : Message.ofLine line with
  | error refusal =>
    rw [handleLine, parsed] at replied
    obtain rfl := Option.some.inj replied
    cases refusal <;> trivial
  | ok message =>
    cases message with
    | request id method params =>
      rw [handleLine_of_request parsed] at replied
      exact isTidy_of_request replied
    | notification method params =>
      rw [handleLine, parsed] at replied
      cases replied

end Session

/-- What becomes of replies on the wire. They are read from the lines that they are written to, in
their order, and nothing else is; none has a newline. A tidy reply comes back from its line, with the
version, the id if it has one, and the result or the code and the message of the error, whatever
characters are in its texts. All replies of a server are tidy, and the client of a call gets its text
as it is. -/
theorem replies_survive :
    (∀ replies : List Reply,
      Rpc.Lines.readAll (Utf8.encode (String.join (replies.map Rpc.Lines.write))) =
        replies.map fun reply => .ok reply.text) ∧
    (∀ reply : Reply, '\n' ∉ reply.text.toList) ∧
    (∀ reply : Reply, reply.IsTidy →
      ∃ value, Json.parse reply.text = .ok value ∧ reply.SaidBy value) ∧
    (∀ (service : Service) (session : Session) (line : String) (host : Host) (reply : Reply),
      (session.handleLine service line host).reply = some reply → reply.IsTidy) ∧
    ∀ (id : RequestId) (result : ToolResult), ∃ value given item,
      Json.parse (Reply.result id result.toJson).text = .ok value ∧
        (Reply.result id result.toJson).SaidBy value ∧ value.member? "result" = some given ∧
        given.member? "content" = some (.array [item]) ∧
        item.member? "text" = some (.string result.text) := by
  refine ⟨Rpc.Lines.readAll_write, fun reply newline => ?_, fun reply tidy => reply.parse_text tidy,
    fun service session line host reply => Session.isTidy_of_handleLine, fun id result => ?_⟩
  · exact absurd (reply.hasNoControls_text '\n' newline) (by decide)
  · have tidy : (Reply.result id result.toJson).IsTidy := result.isTidy_toJson.mono (by decide)
    obtain ⟨value, parsed, said⟩ := Reply.parse_text tidy
    obtain ⟨item, content, text⟩ := result.exists_item
    exact ⟨value, result.toJson, item, parsed, said, (said.result id _ rfl).1, content, text⟩

end DecompileServer

import DecompileServer.Proofs.Effect
import DecompileServer.Session.Basic

/-!
# Turns

What a line can lead to. A session changes in two ways only: a request opens it, or a notification
confirms the opening (`handleLine_cases`). A request gets a reply with its id unless the service
breaks down over it, a notification gets none, and an error leaves the session as it was.
-/
namespace DecompileServer

open Rpc (Message Reply RequestId)

variable {service : Service} {session : Session} {line method : String} {host : Host}
  {id : RequestId} {params : Option Json.Value}

/-- Whether a line asks for the conversation to be opened, under the given id. -/
def Asks (id : RequestId) (line : String) : Prop :=
  ∃ params, Message.ofLine line = .ok (.request id "initialize" params)

/-- Whether a line confirms that the conversation has been opened. -/
def Confirms (line : String) : Prop :=
  ∃ params, Message.ofLine line = .ok (.notification "notifications/initialized" params)

/-- Whether a call of a tool with the given parameters reaches the service and breaks it down. -/
def CallBreaks (service : Service) (params : Option Json.Value) (host : Host) : Prop :=
  ∃ value read target failed, params = some value ∧ ToolCallParams.ofJson value = .ok read ∧
    Tools.targetOf read.name read.arguments = .ok target ∧
    ((service target).run host).1 = .error failed ∧ failed.failure.isBreakdown = true

/-- A call of a tool has no result exactly if the service breaks down over it. -/
theorem Tools.call_eq_none {name : String} {arguments : Json.Value} :
    (Tools.call service name arguments host).1 = none ↔
      ∃ target failed, Tools.targetOf name arguments = .ok target ∧
        ((service target).run host).1 = .error failed ∧ failed.failure.isBreakdown = true := by
  unfold Tools.call
  cases asked : Tools.targetOf name arguments with
  | error fault => simp
  | ok target =>
    rcases ran : (service target).run host with ⟨failed | source, after⟩
    · by_cases broken : failed.failure.isBreakdown = true
      · simp [ran, Tools.resultOf, broken]
      · simp [ran, Tools.resultOf, broken]
    · simp [ran, Tools.resultOf]

namespace Session

section Requests

/-- The reply to parameters that are missing or wrong is an error with the id of the request. -/
theorem readParams_eq_error {α : Type} {what : String}
    {read : Json.Value → Except Json.ReadFault α} {refusal : Reply}
    (refused : readParams id what read params = .error refusal) :
    ∃ message, refusal = .badParams id message := by
  unfold readParams at refused
  split at refused
  · exact ⟨_, (Except.error.inj refused).symm⟩
  · rename_i value
    cases found : read value with
    | error fault =>
      rw [found] at refused
      exact ⟨_, (Except.error.inj refused).symm⟩
    | ok result =>
      rw [found] at refused
      cases refused

/-- Parameters that are read were given. -/
theorem readParams_eq_ok {α : Type} {what : String} {result : α}
    {read : Json.Value → Except Json.ReadFault α} :
    readParams id what read params = .ok result ↔
      ∃ value, params = some value ∧ read value = .ok result := by
  unfold readParams
  cases params with
  | none => simp
  | some value => simp [Effect.except_mapError_eq_ok]

/-- A request to open gets a result exactly if nothing has been opened yet and its parameters can be
read. -/
theorem opening_cases (session : Session) (id : RequestId) (params : Option Json.Value) :
    (∃ read : OpeningParams, session.phase = .awaiting ∧
      session.opening id params = (.result id welcome, ⟨.initialising, read.client⟩)) ∨
    ∃ code message, session.opening id params = (.error (some id) code message, session) := by
  unfold opening
  split
  · exact .inr ⟨_, _, rfl⟩
  · rename_i awaiting
    split
    · rename_i refusal refused
      obtain ⟨message, rfl⟩ := readParams_eq_error refused
      exact .inr ⟨_, _, rfl⟩
    · rename_i read _
      exact .inl ⟨read, by simpa using awaiting, rfl⟩

/-- A call outside of the time for tools reaches nothing. -/
theorem callTool_of_not_running (outside : session.phase ≠ .running) :
    session.callTool service id params host = (some (notRunning id), host) := by
  rw [callTool, if_pos outside]

/-- A call has no reply exactly if it breaks the service down. -/
theorem callTool_eq_none : (session.callTool service id params host).1 = none ↔
    session.phase = .running ∧ CallBreaks service params host := by
  by_cases running : session.phase = .running
  · rw [callTool, if_neg (by simpa using running)]
    cases given : readParams id "tool call" ToolCallParams.ofJson params with
    | error refusal =>
      have unread : ¬CallBreaks service params host := by
        rintro ⟨value, read, _, _, found, reads, _⟩
        rw [readParams_eq_ok.mpr ⟨value, found, reads⟩] at given
        cases given
      simp [unread]
    | ok read =>
      obtain ⟨value, rfl, reads⟩ := readParams_eq_ok.mp given
      dsimp only
      rw [Option.map_eq_none_iff, Tools.call_eq_none]
      constructor
      · rintro ⟨target, failed, asked, answered, broken⟩
        exact ⟨running, value, read, target, failed, rfl, reads, asked, answered, broken⟩
      · rintro ⟨_, _, other, target, failed, same, again, asked, answered, broken⟩
        obtain rfl := Option.some.inj same
        obtain rfl := Except.ok.inj (reads.symm.trans again)
        exact ⟨target, failed, asked, answered, broken⟩
  · rw [callTool_of_not_running running]
    simp [running]

/-- A request has no reply exactly if it is a call of a tool that breaks the service down. -/
theorem reply_of_request_eq_none : (session.request service id method params host).reply = none ↔
    method = "tools/call" ∧ session.phase = .running ∧ CallBreaks service params host := by
  by_cases call : method = "tools/call"
  · subst call
    have called : (session.request service id "tools/call" params host).reply =
        (session.callTool service id params host).1 := rfl
    rw [called, callTool_eq_none]
    simp
  · unfold request
    split
    · simp [call]
    · simp [call]
    · contradiction
    · simp [call]
    · simp [call]

/-- What a request is answered with. -/
inductive Answers (id : RequestId) : Reply → Prop where
  /-- An error. -/
  | refused (code : Rpc.ErrorCode) (message : String) : Answers id (.error (some id) code message)
  /-- The result for a client that opens a conversation. -/
  | welcomed : Answers id (.result id welcome)
  /-- The tools. -/
  | listed : Answers id (.result id (.ofMembers [("tools", Tools.definitions)]))
  /-- The result of a tool. -/
  | called (result : ToolResult) : Answers id (.result id result.toJson)
  /-- A sign of life. -/
  | alive : Answers id (.result id (.ofMembers []))

/-- The reply to a call of a tool is a result of a tool or an error. -/
theorem answers_of_callTool {reply : Reply}
    (replied : (session.callTool service id params host).1 = some reply) : Answers id reply := by
  unfold callTool at replied
  split at replied
  · obtain rfl := Option.some.inj replied
    exact .refused _ _
  · split at replied
    · rename_i refusal refused
      obtain ⟨message, rfl⟩ := readParams_eq_error refused
      obtain rfl := Option.some.inj replied
      exact .refused _ _
    · dsimp only at replied
      obtain ⟨result, _, rfl⟩ := Option.map_eq_some_iff.mp replied
      exact .called result

/-- Every reply to a request is one of these. -/
theorem answers_of_request {reply : Reply}
    (replied : (session.request service id method params host).reply = some reply) :
    Answers id reply := by
  unfold request at replied
  split at replied
  · obtain ⟨read, _, opened⟩ | ⟨code, message, refused⟩ := opening_cases session id params
    · rw [opened] at replied
      obtain rfl := Option.some.inj replied
      exact .welcomed
    · rw [refused] at replied
      obtain rfl := Option.some.inj replied
      exact .refused code message
  · unfold listTools at replied
    split at replied
    · obtain rfl := Option.some.inj replied
      exact .listed
    · obtain rfl := Option.some.inj replied
      exact .refused _ _
  · exact answers_of_callTool replied
  · obtain rfl := Option.some.inj replied
    exact .alive
  · obtain rfl := Option.some.inj replied
    exact .refused _ _

/-- The reply to a request has its id. -/
theorem id?_of_request {reply : Reply}
    (replied : (session.request service id method params host).reply = some reply) :
    reply.id? = some id := by
  cases answers_of_request replied <;> rfl

/-- A request has a reply with its id exactly if it does not break the service down. -/
theorem exists_reply_of_request :
    (∃ reply, (session.request service id method params host).reply = some reply ∧
        reply.id? = some id) ↔
      ¬(method = "tools/call" ∧ session.phase = .running ∧ CallBreaks service params host) := by
  rw [← reply_of_request_eq_none]
  constructor
  · rintro ⟨reply, replied, _⟩ none
    rw [replied] at none
    cases none
  · intro some
    obtain ⟨reply, replied⟩ := Option.ne_none_iff_exists'.mp some
    exact ⟨reply, replied, id?_of_request replied⟩

/-- A request changes the session exactly if it opens it. -/
theorem session_of_request (service : Service) (session : Session) (id : RequestId)
    (method : String) (params : Option Json.Value) (host : Host) :
    (∃ read : OpeningParams, method = "initialize" ∧ session.phase = .awaiting ∧
      session.request service id method params host =
        { reply := some (.result id welcome), session := ⟨.initialising, read.client⟩, host }) ∨
    (session.request service id method params host).session = session ∧
      (method = "initialize" → ∃ code message,
        (session.request service id method params host).reply =
          some (.error (some id) code message)) := by
  by_cases opens : method = "initialize"
  · subst opens
    have opened : session.request service id "initialize" params host =
        { reply := some (session.opening id params).1, session := (session.opening id params).2,
          host } := rfl
    rw [opened]
    obtain ⟨read, awaiting, result⟩ | ⟨code, message, refused⟩ := opening_cases session id params
    · exact .inl ⟨read, rfl, awaiting, by rw [result]⟩
    · rw [refused]
      exact .inr ⟨rfl, fun _ => ⟨code, message, rfl⟩⟩
  · refine .inr ⟨?_, fun same => absurd same opens⟩
    unfold request
    split
    · contradiction
    · rfl
    · rfl
    · rfl
    · rfl

/-- A request for the tools outside of their time is refused and reaches nothing. -/
theorem request_of_not_running (outside : session.phase ≠ .running)
    (tools : method = "tools/list" ∨ method = "tools/call") :
    session.request service id method params host =
      { reply := some (notRunning id), session, host } := by
  rcases tools with rfl | rfl
  · have listed : session.request service id "tools/list" params host =
        { reply := some (session.listTools id), session, host } := rfl
    rw [listed, listTools, if_neg outside]
  · have called : session.request service id "tools/call" params host =
        { reply := (session.callTool service id params host).1,
          brokeDown := (session.callTool service id params host).1.isNone, session,
          host := (session.callTool service id params host).2 } := rfl
    rw [called, callTool_of_not_running outside]
    rfl

end Requests

section Lines

/-- A request is handled as one. -/
theorem handleLine_of_request (parsed : Message.ofLine line = .ok (.request id method params)) :
    session.handleLine service line host = session.request service id method params host := by
  rw [handleLine, parsed]
  rfl

/-- A line changes the session in two ways only: it opens it, or it confirms that. -/
theorem handleLine_cases (service : Service) (session : Session) (line : String) (host : Host) :
    (∃ id, ∃ read : OpeningParams, Asks id line ∧ session.phase = .awaiting ∧
      session.handleLine service line host =
        { reply := some (.result id welcome), session := ⟨.initialising, read.client⟩, host }) ∨
    (Confirms line ∧ session.phase = .initialising ∧
      session.handleLine service line host =
        { reply := none, session := { session with phase := .running }, host }) ∨
    ((session.handleLine service line host).session = session ∧
      (∀ id, Asks id line → ∃ code message,
        (session.handleLine service line host).reply = some (.error (some id) code message)) ∧
      (Confirms line → session.phase ≠ .initialising)) := by
  cases parsed : Message.ofLine line with
  | error refusal =>
    have handled : session.handleLine service line host =
        { reply := some refusal.reply, session, host } := by
      rw [handleLine, parsed]
    rw [handled]
    refine .inr (.inr ⟨rfl, ?_, ?_⟩)
    · rintro id ⟨params, asked⟩
      rw [parsed] at asked
      cases asked
    · rintro ⟨params, confirmed⟩
      rw [parsed] at confirmed
      cases confirmed
  | ok message =>
    cases message with
    | request id method params =>
      rw [handleLine_of_request parsed]
      obtain ⟨read, rfl, awaiting, opened⟩ | ⟨kept, refused⟩ :=
        session_of_request service session id method params host
      · exact .inl ⟨id, read, ⟨params, parsed⟩, awaiting, opened⟩
      · refine .inr (.inr ⟨kept, ?_, ?_⟩)
        · rintro other ⟨given, asked⟩
          rw [parsed] at asked
          cases asked
          exact refused rfl
        · rintro ⟨given, confirmed⟩
          rw [parsed] at confirmed
          cases confirmed
    | notification method params =>
      have handled : session.handleLine service line host =
          { reply := none, session := session.notification method, host } := by
        rw [handleLine, parsed]
        rfl
      rw [handled, notification]
      by_cases confirms : method = "notifications/initialized" ∧ session.phase = .initialising
      · obtain ⟨rfl, initialising⟩ := confirms
        rw [if_pos ⟨rfl, initialising⟩]
        exact .inr (.inl ⟨⟨params, parsed⟩, initialising, rfl⟩)
      · rw [if_neg confirms]
        refine .inr (.inr ⟨rfl, ?_, ?_⟩)
        · rintro id ⟨given, asked⟩
          rw [parsed] at asked
          cases asked
        · rintro ⟨given, confirmed⟩ initialising
          rw [parsed] at confirmed
          cases confirmed
          exact confirms ⟨rfl, initialising⟩

/-- A line that is answered with an error leaves the session. -/
theorem session_of_error {code : Rpc.ErrorCode} {message : String} {given : Option RequestId}
    (replied : (session.handleLine service line host).reply = some (.error given code message)) :
    (session.handleLine service line host).session = session := by
  obtain ⟨id, read, _, _, opened⟩ | ⟨_, _, confirmed⟩ | ⟨kept, _⟩ :=
    handleLine_cases service session line host
  · rw [opened] at replied
    cases replied
  · rw [confirmed] at replied
    cases replied
  · exact kept

/-- A notification gets no reply. -/
theorem reply_of_notification (parsed : Message.ofLine line = .ok (.notification method params)) :
    (session.handleLine service line host).reply = none ∧
      (session.handleLine service line host).brokeDown = false ∧
      (session.handleLine service line host).host = host := by
  rw [handleLine, parsed]
  exact ⟨rfl, rfl, rfl⟩

end Lines

end Session

end DecompileServer

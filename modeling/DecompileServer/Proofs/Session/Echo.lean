import DecompileServer.Proofs.Session.Lifecycle

/-!
# Replies that name their request

An id that can be read stands in the reply exactly if the line is a message of the right version
with a method, unless the service breaks down over it (`Session.echoes_id`). What lacks the version
or the method is refused before its id is read, so the refusal names no request.
-/
namespace DecompileServer

open Rpc (Message Reply RequestId)

/-- Whether a value can be the id of a request: a text, or an integer of 64 bits with a sign. -/
def IsReadableId : Json.Value → Prop
  | .string _ => True
  | .number (.integer value _) => -0x8000000000000000 ≤ value ∧ value < 0x8000000000000000
  | _ => False

variable {value idValue : Json.Value} {id : RequestId} {method : String}

/-- The values that can be read as ids. -/
theorem exists_ofJson? (readable : IsReadableId idValue) : ∃ id, RequestId.ofJson? idValue = some id := by
  match idValue, readable with
  | .string text, _ => exact ⟨.text text, rfl⟩
  | .number (.integer number _), ⟨low, high⟩ =>
    have fits : Rpc.isSigned number = true := by
      simp only [Rpc.isSigned, Bool.and_eq_true, decide_eq_true_eq]
      omega
    exact ⟨.integer number fits, dif_pos fits⟩

/-- A value is read as an id exactly if the id is sent as that value. -/
theorem Rpc.RequestId.ofJson?_eq_some : RequestId.ofJson? idValue = some id ↔ id.toJson = idValue := by
  constructor
  · intro read
    unfold RequestId.ofJson? at read
    split at read
    · split at read
      · obtain rfl := Option.some.inj read
        rfl
      · cases read
    · obtain rfl := Option.some.inj read
      rfl
    · cases read
  · rintro rfl
    cases id with
    | integer number fits => exact dif_pos fits
    | text => rfl

/-- A reply is sent with the value of an id exactly if it has the id. -/
theorem Rpc.Reply.mem_members {reply : Reply} (read : RequestId.ofJson? idValue = some id) :
    ("id", idValue) ∈ reply.members ↔ reply.id? = some id := by
  have same : ∀ other : RequestId, idValue = other.toJson ↔ other = id := by
    intro other
    rw [eq_comm, ← RequestId.ofJson?_eq_some, read, Option.some.injEq, eq_comm]
  cases reply with
  | result other result => simp [members, id?, same]
  | error given code message => cases given <;> simp [members, id?, same]

/-- The text under a key. -/
theorem Rpc.Message.textOf_eq (value : Json.Value) (key : String) :
    (∃ text, value.member? key = some (.string text) ∧ Message.textOf value key = .ok text) ∨
      (∀ text, value.member? key ≠ some (.string text)) ∧
        Message.textOf value key = .error (.notRequest none) := by
  unfold Message.textOf
  cases found : value.member? key with
  | none => exact .inr ⟨fun text => by simp, rfl⟩
  | some given => cases given <;> simp [Json.Value.string?]

/-- What a value stands for, by the values of its keys. -/
inductive Rpc.Message.Reading (value : Json.Value) : Except Refusal Message → Prop where
  /-- The version is another one, there is no method, or the id cannot be read. -/
  | malformed (wrong : value.member? "jsonrpc" ≠ some (.string Reply.version) ∨
      (∀ method, value.member? "method" ≠ some (.string method)) ∨
      ∃ idValue, value.member? "id" = some idValue ∧ RequestId.ofJson? idValue = none) :
      Reading value (.error (.notRequest none))
  /-- There is no id. -/
  | notification (method : String)
      (version : value.member? "jsonrpc" = some (.string Reply.version))
      (absent : value.member? "id" = none)
      (called : value.member? "method" = some (.string method)) :
      Reading value (.ok (.notification method (Message.paramsOf value)))
  /-- There is an id, and the method is empty. -/
  | nameless (idValue : Json.Value) (id : RequestId)
      (version : value.member? "jsonrpc" = some (.string Reply.version))
      (identified : value.member? "id" = some idValue)
      (known : RequestId.ofJson? idValue = some id)
      (called : value.member? "method" = some (.string "")) :
      Reading value (.error (.notRequest (some id)))
  /-- There is an id, and the method is not empty. -/
  | request (idValue : Json.Value) (id : RequestId) (method : String)
      (version : value.member? "jsonrpc" = some (.string Reply.version))
      (identified : value.member? "id" = some idValue)
      (known : RequestId.ofJson? idValue = some id)
      (called : value.member? "method" = some (.string method)) (named : method ≠ "") :
      Reading value (.ok (.request id method (Message.paramsOf value)))

/-- Every value is read in one of these ways. -/
theorem Rpc.Message.reading (value : Json.Value) : Reading value (ofValue value) := by
  unfold ofValue
  obtain ⟨version, stated, given⟩ | ⟨unstated, given⟩ := textOf_eq value "jsonrpc"
  · by_cases same : version = Reply.version
    · subst same
      cases identified : value.member? "id" with
      | none =>
        obtain ⟨method, called, asked⟩ | ⟨uncalled, asked⟩ := textOf_eq value "method"
        · simp only [bind, Except.bind, given, asked]
          exact .notification method stated identified called
        · simp only [bind, Except.bind, given, asked]
          exact .malformed (.inr (.inl uncalled))
      | some idValue =>
        cases known : RequestId.ofJson? idValue with
        | none =>
          simp only [bind, Except.bind, given, known]
          exact .malformed (.inr (.inr ⟨idValue, identified, known⟩))
        | some id =>
          obtain ⟨method, called, asked⟩ | ⟨uncalled, asked⟩ := textOf_eq value "method"
          · simp only [bind, Except.bind, given, known, asked]
            by_cases empty : method = ""
            · subst empty
              exact .nameless idValue id stated identified known called
            · rw [if_neg empty]
              exact .request idValue id method stated identified known called empty
          · simp only [bind, Except.bind, given, known, asked]
            exact .malformed (.inr (.inl uncalled))
    · simp only [bind, Except.bind, given]
      rw [if_pos same]
      exact .malformed (.inl (by simpa [stated] using same))
  · rw [given]
    exact .malformed (.inl (unstated _))

/-- A value with an id that can be read is a request for its method if it has the right version and
a method that is not empty, and is refused otherwise. -/
theorem Rpc.Message.ofValue_of_id (identified : value.member? "id" = some idValue)
    (read : RequestId.ofJson? idValue = some id) :
    (value.member? "jsonrpc" = some (.string Reply.version) ∧
      ∃ method, value.member? "method" = some (.string method) ∧
        Message.ofValue value =
          if method = "" then .error (.notRequest (some id))
          else .ok (.request id method (Message.paramsOf value))) ∨
    ((value.member? "jsonrpc" ≠ some (.string Reply.version) ∨
        ∀ method, value.member? "method" ≠ some (.string method)) ∧
      Message.ofValue value = .error (.notRequest none)) := by
  have reading := Message.reading value
  generalize Message.ofValue value = result at reading ⊢
  cases reading with
  | malformed wrong =>
    obtain unversioned | uncalled | ⟨other, same, unread⟩ := wrong
    · exact .inr ⟨.inl unversioned, rfl⟩
    · exact .inr ⟨.inr uncalled, rfl⟩
    · obtain rfl := Option.some.inj (identified.symm.trans same)
      exact absurd (read.symm.trans unread) (Option.some_ne_none id)
  | notification _ _ absent _ => exact absurd (identified.symm.trans absent) (Option.some_ne_none _)
  | nameless other _ version same known called =>
    obtain rfl := Option.some.inj (identified.symm.trans same)
    obtain rfl := Option.some.inj (read.symm.trans known)
    exact .inl ⟨version, "", called, rfl⟩
  | request other _ method version same known called named =>
    obtain rfl := Option.some.inj (identified.symm.trans same)
    obtain rfl := Option.some.inj (read.symm.trans known)
    exact .inl ⟨version, method, called, (if_neg named).symm⟩

namespace Session

/-- Whether a value is a call of a tool that reaches the service of a running session and breaks it
down. -/
def CallsAndBreaks (service : Service) (session : Session) (value : Json.Value) (host : Host) :
    Prop :=
  value.member? "method" = some (.string "tools/call") ∧ session.phase = .running ∧
    CallBreaks service (Message.paramsOf value) host

variable {service : Service} {session : Session} {line : String} {host : Host}

/-- A line is handled as what its value stands for. -/
theorem handleLine_of_value (parsed : Json.parse line = .ok value) :
    session.handleLine service line host =
      match Message.ofValue value with
      | .ok message => session.handle service message host
      | .error refusal => { reply := some refusal.reply, session, host } := by
  have ofLine : Message.ofLine line = Message.ofValue value := by simp [Message.ofLine, parsed]
  cases found : Message.ofValue value with
  | ok message => simp only [handleLine, ofLine, found]
  | error refusal => simp only [handleLine, ofLine, found]

/-- An id that can be read is echoed exactly if the line has the right version and a method and does
not break the service down. In particular one reply comes in every phase, whatever is wrong with
the method, the parameters or the moment. Without the version or a method the reply is an error
without an id, and the session and the host stay; over a breakdown there is no reply. -/
theorem echoes_id (service : Service) (session : Session) (host : Host) (line : String)
    (value idValue : Json.Value) (parsed : Json.parse line = .ok value)
    (identified : value.member? "id" = some idValue) (readable : IsReadableId idValue) :
    let turn := session.handleLine service line host
    let wellFormed := value.member? "jsonrpc" = some (.string "2.0") ∧
      ∃ method, value.member? "method" = some (.string method)
    ((∃ reply, turn.reply = some reply ∧ ("id", idValue) ∈ reply.members) ↔
      wellFormed ∧ ¬CallsAndBreaks service session value host) ∧
    (¬wellFormed → turn =
      { reply := some (.error none .invalidRequest "Invalid Request"), session, host }) ∧
    (wellFormed → CallsAndBreaks service session value host → turn.reply = none) := by
  intro turn wellFormed
  obtain ⟨id, read⟩ := exists_ofJson? readable
  simp only [Reply.mem_members read]
  have handled : turn = _ := handleLine_of_value parsed
  obtain ⟨named, method, called, given⟩ | ⟨malformed, given⟩ :=
    Message.ofValue_of_id identified read
  · have proper : wellFormed := ⟨named, method, called⟩
    have breaks : CallsAndBreaks service session value host ↔
        method = "tools/call" ∧ session.phase = .running ∧
          CallBreaks service (Message.paramsOf value) host := by
      rw [CallsAndBreaks, called, Option.some.injEq, Json.Value.string.injEq]
    rw [given] at handled
    by_cases empty : method = ""
    · subst empty
      have silent : ¬CallsAndBreaks service session value host := by simp [breaks]
      rw [if_pos rfl] at handled
      refine ⟨⟨fun _ => ⟨proper, silent⟩, fun _ => ?_⟩, fun improper => absurd proper improper,
        fun _ broken => absurd broken silent⟩
      rw [handled]
      exact ⟨_, rfl, rfl⟩
    · rw [if_neg empty] at handled
      change turn = session.request service id method (Message.paramsOf value) host at handled
      rw [handled, exists_reply_of_request, breaks]
      exact ⟨by simp [proper], fun improper => absurd proper improper,
        fun _ broken => reply_of_request_eq_none.mpr broken⟩
  · have improper : ¬wellFormed := by
      rintro ⟨named, method, called⟩
      exact malformed.elim (· named) (· method called)
    rw [given] at handled
    refine ⟨⟨?_, fun proper => absurd proper.1 improper⟩, fun _ => handled,
      fun proper => absurd proper improper⟩
    rw [handled]
    rintro ⟨reply, replied, known⟩
    obtain rfl := Option.some.inj replied
    cases known

end Session

/-- A line that asks for a sign of life, in the right version. -/
def pingLine : String :=
  "\x7b\"jsonrpc\":\"2.0\",\"id\":7,\"method\":\"ping\"\x7d"

/-- The same line without the version. -/
def versionlessLine : String :=
  "\x7b\"id\":7,\"method\":\"ping\"\x7d"

/-- The value of an integer id. -/
def seven : Json.Value :=
  .number (.integer 7 (by decide))

/-- The value of the line. -/
theorem parse_pingLine : Json.parse pingLine =
    .ok (.object [("id", seven), ("jsonrpc", .string "2.0"), ("method", .string "ping")]) := by
  cbv

/-- The value of the line without the version. -/
theorem parse_versionlessLine :
    Json.parse versionlessLine = .ok (.object [("id", seven), ("method", .string "ping")]) := by
  cbv

/-- The theorem on a session that has not been opened. -/
theorem echoes_id_ping :
    ∃ reply, (Session.handleLine constantService {} pingLine contradictoryHost).reply = some reply ∧
      ("id", seven) ∈ reply.members := by
  have readable : IsReadableId seven := ⟨by decide, by decide⟩
  obtain ⟨echoes, _⟩ := Session.echoes_id constantService {} contradictoryHost pingLine _ seven
    parse_pingLine rfl readable
  refine echoes.mpr ⟨⟨rfl, "ping", rfl⟩, ?_⟩
  rintro ⟨called, _⟩
  change some (Json.Value.string "ping") = some (.string "tools/call") at called
  simp at called

/-- A line with an id that can be read, of which the reply names none. -/
theorem reply_without_id :
    ∃ value, Json.parse versionlessLine = .ok value ∧ value.member? "id" = some seven ∧
      IsReadableId seven ∧
      (Session.handleLine constantService {} versionlessLine contradictoryHost).reply =
        some (.error none .invalidRequest "Invalid Request") := by
  refine ⟨_, parse_versionlessLine, rfl, ⟨by decide, by decide⟩, ?_⟩
  rw [Session.handleLine_of_value parse_versionlessLine]
  rfl

end DecompileServer

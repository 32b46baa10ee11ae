import DecompileServer.Proofs.Session.Turn
import Mathlib

/-!
# The life of a session

What a session answers to a line depends on everything that happened to it before. Its phase sums
that up (`tracks`): it tells whether the session has been shut down, whether a request to open it
got a result, and whether a notification confirmed that afterwards.
-/
namespace DecompileServer

open Rpc (Message Reply RequestId)

/-- What happens in the course of a sequence happens before its last element or at it. -/
theorem exists_split_concat {α : Type} {happens : List α → α → Prop} {sequence : List α} {last : α} :
    (∃ past found future, sequence ++ [last] = past ++ found :: future ∧ happens past found) ↔
      (∃ past found future, sequence = past ++ found :: future ∧ happens past found) ∨
        happens sequence last := by
  constructor
  · rintro ⟨past, found, future, whole, happened⟩
    by_cases ends : future = []
    · subst ends
      obtain ⟨rfl, same⟩ := List.append_inj' whole rfl
      obtain rfl := List.singleton_inj.mp same
      exact .inr happened
    · refine .inl ⟨past, found, future.dropLast, ?_, happened⟩
      have shorter := congrArg List.dropLast whole
      rwa [List.dropLast_concat, List.dropLast_append_of_ne_nil (by simp),
        List.dropLast_cons_of_ne_nil ends] at shorter
  · rintro (⟨past, found, future, rfl, happened⟩ | happened)
    · exact ⟨past, found, future ++ [last], by simp, happened⟩
    · exact ⟨sequence, last, [], rfl, happened⟩

namespace Session

/-- What can happen to a session. -/
inductive Event where
  /-- A line comes in. -/
  | line (text : String)
  /-- The session is shut down. -/
  | shutdown

/-- What a session and the host become by an event. -/
def step (service : Service) (state : Session × Host) : Event → Session × Host
  | .line text =>
    let turn := state.1.handleLine service text state.2
    (turn.session, turn.host)
  | .shutdown => (state.1.shutdown, state.2)

/-- A fresh session and the host after some events. -/
def stateAfter (service : Service) (host : Host) (events : List Event) : Session × Host :=
  events.foldl (step service) ({}, host)

/-- The answer of a session to a line after some events. -/
def turnAfter (service : Service) (host : Host) (past : List Event) (line : String) : Turn :=
  let state := stateAfter service host past
  state.1.handleLine service line state.2

/-- Whether something happened at one of the events. -/
def Once (happens : List Event → Event → Prop) (events : List Event) : Prop :=
  ∃ past event future, events = past ++ event :: future ∧ happens past event

/-- Whether an event is a request to open the session that gets a result. -/
def Opens (service : Service) (host : Host) (past : List Event) (event : Event) : Prop :=
  ∃ line id value, event = .line line ∧ Asks id line ∧
    (turnAfter service host past line).reply = some (.result id value)

/-- Whether a request to open the session got a result. -/
def Opened (service : Service) (host : Host) (events : List Event) : Prop :=
  Once (Opens service host) events

/-- Whether a notification confirmed the opening, after it. -/
def Confirmed (service : Service) (host : Host) (events : List Event) : Prop :=
  Once (fun past event => Opened service host past ∧ ∃ line, event = .line line ∧ Confirms line)
    events

/-- Whether it is the time for tools: the opening was confirmed, and nothing shut the session down.
-/
def Window (service : Service) (host : Host) (events : List Event) : Prop :=
  Confirmed service host events ∧ .shutdown ∉ events

/-- How the phase may move at an event. -/
inductive Moves : Phase → Event → Phase → Prop where
  /-- A line may leave the phase. -/
  | kept (phase : Phase) (line : String) : Moves phase (.line line) phase
  /-- A line may open the session. -/
  | opened (line : String) : Moves .awaiting (.line line) .initialising
  /-- A line may confirm the opening. -/
  | confirmed (line : String) : Moves .initialising (.line line) .running
  /-- Shutting down ends it. -/
  | ended (phase : Phase) : Moves phase .shutdown .shuttingDown

variable {service : Service} {host : Host} {events : List Event} {event : Event}

/-- Events come one after the other. -/
@[simp] theorem stateAfter_concat :
    stateAfter service host (events ++ [event]) =
      step service (stateAfter service host events) event := by
  simp [stateAfter]

/-- What happened up to the last event happened before or at it. -/
theorem once_concat {happens : List Event → Event → Prop} :
    Once happens (events ++ [event]) ↔ Once happens events ∨ happens events event :=
  exists_split_concat

/-- A session has been opened if it was before or is at the last event. -/
theorem opened_concat : Opened service host (events ++ [event]) ↔
    Opened service host events ∨ Opens service host events event :=
  once_concat

/-- The opening has been confirmed if it was before or is with the last line. -/
theorem confirmed_concat_line {line : String} :
    Confirmed service host (events ++ [.line line]) ↔
      Confirmed service host events ∨ Opened service host events ∧ Confirms line := by
  rw [Confirmed, once_concat]
  simp [Confirmed]

/-- A line does not shut the session down. -/
theorem shutdown_mem_concat_line {line : String} :
    Event.shutdown ∈ events ++ [.line line] ↔ .shutdown ∈ events := by
  simp

/-- What the phase of a session tells about the events before. -/
structure Tracks (service : Service) (host : Host) (events : List Event) (phase : Phase) :
    Prop where
  /-- The session is over exactly if it was shut down. -/
  ended : phase = .shuttingDown ↔ .shutdown ∈ events
  /-- Until then, it waits exactly if it was not opened. -/
  opened : phase ≠ .shuttingDown → (phase ≠ .awaiting ↔ Opened service host events)
  /-- Until then, it runs exactly if the opening was confirmed. -/
  confirmed : phase ≠ .shuttingDown → (phase = .running ↔ Confirmed service host events)

namespace Tracks

variable {session : Session} {left : Host} {line : String}

/-- A line that opens the session is the first one, so nothing has been confirmed. -/
theorem after_opening (tracks : Tracks service host events .awaiting)
    (opens : Opens service host events (.line line)) :
    Tracks service host (events ++ [.line line]) .initialising := by
  have fresh : ¬Opened service host events := by simp [← tracks.opened (by simp)]
  have notRunning : ¬Confirmed service host events := by simp [← tracks.confirmed (by simp)]
  refine ⟨?_, fun _ => ?_, fun _ => ?_⟩
  · rw [shutdown_mem_concat_line, ← tracks.ended]
    simp
  · rw [opened_concat]
    simp [opens]
  · rw [confirmed_concat_line]
    simp [fresh, notRunning]

/-- A line that confirms the opening comes after it. -/
theorem after_confirming (tracks : Tracks service host events .initialising)
    (confirming : Confirms line) : Tracks service host (events ++ [.line line]) .running := by
  have before : Opened service host events := by simp [← tracks.opened (by simp)]
  refine ⟨?_, fun _ => ?_, fun _ => ?_⟩
  · rw [shutdown_mem_concat_line, ← tracks.ended]
    simp
  · rw [opened_concat]
    simp [before]
  · rw [confirmed_concat_line]
    simp [before, confirming]

/-- A line that does neither leaves the phase. -/
theorem after_idle {phase : Phase} (tracks : Tracks service host events phase)
    (closed : ¬Opens service host events (.line line))
    (idle : Confirms line → phase ≠ .initialising) :
    Tracks service host (events ++ [.line line]) phase := by
  refine ⟨tracks.ended.trans shutdown_mem_concat_line.symm, fun alive => ?_, fun alive => ?_⟩
  · rw [tracks.opened alive, opened_concat]
    simp [closed]
  · rw [tracks.confirmed alive, confirmed_concat_line]
    refine ⟨.inl, ?_⟩
    rintro (confirmed | ⟨opened, confirming⟩)
    · exact confirmed
    · -- A session that was opened and does not wait for this notification was confirmed before.
      have started := (tracks.opened alive).mpr opened
      have waiting := idle confirming
      have running : phase = .running := by
        cases phase with
        | running => rfl
        | awaiting => exact absurd rfl started
        | initialising => exact absurd rfl waiting
        | shuttingDown => exact absurd rfl alive
      exact (tracks.confirmed alive).mp running

/-- A line keeps what the phase tells. -/
theorem after_line (state : stateAfter service host events = (session, left))
    (tracks : Tracks service host events session.phase) (line : String) :
    Tracks service host (events ++ [.line line])
      (session.handleLine service line left).session.phase := by
  have turn : turnAfter service host events line = session.handleLine service line left := by
    rw [turnAfter, state]
  obtain ⟨id, read, asks, awaiting, opened⟩ | ⟨confirming, initialising, confirmed⟩ |
    ⟨kept, refused, idle⟩ := handleLine_cases service session line left
  · have opens : Opens service host events (.line line) :=
      ⟨line, id, welcome, rfl, asks, by rw [turn, opened]⟩
    rw [opened]
    exact (awaiting ▸ tracks).after_opening opens
  · rw [confirmed]
    exact (initialising ▸ tracks).after_confirming confirming
  · have closed : ¬Opens service host events (.line line) := by
      rintro ⟨text, id, value, same, asks, replied⟩
      cases same
      obtain ⟨code, message, refusal⟩ := refused id asks
      rw [turn, refusal] at replied
      cases replied
    rw [kept]
    exact tracks.after_idle closed idle

end Tracks

/-- The phase of a session tells what happened to it. -/
theorem tracks (service : Service) (host : Host) (events : List Event) :
    Tracks service host events (stateAfter service host events).1.phase := by
  induction events using List.reverseRecOn with
  | nil =>
    refine ⟨by simp [stateAfter], fun _ => ?_, fun _ => ?_⟩
    · simp [stateAfter, Opened, Once]
    · simp [stateAfter, Confirmed, Once]
  | append_singleton events event ih =>
    rw [stateAfter_concat]
    cases event with
    | line text => exact Tracks.after_line rfl ih text
    | shutdown =>
      exact ⟨by simp [step, shutdown], fun alive => absurd rfl alive, fun alive => absurd rfl alive⟩

/-- It is the time for tools exactly if the session runs. -/
theorem window_iff : Window service host events ↔
    (stateAfter service host events).1.phase = .running := by
  have tracks := tracks service host events
  constructor
  · rintro ⟨confirmed, alive⟩
    rw [← tracks.ended] at alive
    exact (tracks.confirmed alive).mpr confirmed
  · intro running
    have alive : (stateAfter service host events).1.phase ≠ .shuttingDown := by simp [running]
    exact ⟨(tracks.confirmed alive).mp running, fun ended => alive (tracks.ended.mpr ended)⟩

/-- The phase moves forward by lines, and to the end when the session is shut down. -/
theorem moves_step (service : Service) (session : Session) (left : Host) (event : Event) :
    Moves session.phase event (step service (session, left) event).1.phase := by
  cases event with
  | shutdown => exact .ended _
  | line text =>
    change Moves _ _ (session.handleLine service text left).session.phase
    obtain ⟨id, read, _, awaiting, opened⟩ | ⟨_, initialising, confirmed⟩ | ⟨kept, _⟩ :=
      handleLine_cases service session text left
    · rw [opened, awaiting]
      exact .opened text
    · rw [confirmed, initialising]
      exact .confirmed text
    · rw [kept]
      exact .kept _ text

/-- A request to open the session gets a result only if none got one before. -/
theorem not_opened_of_opens (opens : Opens service host events event) :
    ¬Opened service host events := by
  obtain ⟨line, id, value, rfl, asks, replied⟩ := opens
  rw [turnAfter] at replied
  obtain ⟨_, _, _, awaiting, _⟩ | ⟨confirming, _⟩ | ⟨_, refused, _⟩ :=
    handleLine_cases service (stateAfter service host events).1 line
      (stateAfter service host events).2
  · have tracks := tracks service host events
    have alive : (stateAfter service host events).1.phase ≠ .shuttingDown := by simp [awaiting]
    simp [← tracks.opened alive, awaiting]
  · obtain ⟨params, asked⟩ := asks
    obtain ⟨given, confirmed⟩ := confirming
    rw [asked] at confirmed
    cases confirmed
  · obtain ⟨code, message, refusal⟩ := refused id asks
    rw [refusal] at replied
    cases replied

/-- The life of a session, whatever lines come in and whenever it is shut down. Its phase only moves
forward, and is the last one exactly if the session was shut down. A request to open it gets a
result only if none did before. A request for the tools is answered only in their time, that is
after a request to open got a result and a notification confirmed it, and before any shutdown;
outside it is refused with the code -32600, whatever the service, and the host stays. A request gets
one reply, which has its id, exactly unless it is a call of a tool in their time over which the
service breaks down. A notification gets none, and what is answered with an error leaves the
session. -/
theorem lifecycle (service : Service) (host : Host) (past : List Event) (line : String) :
    let session := (stateAfter service host past).1
    let left := (stateAfter service host past).2
    let turn := session.handleLine service line left
    (∀ event, Moves session.phase event (stateAfter service host (past ++ [event])).1.phase) ∧
      (session.phase = .shuttingDown ↔ .shutdown ∈ past) ∧
      (Opens service host past (.line line) → ¬Opened service host past) ∧
      (∀ id method params, Message.ofLine line = .ok (.request id method params) →
        method = "tools/list" ∨ method = "tools/call" → ¬Window service host past →
        ∀ other : Service, session.handleLine other line left =
          { reply := some (.error (some id) .invalidRequest "Server not initialised"), session,
            host := left }) ∧
      Rpc.ErrorCode.invalidRequest.number = -32600 ∧
      (∀ id params, Message.ofLine line = .ok (.request id "tools/list" params) →
        Window service host past →
        turn.reply = some (.result id (.ofMembers [("tools", Tools.definitions)]))) ∧
      (∀ id method params, Message.ofLine line = .ok (.request id method params) →
        ((∃ reply, turn.reply = some reply ∧ reply.id? = some id) ↔
          ¬(method = "tools/call" ∧ Window service host past ∧ CallBreaks service params left))) ∧
      (∀ method params, Message.ofLine line = .ok (.notification method params) →
        turn.reply = none) ∧
      ∀ given code message, turn.reply = some (.error given code message) →
        turn.session = session := by
  intro session left turn
  refine ⟨?_, (tracks service host past).ended, not_opened_of_opens, ?_, rfl, ?_, ?_, ?_, ?_⟩
  · intro event
    rw [stateAfter_concat]
    exact moves_step service session left event
  · intro id method params parsed tools outside other
    rw [window_iff] at outside
    rw [handleLine_of_request parsed]
    exact request_of_not_running outside tools
  · intro id params parsed inside
    have running := window_iff.mp inside
    have answered : turn = session.request service id "tools/list" params left :=
      handleLine_of_request parsed
    have listed : turn.reply = some (session.listTools id) := by
      rw [answered]
      rfl
    rw [listed, listTools, if_pos running]
  · intro id method params parsed
    have answered : turn = session.request service id method params left :=
      handleLine_of_request parsed
    rw [answered, window_iff]
    exact exists_reply_of_request
  · intro method params parsed
    exact (reply_of_notification parsed).1
  · intro given code message replied
    exact session_of_error replied

end Session

section Breakdown

/-- An archive with one class whose entry is marked with how it is encrypted but does not say that
it is. -/
def contradictoryJar : List UInt8 :=
  [80, 75, 3, 4, 20, 0, 0, 0, 99, 0, 0, 96, 33, 80, 154, 182, 213, 118, 133, 0, 0, 0, 133, 0, 0,
    0, 16, 0, 11, 0, 111, 114, 103, 47, 100, 101, 109, 111, 47, 65, 46, 99, 108, 97, 115, 115, 1,
    153, 7, 0, 1, 0, 65, 69, 3, 0, 0, 202, 254, 186, 190, 0, 0, 0, 52, 0, 13, 1, 0, 10, 111, 114,
    103, 47, 100, 101, 109, 111, 47, 65, 7, 0, 1, 1, 0, 10, 111, 114, 103, 47, 100, 101, 109, 111,
    47, 66, 7, 0, 3, 1, 0, 10, 111, 114, 103, 47, 100, 101, 109, 111, 47, 67, 7, 0, 5, 1, 0, 16,
    106, 97, 118, 97, 47, 108, 97, 110, 103, 47, 83, 116, 114, 105, 110, 103, 7, 0, 7, 1, 0, 14,
    111, 114, 103, 47, 111, 116, 104, 101, 114, 47, 78, 111, 112, 101, 7, 0, 9, 1, 0, 3, 40, 41,
    86, 1, 0, 2, 103, 111, 0, 33, 0, 2, 0, 4, 0, 0, 0, 0, 0, 1, 0, 1, 0, 12, 0, 11, 0, 0, 0, 0,
    80, 75, 1, 2, 20, 3, 20, 0, 0, 0, 99, 0, 0, 96, 33, 80, 154, 182, 213, 118, 133, 0, 0, 0, 133,
    0, 0, 0, 16, 0, 11, 0, 0, 0, 0, 0, 0, 0, 0, 0, 164, 129, 0, 0, 0, 0, 111, 114, 103, 47, 100,
    101, 109, 111, 47, 65, 46, 99, 108, 97, 115, 115, 1, 153, 7, 0, 1, 0, 65, 69, 3, 0, 0, 80, 75,
    5, 6, 0, 0, 0, 0, 1, 0, 1, 0, 73, 0, 0, 0, 190, 0, 0, 0, 0, 0]

/-- A machine with the archive and a directory for temporary files. -/
def contradictoryHost : Host where
  tree := ⟨[(["tmp"], .directory), (["x.jar"], .file contradictoryJar false)]⟩
  workingDirectory := []
  environment := []

/-- A decompiler with an engine that answers every request in the same way. -/
def constantDecompiler : Decompiler where
  engine := .ofFunction fun _ => .ok "class A {}"

/-- The service of that decompiler. -/
def constantService : Service :=
  constantDecompiler.service

/-- A line that asks for a session to be opened. -/
def openingLine : String :=
  "\x7b\"jsonrpc\":\"2.0\",\"id\":1,\"method\":\"initialize\"," ++
    "\"params\":\x7b\"protocolVersion\":\"1\"\x7d\x7d"

/-- A line that confirms the opening. -/
def confirmingLine : String :=
  "\x7b\"jsonrpc\":\"2.0\",\"method\":\"notifications/initialized\"\x7d"

/-- A line that calls a tool on the archive. -/
def breakingLine : String :=
  "\x7b\"jsonrpc\":\"2.0\",\"id\":3,\"method\":\"tools/call\",\"params\":" ++
    "\x7b\"name\":\"decompile-from-jar\"," ++
    "\"arguments\":\x7b\"jarFilePath\":\"x.jar\",\"className\":\"A\"\x7d\x7d\x7d"

/-- The parameters of the call. -/
def breakingParams : Json.Value :=
  .object
    [("arguments", .object [("className", .string "A"), ("jarFilePath", .string "x.jar")]),
      ("name", .string "decompile-from-jar")]

/-- The line that opens is a request. -/
theorem ofLine_openingLine : Message.ofLine openingLine =
    .ok (.request (.integer 1 (by decide)) "initialize"
      (some (.object [("protocolVersion", .string "1")]))) := by
  cbv

/-- The line that confirms is a notification. -/
theorem ofLine_confirmingLine :
    Message.ofLine confirmingLine = .ok (.notification "notifications/initialized" none) := by
  cbv

/-- The line that calls a tool is a request. -/
theorem ofLine_breakingLine : Message.ofLine breakingLine =
    .ok (.request (.integer 3 (by decide)) "tools/call" (some breakingParams)) := by
  cbv

/-- After the first two lines the session runs. -/
theorem stateAfter_confirmingLine :
    Session.stateAfter constantService contradictoryHost [.line openingLine, .line confirmingLine] =
      (⟨.running, none⟩, contradictoryHost) := by
  simp only [Session.stateAfter, List.foldl, Session.step, Session.handleLine, ofLine_openingLine,
    ofLine_confirmingLine]
  rfl

/-- The call breaks the service down. -/
theorem callBreaks_breakingParams :
    CallBreaks constantService (some breakingParams) contradictoryHost := by
  refine ⟨breakingParams, ⟨"decompile-from-jar", _⟩, .inArchive ⟨"x.jar"⟩ (some "A"),
    ⟨.jar, .extraction ⟨"x.jar"⟩ (.archive .contradictory)⟩, rfl, rfl, rfl, ?_, rfl⟩
  decide +kernel

/-- A request in the time for tools that gets no reply. -/
theorem request_without_reply :
    Session.Window constantService contradictoryHost [.line openingLine, .line confirmingLine] ∧
      Message.ofLine breakingLine =
        .ok (.request (.integer 3 (by decide)) "tools/call" (some breakingParams)) ∧
      (Session.turnAfter constantService contradictoryHost
        [.line openingLine, .line confirmingLine] breakingLine).reply = none := by
  refine ⟨?_, ofLine_breakingLine, ?_⟩
  · rw [Session.window_iff, stateAfter_confirmingLine]
  · rw [Session.turnAfter, stateAfter_confirmingLine]
    dsimp only
    rw [Session.handleLine_of_request ofLine_breakingLine, Session.reply_of_request_eq_none]
    exact ⟨rfl, rfl, callBreaks_breakingParams⟩

end Breakdown

end DecompileServer

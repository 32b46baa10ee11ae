import DecompileServer.Proofs.Rpc.Lines
import DecompileServer.Proofs.Session.Lifecycle
import DecompileServer.Session.Conversation

/-!
# A conversation message by message

A conversation over a stream of messages goes from one to the next and ends at the first over which
the server breaks down (`Conversation.run_framed`). Until then its session is the one that the
messages before lead to, so what is written for a message is the reply of that session to it.
-/
namespace DecompileServer

open Rpc (Message Parcel)

/-- Whether a service leaves a host as it was, whatever it is asked. -/
def Service.IsQuietOn (service : Service) (host : Host) : Prop :=
  ∀ target, ((service target).run host).2 = host

namespace Session

variable {service : Service} {session : Session} {host : Host} {line : String}

/-- A line does not end a session. -/
theorem alive_of_handleLine (alive : session.phase ≠ .shuttingDown) :
    (session.handleLine service line host).session.phase ≠ .shuttingDown := by
  have moved : Moves session.phase (.line line)
      (session.handleLine service line host).session.phase :=
    moves_step service session host (.line line)
  generalize (session.handleLine service line host).session.phase = left at moved
  generalize session.phase = phase at alive moved
  cases moved with
  | kept => exact alive
  | opened => simp
  | confirmed => simp

/-- The server breaks down over a line exactly if it is a call of a tool in the time for tools that
breaks the service down. -/
theorem brokeDown_handleLine : (session.handleLine service line host).brokeDown = true ↔
    ∃ id params, Message.ofLine line = .ok (.request id "tools/call" params) ∧
      session.phase = .running ∧ CallBreaks service params host := by
  cases parsed : Message.ofLine line with
  | error refusal =>
    have handled : (session.handleLine service line host).brokeDown = false := by
      rw [handleLine, parsed]
    simp [handled]
  | ok message =>
    cases message with
    | notification method params =>
      have handled : (session.handleLine service line host).brokeDown = false :=
        (reply_of_notification parsed).2.1
      simp [handled]
    | request id method params =>
      rw [handleLine_of_request parsed]
      by_cases call : method = "tools/call"
      · subst call
        have called : (session.request service id "tools/call" params host).brokeDown =
            (session.callTool service id params host).1.isNone := rfl
        rw [called, Option.isNone_iff_eq_none, callTool_eq_none]
        simp
      · have handled : (session.request service id method params host).brokeDown = false := by
          unfold request
          split
          · rfl
          · rfl
          · contradiction
          · rfl
          · rfl
        simp [handled, call]

/-- A line over which the server breaks down has no reply. -/
theorem reply_of_brokeDown (broken : (session.handleLine service line host).brokeDown = true) :
    (session.handleLine service line host).reply = none := by
  obtain ⟨id, params, parsed, running, breaks⟩ := brokeDown_handleLine.mp broken
  rw [handleLine_of_request parsed, reply_of_request_eq_none]
  exact ⟨rfl, running, breaks⟩

/-- Whether an event is a call of a tool in the time for tools that breaks the service down. -/
def Breaks (service : Service) (host : Host) (past : List Event) (event : Event) : Prop :=
  ∃ line id params, event = .line line ∧
    Message.ofLine line = .ok (.request id "tools/call" params) ∧ Window service host past ∧
    CallBreaks service params (stateAfter service host past).2

/-- The server breaks down over such calls and over nothing else. -/
theorem breaks_iff {past : List Event} : Breaks service host past (.line line) ↔
    (turnAfter service host past line).brokeDown = true := by
  rw [turnAfter, brokeDown_handleLine, ← window_iff]
  constructor
  · rintro ⟨text, id, params, same, parsed, window, breaks⟩
    cases same
    exact ⟨id, params, parsed, window, breaks⟩
  · rintro ⟨id, params, parsed, window, breaks⟩
    exact ⟨line, id, params, rfl, parsed, window, breaks⟩

/-- A quiet service leaves the host when a tool is called. -/
theorem host_of_callTool {id : Rpc.RequestId} {params : Option Json.Value}
    (quiet : service.IsQuietOn host) : (session.callTool service id params host).2 = host := by
  unfold callTool
  split
  · rfl
  · split
    · rfl
    · rename_i read _
      dsimp only [Tools.call]
      split
      · rfl
      · rename_i target _
        exact quiet target

/-- A quiet service leaves the host when a line is handled. -/
theorem host_of_handleLine (quiet : service.IsQuietOn host) :
    (session.handleLine service line host).host = host := by
  cases parsed : Message.ofLine line with
  | error refusal => rw [handleLine, parsed]
  | ok message =>
    cases message with
    | notification method params => exact (reply_of_notification parsed).2.2
    | request id method params =>
      rw [handleLine_of_request parsed]
      unfold request
      split
      · rfl
      · rfl
      · exact host_of_callTool quiet
      · rfl
      · rfl

/-- A quiet service leaves the host over the whole life of a session. -/
theorem host_of_stateAfter (quiet : service.IsQuietOn host) (events : List Event) :
    (stateAfter service host events).2 = host := by
  induction events using List.reverseRecOn with
  | nil => rfl
  | append_singleton past event ih =>
    rw [stateAfter_concat]
    cases event with
    | shutdown => exact ih
    | line text =>
      change ((stateAfter service host past).1.handleLine service text
        (stateAfter service host past).2).host = host
      rw [ih]
      exact host_of_handleLine quiet

end Session

namespace Conversation

/-- Goes on with messages until the server breaks down. -/
def heard (service : Service) (conversation : Conversation) : List Parcel → Conversation
  | [] => conversation
  | parcel :: further =>
    let after := conversation.next service parcel.text
    if after.brokeDown then after else heard service after further

/-- Ends a conversation at the end of its input, if it has got so far. -/
def finish (conversation : Conversation) : Conversation :=
  if conversation.brokeDown then conversation
  else { conversation with session := conversation.session.shutdown }

variable {service : Service} {conversation : Conversation} {parcel : Parcel} {parcels : List Parcel}

/-- A line leads to the turn that its message leads to. -/
theorem next_parcel (service : Service) (conversation : Conversation) (parcel : Parcel) :
    conversation.next service parcel.line = conversation.next service parcel.text := by
  unfold next
  rw [parcel.isBlankText_line, parcel.visible]
  simp only [Session.handleLine, parcel.ofLine_line]

/-- A message is answered by the session. -/
theorem next_text (service : Service) (conversation : Conversation) (parcel : Parcel) :
    conversation.next service parcel.text =
      let turn := conversation.session.handleLine service parcel.text conversation.host
      { conversation with
        replies := conversation.replies ++ turn.reply.toList
        brokeDown := turn.brokeDown
        session := turn.session
        host := turn.host } := by
  rw [next, parcel.visible]
  rfl

/-- A conversation over messages on a stream. -/
theorem run_framed (alive : conversation.session.phase ≠ .shuttingDown)
    (going : conversation.brokeDown = false) (parcels : List Parcel) :
    conversation.run service (parcels.flatMap Parcel.framed) =
      (conversation.heard service parcels).finish := by
  induction parcels generalizing conversation with
  | nil =>
    rw [List.flatMap_nil, run.eq_def, heard, finish, going]
    rfl
  | cons parcel further ih =>
    have phase : (conversation.next service parcel.text).session.phase ≠ .shuttingDown := by
      rw [next_text]
      exact Session.alive_of_handleLine alive
    have step : conversation.run service ((parcel :: further).flatMap Parcel.framed) =
        if (conversation.next service parcel.text).brokeDown then
          conversation.next service parcel.text
        else (conversation.next service parcel.text).run service
          (further.flatMap Parcel.framed) := by
      have read := parcel.read_framed (further.flatMap Parcel.framed)
      rw [List.flatMap_cons, run.eq_def]
      split
      · rename_i found
        rw [read] at found
        cases found
      · rename_i found
        rw [read] at found
        cases found
      · rename_i found
        rw [read] at found
        obtain ⟨rfl, rfl⟩ : parcel.line = _ ∧ further.flatMap Parcel.framed = _ := by
          simpa using found
        rw [next_parcel]
        simp [phase]
    rw [step, heard]
    by_cases broken : (conversation.next service parcel.text).brokeDown = true
    · simp [broken, finish]
    · simp only [broken]
      exact ih phase (by simpa using broken)

/-- A conversation goes on message by message until the server breaks down. -/
theorem heard_concat (service : Service) (parcels : List Parcel) (parcel : Parcel)
    (going : conversation.brokeDown = false) :
    conversation.heard service (parcels ++ [parcel]) =
      if (conversation.heard service parcels).brokeDown then conversation.heard service parcels
      else (conversation.heard service parcels).next service parcel.text := by
  induction parcels generalizing conversation with
  | nil => simp [heard, going]
  | cons first further ih =>
    rw [List.cons_append, heard, heard]
    by_cases broken : (conversation.next service first.text).brokeDown = true
    · simp [broken]
    · simp only [broken]
      exact ih (by simpa using broken)

/-- The whole conversation over some messages on a stream. -/
def streamed (service : Service) (host : Host) (parcels : List Parcel) : Conversation :=
  Conversation.run service { host } (parcels.flatMap Parcel.framed)

/-- What happens to a session in the course of some messages. -/
def events (parcels : List Parcel) : List Session.Event :=
  parcels.map fun parcel => .line parcel.text

variable {host : Host}

/-- Until the server breaks down, the session is the one that the messages lead to. -/
theorem state_of_heard (going : (heard service { host } parcels).brokeDown = false) :
    ((heard service { host } parcels).session, (heard service { host } parcels).host) =
      Session.stateAfter service host (events parcels) := by
  induction parcels using List.reverseRecOn with
  | nil => rfl
  | append_singleton before parcel ih =>
    rw [heard_concat service before parcel rfl] at going ⊢
    by_cases broken : (heard service { host } before).brokeDown = true
    · rw [if_pos broken] at going
      rw [going] at broken
      cases broken
    · rw [if_neg broken] at going ⊢
      have state := ih (by simpa using broken)
      rw [events, List.map_append, List.map_singleton, Session.stateAfter_concat, ← events, ← state,
        next_text]
      rfl

/-- Until the server breaks down, a message is answered as it is after the messages before. -/
theorem turn_of_heard (going : (heard service { host } parcels).brokeDown = false) (line : String) :
    (heard service { host } parcels).session.handleLine service line
      (heard service { host } parcels).host =
        Session.turnAfter service host (events parcels) line := by
  rw [Session.turnAfter, ← state_of_heard going]

/-- A conversation over messages is the one that goes from message to message. -/
theorem streamed_eq (service : Service) (host : Host) (parcels : List Parcel) :
    streamed service host parcels = (heard service { host } parcels).finish :=
  run_framed (by simp) rfl parcels

/-- The end of the input leaves the replies. -/
@[simp] theorem replies_finish (conversation : Conversation) :
    conversation.finish.replies = conversation.replies := by
  unfold finish
  split <;> rfl

/-- The end of the input breaks nothing down. -/
@[simp] theorem brokeDown_finish (conversation : Conversation) :
    conversation.finish.brokeDown = conversation.brokeDown := by
  unfold finish
  split <;> rfl

/-- A further message adds its reply, unless the server broke down before. -/
theorem streamed_concat (service : Service) (host : Host) (parcels : List Parcel)
    (parcel : Parcel) :
    let before := streamed service host parcels
    let after := streamed service host (parcels ++ [parcel])
    let turn := Session.turnAfter service host (events parcels) parcel.text
    (before.brokeDown = true → after = before) ∧
      (before.brokeDown = false → after.brokeDown = turn.brokeDown ∧
        after.replies = before.replies ++ turn.reply.toList) := by
  have start : ({ host } : Conversation).brokeDown = false := rfl
  have further := heard_concat service parcels parcel start
  simp only [streamed_eq, brokeDown_finish, replies_finish]
  constructor
  · intro broken
    rw [further, if_pos broken]
  · intro going
    rw [if_neg (by simp [going]), next_text, turn_of_heard going] at further
    rw [further]
    exact ⟨rfl, rfl⟩

/-- Nothing comes after the server broke down. -/
theorem streamed_append_of_brokeDown (broken : (streamed service host parcels).brokeDown = true)
    (more : List Parcel) :
    streamed service host (parcels ++ more) = streamed service host parcels := by
  induction more using List.reverseRecOn with
  | nil => rw [List.append_nil]
  | append_singleton more parcel ih =>
    rw [← ih] at broken
    rw [← List.append_assoc, (streamed_concat service host (parcels ++ more) parcel).1 broken, ih]

/-- What has been written stays when more messages come. -/
theorem output_append (service : Service) (host : Host) (parcels more : List Parcel) :
    ∃ rest, (streamed service host (parcels ++ more)).output =
      (streamed service host parcels).output ++ rest := by
  induction more using List.reverseRecOn with
  | nil => exact ⟨"", by rw [List.append_nil, String.append_empty]⟩
  | append_singleton more parcel ih =>
    obtain ⟨rest, grown⟩ := ih
    obtain ⟨ended, goesOn⟩ := streamed_concat service host (parcels ++ more) parcel
    rw [← List.append_assoc]
    by_cases broken : (streamed service host (parcels ++ more)).brokeDown = true
    · exact ⟨rest, by rw [ended broken, grown]⟩
    · have further := (goesOn (by simpa using broken)).2
      refine ⟨rest ++ String.join ((Session.turnAfter service host (events (parcels ++ more))
        parcel.text).reply.toList.map Rpc.Lines.write), ?_⟩
      rw [output, further, List.map_append, String.join_append, ← output, grown,
        String.append_assoc]

/-- What has been written grows by the line of the reply. -/
theorem output_of_reply {before after : Conversation} {reply : Rpc.Reply}
    (grown : after.replies = before.replies ++ [reply]) :
    after.output = before.output ++ reply.text ++ "\n" := by
  rw [output, output, grown, List.map_append, String.join_append]
  simp [Rpc.Lines.write, String.append_assoc]

/-- The server breaks down in the course of a conversation exactly if one of the messages is a call
over which it does. -/
theorem brokeDown_streamed : (streamed service host parcels).brokeDown = true ↔
    Session.Once (Session.Breaks service host) (events parcels) := by
  induction parcels using List.reverseRecOn with
  | nil => simp [streamed_eq, heard, finish, events, Session.Once]
  | append_singleton before parcel ih =>
    obtain ⟨ended, goesOn⟩ := streamed_concat service host before parcel
    rw [events, List.map_append, List.map_singleton, Session.once_concat, ← events, ← ih,
      Session.breaks_iff]
    by_cases broken : (streamed service host before).brokeDown = true
    · simp [ended broken, broken]
    · have going : (streamed service host before).brokeDown = false := by simpa using broken
      rw [(goesOn going).1, going]
      simp

end Conversation

end DecompileServer

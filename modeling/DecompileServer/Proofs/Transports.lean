import DecompileServer.Proofs.Http.Interleaving
import DecompileServer.Proofs.Traceless

/-!
# Two transports, one server

Messages come over a stream or over HTTP. Whatever clients a hub has and in whichever order their
requests are served, each client gets over HTTP what the server would write for its messages on a
stream of their own, message by message, as long as the server does not break down over one of them.
-/
namespace DecompileServer

open Rpc (Parcel)
open Conversation (streamed events)
open Http (Response Client World IsIdSource)

variable {service : Service} {host : Host}

namespace Http

/-- Whether a response carries what has been written on a stream for the same message: the text of
the line, or nothing if nothing has been written. -/
def Response.Carries (response : Response) (before after : Conversation) : Prop :=
  (response.status = 200 ∧ response.contentType = some "application/json" ∧
    after.output = before.output ++ response.body ++ "\n") ∨
  (response.status = 202 ∧ response.body = "" ∧ after.output = before.output)

/-- A response carries what a turn adds to a conversation exactly if the server does not break
down. -/
theorem carries_responseTo {before after : Conversation} {turn : Turn} (id : String)
    (grown : after.replies = before.replies ++ turn.reply.toList)
    (silent : turn.brokeDown = true → turn.reply = none) :
    (Hub.responseTo id turn).Carries before after ↔ turn.brokeDown = false := by
  cases replied : turn.reply with
  | some reply =>
    have going : turn.brokeDown = false := by
      by_contra broken
      rw [silent (by simpa using broken)] at replied
      cases replied
    have response : Hub.responseTo id turn =
        { jsonResponse 200 reply.text with session := some id } := by
      rw [Hub.responseTo, replied]
    rw [replied, Option.toList_some] at grown
    rw [response]
    exact iff_of_true (.inl ⟨rfl, rfl, Conversation.output_of_reply grown⟩) going
  | none =>
    have response : Hub.responseTo id turn =
        { status := if turn.brokeDown then 500 else 202, session := some id } := by
      rw [Hub.responseTo, replied]
    rw [replied, Option.toList_none, List.append_nil] at grown
    have same : after.output = before.output := by
      rw [Conversation.output, Conversation.output, grown]
    rw [response]
    cases broken : turn.brokeDown with
    | false => exact iff_of_true (.inr ⟨rfl, rfl, same⟩) rfl
    | true =>
      refine iff_of_false ?_ (by simp)
      rintro (⟨status, _⟩ | ⟨status, _⟩) <;> simp at status

section Clients

variable {ι : Type} [DecidableEq ι] {ids : Nat → String} {clients : ι → Client}

/-- Every response answers its message after those before it of the same client, under the one id
of this client. -/
theorem exists_id (source : IsIdSource ids) (quiet : service.IsQuietOn host)
    (clients : ι → Client) (steps : List ι) (i : ι) :
    ∃ id, ∀ index response,
      ((World.after service ids clients host steps).callers i).responses[index]? = some response →
        ∃ parcel, (clients i).messages[index]? = some parcel ∧
          response = Hub.responseTo id (Session.turnAfter service host
            (events ((clients i).messages.take index)) parcel.text) := by
  obtain ⟨numbers, invariant⟩ := Invariant.after source quiet clients steps
  cases mine : numbers i with
  | none =>
    refine ⟨"", fun index response answered => ?_⟩
    rw [invariant.idle i mine] at answered
    cases answered
  | some number => exact ⟨ids number, (invariant.serves i number mine).responses⟩

end Clients

/-- The conversation over a stream with as many of the messages of a client as given. -/
def Client.onStream (client : Client) (service : Service) (host : Host) (count : Nat) :
    Conversation :=
  streamed service host (client.messages.take count)

namespace Client

variable {client : Client} {index : Nat} {parcel : Parcel}

/-- One message more is taken. -/
theorem take_succ (next : client.messages[index]? = some parcel) :
    client.messages.take (index + 1) = client.messages.take index ++ [parcel] := by
  rw [List.take_add_one, next]
  rfl

/-- Fewer messages are the first of more. -/
theorem take_split (client : Client) {few many : Nat} (within : few ≤ many) :
    client.messages.take many =
      client.messages.take few ++ (client.messages.take many).drop few := by
  conv_lhs => rw [← List.take_append_drop few (client.messages.take many), List.take_take,
    Nat.min_eq_left within]

/-- What has been written stays when the further messages come. -/
theorem output_onStream (client : Client) (service : Service) (host : Host) {few many : Nat}
    (within : few ≤ many) :
    ∃ rest, (client.onStream service host many).output =
      (client.onStream service host few).output ++ rest := by
  rw [onStream, client.take_split within]
  exact Conversation.output_append service host _ _

/-- Nothing is written after the server broke down. -/
theorem onStream_of_brokeDown {few many : Nat} (within : few ≤ many)
    (broken : (client.onStream service host few).brokeDown = true) :
    client.onStream service host many = client.onStream service host few := by
  rw [onStream, client.take_split within]
  exact Conversation.streamed_append_of_brokeDown broken _

/-- Before the first message the server is going. -/
theorem going_zero (client : Client) (service : Service) (host : Host) :
    (client.onStream service host 0).brokeDown = false := by
  rw [onStream, List.take_zero, Conversation.streamed_eq, Conversation.brokeDown_finish]
  rfl

/-- A further message adds its reply, unless the server broke down before. -/
theorem onStream_succ (next : client.messages[index]? = some parcel) (service : Service)
    (host : Host) :
    let before := client.onStream service host index
    let after := client.onStream service host (index + 1)
    let turn := Session.turnAfter service host (events (client.messages.take index)) parcel.text
    (before.brokeDown = true → after = before) ∧
      (before.brokeDown = false → after.brokeDown = turn.brokeDown ∧
        after.replies = before.replies ++ turn.reply.toList) := by
  have further := Conversation.streamed_concat service host (client.messages.take index) parcel
  rw [← take_succ next] at further
  exact further

/-- The server is going at every message before one after which it is. -/
theorem going_of_le {few many : Nat} (within : few ≤ many)
    (going : (client.onStream service host many).brokeDown = false) :
    (client.onStream service host few).brokeDown = false := by
  by_contra broken
  rw [onStream_of_brokeDown within (by simpa using broken)] at going
  exact broken going

/-- A response carries what has been written for its message exactly if the server is going after
it. -/
theorem carries_iff (next : client.messages[index]? = some parcel) (id : String)
    (going : (client.onStream service host index).brokeDown = false) :
    (Hub.responseTo id (Session.turnAfter service host (events (client.messages.take index))
        parcel.text)).Carries (client.onStream service host index)
          (client.onStream service host (index + 1)) ↔
      (client.onStream service host (index + 1)).brokeDown = false := by
  obtain ⟨after, grown⟩ := (onStream_succ next service host).2 going
  rw [after]
  exact carries_responseTo id grown Session.reply_of_brokeDown

/-- Responses carry what has been written for their messages exactly if the server is going after
the last of them. -/
theorem carried_iff {responses : List Response} {id : String}
    (answers : ∀ index response, responses[index]? = some response →
      ∃ parcel, client.messages[index]? = some parcel ∧
        response = Hub.responseTo id (Session.turnAfter service host
          (events (client.messages.take index)) parcel.text)) :
    (∀ index (response : Response), responses[index]? = some response →
        response.Carries (client.onStream service host index)
          (client.onStream service host (index + 1))) ↔
      (client.onStream service host responses.length).brokeDown = false := by
  constructor
  · intro carried
    -- Message by message, the server is still going.
    have going : ∀ count ≤ responses.length,
        (client.onStream service host count).brokeDown = false := by
      intro count
      induction count with
      | zero => exact fun _ => client.going_zero service host
      | succ index ih =>
        intro within
        have response := List.getElem?_eq_getElem within
        obtain ⟨parcel, next, same⟩ := answers index _ response
        have carries := carried index _ response
        rw [same] at carries
        exact (carries_iff next id (ih (by omega))).mp carries
    exact going _ (Nat.le_refl _)
  · intro going index response answered
    obtain ⟨within, _⟩ := List.getElem?_eq_some_iff.mp answered
    obtain ⟨parcel, next, rfl⟩ := answers index response answered
    have after : (client.onStream service host (index + 1)).brokeDown = false :=
      going_of_le within going
    exact (carries_iff next id (going_of_le (Nat.le_succ index) after)).mpr after

/-- Nothing is written for a call over which the service breaks down, and the server is gone after
it. -/
theorem onStream_of_breaks (next : client.messages[index]? = some parcel)
    (breaks : Session.Breaks service host (events (client.messages.take index))
      (.line parcel.text)) :
    (client.onStream service host (index + 1)).brokeDown = true ∧
      (client.onStream service host (index + 1)).output =
        (client.onStream service host index).output := by
  have broken := Session.breaks_iff.mp breaks
  have silent : (Session.turnAfter service host (events (client.messages.take index))
      parcel.text).reply = none := Session.reply_of_brokeDown broken
  obtain ⟨ended, goesOn⟩ := onStream_succ next service host
  cases before : (client.onStream service host index).brokeDown with
  | true =>
    have same := ended before
    rw [same]
    exact ⟨before, rfl⟩
  | false =>
    obtain ⟨after, grown⟩ := goesOn before
    rw [silent, Option.toList_none, List.append_nil] at grown
    exact ⟨after.trans broken, by rw [Conversation.output, Conversation.output, grown]⟩

end Client

end Http

/-- HTTP and a stream are two ways to the same server, and clients at one hub do not see each other.
Whatever the order of steps, a client has got as many responses as it had time for, all under one
id. They carry what the server writes on a stream for the same messages alone, message by message,
exactly if none of them is a call of a tool over which the service breaks down. The response to such
a call is the status 500 without a body, and nothing more is written on the stream. -/
theorem transports_agree {ι : Type} [DecidableEq ι] (decompiler : Decompiler) (host : Host)
    (ids : Nat → String) (clients : ι → Client) (steps : List ι) (i : ι)
    (closed : host.tree.IsClosed) (quiet : decompiler.engine.IsQuiet) (source : IsIdSource ids) :
    let service := decompiler.service
    let messages := (clients i).messages
    let responses := ((World.after service ids clients host steps).callers i).responses
    let stream := (clients i).onStream service host
    responses.length = min (steps.count i / 2) messages.length ∧
      (∃ id, ∀ response ∈ responses, response.session = some id) ∧
      (∀ count ≤ messages.length,
        ∃ rest, (stream messages.length).output = (stream count).output ++ rest) ∧
      ((∀ index (response : Response), responses[index]? = some response →
          response.Carries (stream index) (stream (index + 1))) ↔
        ¬Session.Once (Session.Breaks service host) (events (messages.take responses.length))) ∧
      ∀ index (response : Response) parcel, responses[index]? = some response →
        messages[index]? = some parcel →
        Session.Breaks service host (events (messages.take index)) (.line parcel.text) →
        response.status = 500 ∧ response.body = "" ∧
          ∀ count, index ≤ count → (stream count).output = (stream index).output := by
  intro service messages responses stream
  have still : service.IsQuietOn host := fun target =>
    Decompiler.host_of_service quiet closed target
  obtain ⟨id, answers⟩ := Http.exists_id source still clients steps i
  refine ⟨World.length_responses service ids clients host steps i, ⟨id, ?_⟩,
    fun count within => (clients i).output_onStream service host within, ?_, ?_⟩
  · intro response member
    obtain ⟨index, answered⟩ := List.mem_iff_getElem?.mp member
    obtain ⟨parcel, _, rfl⟩ := answers index response answered
    exact Http.Hub.session_responseTo id _
  · have broke : (stream responses.length).brokeDown = true ↔
        Session.Once (Session.Breaks service host) (events (messages.take responses.length)) :=
      Conversation.brokeDown_streamed
    rw [← broke, Bool.not_eq_true]
    exact Client.carried_iff answers
  · intro index response parcel answered next breaks
    obtain ⟨other, found, rfl⟩ := answers index response answered
    obtain rfl := Option.some.inj (next.symm.trans found)
    have broken := Session.breaks_iff.mp breaks
    obtain ⟨gone, same⟩ := Client.onStream_of_breaks next breaks
    have silent : (Session.turnAfter service host (events (messages.take index))
        parcel.text).reply = none := Session.reply_of_brokeDown broken
    rw [Http.Hub.responseTo_of_brokeDown id silent broken]
    refine ⟨rfl, rfl, fun count later => ?_⟩
    obtain rfl | later := Nat.eq_or_lt_of_le later
    · rfl
    · have ended : stream count = stream (index + 1) := Client.onStream_of_brokeDown later gone
      rw [ended]
      exact same

section Samples

/-- The line that opens is plain. -/
theorem isPlain_openingLine : Parcel.isPlain Http.bodyLimit openingLine = true := by
  decide +kernel

/-- The line that confirms is plain. -/
theorem isPlain_confirmingLine : Parcel.isPlain Http.bodyLimit confirmingLine = true := by
  decide +kernel

/-- The line that calls a tool is plain. -/
theorem isPlain_breakingLine : Parcel.isPlain Http.bodyLimit breakingLine = true := by
  decide +kernel

/-- The line that opens asks for a session. -/
theorem opensSession_openingLine : Http.opensSession openingLine = true := by
  simp [Http.opensSession, ofLine_openingLine, Rpc.Message.isRequestFor]

/-- A client that opens a session and confirms it. -/
def calmClient : Client where
  first := .ofPlain openingLine isPlain_openingLine
  further := [.ofPlain confirmingLine isPlain_confirmingLine]
  opens := opensSession_openingLine
  fits := by
    simp only [List.forall_mem_cons]
    exact ⟨Parcel.length_ofPlain _, Parcel.length_ofPlain _, by simp⟩

/-- A client that makes the call over which the service breaks down after that. -/
def breakingClient : Client where
  first := .ofPlain openingLine isPlain_openingLine
  further := [.ofPlain confirmingLine isPlain_confirmingLine,
    .ofPlain breakingLine isPlain_breakingLine]
  opens := opensSession_openingLine
  fits := by
    simp only [List.forall_mem_cons]
    exact ⟨Parcel.length_ofPlain _, Parcel.length_ofPlain _, Parcel.length_ofPlain _, by simp⟩

/-- Ids that are told apart by how long they are. -/
def letterIds (number : Nat) : String :=
  String.ofList (List.replicate (number + 1) 'a')

/-- These ids are a source of ids. -/
theorem isIdSource_letterIds : IsIdSource letterIds where
  injective := by
    intro first second same
    have lengths := congrArg (fun id => id.toList.length) same
    simpa [letterIds] using lengths
  nonempty := by
    intro number empty
    have length := congrArg (fun id => id.toList.length) empty
    simp [letterIds] at length
  visible := by
    intro number character member
    rw [letterIds, String.toList_ofList] at member
    rw [List.eq_of_mem_replicate member]
    decide

/-- The machine of the samples is in order. -/
theorem isClosed_contradictoryHost : contradictoryHost.tree.IsClosed := by
  decide

/-- The engine of the samples is quiet. -/
theorem isQuiet_constantDecompiler : constantDecompiler.engine.IsQuiet :=
  Engine.isQuiet_ofFunction _

/-- The server does not break down over the first two lines. -/
theorem calm (service : Service) (host : Host) (count : Nat) :
    ¬Session.Once (Session.Breaks service host) (events (calmClient.messages.take count)) := by
  rintro ⟨past, event, future, whole, line, id, params, rfl, parsed, _⟩
  have member : Session.Event.line line ∈ events (calmClient.messages.take count) := by
    rw [whole]
    simp
  obtain ⟨parcel, taken, same⟩ := List.mem_map.mp member
  obtain rfl := Session.Event.line.inj same
  have known := List.mem_of_mem_take taken
  simp only [Client.messages, calmClient, List.mem_cons, List.not_mem_nil, or_false] at known
  obtain rfl | rfl := known
  · have opens := ofLine_openingLine.symm.trans parsed
    simp at opens
  · have confirms := ofLine_confirmingLine.symm.trans parsed
    simp at confirms

/-- The theorem on two clients that take turns. -/
theorem transports_agree_calm :
    contradictoryHost.tree.IsClosed ∧ constantDecompiler.engine.IsQuiet ∧ IsIdSource letterIds ∧
      let responses := ((World.after constantDecompiler.service letterIds
        (fun _ : Bool => calmClient) contradictoryHost
        [true, false, true, true, false, true]).callers true).responses
      responses.length = 2 ∧ ∀ index (response : Response), responses[index]? = some response →
        response.Carries (calmClient.onStream constantDecompiler.service contradictoryHost index)
          (calmClient.onStream constantDecompiler.service contradictoryHost (index + 1)) := by
  obtain ⟨length, _, _, carries, _⟩ := transports_agree constantDecompiler contradictoryHost
    letterIds (fun _ : Bool => calmClient) [true, false, true, true, false, true] true
    isClosed_contradictoryHost isQuiet_constantDecompiler isIdSource_letterIds
  have two : min ([true, false, true, true, false, true].count true / 2)
      calmClient.messages.length = 2 := rfl
  refine ⟨isClosed_contradictoryHost, isQuiet_constantDecompiler, isIdSource_letterIds, ?_, ?_⟩
  · exact length.trans two
  · exact carries.mpr (calm _ _ _)

/-- A response that is neither what the server on a stream writes nor the absence of it. -/
theorem response_without_answer :
    let responses := ((World.after constantService letterIds (fun _ : Unit => breakingClient)
      contradictoryHost (List.replicate 6 ())).callers ()).responses
    ∃ response : Response, responses[2]? = some response ∧ response.status = 500 ∧
      ¬response.Carries (breakingClient.onStream constantService contradictoryHost 2)
        (breakingClient.onStream constantService contradictoryHost 3) := by
  have still : constantService.IsQuietOn contradictoryHost := fun target =>
    Decompiler.host_of_service isQuiet_constantDecompiler isClosed_contradictoryHost target
  obtain ⟨id, answers⟩ := Http.exists_id isIdSource_letterIds still (fun _ : Unit => breakingClient)
    (List.replicate 6 ()) ()
  have counted := World.length_responses constantService letterIds (fun _ : Unit => breakingClient)
    contradictoryHost (List.replicate 6 ()) ()
  have three : breakingClient.messages.length = 3 := rfl
  rw [List.count_replicate_self, three] at counted
  intro responses
  have long : 2 < responses.length := Nat.lt_of_lt_of_eq (by decide) counted.symm
  have answered := List.getElem?_eq_getElem long
  obtain ⟨parcel, next, same⟩ := answers 2 _ answered
  have third : breakingClient.messages[2]? =
      some (.ofPlain breakingLine isPlain_breakingLine) := rfl
  obtain rfl := Option.some.inj (third.symm.trans next)
  have window : Session.Window constantService contradictoryHost
      (events (breakingClient.messages.take 2)) := by
    change Session.Window constantService contradictoryHost
      [.line openingLine, .line confirmingLine]
    rw [Session.window_iff, stateAfter_confirmingLine]
  have state : Session.stateAfter constantService contradictoryHost
      (events (breakingClient.messages.take 2)) = (⟨.running, none⟩, contradictoryHost) :=
    stateAfter_confirmingLine
  have breaks : Session.Breaks constantService contradictoryHost
      (events (breakingClient.messages.take 2)) (.line breakingLine) :=
    ⟨breakingLine, _, _, rfl, ofLine_breakingLine, window, by
      rw [state]
      exact callBreaks_breakingParams⟩
  have broken := Session.breaks_iff.mp breaks
  have silent : (Session.turnAfter constantService contradictoryHost
      (events (breakingClient.messages.take 2)) breakingLine).reply = none :=
    Session.reply_of_brokeDown broken
  have failed : responses[2] = { status := 500, session := some id } :=
    same.trans (Http.Hub.responseTo_of_brokeDown id silent broken)
  refine ⟨responses[2], answered, by rw [failed], ?_⟩
  rw [failed]
  rintro (⟨status, _⟩ | ⟨status, _⟩) <;> simp at status

end Samples

end DecompileServer

import DecompileServer.Proofs.Http.Hub
import DecompileServer.Proofs.Session.Conversation

/-!
# Open sessions

Every session that is open was opened by a request that asks for it and names no session, and its
phase tells whether it was welcomed (`Registers`), whatever requests come. A refused request leaves
the directory as it is, and so does an error, with one exception: a request that asks for a session
with parameters that cannot be read opens one that waits to be asked again (`open_sessions`).
-/
namespace DecompileServer

open Rpc (Message Reply RequestId)

/-- Whether the parameters of a request to open can be read. -/
def OpeningParams.Readable (params : Option Json.Value) : Prop :=
  ∃ value read, params = some value ∧ OpeningParams.ofJson value = .ok read

namespace Session

variable {session : Session} {id : RequestId} {params : Option Json.Value}

/-- A fresh session is not opened without parameters that can be read. -/
theorem opening_of_unreadable (id : RequestId) (awaiting : session.phase = .awaiting)
    (unreadable : ¬OpeningParams.Readable params) :
    ∃ message, session.opening id params = (.badParams id message, session) := by
  rw [opening, if_neg (by simp [awaiting])]
  cases given : readParams id "initialize" OpeningParams.ofJson params with
  | error refusal =>
    obtain ⟨message, rfl⟩ := readParams_eq_error given
    exact ⟨message, rfl⟩
  | ok read =>
    obtain ⟨value, same, reads⟩ := readParams_eq_ok.mp given
    exact absurd ⟨value, read, same, reads⟩ unreadable

/-- A fresh session is opened with parameters that can be read. -/
theorem opening_of_readable (awaiting : session.phase = .awaiting)
    (readable : OpeningParams.Readable params) :
    (session.opening id params).1 = .result id welcome := by
  obtain ⟨value, read, same, reads⟩ := readable
  have given : readParams id "initialize" OpeningParams.ofJson params = .ok read :=
    readParams_eq_ok.mpr ⟨value, same, reads⟩
  rw [opening, if_neg (by simp [awaiting]), given]

/-- A session has been opened after a line exactly if it was before or the line is a request to open
that gets a result. -/
theorem phase_of_handleLine (service : Service) (session : Session) (line : String) (host : Host) :
    (session.handleLine service line host).session.phase ≠ .awaiting ↔
      session.phase ≠ .awaiting ∨ ∃ asked value, Asks asked line ∧
        (session.handleLine service line host).reply = some (.result asked value) := by
  obtain ⟨id, read, asks, awaiting, opened⟩ | ⟨confirms, initialising, confirmed⟩ | ⟨kept, refused, _⟩ :=
    handleLine_cases service session line host
  · rw [opened]
    exact ⟨fun _ => .inr ⟨id, welcome, asks, rfl⟩, fun _ => by simp⟩
  · rw [confirmed, initialising]
    simp
  · rw [kept]
    refine ⟨.inl, ?_⟩
    rintro (before | ⟨asked, value, asks, replied⟩)
    · exact before
    · obtain ⟨code, message, refusal⟩ := refused asked asks
      rw [refusal] at replied
      cases replied

end Session

namespace Http

/-- Whether a request asks for a session and names none. -/
structure AsksToOpen (request : Request) (line : String) (asked : RequestId)
    (params : Option Json.Value) : Prop where
  /-- The request goes to the route of messages. -/
  route : Route.ofPath? request.path = some .messages
  /-- The request carries a message. -/
  method : request.method = "POST"
  /-- The request names no session. -/
  nameless : request.sessionId? = none
  /-- The body is text. -/
  body : textOfBody request.body = .ok line
  /-- The message asks for a session. -/
  parsed : Message.ofLine line = .ok (.request asked "initialize" params)

/-- Whether a request asks for the session with an id to be ended. -/
structure AsksToEnd (request : Request) (id : String) : Prop where
  /-- The request goes to the route of messages. -/
  route : Route.ofPath? request.path = some .messages
  /-- The request ends a session. -/
  method : request.method = "DELETE"
  /-- The request names the session. -/
  named : request.sessionId? = some id

namespace Hub

variable {hub : Hub} {ids : Nat → String} {service : Service} {host : Host} {request : Request}
  {requests : List Request} {id line : String} {number : Nat} {asked : RequestId}
  {params : Option Json.Value}

/-- What becomes of a request in the directory. -/
inductive Arrival (hub : Hub) (ids : Nat → String) (request : Request) : Errand × Hub → Prop where
  /-- There is a response at once. -/
  | answered (response : Response) : Arrival hub ids request (.done response, hub)
  /-- The request is for an open session. -/
  | addressed (id : String) (number : Nat) (line : String) (found : hub.find? id = some number)
      (named : request.sessionId? = some id) :
      Arrival hub ids request (.talk id number line, hub)
  /-- The request opens a session. -/
  | opening (line : String) (asked : RequestId) (params : Option Json.Value)
      (asks : AsksToOpen request line asked params) :
      Arrival hub ids request (.talk (ids hub.sessions.length) hub.sessions.length line,
        hub.add (ids hub.sessions.length))
  /-- The request ends an open session. -/
  | closing (id : String) (number : Nat) (found : hub.find? id = some number)
      (asks : AsksToEnd request id) :
      Arrival hub ids request (.close number, hub.forget id)

/-- Every request arrives in one of these ways. -/
theorem arrival (hub : Hub) (ids : Nat → String) (request : Request) :
    Arrival hub ids request (hub.arrive ids request) := by
  unfold arrive
  split
  · exact .answered _
  · rename_i route
    split
    · rename_i method
      unfold arrivePost
      split
      · exact .answered _
      · rename_i line body
        split
        · rename_i named
          split
          · rename_i number found
            exact .addressed _ number line found named
          · exact .answered _
        · rename_i nameless
          split
          · rename_i opens
            unfold opensSession at opens
            split at opens
            · rename_i message parsed
              cases message with
              | notification => cases opens
              | request asked method params =>
                obtain rfl : method = "initialize" := by
                  simpa [Message.isRequestFor] using opens
                exact .opening line asked params ⟨route, method, nameless, body, parsed⟩
            · cases opens
          · exact .answered _
    · rename_i method
      unfold arriveDelete
      split
      · exact .answered _
      · rename_i named
        split
        · rename_i number found
          exact .closing _ number found ⟨route, method, named⟩
        · exact .answered _
    · exact .answered _
  · split <;> exact .answered _

/-- A request is served by what its arrival leaves to do. -/
theorem serve_eq (hub : Hub) (ids : Nat → String) (service : Service) (request : Request) :
    hub.serve ids service request =
      (hub.arrive ids request).2.perform service (hub.arrive ids request).1 := by
  rw [serve]

/-- The reply to what is left of a request, if there is one. -/
def replyTo (hub : Hub) (service : Service) (errand : Errand) : Option Reply :=
  match errand with
  | .talk _ number line => ((hub.session number).handleLine service line hub.host).reply
  | _ => none

/-- Whether a session answers a request to open it with a result. -/
def Welcomes (service : Service) (arrived : Errand × Hub) (number : Nat) : Prop :=
  ∃ id line asked value, arrived.1 = .talk id number line ∧ Asks asked line ∧
    arrived.2.replyTo service arrived.1 = some (.result asked value)

/-- An open session: its id is that of its number, it is not over, and it has left its first phase
exactly if it was welcomed. -/
structure Registered (ids : Nat → String) (hub : Hub) (welcomed opened : Nat → Prop) (id : String)
    (number : Nat) : Prop where
  /-- The id is that of the number. -/
  named : id = ids number
  /-- The session exists. -/
  known : number < hub.sessions.length
  /-- The session is not over. -/
  alive : (hub.session number).phase ≠ .shuttingDown
  /-- The phase tells whether it was welcomed. -/
  phase : (hub.session number).phase ≠ .awaiting ↔ welcomed number
  /-- The session was opened. -/
  opened : opened number

/-- A directory of open sessions. -/
structure Registers (ids : Nat → String) (hub : Hub) (welcomed opened : Nat → Prop) : Prop where
  /-- Every entry is an open session. -/
  each : ∀ id number, (id, number) ∈ hub.directory → Registered ids hub welcomed opened id number
  /-- Only sessions that exist were welcomed. -/
  welcomed : ∀ number, welcomed number → number < hub.sessions.length

namespace Registers

variable {welcomed opened : Nat → Prop}

/-- A session that is found is an open one. -/
theorem found (registers : Registers ids hub welcomed opened) (found : hub.find? id = some number) :
    Registered ids hub welcomed opened id number := by
  obtain ⟨before, after, whole, _⟩ := List.lookup_eq_some_iff.mp found
  exact registers.each id number (by simp [whole])

/-- The same sessions are welcomed, and at least the same were opened. -/
theorem weaken {others more : Nat → Prop} (registers : Registers ids hub welcomed opened)
    (same : ∀ number, welcomed number ↔ others number)
    (wider : ∀ number, opened number → more number) : Registers ids hub others more where
  each id number member :=
    let ⟨named, known, alive, phase, opened⟩ := registers.each id number member
    ⟨named, known, alive, phase.trans (same number), wider number opened⟩
  welcomed number given := registers.welcomed number ((same number).mpr given)

/-- A session that is opened waits to be welcomed. -/
theorem add (registers : Registers ids hub welcomed opened) :
    Registers ids (hub.add (ids hub.sessions.length)) welcomed
      (fun number => opened number ∨ number = hub.sessions.length) where
  each id number member := by
    rcases List.mem_append.mp member with before | last
    · obtain ⟨named, known, alive, phase, opened⟩ :=
        registers.each id number (List.mem_filter.mp before).1
      refine ⟨named, by simp; omega, ?_, ?_, .inl opened⟩
      · rwa [session_add_of_lt known]
      · rwa [session_add_of_lt known]
    · obtain ⟨rfl, rfl⟩ := Prod.mk.inj (List.mem_singleton.mp last)
      have waits : ¬welcomed hub.sessions.length := fun given =>
        absurd (registers.welcomed _ given) (Nat.lt_irrefl _)
      exact ⟨rfl, by simp, by simp, by simp [waits], .inr rfl⟩
  welcomed number given := by
    have known := registers.welcomed number given
    rw [length_sessions_add]
    omega

/-- A session that is ended is not open any more. -/
theorem close (registers : Registers ids hub welcomed opened) (found : hub.find? id = some number)
    (session : Session) : Registers ids ((hub.forget id).setSession number session) welcomed opened where
  each other another member := by
    obtain ⟨inside, distinct⟩ := List.mem_filter.mp member
    obtain ⟨named, known, alive, phase, opened⟩ := registers.each other another inside
    have apart : number ≠ another := by
      rintro rfl
      exact absurd (named.trans (registers.found found).named.symm) (by simpa using distinct)
    have same : ((hub.forget id).setSession number session).session another = hub.session another :=
      session_setSession_of_ne apart
    exact ⟨named, by simpa [forget] using known, by rwa [same], by rwa [same], opened⟩
  welcomed another given := by simpa [forget] using registers.welcomed another given

/-- A session that is talked to stays open, and is welcomed if the message is a request to open that
gets a result. -/
theorem talk (registers : Registers ids hub welcomed opened) (known : number < hub.sessions.length) :
    let errand := Errand.talk id number line
    Registers ids (hub.perform service errand).2
      (fun other => welcomed other ∨ Welcomes service (errand, hub) other) opened := by
  intro errand
  have welcomes : ∀ other, Welcomes service (errand, hub) other ↔ other = number ∧
      ∃ asked value, Asks asked line ∧
        ((hub.session number).handleLine service line hub.host).reply =
          some (.result asked value) := by
    intro other
    constructor
    · rintro ⟨_, _, asked, value, same, asks, replied⟩
      cases same
      exact ⟨rfl, asked, value, asks, replied⟩
    · rintro ⟨rfl, asked, value, asks, replied⟩
      exact ⟨id, line, asked, value, rfl, asks, replied⟩
  refine ⟨fun other another member => ?_, fun another given => ?_⟩
  · obtain ⟨named, within, alive, phase, opened⟩ := registers.each other another member
    by_cases same : another = number
    · subst same
      have turned : (hub.perform service errand).2.session another =
          ((hub.session another).handleLine service line hub.host).session :=
        session_setSession_self known
      refine ⟨named, by simpa [errand, perform] using within, ?_, ?_, opened⟩
      · rw [turned]
        exact Session.alive_of_handleLine alive
      · rw [turned, Session.phase_of_handleLine, phase, welcomes]
        simp
    · have kept : (hub.perform service errand).2.session another = hub.session another :=
        session_setSession_of_ne (Ne.symm same)
      refine ⟨named, by simpa [errand, perform] using within, by rwa [kept], ?_, opened⟩
      rw [kept, phase, welcomes]
      simp [same]
  · have within : another < hub.sessions.length := by
      obtain before | now := given
      · exact registers.welcomed another before
      · rw [((welcomes another).mp now).1]
        exact known
    simpa [errand, perform] using within

/-- A request leaves a directory of open sessions. -/
theorem serve {arrived : Errand × Hub} (registers : Registers ids hub welcomed opened)
    (arrival : Arrival hub ids request arrived) :
    Registers ids (arrived.2.perform service arrived.1).2
      (fun number => welcomed number ∨ Welcomes service arrived number)
      (fun number => opened number ∨
        (∃ line asked params, AsksToOpen request line asked params) ∧
          number = hub.sessions.length) := by
  cases arrival with
  | answered response =>
    exact registers.weaken (fun number => by simp [Welcomes]) fun number => .inl
  | addressed id number line found =>
    exact (registers.talk (registers.found found).known).weaken (fun _ => .rfl) fun number => .inl
  | opening line asked params asks =>
    refine (registers.add.talk (by simp)).weaken (fun _ => .rfl) ?_
    rintro number (opened | same)
    · exact .inl opened
    · exact .inr ⟨⟨line, asked, params, asks⟩, same⟩
  | closing id number found =>
    refine (registers.close found _).weaken (fun number => ?_) fun number => .inl
    simp [Welcomes]

end Registers

/-- The hub after some requests, with no other in between. -/
def served (service : Service) (ids : Nat → String) (host : Host) (requests : List Request) : Hub :=
  requests.foldl (fun hub request => (hub.serve ids service request).2) { host }

/-- Whether one of some requests opened the session with a number. -/
def WasOpened (service : Service) (ids : Nat → String) (host : Host) (requests : List Request)
    (number : Nat) : Prop :=
  ∃ past request future, requests = past ++ request :: future ∧
    (∃ line asked params, AsksToOpen request line asked params) ∧
      number = (served service ids host past).sessions.length

/-- Whether the session with a number answered one of some requests, which asked it to open, with a
result. -/
def WasWelcomed (service : Service) (ids : Nat → String) (host : Host) (requests : List Request)
    (number : Nat) : Prop :=
  ∃ past request future, requests = past ++ request :: future ∧
    Welcomes service ((served service ids host past).arrive ids request) number

/-- The directory lists open sessions, whatever requests came. -/
theorem registers_served (service : Service) (ids : Nat → String) (host : Host)
    (requests : List Request) :
    Registers ids (served service ids host requests) (WasWelcomed service ids host requests)
      (WasOpened service ids host requests) := by
  induction requests using List.reverseRecOn with
  | nil =>
    refine ⟨fun id number member => by simp [served] at member, fun number given => ?_⟩
    obtain ⟨past, request, future, whole, _⟩ := given
    simp at whole
  | append_singleton requests request ih =>
    have next : served service ids host (requests ++ [request]) =
        ((served service ids host requests).serve ids service request).2 := by
      simp [served]
    rw [next, serve_eq]
    refine (ih.serve (arrival _ ids request)).weaken (fun number => ?_) fun number => ?_
    · exact exists_split_concat.symm
    · exact exists_split_concat.mpr

/-- A request that asks for a session gets a fresh one. -/
theorem arrive_of_asksToOpen (asks : AsksToOpen request line asked params) :
    hub.arrive ids request = (.talk (ids hub.sessions.length) hub.sessions.length line,
      hub.add (ids hub.sessions.length)) := by
  have opens : opensSession line = true := by
    simp [opensSession, asks.parsed, Message.isRequestFor]
  rw [arrive, asks.route]
  dsimp only
  rw [asks.method]
  simp only [arrivePost, asks.body, asks.nameless, opens, if_true]

/-- A request to end a session takes it out of the directory if it is found there, and is refused
otherwise. -/
theorem arrive_of_asksToEnd (asks : AsksToEnd request id) :
    hub.arrive ids request =
      match hub.find? id with
      | some number => (.close number, hub.forget id)
      | none => (.done (notFound id), hub) := by
  have deleted : hub.arrive ids request = hub.arriveDelete request := by
    rw [arrive, asks.route]
    simp only [asks.method]
  rw [deleted]
  cases found : hub.find? id with
  | none => simp only [arriveDelete, asks.named, found]
  | some number => simp only [arriveDelete, asks.named, found]

/-- A message is never answered with a status that puts the fault with the client. -/
theorem status_responseTo (id : String) (turn : Turn) :
    ¬(400 ≤ (responseTo id turn).status ∧ (responseTo id turn).status < 500) := by
  unfold responseTo
  split
  · simp [jsonResponse]
  · dsimp only
    split <;> simp

/-- A reply is the body of the response. -/
theorem responseTo_of_reply (id : String) {turn : Turn} {reply : Reply}
    (replied : turn.reply = some reply) :
    (responseTo id turn).status = 200 ∧ (responseTo id turn).body = reply.text := by
  rw [responseTo, replied]
  exact ⟨rfl, rfl⟩

/-- What is left of a request that asks for a session is answered as a request to open. -/
theorem handleLine_of_asksToOpen (asks : AsksToOpen request line asked params) (session : Session)
    (host : Host) :
    session.handleLine service line host =
      { reply := some (session.opening asked params).1, session := (session.opening asked params).2,
        host } :=
  Session.handleLine_of_request asks.parsed

/-- A response that puts the fault with the client leaves the directory, and so does a reply that
holds an error, unless the request asks for a session with parameters that cannot be read. -/
theorem directory_perform (service : Service) {arrived : Errand × Hub}
    (arrival : Arrival hub ids request arrived) :
    let result := arrived.2.perform service arrived.1
    (400 ≤ result.1.status ∧ result.1.status < 500 → result.2.directory = hub.directory) ∧
    ∀ reply, arrived.2.replyTo service arrived.1 = some reply →
      (result.1.status = 200 ∧ result.1.body = reply.text) ∧
      (reply.isError = true →
        (∀ line asked params, AsksToOpen request line asked params →
          OpeningParams.Readable params) →
        result.2.directory = hub.directory) := by
  cases arrival with
  | answered response => exact ⟨fun _ => rfl, fun reply replied => by cases replied⟩
  | addressed id number line found =>
    exact ⟨fun _ => rfl, fun reply replied => ⟨responseTo_of_reply id replied, fun _ _ => rfl⟩⟩
  | opening line asked params asks =>
    refine ⟨fun refused => absurd refused (status_responseTo _ _), fun reply replied =>
      ⟨responseTo_of_reply _ replied, fun error readable => ?_⟩⟩
    -- The session is fresh, so parameters that can be read get a result.
    rw [replyTo, handleLine_of_asksToOpen asks, session_add_self,
      Session.opening_of_readable rfl (readable line asked params asks)] at replied
    obtain rfl := Option.some.inj replied
    cases error
  | closing id number found =>
    exact ⟨fun refused => absurd refused.1 (by simp [perform]), fun reply replied => by cases replied⟩

/-- A request that asks for a session with parameters that cannot be read gets one that waits. -/
theorem serve_of_unreadable (hub : Hub) (ids : Nat → String) (service : Service)
    (asks : AsksToOpen request line asked params) (unreadable : ¬OpeningParams.Readable params) :
    ∃ message, hub.serve ids service request =
      ({ jsonResponse 200 (Reply.badParams asked message).text with
          session := some (ids hub.sessions.length) }, hub.add (ids hub.sessions.length)) := by
  have fresh : ({} : Session).phase = .awaiting := rfl
  obtain ⟨message, refused⟩ := Session.opening_of_unreadable asked fresh unreadable
  refine ⟨message, ?_⟩
  rw [serve, arrive_of_asksToOpen asks]
  dsimp only
  rw [perform, handleLine_of_asksToOpen asks, session_add_self, refused]
  simp [responseTo, setSession, add]

end Hub

/-- What is open after any requests. Every open session was opened by a request that asks for it and
names no session, goes by the id of its number, is not over, and has left its first phase exactly if
it answered a request to open it with a result. A response that puts the fault with the client
leaves the directory, and so does a reply that holds an error, unless it answers a request that asks
for a session with parameters that are missing or cannot be read. That one opens a session that waits
in its first phase, and the response names it. -/
theorem open_sessions (service : Service) (ids : Nat → String) (host : Host)
    (requests : List Request) :
    let hub := Hub.served service ids host requests
    (∀ id number, hub.find? id = some number →
      Hub.WasOpened service ids host requests number ∧ id = ids number ∧
      (hub.session number).phase ≠ .shuttingDown ∧
      ((hub.session number).phase = .initialising ∨ (hub.session number).phase = .running ↔
        Hub.WasWelcomed service ids host requests number)) ∧
    ∀ request,
      let response := (hub.serve ids service request).1
      let after := (hub.serve ids service request).2
      let arrived := hub.arrive ids request
      (400 ≤ response.status ∧ response.status < 500 → after.directory = hub.directory) ∧
      (∀ reply, arrived.2.replyTo service arrived.1 = some reply →
        (response.status = 200 ∧ response.body = reply.text) ∧
        ((∃ id code message, reply = .error id code message) →
          (∀ line asked params, AsksToOpen request line asked params →
            OpeningParams.Readable params) →
          after.directory = hub.directory)) ∧
      ∀ line asked params, AsksToOpen request line asked params → ¬OpeningParams.Readable params →
        ∃ message, response =
            { jsonResponse 200 (Reply.badParams asked message).text with
              session := some (ids hub.sessions.length) } ∧
          after = hub.add (ids hub.sessions.length) ∧
          (after.session hub.sessions.length).phase = .awaiting := by
  intro hub
  refine ⟨fun id number found => ?_, fun request => ?_⟩
  · have registered := (Hub.registers_served service ids host requests).found found
    have alive : (hub.session number).phase ≠ .shuttingDown := registered.alive
    have phase : (hub.session number).phase ≠ .awaiting ↔ _ := registered.phase
    refine ⟨registered.opened, registered.named, alive, ?_⟩
    rw [← phase]
    generalize (hub.session number).phase = reached at alive
    cases reached with
    | awaiting => simp
    | initialising => simp
    | running => simp
    | shuttingDown => exact absurd rfl alive
  · intro response after arrived
    have performed := Hub.directory_perform service (Hub.arrival hub ids request)
    rw [← Hub.serve_eq] at performed
    obtain ⟨refused, replied⟩ := performed
    refine ⟨refused, fun reply told => ?_, fun line asked params asks unreadable => ?_⟩
    · obtain ⟨body, kept⟩ := replied reply told
      exact ⟨body, fun error => kept (Reply.isError_iff.mpr error)⟩
    obtain ⟨message, whole⟩ := Hub.serve_of_unreadable hub ids service asks unreadable
    have first : response = _ := congrArg Prod.fst whole
    have second : after = _ := congrArg Prod.snd whole
    refine ⟨message, first, second, ?_⟩
    rw [second, Hub.session_add_self]

/-- A line that asks for a session without parameters. -/
def bareOpeningLine : String :=
  "\x7b\"jsonrpc\":\"2.0\",\"id\":1,\"method\":\"initialize\"\x7d"

/-- The line is a request. -/
theorem ofLine_bareOpeningLine : Message.ofLine bareOpeningLine =
    .ok (.request (.integer 1 (by decide)) "initialize" none) := by
  cbv

/-- A request with that line, which names no session. -/
def bareRequest : Request where
  method := "POST"
  target := "/mcp"
  body := Utf8.encode bareOpeningLine

/-- The request asks for a session. -/
theorem asksToOpen_bareRequest :
    AsksToOpen bareRequest bareOpeningLine (.integer 1 (by decide)) none where
  route := by decide +kernel
  method := rfl
  nameless := by decide +kernel
  body := by decide +kernel
  parsed := ofLine_bareOpeningLine

/-- A request to open that is answered with an error and leaves a session that waits to be asked
again. -/
theorem session_after_error :
    let ids := fun _ : Nat => "first"
    let hub := Hub.served constantService ids contradictoryHost []
    let arrived := hub.arrive ids bareRequest
    let after := (hub.serve ids constantService bareRequest).2
    hub.directory = [] ∧
      arrived.2.replyTo constantService arrived.1 =
        some (.error (some (.integer 1 (by decide))) .invalidParams "Missing initialize params") ∧
      after.directory = [("first", 0)] ∧ (after.session 0).phase = .awaiting := by
  intro ids hub arrived after
  have unreadable : ¬OpeningParams.Readable none := by
    rintro ⟨_, _, given, _⟩
    cases given
  obtain ⟨message, whole⟩ :=
    Hub.serve_of_unreadable hub ids constantService asksToOpen_bareRequest unreadable
  have left : after = hub.add "first" := congrArg Prod.snd whole
  have opened : arrived = (.talk "first" 0 bareOpeningLine, hub.add "first") :=
    Hub.arrive_of_asksToOpen asksToOpen_bareRequest
  refine ⟨rfl, ?_, ?_, ?_⟩
  · rw [opened, Hub.replyTo, Hub.handleLine_of_asksToOpen asksToOpen_bareRequest]
    rfl
  · rw [left]
    rfl
  · rw [left]
    rfl

end Http

end DecompileServer

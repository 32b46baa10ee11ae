import DecompileServer.Proofs.Http.Hub
import DecompileServer.Proofs.Session.Conversation
import Mathlib.Logic.Function.Basic

/-!
# Clients at one hub

Any number of clients send their messages to one hub, each one after the other. A request takes two
steps, and those of different clients come in any order. Whatever the order, each client talks to a
session of its own, which only its own messages have reached (`Invariant`).
-/
namespace DecompileServer.Http

open Rpc (Parcel)

/-- The source of the ids of sessions: each one is a new word of visible characters. -/
structure IsIdSource (ids : Nat → String) : Prop where
  /-- No id comes twice. -/
  injective : Function.Injective ids
  /-- An id has a character at least. -/
  nonempty : ∀ number, ids number ≠ ""
  /-- The characters of an id are visible and of one byte. -/
  visible : ∀ number, ∀ character ∈ (ids number).toList,
    33 ≤ character.toNat ∧ character.toNat ≤ 126

/-- A client with its messages, the first of which opens a session. -/
structure Client where
  /-- The first message. -/
  first : Parcel
  /-- The further messages. -/
  further : List Parcel
  /-- The first message is a request to open a session. -/
  opens : opensSession first.text = true
  /-- No message is too long for a body. -/
  fits : ∀ parcel ∈ first :: further, parcel.bytes.length ≤ bodyLimit

/-- All messages of a client. -/
def Client.messages (client : Client) : List Parcel :=
  client.first :: client.further

/-- How far a client has come. -/
structure Caller where
  /-- What is left of the request that is being served. -/
  errand? : Option Errand := none
  /-- The responses so far. -/
  responses : List Response := []

/-- The id that a client has been given with the first response. -/
def Caller.id? (caller : Caller) : Option String :=
  caller.responses.head?.bind (·.session)

/-- The request with a message, in the session with an id if there is one. -/
def post (id? : Option String) (parcel : Parcel) : Request where
  method := "POST"
  target := "/mcp"
  headers := id?.toList.map fun id => (sessionHeader, Utf8.encode id)
  body := parcel.bytes

/-- The hub and its clients. -/
structure World (ι : Type) where
  /-- The hub. -/
  hub : Hub
  /-- How far each client has come. -/
  callers : ι → Caller

namespace World

variable {ι : Type} [DecidableEq ι]

/-- The next step of a client: its request is served further, or it sends the next one. -/
def step (service : Service) (ids : Nat → String) (clients : ι → Client) (world : World ι) (i : ι) :
    World ι :=
  let caller := world.callers i
  match caller.errand? with
  | some errand =>
    let (response, hub) := world.hub.perform service errand
    { hub, callers := Function.update world.callers i
        { responses := caller.responses ++ [response] } }
  | none =>
    match (clients i).messages[caller.responses.length]? with
    | none => world
    | some parcel =>
      let (errand, hub) := world.hub.arrive ids (post caller.id? parcel)
      { hub, callers := Function.update world.callers i { caller with errand? := some errand } }

/-- The hub and its clients after some steps, from the start. -/
def after (service : Service) (ids : Nat → String) (clients : ι → Client) (host : Host)
    (steps : List ι) : World ι :=
  steps.foldl (step service ids clients) { hub := { host }, callers := fun _ => {} }

end World

section Requests

variable {ids : Nat → String} {id : String} {id? : Option String} {parcel : Parcel} {hub : Hub}

/-- A visible id is read back from its header. -/
theorem visibleText?_encode (source : IsIdSource ids) (number : Nat) :
    visibleText? (Utf8.encode (ids number)) = some (ids number) := by
  have each := source.visible number
  have byte : ∀ character ∈ (ids number).toList,
      (UInt8.ofNat character.toNat).toNat = character.toNat := by
    intro character member
    have bounds := each character member
    rw [UInt8.toNat_ofNat']
    omega
  rw [Utf8.encode_of_ascii fun character member => by have bounds := each character member; omega,
    visibleText?, if_pos]
  · have back : (ids number).toList.map ((fun byte => Char.ofNat byte.toNat) ∘
        fun character => UInt8.ofNat character.toNat) = (ids number).toList := by
      conv_rhs => rw [← List.map_id (ids number).toList]
      refine List.map_congr_left fun character member => ?_
      simp only [Function.comp, byte character member, Char.ofNat_toNat]
      rfl
    rw [List.map_map, back, String.ofList_toList]
  · rw [List.all_map, List.all_eq_true]
    intro character member
    have bounds := each character member
    have same := byte character member
    have low : (32 : UInt8) ≤ UInt8.ofNat character.toNat := by
      rw [UInt8.le_iff_toNat_le, same]
      exact Nat.le_trans (by decide) bounds.1
    have high : UInt8.ofNat character.toNat < 127 := by
      rw [UInt8.lt_iff_toNat_lt, same]
      exact Nat.lt_of_le_of_lt bounds.2 (by decide)
    simp [isVisible, low, high]

/-- The id in the header names the session. -/
theorem sessionId?_post (source : IsIdSource ids) (number : Nat) (parcel : Parcel) :
    (post (some (ids number)) parcel).sessionId? = some (ids number) := by
  have named : (post (some (ids number)) parcel).header? sessionHeader =
      some (Utf8.encode (ids number)) := by
    simp [post, Request.header?, Text.equalsIgnoringCase]
  rw [Request.sessionId?, named]
  dsimp only
  rw [visibleText?_encode source number]
  simp [source.nonempty number]

/-- A request with a message is taken in as one. -/
theorem arrive_post (hub : Hub) (ids : Nat → String) (id? : Option String) (parcel : Parcel) :
    hub.arrive ids (post id? parcel) = hub.arrivePost ids (post id? parcel) := by
  have routed : Route.ofPath? (post id? parcel).path = some .messages := by
    change Route.ofPath? (String.ofList ((Request.fromPath "/mcp".toList).takeWhile
      fun character => character ≠ '?' ∧ character ≠ '#')) = some .messages
    decide +kernel
  have posted : (post id? parcel).method = "POST" := rfl
  unfold Hub.arrive
  simp only [routed, posted]

/-- A message that fits is taken in as its text. -/
theorem textOfBody_post (fits : parcel.bytes.length ≤ bodyLimit) :
    textOfBody (post id? parcel).body = .ok parcel.text := by
  change textOfBody parcel.bytes = .ok parcel.text
  rw [textOfBody, if_neg (by omega), parcel.decoded, Except.mapError]

/-- A first message opens a session under the next id. -/
theorem arrive_first (client : Client) : hub.arrive ids (post none client.first) =
    (.talk (ids hub.sessions.length) hub.sessions.length client.first.text,
      hub.add (ids hub.sessions.length)) := by
  have unnamed : (post none client.first).sessionId? = none := rfl
  rw [arrive_post, Hub.arrivePost]
  simp [textOfBody_post (client.fits _ List.mem_cons_self), unnamed, client.opens]

/-- A message with the id of a session goes to this session. -/
theorem arrive_further {number : Nat} (source : IsIdSource ids)
    (fits : parcel.bytes.length ≤ bodyLimit) (found : hub.find? (ids number) = some number) :
    hub.arrive ids (post (some (ids number)) parcel) =
      (.talk (ids number) number parcel.text, hub) := by
  rw [arrive_post, Hub.arrivePost]
  simp [textOfBody_post fits, sessionId?_post source, found]

end Requests

section Sessions

open Conversation (events)

variable {ι : Type} [DecidableEq ι] {service : Service} {ids : Nat → String} {host : Host}
  {clients : ι → Client} {world : World ι} {numbers : ι → Option Nat}

/-- How a client is served in a session of its own, which has the given number. -/
structure Serves (service : Service) (ids : Nat → String) (host : Host) (client : Client)
    (hub : Hub) (caller : Caller) (number : Nat) : Prop where
  /-- The session has been opened. -/
  opened : number < hub.sessions.length
  /-- The session is found under its id. -/
  found : hub.find? (ids number) = some number
  /-- The session is the one that the messages answered so far lead to. -/
  session : hub.session number =
    (Session.stateAfter service host (events (client.messages.take caller.responses.length))).1
  /-- The request that is being served is the next message. -/
  errand : ∀ errand, caller.errand? = some errand →
    ∃ parcel, client.messages[caller.responses.length]? = some parcel ∧
      errand = .talk (ids number) number parcel.text
  /-- Each response answers its message after those before. -/
  responses : ∀ index response, caller.responses[index]? = some response →
    ∃ parcel, client.messages[index]? = some parcel ∧
      response = Hub.responseTo (ids number)
        (Session.turnAfter service host (events (client.messages.take index)) parcel.text)
  /-- The client has begun. -/
  begun : caller.errand? = none → caller.responses ≠ []

/-- Whatever the order of the steps, each client that has begun is served in a session of its own.
-/
structure Invariant (service : Service) (ids : Nat → String) (host : Host) (clients : ι → Client)
    (world : World ι) (numbers : ι → Option Nat) : Prop where
  /-- The host stays. -/
  kept : world.hub.host = host
  /-- No two clients share a session. -/
  distinct : ∀ i j number, numbers i = some number → numbers j = some number → i = j
  /-- A client without a session has not begun. -/
  idle : ∀ i, numbers i = none → world.callers i = {}
  /-- A client with a session is served in it. -/
  serves : ∀ i number, numbers i = some number →
    Serves service ids host (clients i) world.hub (world.callers i) number

namespace Serves

variable {client : Client} {hub other : Hub} {caller : Caller} {number : Nat}

/-- A client is served as before if its session is. -/
theorem of_same (serves : Serves service ids host client hub caller number)
    (opened : number < other.sessions.length) (found : other.find? (ids number) = some number)
    (session : other.session number = hub.session number) :
    Serves service ids host client other caller number :=
  { serves with opened, found, session := session.trans serves.session }

/-- The id that a client was given is that of its session. -/
theorem id?_eq (serves : Serves service ids host client hub caller number)
    (idle : caller.errand? = none) : caller.id? = some (ids number) := by
  obtain ⟨first, rest, whole⟩ := List.exists_cons_of_ne_nil (serves.begun idle)
  obtain ⟨parcel, _, answered⟩ := serves.responses 0 first (by rw [whole]; rfl)
  have session : first.session = some (ids number) := by
    rw [answered, Hub.session_responseTo]
  rw [Caller.id?, whole]
  exact session

/-- A client with nothing in progress is served as before with its next request in progress. -/
theorem send {parcel : Parcel} (serves : Serves service ids host client hub caller number)
    (next : client.messages[caller.responses.length]? = some parcel) :
    Serves service ids host client hub
      { caller with errand? := some (.talk (ids number) number parcel.text) } number where
  opened := serves.opened
  found := serves.found
  session := serves.session
  errand := by
    intro errand same
    exact ⟨parcel, next, (Option.some.inj same).symm⟩
  responses := serves.responses
  begun := by simp

/-- A client in a session that has just been opened is served with its first request in progress. -/
theorem add (client : Client) (hub : Hub) :
    Serves service ids host client (hub.add (ids hub.sessions.length))
      { errand? := some
          (.talk (ids hub.sessions.length) hub.sessions.length client.first.text) }
      hub.sessions.length where
  opened := by simp
  found := by simp
  session := by
    rw [Hub.session_add_self]
    rfl
  errand := by
    intro errand same
    exact ⟨client.first, rfl, (Option.some.inj same).symm⟩
  responses := by simp
  begun := by simp

/-- What a session makes of the next message is what the messages before lead to. -/
theorem turn_eq (serves : Serves service ids host client hub caller number)
    (quiet : service.IsQuietOn host) (line : String) :
    (hub.session number).handleLine service line host =
      Session.turnAfter service host
        (events (client.messages.take caller.responses.length)) line := by
  rw [Session.turnAfter, ← serves.session, Session.host_of_stateAfter quiet]

/-- The second step of the request with the next message. -/
theorem perform_eq (serves : Serves service ids host client hub caller number)
    (quiet : service.IsQuietOn host) (kept : hub.host = host) (line : String) :
    let turn := Session.turnAfter service host
      (events (client.messages.take caller.responses.length)) line
    hub.perform service (.talk (ids number) number line) =
      (Hub.responseTo (ids number) turn, { hub.setSession number turn.session with host }) := by
  intro turn
  have same : (hub.session number).handleLine service line hub.host = turn := by
    rw [kept, serves.turn_eq quiet]
  have still : turn.host = host := by
    rw [← same, kept, Session.host_of_handleLine quiet]
  change (Hub.responseTo (ids number) ((hub.session number).handleLine service line hub.host),
    { hub.setSession number ((hub.session number).handleLine service line hub.host).session with
      host := ((hub.session number).handleLine service line hub.host).host }) = _
  rw [same, still]

/-- A client is served with one response more when its request is. -/
theorem perform {parcel : Parcel} (serves : Serves service ids host client hub caller number)
    (quiet : service.IsQuietOn host) (kept : hub.host = host)
    (next : client.messages[caller.responses.length]? = some parcel) :
    let served := hub.perform service (.talk (ids number) number parcel.text)
    Serves service ids host client served.2 { responses := caller.responses ++ [served.1] }
      number := by
  have further : events (client.messages.take (caller.responses.length + 1)) =
      events (client.messages.take caller.responses.length) ++ [.line parcel.text] := by
    rw [List.take_add_one, next, events, events]
    simp
  rw [serves.perform_eq quiet kept]
  dsimp only
  refine { opened := ?_, found := serves.found, session := ?_, errand := by simp, responses := ?_,
           begun := by simp }
  · simpa using serves.opened
  · rw [List.length_append, List.length_singleton, further, Session.stateAfter_concat]
    exact Hub.session_setSession_self serves.opened
  · intro index response answered
    by_cases before : index < caller.responses.length
    · rw [List.getElem?_append_left before] at answered
      exact serves.responses index response answered
    · rw [List.getElem?_append_right (by omega), List.getElem?_singleton] at answered
      split at answered
      · have last : index = caller.responses.length := by omega
        subst last
        exact ⟨parcel, next, (Option.some.inj answered).symm⟩
      · cases answered

end Serves

namespace World

/-- The step of a client whose request is being served. -/
theorem step_of_errand {i : ι} {errand : Errand}
    (pending : (world.callers i).errand? = some errand) :
    world.step service ids clients i =
      { hub := (world.hub.perform service errand).2
        callers := Function.update world.callers i
          { responses :=
              (world.callers i).responses ++ [(world.hub.perform service errand).1] } } := by
  unfold step
  dsimp only
  rw [pending]

/-- The step of a client that sends its next message. -/
theorem step_of_message {i : ι} {parcel : Parcel} (idle : (world.callers i).errand? = none)
    (next : (clients i).messages[(world.callers i).responses.length]? = some parcel) :
    let arrival := world.hub.arrive ids (post (world.callers i).id? parcel)
    world.step service ids clients i =
      { hub := arrival.2
        callers := Function.update world.callers i
          { world.callers i with errand? := some arrival.1 } } := by
  unfold step
  dsimp only
  rw [idle]
  dsimp only
  rw [next]

/-- The step of a client that has no message left. -/
theorem step_of_end {i : ι} (idle : (world.callers i).errand? = none)
    (last : (clients i).messages[(world.callers i).responses.length]? = none) :
    world.step service ids clients i = world := by
  unfold step
  dsimp only
  rw [idle]
  dsimp only
  rw [last]

/-- A step of a client is none of another. -/
theorem callers_step_of_ne {i j : ι} (apart : i ≠ j) :
    (world.step service ids clients j).callers i = world.callers i := by
  unfold step
  dsimp only
  split
  · exact Function.update_of_ne apart _ _
  · split
    · rfl
    · exact Function.update_of_ne apart _ _

/-- Steps come one after the other. -/
theorem after_concat (steps : List ι) (i : ι) :
    World.after service ids clients host (steps ++ [i]) =
      (World.after service ids clients host steps).step service ids clients i := by
  simp [World.after]

/-- Every two steps of a client are a request, until it has no message left. -/
theorem progress (service : Service) (ids : Nat → String) (clients : ι → Client) (host : Host)
    (steps : List ι) (i : ι) :
    let caller := (World.after service ids clients host steps).callers i
    2 * caller.responses.length + caller.errand?.toList.length =
      min (steps.count i) (2 * (clients i).messages.length) := by
  induction steps using List.reverseRecOn with
  | nil => simp [World.after]
  | append_singleton steps j ih =>
    rw [after_concat, List.count_append, List.count_singleton]
    dsimp only at ih ⊢
    generalize World.after service ids clients host steps = world at ih ⊢
    by_cases mine : j = i
    · subst mine
      rw [if_pos (beq_self_eq_true j)]
      cases pending : (world.callers j).errand? with
      | some errand =>
        rw [step_of_errand pending]
        rw [pending] at ih
        simp only [Function.update_self, Option.toList_some, Option.toList_none,
          List.length_append, List.length_cons, List.length_nil] at ih ⊢
        omega
      | none =>
        rw [pending] at ih
        cases next : (clients j).messages[(world.callers j).responses.length]? with
        | none =>
          have last := List.getElem?_eq_none_iff.mp next
          rw [step_of_end pending next, pending]
          simp only [Option.toList_none, List.length_nil] at ih ⊢
          omega
        | some parcel =>
          obtain ⟨before, _⟩ := List.getElem?_eq_some_iff.mp next
          rw [step_of_message pending next]
          simp only [Function.update_self, Option.toList_some, Option.toList_none, List.length_cons,
            List.length_nil] at ih ⊢
          omega
    · rw [callers_step_of_ne (Ne.symm mine), ih, if_neg (by simpa using mine), Nat.add_zero]

/-- A client has a response for every two steps, until it has no message left. -/
theorem length_responses (service : Service) (ids : Nat → String) (clients : ι → Client)
    (host : Host) (steps : List ι) (i : ι) :
    ((World.after service ids clients host steps).callers i).responses.length =
      min (steps.count i / 2) (clients i).messages.length := by
  have counted := progress service ids clients host steps i
  dsimp only at counted
  generalize (World.after service ids clients host steps).callers i = caller at counted ⊢
  have pending : caller.errand?.toList.length ≤ 1 := by
    cases caller.errand? <;> simp
  omega

end World

namespace Invariant

/-- A client may go on in a session of its own, if this leaves the sessions of the others. -/
theorem update (invariant : Invariant service ids host clients world numbers) {i : ι} {hub : Hub}
    {caller : Caller} {number : Nat} (own : ∀ j, j ≠ i → numbers j ≠ some number)
    (kept : hub.host = host) (serves : Serves service ids host (clients i) hub caller number)
    (others : ∀ j another, j ≠ i → numbers j = some another →
      Serves service ids host (clients j) hub (world.callers j) another) :
    Invariant service ids host clients
      { hub, callers := Function.update world.callers i caller }
      (Function.update numbers i (some number)) where
  kept := kept
  distinct := by
    intro j k another first second
    by_cases left : j = i
    · by_cases right : k = i
      · rw [left, right]
      · subst left
        rw [Function.update_self] at first
        rw [Function.update_of_ne right] at second
        exact absurd (second.trans first.symm) (own k right)
    · rw [Function.update_of_ne left] at first
      by_cases right : k = i
      · subst right
        rw [Function.update_self] at second
        exact absurd (first.trans second.symm) (own j left)
      · rw [Function.update_of_ne right] at second
        exact invariant.distinct j k another first second
  idle := by
    intro j none
    have apart : j ≠ i := by
      rintro rfl
      rw [Function.update_self] at none
      cases none
    rw [Function.update_of_ne apart] at none
    dsimp only
    rw [Function.update_of_ne apart]
    exact invariant.idle j none
  serves := by
    intro j another theirs
    dsimp only
    by_cases same : j = i
    · subst same
      rw [Function.update_self] at theirs ⊢
      obtain rfl := Option.some.inj theirs
      exact serves
    · rw [Function.update_of_ne same] at theirs ⊢
      exact others j another same theirs

/-- Serving a request further keeps the invariant. -/
theorem perform (invariant : Invariant service ids host clients world numbers) {i : ι}
    {errand : Errand} (quiet : service.IsQuietOn host)
    (pending : (world.callers i).errand? = some errand) :
    ∃ numbers, Invariant service ids host clients (world.step service ids clients i) numbers := by
  cases mine : numbers i with
  | none =>
    rw [invariant.idle i mine] at pending
    cases pending
  | some number =>
    have serves := invariant.serves i number mine
    obtain ⟨parcel, next, rfl⟩ := serves.errand errand pending
    have own : ∀ j, j ≠ i → numbers j ≠ some number := fun j apart theirs =>
      apart (invariant.distinct j i number theirs mine)
    have served := serves.perform quiet invariant.kept next
    rw [World.step_of_errand pending]
    refine ⟨_, invariant.update own ?_ served ?_⟩
    · rw [serves.perform_eq quiet invariant.kept]
    · intro j another apart theirs
      have known := invariant.serves j another theirs
      have distinct : number ≠ another := by
        rintro rfl
        exact own j apart theirs
      rw [serves.perform_eq quiet invariant.kept]
      exact known.of_same (by simpa using known.opened) known.found
        (Hub.session_setSession_of_ne distinct)

/-- Sending a message keeps the invariant, with a session of its own if it is the first. -/
theorem send (invariant : Invariant service ids host clients world numbers) {i : ι}
    {parcel : Parcel} (source : IsIdSource ids) (idle : (world.callers i).errand? = none)
    (next : (clients i).messages[(world.callers i).responses.length]? = some parcel) :
    ∃ numbers, Invariant service ids host clients (world.step service ids clients i) numbers := by
  rw [World.step_of_message idle next]
  cases mine : numbers i with
  | some number =>
    have serves := invariant.serves i number mine
    have fits := (clients i).fits parcel (List.mem_of_getElem? next)
    have own : ∀ j, j ≠ i → numbers j ≠ some number := fun j apart theirs =>
      apart (invariant.distinct j i number theirs mine)
    rw [serves.id?_eq idle, arrive_further source fits serves.found]
    exact ⟨_, invariant.update own invariant.kept (serves.send next) fun j another _ theirs =>
      invariant.serves j another theirs⟩
  | none =>
    have fresh := invariant.idle i mine
    have own : ∀ j, j ≠ i → numbers j ≠ some world.hub.sessions.length := by
      intro j _ theirs
      have known := (invariant.serves j _ theirs).opened
      omega
    rw [fresh] at next ⊢
    obtain rfl : (clients i).first = parcel := Option.some.inj next
    dsimp only [Caller.id?, List.head?_nil, Option.bind_none]
    rw [arrive_first]
    refine ⟨_, invariant.update own invariant.kept (Serves.add (clients i) world.hub) ?_⟩
    intro j another apart theirs
    have known := invariant.serves j another theirs
    have distinct : ids another ≠ ids world.hub.sessions.length := fun same =>
      absurd (source.injective same) (Nat.ne_of_lt known.opened)
    have opened : another < (world.hub.add (ids world.hub.sessions.length)).sessions.length := by
      rw [Hub.length_sessions_add]
      exact Nat.lt_succ_of_lt known.opened
    exact known.of_same opened ((Hub.find?_add_of_ne distinct).trans known.found)
      (Hub.session_add_of_lt known.opened)

/-- Every step keeps the invariant. -/
theorem step (invariant : Invariant service ids host clients world numbers)
    (source : IsIdSource ids) (quiet : service.IsQuietOn host) (i : ι) :
    ∃ numbers, Invariant service ids host clients (world.step service ids clients i) numbers := by
  cases pending : (world.callers i).errand? with
  | some errand => exact invariant.perform quiet pending
  | none =>
    cases next : (clients i).messages[(world.callers i).responses.length]? with
    | some parcel => exact invariant.send source pending next
    | none =>
      rw [World.step_of_end pending next]
      exact ⟨numbers, invariant⟩

/-- The invariant holds after any steps. -/
theorem after (source : IsIdSource ids) (quiet : service.IsQuietOn host) (clients : ι → Client)
    (steps : List ι) :
    ∃ numbers, Invariant service ids host clients (World.after service ids clients host steps)
      numbers := by
  induction steps using List.reverseRecOn with
  | nil => exact ⟨fun _ => none, rfl, by simp, fun _ _ => rfl, by simp⟩
  | append_singleton steps i ih =>
    obtain ⟨numbers, invariant⟩ := ih
    rw [World.after_concat]
    exact invariant.step source quiet i

end Invariant

end Sessions

end DecompileServer.Http

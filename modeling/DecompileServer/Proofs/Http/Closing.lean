import DecompileServer.Proofs.Transports
import DecompileServer.Proofs.Http.Sessions
import Mathlib.Logic.Function.Basic

/-!
# Ended sessions

Any number of requests are served at one hub. Each takes two steps, and the steps of all of them
come in any order, so a request may hold a session that another one has taken out of the directory.
An id is found exactly from the step that opens it to the one that takes it out
(`Traffic.find?_iff`), so of the requests to end a session one succeeds at most, and once that one
has shut the session down, whoever still holds it is refused (`closing_is_final`).
-/
namespace DecompileServer

open Rpc (Message Reply RequestId)

/-- Whether a method opens a session or is only for one that has been opened. -/
def IsForSessions (method : String) : Prop :=
  method = "initialize" ∨ method = "tools/list" ∨ method = "tools/call"

namespace Session

variable {session : Session}

/-- A session that has ended answers a request without its service, and refuses one that asks to
open it or for the tools. -/
theorem request_of_ended (ended : session.phase = .shuttingDown) (id : RequestId) (method : String)
    (params : Option Json.Value) :
    ∃ reply, (∀ (service : Service) (host : Host),
        session.request service id method params host = { reply := some reply, session, host }) ∧
      (IsForSessions method → ∃ message, reply = .error (some id) .invalidRequest message) := by
  have outside : session.phase ≠ .running := by simp [ended]
  by_cases opens : method = "initialize"
  · subst opens
    refine ⟨.untimely id "Server already initialised", fun service host => ?_, fun _ => ⟨_, rfl⟩⟩
    have opened : session.request service id "initialize" params host =
        { reply := some (session.opening id params).1, session := (session.opening id params).2,
          host } := rfl
    rw [opened, opening, if_pos (by simp [ended])]
  · by_cases tools : method = "tools/list" ∨ method = "tools/call"
    · exact ⟨notRunning id, fun service host => request_of_not_running outside tools,
        fun _ => ⟨_, rfl⟩⟩
    · rw [not_or] at tools
      have otherwise : ¬IsForSessions method := by
        rintro (first | second | third)
        · exact absurd first opens
        · exact absurd second tools.1
        · exact absurd third tools.2
      by_cases ping : method = "ping"
      · subst ping
        exact ⟨.result id (.ofMembers []), fun service host => rfl,
          fun wanted => absurd wanted otherwise⟩
      · refine ⟨.unknownMethod id method, fun service host => ?_,
          fun wanted => absurd wanted otherwise⟩
        unfold request
        split
        · contradiction
        · exact absurd rfl tools.1
        · exact absurd rfl tools.2
        · contradiction
        · rfl

/-- A session that has ended stays as it is whatever line comes in, touches neither its service nor
the host, and refuses a request that asks to open it or for the tools. -/
theorem handleLine_of_ended (ended : session.phase = .shuttingDown) (line : String) :
    ∃ reply, (∀ (service : Service) (host : Host),
        session.handleLine service line host = { reply, session, host }) ∧
      ∀ id method params, Message.ofLine line = .ok (.request id method params) →
        IsForSessions method → ∃ message, reply = some (.error (some id) .invalidRequest message) := by
  cases parsed : Message.ofLine line with
  | error refusal =>
    refine ⟨some refusal.reply, fun service host => ?_, fun id method params same => by cases same⟩
    rw [handleLine, parsed]
  | ok message =>
    cases message with
    | notification method params =>
      refine ⟨none, fun service host => ?_, fun id method params same => by cases same⟩
      rw [handleLine, parsed]
      dsimp only
      rw [handle, notification, if_neg (by simp [ended])]
    | request id method params =>
      obtain ⟨reply, answered, refused⟩ := request_of_ended ended id method params
      refine ⟨some reply, fun service host => ?_, fun other again given same wanted => ?_⟩
      · rw [handleLine_of_request parsed, answered]
      · cases same
        obtain ⟨message, rfl⟩ := refused wanted
        exact ⟨message, rfl⟩

end Session

namespace Http

/-- How far a request has come. -/
inductive Progress where
  /-- It has not come in yet. -/
  | waiting
  /-- The directory has been consulted for it, and this is left to do. -/
  | underway (errand : Errand)
  /-- It has its response. -/
  | answered (response : Response)

/-- The hub and the requests that come to it. -/
structure Traffic (ι : Type) where
  /-- The hub. -/
  hub : Hub
  /-- How far each request has come. -/
  progress : ι → Progress

namespace Traffic

variable {ι : Type} [DecidableEq ι]

/-- The next step of a request: the directory is consulted for it, or what is left is done. -/
def step (service : Service) (ids : Nat → String) (requests : ι → Request) (traffic : Traffic ι)
    (i : ι) : Traffic ι :=
  match traffic.progress i with
  | .waiting =>
    let (errand, hub) := traffic.hub.arrive ids (requests i)
    { hub, progress := Function.update traffic.progress i (.underway errand) }
  | .underway errand =>
    let (response, hub) := traffic.hub.perform service errand
    { hub, progress := Function.update traffic.progress i (.answered response) }
  | .answered _ => traffic

/-- The hub and the requests after some steps, from the start. -/
def after (service : Service) (ids : Nat → String) (requests : ι → Request) (host : Host)
    (steps : List ι) : Traffic ι :=
  steps.foldl (step service ids requests) { hub := { host }, progress := fun _ => .waiting }

/-- Whether a request that comes in opens the session with a number. -/
def Opens (requests : ι → Request) (traffic : Traffic ι) (i : ι) (number : Nat) : Prop :=
  traffic.progress i = .waiting ∧
    (∃ line asked params, AsksToOpen (requests i) line asked params) ∧
    number = traffic.hub.sessions.length

/-- Whether a request that comes in takes an id out of the directory. -/
def Removes (requests : ι → Request) (traffic : Traffic ι) (i : ι) (id : String) : Prop :=
  traffic.progress i = .waiting ∧ AsksToEnd (requests i) id ∧
    (traffic.hub.find? id).isSome = true

/-- Whether something happened at one of some steps. -/
def Once (service : Service) (ids : Nat → String) (requests : ι → Request) (host : Host)
    (happens : Traffic ι → ι → Prop) (steps : List ι) : Prop :=
  ∃ past i future, steps = past ++ i :: future ∧ happens (after service ids requests host past) i

/-- Whether a request opened the session with a number. -/
def Opened (service : Service) (ids : Nat → String) (requests : ι → Request) (host : Host)
    (number : Nat) (steps : List ι) : Prop :=
  Once service ids requests host (fun traffic i => Opens requests traffic i number) steps

/-- Whether a request took an id out of the directory. -/
def Removed (service : Service) (ids : Nat → String) (requests : ι → Request) (host : Host)
    (id : String) (steps : List ι) : Prop :=
  Once service ids requests host (fun traffic i => Removes requests traffic i id) steps

/-- Whether a certain request took an id out of the directory. -/
def TookOut (service : Service) (ids : Nat → String) (requests : ι → Request) (host : Host)
    (i : ι) (id : String) (steps : List ι) : Prop :=
  Once service ids requests host (fun traffic j => j = i ∧ Removes requests traffic j id) steps

section Steps

variable {service : Service} {ids : Nat → String} {requests : ι → Request} {host : Host}
  {traffic : Traffic ι} {steps : List ι} {i j : ι}

/-- Steps come one after the other. -/
theorem after_concat : after service ids requests host (steps ++ [i]) =
    (after service ids requests host steps).step service ids requests i := by
  simp [after]

/-- What happened up to the last step happened before or at it. -/
theorem once_concat {happens : Traffic ι → ι → Prop} :
    Once service ids requests host happens (steps ++ [i]) ↔
      Once service ids requests host happens steps ∨
        happens (after service ids requests host steps) i :=
  exists_split_concat

/-- A session has been opened if it was before or is at the last step. -/
theorem opened_concat {number : Nat} : Opened service ids requests host number (steps ++ [i]) ↔
    Opened service ids requests host number steps ∨
      Opens requests (after service ids requests host steps) i number :=
  once_concat

/-- An id has been taken out if it was before or is at the last step. -/
theorem removed_concat {id : String} : Removed service ids requests host id (steps ++ [i]) ↔
    Removed service ids requests host id steps ∨
      Removes requests (after service ids requests host steps) i id :=
  once_concat

/-- An id that a request took out has been taken out. -/
theorem TookOut.removed {id : String} (took : TookOut service ids requests host i id steps) :
    Removed service ids requests host id steps := by
  obtain ⟨past, j, future, whole, _, removes⟩ := took
  exact ⟨past, j, future, whole, removes⟩

/-- Nothing happened before the first step. -/
theorem not_once_nil {happens : Traffic ι → ι → Prop} :
    ¬Once service ids requests host happens [] := by
  rintro ⟨past, i, future, whole, _⟩
  simp at whole

/-- The step of a request that comes in. -/
theorem step_of_waiting (waiting : traffic.progress i = .waiting) :
    traffic.step service ids requests i =
      { hub := (traffic.hub.arrive ids (requests i)).2
        progress := Function.update traffic.progress i
          (.underway (traffic.hub.arrive ids (requests i)).1) } := by
  unfold step
  rw [waiting]

/-- The step of a request for which the directory has been consulted. -/
theorem step_of_underway {errand : Errand} (underway : traffic.progress i = .underway errand) :
    traffic.step service ids requests i =
      { hub := (traffic.hub.perform service errand).2
        progress := Function.update traffic.progress i
          (.answered (traffic.hub.perform service errand).1) } := by
  unfold step
  rw [underway]

/-- A request that has its response makes no further step. -/
theorem step_of_answered {response : Response} (answered : traffic.progress i = .answered response) :
    traffic.step service ids requests i = traffic := by
  unfold step
  rw [answered]

/-- A step of a request is none of another. -/
theorem progress_step_of_ne (apart : j ≠ i) :
    (traffic.step service ids requests i).progress j = traffic.progress j := by
  unfold step
  split
  · exact Function.update_of_ne apart _ _
  · exact Function.update_of_ne apart _ _
  · rfl

/-- A request has come in after one step of its own, and has its response after two. -/
theorem progress_after (service : Service) (ids : Nat → String) (requests : ι → Request)
    (host : Host) (steps : List ι) (i : ι) :
    let progress := (after service ids requests host steps).progress i
    (steps.count i = 0 ∧ progress = .waiting) ∨
      (steps.count i = 1 ∧ ∃ errand, progress = .underway errand) ∨
      (2 ≤ steps.count i ∧ ∃ response, progress = .answered response) := by
  induction steps using List.reverseRecOn with
  | nil => exact .inl ⟨rfl, rfl⟩
  | append_singleton steps k ih =>
    dsimp only at ih ⊢
    rw [after_concat, List.count_append]
    by_cases same : k = i
    · subst same
      rw [List.count_singleton_self]
      obtain ⟨none, come⟩ | ⟨one, errand, come⟩ | ⟨more, response, come⟩ := ih
      · rw [step_of_waiting come]
        exact .inr (.inl ⟨by omega, _, Function.update_self ..⟩)
      · rw [step_of_underway come]
        exact .inr (.inr ⟨by omega, _, Function.update_self ..⟩)
      · rw [step_of_answered come]
        exact .inr (.inr ⟨by omega, response, come⟩)
    · rwa [progress_step_of_ne (Ne.symm same), List.count_singleton, if_neg (by simpa using same),
        Nat.add_zero]

/-- What a step of a request does to the hub and its requests. -/
inductive Moves (service : Service) (ids : Nat → String) (requests : ι → Request)
    (traffic : Traffic ι) (i : ι) : Traffic ι → Prop where
  /-- The request comes in. -/
  | arriving (errand : Errand) (hub : Hub) (come : traffic.progress i = .waiting)
      (arrival : Hub.Arrival traffic.hub ids (requests i) (errand, hub)) :
      Moves service ids requests traffic i
        { hub, progress := Function.update traffic.progress i (.underway errand) }
  /-- What is left of the request is done. -/
  | performing (errand : Errand) (come : traffic.progress i = .underway errand) :
      Moves service ids requests traffic i
        { hub := (traffic.hub.perform service errand).2
          progress := Function.update traffic.progress i
            (.answered (traffic.hub.perform service errand).1) }
  /-- The request has its response. -/
  | resting (response : Response) (come : traffic.progress i = .answered response) :
      Moves service ids requests traffic i traffic

/-- Every step is one of these. -/
theorem moves_step (service : Service) (ids : Nat → String) (requests : ι → Request)
    (traffic : Traffic ι) (i : ι) :
    Moves service ids requests traffic i (traffic.step service ids requests i) := by
  cases come : traffic.progress i with
  | waiting =>
    rw [step_of_waiting come]
    exact .arriving _ _ come (Hub.arrival traffic.hub ids (requests i))
  | underway errand =>
    rw [step_of_underway come]
    exact .performing errand come
  | answered response =>
    rw [step_of_answered come]
    exact .resting response come

/-- No session is forgotten by a step. -/
theorem length_sessions_step (service : Service) (ids : Nat → String) (requests : ι → Request)
    (traffic : Traffic ι) (i : ι) : traffic.hub.sessions.length ≤
      (traffic.step service ids requests i).hub.sessions.length := by
  have moves := moves_step service ids requests traffic i
  generalize traffic.step service ids requests i = next at moves ⊢
  cases moves with
  | resting response come => exact le_rfl
  | performing errand come => simp
  | arriving errand hub come arrival =>
    cases arrival with
    | opening => simp
    | _ => exact le_rfl

end Steps

section Directory

variable {service : Service} {ids : Nat → String} {requests : ι → Request} {host : Host}
  {traffic : Traffic ι} {steps : List ι} {i j : ι} {id : String} {number : Nat}

/-- What is left of each request is about a session that was opened, under the id of its number. A
request that names an id is left with nothing but this session. -/
structure Sound (ids : Nat → String) (requests : ι → Request) (traffic : Traffic ι) : Prop where
  /-- What is found was opened under its id. -/
  found : ∀ id number, traffic.hub.find? id = some number →
    id = ids number ∧ number < traffic.hub.sessions.length
  /-- A message goes to a session that was opened. -/
  talking : ∀ i id number line, traffic.progress i = .underway (.talk id number line) →
    id = ids number ∧ number < traffic.hub.sessions.length ∧
      ∀ named, (requests i).sessionId? = some named → named = id
  /-- A session that is being ended was opened. -/
  closing : ∀ i number, traffic.progress i = .underway (.close number) →
    number < traffic.hub.sessions.length ∧ AsksToEnd (requests i) (ids number)

namespace Sound

/-- A step after which the right sessions are found and there are at least as many as before keeps
the requests sound, if it does so for the request that made it. -/
theorem update (sound : Sound ids requests traffic) {hub : Hub} {progress : Progress}
    (found : ∀ id number, hub.find? id = some number →
      id = ids number ∧ number < hub.sessions.length)
    (more : traffic.hub.sessions.length ≤ hub.sessions.length)
    (talking : ∀ id number line, progress = .underway (.talk id number line) →
      id = ids number ∧ number < hub.sessions.length ∧
        ∀ named, (requests i).sessionId? = some named → named = id)
    (closing : ∀ number, progress = .underway (.close number) →
      number < hub.sessions.length ∧ AsksToEnd (requests i) (ids number)) :
    Sound ids requests { hub, progress := Function.update traffic.progress i progress } where
  found := found
  talking j id number line underway := by
    by_cases same : j = i
    · subst same
      exact talking id number line (by simpa using underway)
    · obtain ⟨named, known, only⟩ :=
        sound.talking j id number line (by simpa [Function.update_of_ne same] using underway)
      exact ⟨named, known.trans_le more, only⟩
  closing j number underway := by
    by_cases same : j = i
    · subst same
      exact closing number (by simpa using underway)
    · obtain ⟨known, asks⟩ :=
        sound.closing j number (by simpa [Function.update_of_ne same] using underway)
      exact ⟨known.trans_le more, asks⟩

/-- Every step keeps the requests sound. -/
theorem step (sound : Sound ids requests traffic) (service : Service) (i : ι) :
    Sound ids requests (traffic.step service ids requests i) := by
  have moves := moves_step service ids requests traffic i
  generalize traffic.step service ids requests i = next at moves ⊢
  cases moves with
  | resting response come => exact sound
  | performing errand come =>
    refine sound.update ?_ (by simp) (by simp) (by simp)
    simpa using sound.found
  | arriving errand hub come arrival =>
    cases arrival with
    | answered response =>
      exact sound.update sound.found le_rfl (by simp) (by simp)
    | addressed id number line found named =>
      refine sound.update sound.found le_rfl ?_ (by simp)
      rintro _ _ _ same
      cases same
      obtain ⟨own, known⟩ := sound.found id number found
      refine ⟨own, known, fun other again => ?_⟩
      exact Option.some.inj (again.symm.trans named)
    | opening line asked params asks =>
      refine sound.update ?_ (by simp) ?_ (by simp)
      · intro id number found
        by_cases same : id = ids traffic.hub.sessions.length
        · subst same
          obtain rfl : traffic.hub.sessions.length = number := by simpa using found
          simp
        · rw [Hub.find?_add_of_ne same] at found
          obtain ⟨own, known⟩ := sound.found id number found
          refine ⟨own, ?_⟩
          rw [Hub.length_sessions_add]
          omega
      · rintro _ _ _ same
        cases same
        refine ⟨rfl, by simp, fun named names => ?_⟩
        rw [asks.nameless] at names
        cases names
    | closing id number found asks =>
      refine sound.update ?_ le_rfl (by simp) ?_
      · intro other another still
        by_cases same : other = id
        · subst same
          simp at still
        · rw [Hub.find?_forget_of_ne same] at still
          exact sound.found other another still
      · rintro _ same
        cases same
        obtain ⟨own, known⟩ := sound.found id number found
        exact ⟨known, own ▸ asks⟩

end Sound

/-- The requests are sound after any steps. -/
theorem sound_after (service : Service) (ids : Nat → String) (requests : ι → Request) (host : Host)
    (steps : List ι) : Sound ids requests (after service ids requests host steps) := by
  induction steps using List.reverseRecOn with
  | nil =>
    refine ⟨?_, ?_, ?_⟩
    · rintro id number ⟨⟩
    · rintro i id number line ⟨⟩
    · rintro i number ⟨⟩
  | append_singleton steps i ih =>
    rw [after_concat]
    exact ih.step service i

/-- An id that was taken out of the directory is that of a session that was opened. -/
theorem exists_of_removed (removed : Removed service ids requests host id steps) :
    ∃ number, id = ids number ∧
      number < (after service ids requests host steps).hub.sessions.length := by
  induction steps using List.reverseRecOn with
  | nil => exact absurd removed not_once_nil
  | append_singleton steps i ih =>
    have more := length_sessions_step service ids requests
      (after service ids requests host steps) i
    rw [after_concat]
    obtain before | ⟨_, _, some⟩ := once_concat.mp removed
    · obtain ⟨number, own, known⟩ := ih before
      exact ⟨number, own, known.trans_le more⟩
    · obtain ⟨number, found⟩ := Option.isSome_iff_exists.mp some
      obtain ⟨own, known⟩ := (sound_after service ids requests host steps).found id number found
      exact ⟨number, own, known.trans_le more⟩

/-- A request that comes in leaves the same sessions to be found, but for the one that it opens and
the one that it takes out. -/
theorem find?_arrive (injective : Function.Injective ids) {hub : Hub} {request : Request}
    (sound : ∀ id number, hub.find? id = some number →
      id = ids number ∧ number < hub.sessions.length) :
    (hub.arrive ids request).2.find? id = some number ↔
      ((∃ line asked params, AsksToOpen request line asked params) ∧
        number = hub.sessions.length ∧ id = ids number) ∨
      (hub.find? id = some number ∧ ¬(AsksToEnd request id ∧ (hub.find? id).isSome = true)) := by
  by_cases opens : ∃ line asked params, AsksToOpen request line asked params
  · obtain ⟨line, asked, params, asks⟩ := opens
    have keeps : ¬AsksToEnd request id := fun ends => by
      cases ends.named.symm.trans asks.nameless
    rw [Hub.arrive_of_asksToOpen asks]
    by_cases same : id = ids hub.sessions.length
    · have fresh : hub.find? id ≠ some number := fun found => by
        obtain ⟨own, known⟩ := sound id number found
        exact absurd (injective (own.symm.trans same)) known.ne
      subst same
      simp only [Hub.find?_add_self, fresh, false_and, or_false, Option.some.injEq]
      constructor
      · rintro rfl
        exact ⟨⟨line, asked, params, asks⟩, rfl, rfl⟩
      · rintro ⟨_, rfl, _⟩
        rfl
    · rw [Hub.find?_add_of_ne same]
      simp only [keeps, false_and, not_false_eq_true, and_true]
      refine ⟨.inr, ?_⟩
      rintro (⟨_, rfl, own⟩ | found)
      · exact absurd own same
      · exact found
  · simp only [opens, false_and, false_or]
    by_cases ends : AsksToEnd request id
    · rw [Hub.arrive_of_asksToEnd ends]
      cases found : hub.find? id with
      | none => simp [found]
      | some known => simp [ends]
    · simp only [ends, false_and, not_false_eq_true, and_true]
      have arrival := Hub.arrival hub ids request
      generalize hub.arrive ids request = arrived at arrival
      cases arrival with
      | answered response => rfl
      | addressed => rfl
      | opening line asked params asks => exact absurd ⟨line, asked, params, asks⟩ opens
      | closing other another found asks =>
        have distinct : id ≠ other := by
          rintro rfl
          exact ends asks
        rw [Hub.find?_forget_of_ne distinct]

/-- After a step the same sessions are found as before, but for the one that it opens and the one
that it takes out. -/
theorem find?_step (injective : Function.Injective ids) (sound : Sound ids requests traffic)
    (service : Service) : (traffic.step service ids requests i).hub.find? id = some number ↔
      (Opens requests traffic i number ∧ id = ids number) ∨
        (traffic.hub.find? id = some number ∧ ¬Removes requests traffic i id) := by
  cases come : traffic.progress i with
  | answered response =>
    rw [step_of_answered come]
    simp [Opens, Removes, come]
  | underway errand =>
    rw [step_of_underway come]
    simp [Opens, Removes, come]
  | waiting =>
    rw [step_of_waiting come]
    simp only [Opens, Removes, come, true_and, and_assoc]
    exact find?_arrive injective sound.found

/-- An id is found exactly if a session was opened under it that was not taken out since. -/
theorem find?_iff (injective : Function.Injective ids) :
    (after service ids requests host steps).hub.find? id = some number ↔
      (id = ids number ∧ Opened service ids requests host number steps) ∧
        ¬Removed service ids requests host id steps := by
  induction steps using List.reverseRecOn with
  | nil =>
    refine ⟨fun found => (by cases found), ?_⟩
    rintro ⟨⟨_, opened⟩, _⟩
    exact absurd opened not_once_nil
  | append_singleton steps i ih =>
    have sound := sound_after service ids requests host steps
    rw [after_concat, find?_step injective sound, ih, opened_concat, removed_concat]
    constructor
    · rintro (⟨opens, own⟩ | ⟨⟨⟨own, opened⟩, kept⟩, keeps⟩)
      · refine ⟨⟨own, .inr opens⟩, ?_⟩
        rintro (removed | ⟨_, asks, _⟩)
        · obtain ⟨other, same, known⟩ := exists_of_removed removed
          obtain rfl := injective (own.symm.trans same)
          exact absurd opens.2.2 known.ne
        · obtain ⟨_, ⟨line, asked, params, opening⟩, _⟩ := opens
          cases asks.named.symm.trans opening.nameless
      · exact ⟨⟨own, .inl opened⟩, not_or.mpr ⟨kept, keeps⟩⟩
    · rintro ⟨⟨own, opened | opens⟩, out⟩
      · rw [not_or] at out
        exact .inr ⟨⟨⟨own, opened⟩, out.1⟩, out.2⟩
      · exact .inl ⟨opens, own⟩

/-- No two requests take the same id out of the directory. -/
theorem eq_of_tookOut (injective : Function.Injective ids)
    (first : TookOut service ids requests host i id steps)
    (second : TookOut service ids requests host j id steps) : i = j := by
  have gone {past : List ι} {k : ι} (removed : TookOut service ids requests host k id past) :
      (after service ids requests host past).hub.find? id = none := by
    refine Option.eq_none_iff_forall_ne_some.mpr fun number found => ?_
    exact absurd removed.removed ((find?_iff injective).mp found).2
  induction steps using List.reverseRecOn with
  | nil => exact absurd first not_once_nil
  | append_singleton steps k ih =>
    obtain before | ⟨now, removes⟩ := once_concat.mp first
    · obtain earlier | ⟨_, again⟩ := once_concat.mp second
      · exact ih before earlier
      · have some := again.2.2
        rw [gone before] at some
        cases some
    · obtain earlier | ⟨too, _⟩ := once_concat.mp second
      · have some := removes.2.2
        rw [gone earlier] at some
        cases some
      · exact now.symm.trans too

end Directory

section Ending

variable {service : Service} {ids : Nat → String} {requests : ι → Request} {host : Host}
  {traffic : Traffic ι} {steps : List ι} {i j : ι} {id : String} {number : Nat}

/-- A session that has ended stays so. -/
theorem phase_step_of_ended (service : Service) (ids : Nat → String) (requests : ι → Request) (i : ι)
    (known : number < traffic.hub.sessions.length)
    (ended : (traffic.hub.session number).phase = .shuttingDown) :
    ((traffic.step service ids requests i).hub.session number).phase = .shuttingDown := by
  have moves := moves_step service ids requests traffic i
  generalize traffic.step service ids requests i = next at moves ⊢
  cases moves with
  | resting response come => exact ended
  | arriving errand hub come arrival =>
    cases arrival with
    | opening => rwa [Hub.session_add_of_lt known]
    | _ => exact ended
  | performing errand come =>
    cases errand with
    | done response => exact ended
    | close other =>
      by_cases same : other = number
      · subst same
        exact congrArg Session.phase (Hub.session_setSession_self known)
      · exact (congrArg Session.phase (Hub.session_setSession_of_ne same)).trans ended
    | talk id other line =>
      by_cases same : other = number
      · subst same
        obtain ⟨reply, stays, _⟩ := Session.handleLine_of_ended ended line
        refine (congrArg Session.phase (Hub.session_setSession_self known)).trans ?_
        rwa [stays]
      · exact (congrArg Session.phase (Hub.session_setSession_of_ne same)).trans ended

/-- How far a request to end a session has come, if it took the session out or did not. -/
inductive Ending (ids : Nat → String) (id : String) (tookOut : Prop) (hub : Hub) : Progress → Prop
  /-- It has not come in. -/
  | waiting : Ending ids id tookOut hub .waiting
  /-- The session was not found. -/
  | refusing : Ending ids id tookOut hub (.underway (.done (notFound id)))
  /-- The client has been told that the session was not found. -/
  | refused : Ending ids id tookOut hub (.answered (notFound id))
  /-- The session has been taken out. -/
  | closing (number : Nat) (took : tookOut) (own : id = ids number)
      (known : number < hub.sessions.length) : Ending ids id tookOut hub (.underway (.close number))
  /-- The session has ended. -/
  | closed (number : Nat) (took : tookOut) (own : id = ids number)
      (known : number < hub.sessions.length)
      (ended : (hub.session number).phase = .shuttingDown) :
      Ending ids id tookOut hub (.answered { status := 204 })

/-- A hub on which sessions that have ended stay so leaves a request as far as it has come. -/
theorem Ending.mono {tookOut later : Prop} {hub next : Hub} {progress : Progress}
    (ending : Ending ids id tookOut hub progress) (kept : tookOut → later)
    (more : hub.sessions.length ≤ next.sessions.length)
    (stays : ∀ number, number < hub.sessions.length → (hub.session number).phase = .shuttingDown →
      (next.session number).phase = .shuttingDown) : Ending ids id later next progress := by
  cases ending with
  | waiting => exact .waiting
  | refusing => exact .refusing
  | refused => exact .refused
  | closing number took own known => exact .closing number (kept took) own (known.trans_le more)
  | closed number took own known ended =>
    exact .closed number (kept took) own (known.trans_le more) (stays number known ended)

/-- Every request to end a session comes on in this way. -/
theorem ending_after (service : Service) (ids : Nat → String) (host : Host) (steps : List ι)
    (asks : AsksToEnd (requests i) id) :
    Ending ids id (TookOut service ids requests host i id steps)
      (after service ids requests host steps).hub
      ((after service ids requests host steps).progress i) := by
  induction steps using List.reverseRecOn with
  | nil => exact .waiting
  | append_singleton steps k ih =>
    have sound := sound_after service ids requests host steps
    have kept {id : String} : TookOut service ids requests host i id steps →
        TookOut service ids requests host i id (steps ++ [k]) := fun took =>
      once_concat.mpr (.inl took)
    rw [after_concat]
    generalize come : (after service ids requests host steps).progress i = progress at ih
    by_cases same : k = i
    · subst same
      cases ih with
      | waiting =>
        rw [step_of_waiting come, Hub.arrive_of_asksToEnd asks]
        cases found : (after service ids requests host steps).hub.find? id with
        | none => simpa using Ending.refusing
        | some number =>
          obtain ⟨own, known⟩ := sound.found id number found
          have took : TookOut service ids requests host k id (steps ++ [k]) :=
            once_concat.mpr (.inr ⟨rfl, come, asks, by simp [found]⟩)
          simp only [Function.update_self]
          exact .closing number took own known
      | refusing =>
        rw [step_of_underway come]
        simpa [Hub.perform] using Ending.refused
      | closing number took own known =>
        have ended : ((((after service ids requests host steps).hub.perform service
            (.close number)).2).session number).phase = .shuttingDown :=
          congrArg Session.phase (Hub.session_setSession_self known)
        rw [step_of_underway come]
        simpa [Hub.perform] using Ending.closed number (kept took) own (by simpa using known) ended
      | refused =>
        rw [step_of_answered come, come]
        exact .refused
      | closed number took own known ended =>
        rw [step_of_answered come, come]
        exact .closed number (kept took) own known ended
    · rw [progress_step_of_ne (Ne.symm same), come]
      exact ih.mono kept (length_sessions_step service ids requests _ k) fun number known ended =>
        phase_step_of_ended service ids requests k known ended

/-- A request that is left with a message for a session that has ended changes nothing at the hub,
whatever the service is, and is refused if it asks to open the session or for the tools. -/
theorem perform_of_ended {hub : Hub} (known : number < hub.sessions.length)
    (ended : (hub.session number).phase = .shuttingDown) (id line : String) :
    (∃ response, ∀ service, hub.perform service (.talk id number line) = (response, hub)) ∧
      ∀ asked method params, Message.ofLine line = .ok (.request asked method params) →
        IsForSessions method → ∃ message, ∀ service,
          hub.replyTo service (.talk id number line) =
            some (.error (some asked) .invalidRequest message) := by
  obtain ⟨reply, stays, refused⟩ := Session.handleLine_of_ended ended line
  have same : hub.setSession number (hub.session number) = hub := by
    simp [Hub.setSession, Hub.session, known]
  refine ⟨⟨Hub.responseTo id { reply, session := hub.session number, host := hub.host },
    fun service => ?_⟩, fun asked method params parsed wanted => ?_⟩
  · rw [Hub.perform, stays]
    dsimp only
    rw [same]
  · obtain ⟨message, rfl⟩ := refused asked method params parsed wanted
    refine ⟨message, fun service => ?_⟩
    rw [Hub.replyTo, stays]

/-- Whether two hubs have the same under an id: the session that is found, and those of the first
hub that were opened under it. -/
def SameUnder (ids : Nat → String) (id : String) (hub after : Hub) : Prop :=
  after.find? id = hub.find? id ∧ ∀ number, number < hub.sessions.length → ids number = id →
    after.session number = hub.session number

/-- A step of a request is about one id, the one that the request names if it names any: all stays
the same under every other id. -/
theorem step_confined (sound : Sound ids requests traffic) (service : Service) (i : ι) :
    ∃ id, (∀ named, (requests i).sessionId? = some named → named = id) ∧
      ∀ other, other ≠ id →
        SameUnder ids other traffic.hub (traffic.step service ids requests i).hub := by
  have own : ∃ id, ∀ named, (requests i).sessionId? = some named → named = id := by
    cases (requests i).sessionId? with
    | none => exact ⟨"", fun named names => by cases names⟩
    | some id => exact ⟨id, fun named names => (Option.some.inj names).symm⟩
  have replaced {number : Nat} {session : Session} : ∀ other, other ≠ ids number →
      SameUnder ids other traffic.hub (traffic.hub.setSession number session) := by
    refine fun other distinct => ⟨rfl, fun another known same => Hub.session_setSession_of_ne ?_⟩
    rintro rfl
    exact distinct same.symm
  have untouched : ∃ id, (∀ named, (requests i).sessionId? = some named → named = id) ∧
      ∀ other, other ≠ id → SameUnder ids other traffic.hub traffic.hub := by
    obtain ⟨id, only⟩ := own
    exact ⟨id, only, fun other distinct => ⟨rfl, fun number known same => rfl⟩⟩
  have moves := moves_step service ids requests traffic i
  generalize traffic.step service ids requests i = next at moves ⊢
  cases moves with
  | resting response come => exact untouched
  | performing errand come =>
    cases errand with
    | done response => exact untouched
    | close number =>
      obtain ⟨known, asks⟩ := sound.closing i number come
      exact ⟨ids number, fun named names => Option.some.inj (names.symm.trans asks.named), replaced⟩
    | talk id number line =>
      obtain ⟨rfl, known, only⟩ := sound.talking i id number line come
      exact ⟨ids number, only, replaced⟩
  | arriving errand hub come arrival =>
    cases arrival with
    | answered response => exact untouched
    | addressed id number line found named =>
      exact ⟨id, fun other names => Option.some.inj (names.symm.trans named),
        fun other distinct => ⟨rfl, fun number known same => rfl⟩⟩
    | opening line asked params asks =>
      refine ⟨ids traffic.hub.sessions.length, fun named names => ?_, fun other distinct => ?_⟩
      · cases names.symm.trans asks.nameless
      · exact ⟨Hub.find?_add_of_ne distinct, fun number known same => Hub.session_add_of_lt known⟩
    | closing id number found asks =>
      refine ⟨id, fun other names => Option.some.inj (names.symm.trans asks.named), fun other distinct => ?_⟩
      exact ⟨Hub.find?_forget_of_ne distinct, fun number known same => rfl⟩

end Ending

/-- Requests come in at one hub, and the steps of all of them in any order. An id is found exactly
from the step that opens a session under it to the one that takes it out. Of the requests to end a
session each is told that it is over or that there is none, and one at most the former. Once one has
been, a request that still holds the session changes nothing at the hub, whatever the service is, and
is refused if it asks to open it or for the tools. No step touches what is under another id than the
one that its request names. -/
theorem closing_is_final (service : Service) (requests : ι → Request) (host : Host)
    {ids : Nat → String} (injective : Function.Injective ids) (steps : List ι) :
    let traffic := after service ids requests host steps
    (∀ id number, traffic.hub.find? id = some number ↔
      (id = ids number ∧ Opened service ids requests host number steps) ∧
        ¬Removed service ids requests host id steps) ∧
    (∀ i id, AsksToEnd (requests i) id → 2 ≤ steps.count i →
      traffic.progress i = .answered { status := 204 } ∨
        traffic.progress i = .answered (notFound id) ∧ (notFound id).status = 404) ∧
    (∀ i j id, AsksToEnd (requests i) id → AsksToEnd (requests j) id →
      traffic.progress i = .answered { status := 204 } →
      traffic.progress j = .answered { status := 204 } → i = j) ∧
    (∀ i number, AsksToEnd (requests i) (ids number) →
      traffic.progress i = .answered { status := 204 } →
      (traffic.hub.session number).phase = .shuttingDown ∧
      ∀ j id line, traffic.progress j = .underway (.talk id number line) →
        (∃ response, ∀ other,
          traffic.hub.perform other (.talk id number line) = (response, traffic.hub)) ∧
        ∀ asked method params, Message.ofLine line = .ok (.request asked method params) →
          IsForSessions method → ∃ message, ∀ other,
            traffic.hub.replyTo other (.talk id number line) =
              some (.error (some asked) .invalidRequest message)) ∧
    ∀ i, ∃ id, (∀ named, (requests i).sessionId? = some named → named = id) ∧
      ∀ other, other ≠ id →
        SameUnder ids other traffic.hub (traffic.step service ids requests i).hub := by
  intro traffic
  have sound : Sound ids requests traffic := sound_after service ids requests host steps
  have different (id : String) : notFound id ≠ { status := 204 } := by
    intro same
    cases congrArg Response.status same
  have closed {i : ι} {id : String} (asks : AsksToEnd (requests i) id)
      (answered : traffic.progress i = .answered { status := 204 }) :
      TookOut service ids requests host i id steps ∧ ∃ number, id = ids number ∧
        number < traffic.hub.sessions.length ∧
        (traffic.hub.session number).phase = .shuttingDown := by
    have ending := ending_after service ids host steps asks
    generalize come : (after service ids requests host steps).progress i = progress at ending
    obtain rfl := come.symm.trans answered
    generalize told : ({ status := 204 } : Response) = response at ending
    cases ending with
    | refused => exact absurd told.symm (different id)
    | closed number took own known ended => exact ⟨took, number, own, known, ended⟩
  refine ⟨fun id number => find?_iff injective, fun i id asks twice => ?_,
    fun i j id first second ended again => ?_, fun i number asks answered => ?_,
    fun i => step_confined sound service i⟩
  · obtain ⟨none, _⟩ | ⟨one, _⟩ | ⟨_, response, answered⟩ :=
      progress_after service ids requests host steps i
    · omega
    · omega
    · have ending := ending_after service ids host steps asks
      rw [answered] at ending
      cases ending with
      | refused => exact .inr ⟨answered, rfl⟩
      | closed => exact .inl answered
  · exact eq_of_tookOut injective (closed first ended).1 (closed second again).1
  · obtain ⟨_, another, own, known, ended⟩ := closed asks answered
    obtain rfl := injective own
    exact ⟨ended, fun j id line underway => perform_of_ended known ended id line⟩

/-- A request to end the first session of the samples. -/
def endingRequest : Request where
  method := "DELETE"
  target := "/mcp"
  headers := [(sessionHeader, [97])]

/-- The request asks for the end of that session. -/
theorem asksToEnd_endingRequest : AsksToEnd endingRequest (letterIds 0) where
  route := by decide +kernel
  method := rfl
  named := by decide +kernel

/-- Requests of which one opens a session and two end it. -/
def sampleRequests : Option Bool → Request
  | none => bareRequest
  | some _ => endingRequest

/-- Of the samples, the session is opened, found by one request to end it but not by the other, and
ended before the message that opened it is handled. -/
theorem after_sample (service : Service) (host : Host) :
    let traffic := after service letterIds sampleRequests host
      [none, some true, some false, some true, some false]
    traffic.progress (some true) = .answered { status := 204 } ∧
      traffic.progress none = .underway (.talk (letterIds 0) 0 bareOpeningLine) := by
  have ends (i : Bool) : AsksToEnd (sampleRequests (some i)) (letterIds 0) := asksToEnd_endingRequest
  have opens : AsksToOpen (sampleRequests none) bareOpeningLine (.integer 1 (by decide)) none :=
    asksToOpen_bareRequest
  generalize sampleRequests = requests at ends opens
  intro traffic
  let start : Traffic (Option Bool) := { hub := { host }, progress := fun _ => .waiting }
  let hub := start.hub.add (letterIds 0)
  let talking := Function.update start.progress none
    (.underway (.talk (letterIds 0) 0 bareOpeningLine))
  let closing := Function.update talking (some true) (.underway (.close 0))
  let refusing := Function.update closing (some false) (.underway (.done (notFound (letterIds 0))))
  have first : start.step service letterIds requests none = { hub, progress := talking } := by
    rw [step_of_waiting rfl, Hub.arrive_of_asksToOpen opens]
    rfl
  have second : step service letterIds requests { hub, progress := talking } (some true) =
      { hub := hub.forget (letterIds 0), progress := closing } := by
    have found : hub.find? (letterIds 0) = some 0 := Hub.find?_add_self
    rw [step_of_waiting (by simp [talking, start]), Hub.arrive_of_asksToEnd (ends true), found]
  have third : step service letterIds requests
      { hub := hub.forget (letterIds 0), progress := closing } (some false) =
      { hub := hub.forget (letterIds 0), progress := refusing } := by
    rw [step_of_waiting (by simp [closing, talking, start]), Hub.arrive_of_asksToEnd (ends false),
      Hub.find?_forget_self]
  have whole : traffic = step service letterIds requests (step service letterIds requests
      { hub := hub.forget (letterIds 0), progress := refusing } (some true)) (some false) := by
    simp only [traffic, after, List.foldl_cons, List.foldl_nil]
    rw [← third, ← second, ← first]
  have pending : refusing (some true) = .underway (.close 0) := by simp [refusing, closing]
  have fourth : step service letterIds requests
      { hub := hub.forget (letterIds 0), progress := refusing } (some true) = _ :=
    step_of_underway pending
  rw [whole, progress_step_of_ne (j := some true) (by simp), progress_step_of_ne (j := none) (by simp),
    fourth]
  simp [Hub.perform, refusing, closing, talking]

/-- The theorem where a session is opened, taken out and ended before the message that opened it is
handled. -/
theorem closing_is_final_late :
    Function.Injective letterIds ∧ AsksToEnd endingRequest (letterIds 0) ∧
      let traffic := after constantService letterIds sampleRequests contradictoryHost
        [none, some true, some false, some true, some false]
      traffic.progress (some true) = .answered { status := 204 } ∧
      traffic.progress (some false) = .answered (notFound (letterIds 0)) ∧
      ∃ message, ∀ other,
        traffic.hub.replyTo other (.talk (letterIds 0) 0 bareOpeningLine) =
          some (.error (some (.integer 1 (by decide))) .invalidRequest message) := by
  have injective := isIdSource_letterIds.injective
  have first : AsksToEnd (sampleRequests (some true)) (letterIds 0) := asksToEnd_endingRequest
  have second : AsksToEnd (sampleRequests (some false)) (letterIds 0) := asksToEnd_endingRequest
  obtain ⟨ended, talking⟩ := after_sample constantService contradictoryHost
  obtain ⟨_, told, unique, closed, _⟩ := closing_is_final constantService sampleRequests
    contradictoryHost injective [none, some true, some false, some true, some false]
  obtain ⟨_, held⟩ := closed (some true) 0 first ended
  obtain ⟨_, refused⟩ := held none (letterIds 0) bareOpeningLine talking
  refine ⟨injective, asksToEnd_endingRequest, ended, ?_, ?_⟩
  · obtain again | ⟨none, _⟩ := told (some false) (letterIds 0) second (by decide)
    · cases unique (some true) (some false) (letterIds 0) first second ended again
    · exact none
  · exact refused _ _ _ ofLine_bareOpeningLine (.inl rfl)

end Traffic

end Http

end DecompileServer

import DecompileServer.Proofs.Session.Conversation
import DecompileServer.Proofs.Session.Echo

/-!
# A server on any stream

Whatever bytes come in, the server goes through their lines one by one (`Conversation.run_eq_through`).
It gets past a line exactly if that is UTF-8 and does not break it down; so it reads to the end, shuts
down and answers as one session does exactly if all lines are such (`Conversation.run_stream`), and
otherwise stands where the first other line left it.
-/
namespace DecompileServer

open Rpc (Reply)

namespace Rpc.Lines

/-- The lines of some bytes, each with what ends it. -/
def all (input : List UInt8) : List (List UInt8) :=
  match input with
  | [] => []
  | byte :: rest => (cut (byte :: rest)).1 :: all (cut (byte :: rest)).2
termination_by input.length
decreasing_by exact length_cut_lt byte rest

/-- Whether bytes are cut into lines: every line ends at its first newline, or at the end. -/
structure AreLines (lines : List (List UInt8)) (input : List UInt8) : Prop where
  /-- Nothing is lost. -/
  whole : lines.flatten = input
  /-- No line is empty. -/
  filled : ∀ line ∈ lines, line ≠ []
  /-- No newline stands before the end of a line. -/
  single : ∀ line ∈ lines, newline ∉ line.dropLast
  /-- All lines but the last one end with a newline. -/
  ended : ∀ line ∈ lines.dropLast, line.getLast? = some newline

/-- The first line holds a newline at its end only, and does if more bytes follow. -/
theorem cut_ends (bytes : List UInt8) :
    newline ∉ (cut bytes).1.dropLast ∧ ((cut bytes).2 ≠ [] → (cut bytes).1.getLast? = some newline) := by
  have before : newline ∉ bytes.takeWhile (· ≠ newline) := by
    intro member
    simpa using List.all_eq_true.mp List.all_takeWhile _ member
  unfold cut
  split
  · exact ⟨fun member => before (List.dropLast_subset _ member), fun more => absurd rfl more⟩
  · rename_i last rest found
    have ends : last = newline := by
      have first := List.head?_dropWhile_not (· ≠ newline) bytes
      rw [found] at first
      simpa using first
    subst ends
    rw [List.dropLast_concat, List.getLast?_concat]
    exact ⟨before, fun _ => rfl⟩

/-- Bytes are cut into their lines. -/
theorem areLines_all (input : List UInt8) : AreLines (all input) input := by
  induction input using all.induct with
  | case1 =>
    rw [all]
    exact ⟨rfl, by simp, by simp, by simp⟩
  | case2 byte rest ih =>
    obtain ⟨single, ended⟩ := cut_ends (byte :: rest)
    rw [all]
    refine ⟨?_, ?_, ?_, ?_⟩
    · rw [List.flatten_cons, ih.whole, cut_append]
    · exact List.forall_mem_cons.mpr ⟨cut_nonempty byte rest, ih.filled⟩
    · exact List.forall_mem_cons.mpr ⟨single, ih.single⟩
    · intro line member
      cases more : all (cut (byte :: rest)).2 with
      | nil => simp [more] at member
      | cons next further =>
        rw [more, List.dropLast_cons_of_ne_nil (by simp), List.mem_cons] at member
        obtain rfl | later := member
        · refine ended fun none => ?_
          rw [none, all] at more
          cases more
        · exact ih.ended line (by rwa [more])

/-- What a line says, if it is UTF-8 and not blank. -/
def spoken? (line : List UInt8) : Option String :=
  match textOf line with
  | .ok text => if Text.isBlankText text then none else some text
  | .error _ => none

end Rpc.Lines

open Rpc.Lines (spoken? textOf)

namespace Session

/-- The replies of one session to lines, after what happened to it before. -/
def repliesTo (service : Service) (host : Host) (past : List Event) : List String → List Reply
  | [] => []
  | line :: further =>
    (turnAfter service host past line).reply.toList ++
      repliesTo service host (past ++ [.line line]) further

variable {service : Service} {session : Session} {host : Host} {line : String}

/-- The reply to a further line comes last. -/
theorem repliesTo_concat (past : List Event) (lines : List String) (line : String) :
    repliesTo service host past (lines ++ [line]) = repliesTo service host past lines ++
      (turnAfter service host (past ++ lines.map .line) line).reply.toList := by
  induction lines generalizing past with
  | nil => simp [repliesTo]
  | cons first further ih =>
    rw [List.cons_append, repliesTo, repliesTo, ih, List.map_cons, List.append_assoc,
      List.append_assoc, List.singleton_append]

/-- A line over which the server breaks down leaves the session. -/
theorem session_of_brokeDown (broken : (session.handleLine service line host).brokeDown = true) :
    (session.handleLine service line host).session = session := by
  obtain ⟨_, _, _, _, opened⟩ | ⟨_, _, confirmed⟩ | ⟨kept, _⟩ :=
    handleLine_cases service session line host
  · rw [opened] at broken
    cases broken
  · rw [confirmed] at broken
    cases broken
  · exact kept

end Session

namespace Conversation

/-- Goes on with lines until they end, one is not UTF-8 or the server breaks down. -/
def through (service : Service) (conversation : Conversation) : List (List UInt8) → Conversation
  | [] => { conversation with session := conversation.session.shutdown }
  | line :: further =>
    match textOf line with
    | .error fault => { conversation with fault := some fault }
    | .ok text =>
      let after := conversation.next service text
      if after.brokeDown then after else after.through service further

/-- A conversation after lines that it has got past. -/
def standing (service : Service) (host : Host) (lines : List String) : Conversation where
  replies := Session.repliesTo service host [] lines
  session := (Session.stateAfter service host (lines.map .line)).1
  host := (Session.stateAfter service host (lines.map .line)).2

/-- Whether the server gets past lines: all are UTF-8, and it breaks down over none. -/
def Passes (service : Service) (host : Host) (lines : List (List UInt8)) : Prop :=
  (∀ line ∈ lines, ∃ text, textOf line = .ok text) ∧
    ¬Session.Once (Session.Breaks service host) ((lines.filterMap spoken?).map .line)

variable {service : Service} {host : Host} {conversation : Conversation} {input line : List UInt8}
  {lines front : List (List UInt8)} {text : String}

/-- A line does not end a session, blank or not. -/
theorem alive_of_next (alive : conversation.session.phase ≠ .shuttingDown) :
    (conversation.next service text).session.phase ≠ .shuttingDown := by
  unfold next
  split
  · exact alive
  · exact Session.alive_of_handleLine alive

/-- A conversation on a stream goes through its lines. -/
theorem run_eq_through (alive : conversation.session.phase ≠ .shuttingDown) (input : List UInt8) :
    conversation.run service input = conversation.through service (Rpc.Lines.all input) := by
  induction input using Rpc.Lines.all.induct generalizing conversation with
  | case1 =>
    rw [run.eq_def, Rpc.Lines.all, through]
    rfl
  | case2 byte rest ih =>
    rw [run.eq_def, Rpc.Lines.all, through]
    simp only [Rpc.Lines.read]
    cases textOf (Rpc.Lines.cut (byte :: rest)).1 with
    | error fault => rfl
    | ok text =>
      have phase : (conversation.next service text).session.phase ≠ .shuttingDown :=
        alive_of_next alive
      simp [phase, ih phase]

/-- What the server hears of a further line: nothing if it is blank, else its text. -/
theorem calm_concat (decoded : textOf line = .ok text) :
    ¬Session.Once (Session.Breaks service host) (((front ++ [line]).filterMap spoken?).map .line) ↔
      ¬Session.Once (Session.Breaks service host) ((front.filterMap spoken?).map .line) ∧
        (Text.isBlankText text = true ∨
          (Session.turnAfter service host ((front.filterMap spoken?).map .line) text).brokeDown =
            false) := by
  by_cases blank : Text.isBlankText text = true
  · have silent : spoken? line = none := by simp [spoken?, decoded, blank]
    simp [silent, blank]
  · have said : spoken? line = some text := by simp [spoken?, decoded, blank]
    rw [List.filterMap_append, List.filterMap_cons_some said, List.filterMap_nil, List.map_append,
      List.map_singleton, Session.once_concat, not_or, Session.breaks_iff]
    simp [blank]

/-- The server gets past a further line exactly if it gets past those before, the line is UTF-8, and
the server does not break down over it. -/
theorem passes_concat : Passes service host (front ++ [line]) ↔
    Passes service host front ∧ ∃ text, textOf line = .ok text ∧
      (Text.isBlankText text = true ∨
        (Session.turnAfter service host ((front.filterMap spoken?).map .line) text).brokeDown =
          false) := by
  constructor
  · rintro ⟨each, calm⟩
    obtain ⟨text, decoded⟩ := each line (List.mem_append_right _ List.mem_cons_self)
    obtain ⟨before, still⟩ := (calm_concat decoded).mp calm
    exact ⟨⟨fun other member => each other (List.mem_append_left _ member), before⟩, text, decoded,
      still⟩
  · rintro ⟨⟨each, before⟩, text, decoded, still⟩
    refine ⟨?_, (calm_concat decoded).mpr ⟨before, still⟩⟩
    intro other member
    rcases List.mem_append.mp member with earlier | last
    · exact each other earlier
    · obtain rfl := List.mem_singleton.mp last
      exact ⟨text, decoded⟩

/-- A blank line leaves the conversation. -/
theorem next_of_blank (blank : Text.isBlankText text = true) :
    conversation.next service text = conversation :=
  if_pos blank

/-- A line that is not blank is answered as it is after the lines before. -/
theorem next_standing (service : Service) (host : Host) (past : List String)
    (shown : Text.isBlankText text = false) :
    (standing service host past).next service text =
      let turn := Session.turnAfter service host (past.map .line) text
      { standing service host (past ++ [text]) with brokeDown := turn.brokeDown } := by
  have further : Session.stateAfter service host ((past ++ [text]).map .line) =
      Session.step service (Session.stateAfter service host (past.map .line)) (.line text) := by
    rw [List.map_append, List.map_singleton, Session.stateAfter_concat]
  rw [next, if_neg (by simp [shown])]
  simp only [standing, Session.repliesTo_concat, further]
  rfl

/-- The server stands after the lines that it has got past. -/
theorem through_append (passes : Passes service host front) (further : List (List UInt8)) :
    through service { host } (front ++ further) =
      through service (standing service host (front.filterMap spoken?)) further := by
  induction front using List.reverseRecOn generalizing further with
  | nil => rfl
  | append_singleton front line ih =>
    obtain ⟨before, text, decoded, still⟩ := passes_concat.mp passes
    rw [List.append_assoc, ih before, List.singleton_append, through, decoded]
    dsimp only
    by_cases blank : Text.isBlankText text = true
    · have silent : spoken? line = none := by simp [spoken?, decoded, blank]
      rw [next_of_blank blank, List.filterMap_append, List.filterMap_cons_none silent]
      simp [standing]
    · have shown : Text.isBlankText text = false := by simpa using blank
      have said : spoken? line = some text := by simp [spoken?, decoded, shown]
      have going := still.resolve_left blank
      rw [next_standing service host _ shown, List.filterMap_append,
        List.filterMap_cons_some said, List.filterMap_nil]
      simp [going, standing]

/-- The server does not get past some lines exactly if there is a first one that it does not get
past. -/
theorem exists_first (stops : ¬Passes service host lines) : ∃ front line back,
    lines = front ++ line :: back ∧ Passes service host front ∧
      ¬Passes service host (front ++ [line]) := by
  induction lines using List.reverseRecOn with
  | nil => exact absurd ⟨by simp, by simp [Session.Once]⟩ stops
  | append_singleton front line ih =>
    by_cases passes : Passes service host front
    · exact ⟨front, line, [], rfl, passes, stops⟩
    · obtain ⟨before, first, back, rfl, passed, stopped⟩ := ih passes
      exact ⟨before, first, back ++ [line], by simp, passed, stopped⟩

/-- The replies of a session to the lines of some bytes that are UTF-8 and not blank. -/
def repliesTo (service : Service) (host : Host) (lines : List (List UInt8)) : List Reply :=
  Session.repliesTo service host [] (lines.filterMap spoken?)

/-- Whether a conversation has come to the end of its input and shut down. -/
structure Ended (conversation : Conversation) : Prop where
  /-- No line was at fault. -/
  read : conversation.fault = none
  /-- The server did not break down. -/
  going : conversation.brokeDown = false
  /-- The session is over. -/
  closed : conversation.session.phase = .shuttingDown

/-- Whether a conversation has come to a stop at a line after others. -/
structure StoppedAt (service : Service) (host : Host) (front : List (List UInt8))
    (line : List UInt8) (conversation : Conversation) : Prop where
  /-- The lines before have been answered. -/
  replies : conversation.replies = repliesTo service host front
  /-- The session stands after the lines before. -/
  session : conversation.session =
    (Session.stateAfter service host ((front.filterMap spoken?).map .line)).1
  /-- A line that is not UTF-8 is the fault. -/
  fault : ∀ fault, conversation.fault = some fault ↔ textOf line = .error fault
  /-- The server broke down over any other. -/
  brokeDown : conversation.brokeDown = true ↔ ∃ text, textOf line = .ok text
  /-- The session is not over. -/
  alive : conversation.session.phase ≠ .shuttingDown

/-- A session that is not shut down is not over. -/
theorem alive_of_lines (texts : List String) :
    (Session.stateAfter service host (texts.map .line)).1.phase ≠ .shuttingDown := by
  rw [ne_eq, (Session.tracks service host _).ended]
  simp

/-- The conversation over lines that the server gets past comes to the end. -/
theorem through_of_passes (passes : Passes service host lines) :
    (through service { host } lines).Ended ∧
      (through service { host } lines).replies = repliesTo service host lines := by
  have whole := through_append passes []
  rw [List.append_nil] at whole
  rw [whole]
  exact ⟨⟨rfl, rfl, rfl⟩, rfl⟩

/-- The conversation comes to a stop at the first line that the server does not get past. -/
theorem through_of_stops {back : List (List UInt8)} (passes : Passes service host front)
    (stops : ¬Passes service host (front ++ [line])) :
    StoppedAt service host front line (through service { host } (front ++ line :: back)) := by
  have alive : (standing service host (front.filterMap spoken?)).session.phase ≠ .shuttingDown :=
    alive_of_lines _
  rw [through_append passes, through]
  cases decoded : textOf line with
  | error fault =>
    exact ⟨rfl, rfl, fun other => by simp [decoded], by simp [decoded, standing], alive⟩
  | ok text =>
    have breaks := stops
    rw [passes_concat] at breaks
    simp only [passes, decoded, true_and, Except.ok.injEq, exists_eq_left', not_or,
      Bool.not_eq_true, Bool.not_eq_false] at breaks
    obtain ⟨shown, broken⟩ := breaks
    have silent : (Session.turnAfter service host ((front.filterMap spoken?).map .line) text).reply =
        none := Session.reply_of_brokeDown broken
    have kept : (Session.turnAfter service host ((front.filterMap spoken?).map .line) text).session =
        (Session.stateAfter service host ((front.filterMap spoken?).map .line)).1 :=
      Session.session_of_brokeDown broken
    dsimp only
    rw [next_standing service host _ shown]
    dsimp only
    rw [if_pos broken]
    refine ⟨?_, ?_, fun fault => by simp [decoded, standing], by simp [broken, decoded],
      alive_of_lines _⟩
    · simp only [standing, Session.repliesTo_concat, List.nil_append, silent, Option.toList_none,
        List.append_nil, repliesTo]
    · simp only [standing, List.map_append, List.map_singleton, Session.stateAfter_concat]
      exact kept

/-- What a server does on any stream. It reads to the end, shuts down and writes the replies that one
session gives to the lines that are UTF-8 and not blank, exactly if all lines are UTF-8 and it breaks
down over none of them. Otherwise it stops at the first line that is not UTF-8 or over which it
breaks down: it has written the replies to the lines before, whatever comes after is not read, and
the session is not shut down. -/
theorem run_stream (service : Service) (host : Host) (input : List UInt8) :
    let lines := Rpc.Lines.all input
    let conversation := Conversation.run service { host } input
    Rpc.Lines.AreLines lines input ∧
    (conversation.Ended ∧ conversation.replies = repliesTo service host lines ↔
      (∀ line ∈ lines, ∃ text, textOf line = .ok text) ∧
        ¬Session.Once (Session.Breaks service host) ((lines.filterMap spoken?).map .line)) ∧
    (conversation.Ended ∧ conversation.replies = repliesTo service host lines ∨
      ∃ front line back, lines = front ++ line :: back ∧ Passes service host front ∧
        ¬Passes service host (front ++ [line]) ∧
        StoppedAt service host front line conversation) := by
  intro lines conversation
  have whole : conversation = through service { host } lines := run_eq_through (by simp) input
  have ends : Passes service host lines →
      conversation.Ended ∧ conversation.replies = repliesTo service host lines := by
    intro passes
    rw [whole]
    exact through_of_passes passes
  have stops : ¬Passes service host lines → ∃ front line back, lines = front ++ line :: back ∧
      Passes service host front ∧ ¬Passes service host (front ++ [line]) ∧
      StoppedAt service host front line conversation := by
    intro stopped
    obtain ⟨front, line, back, cut, before, first⟩ := exists_first stopped
    refine ⟨front, line, back, cut, before, first, ?_⟩
    rw [whole, cut]
    exact through_of_stops before first
  refine ⟨Rpc.Lines.areLines_all input, ⟨?_, ends⟩, ?_⟩
  · rintro ⟨ended, _⟩
    by_contra stopped
    obtain ⟨front, line, _, _, _, _, stands⟩ := stops stopped
    exact stands.alive ended.closed
  · by_cases passes : Passes service host lines
    · exact .inl (ends passes)
    · exact .inr (stops passes)

end Conversation

/-- A line that is not UTF-8. -/
def garbledBytes : List UInt8 := [255, 10]

/-- A line that asks for a sign of life. -/
def pingBytes : List UInt8 :=
  Utf8.encode pingLine

/-- The lines of the two. -/
theorem all_garbledBytes :
    Rpc.Lines.all (garbledBytes ++ pingBytes) = [garbledBytes, pingBytes] := by
  have first : Rpc.Lines.cut (garbledBytes ++ pingBytes) = (garbledBytes, pingBytes) := by
    decide +kernel
  have second : Rpc.Lines.cut pingBytes = (pingBytes, []) := by decide +kernel
  have starts : pingBytes = 123 :: pingBytes.tail := by decide +kernel
  have whole : garbledBytes ++ pingBytes = 255 :: 10 :: pingBytes := rfl
  rw [whole, Rpc.Lines.all, ← whole, first, starts, Rpc.Lines.all, ← starts, second, Rpc.Lines.all]

/-- The first line is not UTF-8, but the second one asks for a sign of life. -/
theorem spoken_garbledBytes : [garbledBytes, pingBytes].filterMap spoken? = [pingLine] := by
  decide +kernel

/-- A server that stops before the end and leaves a line without the reply that a session gives. -/
theorem stream_without_end :
    let conversation :=
      Conversation.run constantService { host := contradictoryHost } (garbledBytes ++ pingBytes)
    ¬conversation.Ended ∧ conversation.replies = [] ∧
      Conversation.repliesTo constantService contradictoryHost [garbledBytes, pingBytes] =
        [.result (.integer 7 (by decide)) (.ofMembers [])] := by
  have stopped : Conversation.run constantService { host := contradictoryHost }
      (garbledBytes ++ pingBytes) =
        { host := contradictoryHost, fault := some (.invalid 1 0) } := by
    rw [Conversation.run_eq_through (by simp), all_garbledBytes]
    rfl
  refine ⟨?_, ?_, ?_⟩
  · intro ended
    have closed := ended.closed
    rw [stopped] at closed
    cases closed
  · rw [stopped]
  · rw [Conversation.repliesTo, spoken_garbledBytes, Session.repliesTo, Session.turnAfter,
      Session.stateAfter, List.foldl_nil, Session.handleLine_of_value parse_pingLine]
    rfl

end DecompileServer

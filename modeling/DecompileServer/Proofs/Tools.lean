import DecompileServer.Proofs.Session.Lifecycle

/-!
# Calls of tools

A call reaches the service exactly if it is well formed (`AsksFor`), and then once and with what it
asks for. Whatever the service answers is a result of one text, and so is what is wrong with a call
that does not reach it; a session in the time for tools sends this result and never an error, unless
the service breaks down (`calls_have_results`).
-/
namespace DecompileServer

open Rpc (Message Reply RequestId)

/-- Whether a value is an object with a text that is not empty under a key. -/
def HoldsText (value : Json.Value) (key text : String) : Prop :=
  text ≠ "" ∧ ∃ members, value = .object members ∧ members.lookup key = some (.string text)

/-- Whether a value names the directories of a classpath: as an array of texts, or with nothing or
`null` for none. -/
def HoldsClasspath (value : Json.Value) (directories : List String) : Prop :=
  value.member? "classpath" = some (.array (directories.map .string)) ∨
    directories = [] ∧ (value.member? "classpath" = none ∨ value.member? "classpath" = some .null)

/-- The target that a well-formed call of a tool asks for. -/
inductive AsksFor (arguments : Json.Value) : String → Target → Prop where
  /-- The class file at a path. -/
  | file (path : String) (given : HoldsText arguments "classFilePath" path) :
      AsksFor arguments "decompile-from-path" (.file ⟨path⟩)
  /-- A class on a classpath. -/
  | onClasspath (name : String) (directories : List String)
      (given : HoldsText arguments "packageName" name)
      (listed : HoldsClasspath arguments directories) :
      AsksFor arguments "decompile-from-package" (.onClasspath name (directories.map Path.mk))
  /-- A class in an archive. What is not the name of one is passed on as none. -/
  | inArchive (archive : String) (className : Option String)
      (given : HoldsText arguments "jarFilePath" archive)
      (named : ∀ text, className = some text ↔ HoldsText arguments "className" text) :
      AsksFor arguments "decompile-from-jar" (.inArchive ⟨archive⟩ className)

namespace Tools

variable {service : Service} {name key text : String} {arguments : Json.Value} {host : Host}
  {target : Target}

/-- A text is found under a key exactly if it is there and not empty. -/
theorem textArgument?_eq_some_iff :
    textArgument? arguments key = some text ↔ HoldsText arguments key text := by
  unfold textArgument? HoldsText
  cases arguments with
  | object members =>
    rcases found : members.lookup key with _ | value
    · simp [Json.Value.member?, found]
    · cases value with
      | string other =>
        simp only [Json.Value.member?, found, Json.Value.string?, Option.bind_some,
          Option.filter_eq_some_iff, Option.some.injEq, decide_eq_true_eq, Json.Value.object.injEq,
          exists_eq_left', Json.Value.string.injEq]
        exact and_comm
      | _ => simp [Json.Value.member?, found, Json.Value.string?]
  | _ => simp [Json.Value.member?]

/-- A text that a tool needs is found exactly if it is there and not empty. -/
theorem textArgument_eq_ok_iff :
    textArgument arguments key = .ok text ↔ HoldsText arguments key text := by
  rw [← textArgument?_eq_some_iff, textArgument]
  cases textArgument? arguments key <;> simp

/-- The entries of a classpath are read exactly if all of them are texts. -/
theorem classpathEntries_eq_ok_iff {values : List Json.Value} {paths : List Path} :
    classpathEntries values = .ok paths ↔
      ∃ directories : List String, values = directories.map .string ∧
        paths = directories.map Path.mk := by
  induction values generalizing paths with
  | nil =>
    simp only [classpathEntries, Except.ok.injEq, List.nil_eq, List.map_eq_nil_iff, exists_eq_left,
      List.map_nil]
  | cons value rest ih =>
    cases value with
    | string text =>
      simp only [classpathEntries, Effect.except_map_eq_ok, ih]
      constructor
      · rintro ⟨_, ⟨directories, rfl, rfl⟩, rfl⟩
        exact ⟨text :: directories, rfl, rfl⟩
      · rintro ⟨_ | ⟨first, directories⟩, same, rfl⟩
        · cases same
        · obtain ⟨first, rfl⟩ := List.cons.inj same
          cases first
          exact ⟨_, ⟨directories, rfl, rfl⟩, rfl⟩
    | _ =>
      refine ⟨fun read => (by cases read), ?_⟩
      rintro ⟨_ | ⟨first, directories⟩, same, _⟩ <;> cases same

/-- A classpath is read exactly if it is well formed. -/
theorem classpathArgument_eq_ok_iff {paths : List Path} :
    classpathArgument arguments = .ok paths ↔
      ∃ directories, HoldsClasspath arguments directories ∧ paths = directories.map Path.mk := by
  unfold classpathArgument HoldsClasspath
  rcases arguments.member? "classpath" with _ | value
  · simp [eq_comm]
  · cases value with
    | array values =>
      rw [classpathEntries_eq_ok_iff]
      simp
    | null => simp [eq_comm]
    | _ => simp

/-- The text under a key, or none, is what is there. -/
theorem textArgument?_eq_iff {given : Option String} :
    textArgument? arguments key = given ↔ ∀ text, given = some text ↔ HoldsText arguments key text := by
  simp only [← textArgument?_eq_some_iff]
  constructor
  · rintro rfl text
    rfl
  · intro same
    exact Option.ext fun text => (same text).symm

/-- A call has a target exactly if it is well formed and asks for it. -/
theorem targetOf_eq_ok_iff : targetOf name arguments = .ok target ↔ AsksFor arguments name target := by
  constructor
  · intro asked
    unfold targetOf at asked
    split at asked
    · obtain ⟨path, given, same⟩ := Effect.except_bind_eq_ok.mp asked
      cases same
      exact .file path (textArgument_eq_ok_iff.mp given)
    · obtain ⟨packageName, given, rest⟩ := Effect.except_bind_eq_ok.mp asked
      obtain ⟨classpath, listed, same⟩ := Effect.except_bind_eq_ok.mp rest
      obtain ⟨directories, holds, rfl⟩ := classpathArgument_eq_ok_iff.mp listed
      cases same
      exact .onClasspath packageName directories (textArgument_eq_ok_iff.mp given) holds
    · obtain ⟨archive, given, same⟩ := Effect.except_bind_eq_ok.mp asked
      cases same
      exact .inArchive archive _ (textArgument_eq_ok_iff.mp given) (textArgument?_eq_iff.mp rfl)
    · cases asked
  · intro asks
    cases asks with
    | file path given =>
      exact Effect.except_bind_eq_ok.mpr ⟨path, textArgument_eq_ok_iff.mpr given, rfl⟩
    | onClasspath packageName directories given listed =>
      refine Effect.except_bind_eq_ok.mpr ⟨packageName, textArgument_eq_ok_iff.mpr given, ?_⟩
      exact Effect.except_bind_eq_ok.mpr
        ⟨_, classpathArgument_eq_ok_iff.mpr ⟨directories, listed, rfl⟩, rfl⟩
    | inArchive archive className given named =>
      refine Effect.except_bind_eq_ok.mpr ⟨archive, textArgument_eq_ok_iff.mpr given, ?_⟩
      rw [textArgument?_eq_iff.mpr named]
      rfl

/-- A well-formed call is what the service makes of its target, once. -/
theorem call_of_asksFor (asks : AsksFor arguments name target) (service : Service) (host : Host) :
    call service name arguments host =
      (resultOf ((service target).run host).1, ((service target).run host).2) := by
  rw [call, targetOf_eq_ok_iff.mpr asks]
  rfl

/-- A call that is not well formed fails without the service. -/
theorem call_of_not_asksFor (unfit : ∀ target, ¬AsksFor arguments name target) :
    ∃ fault : CallFault, ∀ service host,
      call service name arguments host = (some (.ofError fault.message), host) := by
  cases asked : targetOf name arguments with
  | ok target => exact absurd (targetOf_eq_ok_iff.mp asked) (unfit target)
  | error fault =>
    refine ⟨fault, fun service host => ?_⟩
    rw [call, asked]

/-- A call that is what every service makes of a target asks for it. -/
theorem asksFor_of_call
    (called : ∀ service host, call service name arguments host =
      (resultOf ((service target).run host).1, ((service target).run host).2)) :
    AsksFor arguments name target := by
  -- A service that tells the target from all others.
  let telling : Service := fun other => pure (if other = target then "this" else "other")
  have told := congrArg Prod.fst
    (called telling { tree := ⟨[]⟩, workingDirectory := [], environment := [] })
  cases asked : targetOf name arguments with
  | error fault =>
    rw [call, asked] at told
    cases congrArg (Option.map ToolResult.isError) told
  | ok other =>
    rw [call, asked] at told
    have same : other = target := by
      by_contra distinct
      simp [telling, distinct, resultOf, ToolResult.ofSource] at told
    rw [← same]
    exact targetOf_eq_ok_iff.mp asked

end Tools

/-- A result as it is sent holds one text, and tells that the call failed only if it did. -/
theorem ToolResult.toJson_eq (result : ToolResult) :
    result.toJson = .object
      (("content", .array [.object [("text", .string result.text), ("type", .string "text")]]) ::
        if result.isError then [("isError", .boolean true)] else []) := by
  unfold toJson
  cases result.isError <;> rfl

section Calls

variable {name : String} {arguments : Json.Value} {target : Target}

/-- A well-formed call succeeds with the source text or fails with the wording of the failure and,
before it, of the way in which the class was named, unless the decompiler breaks down. -/
theorem Tools.call_decompiler (asks : AsksFor arguments name target) (decompiler : Decompiler)
    (host : Host) :
    (call decompiler.service name arguments host).1 =
      match ((decompiler.decompile target).run host).1 with
      | .ok source => some ⟨source, false⟩
      | .error failure =>
        if failure.isBreakdown then none
        else some ⟨"Error: " ++ (target.stage.beginning ++ failure.message), true⟩ := by
  rw [call_of_asksFor asks, Decompiler.service, Effect.run_adapt]
  cases ((decompiler.decompile target).run host).1 <;> rfl

/-- A call of a tool in the time for tools is answered with its result, if it has one. -/
theorem Session.handleLine_of_call {session : Session} {line : String} {id : RequestId}
    {value : Json.Value} (running : session.phase = .running)
    (parsed : Message.ofLine line = .ok (.request id "tools/call" (some value)))
    (read : ToolCallParams.ofJson value = .ok ⟨name, arguments⟩) (service : Service) (host : Host) :
    (session.handleLine service line host).reply =
      (Tools.call service name arguments host).1.map fun result => .result id result.toJson := by
  have given : Session.readParams id "tool call" ToolCallParams.ofJson (some value) =
      .ok ⟨name, arguments⟩ := Session.readParams_eq_ok.mpr ⟨value, rfl, read⟩
  have called : (session.request service id "tools/call" (some value) host).reply =
      (session.callTool service id (some value) host).1 := rfl
  rw [handleLine_of_request parsed, called, callTool, if_neg (by simp [running]), given]

/-- What becomes of a call. It is what any service makes of a target exactly if it is well formed and
asks for it; if it is not well formed, it fails without the service. What a decompiler makes of it
is the source text as it is, or `Error: ` with the way in which the class was named and the reason.
Every result is sent as one text. In the time for tools a call is answered with its result, which it
has unless the service breaks down over it. -/
theorem calls_have_results (decompiler : Decompiler) (name : String) (arguments : Json.Value) :
    (∀ target,
      (∀ service host, Tools.call service name arguments host =
        (Tools.resultOf ((service target).run host).1, ((service target).run host).2)) ↔
      AsksFor arguments name target) ∧
    ((∀ target, ¬AsksFor arguments name target) → ∃ fault : Tools.CallFault, ∀ service host,
      Tools.call service name arguments host =
        (some ⟨"Error: " ++ fault.message, true⟩, host)) ∧
    (∀ target host, AsksFor arguments name target →
      (Tools.call decompiler.service name arguments host).1 =
        match ((decompiler.decompile target).run host).1 with
        | .ok source => some ⟨source, false⟩
        | .error failure =>
          if failure.isBreakdown then none
          else some ⟨"Error: " ++ (target.stage.beginning ++ failure.message), true⟩) ∧
    (∀ result : ToolResult, result.toJson = .object
      (("content", .array [.object [("text", .string result.text), ("type", .string "text")]]) ::
        if result.isError then [("isError", .boolean true)] else [])) ∧
    ∀ (session : Session) line id value service host, session.phase = .running →
      Message.ofLine line = .ok (.request id "tools/call" (some value)) →
      ToolCallParams.ofJson value = .ok ⟨name, arguments⟩ →
      (session.handleLine service line host).reply =
        ((Tools.call service name arguments host).1.map fun result => .result id result.toJson) ∧
      ((session.handleLine service line host).reply = none ↔ ∃ target failed,
        AsksFor arguments name target ∧ ((service target).run host).1 = .error failed ∧
          failed.failure.isBreakdown = true) := by
  refine ⟨fun target => ⟨Tools.asksFor_of_call, Tools.call_of_asksFor⟩, Tools.call_of_not_asksFor,
    fun target host asks => Tools.call_decompiler asks decompiler host, ToolResult.toJson_eq, ?_⟩
  intro session line id value service host running parsed read
  have answered := Session.handleLine_of_call running parsed read service host
  refine ⟨answered, ?_⟩
  rw [answered, Option.map_eq_none_iff, Tools.call_eq_none]
  simp only [Tools.targetOf_eq_ok_iff]

/-- A call in the time for tools, with parameters that can be read, that has no result. -/
theorem call_without_result :
    let session : Session := { phase := .running }
    Message.ofLine breakingLine =
        .ok (.request (.integer 3 (by decide)) "tools/call" (some breakingParams)) ∧
      (∃ read, ToolCallParams.ofJson breakingParams = .ok read) ∧
      ¬∃ value, (session.handleLine constantService breakingLine contradictoryHost).reply =
        some (.result (.integer 3 (by decide)) value) := by
  intro session
  have silent : (session.handleLine constantService breakingLine contradictoryHost).reply = none := by
    rw [Session.handleLine_of_request ofLine_breakingLine, Session.reply_of_request_eq_none]
    exact ⟨rfl, rfl, callBreaks_breakingParams⟩
  refine ⟨ofLine_breakingLine, ⟨⟨"decompile-from-jar", _⟩, rfl⟩, ?_⟩
  rw [silent]
  rintro ⟨value, replied⟩
  cases replied

end Calls

end DecompileServer

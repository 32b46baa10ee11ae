import DecompileServer.Decompiler
import DecompileServer.Proofs.Effect
import Mathlib.Logic.Function.Basic

/-!
# Requests for archives, step by step

Requests for classes from archives are in flight together. Each goes its way in steps: it lists its
archive, makes a workspace, opens the archive again, extracts one entry after the other, checks and
reads its class, lets the engine look up one class after the other, and removes the workspace. The
steps of a batch of requests change one host in any order.
-/
namespace DecompileServer

/-- What an engine does about a class: it answers, or asks for another class by its name and goes on
with what it is told. -/
inductive Inquiry where
  /-- The source text, or why there is none. -/
  | answer (result : Except EngineFault String)
  /-- A look-up. -/
  | ask (name : String) (next : Option (List UInt8) → Inquiry)

/-- What comes of an inquiry when all look-ups are answered alike. -/
def Inquiry.run (lookup : ClassLookup) : Inquiry → Except EngineFault String
  | .answer result => result
  | .ask name next => (next (lookup name)).run lookup

/-- What is left to do with a workspace. -/
inductive Work where
  /-- The archive is opened next. -/
  | opening
  /-- The next entry is extracted, or the class is read if there is none. -/
  | extracting (entries : List Archive.Entry)
  /-- The engine has been given a class and goes on. -/
  | consulting (name : ClassName) (bytes : List UInt8) (inquiry : Inquiry)

/-- How far a request has come. -/
inductive Progress where
  /-- Nothing has been done. -/
  | asked
  /-- The name of the class has been read, and the classes of the archive have been listed. -/
  | listed (wanted : String) (classes : List String)
  /-- There is a workspace. -/
  | busy (wanted : String) (classes : List String) (workspace : Workspace) (work : Work)
  /-- The workspace is to be removed. -/
  | leaving (workspace : Workspace) (result : Except Failure String)
  /-- The request has returned. -/
  | answered (result : Except StageFailure String)

/-- The workspace of a request. -/
def Progress.workspace? : Progress → Option Workspace
  | .busy _ _ workspace _ | .leaving workspace _ => some workspace
  | .asked | .listed .. | .answered _ => none

/-- What a request has returned. -/
def Progress.answer? : Progress → Option (Except StageFailure String)
  | .answered result => some result
  | .asked | .listed .. | .busy .. | .leaving .. => none

namespace Progress

/-- A request has returned what its answer is. -/
theorem eq_answered_of_answer? {progress : Progress} {result : Except StageFailure String}
    (answer : progress.answer? = some result) : progress = .answered result := by
  cases progress with
  | answered given => rw [Option.some.inj answer]
  | _ => cases answer

/-- What comes of the listing of the archive. -/
def ofListing : Except Failure (String × List String) → Progress
  | .ok (wanted, classes) => .listed wanted classes
  | .error failure => .answered (.error ⟨.jar, failure⟩)

/-- What comes of the making of a workspace. -/
def ofCreation (wanted : String) (classes : List String) : Except Failure Workspace → Progress
  | .ok workspace => .busy wanted classes workspace .opening
  | .error failure => .answered (.error ⟨.jar, failure⟩)

/-- What comes of a step with a workspace. A failure leads to its removal. -/
def ofWork (wanted : String) (classes : List String) (workspace : Workspace) :
    Except Failure (Work ⊕ String) → Progress
  | .ok (.inl next) => .busy wanted classes workspace next
  | .ok (.inr text) => .leaving workspace (.ok text)
  | .error failure => .leaving workspace (.error failure)

end Progress

/-- A host and the requests that use it. -/
structure World (ι : Type) where
  /-- The host. -/
  host : Host
  /-- How far each request has come. -/
  progress : ι → Progress

/-- The workspaces of the requests. -/
def World.held {ι : Type} (world : World ι) : ι → Option Workspace :=
  fun i => (world.progress i).workspace?

/-- Requests for classes from archives, and what answers them. -/
structure Batch (ι : Type) where
  /-- Where workspaces are made. -/
  settings : SearchSettings := {}
  /-- The choices that are passed to the engine. -/
  options : EngineOptions := {}
  /-- What the engine does about a class. -/
  inquire : ClassName → EngineOptions → Inquiry
  /-- The archive of each request. -/
  archive : ι → Path
  /-- The name of the class that each request is for. -/
  className : ι → Option String

namespace Batch

variable {ι : Type}

/-- What answers a request that is alone. -/
def decompiler (batch : Batch ι) : Decompiler where
  settings := batch.settings
  engine := .ofFunction fun request => (batch.inquire request.name request.options).run request.lookup
  options := batch.options

/-- What the service gives for a request on a host, and how it leaves the host. -/
def outcome (batch : Batch ι) (host : Host) (i : ι) : Except StageFailure String × Host :=
  (batch.decompiler.service (.inArchive (batch.archive i) (batch.className i))).run host

/-- The first step: the name of the class and the classes of the archive. -/
def list (batch : Batch ι) (host : Host) (i : ι) : Except Failure (String × List String) := do
  let wanted ← SearchSettings.wantedName (batch.className i)
  let classes ← Archive.classEntries host (batch.archive i)
  if classes.isEmpty then throw (.emptyArchive (batch.archive i))
  pure (wanted, classes)

/-- One step with a workspace: what is left to do after it, or the source text. -/
def proceed (batch : Batch ι) (archive : Path) (wanted : String) (classes : List String)
    (workspace : Workspace) : Work → Effect Failure (Work ⊕ String)
  | .opening => do
    let loaded ← Host.observe (Archive.load · archive)
    pure (.inl (.extracting loaded.entries))
  | .extracting (entry :: rest) => do
    (Archive.extractEntry workspace.path entry).adapt fun fault =>
      .extraction archive (.archive fault)
    pure (.inl (.extracting rest))
  | .extracting [] => do
    let located ← Host.observe fun host =>
      SearchSettings.primaryOf host archive classes workspace wanted
    pure (.inl (.consulting located.name located.bytes
      (batch.inquire located.name batch.options)))
  | .consulting name bytes (.ask asked next) => Host.observe fun host =>
    .ok (.inl (.consulting name bytes (next (lookupFor name bytes (workspace.lookup host) asked))))
  | .consulting _ _ (.answer result) => do
    let text ← result.mapError fun fault => Failure.engine fault.message
    pure (.inr text)

section Proceeding

variable {batch : Batch ι} {archive : Path} {wanted : String} {classes : List String}
  {workspace : Workspace} {host : Host}

/-- What comes of opening the archive. -/
theorem run_opening :
    (batch.proceed archive wanted classes workspace .opening).run host =
      ((Archive.load host archive).map fun loaded => .inl (.extracting loaded.entries), host) :=
  Effect.run_bind_pure _

/-- What comes of extracting an entry. -/
theorem run_extracting_cons (entry : Archive.Entry) (rest : List Archive.Entry) :
    (batch.proceed archive wanted classes workspace (.extracting (entry :: rest))).run host =
      ((((Archive.extractEntry workspace.path entry).run host).1.mapError fun fault =>
          Failure.extraction archive (.archive fault)).map fun _ => .inl (.extracting rest),
        ((Archive.extractEntry workspace.path entry).run host).2) :=
  Effect.run_bind_pure _

/-- What comes of reading the class. -/
theorem run_extracting_nil :
    (batch.proceed archive wanted classes workspace (.extracting [])).run host =
      ((SearchSettings.primaryOf host archive classes workspace wanted).map fun located =>
          .inl (.consulting located.name located.bytes
            (batch.inquire located.name batch.options)), host) :=
  Effect.run_bind_pure _

/-- What comes of a look-up. -/
theorem run_ask (name : ClassName) (bytes : List UInt8) (asked : String)
    (next : Option (List UInt8) → Inquiry) :
    (batch.proceed archive wanted classes workspace (.consulting name bytes (.ask asked next))).run
        host =
      (.ok (.inl (.consulting name bytes
        (next (lookupFor name bytes (workspace.lookup host) asked)))), host) :=
  rfl

/-- What comes of the answer of the engine. -/
theorem run_answer (name : ClassName) (bytes : List UInt8) (result : Except EngineFault String) :
    (batch.proceed archive wanted classes workspace (.consulting name bytes (.answer result))).run
        host =
      ((result.mapError fun fault => Failure.engine fault.message).map .inr, host) :=
  Effect.run_bind_pure _

end Proceeding

/-- One step of a request. -/
def advance (batch : Batch ι) (i : ι) : Progress → Host → Progress × Host
  | .asked, host => (.ofListing (batch.list host i), host)
  | .listed wanted classes, host =>
    let (made, after) :=
      (Workspace.create batch.settings.workspaceRoot (batch.archive i)).run host
    (.ofCreation wanted classes made, after)
  | .busy wanted classes workspace work, host =>
    let (done, after) :=
      (batch.proceed (batch.archive i) wanted classes workspace work).run host
    (.ofWork wanted classes workspace done, after)
  | .leaving workspace result, host =>
    (.answered (result.mapError (⟨.jar, ·⟩)), host.removeAll workspace.path)
  | .answered result, host => (.answered result, host)

/-- A step with a workspace is what comes of the work. -/
theorem advance_busy {batch : Batch ι} {i : ι} {wanted : String} {classes : List String}
    {workspace : Workspace} {work : Work} {host : Host} :
    batch.advance i (.busy wanted classes workspace work) host =
      (.ofWork wanted classes workspace
          ((batch.proceed (batch.archive i) wanted classes workspace work).run host).1,
        ((batch.proceed (batch.archive i) wanted classes workspace work).run host).2) :=
  rfl

/-- Nothing has been done for any request. -/
def start (host : Host) : World ι :=
  ⟨host, fun _ => .asked⟩

section Running

variable [DecidableEq ι]

/-- One step of one request. -/
def step (batch : Batch ι) (world : World ι) (i : ι) : World ι where
  host := (batch.advance i (world.progress i) world.host).2
  progress := Function.update world.progress i (batch.advance i (world.progress i) world.host).1

/-- How steps of requests, one after the other, leave a host. -/
def after (batch : Batch ι) (host : Host) (steps : List ι) : World ι :=
  steps.foldl batch.step (start host)

end Running

end Batch

end DecompileServer

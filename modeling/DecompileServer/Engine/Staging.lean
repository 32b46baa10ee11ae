import DecompileServer.Engine.Basic

/-!
# Staging classes

An external engine cannot ask for classes, so those that it may need are written for it beforehand.
A plan goes through the references of the class breadth first: each name is asked for once, and a
class that is found, has bytes and a well-formed name is staged, and its own references join the end
of the queue, until the budget is spent.
-/
namespace DecompileServer

/-- One name of a plan, and the class to write if there is one. -/
structure StagingStep where
  /-- The name that is asked for. -/
  asked : String
  /-- The class to write. -/
  staged : Option (ClassName × List UInt8)
  deriving DecidableEq

namespace Staging

/-- The class that an answer to a name gives to write. -/
def accepted (lookup : ClassLookup) (name : String) : Option (ClassName × List UInt8) :=
  match lookup name, ClassName.ofText name with
  | some (byte :: bytes), .ok name => some (name, byte :: bytes)
  | _, _ => none

/-- The names that the class file in the given bytes refers to. -/
def referencesIn (bytes : List UInt8) : List String :=
  match ClassFile.parse bytes with
  | .ok summary => summary.references
  | .error _ => []

/-- Plans the names in the queue, those already seen left out, with room for `budget` classes. Each
round shortens the queue or spends a part of the budget. -/
def plan (lookup : ClassLookup) (seen : List String) (budget : Nat) (queue : List String) :
    List StagingStep :=
  match queue, budget with
  | [], _ => []
  | _ :: _, 0 => []
  | name :: rest, further + 1 =>
    if name ∈ seen then plan lookup seen (further + 1) rest
    else
      match accepted lookup name with
      | none => ⟨name, none⟩ :: plan lookup (name :: seen) (further + 1) rest
      | some (staged, bytes) =>
        ⟨name, some (staged, bytes)⟩ ::
          plan lookup (name :: seen) further (rest ++ referencesIn bytes)
termination_by (budget, queue.length)

/-- Writes a class below a directory. -/
def write (directory : Path) (name : ClassName) (bytes : List UInt8) : Effect Disk.Fault Path := do
  let path := directory.join name.filePath
  match path.parent? with
  | some above => Host.makeDirectories above
  | none => pure ()
  Host.change (·.write path bytes)
  pure path

/-- Writes the class of a step, if it has one. -/
def writeStep (directory : Path) (step : StagingStep) : Effect Disk.Fault Unit :=
  match step.staged with
  | none => pure ()
  | some (name, bytes) => do
    let _ ← write directory name bytes

/-- Writes the classes of a plan below a directory. A fault leaves the steps up to it. -/
def writeAll (directory : Path) : List StagingStep → Effect (List StagingStep) Unit
  | [] => pure ()
  | step :: rest => do
    (writeStep directory step).adapt fun _ => [step]
    (writeAll directory rest).adapt (step :: ·)

end Staging

end DecompileServer

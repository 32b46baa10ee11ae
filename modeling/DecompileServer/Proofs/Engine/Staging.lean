import DecompileServer.Engine.External
import DecompileServer.Proofs.ClassName
import DecompileServer.Proofs.Disk.Temporary

/-!
# Staging stays inside

The path of a class file never leads upwards, so writing classes into a staging directory puts
nothing outside of it, wherever the writing stops. Once all classes are staged, the engine answers
what the external program does (`ExternalEngine.result_of_staged`).
-/
namespace DecompileServer

open Disk (Location)
open Host (Enclosed StaysFrom Continues Tolerates)

namespace ClassName

/-- The path of a class file leads nowhere above the directory in which it is taken. -/
theorem enclosed_filePath (name : ClassName) : Enclosed (Path.mk name.filePath).steps :=
  ⟨fun step member => (name.moves_of_mem_steps step member).1,
    StaysFrom.of_names fun step member => (name.moves_of_mem_steps step member).2⟩

/-- The path of a class file in a directory starts where that of the directory does. -/
theorem isAbsolute_join_filePath (root : Path) (name : ClassName) :
    (root.join name.filePath).isAbsolute = root.isAbsolute :=
  Path.isAbsolute_join_of_relative name.isAbsolute_filePath

/-- The steps of the path of a class file in a directory. -/
theorem steps_join_filePath (root : Path) (name : ClassName) :
    (root.join name.filePath).steps = root.steps ++ (Path.mk name.filePath).steps :=
  Path.steps_join name.isAbsolute_filePath

/-- The path of a class file in a directory is not empty. -/
theorem join_filePath_ne_empty (root : Path) (name : ClassName) :
    (root.join name.filePath).text ≠ "" := by
  intro empty
  have none : (root.join name.filePath).steps = [] := by
    rw [Path.steps, Path.pieces, empty]
    rfl
  rw [steps_join_filePath, steps_filePath] at none
  simp at none

/-- The path of a class file in a directory does not end in a slash. -/
theorem endsInSlash_join_filePath (root : Path) (name : ClassName) :
    (root.join name.filePath).endsInSlash = false := by
  have last : name.filePath.toList.getLast? = some 's' := by
    simp [filePath, List.getLast?_append]
  exact Path.endsInSlash_join last

/-- The path of a class file in a directory goes on from that of the directory. -/
theorem continues_filePath (root : Path) (name : ClassName) :
    Continues root (Path.mk name.filePath).steps (root.join name.filePath) := by
  refine ⟨name.isAbsolute_join_filePath root, ?_⟩
  simp only [name.steps_join_filePath root, List.prefix_refl]

/-- The path of a class file in a directory leads to the location that the steps make up below where
the path of the directory leads. -/
theorem leadsTo_of_locate {host : Host} {root : Path} {name : ClassName} {location : Location}
    (led : host.locate (root.join name.filePath) = .ok location) :
    ∃ base, host.LeadsTo root base ∧ location = base ++ (Path.mk name.filePath).steps :=
  Host.LeadsTo.of_locate (name.isAbsolute_join_filePath root) (name.steps_join_filePath root)
    (by simp [name.steps_filePath]) name.moves_of_mem_steps led

end ClassName

namespace Staging

variable {directory : Path} {base : Location} {holds : Host → Prop}
  (tolerates : Tolerates directory base holds)
include tolerates

/-- Writing a class into a directory keeps what tolerates it. -/
theorem keeps_write (name : ClassName) (bytes : List UInt8) :
    Effect.Keeps holds (write directory name bytes) := by
  have enclosed := name.enclosed_filePath
  have continues := name.continues_filePath directory
  have written : Effect.Keeps holds
      (do
        Host.change (·.write (directory.join name.filePath) bytes)
        pure (directory.join name.filePath) : Effect Disk.Fault Path) :=
    Effect.Keeps.bind
      (Effect.Keeps.change fun _ _ held done => tolerates.write enclosed continues held done)
      fun _ => Effect.Keeps.pure _
  unfold write
  dsimp only
  split
  · rename_i above found
    exact Effect.Keeps.bind (tolerates.makeDirectories enclosed (continues.parent found))
      fun _ => written
  · exact written

/-- Writing the class of a step into a directory keeps what tolerates it. -/
theorem keeps_writeStep (step : StagingStep) :
    Effect.Keeps holds (writeStep directory step) := by
  unfold writeStep
  split
  · exact Effect.Keeps.pure _
  · exact Effect.Keeps.bind (keeps_write tolerates _ _) fun _ => Effect.Keeps.pure _

/-- Writing the classes of a plan into a directory keeps what tolerates it. -/
theorem keeps_writeAll (steps : List StagingStep) :
    Effect.Keeps holds (writeAll directory steps) := by
  induction steps with
  | nil => exact Effect.Keeps.pure _
  | cons step rest ih =>
    exact Effect.Keeps.bind (Effect.Keeps.adapt (keeps_writeStep tolerates step) _) fun _ =>
      Effect.Keeps.adapt ih _

end Staging

namespace ExternalEngine

variable {engine : ExternalEngine} {request : EngineRequest} {directory path : Path}
  {primary : List UInt8} {summary : ClassFile.Summary} {host opened middle after : Host}

/-- When the class and those of its plan have been written, the program runs on them. -/
theorem decompileIn_of_staged (parsed : ClassFile.parse primary = .ok summary)
    (first : (Staging.write directory (stagedName request.name summary) primary).run host =
      (.ok path, middle))
    (others : (Staging.writeAll directory (engine.planFor request summary)).run middle =
      (.ok (), after)) :
    engine.decompileIn request directory primary host =
      (⟨(engine.planFor request summary).map (·.asked),
          (engine.launch after path directory request.options).1⟩,
        (engine.launch after path directory request.options).2) := by
  rw [decompileIn, parsed]
  dsimp only
  rw [first]
  dsimp only
  rw [others]

/-- When everything can be staged, the engine answers what the program does. -/
theorem result_of_staged (known : request.lookup request.name.text = some primary)
    (magic : ClassFile.hasMagic primary = true)
    (made : (Host.makeTemporary host.temporaryPath beginning).run host = (.ok directory, opened))
    (parsed : ClassFile.parse primary = .ok summary)
    (first : (Staging.write directory (stagedName request.name summary) primary).run opened =
      (.ok path, middle))
    (others : (Staging.writeAll directory (engine.planFor request summary)).run middle =
      (.ok (), after)) :
    ((engine.engine request).run host).1 =
      (engine.launch after path directory request.options).1 := by
  change (engine.trace request host).1.result = _
  rw [trace, known]
  dsimp only
  rw [magic, made]
  dsimp only
  rw [decompileIn_of_staged parsed first others]
  rfl

end ExternalEngine

end DecompileServer

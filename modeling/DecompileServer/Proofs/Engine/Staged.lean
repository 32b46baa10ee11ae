import DecompileServer.Program.Running
import DecompileServer.Proofs.Engine.Closure
import DecompileServer.Proofs.Engine.Staging

/-!
# What a staging directory holds

Writing a class makes the directories of its packages and then its file (`Underway.write`). Each
class is written once and none in the place of another, so an empty directory ends up with the files
of the classes and the directories above them, and with nothing else (`HoldsExactly`). The external
program finds the class itself there, and the classes that are found breadth first from it
(`ExternalEngine.stages_closure`).
-/
namespace DecompileServer

open Disk (Location Tree)
open Host (Continues LeadsTo Within)

namespace Staging

/-- The files below a location are those of the given classes, and none can be executed. -/
def HoldsFiles (tree : Tree) (base : Location) (files : List (ClassName × List UInt8)) : Prop :=
  ∀ rest content executable,
    tree.find? (base ++ rest) = some (.file content executable) ↔ executable = false ∧
      ∃ item ∈ files, item.2 = content ∧ (Path.mk item.1.filePath).steps = rest

/-- Below a location there are the files of classes with the directories above them, and nothing
else. -/
structure HoldsExactly (tree : Tree) (base : Location) (files : List (ClassName × List UInt8)) :
    Prop where
  /-- The files are those of the classes. -/
  file_iff : HoldsFiles tree base files
  /-- The directories are those above them. -/
  directory_iff : ∀ rest, rest ≠ [] → (tree.find? (base ++ rest) = some .directory ↔
    ∃ item ∈ files, ∃ further, further ≠ [] ∧ (Path.mk item.1.filePath).steps = rest ++ further)

/-- How far the writing of classes below an empty directory has come: some files are written, and
directories are made for some classes. -/
structure Underway (origin : Host) (directory : Path) (base : Location)
    (opened files : List (ClassName × List UInt8)) (host : Host) : Prop where
  /-- Nothing else has changed. -/
  within : Within origin directory base host
  /-- The tree is closed. -/
  closed : host.tree.IsClosed
  /-- The files are those that are written. -/
  file_iff : HoldsFiles host.tree base files
  /-- The directories are those for some of the classes. -/
  above : ∀ rest, rest ≠ [] → host.tree.find? (base ++ rest) = some .directory →
    ∃ item ∈ opened, rest <+: (Path.mk item.1.filePath).steps

/-- In an empty directory nothing is written yet. -/
theorem underway_start {host : Host} {directory : Path} {base : Location}
    (closed : host.tree.IsClosed) (leads : host.LeadsTo directory base)
    (empty : ∀ rest, rest ≠ [] → host.tree.find? (base ++ rest) = none) :
    Underway host directory base [] [] host where
  within := .refl leads
  closed := closed
  file_iff rest content executable := by
    have none : host.tree.find? (base ++ rest) ≠ some (.file content executable) := by
      by_cases here : rest = []
      · subst here
        simp [leads.standing]
      · simp [empty rest here]
    simp [none]
  above rest some standing := by
    rw [empty rest some] at standing
    cases standing

namespace Underway

variable {origin host after : Host} {directory target : Path} {base : Location}
  {opened files : List (ClassName × List UInt8)} {item : ClassName × List UInt8}

/-- Directories may be made for more classes. -/
theorem more (underway : Underway origin directory base opened files host)
    (item : ClassName × List UInt8) :
    Underway origin directory base (opened ++ [item]) files host :=
  { underway with
    above := fun rest some standing => by
      obtain ⟨other, member, inside⟩ := underway.above rest some standing
      exact ⟨other, List.mem_append_left _ member, inside⟩ }

/-- A directory is made for one of the classes. -/
theorem makeDirectory (underway : Underway origin directory base opened files host)
    (member : item ∈ opened)
    (continues : Continues directory (Path.mk item.1.filePath).steps target)
    (made : host.makeDirectory target = .ok after) :
    Underway origin directory base opened files after where
  within :=
    (Host.tolerates_within origin).makeDirectory item.1.enclosed_filePath continues underway.within
      made
  closed := Host.isClosed_of_makeDirectory underway.closed made
  file_iff rest content executable := by
    rw [← underway.file_iff rest content executable]
    obtain ⟨folder, name, names, free, rfl⟩ := Host.makeDirectory_eq_ok made
    rw [Tree.find?_put (by simp)]
    split
    · next same => simp [same, free]
    · rfl
  above rest some standing := by
    obtain ⟨folder, name, names, free, rfl⟩ := Host.makeDirectory_eq_ok made
    rw [Tree.find?_put (by simp)] at standing
    split at standing
    · next same =>
      obtain ⟨front, -, inside, place⟩ := underway.within.leads.place_front continues
        item.1.moves_of_mem_steps names (by simp [free])
      rw [place, List.append_cancel_left_eq] at same
      exact ⟨item, member, same ▸ inside⟩
    · exact underway.above rest some standing

/-- Making the directories for one of the classes writes no file. -/
theorem keeps_makeDirectories (member : item ∈ opened)
    (continues : Continues directory (Path.mk item.1.filePath).steps target) :
    Effect.Keeps (Underway origin directory base opened files) (Host.makeDirectories target) :=
  Host.keeps_makeDirectories continues fun _ _ _ along underway made =>
    underway.makeDirectory member along made

/-- The files of classes of other names are elsewhere. -/
theorem steps_ne (new : item.1 ∉ files.map (·.1)) {other : ClassName × List UInt8}
    (member : other ∈ files) :
    (Path.mk other.1.filePath).steps ≠ (Path.mk item.1.filePath).steps := by
  intro same
  rw [← ClassName.eq_of_steps_filePath same] at new
  exact new (List.mem_map_of_mem member)

/-- Where the file of a class of another name belongs there is none. -/
theorem find?_eq_none (underway : Underway origin directory base opened files host)
    (new : item.1 ∉ files.map (·.1))
    (vacant : host.tree.find? (base ++ (Path.mk item.1.filePath).steps) ≠ some .directory) :
    host.tree.find? (base ++ (Path.mk item.1.filePath).steps) = none := by
  cases found : host.tree.find? (base ++ (Path.mk item.1.filePath).steps) with
  | none => rfl
  | some node =>
    cases node with
    | directory => exact absurd found vacant
    | file content executable =>
      obtain ⟨-, other, member, -, same⟩ := (underway.file_iff _ _ _).mp found
      exact absurd same (steps_ne new member)

/-- The file of a class of another name is written. -/
theorem writeFile (underway : Underway origin directory base (files ++ [item]) files host)
    (new : item.1 ∉ files.map (·.1))
    (written : host.write (directory.join item.1.filePath) item.2 = .ok after) :
    Underway origin directory base (files ++ [item]) (files ++ [item]) after := by
  have within := (Host.tolerates_within origin).write item.1.enclosed_filePath
    (item.1.continues_filePath directory) underway.within written
  have closed := Host.isClosed_of_write underway.closed written
  obtain ⟨ended, folder, name, executable, names, vacant, -⟩ := Host.write_eq_ok written
  have place : folder ++ [name] = base ++ (Path.mk item.1.filePath).steps :=
    underway.within.leads.place_eq (item.1.isAbsolute_join_filePath directory)
      (item.1.steps_join_filePath directory) (by simp [item.1.steps_filePath])
      item.1.moves_of_mem_steps names
  have free : host.tree.find? (folder ++ [name]) = none := by
    rw [place] at vacant ⊢
    exact underway.find?_eq_none new vacant
  rw [names.write_eq ended free] at written
  obtain rfl := Except.ok.inj written
  refine ⟨within, closed, fun rest content executable => ?_, fun rest some standing => ?_⟩
  · rw [Tree.find?_put (by simp), place]
    by_cases here : rest = (Path.mk item.1.filePath).steps
    · subst here
      have only : (∃ other ∈ files ++ [item], other.2 = content ∧
          (Path.mk other.1.filePath).steps = (Path.mk item.1.filePath).steps) ↔
          item.2 = content := by
        constructor
        · rintro ⟨other, member, stored, same⟩
          obtain before | last := List.mem_append.mp member
          · exact absurd same (steps_ne new before)
          · rwa [List.mem_singleton.mp last] at stored
        · exact fun stored => ⟨item, by simp, stored, rfl⟩
      rw [if_pos rfl, only]
      simp [and_comm, @eq_comm _ false]
    · have apart : ¬(Path.mk item.1.filePath).steps = rest := fun same => here same.symm
      rw [if_neg (by simpa using here), underway.file_iff]
      simp [or_and_right, exists_or, apart]
  · rw [Tree.find?_put (by simp)] at standing
    split at standing
    · cases standing
    · exact underway.above rest some standing

/-- A class of another name is written. -/
theorem write {path : Path} {name : ClassName} {bytes : List UInt8}
    (underway : Underway origin directory base files files host) (new : name ∉ files.map (·.1))
    (ran : (Staging.write directory name bytes).run host = (.ok path, after)) :
    path = directory.join name.filePath ∧
      Underway origin directory base (files ++ [(name, bytes)]) (files ++ [(name, bytes)])
        after := by
  have ready := underway.more (name, bytes)
  have member : (name, bytes) ∈ files ++ [(name, bytes)] := by simp
  have continues := name.continues_filePath directory
  unfold Staging.write at ran
  dsimp only at ran
  -- The directories come first, if there is something above the file.
  have last : ∃ middle,
      Underway origin directory base (files ++ [(name, bytes)]) files middle ∧
        (do
          Host.change (·.write (directory.join name.filePath) bytes)
          pure (directory.join name.filePath) : Effect Disk.Fault Path).run middle =
        (.ok path, after) := by
    split at ran
    · next above found =>
      obtain ⟨_, middle, made, ran⟩ := Effect.run_bind_eq_ok.mp ran
      have kept := keeps_makeDirectories member (continues.parent found) host ready
      rw [made] at kept
      exact ⟨middle, kept, ran⟩
    · exact ⟨host, ready, ran⟩
  obtain ⟨middle, ready, ran⟩ := last
  obtain ⟨_, written, changed, returned⟩ := Effect.run_bind_eq_ok.mp ran
  rw [Effect.run_pure] at returned
  cases returned
  exact ⟨rfl, ready.writeFile new (Effect.run_change_eq_ok.mp changed)⟩

/-- The classes of a plan are written, if they have different names. -/
theorem writeAll {steps : List StagingStep}
    (underway : Underway origin directory base files files host)
    (apart : ((files ++ steps.filterMap (·.staged)).map (·.1)).Nodup)
    (ran : (Staging.writeAll directory steps).run host = (.ok (), after)) :
    Underway origin directory base (files ++ steps.filterMap (·.staged))
      (files ++ steps.filterMap (·.staged)) after := by
  induction steps generalizing files host with
  | nil =>
    rw [Staging.writeAll, Effect.run_pure] at ran
    cases ran
    rwa [List.filterMap_nil, List.append_nil]
  | cons step rest ih =>
    obtain ⟨_, middle, first, others⟩ := Effect.run_bind_eq_ok.mp ran
    rw [Effect.run_adapt_eq_ok] at first others
    unfold writeStep at first
    cases staged : step.staged with
    | none =>
      rw [staged] at first
      cases first
      rw [List.filterMap_cons_none staged] at apart ⊢
      exact ih underway apart others
    | some item =>
      obtain ⟨name, bytes⟩ := item
      rw [staged] at first
      obtain ⟨path, written, wrote, returned⟩ := Effect.run_bind_eq_ok.mp first
      cases returned
      rw [List.filterMap_cons_some staged, List.append_cons] at apart ⊢
      have new : name ∉ files.map (·.1) := by
        have front := apart.sublist ((List.sublist_append_left _ _).map _)
        rw [List.map_append, List.map_singleton, List.nodup_append] at front
        exact fun member => front.2.2 _ member _ List.mem_cons_self rfl
      exact ih (underway.write new wrote).2 apart others

/-- When all files are written, nothing else is there. -/
theorem holdsExactly (underway : Underway origin directory base files files host) :
    HoldsExactly host.tree base files where
  file_iff := underway.file_iff
  directory_iff rest some := by
    have filed : ∀ item ∈ files, host.tree.find? (base ++ (Path.mk item.1.filePath).steps) =
        .some (.file item.2 false) :=
      fun item member => (underway.file_iff _ _ _).mpr ⟨rfl, item, member, rfl, rfl⟩
    constructor
    · intro standing
      obtain ⟨item, member, further, whole⟩ := underway.above rest some standing
      refine ⟨item, member, further, ?_, whole.symm⟩
      rintro rfl
      rw [List.append_nil] at whole
      have file := filed item member
      rw [← whole, standing] at file
      cases file
    · rintro ⟨item, member, further, strict, whole⟩
      have file := filed item member
      rw [whole, ← List.append_assoc] at file
      exact underway.closed.above strict (by rw [file]; rfl)

end Underway

end Staging

namespace ExternalEngine

open Staging (IsBreadthFirst IsReachable HoldsExactly)

/-- A class is staged under the name that it declares or under the one that was asked for. -/
theorem stagedName_mem (name : ClassName) (summary : ClassFile.Summary) :
    (stagedName name summary).text ∈ [summary.declared, name.text] := by
  unfold stagedName
  split
  · next declared found =>
    rw [ClassName.text_of_ofText found]
    exact List.mem_cons_self
  · exact .tail _ List.mem_cons_self

/-- The classes of a plan are those that are found breadth first. -/
theorem isBreadthFirst_planFor (engine : ExternalEngine) (request : EngineRequest)
    (summary : ClassFile.Summary) :
    IsBreadthFirst request.lookup [summary.declared, request.name.text] summary.references
      engine.budget ((engine.planFor request summary).filterMap (·.staged)) := by
  have whole : IsBreadthFirst request.lookup [summary.declared, request.name.text]
      summary.references (0 + engine.budget) _ :=
    Staging.queued_start.isBreadthFirst_plan
  rwa [Nat.zero_add, List.nil_append] at whole

/-- If all files can be written, an empty directory ends up with the class under its name and those
that are found breadth first from it, each once, and with nothing else; the external program is run
on that. If there are fewer than the budget allows, they are all those to which the class refers,
itself or through others. -/
theorem stages_closure (engine : ExternalEngine) (request : EngineRequest) (directory path : Path)
    (base : Location) (primary : List UInt8) (summary : ClassFile.Summary)
    (host middle after : Host) (parsed : ClassFile.parse primary = .ok summary)
    (closed : host.tree.IsClosed) (leads : host.LeadsTo directory base)
    (empty : ∀ rest, rest ≠ [] → host.tree.find? (base ++ rest) = none)
    (first : (Staging.write directory (stagedName request.name summary) primary).run host =
      (.ok path, middle))
    (others : (Staging.writeAll directory (engine.planFor request summary)).run middle =
      (.ok (), after)) :
    (∃ staged, IsBreadthFirst request.lookup [summary.declared, request.name.text]
        summary.references engine.budget staged ∧
      (∀ another, IsBreadthFirst request.lookup [summary.declared, request.name.text]
        summary.references engine.budget another → another = staged) ∧
      HoldsExactly after.tree base ((stagedName request.name summary, primary) :: staged) ∧
      (((stagedName request.name summary, primary) :: staged).map (·.1)).Nodup ∧
      (∀ item ∈ staged, IsReachable request.lookup [summary.declared, request.name.text]
        summary.references item) ∧
      (staged.length < engine.budget → ∀ item, IsReachable request.lookup
        [summary.declared, request.name.text] summary.references item → item ∈ staged)) ∧
    path = directory.join (stagedName request.name summary).filePath ∧
    Within host directory base after ∧
    engine.decompileIn request directory primary host =
      (⟨(engine.planFor request summary).map (·.asked),
          (engine.launch after path directory request.options).1⟩,
        (engine.launch after path directory request.options).2) := by
  have breadthFirst := engine.isBreadthFirst_planFor request summary
  -- No other class has a name of the class itself.
  have apart : (((stagedName request.name summary, primary) ::
      (engine.planFor request summary).filterMap (·.staged)).map (·.1)).Nodup := by
    rw [List.map_cons, List.nodup_cons]
    refine ⟨fun member => ?_, breadthFirst.ordered.nodup⟩
    obtain ⟨item, inside, same⟩ := List.mem_map.mp member
    have foreign := (breadthFirst.ordered.isFound_of_mem inside).foreign
    rw [same] at foreign
    exact foreign (stagedName_mem request.name summary)
  obtain ⟨joined, started⟩ := (Staging.underway_start closed leads empty).write
    List.not_mem_nil first
  have finished := started.writeAll apart others
  refine ⟨⟨_, breadthFirst, fun _ again => again.unique breadthFirst, finished.holdsExactly,
    apart, fun _ => breadthFirst.ordered.isReachable_of_mem,
    fun few _ => (breadthFirst.mem_iff few).mpr⟩, joined, finished.within,
    decompileIn_of_staged parsed first others⟩

/-- A class file that declares `A` and refers to `p/C`. -/
def samplePrimary : List UInt8 :=
  [0xCA, 0xFE, 0xBA, 0xBE, 0, 0, 0, 52, 0, 5, 1, 0, 1, 65, 7, 0, 1, 1, 0, 3, 112, 47, 67, 7, 0, 3,
    0, 33, 0, 2, 0, 0, 0, 0, 0, 0, 0, 0]

/-- What it says. -/
def sampleSummary : ClassFile.Summary where
  declared := "A"
  parent := none
  references := ["p/C"]
  methods := []

/-- A class file that declares `p/C` and refers to `q/D` and back to `A`. -/
def sampleLink : List UInt8 :=
  [0xCA, 0xFE, 0xBA, 0xBE, 0, 0, 0, 52, 0, 7, 1, 0, 3, 112, 47, 67, 7, 0, 1, 1, 0, 3, 113, 47, 68,
    7, 0, 3, 1, 0, 1, 65, 7, 0, 5, 0, 33, 0, 2, 0, 0, 0, 0, 0, 0, 0, 0]

/-- The classes to stage beside it: one to which the class refers and one to which only that one
does, whose bytes are no class file. -/
def sampleOthers : List (ClassName × List UInt8) :=
  [(⟨"p/C", by decide⟩, sampleLink), (⟨"q/D", by decide⟩, [0])]

/-- The class is asked for as `B`, and bytes are known for the other ones and for the name that the
class declares. -/
def sampleRequest : EngineRequest where
  name := ⟨"B", by decide⟩
  lookup asked := [("p/C", sampleLink), ("q/D", [0]), ("A", [1])].lookup asked
  options := {}

/-- An engine that stages three classes at most. -/
def sampleEngine : ExternalEngine where
  archive := ⟨"/cfr.jar"⟩
  budget := 3
  launcher := Program.Shell.launched

/-- A program that writes the names of those of four classes that are staged. -/
def sampleProgram : List UInt8 :=
  ("#!/bin/sh\nfor name in A B p/C q/D\ndo test -f \"$5/$name.class\" && echo \"$name\"\n" ++
    "done\n").toUTF8.toList

/-- A machine with an empty directory, the program and the archive of the engine. -/
def stagingHost : Host where
  tree := ⟨[(["stage"], .directory), (["cfr.jar"], .file [] false), (["bin"], .directory),
    (["bin", "sh"], .file [] true), (["bin", "java"], .file sampleProgram true)]⟩
  workingDirectory := []
  environment := []

/-- The machine with the class in the directory. -/
def writtenHost : Host :=
  ((Staging.write ⟨"/stage"⟩ (stagedName sampleRequest.name sampleSummary) samplePrimary).run
    stagingHost).2

/-- The steps of the plan. -/
def sampleSteps : List StagingStep :=
  sampleOthers.map fun item => ⟨item.1.text, some item⟩

/-- The machine with all classes in the directory. -/
def stagedHost : Host :=
  ((Staging.writeAll ⟨"/stage"⟩ sampleSteps).run writtenHost).2

/-- What is planned: the class that is referred to, and the one that only that one refers to. -/
theorem planFor_sampleRequest : sampleEngine.planFor sampleRequest sampleSummary = sampleSteps := by
  have one : Staging.accepted sampleRequest.lookup "p/C" =
      some (⟨"p/C", by decide⟩, sampleLink) := by
    decide +kernel
  have two : Staging.accepted sampleRequest.lookup "q/D" = some (⟨"q/D", by decide⟩, [0]) := by
    decide +kernel
  have references : Staging.referencesIn sampleLink = ["q/D", "A"] := by decide +kernel
  have none : Staging.referencesIn [0] = [] := by decide +kernel
  change Staging.plan sampleRequest.lookup ["A", "B"] 3 ["p/C"] = _
  rw [Staging.plan, if_neg (by decide), one]
  simp [none, references, two, Staging.plan, sampleSteps, sampleOthers]

/-- The program is interpreted, and finds the files of the three classes. -/
theorem launch_stagedHost :
    (sampleEngine.launch stagedHost ⟨"/stage/A.class"⟩ ⟨"/stage"⟩ sampleRequest.options).1 =
      .ok "A\np/C\nq/D\n" := by
  have present : stagedHost.isFile sampleEngine.archive = true := by decide +kernel
  have started : (sampleEngine.launcher stagedHost (sampleEngine.command ⟨"/stage/A.class"⟩
      ⟨"/stage"⟩ sampleRequest.options)).map (·.1) =
        some ⟨true, "A\np/C\nq/D\n".toUTF8.toList, []⟩ := by
    decide +kernel
  have decoded : Utf8.decodeLossy "A\np/C\nq/D\n".toUTF8.toList = "A\np/C\nq/D\n" := by
    decide +kernel
  obtain ⟨⟨outcome, after⟩, ended, rfl⟩ := Option.map_eq_some_iff.mp started
  rw [launch, present, ended]
  exact congrArg Except.ok decoded

/-- The theorem on a class that is asked for by another name than it declares. It refers to one
class that refers to a further one, and both are staged before the program runs. -/
theorem stages_closure_sample :
    IsBreadthFirst sampleRequest.lookup ["A", "B"] ["p/C"] 3 sampleOthers ∧
      HoldsExactly stagedHost.tree ["stage"] ((⟨"A", by decide⟩, samplePrimary) :: sampleOthers) ∧
      (∀ item, IsReachable sampleRequest.lookup ["A", "B"] ["p/C"] item ↔ item ∈ sampleOthers) ∧
      (sampleEngine.decompileIn sampleRequest ⟨"/stage"⟩ samplePrimary stagingHost).1 =
        ⟨["p/C", "q/D"], .ok "A\np/C\nq/D\n"⟩ := by
  have parsed : ClassFile.parse samplePrimary = .ok sampleSummary := by decide +kernel
  have closed : stagingHost.tree.IsClosed := by decide +kernel
  have leads : stagingHost.LeadsTo ⟨"/stage"⟩ ["stage"] :=
    ⟨by decide +kernel, by decide +kernel⟩
  have empty : ∀ rest, rest ≠ [] → stagingHost.tree.find? (["stage"] ++ rest) = none := by
    intro rest some
    obtain ⟨name, further, rfl⟩ := List.exists_cons_of_ne_nil some
    rfl
  have first : (Staging.write ⟨"/stage"⟩ (stagedName sampleRequest.name sampleSummary)
      samplePrimary).run stagingHost = (.ok ⟨"/stage/A.class"⟩, writtenHost) :=
    Effect.run_eq (by decide +kernel) (by rw [writtenHost])
  have others : (Staging.writeAll ⟨"/stage"⟩
      (sampleEngine.planFor sampleRequest sampleSummary)).run writtenHost =
        (.ok (), stagedHost) := by
    rw [planFor_sampleRequest]
    exact Effect.run_eq (by decide +kernel) (by rw [stagedHost])
  have breadthFirst := sampleEngine.isBreadthFirst_planFor sampleRequest sampleSummary
  rw [planFor_sampleRequest] at breadthFirst
  obtain ⟨⟨staged, -, only, holds, -, sound, complete⟩, -, -, ran⟩ := stages_closure sampleEngine
    sampleRequest ⟨"/stage"⟩ ⟨"/stage/A.class"⟩ ["stage"] samplePrimary sampleSummary stagingHost
    writtenHost stagedHost parsed closed leads empty first others
  obtain rfl := only _ breadthFirst
  refine ⟨breadthFirst, holds, fun item => ⟨complete (by decide) item, sound item⟩, ?_⟩
  rw [ran, planFor_sampleRequest, launch_stagedHost]
  rfl

end ExternalEngine

end DecompileServer

import DecompileServer.Proofs.Batch.Moves

/-!
# Steps of requests in any order

However requests go their steps, each step moves one workspace (`moves_step`), so that the workspaces
stay in order (`orderly_after`) as long as the names of new workspaces are of one size. They are with
less than a million entries and steps (`hasEvenNames_of_few`).
-/
namespace DecompileServer.Batch

open Disk (Location)
open Function (update)

variable {ι : Type} {batch : Batch ι} {host current : Host} {world : World ι}
  {i j : ι} {steps past : List ι}

section Stepping

variable [DecidableEq ι]

/-- The steps of requests, and one more. -/
theorem after_concat : batch.after host (steps ++ [i]) = batch.step (batch.after host steps) i := by
  rw [after, List.foldl_append]
  rfl

/-- A step of a request advances it. -/
theorem progress_step_self :
    (batch.step world i).progress i = (batch.advance i (world.progress i) world.host).1 :=
  Function.update_self _ _ _

/-- A step of a request leaves the progress of the others. -/
theorem progress_step_of_ne (different : j ≠ i) :
    (batch.step world i).progress j = world.progress j :=
  Function.update_of_ne different _ _

/-- A step of a request changes its workspace only. -/
theorem held_step : (batch.step world i).held =
    update world.held i (batch.advance i (world.progress i) world.host).1.workspace? := by
  funext j
  by_cases same : j = i
  · subst same
    rw [World.held, progress_step_self, Function.update_self]
  · rw [World.held, progress_step_of_ne same, Function.update_of_ne same, World.held]

/-- Nothing is done for a request that goes no step. -/
theorem progress_after_of_notMem (idle : i ∉ steps) :
    (batch.after host steps).progress i = .asked := by
  induction steps using List.reverseRecOn with
  | nil => rfl
  | append_singleton past j ih =>
    rw [List.mem_append, not_or, List.mem_singleton] at idle
    rw [after_concat, progress_step_of_ne idle.2, ih idle.1]

variable (closed : host.tree.IsClosed) (orderly : batch.Orderly host world.held world.host)
  (sized : world.held i = none →
    (batch.freshName world.host).utf8ByteSize = (batch.freshName host).utf8ByteSize)
include closed orderly sized

/-- A step of a request leaves the host, or it makes, uses or removes the workspace of the request.
-/
theorem moves_step : batch.Moves host world.held world.host i
    (batch.advance i (world.progress i) world.host).1.workspace? (batch.step world i).host :=
  advance_moves orderly closed rfl sized

/-- A step of a request keeps the workspaces in order. -/
theorem orderly_step :
    batch.Orderly host (batch.step world i).held (batch.step world i).host := by
  rw [held_step]
  exact orderly.moves closed (moves_step closed orderly sized)

end Stepping

/-- At the start there are no workspaces. -/
theorem orderly_start {ι : Type} {batch : Batch ι} (closed : host.tree.IsClosed) :
    batch.Orderly host (start host : World ι).held host := by
  have none : ∀ i name base, ¬batch.Owns host (start host : World ι).held i name base := by
    rintro i name base ⟨has, _⟩
    cases has
  refine ⟨closed, rfl, rfl, ?_, ?_, ?_, ?_⟩
  · intro i workspace has
    cases has
  · exact fun i name base owns => absurd owns (none i name base)
  · exact fun i j name base title place _ owns => absurd owns (none i name base)
  · classical
    refine Disk.Tree.away_eq_self ?_
    rintro entry _ ⟨i, name, base, owns, _⟩
    exact none i name base owns

section Together

variable [DecidableEq ι]

/-- Whether the names of workspaces stay of one size while steps are gone. Names that end in a fixed
number of characters always do, and those of the program are such names. The numbers at the end of
the names here take more characters only beyond a million entries (`hasEvenNames_of_few`). -/
def HasEvenNames (batch : Batch ι) (host : Host) (steps : List ι) : Prop :=
  ∀ past, past <+: steps →
    (batch.freshName (batch.after host past).host).utf8ByteSize =
      (batch.freshName host).utf8ByteSize

/-- They do at the front of the steps as well. -/
theorem HasEvenNames.of_prefix (even : batch.HasEvenNames host steps) (inside : past <+: steps) :
    batch.HasEvenNames host past :=
  fun front within => even front (within.trans inside)

variable (closed : host.tree.IsClosed) (even : batch.HasEvenNames host steps)
include closed even

/-- Whatever steps have been gone, the workspaces are in order. -/
theorem orderly_after : batch.Orderly host (batch.after host steps).held
    (batch.after host steps).host := by
  induction steps using List.reverseRecOn with
  | nil => exact orderly_start closed
  | append_singleton past i ih =>
    have earlier := even.of_prefix (List.prefix_append past [i])
    rw [after_concat]
    exact orderly_step closed (ih earlier) fun _ => even past (List.prefix_append _ _)

end Together

section Names

/-- The paths of workspaces tell their numbers. -/
theorem join_root_injective : Function.Injective fun count =>
    (batch.root host).join (Host.numberedName Workspace.beginning count) := by
  intro count other same
  have pieces := congrArg Path.pieces same
  simp only [pieces_join_root (isPlain_numberedName _), List.append_cancel_left_eq,
    List.cons.injEq, and_true] at pieces
  exact Host.numberedName_injective pieces

/-- A name in use is that of an entry from the start or that of a workspace. -/
theorem Orderly.cases_of_used {held : ι → Option Workspace} {name : String}
    (orderly : batch.Orderly host held current) (closed : host.tree.IsClosed)
    (used : current.isUnused (batch.root host) name = false) :
    ∃ directory, current.locate (batch.root host) = .ok directory ∧
      ((∃ entry ∈ host.tree.entries, directory ++ [name] <+: entry.1) ∨
        ∃ i, held i = some ⟨(batch.root host).join name⟩) := by
  classical
  obtain ⟨directory, led, entry, member, below⟩ := Host.exists_of_isUnused_false used
  refine ⟨directory, led, ?_⟩
  by_cases covered : batch.Covers host held entry.1
  · obtain ⟨i, title, base, owns, inside⟩ := covered
    obtain ⟨folder, rfl, names⟩ := owns.lodges.named
    have plain := owns.lodges.isPlain
    have there := names_of_sized plain plain rfl names
      (orderly.walk_eq closed (walk_root plain names).2)
    obtain rfl := Except.ok.inj (led.symm.trans (locate_root plain there))
    have same := (List.prefix_of_prefix_length_le below inside (by simp)).eq_of_length (by simp)
    obtain rfl := List.singleton_inj.mp (List.append_cancel_left same)
    exact .inr ⟨i, owns.has⟩
  · have kept : entry ∈ (current.tree.away (batch.Covers host held)).entries :=
      List.mem_filter.mpr ⟨member, by simpa using covered⟩
    rw [orderly.rest] at kept
    exact .inl ⟨entry, kept, below⟩

/-- There are no more names in use than entries from the start and requests with workspaces. -/
theorem Orderly.count_le {held : ι → Option Workspace} {users : List ι} {count : Nat}
    (orderly : batch.Orderly host held current) (closed : host.tree.IsClosed)
    (all : ∀ i workspace, held i = some workspace → i ∈ users)
    (used : ∀ fewer < count, current.isUnused (batch.root host)
      (Host.numberedName Workspace.beginning fewer) = false) :
    count ≤ host.tree.entries.length + users.length := by
  by_cases none : count = 0
  · omega
  · obtain ⟨directory, led, _⟩ := orderly.cases_of_used closed (used 0 (Nat.pos_of_ne_zero none))
    have injective : Function.Injective fun count =>
        some ((batch.root host).join (Host.numberedName Workspace.beginning count)) :=
      fun _ _ same => join_root_injective (Option.some.inj same)
    have inside : ∀ fewer < count,
        some ((batch.root host).join (Host.numberedName Workspace.beginning fewer)) ∈
          host.tree.entries.map (fun entry => entry.1[directory.length]?.map
            ((batch.root host).join ·)) ++ users.map fun i => (held i).map (·.path) := by
      intro fewer small
      obtain ⟨_, led', ⟨entry, member, below⟩ | ⟨i, has⟩⟩ :=
        orderly.cases_of_used closed (used fewer small)
      · obtain rfl := Except.ok.inj (led.symm.trans led')
        exact List.mem_append_left _
          (List.mem_map.mpr ⟨entry, member, by rw [Host.getElem?_of_prefix below]; rfl⟩)
      · exact List.mem_append_right _
          (List.mem_map.mpr ⟨i, all i _ has, by rw [has]; rfl⟩)
    have fewer := Host.count_le_of_mem injective inside
    rwa [List.length_append, List.length_map, List.length_map] at fewer

/-- The names of workspaces have six digits as long as there is less than a million of entries from
the start and requests with workspaces. -/
theorem Orderly.utf8ByteSize_freshName {held : ι → Option Workspace} {users : List ι}
    (orderly : batch.Orderly host held current) (closed : host.tree.IsClosed)
    (all : ∀ i workspace, held i = some workspace → i ∈ users)
    (few : host.tree.entries.length + users.length < 10 ^ 6) :
    (batch.freshName current).utf8ByteSize = Workspace.beginning.utf8ByteSize + 6 := by
  obtain ⟨count, named, used⟩ := current.exists_freshName (batch.root current) Workspace.beginning
  rw [root_eq orderly.workingDirectory orderly.environment] at used
  rw [freshName, named]
  exact Host.utf8ByteSize_numberedName
    (Nat.lt_of_le_of_lt (orderly.count_le closed all used) few)

end Names

/-- The names of workspaces stay of one size with less than a million entries and steps. -/
theorem hasEvenNames_of_few [DecidableEq ι] (closed : host.tree.IsClosed)
    (few : host.tree.entries.length + steps.length < 10 ^ 6) : batch.HasEvenNames host steps := by
  have first : (batch.freshName host).utf8ByteSize = Workspace.beginning.utf8ByteSize + 6 := by
    have orderly : batch.Orderly host (start host : World ι).held host := orderly_start closed
    have none : ∀ i workspace, (start host : World ι).held i = some workspace →
        i ∈ ([] : List ι) := by
      intro i workspace has
      cases has
    refine orderly.utf8ByteSize_freshName closed none ?_
    rw [List.length_nil]
    omega
  induction steps using List.reverseRecOn with
  | nil =>
    intro past inside
    rw [List.prefix_nil.mp inside]
    rfl
  | append_singleton past i ih =>
    rw [List.length_append] at few
    have even := ih (by omega)
    intro front inside
    obtain rfl | earlier := List.prefix_concat_iff.mp inside
    · have orderly := orderly_step closed (orderly_after closed even) (i := i)
        fun _ => even past (List.prefix_refl _)
      rw [← after_concat] at orderly
      have users : ∀ j workspace, (batch.after host (past ++ [i])).held j = some workspace →
          j ∈ past ++ [i] := by
        intro j workspace has
        by_contra idle
        rw [World.held, progress_after_of_notMem idle] at has
        cases has
      rw [first]
      exact orderly.utf8ByteSize_freshName closed users (by simpa using few)
    · exact even front earlier

end DecompileServer.Batch

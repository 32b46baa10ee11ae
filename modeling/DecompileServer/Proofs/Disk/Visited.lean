import DecompileServer.Proofs.Disk.Place

/-!
# What a path looks at

Going along a path looks at some locations, and a tree that stores the same there leads to the same
(`nodeAt_eq_of_visited`). A path that leads somewhere looks only at locations where something is
stored (`isSome_of_visited`).
-/
namespace DecompileServer

open Disk (Location Node Tree Fault)

namespace Disk.Tree

/-- The locations that going along the pieces of a path looks at, and the one that it leads to. -/
def visited (tree : Tree) (here : Location) : List String → List Location
  | [] => [here]
  | piece :: rest =>
    here :: match tree.step here piece with
      | .ok next => tree.visited next rest
      | .error _ => [here ++ [piece]]

variable {tree other : Tree} {here there : Location} {piece : String} {pieces : List String}

/-- Going along a path begins with a look at where it starts. -/
theorem mem_visited : here ∈ tree.visited here pieces := by
  cases pieces <;> simp [visited]

/-- What a path leads to is looked at. -/
theorem mem_visited_of_walk (walked : tree.walk here pieces = .ok there) :
    there ∈ tree.visited here pieces := by
  induction pieces generalizing here with
  | nil =>
    obtain rfl := Except.ok.inj walked
    exact mem_visited
  | cons piece rest ih =>
    obtain ⟨next, stepped, further⟩ := walk_cons.mp walked
    rw [visited, stepped]
    exact List.mem_cons_of_mem _ (ih further)

/-- A step depends on what is stored where it starts and on what the piece names there. -/
theorem step_congr (start : other.find? here = tree.find? here)
    (named : other.find? (here ++ [piece]) = tree.find? (here ++ [piece])) :
    other.step here piece = tree.step here piece := by
  rw [step, start, named, step]

/-- A step that succeeds depends on what is stored where it starts and where it leads. -/
theorem step_eq_ok_congr (stepped : tree.step here piece = .ok there)
    (start : other.find? here = tree.find? here) (led : other.find? there = tree.find? there) :
    other.step here piece = .ok there := by
  obtain ⟨standing, moves⟩ := step_eq_ok_iff.mp stepped
  refine step_eq_ok_iff.mpr ⟨start.trans standing, ?_⟩
  obtain dot | up | ⟨notDot, notUp, short, found, rfl⟩ := moves
  · exact .inl dot
  · exact .inr (.inl up)
  · exact .inr (.inr ⟨notDot, notUp, short, by rw [led]; exact found, rfl⟩)

/-- A path leads to the same in a tree that stores the same where it looks. -/
theorem walk_eq_of_visited
    (same : ∀ place ∈ tree.visited here pieces, other.find? place = tree.find? place) :
    other.walk here pieces = tree.walk here pieces := by
  induction pieces generalizing here with
  | nil => rfl
  | cons piece rest ih =>
    have start := same here mem_visited
    rw [walk, walk]
    cases stepped : tree.step here piece with
    | error fault =>
      rw [visited, stepped] at same
      have named := same (here ++ [piece]) (by simp)
      rw [step_congr start named, stepped]
    | ok next =>
      rw [visited, stepped] at same
      have further : ∀ place ∈ tree.visited next rest, other.find? place = tree.find? place :=
        fun place member => same place (List.mem_cons_of_mem _ member)
      rw [step_eq_ok_congr stepped start (further next mem_visited)]
      exact ih further

/-- A path that leads to something looks only at what is stored. -/
theorem isSome_of_visited (walked : tree.walk here pieces = .ok there)
    (stored : (tree.find? there).isSome = true) :
    ∀ place ∈ tree.visited here pieces, (tree.find? place).isSome = true := by
  induction pieces generalizing here with
  | nil =>
    obtain rfl := Except.ok.inj walked
    intro place member
    rwa [List.mem_singleton.mp member]
  | cons piece rest ih =>
    obtain ⟨next, stepped, further⟩ := walk_cons.mp walked
    intro place member
    rw [visited, stepped] at member
    obtain rfl | later := List.mem_cons.mp member
    · rw [(step_eq_ok_iff.mp stepped).1]
      rfl
    · exact ih further place later

end Disk.Tree

namespace Host

/-- The locations that a path looks at. -/
def visited (host : Host) (path : Path) : List Location :=
  match path.acceptedPieces with
  | .ok pieces =>
    host.tree.visited (host.start path) (pieces ++ if path.endsInSlash then ["."] else [])
  | .error _ => []

variable {host other : Host} {path : Path}

/-- A path leads to the same in a host that stores the same where it looks. -/
theorem nodeAt_eq_of_visited (working : other.workingDirectory = host.workingDirectory)
    (same : ∀ place ∈ host.visited path, other.tree.find? place = host.tree.find? place) :
    other.nodeAt path = host.nodeAt path := by
  have start : other.start path = host.start path := by rw [Host.start, working, Host.start]
  unfold visited at same
  unfold nodeAt locate
  rw [start]
  cases accepted : path.acceptedPieces with
  | error fault => rfl
  | ok pieces =>
    rw [accepted] at same
    simp only [bind, Except.bind, Tree.walk_eq_of_visited same]
    cases walked : host.tree.walk (host.start path)
        (pieces ++ if path.endsInSlash then ["."] else []) with
    | error fault => rfl
    | ok location => simp only [same location (Tree.mem_visited_of_walk walked)]

/-- A path that leads to something looks only at what is stored. -/
theorem isSome_of_visited {node : Node} (stored : host.nodeAt path = .ok node) :
    ∀ place ∈ host.visited path, (host.tree.find? place).isSome = true := by
  unfold visited
  unfold nodeAt locate at stored
  cases accepted : path.acceptedPieces with
  | error fault => simp
  | ok pieces =>
    rw [accepted] at stored
    simp only [bind, Except.bind] at stored
    cases walked : host.tree.walk (host.start path)
        (pieces ++ if path.endsInSlash then ["."] else []) with
    | error fault =>
      rw [walked] at stored
      cases stored
    | ok location =>
      rw [walked] at stored
      refine Tree.isSome_of_visited walked ?_
      cases found : host.tree.find? location with
      | none =>
        simp only [found] at stored
        cases stored
      | some kept => rfl

end Host

end DecompileServer

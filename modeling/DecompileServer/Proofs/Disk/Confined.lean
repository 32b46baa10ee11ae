import DecompileServer.Disk.Temporary
import DecompileServer.Proofs.Disk.Below

/-!
# Effects below a fresh directory

A site is a place where nothing is stored and a path leads to. Once a directory is made there, an
effect that only puts something strictly below it leaves everything outside of the site as it was
(`Site.tolerates`), however far it gets. Removing the site then gives back the host from before
(`Site.removeAll_eq`). A file that is written by names after a path changes nothing away from where
the path leads, whatever is stored there (`confined_write`).
-/
namespace DecompileServer.Host

open Disk (Location Node Tree Fault)

/-- A place in a directory where nothing is stored, and the path to it. -/
structure Site (origin : Host) (path : Path) (base : Location) : Prop where
  /-- Every entry lies in a directory. -/
  closed : origin.tree.IsClosed
  /-- The path starts at the root. -/
  absolute : path.isAbsolute = true
  /-- The path does not end in a slash. -/
  opened : path.endsInSlash = false
  /-- The path names the place. -/
  named : ∃ directory name, base = directory ++ [name] ∧ origin.Names path directory name
  /-- Nothing is stored there. -/
  free : origin.tree.find? base = none

/-- A host that differs from another one at and below a location only, where a directory stands. -/
structure Confined (origin : Host) (base : Location) (host : Host) : Prop where
  /-- Every entry lies in a directory. -/
  closed : host.tree.IsClosed
  /-- The trees agree outside. -/
  outside : host.tree.remove base = origin.tree
  /-- The working directory is the same. -/
  workingDirectory : host.workingDirectory = origin.workingDirectory
  /-- The environment is the same. -/
  environment : host.environment = origin.environment

/-- A confined host in which the directory stands. -/
structure Furnished (origin : Host) (base : Location) (host : Host) : Prop
    extends Confined origin base host where
  /-- The directory stands. -/
  standing : host.tree.find? base = some .directory

variable {origin host after : Host} {path target : Path} {base : Location}

theorem start_of_isAbsolute (absolute : path.isAbsolute = true) : host.start path = [] := by
  rw [start, if_pos absolute]

namespace Site

variable (site : Site origin path base)
include site

/-- Nothing is stored at or below a site. -/
theorem remove_origin : origin.tree.remove base = origin.tree :=
  site.closed.remove_eq_self site.free

/-- Nothing is stored below a site. -/
theorem free_below {place : Location} (inside : base <+: place) :
    origin.tree.find? place = none :=
  site.closed.free_below site.free inside

/-- A directory that has just been made on a site. -/
theorem furnished_put :
    Furnished origin base { origin with tree := origin.tree.put base .directory } := by
  obtain ⟨directory, name, rfl, names⟩ := site.named
  refine ⟨⟨site.closed.put names.stands.2 fun _ => rfl, ?_, rfl, rfl⟩, ?_⟩
  · rw [Tree.remove_put (List.prefix_refl _)]
    exact site.remove_origin
  · rw [Tree.find?_put (by simp), if_pos rfl]

/-- What a host outside of the site has, a confined one has. -/
theorem find?_eq (confined : Confined origin base host) {place : Location}
    (stored : (origin.tree.find? place).isSome = true) :
    host.tree.find? place = origin.tree.find? place := by
  refine Tree.find?_eq_of_remove_eq (confined.outside.trans site.remove_origin.symm) ?_
  intro inside
  rw [site.free_below inside] at stored
  cases stored

/-- Paths lead where they led before. -/
theorem walk_eq (confined : Confined origin base host) {here there : Location}
    {pieces : List String} (walked : origin.tree.walk here pieces = .ok there) :
    host.tree.walk here pieces = .ok there := by
  refine Tree.walk_mono ?_ ?_ walked
  · intro place found
    rw [site.find?_eq confined (by rw [found]; rfl), found]
  · intro place stored
    rwa [site.find?_eq confined stored]

/-- What a path leads to is there in every confined host. -/
theorem nodeAt_eq (confined : Confined origin base host) {elsewhere : Path} {node : Node}
    (stored : origin.nodeAt elsewhere = .ok node) : host.nodeAt elsewhere = .ok node := by
  have start : host.start elsewhere = origin.start elsewhere := by
    rw [Host.start, Host.start, confined.workingDirectory]
  unfold nodeAt at stored ⊢
  obtain ⟨location, led, found⟩ := Effect.except_bind_eq_ok.mp stored
  have same : host.locate elsewhere = .ok location := by
    unfold locate at led ⊢
    obtain ⟨pieces, accepted, walked⟩ := Effect.except_bind_eq_ok.mp led
    refine Effect.except_bind_eq_ok.mpr ⟨pieces, accepted, ?_⟩
    rw [start]
    exact site.walk_eq confined walked
  refine Effect.except_bind_eq_ok.mpr ⟨location, same, ?_⟩
  cases known : origin.tree.find? location with
  | none =>
    rw [known] at found
    cases found
  | some kept =>
    rw [site.find?_eq confined (by rw [known]; rfl)]
    exact found

/-- The path of a site names it in every confined host. -/
theorem named_of_confined (confined : Confined origin base host) :
    ∃ directory name, base = directory ++ [name] ∧ host.Names path directory name := by
  obtain ⟨directory, name, same, names⟩ := site.named
  have start : host.start path = origin.start path := by
    rw [start_of_isAbsolute site.absolute, start_of_isAbsolute site.absolute]
  exact ⟨directory, name, same, names.of_walked start (site.walk_eq confined names.walked)⟩

/-- Removing a site from a confined host gives back the host from before. -/
theorem removeAll_eq (confined : Confined origin base host) : host.removeAll path = origin := by
  have whole : ∀ tree, tree = origin.tree → { host with tree } = origin := by
    rintro _ rfl
    cases origin
    cases host
    obtain ⟨_, _, rfl, rfl⟩ := confined
    rfl
  unfold removeAll
  by_cases stored : (host.tree.find? base).isSome = true
  · obtain ⟨directory, name, rfl, names⟩ := site.named_of_confined confined
    rw [names.locate_eq site.opened stored]
    exact whole _ confined.outside
  · have free : host.tree.find? base = none := Option.not_isSome_iff_eq_none.mp stored
    have same := confined.closed.remove_eq_self free
    rw [confined.outside] at same
    cases led : host.locate path with
    | error fault => exact whole _ same.symm
    | ok location =>
      obtain ⟨directory, name, rfl, names⟩ := site.named_of_confined confined
      exact absurd (names.find?_isSome_of_locate site.opened led) stored

end Site

namespace Site

variable (site : Site origin path base)
include site

/-- The path leads to the directory that has been made on the site. -/
theorem leadsTo (furnished : Furnished origin base host) : host.LeadsTo path base := by
  refine ⟨?_, furnished.standing⟩
  obtain ⟨directory, name, rfl, names⟩ := site.named_of_confined furnished.toConfined
  obtain ⟨above, whole, walked⟩ := names.steps_eq
  rw [whole]
  exact Tree.walk_concat.mpr ⟨directory, walked, names.step_eq (by rw [furnished.standing]; rfl)⟩

/-- The path leads to the site. -/
theorem locate_eq (furnished : Furnished origin base host) : host.locate path = .ok base := by
  obtain ⟨directory, name, rfl, names⟩ := site.named_of_confined furnished.toConfined
  exact names.locate_eq site.opened (by rw [furnished.standing]; rfl)

/-- A furnished host stays furnished when something is put strictly below the site. -/
theorem tolerates : Tolerates path base (Furnished origin base) where
  leads _ := site.leadsTo
  put host directory name node furnished stands vacant below := {
    closed := furnished.closed.put stands fun found => absurd found vacant
    outside := by
      rw [Tree.remove_put below.1]
      exact furnished.outside
    workingDirectory := furnished.workingDirectory
    environment := furnished.environment
    standing := by
      rw [Tree.find?_put (by simp), if_neg (Ne.symm below.2)]
      exact furnished.standing }

end Site

/-- Writing a file by names that follow a path changes nothing away from where that path leads. -/
theorem confined_write {root : Path} {further : String} {content : List UInt8}
    (closed : host.tree.IsClosed) (led : host.locate root = .ok base)
    (relative : (Path.mk further).isAbsolute = false) (some : (Path.mk further).steps ≠ [])
    (each : ∀ step ∈ (Path.mk further).steps, step ≠ "." ∧ step ≠ "..")
    (written : host.write (root.join further) content = .ok after) :
    Confined { host with tree := host.tree.remove base } base after := by
  obtain ⟨_, directory, name, executable, names, vacant, rfl⟩ := write_eq_ok written
  have start : (root.join further).isAbsolute = root.isAbsolute :=
    Path.isAbsolute_join_of_relative relative
  have whole : (root.join further).steps = root.steps ++ (Path.mk further).steps :=
    Path.steps_join relative
  have leads := LeadsTo.of_names led start whole some names
  have place := leads.place_eq start whole some each names
  refine ⟨closed.put names.stands.2 fun found => absurd found vacant, ?_, rfl, rfl⟩
  rw [place]
  exact Tree.remove_put (List.prefix_append base _)

end DecompileServer.Host

import DecompileServer.Proofs.Batch.Steps
import DecompileServer.Proofs.Disk.Twin
import DecompileServer.Proofs.Disk.Visited
import DecompileServer.Proofs.Workspace

/-!
# Workspaces side by side

The workspaces of requests that are in flight together stand beside one another in one directory,
each under a name of its own, and away from them the host is the one that they started from
(`Orderly`). Making a workspace, using it and removing it keep that. The name of a new workspace is
not in use, so no workspace is made in the place of another one.
-/
namespace DecompileServer.Batch

open Disk (Location Node Tree)
open Host (Site Furnished)
open DecompileServer.Path (Gap IsPlain)

variable {ι : Type} {batch : Batch ι} {host current after : Host} {held : ι → Option Workspace}
  {i j : ι} {name title : String} {base place : Location}

/-- The directory for workspaces, from the root directory on. -/
def root (batch : Batch ι) (host : Host) : Path :=
  host.absolutePath (batch.settings.workspaceRoot.getD host.temporaryPath)

/-- The name of the next workspace. -/
def freshName (batch : Batch ι) (host : Host) : String :=
  host.freshName (batch.root host) Workspace.beginning

/-- Whether a workspace of the given name can be made at a location: the name is one for workspaces
and as long as they are, and nothing is stored there. -/
structure Lodges (batch : Batch ι) (host : Host) (name : String) (base : Location) : Prop where
  /-- The name has a number. -/
  numbered : ∃ count, name = Host.numberedName Workspace.beginning count
  /-- The name is as long as that of the next workspace. -/
  sized : name.utf8ByteSize = (batch.freshName host).utf8ByteSize
  /-- The path of the workspace names the location. -/
  named : ∃ directory, base = directory ++ [name] ∧
    host.Names ((batch.root host).join name) directory name
  /-- Nothing is stored there. -/
  free : host.tree.find? base = none

/-- A request has a workspace of the given name at a location. -/
structure Owns (batch : Batch ι) (host : Host) (held : ι → Option Workspace) (i : ι) (name : String)
    (base : Location) : Prop where
  /-- It has the workspace. -/
  has : held i = some ⟨(batch.root host).join name⟩
  /-- The workspace stands at the location. -/
  lodges : batch.Lodges host name base

/-- Whether a location lies in the workspace of a request. -/
def Covers (batch : Batch ι) (host : Host) (held : ι → Option Workspace) (location : Location) :
    Prop :=
  ∃ i name base, batch.Owns host held i name base ∧ base <+: location

open scoped Classical in
/-- The workspaces of requests stand beside one another, and everything else is as on the host that
they started from. -/
structure Orderly (batch : Batch ι) (host : Host) (held : ι → Option Workspace) (current : Host) :
    Prop where
  /-- Every entry lies in a directory. -/
  closed : current.tree.IsClosed
  /-- The working directory is the same. -/
  workingDirectory : current.workingDirectory = host.workingDirectory
  /-- The environment is the same. -/
  environment : current.environment = host.environment
  /-- Each workspace has a place of its own. -/
  owned : ∀ i workspace, held i = some workspace → ∃ name base, batch.Owns host held i name base
  /-- Each workspace stands there. -/
  standing : ∀ i name base, batch.Owns host held i name base →
    current.tree.find? base = some .directory
  /-- No workspace lies in another one. -/
  apart : ∀ i j name base title place, i ≠ j → batch.Owns host held i name base →
    batch.Owns host held j title place → ¬base <+: place
  /-- Away from the workspaces everything is the same. -/
  rest : current.tree.away (batch.Covers host held) = host.tree

/-- The directory for workspaces depends on the working directory and the environment only. -/
theorem root_eq (working : current.workingDirectory = host.workingDirectory)
    (environment : current.environment = host.environment) :
    batch.root current = batch.root host := by
  have temporary : current.temporaryPath = host.temporaryPath := by
    rw [Host.temporaryPath, Host.valueOf?, environment, Host.temporaryPath, Host.valueOf?]
  have path : current.workingPath = host.workingPath := by
    rw [Host.workingPath, working, Host.workingPath]
  rw [root, root, temporary, Host.absolutePath, path, Host.absolutePath]

theorem isAbsolute_root (batch : Batch ι) (host : Host) : (batch.root host).isAbsolute = true :=
  Host.isAbsolute_absolutePath

/-- A numbered name is the name of a directory. -/
theorem isPlain_numberedName (count : Nat) :
    IsPlain (Host.numberedName Workspace.beginning count) := by
  have characters : ∀ character ∈ (Host.numberedName Workspace.beginning count).toList,
      character ∈ Workspace.beginning.toList ∨ character.isDigit = true := by
    intro character member
    simp only [Host.numberedName, String.toList_append, String.toList_ofList, List.mem_append] at member
    obtain inside | padding | digit := member
    · exact .inl inside
    · rw [List.eq_of_mem_replicate padding]
      exact .inr (by decide)
    · exact .inr (Nat.isDigit_of_mem_toDigits (by decide) (by decide) digit)
  have begins : Workspace.beginning.toList <+:
      (Host.numberedName Workspace.beginning count).toList := by
    simp [Host.numberedName]
  refine ⟨?_, fun slash => ?_, fun nul => ?_, ?_, ?_⟩
  · intro none
    rw [none] at begins
    exact absurd begins (by decide)
  · obtain inside | digit := characters _ slash
    · exact absurd inside (by decide)
    · exact absurd digit (by decide)
  · obtain inside | digit := characters _ nul
    · exact absurd inside (by decide)
    · exact absurd digit (by decide)
  · intro dot
    rw [dot] at begins
    exact absurd begins (by decide)
  · intro up
    rw [up] at begins
    exact absurd begins (by decide)

/-- The pieces of the path of a workspace are those of the directory and the name. -/
theorem pieces_join_root (plain : IsPlain name) :
    ((batch.root host).join name).pieces = (batch.root host).pieces ++ [name] := by
  have start : name.toList.head? ≠ some '/' := fun slash =>
    plain.slash (List.mem_of_head? slash)
  have single : (Path.mk name).pieces = [name] := by
    simp [Path.pieces, Text.splitAt_of_notMem plain.slash, plain.some]
  rw [Path.pieces_join (by simpa [Path.isAbsolute] using start), single]

/-- Where the directory for workspaces is found. -/
theorem walk_root (plain : IsPlain name) {directory : Location} {last : String}
    (names : current.Names ((batch.root host).join name) directory last) :
    last = name ∧ current.tree.walk [] ((batch.root host).pieces ++ ["."]) = .ok directory := by
  have walked := names.walked
  have final := names.last
  rw [pieces_join_root plain, List.getLast?_concat] at final
  rw [pieces_join_root plain, List.dropLast_concat,
    Host.start_of_isAbsolute (Path.isAbsolute_join (isAbsolute_root batch host))] at walked
  exact ⟨(Option.some.inj final).symm, walked⟩

/-- The path of a workspace names a place if that of another one with a name of the same size does,
and the directory is found. -/
theorem names_of_sized (plain : IsPlain name) (other : IsPlain title)
    (sized : title.utf8ByteSize = name.utf8ByteSize) {directory folder : Location}
    (names : host.Names ((batch.root host).join name) directory name)
    (walked : current.tree.walk [] ((batch.root host).pieces ++ ["."]) = .ok folder) :
    current.Names ((batch.root host).join title) folder title := by
  have fits := Gap.fits_below (isAbsolute_root batch host)
  refine ⟨?_, ?_, other.notHere, other.notUp, ?_, ?_⟩
  · have accepted := names.accepted
    rw [← Gap.fill_below (isAbsolute_root batch host) plain] at accepted
    rw [← Gap.fill_below (isAbsolute_root batch host) other]
    obtain ⟨_, accepts⟩ | ⟨fault, _, refused, _⟩ := Gap.accepts_fill fits plain other sized
    · exact accepts
    · rw [accepted] at refused
      cases refused
  · rw [pieces_join_root other, List.getLast?_concat]
  · rw [sized]
    exact names.short
  · rw [pieces_join_root other, List.dropLast_concat,
      Host.start_of_isAbsolute (Path.isAbsolute_join (isAbsolute_root batch host))]
    exact walked

namespace Lodges

/-- The name is that of a directory. -/
theorem isPlain (lodges : batch.Lodges host name base) : IsPlain name := by
  obtain ⟨count, rfl⟩ := lodges.numbered
  exact isPlain_numberedName count

/-- The location lies in the directory for workspaces. -/
theorem base_eq (lodges : batch.Lodges host name base) : ∃ directory,
    host.tree.walk [] ((batch.root host).pieces ++ ["."]) = .ok directory ∧
      base = directory ++ [name] := by
  obtain ⟨directory, same, names⟩ := lodges.named
  exact ⟨directory, (walk_root lodges.isPlain names).2, same⟩

/-- A workspace does not stand at the top. -/
theorem ne_nil (lodges : batch.Lodges host name base) : base ≠ [] := by
  obtain ⟨directory, _, same⟩ := lodges.base_eq
  simp [same]

/-- Two workspaces have one name if one lies in the other. -/
theorem eq_of_prefix (lodges : batch.Lodges host name base) (other : batch.Lodges host title place)
    (inside : base <+: place) : base = place := by
  obtain ⟨directory, walked, rfl⟩ := lodges.base_eq
  obtain ⟨folder, walked', rfl⟩ := other.base_eq
  obtain rfl := Except.ok.inj (walked.symm.trans walked')
  exact inside.eq_of_length (by simp)

/-- The path of a workspace tells where it stands. -/
theorem unique (lodges : batch.Lodges host name base) (other : batch.Lodges host title place)
    (same : (batch.root host).join name = (batch.root host).join title) :
    name = title ∧ base = place := by
  obtain ⟨directory, rfl, names⟩ := lodges.named
  obtain ⟨folder, rfl, titles⟩ := other.named
  rw [← same] at titles
  obtain ⟨rfl, rfl⟩ := names.unique titles
  exact ⟨rfl, rfl⟩

/-- Nothing is stored at or below the location. -/
theorem free_below (lodges : batch.Lodges host name base) (closed : host.tree.IsClosed)
    {location : Location} (inside : base <+: location) : host.tree.find? location = none :=
  closed.free_below lodges.free inside

end Lodges

namespace Owns

/-- A request has one workspace. -/
theorem unique (owns : batch.Owns host held i name base) (other : batch.Owns host held i title place) :
    name = title ∧ base = place := by
  have same := Option.some.inj (owns.has.symm.trans other.has)
  exact owns.lodges.unique other.lodges (Workspace.mk.inj same)

end Owns

namespace Orderly

variable (orderly : batch.Orderly host held current) (closed : host.tree.IsClosed)
include orderly

/-- What lies outside of the workspaces is what was there at the start. -/
theorem find?_eq_of_outside {location : Location} (outside : ¬batch.Covers host held location) :
    current.tree.find? location = host.tree.find? location := by
  classical
  rw [← orderly.rest, Tree.find?_away outside]

/-- Nothing in the workspace of a request lies in that of another one. -/
theorem apart_below (owns : batch.Owns host held i name base)
    (other : batch.Owns host held j title place) (different : j ≠ i) {location : Location}
    (inside : place <+: location) : ¬base <+: location := by
  intro within
  have apart := orderly.apart i j name base title place different.symm owns other
  obtain shorter | longer := List.prefix_or_prefix_of_prefix within inside
  · exact apart shorter
  · rw [other.lodges.eq_of_prefix owns.lodges longer] at apart
    exact apart (List.prefix_refl _)

include closed

/-- What was there at the start is there. -/
theorem find?_eq {location : Location} (stored : (host.tree.find? location).isSome = true) :
    current.tree.find? location = host.tree.find? location := by
  refine orderly.find?_eq_of_outside ?_
  rintro ⟨i, name, base, owns, inside⟩
  rw [owns.lodges.free_below closed inside] at stored
  cases stored

/-- Paths lead where they led at the start. -/
theorem walk_eq {here there : Location} {pieces : List String}
    (walked : host.tree.walk here pieces = .ok there) : current.tree.walk here pieces = .ok there := by
  refine Tree.walk_mono ?_ ?_ walked
  · intro place found
    rw [orderly.find?_eq closed (by rw [found]; rfl), found]
  · intro place stored
    rwa [orderly.find?_eq closed stored]

/-- A workspace stands on a site, and nothing else has changed since before it was made. -/
theorem site (owns : batch.Owns host held i name base) :
    Site { current with tree := current.tree.remove base } ((batch.root host).join name) base ∧
      Furnished { current with tree := current.tree.remove base } base current := by
  obtain ⟨directory, same, names⟩ := owns.lodges.named
  have below : base ≠ [] := by simp [same]
  have kept : ∀ location, (host.tree.find? location).isSome = true →
      (current.tree.remove base).find? location = host.tree.find? location := by
    intro location stored
    rw [Tree.find?_remove, orderly.find?_eq closed stored]
    intro inside
    rw [owns.lodges.free_below closed inside] at stored
    cases stored
  have walked : (current.tree.remove base).walk [] ((batch.root host).pieces ++ ["."]) =
      .ok directory := by
    refine Tree.walk_mono ?_ ?_ (walk_root owns.lodges.isPlain names).2
    · intro place found
      rw [kept place (by rw [found]; rfl), found]
    · intro place stored
      rwa [kept place stored]
  obtain ⟨count, rfl⟩ := owns.lodges.numbered
  obtain ⟨digit, last, notSlash⟩ := Host.getLast?_numberedName Workspace.beginning count
  refine ⟨⟨orderly.closed.remove, Path.isAbsolute_join (isAbsolute_root batch host), ?_,
    ⟨directory, _, same, names_of_sized owns.lodges.isPlain owns.lodges.isPlain rfl names walked⟩,
    Tree.find?_remove_self below (List.prefix_refl _)⟩,
    ⟨orderly.closed, rfl, rfl, rfl⟩, orderly.standing i _ base owns⟩
  rw [Path.endsInSlash_join last]
  simpa using notSlash

end Orderly

end DecompileServer.Batch

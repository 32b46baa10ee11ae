import DecompileServer.Proofs.Batch.Workspaces

/-!
# What a step does to the workspaces

A step of a request leaves the host, or it makes, uses or removes the workspace of the request
(`Moves`, `advance_moves`). Each of these keeps the workspaces in order (`Orderly.moves`) and leaves
the workspaces of the other requests (`Moves.find?_eq`).
-/
namespace DecompileServer.Batch

open Disk (Location Tree)
open Host (Furnished Tolerates)
open DecompileServer.Path (Gap IsPlain)
open Function (update)

variable {ι : Type} {batch : Batch ι} {host current after : Host}
  {held : ι → Option Workspace} {i j : ι} {name title : String} {base place location : Location}
  {next : Option Workspace}

/-- What a step of a request does to the host, and the workspace that the request then has. -/
inductive Moves (batch : Batch ι) (host : Host) (held : ι → Option Workspace) (current : Host)
    (i : ι) : Option Workspace → Host → Prop where
  /-- Nothing is changed. -/
  | rests (next : Option Workspace) (has : held i = next) :
      Moves batch host held current i next current
  /-- A workspace is made. -/
  | makes (name : String) (base : Location) (lodges : batch.Lodges host name base)
      (without : held i = none) (free : current.tree.find? base = none) :
      Moves batch host held current i (some ⟨(batch.root host).join name⟩)
        { current with tree := current.tree.put base .directory }
  /-- The workspace is used. -/
  | uses (name : String) (base : Location) (after : Host) (owns : batch.Owns host held i name base)
      (furnished : Furnished { current with tree := current.tree.remove base } base after) :
      Moves batch host held current i (some ⟨(batch.root host).join name⟩) after
  /-- The workspace is removed. -/
  | leaves (name : String) (base : Location) (owns : batch.Owns host held i name base) :
      Moves batch host held current i none { current with tree := current.tree.remove base }

/-- Where nothing is stored no request has its workspace. -/
theorem Orderly.place_ne (orderly : batch.Orderly host held current)
    (other : batch.Owns host held j title place) (free : current.tree.find? base = none) :
    place ≠ base := by
  rintro rfl
  rw [orderly.standing j title place other] at free
  cases free

/-- A step of a request leaves what is stored in the workspace of another one. -/
theorem Moves.find?_eq (moves : batch.Moves host held current i next after)
    (orderly : batch.Orderly host held current) (other : batch.Owns host held j title place)
    (different : j ≠ i) (inside : place <+: location) :
    after.tree.find? location = current.tree.find? location := by
  cases moves with
  | rests next has => rfl
  | makes name base lodges without free =>
    rw [Tree.find?_put lodges.ne_nil, if_neg]
    rintro rfl
    exact orderly.place_ne other free (other.lodges.eq_of_prefix lodges inside)
  | uses name base after owns furnished =>
    exact Tree.find?_eq_of_remove_eq furnished.outside
      (orderly.apart_below owns other different inside)
  | leaves name base owns =>
    exact Tree.find?_remove (orderly.apart_below owns other different inside)

section Holding

variable [DecidableEq ι]

/-- What is held without that of one request is held by the others. -/
theorem update_none_eq_some {workspace : Workspace} :
    update held i none j = some workspace ↔ j ≠ i ∧ held j = some workspace := by
  by_cases same : j = i
  · subst same
    simp
  · simp [same]

/-- Without the workspace of one request, the others have theirs. -/
theorem owns_without :
    batch.Owns host (update held i none) j title place ↔
      j ≠ i ∧ batch.Owns host held j title place := by
  constructor
  · rintro ⟨has, lodges⟩
    obtain ⟨different, has⟩ := update_none_eq_some.mp has
    exact ⟨different, has, lodges⟩
  · rintro ⟨different, has, lodges⟩
    exact ⟨update_none_eq_some.mpr ⟨different, has⟩, lodges⟩

/-- A request has the workspace that it is given. -/
theorem owns_update_self (lodges : batch.Lodges host name base) :
    batch.Owns host (update held i (some ⟨(batch.root host).join name⟩)) i name base :=
  ⟨Function.update_self .., lodges⟩

/-- The other requests have what they had before. -/
theorem owns_update_of_ne (different : j ≠ i) :
    batch.Owns host (update held i next) j title place ↔ batch.Owns host held j title place :=
  ⟨fun ⟨has, lodges⟩ => ⟨by rwa [Function.update_of_ne different] at has, lodges⟩,
    fun ⟨has, lodges⟩ => ⟨by rwa [Function.update_of_ne different], lodges⟩⟩

/-- What the workspaces cover is what one of them covers and what the others do. -/
theorem Owns.covers_iff (owns : batch.Owns host held i name base) :
    batch.Covers host held location ↔
      base <+: location ∨ batch.Covers host (update held i none) location := by
  constructor
  · rintro ⟨j, title, place, other, inside⟩
    by_cases same : j = i
    · subst same
      rw [(owns.unique other).2]
      exact .inl inside
    · exact .inr ⟨j, title, place, owns_without.mpr ⟨same, other⟩, inside⟩
  · rintro (inside | ⟨j, title, place, other, inside⟩)
    · exact ⟨i, name, base, owns, inside⟩
    · exact ⟨j, title, place, (owns_without.mp other).2, inside⟩

namespace Orderly

variable (orderly : batch.Orderly host held current)
include orderly

/-- Removing a workspace keeps the others in order. -/
theorem leave (owns : batch.Owns host held i name base) :
    batch.Orderly host (update held i none)
      { current with tree := current.tree.remove base } where
  closed := orderly.closed.remove
  workingDirectory := orderly.workingDirectory
  environment := orderly.environment
  owned j workspace has := by
    obtain ⟨different, has⟩ := update_none_eq_some.mp has
    obtain ⟨title, place, other⟩ := orderly.owned j workspace has
    exact ⟨title, place, owns_without.mpr ⟨different, other⟩⟩
  standing j title place other := by
    obtain ⟨different, other⟩ := owns_without.mp other
    rw [Tree.find?_remove (orderly.apart_below owns other different (List.prefix_refl _))]
    exact orderly.standing j title place other
  apart j k title place name base different other owns :=
    orderly.apart j k title place name base different (owns_without.mp other).2
      (owns_without.mp owns).2
  rest := by
    classical
    rw [Tree.away_remove fun _ => owns.covers_iff]
    exact orderly.rest

/-- Using a workspace keeps the workspaces in order. -/
theorem use (owns : batch.Owns host held i name base)
    (furnished : Furnished { current with tree := current.tree.remove base } base after) :
    batch.Orderly host held after where
  closed := furnished.closed
  workingDirectory := furnished.workingDirectory.trans orderly.workingDirectory
  environment := furnished.environment.trans orderly.environment
  owned := orderly.owned
  standing j title place other := by
    by_cases same : j = i
    · subst same
      rw [← (owns.unique other).2]
      exact furnished.standing
    · have outside := orderly.apart_below owns other same (List.prefix_refl _)
      rw [Tree.find?_eq_of_remove_eq furnished.outside outside]
      exact orderly.standing j title place other
  apart := orderly.apart
  rest := by
    classical
    have left := (orderly.leave owns).rest
    rw [← furnished.outside, Tree.away_remove fun _ => owns.covers_iff] at left
    exact left

/-- Making a workspace keeps the workspaces in order. -/
theorem make (closed : host.tree.IsClosed) (lodges : batch.Lodges host name base)
    (without : held i = none) (free : current.tree.find? base = none) :
    batch.Orderly host (update held i (some ⟨(batch.root host).join name⟩))
      { current with tree := current.tree.put base .directory } where
  closed := by
    obtain ⟨directory, walked, same⟩ := lodges.base_eq
    rw [same]
    exact orderly.closed.put (Tree.walk_concat_here.mp (orderly.walk_eq closed walked)).2 fun _ => rfl
  workingDirectory := orderly.workingDirectory
  environment := orderly.environment
  owned j workspace has := by
    by_cases new : j = i
    · subst new
      rw [Function.update_self] at has
      obtain rfl := Option.some.inj has
      exact ⟨name, base, owns_update_self lodges⟩
    · rw [Function.update_of_ne new] at has
      obtain ⟨title, place, other⟩ := orderly.owned j workspace has
      exact ⟨title, place, (owns_update_of_ne new).mpr other⟩
  standing j title place other := by
    rw [Tree.find?_put lodges.ne_nil]
    by_cases new : j = i
    · subst new
      rw [if_pos ((owns_update_self lodges).unique other).2.symm]
    · have before := (owns_update_of_ne new).mp other
      rw [if_neg (orderly.place_ne before free)]
      exact orderly.standing j title place before
  apart j k title place name' base' different other owner inside := by
    have equal := other.lodges.eq_of_prefix owner.lodges inside
    by_cases first : j = i
    · subst first
      rw [← ((owns_update_self lodges).unique other).2] at equal
      exact orderly.place_ne ((owns_update_of_ne different.symm).mp owner) free equal.symm
    · have before := (owns_update_of_ne first).mp other
      by_cases second : k = i
      · subst second
        rw [← ((owns_update_self lodges).unique owner).2] at equal
        exact orderly.place_ne before free equal
      · exact orderly.apart j k title place name' base' different before
          ((owns_update_of_ne second).mp owner) inside
  rest := by
    classical
    -- Without the new workspace, the requests have what they had before.
    have before : update (update held i (some ⟨(batch.root host).join name⟩)) i none = held := by
      rw [Function.update_idem, ← without, Function.update_eq_self]
    have split : ∀ location,
        batch.Covers host (update held i (some ⟨(batch.root host).join name⟩)) location ↔
          base <+: location ∨ batch.Covers host held location := by
      intro location
      rw [(owns_update_self lodges).covers_iff, before]
    rw [← Tree.away_remove split, Tree.remove_put (List.prefix_refl _),
      orderly.closed.remove_eq_self free]
    exact orderly.rest

/-- A step keeps the workspaces in order. -/
theorem moves (closed : host.tree.IsClosed)
    (moves : batch.Moves host held current i next after) :
    batch.Orderly host (update held i next) after := by
  cases moves with
  | rests next has => rwa [← has, Function.update_eq_self]
  | makes name base lodges without free => exact orderly.make closed lodges without free
  | uses name base after owns furnished =>
    rw [← owns.has, Function.update_eq_self]
    exact orderly.use owns furnished
  | leaves name base owns => exact orderly.leave owns

end Orderly

end Holding

section Making

/-- A workspace is made at its path, or the host is left and the fault told. -/
theorem run_create (archive : Path) :
    (Workspace.create batch.settings.workspaceRoot archive).run current =
      match current.makeDirectory ((batch.root current).join (batch.freshName current)) with
      | .ok after => (.ok ⟨(batch.root current).join (batch.freshName current)⟩, after)
      | .error fault =>
        (.error (.extraction archive
          (.workspace fault ((batch.root current).join (batch.freshName current)))), current) := by
  have made : (Host.makeTemporary (batch.settings.workspaceRoot.getD current.temporaryPath)
      Workspace.beginning).run current =
        match current.makeDirectory ((batch.root current).join (batch.freshName current)) with
        | .ok after => (.ok ((batch.root current).join (batch.freshName current)), after)
        | .error fault =>
          (.error (fault, (batch.root current).join (batch.freshName current)), current) :=
    Host.run_makeTemporary
  unfold Workspace.create
  rw [Effect.run_bind_of_ok Effect.run_get]
  cases tried : current.makeDirectory ((batch.root current).join (batch.freshName current)) with
  | ok after =>
    rw [tried] at made
    rw [Effect.run_bind_of_ok (Effect.run_adapt_eq_ok.mpr made)]
    rfl
  | error fault =>
    rw [tried] at made
    exact Effect.run_bind_of_error (by rw [Effect.run_adapt, made]; rfl)

/-- The name of a new workspace is that of a directory. -/
theorem isPlain_freshName (batch : Batch ι) (host : Host) : IsPlain (batch.freshName host) := by
  obtain ⟨count, same, _⟩ := host.exists_freshName (batch.root host) Workspace.beginning
  rw [freshName, same]
  exact isPlain_numberedName count

/-- The directory for workspaces is found where a workspace is named. -/
theorem locate_root {directory : Location} (plain : IsPlain name)
    (names : current.Names ((batch.root host).join name) directory name) :
    current.locate (batch.root host) = .ok directory := by
  have walked := (walk_root plain names).2
  have accepted := names.accepted
  have filled : (batch.root host).text ≠ "" := by
    intro none
    have absolute := isAbsolute_root batch host
    simp [Path.isAbsolute, none] at absolute
  have accepts : (batch.root host).acceptedPieces = .ok (batch.root host).pieces := by
    rw [← Gap.fill_below (isAbsolute_root batch host) plain] at accepted
    obtain ⟨nul, _, short⟩ := Host.acceptedPieces_eq_ok_iff.mp accepted
    refine Host.acceptedPieces_eq_ok_iff.mpr ⟨fun inside => nul ?_, filled, ?_⟩
    · simp only [Gap.fill, Gap.below, Gap.into]
      split <;> simp [inside]
    · simp only [Gap.fill, Gap.below, Gap.into] at short
      split at short <;> simp only [String.utf8ByteSize_append] at short <;> omega
  unfold Host.locate
  rw [accepts, Host.start_of_isAbsolute (isAbsolute_root batch host)]
  simp only [bind, Except.bind]
  split
  · exact walked
  · rw [List.append_nil]
    exact (Tree.walk_concat_here.mp walked).1

/-- Whether a workspace can be made on a host: its path names a place. -/
def HasRoom (batch : Batch ι) (host : Host) : Prop :=
  ∃ directory,
    host.Names ((batch.root host).join (batch.freshName host)) directory (batch.freshName host)

/-- Where there is no room, no workspace is made. -/
theorem run_create_of_full (full : ¬batch.HasRoom host) (archive : Path) :
    ∃ failure, (Workspace.create batch.settings.workspaceRoot archive).run host =
      (.error failure, host) := by
  rw [run_create]
  cases made : host.makeDirectory ((batch.root host).join (batch.freshName host)) with
  | error fault => exact ⟨_, rfl⟩
  | ok after =>
    obtain ⟨directory, name, names, _⟩ := Host.makeDirectory_eq_ok made
    obtain ⟨rfl, _⟩ := walk_root (isPlain_freshName batch host) names
    exact absurd ⟨directory, names⟩ full

namespace Orderly

variable (orderly : batch.Orderly host held current)
include orderly

/-- Without workspaces, the host is the one from the start. -/
theorem eq_of_none (none : ∀ i, held i = none) : current = host := by
  classical
  have rest := orderly.rest
  have outside : ∀ location, ¬batch.Covers host held location := by
    rintro location ⟨i, name, base, owns, _⟩
    cases owns.has.symm.trans (none i)
  rw [Tree.away_eq_self fun _ _ => outside _] at rest
  have working := orderly.workingDirectory
  have environment := orderly.environment
  cases current
  cases host
  obtain rfl := rest
  obtain rfl := working
  obtain rfl := environment
  rfl

/-- Where there is no room, there are no workspaces. -/
theorem eq_of_full (full : ¬batch.HasRoom host) : current = host := by
  refine orderly.eq_of_none fun i => ?_
  by_contra some
  obtain ⟨workspace, has⟩ := Option.ne_none_iff_exists'.mp some
  obtain ⟨name, base, owns⟩ := orderly.owned i workspace has
  obtain ⟨directory, _, names⟩ := owns.lodges.named
  have plain := owns.lodges.isPlain
  exact full ⟨directory, names_of_sized plain (isPlain_freshName batch host)
    owns.lodges.sized.symm names (walk_root plain names).2⟩

/-- Where there is room, a workspace is made at a place at which nothing is stored. -/
theorem exists_create (closed : host.tree.IsClosed) (room : batch.HasRoom host)
    (sized : (batch.freshName current).utf8ByteSize = (batch.freshName host).utf8ByteSize)
    (archive : Path) :
    ∃ name base, batch.Lodges host name base ∧ current.tree.find? base = none ∧
      (Workspace.create batch.settings.workspaceRoot archive).run current =
        (.ok ⟨(batch.root host).join name⟩,
          { current with tree := current.tree.put base .directory }) := by
  obtain ⟨directory, names⟩ := room
  have same : batch.root current = batch.root host :=
    root_eq orderly.workingDirectory orderly.environment
  have walked := (walk_root (isPlain_freshName batch host) names).2
  have here := names_of_sized (isPlain_freshName batch host) (isPlain_freshName batch current)
    sized names walked
  have there := names_of_sized (isPlain_freshName batch host) (isPlain_freshName batch current)
    sized names (orderly.walk_eq closed walked)
  have free : current.tree.find? (directory ++ [batch.freshName current]) = none := by
    have unused : current.isUnused (batch.root host) (batch.freshName current) = true := by
      rw [← same]
      exact current.isUnused_freshName _ _
    rw [Host.isUnused, locate_root (isPlain_freshName batch current) there] at unused
    exact Tree.find?_of_isFree (by simp) unused
  refine ⟨batch.freshName current, directory ++ [batch.freshName current], ⟨?_, sized,
    ⟨directory, rfl, here⟩, ?_⟩, free, ?_⟩
  · obtain ⟨count, same, _⟩ := current.exists_freshName (batch.root current) Workspace.beginning
    exact ⟨count, same⟩
  · by_contra stored
    rw [orderly.find?_eq closed (Option.isSome_iff_ne_none.mpr stored)] at free
    exact stored free
  · rw [run_create, same, there.makeDirectory_eq free]

end Orderly

end Making

section Stepping

variable {wanted : String} {classes : List String} {workspace : Workspace}

/-- There is no workspace yet when the archive has been listed. -/
theorem workspace?_ofListing (listing : Except Failure (String × List String)) :
    (Progress.ofListing listing).workspace? = none := by
  cases listing <;> rfl

/-- A step with a workspace leaves the request with it. -/
theorem workspace?_ofWork (done : Except Failure (Work ⊕ String)) :
    (Progress.ofWork wanted classes workspace done).workspace? = some workspace := by
  rcases done with _ | _ | _ <;> rfl

/-- A step with a workspace keeps what tolerates that something is put below it. -/
theorem keeps_proceed {holds : Host → Prop} (tolerates : Tolerates workspace.path base holds)
    (archive : Path) (work : Work) :
    Effect.Keeps holds (batch.proceed archive wanted classes workspace work) := by
  cases work with
  | opening => exact Effect.Keeps.bind (Effect.Keeps.observe _) fun _ => Effect.Keeps.pure _
  | extracting entries =>
    cases entries with
    | nil => exact Effect.Keeps.bind (Effect.Keeps.observe _) fun _ => Effect.Keeps.pure _
    | cons entry rest =>
      exact Effect.Keeps.bind (Effect.Keeps.adapt (Archive.keeps_extractEntry tolerates entry) _)
        fun _ => Effect.Keeps.pure _
  | consulting name bytes inquiry =>
    cases inquiry with
    | answer result => exact Effect.Keeps.bind (Effect.Keeps.lift _) fun _ => Effect.Keeps.pure _
    | ask asked next => exact Effect.Keeps.observe _

/-- A step of a request leaves the host, or it makes, uses or removes the workspace of the request.
-/
theorem advance_moves (orderly : batch.Orderly host held current) (closed : host.tree.IsClosed)
    {progress : Progress} (holds : held i = progress.workspace?)
    (sized : held i = none →
      (batch.freshName current).utf8ByteSize = (batch.freshName host).utf8ByteSize) :
    batch.Moves host held current i (batch.advance i progress current).1.workspace?
      (batch.advance i progress current).2 := by
  cases progress with
  | asked =>
    rw [advance, workspace?_ofListing]
    exact .rests none holds
  | answered result => exact .rests none holds
  | listed wanted classes =>
    have without : held i = none := holds
    by_cases room : batch.HasRoom host
    · obtain ⟨name, base, lodges, free, made⟩ :=
        orderly.exists_create closed room (sized without) (batch.archive i)
      rw [advance, made]
      exact .makes name base lodges without free
    · obtain rfl := orderly.eq_of_full room
      obtain ⟨failure, made⟩ := run_create_of_full room (batch.archive i)
      rw [advance, made]
      exact .rests none holds
  | busy wanted classes workspace work =>
    obtain ⟨name, base, owns⟩ := orderly.owned i workspace holds
    obtain rfl := Option.some.inj (holds.symm.trans owns.has)
    obtain ⟨site, furnished⟩ := orderly.site closed owns
    rw [advance_busy, workspace?_ofWork]
    exact .uses name base _ owns
      (keeps_proceed site.tolerates (batch.archive i) work current furnished)
  | leaving workspace result =>
    obtain ⟨name, base, owns⟩ := orderly.owned i workspace holds
    obtain rfl := Option.some.inj (holds.symm.trans owns.has)
    obtain ⟨site, furnished⟩ := orderly.site closed owns
    rw [advance, site.removeAll_eq furnished.toConfined]
    exact .leaves name base owns

end Stepping

end DecompileServer.Batch

import DecompileServer.Proofs.Archive.Extraction
import DecompileServer.Proofs.Engine.Staging
import DecompileServer.Workspace

/-!
# What workspaces hold

A workspace stands on a site of its own. When one class file has been extracted to it, that is the
only file there, so a lookup in the workspace knows the class and no other (`lookup_of_single`).
-/
namespace DecompileServer

open Disk (Location)
open Host (Site Furnished)

variable {host after : Host}

namespace Workspace

variable {root : Option Path} {archive : Path} {workspace : Workspace}

/-- A workspace that cannot be made leaves the host. -/
theorem eq_of_create_error {failure : Failure}
    (failed : (create root archive).run host = (.error failure, after)) : after = host := by
  unfold create at failed
  rw [Effect.run_bind_of_ok Effect.run_get] at failed
  rcases made : (Host.makeTemporary (root.getD host.temporaryPath) beginning).run host
    with ⟨fault | path, last⟩
  · obtain rfl := Host.eq_of_makeTemporary_error made
    rw [Effect.run_bind_of_error (by rw [Effect.run_adapt, made]; rfl)] at failed
    cases failed
    rfl
  · rw [Effect.run_bind_of_ok (Effect.run_adapt_eq_ok.mpr made)] at failed
    cases failed

/-- A workspace is made on a site. -/
theorem site_of_create (closed : host.tree.IsClosed)
    (made : (create root archive).run host = (.ok workspace, after)) :
    ∃ base, Site host workspace.path base ∧
      after = { host with tree := host.tree.put base .directory } := by
  unfold create at made
  rw [Effect.run_bind_of_ok Effect.run_get] at made
  obtain ⟨path, last, ran, rest⟩ := Effect.run_bind_eq_ok.mp made
  cases rest
  exact Host.site_of_makeTemporary closed (Effect.run_adapt_eq_ok.mp ran)

section Guarding

variable {α : Type} {use : Effect Failure α}

/-- A workspace stays when its use succeeds. -/
theorem run_guarding_of_ok {value : α} (ran : use.run host = (.ok value, after)) :
    (workspace.guarding use).run host = (.ok value, after) := by
  unfold guarding
  rw [ExceptT.run_mk, ran]

/-- A workspace is removed when its use fails. -/
theorem run_guarding_of_error {failure : Failure}
    (ran : use.run host = (.error failure, after)) :
    (workspace.guarding use).run host = (.error failure, after.removeAll workspace.path) := by
  unfold guarding
  rw [ExceptT.run_mk, ran]

end Guarding

section Single

variable {origin filled : Host} {base : Location} {name : ClassName} {entry : Archive.Entry}

/-- What lies at or below a location holds no file but at the given places. -/
def HoldsOnly (base : Location) (places : List Location) (host : Host) : Prop :=
  ∀ location content executable, host.tree.find? location = some (.file content executable) →
    base <+: location → location ∈ places

/-- A fresh workspace holds no file. -/
theorem holdsOnly_nil (site : Site origin workspace.path base) :
    HoldsOnly base [] { origin with tree := origin.tree.put base .directory } := by
  intro location content executable found inside
  have below : base ≠ [] := by
    obtain ⟨directory, name, rfl, _⟩ := site.named
    simp
  rw [Disk.Tree.find?_put below] at found
  split at found
  · cases found
  · rw [site.free_below inside] at found
    cases found

/-- Making directories adds no file. -/
theorem keeps_holdsOnly (places : List Location) (path : Path) :
    Effect.Keeps (HoldsOnly base places) (Host.makeDirectories path) := by
  refine Effect.Keeps.makeDirectories ?_
  intro path host after only made location content executable found inside
  obtain ⟨directory, name, names, free, rfl⟩ := Host.makeDirectory_eq_ok made
  rw [Disk.Tree.find?_put (by simp)] at found
  split at found
  · cases found
  · exact only location content executable found inside

/-- Writing a file adds that file alone. -/
theorem holdsOnly_of_write {places : List Location} {path : Path} {content : List UInt8}
    (only : HoldsOnly base places host) (written : host.write path content = .ok after) :
    ∃ directory name, host.Names path directory name ∧
      HoldsOnly base ((directory ++ [name]) :: places) after := by
  obtain ⟨_, directory, name, executable, names, _, rfl⟩ := Host.write_eq_ok written
  refine ⟨directory, name, names, ?_⟩
  intro location stored runs found inside
  rw [Disk.Tree.find?_put (by simp)] at found
  split at found
  · rename_i same
    rw [same]
    exact List.mem_cons_self
  · exact List.mem_cons_of_mem _ (only location stored runs found inside)

/-- Extracting the file of a class to a workspace without files gives the file, and no other. -/
theorem holds_single {packed : Archive.Packed} (site : Site origin workspace.path base)
    (furnished : Furnished origin base host) (empty : HoldsOnly base [] host)
    (named : entry.name = name.filePath) (reached : entry.packed = .ok packed)
    (extracted : (Archive.extractEntry workspace.path entry).run host = (.ok (), filled)) :
    Furnished origin base filled ∧
      HoldsOnly base [base ++ (Path.mk name.filePath).steps] filled ∧
      filled.read (workspace.fileOf name) = .ok packed.read.content := by
  have file : entry.extractsDirectory = false := by
    simp [Archive.Entry.extractsDirectory, named, ClassName.filePath, List.getLast?_append]
  obtain ⟨_, found, known, _, written⟩ := Archive.extractEntry_eq_ok file extracted
  obtain rfl := Except.ok.inj (reached.symm.trans known)
  rw [named] at written
  obtain ⟨_, middle, wrote, before⟩ := Archive.writeEntry_eq_ok written
  have continues := name.continues_filePath workspace.path
  obtain ⟨furnished, empty⟩ : Furnished origin base middle ∧ HoldsOnly base [] middle := by
    obtain rfl | ⟨above, parent, made⟩ := before
    · exact ⟨furnished, empty⟩
    · have kept := site.tolerates.makeDirectories name.enclosed_filePath (continues.parent parent)
        host furnished
      have still := keeps_holdsOnly [] above host empty
      rw [made] at kept still
      exact ⟨kept, still⟩
  obtain ⟨directory, last, names, only⟩ := holdsOnly_of_write empty wrote
  rw [(site.leadsTo furnished).place_eq continues.start (name.steps_join_filePath _)
    (by simp [name.steps_filePath]) name.moves_of_mem_steps names] at only
  exact ⟨site.tolerates.write name.enclosed_filePath continues furnished wrote, only,
    Host.read_of_write wrote⟩

/-- The lookup in a workspace with a single class file knows that class and no other. -/
theorem lookup_of_single {bytes : List UInt8} (site : Site origin workspace.path base)
    (furnished : Furnished origin base filled)
    (only : HoldsOnly base [base ++ (Path.mk name.filePath).steps] filled)
    (stored : filled.read (workspace.fileOf name) = .ok bytes) (asked : String) :
    workspace.lookup filled asked = if asked = name.text then some bytes else none := by
  unfold lookup
  cases named : ClassName.ofText asked with
  | error refused =>
    rw [if_neg]
    rintro rfl
    rw [ClassName.ofText_text] at named
    cases named
  | ok other =>
    dsimp only
    have text := ClassName.text_of_ofText named
    by_cases same : other = name
    · subst same
      rw [if_pos text.symm, stored]
      rfl
    · have differs : asked ≠ name.text := by
        rw [← text]
        exact fun same' => same (ClassName.eq_of_text same')
      rw [if_neg differs]
      cases looked : filled.read (workspace.fileOf other) with
      | error fault => rfl
      | ok content =>
        exfalso
        obtain ⟨location, executable, led, found⟩ := Host.read_eq_ok_iff.mp looked
        obtain ⟨_, leads, here⟩ := other.leadsTo_of_locate led
        obtain rfl := (site.leadsTo furnished).unique leads
        have inside : base <+: location := by
          rw [here]
          exact List.prefix_append _ _
        have there := only location content executable found inside
        rw [here, List.mem_singleton, List.append_right_inj] at there
        exact same (ClassName.eq_of_steps_filePath there)

end Single

end Workspace

end DecompileServer

import DecompileServer.Archive.Extraction
import DecompileServer.Proofs.Disk.Temporary

/-!
# Extraction stays inside

An enclosed name leads nowhere above the directory in which it is taken, so extracting entries into
a directory puts nothing outside of it, whatever the entries hold and wherever extraction stops
(`keeps_extractEntries`).
-/
namespace DecompileServer.Archive

open Disk (Location)
open Host (Site Enclosed StaysFrom Continues Tolerates)

/-- An enclosed name does not start at the root, and its steps stay inside. -/
theorem enclosed_of_isEnclosed {name : String} (enclosed : isEnclosed name = true) :
    (Path.mk name).isAbsolute = false ∧ Enclosed (Path.mk name).steps := by
  have within : (depthFrom 0 (Path.mk name).components).isSome = true := by
    simp only [isEnclosed, Bool.and_eq_true] at enclosed
    exact enclosed.2
  have relative : (Path.mk name).isAbsolute = false := by
    by_cases absolute : (Path.mk name).isAbsolute = true
    · rw [Path.components_of_isAbsolute absolute] at within
      cases within
    · simpa using absolute
  refine ⟨relative, fun step member => (Path.isStep_of_mem_steps member).2.1, ?_⟩
  simp only [Path.components, relative, Path.map_componentOfPiece] at within
  unfold StaysFrom
  split at within
  · contradiction
  · split at within
    · exact within
    · exact within

section Keeping

variable {holds : Host → Prop} {target destination : Path}

/-- Writing an entry keeps what making the directories above it and writing the file keep. -/
theorem keeps_writeEntry_of {packed : Packed}
    (made : ∀ above, target.parent? = some above → Effect.Keeps holds (Host.makeDirectories above))
    (wrote : ∀ host after, holds host → host.write target packed.read.content = .ok after →
      holds after) : Effect.Keeps holds (writeEntry target packed) := by
  have written : Effect.Keeps holds
      (do
        Host.change fun host => host.write target packed.read.content
        pure packed.read.fault : Effect Disk.Fault (Option Fault)) :=
    Effect.Keeps.bind (Effect.Keeps.change wrote) fun _ => Effect.Keeps.pure _
  unfold writeEntry
  refine Effect.Keeps.get fun host => ?_
  dsimp only
  split
  · rename_i above found
    split
    · exact Effect.Keeps.bind (made above found) fun _ => written
    · exact written
  · exact written

/-- Extracting an entry keeps what making its directory and writing its file keep. -/
theorem keeps_extractEntry_of {entry : Entry}
    (made : isEnclosed entry.name = true →
      Effect.Keeps holds (Host.makeDirectories (destination.join entry.name)))
    (written : isEnclosed entry.name = true → ∀ packed,
      Effect.Keeps holds (writeEntry (destination.join entry.name) packed)) :
    Effect.Keeps holds (extractEntry destination entry) := by
  unfold extractEntry
  refine Effect.Keeps.bind (Effect.Keeps.lift _) fun packed => ?_
  dsimp only
  split
  · exact Effect.Keeps.throw_bind _
  · rename_i accepted
    have enclosed : isEnclosed entry.name = true := by simpa using accepted
    split
    · exact Effect.Keeps.adapt (made enclosed) _
    · refine Effect.Keeps.bind (Effect.Keeps.adapt (written enclosed packed) _) ?_
      intro fault
      cases fault with
      | none => exact Effect.Keeps.pure _
      | some fault => exact Effect.Keeps.throw _

end Keeping

section Success

variable {host after : Host} {target destination : Path}

/-- An entry that has been written was written to a host that differs from the one before by
directories at most. -/
theorem writeEntry_eq_ok {packed : Packed} {fault : Option Fault}
    (written : (writeEntry target packed).run host = (.ok fault, after)) :
    fault = packed.read.fault ∧ ∃ middle, middle.write target packed.read.content = .ok after ∧
      (middle = host ∨ ∃ above, target.parent? = some above ∧
        (Host.makeDirectories above).run host = (.ok (), middle)) := by
  have finish : ∀ {middle : Host},
      (do
        Host.change fun host => host.write target packed.read.content
        pure packed.read.fault : Effect Disk.Fault (Option Fault)).run middle = (.ok fault, after) →
      fault = packed.read.fault ∧ middle.write target packed.read.content = .ok after := by
    intro middle ran
    obtain ⟨_, last, changed, rest⟩ := Effect.run_bind_eq_ok.mp ran
    cases rest
    exact ⟨rfl, Effect.run_change_eq_ok.mp changed⟩
  unfold writeEntry at written
  rw [Effect.run_bind_of_ok Effect.run_get] at written
  dsimp only at written
  split at written
  · rename_i above found
    split at written
    · obtain ⟨_, middle, made, rest⟩ := Effect.run_bind_eq_ok.mp written
      obtain ⟨same, wrote⟩ := finish rest
      exact ⟨same, middle, wrote, .inr ⟨above, found, made⟩⟩
    · obtain ⟨same, wrote⟩ := finish written
      exact ⟨same, host, wrote, .inl rfl⟩
  · obtain ⟨same, wrote⟩ := finish written
    exact ⟨same, host, wrote, .inl rfl⟩

/-- An entry that has been extracted is enclosed and its data are within reach. -/
theorem extractEntry_cases {entry : Entry}
    (extracted : (extractEntry destination entry).run host = (.ok (), after)) :
    isEnclosed entry.name = true ∧ ∃ packed, entry.packed = .ok packed ∧
      (if entry.extractsDirectory then
        (Host.makeDirectories (destination.join entry.name)).adapt Fault.disk
      else do
        let fault ← (writeEntry (destination.join entry.name) packed).adapt Fault.disk
        match fault with
        | none => pure ()
        | some fault => throw fault : Effect Fault Unit).run host = (.ok (), after) := by
  unfold extractEntry at extracted
  cases reached : entry.packed with
  | error fault =>
    rw [reached, Effect.run_bind_of_error Effect.run_lift] at extracted
    cases extracted
  | ok packed =>
    rw [reached, Effect.run_bind_of_ok Effect.run_lift] at extracted
    dsimp only at extracted
    split at extracted
    · rw [Effect.run_bind_of_error (Effect.run_throw _)] at extracted
      cases extracted
    · rename_i accepted
      exact ⟨by simpa using accepted, packed, rfl, extracted⟩

/-- An entry that has been extracted to a file is enclosed, and its content is complete. -/
theorem extractEntry_eq_ok {entry : Entry} (file : entry.extractsDirectory = false)
    (extracted : (extractEntry destination entry).run host = (.ok (), after)) :
    isEnclosed entry.name = true ∧ ∃ packed, entry.packed = .ok packed ∧ packed.read.fault = none ∧
      (writeEntry (destination.join entry.name) packed).run host = (.ok none, after) := by
  obtain ⟨enclosed, packed, reached, ran⟩ := extractEntry_cases extracted
  refine ⟨enclosed, packed, reached, ?_⟩
  rw [file, if_neg (by decide)] at ran
  obtain ⟨fault, last, written, rest⟩ := Effect.run_bind_eq_ok.mp ran
  have wrote := Effect.run_adapt_eq_ok.mp written
  cases fault with
  | some fault => cases rest
  | none =>
    cases rest
    exact ⟨(writeEntry_eq_ok wrote).1.symm, wrote⟩

/-- An entry that has been extracted to a directory is enclosed, and the directory has been made. -/
theorem makeDirectories_of_extractEntry {entry : Entry} (folder : entry.extractsDirectory = true)
    (extracted : (extractEntry destination entry).run host = (.ok (), after)) :
    isEnclosed entry.name = true ∧
      (Host.makeDirectories (destination.join entry.name)).run host = (.ok (), after) := by
  obtain ⟨enclosed, _, _, ran⟩ := extractEntry_cases extracted
  rw [folder, if_pos rfl] at ran
  exact ⟨enclosed, Effect.run_adapt_eq_ok.mp ran⟩

end Success

section Files

variable {host after : Host} {path target destination : Path}

/-- A file stays a file when an entry is extracted. -/
theorem keeps_isFile_extractEntry (entry : Entry) :
    Effect.Keeps (·.isFile path = true) (extractEntry destination entry) := by
  have made : ∀ path', Effect.Keeps (·.isFile path = true) (Host.makeDirectories path') := fun _ =>
    Effect.Keeps.makeDirectories fun _ _ _ filed made => Host.isFile_makeDirectory made filed
  refine keeps_extractEntry_of (fun _ => made _) fun _ packed => ?_
  exact keeps_writeEntry_of (fun above _ => made above) fun _ _ filed done =>
    Host.isFile_write done filed

/-- An entry that has been extracted to a file is there. -/
theorem isFile_of_extractEntry {entry : Entry} (file : entry.extractsDirectory = false)
    (extracted : (extractEntry destination entry).run host = (.ok (), after)) :
    after.isFile (destination.join entry.name) = true := by
  obtain ⟨_, packed, _, _, written⟩ := extractEntry_eq_ok file extracted
  obtain ⟨_, middle, wrote, _⟩ := writeEntry_eq_ok written
  exact Host.isFile_of_read (Host.read_of_write wrote)

/-- The names of class files among entries are names of entries that are extracted to files. -/
theorem exists_of_mem_classNamesOf {entries : List Entry} {names : List String} {name : String}
    (listed : classNamesOf entries = .ok names) (member : name ∈ names) :
    ∃ entry ∈ entries, entry.name = name ∧ entry.extractsDirectory = false := by
  induction entries generalizing names with
  | nil =>
    cases listed
    cases member
  | cons entry rest ih =>
    obtain ⟨_, _, listed⟩ := Effect.except_bind_eq_ok.mp listed
    obtain ⟨further, later, same⟩ := Effect.except_bind_eq_ok.mp listed
    obtain rfl := Except.ok.inj same
    have inside : (entry.isClass = true ∧ name = entry.name) ∨ name ∈ further := by
      split at member
      · rename_i isClass
        obtain rfl | later := List.mem_cons.mp member
        · exact .inl ⟨isClass, rfl⟩
        · exact .inr later
      · exact .inr member
    obtain ⟨isClass, rfl⟩ | inside := inside
    · refine ⟨entry, List.mem_cons_self, rfl, ?_⟩
      simp only [Entry.isClass, Entry.isDirectory, Bool.and_eq_true, Bool.not_eq_true',
        Bool.or_eq_false_iff] at isClass
      exact isClass.1.1
    · obtain ⟨found, member, named, file⟩ := ih later inside
      exact ⟨found, List.mem_cons_of_mem _ member, named, file⟩

end Files

/-- An archive is there in every confined host. -/
theorem load_eq {origin host : Host} {path stored : Path} {base : Location} {archive : Contents}
    (site : Site origin path base) (confined : Host.Confined origin base host)
    (loaded : load origin stored = .ok archive) : load host stored = .ok archive := by
  unfold load at loaded ⊢
  cases found : origin.nodeAt stored with
  | error fault =>
    rw [found] at loaded
    cases loaded
  | ok node =>
    rw [site.nodeAt_eq confined found]
    rwa [found] at loaded

/-- An enclosed name in a directory goes on from the path of the directory. -/
theorem continues_join {name : String} (enclosed : isEnclosed name = true) (root : Path) :
    Continues root (Path.mk name).steps (root.join name) := by
  have relative := (enclosed_of_isEnclosed enclosed).1
  refine ⟨Path.isAbsolute_join_of_relative relative, ?_⟩
  simp only [Path.steps_join relative, List.prefix_refl]

section Directory

variable {directory : Path} {base : Location} {holds : Host → Prop}
  (tolerates : Tolerates directory base holds)
include tolerates

/-- Writing an entry into a directory keeps what tolerates it. -/
theorem keeps_writeEntry {rest : List String} {target : Path} (enclosed : Enclosed rest)
    (continues : Continues directory rest target) (packed : Packed) :
    Effect.Keeps holds (writeEntry target packed) :=
  keeps_writeEntry_of
    (fun _ found => tolerates.makeDirectories enclosed (continues.parent found))
    fun _ _ held done => tolerates.write enclosed continues held done

/-- Extracting an entry into a directory keeps what tolerates it. -/
theorem keeps_extractEntry (entry : Entry) :
    Effect.Keeps holds (extractEntry directory entry) := by
  refine keeps_extractEntry_of (fun enclosed => ?_) fun enclosed packed => ?_
  · exact tolerates.makeDirectories (enclosed_of_isEnclosed enclosed).2
      (continues_join enclosed directory)
  · exact keeps_writeEntry tolerates (enclosed_of_isEnclosed enclosed).2
      (continues_join enclosed directory) packed

/-- Extracting entries into a directory keeps what tolerates it. -/
theorem keeps_extractEntries (entries : List Entry) :
    Effect.Keeps holds (extractEntries directory entries) := by
  induction entries with
  | nil => exact Effect.Keeps.pure _
  | cons entry rest ih => exact Effect.Keeps.bind (keeps_extractEntry tolerates entry) fun _ => ih

/-- Extracting an archive into a directory keeps what tolerates it. -/
theorem keeps_extractAll (archive : Path) :
    Effect.Keeps holds (extractAll archive directory) :=
  Effect.Keeps.bind (Effect.Keeps.observe _) fun loaded =>
    Effect.Keeps.adapt (keeps_extractEntries tolerates loaded.entries) _

end Directory

end DecompileServer.Archive

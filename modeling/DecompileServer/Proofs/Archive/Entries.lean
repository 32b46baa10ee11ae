import DecompileServer.Proofs.Archive.Extraction
import DecompileServer.Proofs.Engine.Staging

/-!
# What extraction leaves

The names of entries are paths, and different ones can lead to one file. An entry that is extracted
writes over what an earlier one has written, so each file has the content of the last entry that
leads to it (`Extracted.extractEntries`), and the file of a class can be read exactly if an entry
leads there (`Extracted.read_eq_ok_iff`).
-/
namespace DecompileServer.Archive

open Disk (Location Tree)
open Host (Furnished Site)

/-- Whether an entry is extracted to the file that the given names lead to. -/
def Entry.LeadsTo (entry : Entry) (names : List String) : Prop :=
  entry.extractsDirectory = false ∧ Host.resolve [] (Path.mk entry.name).steps = names

instance (entry : Entry) (names : List String) : Decidable (entry.LeadsTo names) :=
  inferInstanceAs (Decidable (_ ∧ _))

/-- Whether the content is that of the last of the selected entries. -/
def IsLastContent (entries : List Entry) (selected : Entry → Prop) (content : List UInt8) : Prop :=
  ∃ before entry after packed, entries = before ++ entry :: after ∧ selected entry ∧
    (∀ later ∈ after, ¬selected later) ∧ entry.packed = .ok packed ∧ packed.read.content = content

namespace IsLastContent

variable {done entries : List Entry} {entry : Entry} {selected : Entry → Prop}
  {content : List UInt8} {packed : Packed}

/-- A selected entry at the end is the last one. -/
theorem concat_of_selected (chosen : selected entry) (reached : entry.packed = .ok packed) :
    IsLastContent (done ++ [entry]) selected content ↔ packed.read.content = content := by
  constructor
  · rintro ⟨before, last, after, found, whole, -, others, known, same⟩
    obtain rfl | ⟨further, final, rfl⟩ := List.eq_nil_or_concat after
    · obtain rfl := List.singleton_inj.mp (List.append_inj' whole rfl).2
      rwa [Except.ok.inj (reached.symm.trans known)]
    · rw [List.concat_eq_append, ← List.cons_append, ← List.append_assoc] at whole
      have final := List.singleton_inj.mp (List.append_inj' whole rfl).2
      exact absurd (final ▸ chosen) (others _ (by simp))
  · rintro rfl
    exact ⟨done, entry, [], packed, rfl, chosen, by simp, reached, rfl⟩

/-- An entry at the end that is not selected does not matter. -/
theorem concat_of_not_selected (passed : ¬selected entry) :
    IsLastContent (done ++ [entry]) selected content ↔ IsLastContent done selected content := by
  constructor
  · rintro ⟨before, last, after, found, whole, chosen, others, known⟩
    obtain rfl | ⟨further, final, rfl⟩ := List.eq_nil_or_concat after
    · obtain ⟨-, same⟩ := List.append_inj' whole rfl
      rw [List.singleton_inj.mp same] at passed
      exact absurd chosen passed
    · rw [List.concat_eq_append, ← List.cons_append, ← List.append_assoc] at whole
      exact ⟨before, last, further, found, (List.append_inj' whole rfl).1, chosen,
        fun later member => others later (by simp [member]), known⟩
  · rintro ⟨before, last, after, found, rfl, chosen, others, known⟩
    refine ⟨before, last, after ++ [entry], found, by simp, chosen, fun later member => ?_, known⟩
    obtain earlier | final := List.mem_append.mp member
    · exact others later earlier
    · rwa [List.mem_singleton.mp final]

/-- The content belongs to a selected entry. -/
theorem exists_selected (last : IsLastContent entries selected content) :
    ∃ entry ∈ entries, selected entry := by
  obtain ⟨before, entry, after, -, rfl, chosen, -⟩ := last
  exact ⟨entry, by simp, chosen⟩

/-- If some entries are selected, one of them is the last. -/
theorem exists_of_selected (reached : ∀ entry ∈ entries, selected entry →
    ∃ packed, entry.packed = .ok packed) (some : ∃ entry ∈ entries, selected entry) :
    ∃ content, IsLastContent entries selected content := by
  induction entries using List.reverseRecOn with
  | nil =>
    obtain ⟨entry, member, -⟩ := some
    cases member
  | append_singleton done entry ih =>
    by_cases chosen : selected entry
    · obtain ⟨packed, known⟩ := reached entry (by simp) chosen
      exact ⟨_, (concat_of_selected chosen known).mpr rfl⟩
    · obtain ⟨other, member, selects⟩ := some
      obtain earlier | final := List.mem_append.mp member
      · obtain ⟨content, last⟩ :=
          ih (fun entry member => reached entry (by simp [member])) ⟨other, earlier, selects⟩
        exact ⟨content, (concat_of_not_selected chosen).mpr last⟩
      · rw [List.mem_singleton.mp final] at selects
        exact absurd selects chosen

/-- Selecting the same entries selects the same last one. -/
theorem of_same {chosen : Entry → Prop} (same : ∀ entry ∈ entries, selected entry ↔ chosen entry)
    (last : IsLastContent entries selected content) : IsLastContent entries chosen content := by
  obtain ⟨before, entry, after, packed, rfl, picked, others, known⟩ := last
  refine ⟨before, entry, after, packed, rfl, (same entry (by simp)).mp picked,
    fun later member chosen => others later member ?_, known⟩
  exact (same later (by simp [member])).mpr chosen

end IsLastContent

/-- What is known of an entry that has been extracted to a file in a directory. -/
structure IsWritten (directory : Path) (entry : Entry) : Prop where
  /-- The name of the entry is enclosed. -/
  enclosed : isEnclosed entry.name = true
  /-- The data of the entry are within reach. -/
  reached : ∃ packed, entry.packed = .ok packed
  /-- The system accepts the path of the file. -/
  accepted : (directory.join entry.name).acceptedPieces = .ok (directory.join entry.name).pieces
  /-- The names on the path are not too long. -/
  short : ∀ step ∈ (Path.mk entry.name).steps,
    step = ".." ∨ ¬Tree.nameLimit < step.utf8ByteSize

/-- What is known of an entry whose file has a place. -/
theorem isWritten_of_names {host : Host} {directory : Path} {entry : Entry} {packed : Packed}
    {folder : Location} {name : String} (enclosed : isEnclosed entry.name = true)
    (reached : entry.packed = .ok packed)
    (names : host.Names (directory.join entry.name) folder name) : IsWritten directory entry := by
  obtain ⟨relative, inside⟩ := enclosed_of_isEnclosed enclosed
  refine ⟨enclosed, ⟨packed, reached⟩, names.accepted, fun step within => ?_⟩
  obtain ⟨above, same, walked⟩ := names.steps_eq
  have member : step ∈ above ++ [name] := by
    rw [← same, Path.steps_join relative]
    exact List.mem_append_right _ within
  obtain before | last := List.mem_append.mp member
  · obtain dot | short := Tree.short_of_walk walked step before
    · exact absurd dot (inside.moves step within)
    · exact short
  · rw [List.mem_singleton.mp last]
    exact .inr names.short

/-- How far the extraction to a directory on a site has come: the files in it have the content of
the last entry that leads to each. -/
structure Extracted (origin : Host) (directory : Path) (base : Location) (done : List Entry)
    (host : Host) : Prop extends Furnished origin base host where
  /-- The files are those that entries lead to. -/
  file_iff : ∀ names content executable,
    host.tree.find? (base ++ names) = some (.file content executable) ↔
      executable = false ∧ IsLastContent done (·.LeadsTo names) content
  /-- The entries that are no directories have been written. -/
  written : ∀ entry ∈ done, entry.extractsDirectory = false → IsWritten directory entry

namespace Extracted

variable {origin host after : Host} {directory : Path} {base : Location} {done : List Entry}
  {entry : Entry} {packed : Packed} {content : List UInt8}

/-- Nothing has been extracted to a directory that has just been made. -/
theorem start (site : Site origin directory base) :
    Extracted origin directory base []
      { origin with tree := origin.tree.put base .directory } := by
  refine { site.furnished_put with file_iff := fun names content executable => ?_, written := ?_ }
  · have below : base ≠ [] := by
      obtain ⟨_, _, rfl, _⟩ := site.named
      simp
    have none : ¬IsLastContent [] (·.LeadsTo names) content := by
      rintro ⟨before, entry, after, _, whole, _⟩
      simp at whole
    rw [Tree.find?_put below, site.free_below (List.prefix_append base names)]
    split <;> simp [none]
  · intro entry member
    cases member

/-- An entry for a directory leads to no file. -/
theorem concat_directory (extracted : Extracted origin directory base done host)
    (folder : entry.extractsDirectory = true) :
    Extracted origin directory base (done ++ [entry]) host := by
  refine { extracted with file_iff := fun names content executable => ?_, written := ?_ }
  · have passed : ¬entry.LeadsTo names := by
      rintro ⟨file, -⟩
      rw [folder] at file
      cases file
    rw [extracted.file_iff, IsLastContent.concat_of_not_selected passed]
  · intro other member file
    obtain earlier | final := List.mem_append.mp member
    · exact extracted.written other earlier file
    · rw [List.mem_singleton.mp final, folder] at file
      cases file

variable (site : Site origin directory base)
include site

/-- Making a directory changes no file. -/
theorem makeDirectory {rest : List String} {target : Path}
    (extracted : Extracted origin directory base done host) (enclosed : Host.Enclosed rest)
    (continues : Host.Continues directory rest target)
    (made : host.makeDirectory target = .ok after) :
    Extracted origin directory base done after := by
  refine { site.tolerates.makeDirectory enclosed continues extracted.toFurnished made with
    file_iff := fun names content executable => ?_, written := extracted.written }
  rw [← extracted.file_iff names content executable]
  obtain ⟨folder, name, -, free, rfl⟩ := Host.makeDirectory_eq_ok made
  rw [Tree.find?_put (by simp)]
  split
  · next same => simp [same, free]
  · rfl

/-- Making directories changes no file. -/
theorem keeps_makeDirectories {rest : List String} {target : Path}
    (enclosed : Host.Enclosed rest) (continues : Host.Continues directory rest target) :
    Effect.Keeps (Extracted origin directory base done) (Host.makeDirectories target) :=
  Host.keeps_makeDirectories continues fun _ _ _ along extracted made =>
    extracted.makeDirectory site enclosed along made

/-- A file that is put where an entry leads has the content of the last entry that leads there. -/
theorem concat_file (extracted : Extracted origin directory base done host)
    (file : entry.extractsDirectory = false) (reached : entry.packed = .ok packed)
    (written : IsWritten directory entry) (furnished : Furnished origin base after)
    (same : after = { host with
      tree := host.tree.put (base ++ Host.resolve [] (Path.mk entry.name).steps)
        (.file packed.read.content false) }) :
    Extracted origin directory base (done ++ [entry]) after := by
  have below : base ++ Host.resolve [] (Path.mk entry.name).steps ≠ [] := by
    obtain ⟨_, _, rfl, _⟩ := site.named
    simp
  refine { furnished with file_iff := fun names content executable => ?_, written := ?_ }
  · rw [same, Tree.find?_put below]
    by_cases here : names = Host.resolve [] (Path.mk entry.name).steps
    · rw [if_pos (by rw [here]), IsLastContent.concat_of_selected ⟨file, here.symm⟩ reached]
      simp [and_comm, @eq_comm _ false]
    · have passed : ¬entry.LeadsTo names := fun led => here led.2.symm
      rw [if_neg (by simpa using here), extracted.file_iff,
        IsLastContent.concat_of_not_selected passed]
  · intro other member isFile
    obtain earlier | final := List.mem_append.mp member
    · exact extracted.written other earlier isFile
    · obtain rfl := List.mem_singleton.mp final
      exact written

/-- The file of an entry is written to where the entry leads. -/
theorem write (extracted : Extracted origin directory base done host)
    (file : entry.extractsDirectory = false) (enclosed : isEnclosed entry.name = true)
    (reached : entry.packed = .ok packed)
    (wrote : host.write (directory.join entry.name) packed.read.content = .ok after) :
    Extracted origin directory base (done ++ [entry]) after := by
  obtain ⟨relative, inside⟩ := enclosed_of_isEnclosed enclosed
  have continues := continues_join enclosed directory
  have furnished := site.tolerates.write inside continues extracted.toFurnished wrote
  have leads := site.leadsTo extracted.toFurnished
  have whole : (directory.join entry.name).steps = directory.steps ++ (Path.mk entry.name).steps :=
    Path.steps_join relative
  obtain ⟨opened, folder, name, _, names, vacant, -⟩ := Host.write_eq_ok wrote
  have some : (Path.mk entry.name).steps ≠ [] := by
    intro none
    rw [none, List.append_nil] at whole
    exact vacant (leads.standing_of_prefix continues.start (whole ▸ List.prefix_refl _) names)
  have place := leads.place_resolve continues.start whole some inside names
  refine extracted.concat_file site file reached (isWritten_of_names enclosed reached names) furnished ?_
  -- A file that is there was extracted as well, so neither can be executed.
  rw [← place]
  cases found : host.tree.find? (folder ++ [name]) with
  | none => exact Except.ok.inj (wrote.symm.trans (names.write_eq opened found _))
  | some node =>
    cases node with
    | directory => exact absurd found vacant
    | file stored executable =>
      obtain ⟨rfl, -⟩ := (extracted.file_iff _ _ _).mp (place ▸ found)
      exact Except.ok.inj (wrote.symm.trans (names.write_over opened found _))

/-- Extracting an entry puts its content where it leads. -/
theorem extractEntry (extracted : Extracted origin directory base done host)
    (ran : (extractEntry directory entry).run host = (.ok (), after)) :
    Extracted origin directory base (done ++ [entry]) after := by
  cases folder : entry.extractsDirectory with
  | true =>
    obtain ⟨enclosed, made⟩ := makeDirectories_of_extractEntry folder ran
    have kept := keeps_makeDirectories site (enclosed_of_isEnclosed enclosed).2
      (continues_join enclosed directory) host extracted
    rw [made] at kept
    exact kept.concat_directory folder
  | false =>
    obtain ⟨enclosed, packed, reached, -, done⟩ := extractEntry_eq_ok folder ran
    obtain ⟨-, middle, wrote, before⟩ := writeEntry_eq_ok done
    refine Extracted.write site ?_ folder enclosed reached wrote
    obtain rfl | ⟨above, parent, made⟩ := before
    · exact extracted
    · have kept := keeps_makeDirectories site (enclosed_of_isEnclosed enclosed).2
        ((continues_join enclosed directory).parent parent) host extracted
      rw [made] at kept
      exact kept

/-- Extracting entries leaves each file with the content of the last entry that leads to it. -/
theorem extractEntries {rest : List Entry} (extracted : Extracted origin directory base done host)
    (ran : (extractEntries directory rest).run host = (.ok (), after)) :
    Extracted origin directory base (done ++ rest) after := by
  induction rest generalizing done host with
  | nil =>
    cases ran
    rwa [List.append_nil]
  | cons entry rest ih =>
    obtain ⟨_, middle, first, others⟩ := Effect.run_bind_eq_ok.mp ran
    rw [List.append_cons]
    exact ih (extracted.extractEntry site first) others

/-- The file of a class can be read if an entry leads there. -/
theorem read_of_isLastContent {name : ClassName}
    (extracted : Extracted origin directory base done host)
    (last : IsLastContent done (·.LeadsTo (Path.mk name.filePath).steps) content) :
    host.read (directory.join name.filePath) = .ok content := by
  have found := (extracted.file_iff _ _ _).mpr ⟨rfl, last⟩
  obtain ⟨entry, member, file, led⟩ := last.exists_selected
  obtain ⟨enclosed, -, accepted, short⟩ := extracted.written entry member file
  have fewer : (Path.mk name.filePath).steps.Sublist (Path.mk entry.name).steps := by
    rw [← led]
    exact Host.resolve_sublist [] _
  -- The path of the class is none longer than that of the entry, so the system accepts it too.
  have accepts : (directory.join name.filePath).acceptedPieces =
      .ok (directory.join name.filePath).pieces := by
    have characters : name.filePath.toList.Sublist entry.name.toList := by
      rw [name.toList_filePath]
      exact (Text.joinWith_sublist (fewer.map _)).trans (Path.joinWith_steps_sublist ⟨entry.name⟩)
    refine Host.acceptedPieces_of_sublist accepted (name.join_filePath_ne_empty directory) ?_
    exact Path.join_sublist (enclosed_of_isEnclosed enclosed).1 name.isAbsolute_filePath characters
  have leads := site.leadsTo extracted.toFurnished
  have walked : host.tree.walk base (Path.mk name.filePath).pieces =
      .ok (base ++ (Path.mk name.filePath).steps) := by
    rw [name.pieces_filePath, ← name.steps_filePath]
    refine extracted.closed.walk_names (fun step inside => ?_) (by rw [found]; rfl)
    obtain ⟨notHere, notUp⟩ := name.moves_of_mem_steps step inside
    exact ⟨notHere, notUp, (short step (fewer.subset inside)).resolve_left notUp⟩
  refine Host.read_eq_ok_iff.mpr ⟨base ++ (Path.mk name.filePath).steps, false, ?_, found⟩
  refine Effect.except_bind_eq_ok.mpr ⟨_, accepts, ?_⟩
  rw [name.endsInSlash_join_filePath, if_neg (by decide), List.append_nil,
    Host.start_eq (name.isAbsolute_join_filePath directory),
    Path.pieces_join name.isAbsolute_filePath]
  exact Tree.walk_append.mpr ⟨base, Tree.walk_of_filter leads.standing leads.walked, walked⟩

/-- The file of a class has the content of the last entry that leads there. -/
theorem read_eq_ok_iff {name : ClassName} (extracted : Extracted origin directory base done host) :
    host.read (directory.join name.filePath) = .ok content ↔
      IsLastContent done (·.LeadsTo (Path.mk name.filePath).steps) content := by
  refine ⟨fun looked => ?_, extracted.read_of_isLastContent site⟩
  obtain ⟨location, executable, led, found⟩ := Host.read_eq_ok_iff.mp looked
  obtain ⟨_, leads, rfl⟩ := name.leadsTo_of_locate led
  rw [leads.unique (site.leadsTo extracted.toFurnished)] at found
  exact ((extracted.file_iff _ _ _).mp found).2

end Extracted

end DecompileServer.Archive

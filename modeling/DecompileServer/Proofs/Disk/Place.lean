import DecompileServer.Proofs.Disk.Tree
import DecompileServer.Proofs.Effect
import DecompileServer.Proofs.Path
import Mathlib.Data.List.Basic
import Mathlib.Data.String.Basic

/-!
# Writing to places

What a path has to lead through for a file to be written or a directory to be made there, and what
either changes: one entry of the tree, in a directory that stands (`write_eq_ok`,
`makeDirectory_eq_ok`). Both keep a closed tree closed. A file that has been written is read back.
-/
namespace DecompileServer.Host

open Disk (Location Node Tree Fault)

variable {host after : Host} {path : Path} {directory : Location} {name : String}

/-- What a path has to be for it to name a place in a directory. -/
structure Names (host : Host) (path : Path) (directory : Location) (name : String) : Prop where
  /-- The system accepts the path. -/
  accepted : path.acceptedPieces = .ok path.pieces
  /-- Its last piece is the name. -/
  last : path.pieces.getLast? = some name
  /-- The name is no single dot. -/
  notHere : name ≠ "."
  /-- The name is no double dot. -/
  notUp : name ≠ ".."
  /-- The name is not too long. -/
  short : ¬Tree.nameLimit < name.utf8ByteSize
  /-- The pieces before lead to the directory, which stands. -/
  walked : host.tree.walk (host.start path) (path.pieces.dropLast ++ ["."]) = .ok directory

/-- The pieces that the system accepts are those of the path. -/
theorem acceptedPieces_eq_ok {pieces : List String} (accepted : path.acceptedPieces = .ok pieces) :
    pieces = path.pieces := by
  unfold Path.acceptedPieces at accepted
  split at accepted
  · cases accepted
  · split at accepted
    · cases accepted
    · split at accepted
      · cases accepted
      · exact (Except.ok.inj accepted).symm

/-- A path is accepted if it has some text without a character with code zero, and not too much. -/
theorem acceptedPieces_eq_ok_iff : path.acceptedPieces = .ok path.pieces ↔
    '\x00' ∉ path.text.toList ∧ path.text ≠ "" ∧ path.text.utf8ByteSize < Path.lengthLimit := by
  unfold Path.acceptedPieces
  split
  · rename_i nul
    have inside : '\x00' ∈ path.text.toList := by simpa using nul
    simp [inside]
  · rename_i free
    have outside : '\x00' ∉ path.text.toList := by simpa using free
    split
    · rename_i none
      simp [none]
    · rename_i some
      split
      · rename_i long
        simp [long]
      · rename_i short
        simpa [outside, some] using short

/-- A text of fewer characters takes fewer bytes. -/
theorem utf8ByteSize_le_of_sublist {text other : String}
    (fewer : text.toList.Sublist other.toList) : text.utf8ByteSize ≤ other.utf8ByteSize := by
  rw [← String.utf8Len_toList, ← String.utf8Len_toList]
  generalize text.toList = characters at fewer ⊢
  generalize other.toList = others at fewer ⊢
  induction fewer with
  | slnil => exact Nat.le_refl _
  | cons character _ ih =>
    rw [String.utf8Len_cons]
    exact Nat.le_add_right_of_le ih
  | cons_cons character _ ih =>
    rw [String.utf8Len_cons, String.utf8Len_cons]
    exact Nat.add_le_add_right ih _

/-- A path of fewer characters than an accepted one is accepted, if it has some. -/
theorem acceptedPieces_of_sublist {other : Path} (accepted : path.acceptedPieces = .ok path.pieces)
    (filled : other.text ≠ "") (fewer : other.text.toList.Sublist path.text.toList) :
    other.acceptedPieces = .ok other.pieces := by
  obtain ⟨free, -, short⟩ := acceptedPieces_eq_ok_iff.mp accepted
  exact acceptedPieces_eq_ok_iff.mpr ⟨fun nul => free (fewer.subset nul), filled,
    Nat.lt_of_le_of_lt (utf8ByteSize_le_of_sublist fewer) short⟩

/-- A place is named exactly by the paths that lead to it. -/
theorem place_eq_named :
    host.place path = .ok (.named directory name) ↔ host.Names path directory name := by
  unfold place
  constructor
  · intro placed
    cases accepted : path.acceptedPieces with
    | error fault => simp [accepted, bind, Except.bind] at placed
    | ok pieces =>
      obtain rfl := acceptedPieces_eq_ok accepted
      simp only [accepted, bind, Except.bind] at placed
      cases last : path.pieces.getLast? with
      | none => simp [last] at placed
      | some piece =>
        simp only [last] at placed
        cases walked : host.tree.walk (host.start path) (path.pieces.dropLast ++ ["."]) with
        | error fault => simp [walked] at placed
        | ok location =>
          simp only [walked] at placed
          split at placed
          · simp at placed
          · rename_i moves
            split at placed
            · simp at placed
            · rename_i short
              simp only [Except.ok.injEq, Place.named.injEq] at placed
              obtain ⟨rfl, rfl⟩ := placed
              rw [not_or] at moves
              exact ⟨accepted, last, moves.1, moves.2, short, walked⟩
  · intro names
    simp only [names.accepted, bind, Except.bind, names.last, names.walked]
    rw [if_neg (by simp [names.notHere, names.notUp]), if_neg names.short]

namespace Names

variable (names : host.Names path directory name)
include names

/-- The pieces before the name, and the name. -/
theorem pieces_eq : path.pieces = path.pieces.dropLast ++ [name] :=
  (List.dropLast_append_getLast? _ names.last).symm

/-- The directory stands, and the pieces before the name lead to it. -/
theorem stands : host.tree.walk (host.start path) path.pieces.dropLast = .ok directory ∧
    host.tree.find? directory = some .directory :=
  Tree.walk_concat_here.mp names.walked

/-- The steps of the path are those to the directory and the name. -/
theorem steps_eq : ∃ above, path.steps = above ++ [name] ∧
    host.tree.walk (host.start path) above = .ok directory := by
  refine ⟨path.pieces.dropLast.filter (· ≠ "."), ?_, Tree.walk_filter names.stands.1⟩
  rw [Path.steps, names.pieces_eq, List.filter_append, List.dropLast_concat]
  simp [names.notHere]

/-- A step from the directory to the name leads to the place, if something is stored there. -/
theorem step_eq (stored : (host.tree.find? (directory ++ [name])).isSome = true) :
    host.tree.step directory name = .ok (directory ++ [name]) :=
  Tree.step_eq_ok_iff.mpr
    ⟨names.stands.2, .inr (.inr ⟨names.notHere, names.notUp, names.short, stored, rfl⟩)⟩

/-- A host in which the directory still stands names the same place by the path. -/
theorem of_walked {other : Host} (same : other.start path = host.start path)
    (walked : other.tree.walk (host.start path) (path.pieces.dropLast ++ ["."]) = .ok directory) :
    other.Names path directory name :=
  ⟨names.accepted, names.last, names.notHere, names.notUp, names.short, by rw [same]; exact walked⟩

/-- The path leads to the place, if something is stored there. -/
theorem locate_eq (opened : path.endsInSlash = false)
    (stored : (host.tree.find? (directory ++ [name])).isSome = true) :
    host.locate path = .ok (directory ++ [name]) := by
  simp only [locate, names.accepted, bind, Except.bind, opened, Bool.false_eq_true, ↓reduceIte,
    List.append_nil]
  rw [names.pieces_eq]
  exact Tree.walk_concat.mpr ⟨directory, names.stands.1, names.step_eq stored⟩

/-- The path leads somewhere only if something is stored at the place. -/
theorem find?_isSome_of_locate {location : Location} (opened : path.endsInSlash = false)
    (led : host.locate path = .ok location) :
    (host.tree.find? (directory ++ [name])).isSome = true := by
  simp only [locate, names.accepted, bind, Except.bind, opened, Bool.false_eq_true, ↓reduceIte,
    List.append_nil] at led
  rw [names.pieces_eq] at led
  obtain ⟨middle, walked, stepped⟩ := Tree.walk_concat.mp led
  obtain rfl := Except.ok.inj (names.stands.1.symm.trans walked)
  obtain ⟨_, ⟨dot, _⟩ | ⟨up, _⟩ | ⟨_, _, _, stored, _⟩⟩ := Tree.step_eq_ok_iff.mp stepped
  · exact absurd dot names.notHere
  · exact absurd up names.notUp
  · exact stored

end Names

/-- What writing a file needs and what it changes. -/
theorem write_eq_ok {content : List UInt8} (written : host.write path content = .ok after) :
    path.endsInSlash = false ∧ ∃ directory name executable, host.Names path directory name ∧
      host.tree.find? (directory ++ [name]) ≠ some .directory ∧
      after = { host with
        tree := host.tree.put (directory ++ [name]) (.file content executable) } := by
  unfold write at written
  cases placed : host.place path with
  | error fault => simp [placed, bind, Except.bind] at written
  | ok place =>
    simp only [placed, bind, Except.bind] at written
    cases place with
    | standing location => simp at written
    | named directory name =>
      have names := place_eq_named.mp placed
      dsimp only at written
      split at written
      · simp at written
      · rename_i opened
        refine ⟨by simpa using opened, directory, name, ?_⟩
        split at written
        · simp at written
        · rename_i executable found
          exact ⟨executable, names, by simp [found], (Except.ok.inj written).symm⟩
        · rename_i found
          exact ⟨false, names, by simp [found], (Except.ok.inj written).symm⟩

/-- What making a directory needs and what it changes. -/
theorem makeDirectory_eq_ok (made : host.makeDirectory path = .ok after) :
    ∃ directory name, host.Names path directory name ∧
      host.tree.find? (directory ++ [name]) = none ∧
      after = { host with tree := host.tree.put (directory ++ [name]) .directory } := by
  unfold makeDirectory at made
  cases placed : host.place path with
  | error fault => simp [placed, bind, Except.bind] at made
  | ok place =>
    simp only [placed, bind, Except.bind] at made
    cases place with
    | standing location => simp at made
    | named directory name =>
      have names := place_eq_named.mp placed
      dsimp only at made
      split at made
      · simp at made
      · rename_i free
        exact ⟨directory, name, names, Option.not_isSome_iff_eq_none.mp free,
          (Except.ok.inj made).symm⟩

/-- A directory is made at a free place that a path names. -/
theorem Names.makeDirectory_eq (names : host.Names path directory name)
    (free : host.tree.find? (directory ++ [name]) = none) :
    host.makeDirectory path =
      .ok { host with tree := host.tree.put (directory ++ [name]) .directory } := by
  simp [makeDirectory, place_eq_named.mpr names, bind, Except.bind, free]

/-- A file is written at a free place that a path names, and cannot be executed. -/
theorem Names.write_eq (names : host.Names path directory name)
    (opened : path.endsInSlash = false) (free : host.tree.find? (directory ++ [name]) = none)
    (content : List UInt8) : host.write path content =
      .ok { host with tree := host.tree.put (directory ++ [name]) (.file content false) } := by
  simp [write, place_eq_named.mpr names, bind, Except.bind, opened, free]

/-- A file is written over one that a path names, which keeps whether it may be run. -/
theorem Names.write_over {stored : List UInt8} {executable : Bool}
    (names : host.Names path directory name) (opened : path.endsInSlash = false)
    (found : host.tree.find? (directory ++ [name]) = some (.file stored executable))
    (content : List UInt8) : host.write path content =
      .ok { host with tree := host.tree.put (directory ++ [name]) (.file content executable) } := by
  simp [write, place_eq_named.mpr names, bind, Except.bind, opened, found]

/-- A path names one place only. -/
theorem Names.unique {folder : Location} {title : String} (names : host.Names path directory name)
    (titles : host.Names path folder title) : directory = folder ∧ name = title := by
  have same := (place_eq_named.mpr names).symm.trans (place_eq_named.mpr titles)
  exact Place.named.inj (Except.ok.inj same)

/-- Writing a file keeps a tree closed. -/
theorem isClosed_of_write {content : List UInt8} (closed : host.tree.IsClosed)
    (written : host.write path content = .ok after) : after.tree.IsClosed := by
  obtain ⟨_, directory, name, executable, names, notDirectory, rfl⟩ := write_eq_ok written
  exact closed.put names.stands.2 fun found => absurd found notDirectory

/-- Making a directory keeps a tree closed. -/
theorem isClosed_of_makeDirectory (closed : host.tree.IsClosed)
    (made : host.makeDirectory path = .ok after) : after.tree.IsClosed := by
  obtain ⟨directory, name, names, _, rfl⟩ := makeDirectory_eq_ok made
  exact closed.put names.stands.2 fun _ => rfl

/-- The content of a file is what a path to it reads. -/
theorem read_eq_ok_iff {content : List UInt8} :
    host.read path = .ok content ↔ ∃ location executable, host.locate path = .ok location ∧
      host.tree.find? location = some (.file content executable) := by
  unfold read nodeAt
  cases led : host.locate path with
  | error fault => simp [bind, Except.bind]
  | ok location =>
    simp only [bind, Except.bind]
    cases found : host.tree.find? location with
    | none => simp [found]
    | some node =>
      cases node with
      | directory => simp [found]
      | file stored executable =>
        constructor
        · intro same
          exact ⟨location, executable, rfl, by rw [found, Except.ok.inj same]⟩
        · rintro ⟨_, _, same, again⟩
          cases same
          rw [found] at again
          cases again
          rfl

/-- A path leads where its steps lead. -/
theorem walk_steps_of_locate {location : Location} (led : host.locate path = .ok location) :
    host.tree.walk (host.start path) path.steps = .ok location := by
  unfold locate at led
  cases accepted : path.acceptedPieces with
  | error fault =>
    rw [accepted] at led
    cases led
  | ok pieces =>
    obtain rfl := acceptedPieces_eq_ok accepted
    rw [accepted] at led
    have filtered := Tree.walk_filter led
    rw [List.filter_append] at filtered
    have none : (if path.endsInSlash = true then ["."] else []).filter (· ≠ ".") = [] := by
      split <;> rfl
    rwa [none, List.append_nil] at filtered

/-- A file that has been written is read back. -/
theorem read_of_write {content : List UInt8} (written : host.write path content = .ok after) :
    after.read path = .ok content := by
  obtain ⟨opened, directory, name, executable, names, vacant, rfl⟩ := write_eq_ok written
  have below : directory ++ [name] ≠ [] := by simp
  have found : (host.tree.put (directory ++ [name]) (.file content executable)).find?
      (directory ++ [name]) = some (.file content executable) := by
    rw [Tree.find?_put below, if_pos rfl]
  refine read_eq_ok_iff.mpr ⟨directory ++ [name], executable, ?_, found⟩
  refine Names.locate_eq ?_ opened (by rw [found]; rfl)
  refine names.of_walked rfl (Tree.walk_mono ?_ ?_ names.walked)
  · intro place standing
    rw [Tree.find?_put below, if_neg]
    · exact standing
    · rintro rfl
      exact vacant standing
  · intro place stored
    rw [Tree.find?_put below]
    split
    · rfl
    · exact stored

/-- A path leads to a file exactly if one can be read along it. -/
theorem isFile_iff_exists_read :
    host.isFile path = true ↔ ∃ content, host.read path = .ok content := by
  unfold isFile read
  cases host.nodeAt path with
  | error fault => simp [bind, Except.bind]
  | ok node => cases node <;> simp [bind, Except.bind]

/-- A path along which a file can be read leads to a file. -/
theorem isFile_of_read {content : List UInt8} (reads : host.read path = .ok content) :
    host.isFile path = true :=
  isFile_iff_exists_read.mpr ⟨content, reads⟩

/-- A path leads to a file where directories stay directories and files stay files. -/
theorem isFile_mono {other : Host} (filed : host.isFile path = true)
    (working : other.workingDirectory = host.workingDirectory)
    (directories : ∀ place, host.tree.find? place = some .directory →
      other.tree.find? place = some .directory)
    (files : ∀ place content executable, host.tree.find? place = some (.file content executable) →
      ∃ content executable, other.tree.find? place = some (.file content executable)) :
    other.isFile path = true := by
  obtain ⟨content, reads⟩ := isFile_iff_exists_read.mp filed
  obtain ⟨location, executable, led, found⟩ := read_eq_ok_iff.mp reads
  obtain ⟨content, executable, found⟩ := files location content executable found
  have stored : ∀ place, (host.tree.find? place).isSome = true →
      (other.tree.find? place).isSome = true := by
    intro place stored
    obtain ⟨node, known⟩ := Option.isSome_iff_exists.mp stored
    cases node with
    | directory =>
      rw [directories place known]
      rfl
    | file content executable =>
      obtain ⟨_, _, known⟩ := files place content executable known
      rw [known]
      rfl
  refine isFile_of_read (read_eq_ok_iff.mpr ⟨location, executable, ?_, found⟩)
  unfold locate at led ⊢
  obtain ⟨pieces, accepted, walked⟩ := Effect.except_bind_eq_ok.mp led
  refine Effect.except_bind_eq_ok.mpr ⟨pieces, accepted, ?_⟩
  rw [start, working]
  exact Tree.walk_mono directories stored walked

/-- A file stays a file when a file is written. -/
theorem isFile_write {target : Path} {content : List UInt8}
    (written : host.write target content = .ok after) (filed : host.isFile path = true) :
    after.isFile path = true := by
  obtain ⟨_, directory, name, executable, _, vacant, rfl⟩ := write_eq_ok written
  refine isFile_mono filed rfl ?_ ?_
  · intro place standing
    rw [Tree.find?_put (by simp), if_neg]
    · exact standing
    · rintro rfl
      exact vacant standing
  · intro place content' executable' found
    rw [Tree.find?_put (by simp)]
    split
    · exact ⟨content, executable, rfl⟩
    · exact ⟨content', executable', found⟩

/-- A file stays a file when a directory is made. -/
theorem isFile_makeDirectory {target : Path} (made : host.makeDirectory target = .ok after)
    (filed : host.isFile path = true) : after.isFile path = true := by
  obtain ⟨directory, name, _, free, rfl⟩ := makeDirectory_eq_ok made
  have elsewhere : ∀ place, (host.tree.find? place).isSome = true → place ≠ directory ++ [name] := by
    rintro place stored rfl
    rw [free] at stored
    cases stored
  refine isFile_mono filed rfl ?_ ?_
  · intro place standing
    rw [Tree.find?_put (by simp), if_neg (elsewhere place (by rw [standing]; rfl)), standing]
  · intro place content executable found
    rw [Tree.find?_put (by simp), if_neg (elsewhere place (by rw [found]; rfl)), found]
    exact ⟨content, executable, rfl⟩

end DecompileServer.Host

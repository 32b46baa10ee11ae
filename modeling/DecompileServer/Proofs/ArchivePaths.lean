import DecompileServer.Proofs.Effect
import DecompileServer.Proofs.Path
import DecompileServer.Target

/-!
# Archives in place of a class file

A path that ends in `.jar`, in any case of the letters, is refused without a look at the disk,
unless these characters are the whole name of the file. A dot at the front of a name begins no
extension (`Path.extension?_eq`), so there the file is read like any other.
-/
namespace DecompileServer

namespace Text

/-- A letter from A to Z has a small form. -/
theorem small_of_large {character : Char} (large : 'A' ≤ character ∧ character ≤ 'Z') :
    'a' ≤ lowerAscii character ∧ lowerAscii character ≤ 'z' := by
  have shown : ∀ code < 91, 65 ≤ code → 'a' ≤ Char.ofNat (code + 32) ∧
      Char.ofNat (code + 32) ≤ 'z' := by decide
  have first : 65 ≤ character.toNat := large.1
  have last : character.toNat ≤ 90 := large.2
  rw [lowerAscii, if_pos large]
  exact shown _ (by omega) first

/-- A character that is no letter is like no other one. -/
theorem eq_of_lowerAscii_eq {character other : Char} (same : lowerAscii character = other)
    (plain : ¬ ('a' ≤ other ∧ other ≤ 'z')) : character = other := by
  by_cases large : 'A' ≤ character ∧ character ≤ 'Z'
  · exact absurd (same ▸ small_of_large large) plain
  · rwa [lowerAscii, if_neg large] at same

/-- What none of the characters of a text is like does not occur in a text that is like it. -/
theorem notMem_of_equalsIgnoringCase {left right : String} {character : Char}
    (same : equalsIgnoringCase left right = true)
    (absent : lowerAscii character ∉ right.toList.map lowerAscii) : character ∉ left.toList := by
  intro member
  rw [← beq_iff_eq.mp same] at absent
  exact absent (List.mem_map_of_mem member)

end Text

namespace Path

variable {path : Path} {stem : List Char}

/-- Whether a path ends in `.jar` after the given characters, in any case of the letters. -/
def EndsInJar (path : Path) (stem : List Char) : Prop :=
  ∃ ending, path.text.toList = stem ++ ending ∧
    Text.equalsIgnoringCase (String.ofList ending) ".jar" = true

/-- Such a path ends in a dot and letters that are read as `jar`. -/
theorem EndsInJar.exists_letters (ends : path.EndsInJar stem) : ∃ letters,
    path.text.toList = stem ++ '.' :: letters ∧
    Text.equalsIgnoringCase (String.ofList letters) "jar" = true := by
  obtain ⟨ending, written, same⟩ := ends
  rw [Text.equalsIgnoringCase, String.toList_ofList, beq_iff_eq] at same
  cases ending with
  | nil => cases same
  | cons dot letters =>
    obtain ⟨first, others⟩ := List.cons.inj same
    obtain rfl : dot = '.' := Text.eq_of_lowerAscii_eq first (by decide)
    refine ⟨letters, written, ?_⟩
    rw [Text.equalsIgnoringCase, String.toList_ofList, beq_iff_eq]
    exact others

/-- Such a path is one of an archive exactly if the name of the file is longer. -/
theorem EndsInJar.isArchive_iff (ends : path.EndsInJar stem) :
    path.isArchive = true ↔ ¬ (stem = [] ∨ stem.getLast? = some '/') := by
  obtain ⟨letters, written, same⟩ := ends.exists_letters
  have absent {character : Char} (other : Text.lowerAscii character ∉ ['j', 'a', 'r']) :
      character ∉ letters := by
    have notMem := Text.notMem_of_equalsIgnoringCase same other
    rwa [String.toList_ofList] at notMem
  have filled : letters ≠ [] := by
    rintro rfl
    cases same
  rw [isArchive, extension?_eq written (absent (by decide)) (absent (by decide)) filled]
  split
  · next bare => simp [bare]
  · next longer => simp [longer, same]

end Path

namespace SearchSettings

variable {settings : SearchSettings} {path : Path} {stem : List Char} {host : Host}

/-- An archive is refused, and the disk left alone. -/
theorem run_find_of_isArchive (archive : path.isArchive = true) :
    (settings.find (.file path)).run host = (.error (.notClassFile path), host) := by
  rw [find, Effect.run_observe, findFile, if_pos archive]
  rfl

/-- What is found at a path from what is read there. -/
def foundInFile (settings : SearchSettings) (path : Path)
    (read : Except Disk.Fault (List UInt8)) : Except Failure Located := do
  let bytes ← read.mapError (Failure.ofDisk path)
  let name ← (settings.inference.infer path bytes).mapError .invalidName
  pure { name, bytes, workspace := none }

/-- Any other path is read, and the file named. -/
theorem run_find_of_not_isArchive (other : ¬ path.isArchive = true) :
    (settings.find (.file path)).run host =
      (settings.foundInFile path (host.read path), host) := by
  rw [find, Effect.run_observe, findFile, if_neg other]
  rfl

/-- A file that is read is not refused as an archive. -/
theorem foundInFile_ne_notClassFile (read : Except Disk.Fault (List UInt8)) :
    settings.foundInFile path read ≠ .error (.notClassFile path) := by
  cases read with
  | error fault => cases fault <;> nofun
  | ok bytes =>
    change ((settings.inference.infer path bytes).mapError Failure.invalidName >>= _) ≠ _
    cases settings.inference.infer path bytes <;> nofun

/-- A path that ends in `.jar` is refused in every state of the machine, and the machine left as it
is, unless these characters are the whole name of the file. If they are, it is not refused: what the
disk holds there is read, and named as a class file. -/
theorem refuses_archives (settings : SearchSettings) {path : Path} {stem : List Char}
    (ends : path.EndsInJar stem) :
    (¬ (stem = [] ∨ stem.getLast? = some '/') → ∀ host,
      (settings.find (.file path)).run host = (.error (.notClassFile path), host)) ∧
    (stem = [] ∨ stem.getLast? = some '/' → ∀ host,
      (settings.find (.file path)).run host =
        (settings.foundInFile path (host.read path), host) ∧
      settings.foundInFile path (host.read path) ≠ .error (.notClassFile path)) := by
  refine ⟨fun longer host => run_find_of_isArchive (ends.isArchive_iff.mpr longer),
    fun bare host => ⟨run_find_of_not_isArchive ?_, foundInFile_ne_notClassFile _⟩⟩
  exact fun archive => ends.isArchive_iff.mp archive bare

/-- A machine with nothing on its disk but an empty file of the given name. -/
def hostWithFile (name : String) : Host where
  tree := ⟨[([name], .file [] false)]⟩
  workingDirectory := []
  environment := []

/-- The theorem on an ordinary name in capital letters, and on the bare one. -/
theorem refuses_archives_sample :
    (Path.mk "/Lib/A.JAR").EndsInJar "/Lib/A".toList ∧
      (∀ host, (find {} (.file ⟨"/Lib/A.JAR"⟩)).run host =
        (.error (.notClassFile ⟨"/Lib/A.JAR"⟩), host)) ∧
      (Path.mk "/.Jar").EndsInJar "/".toList ∧
      (∀ host, (find {} (.file ⟨"/.Jar"⟩)).run host =
        (foundInFile {} ⟨"/.Jar"⟩ (host.read ⟨"/.Jar"⟩), host)) := by
  have long : (Path.mk "/Lib/A.JAR").EndsInJar "/Lib/A".toList :=
    ⟨".JAR".toList, by decide, by decide⟩
  have bare : (Path.mk "/.Jar").EndsInJar "/".toList := ⟨".Jar".toList, by decide, by decide⟩
  exact ⟨long, (refuses_archives {} long).1 (by decide), bare,
    fun host => ((refuses_archives {} bare).2 (by decide) host).1⟩

/-- A bare name is not refused: the answer is another one, and depends on the disk. -/
theorem bare_name_is_read :
    (Path.mk "/.jar").EndsInJar "/".toList ∧
      (find {} (.file ⟨"/.jar"⟩)).run (hostWithFile "A.class") =
        (.error (.fileNotFound ⟨"/.jar"⟩), hostWithFile "A.class") ∧
      (find {} (.file ⟨"/.jar"⟩)).run (hostWithFile ".jar") =
        (.error (.invalidName ⟨".jar"⟩), hostWithFile ".jar") :=
  ⟨⟨".jar".toList, by decide, by decide⟩, rfl, rfl⟩

end SearchSettings

end DecompileServer

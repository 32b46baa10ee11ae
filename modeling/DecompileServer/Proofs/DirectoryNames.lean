import DecompileServer.Proofs.Inference
import Mathlib.Data.List.Induction

/-!
# Class names from directories

What the directories around a class file say of its name: the longest run of directories above the
file that look like packages, each cut at its dots, then the name of the file without its ending.
Only the name of the file can be at fault (`directory_names`), because whatever looks like a package
is made of segments and dots.
-/
namespace DecompileServer

/-- Whether a name looks like that of a package directory: a small letter of ASCII, then some of
these, digits, underscores and dots. -/
def IsPackageDirectory (name : String) : Prop :=
  ∃ first rest, name.toList = first :: rest ∧ first.isLower = true ∧ ∀ character ∈ rest,
    character.isLower = true ∨ character.isDigit = true ∨ character = '_' ∨ character = '.'

/-- Whether a text is some letters and digits of ASCII, underscores and dollar signs. -/
def IsSimpleName (text : String) : Prop :=
  text ≠ "" ∧ ∀ character ∈ text.toList,
    character.isAlphanum = true ∨ character = '_' ∨ character = '$'

/-- Whether a text is a file name without one ending, if that has it, and else the file name. -/
def IsStem (file stem : String) : Prop :=
  file = stem ++ ".class" ∨ (∀ other, file ≠ other ++ ".class") ∧ stem = file

/-- A file name has one stem. -/
theorem IsStem.unique {file stem other : String} (isStem : IsStem file stem)
    (again : IsStem file other) : stem = other := by
  obtain whole | ⟨without, rfl⟩ := isStem
  · obtain same | ⟨without, rfl⟩ := again
    · rw [whole, ← String.toList_inj, String.toList_append, String.toList_append] at same
      exact String.toList_inj.mp (List.append_cancel_right same)
    · exact absurd whole (without stem)
  · obtain same | ⟨-, rfl⟩ := again
    · exact absurd same (without other)
    · rfl

/-- The stem of a file name is a beginning of it. -/
theorem IsStem.subset {file stem : String} (isStem : IsStem file stem) : stem.toList ⊆ file.toList := by
  obtain rfl | ⟨_, rfl⟩ := isStem
  · simp
  · exact List.Subset.refl _

/-- Whether texts are what stands between the dots of a name, without the empty ones. -/
def AreParts (name : String) (parts : List String) : Prop :=
  ∃ pieces : List String, ".".intercalate pieces = name ∧ (∀ piece ∈ pieces, '.' ∉ piece.toList) ∧
    parts = pieces.filter (· ≠ "")

/-- Whether directories are the longest run at the end of a path that look like packages. -/
structure IsTrailingRun (components : List Path.Component) (outer : List Path.Component)
    (run : List String) : Prop where
  /-- The run is at the end. -/
  whole : components = outer ++ run.map .name
  /-- All of it looks like packages. -/
  packages : ∀ directory ∈ run, IsPackageDirectory directory
  /-- What comes before does not. -/
  longest : ∀ last, outer.getLast? = some (.name last) → ¬IsPackageDirectory last

namespace Inference

variable {path root : Path} {name : ClassName} {simple file : String}

/-- A name looks like a package exactly if it is a small letter and characters for packages. -/
theorem isPackageName_iff {name : String} :
    isPackageName name = true ↔ IsPackageDirectory name := by
  have lower : ∀ character : Char, character.isLower = true ↔
      ('a' ≤ character ∧ character ≤ 'z') := by
    intro character
    change (character.val ≥ 'a'.val && character.val ≤ 'z'.val) = true ↔ _
    simp [Char.le_def]
  have digit : ∀ character : Char, character.isDigit = true ↔
      ('0' ≤ character ∧ character ≤ '9') := by
    intro character
    simp [Char.isDigit, Char.le_def]
  unfold isPackageName IsPackageDirectory isPackageCharacter
  cases name.toList with
  | nil => simp
  | cons first rest =>
    simp [lower, digit, or_assoc, and_assoc]

/-- The directories at the end of a path that look like packages. -/
theorem exists_trailingRun (components : List Path.Component) :
    ∃ outer run, IsTrailingRun components outer run := by
  induction components using List.reverseRecOn with
  | nil => exact ⟨[], [], rfl, by simp, by simp⟩
  | append_singleton front last ih =>
    by_cases package : ∃ directory, last = .name directory ∧ IsPackageDirectory directory
    · obtain ⟨directory, rfl, looks⟩ := package
      obtain ⟨outer, run, whole, packages, longest⟩ := ih
      refine ⟨outer, run ++ [directory], by simp [whole], ?_, longest⟩
      simpa [or_imp, forall_and] using ⟨packages, looks⟩
    · refine ⟨front ++ [last], [], by simp, by simp, fun directory found looks => ?_⟩
      rw [List.getLast?_concat, Option.some.injEq] at found
      exact package ⟨directory, found, looks⟩

/-- The packages found from the inside outwards are those of the run. -/
theorem packagesUpwards_of_run {components outer : List Path.Component} {run : List String}
    (trailing : IsTrailingRun components outer run) :
    packagesUpwards components.reverse = run.flatMap packagesOf := by
  have looks : ∀ directory ∈ run.reverse, isPackageName directory = true := fun directory member =>
    isPackageName_iff.mpr (trailing.packages directory (List.mem_reverse.mp member))
  have ended : packagesUpwards outer.reverse = [] := by
    refine packagesUpwards_of_outside fun last found => ?_
    rw [Bool.eq_false_iff]
    exact fun looks => trailing.longest last found (isPackageName_iff.mp looks)
  rw [trailing.whole, List.reverse_append, ← List.map_reverse,
    packagesUpwards_append_of_packages looks, ended, List.nil_append, List.reverse_reverse]

/-- A directory stands for the parts of its name. -/
theorem areParts_packagesOf (name : String) : AreParts name (packagesOf name) := by
  refine ⟨(Text.splitAt '.' name.toList).map String.ofList, Text.intercalate_splitAt '.' name,
    ?_, ?_⟩
  · intro piece member
    obtain ⟨characters, inside, rfl⟩ := List.mem_map.mp member
    rw [String.toList_ofList]
    exact Text.notMem_of_mem_splitAt inside
  · rw [packagesOf, List.filter_map]
    refine congrArg _ (List.filter_congr fun piece _ => ?_)
    rw [Function.comp_apply, decide_eq_decide, not_iff_not, ← String.toList_inj,
      String.toList_ofList, String.toList_empty]

/-- A small letter is a letter or digit. -/
theorem isAlphanum_of_isLower {character : Char} (lower : character.isLower = true) :
    character.isAlphanum = true := by
  change (character.isUpper || character.isLower || character.isDigit) = true
  rw [lower, Bool.or_true, Bool.true_or]

/-- The parts of a name that looks like a package are segments. -/
theorem isSegment_of_mem_packagesOf {directory segment : String}
    (looks : IsPackageDirectory directory) (member : segment ∈ packagesOf directory) :
    IsSegment segment := by
  obtain ⟨first, rest, written, lower, others⟩ := looks
  obtain ⟨piece, kept, rfl⟩ := List.mem_map.mp member
  obtain ⟨cut, filled⟩ := List.mem_filter.mp kept
  refine ⟨?_, fun character inside => ?_⟩
  · simpa [← String.toList_inj] using filled
  · rw [String.toList_ofList] at inside
    have known := Text.mem_of_mem_splitAt cut inside
    have notDot : character ≠ '.' := by
      rintro rfl
      exact Text.notMem_of_mem_splitAt cut inside
    rw [isSegmentCharacter_iff]
    obtain rfl | later := List.mem_cons.mp (written ▸ known)
    · exact .inl (isAlphanum_of_isLower lower)
    · obtain small | digit | underscore | dot := others character later
      · exact .inl (isAlphanum_of_isLower small)
      · exact .inl (by simp [Char.isAlphanum, digit])
      · exact .inr (.inl underscore)
      · exact absurd dot notDot

/-- A name is simple exactly if it is a segment. -/
theorem isSegment_iff : IsSegment simple ↔ IsSimpleName simple := by
  simp only [IsSegment, IsSimpleName, isSegmentCharacter_iff]

/-- The stem of a file name is what is left without one ending. -/
theorem isStem_withoutEnding (file : String) : IsStem file (withoutEnding file ".class") := by
  by_cases ended : ∃ stem, file = stem ++ ".class"
  · obtain ⟨stem, rfl⟩ := ended
    rw [withoutEnding_append]
    exact .inl rfl
  · have unended : ¬Text.endsWith file ".class" = true := by
      rw [Text.endsWith, List.isSuffixOf_iff_suffix]
      rintro ⟨front, whole⟩
      refine ended ⟨String.ofList front, ?_⟩
      rw [← String.toList_inj, String.toList_append, String.toList_ofList, whole]
    rw [withoutEnding, if_neg unended]
    exact .inr ⟨fun other same => ended ⟨other, same⟩, rfl⟩

/-- A file name holds no slash. -/
theorem slash_notMem_fileName (path : Path) : '/' ∉ (path.fileName?.getD "").toList := by
  unfold Path.fileName?
  split
  · rename_i text last
    have member : Path.Component.name text ∈ path.components := List.mem_of_getLast? last
    rw [Path.components_eq, List.mem_append] at member
    obtain front | step := member
    · exact absurd front (Path.name_notMem_front path text)
    · obtain ⟨step, inside, same⟩ := List.mem_map.mp step
      have written : step = text := by
        rw [← Path.text_componentOf step, same]
        rfl
      rw [Option.getD_some, ← written]
      exact (Path.isStep_of_mem_steps inside).2.2
  · simp

/-- The packages of a trailing run are segments. -/
theorem isSegment_of_mem_run {components outer : List Path.Component} {run : List String}
    (trailing : IsTrailingRun components outer run) :
    ∀ segment ∈ run.flatMap packagesOf, IsSegment segment := by
  intro segment member
  obtain ⟨directory, inside, part⟩ := List.mem_flatMap.mp member
  exact isSegment_of_mem_packagesOf (trailing.packages directory inside) part

/-- The directories around a class file name it after the longest run that looks like packages. -/
theorem fromDirectories_eq_ofSegments {outer : List Path.Component} {run : List String}
    {stem : String} (isStem : IsStem (path.fileName?.getD "") stem)
    (trailing : IsTrailingRun (path.parentComponents?.getD []) outer run) :
    fromDirectories path = ClassName.ofSegments (run.flatMap packagesOf) stem := by
  rw [fromDirectories, packagesUpwards_of_run trailing, isStem.unique (isStem_withoutEnding _)]

/-- The name that the directories around a class file give it. -/
theorem fromDirectories_eq_ok_iff {outer : List Path.Component} {run : List String} {stem : String}
    (isStem : IsStem (path.fileName?.getD "") stem)
    (trailing : IsTrailingRun (path.parentComponents?.getD []) outer run) :
    fromDirectories path = .ok name ↔ IsSimpleName stem ∧
      name.text = "/".intercalate (run.flatMap packagesOf ++ [stem]) := by
  have free : '/' ∉ stem.toList := fun slash => slash_notMem_fileName path (isStem.subset slash)
  rw [fromDirectories_eq_ofSegments isStem trailing, ← isSegment_iff]
  exact ClassName.ofSegments_eq_ok_iff (isSegment_of_mem_run trailing) free

/-- The directories around a class file are never at fault. -/
theorem fromDirectories_eq_error_iff {outer : List Path.Component} {run : List String}
    {stem : String} (isStem : IsStem (path.fileName?.getD "") stem)
    (trailing : IsTrailingRun (path.parentComponents?.getD []) outer run) :
    (∃ refused, fromDirectories path = .error refused) ↔ ¬IsSimpleName stem := by
  constructor
  · rintro ⟨refused, failed⟩ simple
    obtain ⟨found, named⟩ :=
      ClassName.exists_ofSegments_eq_ok (isSegment_of_mem_run trailing) (isSegment_iff.mpr simple)
    rw [fromDirectories_eq_ofSegments isStem trailing, named] at failed
    cases failed
  · intro refused
    cases named : fromDirectories path with
    | error invalid => exact ⟨invalid, rfl⟩
    | ok found => exact absurd ((fromDirectories_eq_ok_iff isStem trailing).mp named).1 refused

/-- A class file is refused exactly if its name without the ending is not simple, whatever the
directories are; else it is named after the parts of the longest run of directories above it that
look like packages, and its own name without the ending. So the path of a class whose packages look
like directories of packages, below a directory that does not, gives back that class. -/
theorem directory_names :
    (∀ directory, AreParts directory (packagesOf directory)) ∧
    (∀ path : Path, ∃ stem outer run, IsStem (path.fileName?.getD "") stem ∧
      IsTrailingRun (path.parentComponents?.getD []) outer run ∧
      ((∃ refused, fromDirectories path = .error refused) ↔ ¬IsSimpleName stem) ∧
      ∀ name, fromDirectories path = .ok name ↔ IsSimpleName stem ∧
        name.text = "/".intercalate (run.flatMap packagesOf ++ [stem])) ∧
    ∀ (root : Path) (name : ClassName),
      (∀ last, root.components.getLast? = some (.name last) → ¬IsPackageDirectory last) →
      (∀ package ∈ name.packages, IsPackageDirectory package) →
        fromDirectories (root.join name.filePath) = .ok name := by
  refine ⟨areParts_packagesOf, fun path => ?_, fun root name outside packages => ?_⟩
  · have isStem := isStem_withoutEnding (path.fileName?.getD "")
    obtain ⟨outer, run, trailing⟩ := exists_trailingRun (path.parentComponents?.getD [])
    exact ⟨_, outer, run, isStem, trailing, fromDirectories_eq_error_iff isStem trailing,
      fun name => fromDirectories_eq_ok_iff isStem trailing⟩
  · refine fromDirectories_join_filePath (fun last found => ?_) fun package member =>
      isPackageName_iff.mpr (packages package member)
    rw [Bool.eq_false_iff]
    exact fun looks => outside last found (isPackageName_iff.mp looks)

/-- A class below a directory whose name begins with a capital letter, which looks like no package.
-/
theorem directory_names_sample :
    fromDirectories ((Path.mk "/org/Lib").join "com/demo/Main.class") =
      .ok ⟨"com/demo/Main", by decide⟩ := by
  have outside : ∀ last, (Path.mk "/org/Lib").components.getLast? = some (.name last) →
      ¬IsPackageDirectory last := by
    intro last found
    have written : Path.Component.name "Lib" = .name last := Option.some.inj found
    rw [← Path.Component.name.inj written, ← isPackageName_iff]
    decide
  have packages : ∀ package ∈ (ClassName.mk "com/demo/Main" (by decide)).packages,
      IsPackageDirectory package := by
    simp only [← isPackageName_iff]
    decide
  exact directory_names.2.2 ⟨"/org/Lib"⟩ ⟨"com/demo/Main", by decide⟩ outside packages

end Inference

end DecompileServer

import DecompileServer.Inference
import DecompileServer.Proofs.ClassName
import Mathlib.Data.List.Basic

/-!
# Names from directories

Where the path of a class file continues a directory that looks like no package, and the packages of
the class look like ones, the directories around the file give back the name of the class
(`fromDirectories_join_filePath`).
-/
namespace DecompileServer

variable {root : Path} {name : ClassName}

namespace ClassName

/-- The characters of a name begin with one that can stand in a segment. -/
theorem exists_first (name : ClassName) :
    ∃ first rest, name.text.toList = first :: rest ∧ first ≠ '.' ∧ first ≠ '/' := by
  cases written : name.text.toList with
  | nil =>
    have wellFormed := name.wellFormed
    rw [written] at wellFormed
    cases wellFormed
  | cons first rest =>
    have relative := name.isAbsolute_filePath
    have notSlash : first ≠ '/' := by
      simpa [Path.isAbsolute, filePath, written] using relative
    refine ⟨first, rest, rfl, ?_, notSlash⟩
    have member : first ∈ name.text.toList := by
      rw [written]
      exact List.mem_cons_self
    obtain valid | slash := valid_of_mem_text member
    · exact ne_dot_of_isSegmentCharacter valid
    · exact absurd slash notSlash

/-- No single dot leads the path of a class file. -/
theorem moves_filePath (name : ClassName) :
    (Text.splitAt '/' name.filePath.toList).head? ≠ some ['.'] := by
  obtain ⟨first, rest, written, notDot, notSlash⟩ := name.exists_first
  rw [Text.head?_splitAt, filePath, String.toList_append, written, List.cons_append,
    List.takeWhile_cons_of_pos (by simpa using notSlash)]
  intro same
  exact notDot (List.cons.inj (Option.some.inj same)).1

/-- The components of the path of a class file below a directory. -/
theorem components_join_filePath (root : Path) (name : ClassName) :
    (root.join name.filePath).components =
      root.components ++ name.packages.map .name ++ [.name (name.simpleName ++ ".class")] := by
  have names : (Path.mk name.filePath).steps.map Path.componentOf =
      (Path.mk name.filePath).steps.map .name := by
    refine List.map_congr_left fun step member => ?_
    rw [Path.componentOf, if_neg (notUp_of_mem_steps member)]
  rw [Path.components_join name.isAbsolute_filePath name.moves_filePath, names, steps_filePath,
    List.map_append, List.append_assoc]
  rfl

/-- The file name of a class file below a directory. -/
theorem fileName?_join_filePath (root : Path) (name : ClassName) :
    (root.join name.filePath).fileName? = some (name.simpleName ++ ".class") := by
  rw [Path.fileName?, components_join_filePath, List.getLast?_concat]

/-- What lies above a class file below a directory. -/
theorem parentComponents?_join_filePath (root : Path) (name : ClassName) :
    (root.join name.filePath).parentComponents? =
      some (root.components ++ name.packages.map .name) := by
  rw [Path.parentComponents?, components_join_filePath, List.getLast?_concat, List.dropLast_concat]

/-- A class file below a directory is no archive. -/
theorem isArchive_join_filePath (root : Path) (name : ClassName) :
    (root.join name.filePath).isArchive = false := by
  have filled : name.simpleName.toList ≠ [] := by simpa using name.isSegment_simpleName.1
  have written : name.simpleName ++ ".class" =
      String.ofList (name.simpleName.toList ++ '.' :: "class".toList) := by
    rw [String.ofList_append, String.ofList_toList]
    rfl
  have extension : Path.extensionOfName? (name.simpleName ++ ".class") = some "class" := by
    rw [written, Path.extensionOfName?_eq _ (by decide), if_neg filled, String.ofList_toList]
  rw [Path.isArchive, Path.extension?, fileName?_join_filePath, Option.bind_some, extension]
  decide

end ClassName

namespace Inference

/-- A name that looks like a package and holds no dot stands for that package. -/
theorem packagesOf_of_isSegment {segment : String} (valid : IsSegment segment) :
    packagesOf segment = [segment] := by
  have filled : segment.toList ≠ [] := by simpa using valid.1
  rw [packagesOf, Text.splitAt_of_notMem valid.dot_notMem,
    List.filter_cons_of_pos (by simpa using filled)]
  simp

/-- Directories that look like packages stand for packages, up to the first that does not. -/
theorem packagesUpwards_append_of_packages {inner : List String} {outer : List Path.Component}
    (packages : ∀ directory ∈ inner, isPackageName directory = true) :
    packagesUpwards (inner.map .name ++ outer) =
      packagesUpwards outer ++ inner.reverse.flatMap packagesOf := by
  induction inner with
  | nil => simp
  | cons directory inner ih =>
    rw [List.map_cons, List.cons_append, packagesUpwards,
      if_pos (packages directory List.mem_cons_self),
      ih fun other member => packages other (List.mem_cons_of_mem _ member), List.reverse_cons,
      List.flatMap_append, List.flatMap_singleton, List.append_assoc]

/-- Directories that look like packages and hold no dot are taken for packages themselves. -/
theorem packagesUpwards_append {inner : List String} {outer : List Path.Component}
    (segments : ∀ segment ∈ inner, IsSegment segment)
    (packages : ∀ segment ∈ inner, isPackageName segment = true) :
    packagesUpwards (inner.map .name ++ outer) = packagesUpwards outer ++ inner.reverse := by
  have single : inner.reverse.flatMap packagesOf = inner.reverse.flatMap fun segment => [segment] :=
    List.flatMap_congr fun segment member =>
      packagesOf_of_isSegment (segments segment (List.mem_reverse.mp member))
  rw [packagesUpwards_append_of_packages packages, single, List.flatMap_singleton']

/-- A directory that looks like no package ends the packages. -/
theorem packagesUpwards_of_outside {components : List Path.Component}
    (outside : ∀ last, components.getLast? = some (.name last) → isPackageName last = false) :
    packagesUpwards components.reverse = [] := by
  cases reversed : components.reverse with
  | nil => rfl
  | cons last rest =>
    have found : components.getLast? = some last := by
      rw [← List.head?_reverse, reversed, List.head?_cons]
    cases last with
    | name text => rw [packagesUpwards, outside text found, if_neg (by decide)]
    | root => rfl
    | here => rfl
    | up => rfl

/-- An ending is taken off. -/
theorem withoutEnding_append (text ending : String) :
    withoutEnding (text ++ ending) ending = text := by
  have ends : Text.endsWith (text ++ ending) ending = true := by
    rw [Text.endsWith, String.toList_append, List.isSuffixOf_iff_suffix]
    exact List.suffix_append _ _
  rw [withoutEnding, if_pos ends, String.toList_append, List.length_append, Nat.add_sub_cancel,
    List.take_left, String.ofList_toList]

/-- The directories around a class file give back the name of the class. -/
theorem fromDirectories_join_filePath
    (outside : ∀ last, root.components.getLast? = some (.name last) → isPackageName last = false)
    (packages : ∀ segment ∈ name.packages, isPackageName segment = true) :
    fromDirectories (root.join name.filePath) = .ok name := by
  have around :
      packagesUpwards (root.components ++ name.packages.map Path.Component.name).reverse =
      name.packages := by
    have segments : ∀ segment ∈ name.packages.reverse, IsSegment segment := fun segment member =>
      ClassName.isSegment_of_mem_packages (List.mem_reverse.mp member)
    rw [List.reverse_append, ← List.map_reverse, packagesUpwards_append segments
      (fun segment member => packages segment (List.mem_reverse.mp member)),
      packagesUpwards_of_outside outside, List.nil_append, List.reverse_reverse]
  rw [fromDirectories, ClassName.fileName?_join_filePath, ClassName.parentComponents?_join_filePath]
  dsimp only [Option.getD_some]
  rw [withoutEnding_append, around, ClassName.ofSegments_segments]

end Inference

end DecompileServer

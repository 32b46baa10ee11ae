import DecompileServer.ClassFile.Summary
import DecompileServer.ClassName
import DecompileServer.Path

/-!
# The name of a class file

A bare class file does not say where its package begins. One way to name it takes the directories
around it for packages as long as they look like some; the other reads the name that the class file
declares, and falls back to the first when it cannot be read.
-/
namespace DecompileServer

/-- How a class file gets its name. -/
inductive Inference where
  /-- From the directories around it. -/
  | directory
  /-- From what it declares. -/
  | classFile
  deriving DecidableEq, Repr

namespace Inference

/-- Whether a character may stand in the name of a package directory. -/
def isPackageCharacter (character : Char) : Bool :=
  ('a' ≤ character && character ≤ 'z') || ('0' ≤ character && character ≤ '9') ||
    character == '_' || character == '.'

/-- Whether a name looks like that of a package directory. -/
def isPackageName (name : String) : Bool :=
  match name.toList with
  | [] => false
  | first :: rest => 'a' ≤ first && first ≤ 'z' && rest.all isPackageCharacter

/-- The packages that the name of a directory stands for: a dot in it separates two. -/
def packagesOf (name : String) : List String :=
  ((Text.splitAt '.' name.toList).filter (· ≠ [])).map String.ofList

/-- The packages of directories given from the innermost outwards, up to the first that is none. -/
def packagesUpwards : List Path.Component → List String
  | .name name :: outer =>
    if isPackageName name then packagesUpwards outer ++ packagesOf name else []
  | _ => []

/-- The text without one ending, if it has that. -/
def withoutEnding (text ending : String) : String :=
  if Text.endsWith text ending then
    String.ofList (text.toList.take (text.toList.length - ending.toList.length))
  else text

/-- The name of a class file from the directories around it. -/
def fromDirectories (path : Path) : Except InvalidName ClassName :=
  let simpleName := withoutEnding (path.fileName?.getD "") ".class"
  let around := (path.parentComponents?.getD []).reverse
  ClassName.ofSegments (packagesUpwards around) simpleName

/-- The name of a class file with the given content. -/
def infer (inference : Inference) (path : Path) (bytes : List UInt8) :
    Except InvalidName ClassName :=
  match inference with
  | .directory => fromDirectories path
  | .classFile =>
    match ClassFile.parse bytes with
    | .ok summary => ClassName.ofText summary.declared
    | .error _ => fromDirectories path

end Inference

end DecompileServer

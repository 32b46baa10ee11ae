import DecompileServer.Text.Blank
import DecompileServer.Text.Pieces
import DecompileServer.Text.Quoted

/-!
# Names of classes

The virtual machine names a class by its package segments and its simple name, joined by slashes:
`com/example/Foo$Inner`. `ClassName` holds only well-formed names, so a file named after one always
lies below the directory it is looked up in. Source code writes the same name with dots.
-/
namespace DecompileServer

/-- Whether a character may stand in a segment of a class name. -/
def isSegmentCharacter (character : Char) : Bool :=
  ('A' ≤ character && character ≤ 'Z') || ('a' ≤ character && character ≤ 'z') ||
    ('0' ≤ character && character ≤ '9') || character == '_' || character == '$'

/-- Whether two slashes stand side by side. -/
def hasEmptySegment : List Char → Bool
  | '/' :: '/' :: _ => true
  | _ :: rest => hasEmptySegment rest
  | [] => false

/-- Whether characters form a class name: segment characters and single slashes between them. -/
def isClassName (characters : List Char) : Bool :=
  !characters.isEmpty && characters.all (fun character => isSegmentCharacter character || character == '/') &&
    characters.head? != some '/' && characters.getLast? != some '/' && !hasEmptySegment characters

/-- The name of a class, its segments joined by slashes. -/
structure ClassName where
  /-- The name as written. -/
  text : String
  /-- The name has at least one segment and none is empty. -/
  wellFormed : isClassName text.toList = true
  deriving DecidableEq

/-- A text that names no class. -/
structure InvalidName where
  /-- The text. -/
  text : String
  deriving DecidableEq, Repr

/-- The wording of the refusal of a name. -/
def InvalidName.message (refused : InvalidName) : String :=
  "Invalid class name: " ++ Text.quote refused.text

namespace ClassName

/-- The class of the given name. -/
def ofText (text : String) : Except InvalidName ClassName :=
  if wellFormed : isClassName text.toList = true then .ok ⟨text, wellFormed⟩ else .error ⟨text⟩

/-- Each dot becomes a slash. -/
def slashed (text : String) : String :=
  String.ofList (text.toList.map fun character => if character = '.' then '/' else character)

/-- The class of a name written with dots, with white space around it allowed. -/
def ofDotted (text : String) : Except InvalidName ClassName :=
  ofText (slashed (Text.trim text))

/-- The class of the given package segments and simple name. -/
def ofSegments (package : List String) (simpleName : String) : Except InvalidName ClassName :=
  ofText (String.ofList (package.flatMap (fun segment => segment.toList ++ ['/']) ++ simpleName.toList))

/-- The name written with dots. -/
def dotted (name : ClassName) : String :=
  String.ofList (name.text.toList.map fun character => if character = '/' then '.' else character)

/-- Where the class is stored, relative to a directory of classes or inside an archive. -/
def filePath (name : ClassName) : String :=
  name.text ++ ".class"

/-- The segments of the name, the simple name last. -/
def segments (name : ClassName) : List String :=
  (Text.splitAt '/' name.text.toList).map String.ofList

/-- The name without its package. -/
def simpleName (name : ClassName) : String :=
  name.segments.getLastD name.text

end ClassName

end DecompileServer

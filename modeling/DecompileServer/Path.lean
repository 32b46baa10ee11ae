import DecompileServer.Text.Pieces

/-!
# Paths

A path is a text whose pieces between slashes name directories and, last, a file. Its components
leave out empty pieces and single dots, except a dot at the front of a relative path, so that
`a//./b` and `a/b` have the same ones; a double dot stays, because what it means depends on the disk.
-/
namespace DecompileServer

/-- A path as written. -/
structure Path where
  /-- The text of the path. -/
  text : String
  deriving DecidableEq, Repr, Inhabited

namespace Path

/-- One step of a path. -/
inductive Component where
  /-- The slash at the front of an absolute path. -/
  | root
  /-- A single dot at the front of a relative path. -/
  | here
  /-- A double dot. -/
  | up
  /-- The name of a file or directory. -/
  | name (text : String)
  deriving DecidableEq, Repr

/-- Whether the path starts at the root directory. -/
def isAbsolute (path : Path) : Bool :=
  path.text.toList.head? == some '/'

/-- The component of a piece that is neither empty nor a single dot. -/
def componentOfPiece (piece : List Char) : Component :=
  if piece = ['.', '.'] then .up else .name (String.ofList piece)

/-- Whether a piece between slashes counts as a component. -/
def isStep (piece : List Char) : Bool :=
  piece ≠ [] && piece ≠ ['.']

/-- The components of a path, from the first to the last. -/
def components (path : Path) : List Component :=
  let pieces := Text.splitAt '/' path.text.toList
  let front :=
    if path.isAbsolute then [.root] else if pieces.head? = some ['.'] then [.here] else []
  front ++ (pieces.filter isStep).map componentOfPiece

/-- The text of a component. -/
def Component.text : Component → String
  | .root => "/"
  | .here => "."
  | .up => ".."
  | .name text => text

/-- The path of the given components. -/
def ofComponents (components : List Component) : Path :=
  match components with
  | .root :: rest =>
    ⟨String.ofList ('/' :: Text.joinWith '/' (rest.map fun component => component.text.toList))⟩
  | _ => ⟨String.ofList (Text.joinWith '/' (components.map fun component => component.text.toList))⟩

/-- The name of the file or directory that the path leads to, if it ends in one. -/
def fileName? (path : Path) : Option String :=
  match path.components.getLast? with
  | some (.name text) => some text
  | _ => none

/-- The components without the last one, unless there is none or only the root. -/
def parentComponents? (path : Path) : Option (List Component) :=
  match path.components.getLast? with
  | none | some .root => none
  | some _ => some path.components.dropLast

/-- The path of the directory that holds what this path leads to. -/
def parent? (path : Path) : Option Path :=
  path.parentComponents?.map ofComponents

/-- The part of a file name after its last dot; a dot at the front begins no extension. -/
def extensionOfName? (name : String) : Option String :=
  match (Text.splitAt '.' name.toList).reverse with
  | [] | [_] => none
  | [_, []] => none
  | last :: _ => some (String.ofList last)

/-- The extension of the file name, if it has one. -/
def extension? (path : Path) : Option String :=
  path.fileName?.bind extensionOfName?

/-- The path that continues with `further`, or `further` itself when it is absolute. -/
def join (path : Path) (further : String) : Path :=
  if further.toList.head? = some '/' then ⟨further⟩
  else if path.text.toList = [] ∨ path.text.toList.getLast? = some '/' then ⟨path.text ++ further⟩
  else ⟨path.text ++ "/" ++ further⟩

/-- Whether the path has the extension of an archive of classes. -/
def isArchive (path : Path) : Bool :=
  path.extension?.any fun ending => Text.equalsIgnoringCase ending "jar"

end Path

end DecompileServer

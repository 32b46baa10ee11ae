import DecompileServer.Disk.Fault

/-!
# Trees of files

A tree holds what is stored at each location, in the order of creation. A location is the list of
names that lead to it from the root directory, which is always there. The first entry of a location
counts, and removal forgets everything at and below a location.
-/
namespace DecompileServer.Disk

/-- The names that lead from the root directory to a file or directory. -/
abbrev Location := List String

/-- What is stored at a location. -/
inductive Node where
  /-- A directory. -/
  | directory
  /-- A file, and whether it may be run. -/
  | file (content : List UInt8) (executable : Bool)
  deriving DecidableEq

/-- Whether a directory is stored. -/
def Node.isDirectory : Node → Bool
  | .directory => true
  | .file .. => false

/-- Everything stored, by location. -/
structure Tree where
  /-- The locations in use with what is stored there. -/
  entries : List (Location × Node) := []
  deriving DecidableEq

namespace Tree

/-- What is stored at a location. -/
def find? (tree : Tree) (location : Location) : Option Node :=
  if location = [] then some .directory else tree.entries.lookup location

/-- Stores a node at a location, in the place of what was there. -/
def put (tree : Tree) (location : Location) (node : Node) : Tree :=
  if (tree.entries.lookup location).isSome then
    ⟨tree.entries.map fun entry => if entry.1 = location then (location, node) else entry⟩
  else ⟨tree.entries ++ [(location, node)]⟩

/-- Forgets everything at or below a location. -/
def remove (tree : Tree) (location : Location) : Tree :=
  ⟨tree.entries.filter fun entry => !location.isPrefixOf entry.1⟩

/-- What is stored below a location, by the names that lead on from it. -/
def below (tree : Tree) (location : Location) : List (Location × Node) :=
  tree.entries.filterMap fun entry =>
    if location.isPrefixOf entry.1 ∧ entry.1 ≠ location then
      some (entry.1.drop location.length, entry.2)
    else none

/-- Whether nothing is stored at or below a location. -/
def isFree (tree : Tree) (location : Location) : Bool :=
  !tree.entries.any fun entry => location.isPrefixOf entry.1

/-- The number of bytes that a name may have. -/
def nameLimit : Nat := 255

/-- Goes from a directory to what one piece of a path names. -/
def step (tree : Tree) (here : Location) (piece : String) : Except Fault Location :=
  match tree.find? here with
  | none => .error .missing
  | some (.file ..) => .error .notDirectory
  | some .directory =>
    if piece = "." then .ok here
    else if piece = ".." then .ok here.dropLast
    else if nameLimit < piece.utf8ByteSize then .error .nameTooLong
    else if (tree.find? (here ++ [piece])).isSome then .ok (here ++ [piece])
    else .error .missing

/-- Goes along the pieces of a path. -/
def walk (tree : Tree) (here : Location) : List String → Except Fault Location
  | [] => .ok here
  | piece :: rest =>
    match tree.step here piece with
    | .ok next => tree.walk next rest
    | .error fault => .error fault

end Tree

end DecompileServer.Disk

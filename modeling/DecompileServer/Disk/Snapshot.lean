import DecompileServer.Disk.Host

/-!
# Snapshots of a machine

A host is built up from what is known of a machine, one path after the other. The directories above
a path are added with it, and a double dot in a path leads back by a name.
-/
namespace DecompileServer

open Disk (Location Node Tree)

namespace Disk

/-- The location that pieces lead to if every name among them is a directory. -/
def locationFrom (here : Location) : List String → Location
  | [] => here
  | "." :: rest => locationFrom here rest
  | ".." :: rest => locationFrom here.dropLast rest
  | name :: rest => locationFrom (here ++ [name]) rest

/-- Stores a directory, unless something is stored there. -/
def Tree.putDirectory (tree : Tree) (location : Location) : Tree :=
  if (tree.find? location).isSome then tree else tree.put location .directory

/-- Stores a node with the directories above it. A directory that is there is left. -/
def Tree.place (tree : Tree) (location : Location) (node : Node) : Tree :=
  let above := (List.range location.length).map location.take
  let tree := above.foldl Tree.putDirectory tree
  match node with
  | .directory => tree.putDirectory location
  | .file .. => tree.put location node

end Disk

namespace Host

/-- The host that knows what is stored at a path. -/
def knowing (host : Host) (path : Path) (node : Node) : Host :=
  { host with tree := host.tree.place (Disk.locationFrom (host.start path) path.pieces) node }

end Host

end DecompileServer

import DecompileServer.Disk.Host

/-!
# What directories hold

The names in a directory, and everything below one, in the order of the bytes of the names.
-/
namespace DecompileServer

open Disk (Location Node)

namespace Disk

/-- The names of what is stored directly in a directory. -/
def Tree.namesIn (tree : Tree) (location : Location) : List String :=
  ((tree.below location).filterMap fun (below, _) =>
    match below with
    | [name] => some name
    | _ => none).mergeSort fun left right => !(decide (right < left))

end Disk

namespace Host

/-- The names in the directory that a path leads to, if it leads to one. -/
def namesIn? (host : Host) (path : Path) : Option (List String) :=
  match host.nodeAt path, host.locate path with
  | .ok .directory, .ok location => some (host.tree.namesIn location)
  | _, _ => none

/-- Removes the file or the empty directory at a path. -/
def remove (host : Host) (path : Path) : Host :=
  match host.locate path with
  | .ok location => { host with tree := host.tree.remove location }
  | .error _ => host

end Host

end DecompileServer

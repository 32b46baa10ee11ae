import DecompileServer.Disk.Host

/-!
# Temporary directories

A temporary directory gets a name that nothing at or below is stored under, so making one never
yields a directory that is in use, and removing it leaves everything else.
-/
namespace DecompileServer.Host

open Disk (Fault)

/-- The name with a number that stands for the `count`th try. -/
def numberedName (beginning : String) (count : Nat) : String :=
  let digits := (Nat.toDigits 10 count)
  beginning ++ String.ofList (List.replicate (6 - digits.length) '0' ++ digits)

/-- Whether nothing is stored at or below a name in a directory. -/
def isUnused (host : Host) (root : Path) (name : String) : Bool :=
  match host.locate root with
  | .ok location => host.tree.isFree (location ++ [name])
  | .error _ => true

/-- The first numbered name that is not in use in a directory. With `n` entries one of the first
`n + 1` is free. -/
def freshName (host : Host) (root : Path) (beginning : String) : String :=
  match (List.range (host.tree.entries.length + 1)).find? fun count =>
      host.isUnused root (numberedName beginning count) with
  | some count => numberedName beginning count
  | none => numberedName beginning (host.tree.entries.length + 1)

/-- The path of a directory, from the root directory on. -/
def absolutePath (host : Host) (path : Path) : Path :=
  if path.isAbsolute then path else host.workingPath.join path.text

/-- The path of a fresh temporary directory in a directory, from the root directory on. -/
def temporaryName (host : Host) (root : Path) (beginning : String) : Path :=
  let absolute := host.absolutePath root
  absolute.join (host.freshName absolute beginning)

/-- Makes a fresh temporary directory in a directory. A fault comes with the path that it is
about. -/
def makeTemporary (root : Path) (beginning : String) : Effect (Fault × Path) Path := do
  let host ← get
  let path := host.temporaryName root beginning
  change fun host => (host.makeDirectory path).mapError fun fault => (fault, path)
  pure path

/-- Removes a directory with all that it holds. -/
def discard {ε : Type} (path : Path) : Effect ε Unit :=
  modify (·.removeAll path)

end DecompileServer.Host

import DecompileServer.Disk.Tree
import DecompileServer.Path

/-!
# Hosts

A host is what a program sees of the machine it runs on: a tree of files, the directory that
relative paths start from, and the variables of its environment. Reading leaves a host as it is; an
operation that changes it is an `Effect`, which keeps what it has written even when it fails.
-/
namespace DecompileServer

open Disk (Location Node Tree Fault)

/-- The machine a program runs on. -/
structure Host where
  /-- Everything stored. -/
  tree : Tree
  /-- The directory that relative paths start from. -/
  workingDirectory : Location
  /-- The variables of the environment. -/
  environment : List (String × String)
  deriving DecidableEq

/-- An operation that may change the host and may fail; a failure keeps the changes before it. -/
abbrev Effect (ε α : Type) := ExceptT ε (StateM Host) α

namespace Path

/-- The number of bytes from which on a path is too long. -/
def lengthLimit : Nat := 4096

/-- The names and dots between the slashes of a path. -/
def pieces (path : Path) : List String :=
  ((Text.splitAt '/' path.text.toList).filter (· ≠ [])).map String.ofList

/-- Whether a slash ends the path, so that it can only lead to a directory. -/
def endsInSlash (path : Path) : Bool :=
  path.text.toList.getLast? == some '/'

/-- The pieces of a path, or the reason why no system accepts it. -/
def acceptedPieces (path : Path) : Except Fault (List String) :=
  if path.text.toList.contains '\x00' then .error .holdsNul
  else if path.text = "" then .error .missing
  else if lengthLimit ≤ path.text.utf8ByteSize then .error .nameTooLong
  else .ok path.pieces

end Path

namespace Host

/-- The value of an environment variable. -/
def valueOf? (host : Host) (name : String) : Option String :=
  host.environment.lookup name

/-- The working directory as a path. -/
def workingPath (host : Host) : Path :=
  ⟨"/" ++ "/".intercalate host.workingDirectory⟩

/-- The directory for temporary files. -/
def temporaryPath (host : Host) : Path :=
  ⟨(host.valueOf? "TMPDIR").getD "/tmp"⟩

/-- Where a path starts. -/
def start (host : Host) (path : Path) : Location :=
  if path.isAbsolute then [] else host.workingDirectory

/-- The location of what a path leads to. -/
def locate (host : Host) (path : Path) : Except Fault Location := do
  let pieces ← path.acceptedPieces
  host.tree.walk (host.start path) (pieces ++ if path.endsInSlash then ["."] else [])

/-- What is stored where a path leads. -/
def nodeAt (host : Host) (path : Path) : Except Fault Node := do
  let location ← host.locate path
  match host.tree.find? location with
  | some node => .ok node
  | none => .error .missing

/-- Whether a path leads to a file. -/
def isFile (host : Host) (path : Path) : Bool :=
  match host.nodeAt path with
  | .ok (.file ..) => true
  | _ => false

/-- Whether a path leads to a directory. -/
def isDirectory (host : Host) (path : Path) : Bool :=
  match host.nodeAt path with
  | .ok .directory => true
  | _ => false

/-- Whether a path leads anywhere. -/
def holds (host : Host) (path : Path) : Bool :=
  (host.nodeAt path).toBool

/-- The content of the file at a path. -/
def read (host : Host) (path : Path) : Except Fault (List UInt8) := do
  match ← host.nodeAt path with
  | .file content _ => .ok content
  | .directory => .error .isDirectory

/-- A place in an existing directory where a path would put something new. -/
inductive Place where
  /-- A name in a directory. -/
  | named (directory : Location) (name : String)
  /-- The path ends in a dot, a double dot or the root, so what it leads to is no new name. -/
  | standing (location : Location)

/-- The place that a path leads to, whether or not something is stored there. -/
def place (host : Host) (path : Path) : Except Fault Place := do
  let pieces ← path.acceptedPieces
  match pieces.getLast? with
  | none => .ok (.standing [])
  | some last =>
    let directory ← host.tree.walk (host.start path) (pieces.dropLast ++ ["."])
    if last = "." ∨ last = ".." then .ok (.standing directory)
    else if Tree.nameLimit < last.utf8ByteSize then .error .nameTooLong
    else .ok (.named directory last)

/-- Writes a file; a file that is there keeps whether it may be run. -/
def write (host : Host) (path : Path) (content : List UInt8) : Except Fault Host := do
  match ← host.place path with
  | .standing _ => .error .isDirectory
  | .named directory name =>
    let location := directory ++ [name]
    if path.endsInSlash then .error .isDirectory
    else
      match host.tree.find? location with
      | some .directory => .error .isDirectory
      | some (.file _ executable) =>
        .ok { host with tree := host.tree.put location (.file content executable) }
      | none => .ok { host with tree := host.tree.put location (.file content false) }

/-- Makes a directory where nothing is stored. -/
def makeDirectory (host : Host) (path : Path) : Except Fault Host := do
  match ← host.place path with
  | .standing _ => .error .present
  | .named directory name =>
    let location := directory ++ [name]
    if (host.tree.find? location).isSome then .error .present
    else .ok { host with tree := host.tree.put location .directory }

/-- Runs a change of the host as an effect. -/
def change {ε : Type} (act : Host → Except ε Host) : Effect ε Unit :=
  ExceptT.mk fun host =>
    match act host with
    | .ok after => (.ok (), after)
    | .error fault => (.error fault, host)

/-- Looks at the host without changing it. -/
def observe {ε α : Type} (look : Host → Except ε α) : Effect ε α :=
  ExceptT.mk fun host => (look host, host)

/-- Makes a directory, or leaves the one that is there. When the directory above is missing,
`above` makes it first. -/
def makeDirectoryAfter (path : Path) (above : Effect Fault Unit) : Effect Fault Unit :=
  ExceptT.mk fun host =>
    match host.makeDirectory path with
    | .ok after => (.ok (), after)
    | .error .missing =>
      match above.run host with
      | (.error fault, after) => (.error fault, after)
      | (.ok (), after) =>
        match after.makeDirectory path with
        | .ok made => (.ok (), made)
        | .error fault => if after.isDirectory path then (.ok (), after) else (.error fault, after)
    | .error fault => if host.isDirectory path then (.ok (), host) else (.error fault, host)

/-- Makes the directory of the given components, the last one first, and those above it. -/
def makeDirectoriesUp : List Path.Component → Effect Fault Unit
  | [] => pure ()
  | last :: above =>
    makeDirectoryAfter (Path.ofComponents (last :: above).reverse) (makeDirectoriesUp above)

/-- Makes a directory and those above it, leaving what is there. -/
def makeDirectories (path : Path) : Effect Fault Unit :=
  if path.text = "" then pure ()
  else
    makeDirectoryAfter path
      (match path.parentComponents? with
      | none => throw .missing
      | some above => makeDirectoriesUp above.reverse)

/-- Removes what is stored at and below a path; a path that leads nowhere is left. -/
def removeAll (host : Host) (path : Path) : Host :=
  match host.locate path with
  | .ok location => { host with tree := host.tree.remove location }
  | .error _ => host

end Host

end DecompileServer

import DecompileServer.Archive.Format
import DecompileServer.Disk.Host
import DecompileServer.Failure

/-!
# Extracting archives

Listing an archive needs every entry to be within reach but reads none of their content. Extraction
goes through the entries in order, each one step of its own, writes over what is there and stops at
the first fault, keeping what it has written.
-/
namespace DecompileServer.Archive

/-- The archive stored in a file. -/
def load (host : Host) (path : Path) : Except Failure Contents := do
  let location ← (host.nodeAt path).mapError (Failure.ofDisk path)
  match location with
  | .directory => throw (.extraction path (.archive (.disk .isDirectory)))
  | .file content _ => (ofBytes content).mapError fun fault => .extraction path (.archive fault)

/-- The names of the class files among entries, in order. -/
def classNamesOf : List Entry → Except Fault (List String)
  | [] => .ok []
  | entry :: rest => do
    let _ ← entry.packed
    let further ← classNamesOf rest
    pure (if entry.isClass then entry.name :: further else further)

/-- The names of the class files in an archive, in the order of its directory. -/
def classEntries (host : Host) (path : Path) : Except Failure (List String) := do
  let archive ← load host path
  (classNamesOf archive.entries).mapError fun fault => .extraction path (.archive fault)

/-- Writes the content of an entry to a file, making the directories above it. -/
def writeEntry (target : Path) (packed : Packed) : Effect Disk.Fault (Option Fault) := do
  let host ← get
  match target.parent? with
  | some above => if !host.holds above then Host.makeDirectories above
  | none => pure ()
  let reading := packed.read
  Host.change fun host => host.write target reading.content
  pure reading.fault

/-- Extracts one entry into a directory. -/
def extractEntry (destination : Path) (entry : Entry) : Effect Fault Unit := do
  let packed ← entry.packed
  if !isEnclosed entry.name then throw (.malformed .escapingName)
  let target := destination.join entry.name
  if entry.extractsDirectory then
    (Host.makeDirectories target).adapt Fault.disk
  else
    let fault ← (writeEntry target packed).adapt Fault.disk
    match fault with
    | none => pure ()
    | some fault => throw fault

/-- Extracts entries one after the other. -/
def extractEntries (destination : Path) : List Entry → Effect Fault Unit
  | [] => pure ()
  | entry :: rest => do
    extractEntry destination entry
    extractEntries destination rest

/-- Extracts an archive into a directory. -/
def extractAll (path destination : Path) : Effect Failure Unit := do
  let archive ← Host.observe (load · path)
  (extractEntries destination archive.entries).adapt fun fault => .extraction path (.archive fault)

end DecompileServer.Archive

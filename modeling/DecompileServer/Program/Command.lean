import DecompileServer.Disk.Host

/-!
# Running programs

A command names a program and its arguments. How it runs is up to a launcher; all that is asked of
one is whether the program could be started and, if so, what it wrote, whether it succeeded and how
it left the host.
-/
namespace DecompileServer

/-- A program with its arguments. -/
structure Command where
  /-- The path of the program, or its name if it is to be searched for. -/
  program : String
  /-- The arguments. -/
  arguments : List String
  deriving DecidableEq, Repr

/-- What a program leaves when it has ended. -/
structure Outcome where
  /-- Whether it ended by itself with status zero. -/
  succeeded : Bool
  /-- What it wrote to its output. -/
  output : List UInt8
  /-- What it wrote to its error output. -/
  errors : List UInt8
  deriving DecidableEq, Repr

/-- A way to run commands on a host, which a program may change; a program that cannot be started has
no outcome. -/
abbrev Launcher := Host → Command → Option (Outcome × Host)

/-- A launcher that starts nothing. -/
def Launcher.never : Launcher := fun _ _ => none

namespace Host

/-- The content of the file at a path, if it may be run. -/
def executableAt (host : Host) (path : Path) : Option (List UInt8) :=
  match host.nodeAt path with
  | .ok (.file content true) => some content
  | _ => none

/-- The directories that programs are searched for in where no variable names them. -/
def usualSearch : String := "/bin:/usr/bin"

/-- The file that a command runs, with its path. A name without a slash is searched for in the
directories of the variable `PATH`, or in the usual ones if there is no such variable. -/
def program? (host : Host) (name : String) : Option (Path × List UInt8) :=
  if name = "" then none
  else if name.toList.contains '/' then
    (host.executableAt ⟨name⟩).map fun content => (⟨name⟩, content)
  else
    (Text.splitAt ':' ((host.valueOf? "PATH").getD usualSearch).toList).findSome? fun directory =>
      let path := (Path.mk (String.ofList directory)).join name
      (host.executableAt path).map fun content => (path, content)

end Host

end DecompileServer

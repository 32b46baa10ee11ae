/-!
# Faults of the disk

The reasons for which the operating system refuses an operation on a path, with their wording.
-/
namespace DecompileServer.Disk

/-- Why an operation on a path is refused. -/
inductive Fault where
  /-- Nothing is stored at the path. -/
  | missing
  /-- Something is stored at the path already. -/
  | present
  /-- A step of the path leads through a file. -/
  | notDirectory
  /-- The path leads to a directory where a file is wanted. -/
  | isDirectory
  /-- The path, or a name in it, is longer than the system allows. -/
  | nameTooLong
  /-- The path holds the character with code zero. -/
  | holdsNul
  /-- The program may not do this. -/
  | denied
  /-- The device fails. -/
  | device
  deriving DecidableEq, Repr

/-- The wording of a fault. -/
def Fault.message : Fault → String
  | .missing => "No such file or directory (os error 2)"
  | .present => "File exists (os error 17)"
  | .notDirectory => "Not a directory (os error 20)"
  | .isDirectory => "Is a directory (os error 21)"
  | .nameTooLong => "File name too long (os error 36)"
  | .holdsNul => "file name contained an unexpected NUL byte"
  | .denied => "Permission denied (os error 13)"
  | .device => "Input/output error (os error 5)"

end DecompileServer.Disk

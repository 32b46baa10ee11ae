import DecompileServer.Archive.Checksum
import DecompileServer.Archive.Fault
import DecompileServer.Archive.Inflate
import DecompileServer.Path

/-!
# Entries of archives

An entry has a name and data that may be compressed. Reading them gives the bytes that come out
before the first fault, since extraction writes those.
-/
namespace DecompileServer.Archive

/-- How the data of an entry are stored. -/
inductive Method where
  /-- As they are. -/
  | stored
  /-- Compressed. -/
  | deflated
  deriving DecidableEq, Repr

/-- The data of an entry as they stand in the archive. -/
structure Packed where
  /-- How they are stored. -/
  method : Method
  /-- The bytes in the archive. -/
  bytes : List UInt8
  /-- The checksum that the content has to have. -/
  checksum : UInt32
  deriving DecidableEq

/-- What comes out of the data of an entry. -/
structure Reading where
  /-- The bytes that come out. -/
  content : List UInt8
  /-- The fault at which they end, if they end at one. -/
  fault : Option Fault
  deriving DecidableEq

/-- The number of bytes that are decoded at a time. -/
def windowSize : Nat := 32768

/-- How many of the bytes decoded before a fault come out. They come out a window at a time, and only
when a further byte follows the window. -/
def releasedBefore (size : Nat) : Nat :=
  (size - 1) / windowSize * windowSize

/-- Reads bytes that are complete, checking their checksum. -/
def Reading.checked (content : List UInt8) (expected : UInt32) : Reading :=
  ⟨content, if checksum content = expected then none else some .checksum⟩

/-- Reads the data of an entry. -/
def Packed.read (packed : Packed) : Reading :=
  match packed.method with
  | .stored => .checked packed.bytes packed.checksum
  | .deflated =>
    match Inflate.run packed.bytes with
    | ⟨output, none⟩ => .checked output.toList packed.checksum
    | ⟨output, some .incomplete⟩ => ⟨output.toList, some .incompleteData⟩
    | ⟨output, some .corrupt⟩ =>
      ⟨output.toList.take (releasedBefore output.size), some .corruptData⟩

/-- An entry of an archive. -/
structure Entry where
  /-- The name of the entry. -/
  name : String
  /-- The data of the entry, or why they cannot be reached. -/
  packed : Except Fault Packed

/-- What an archive holds: its entries in the order of its directory. -/
structure Contents where
  /-- The entries. -/
  entries : List Entry

namespace Entry

/-- Whether the name is that of a directory in a listing. -/
def isDirectory (entry : Entry) : Bool :=
  entry.name.toList.getLast? == some '/' || entry.name.toList.getLast? == some '\\'

/-- Whether extraction makes a directory. -/
def extractsDirectory (entry : Entry) : Bool :=
  entry.name.toList.getLast? == some '/'

/-- Whether the name is that of a class file. -/
def isClass (entry : Entry) : Bool :=
  !entry.isDirectory && Text.endsWith entry.name ".class"

end Entry

/-- How deep the components of a relative path lead from `depth`, if none leads above the start. -/
def depthFrom (depth : Nat) : List Path.Component → Option Nat
  | [] => some depth
  | .root :: _ => none
  | .here :: rest => depthFrom depth rest
  | .name _ :: rest => depthFrom (depth + 1) rest
  | .up :: rest =>
    match depth with
    | 0 => none
    | depth + 1 => depthFrom depth rest

/-- Whether a name leads to a place inside the directory that it is taken in, at every step. -/
def isEnclosed (name : String) : Bool :=
  !name.toList.contains '\x00' && (depthFrom 0 (Path.mk name).components).isSome

end DecompileServer.Archive

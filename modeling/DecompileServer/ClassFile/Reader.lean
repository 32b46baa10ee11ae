/-!
# Reading bytes in order

A reader takes bytes from the front and knows its offset. It fails only where bytes run out, and
then names the offset at which it wanted more, or where the one using it refuses what was read.
-/
namespace DecompileServer.ClassFile

/-- Where a reader stands. -/
structure Cursor where
  /-- The number of bytes taken. -/
  offset : Nat
  /-- The bytes that follow. -/
  rest : List UInt8
  deriving DecidableEq, Repr

/-- The entry that an index of the constant pool has to name. -/
inductive Expected where
  /-- A constant that names a class. -/
  | classConstant
  /-- A text. -/
  | text
  deriving DecidableEq, Repr

/-- The word for an entry of the constant pool. -/
def Expected.word : Expected → String
  | .classConstant => "Class"
  | .text => "Utf8"

/-- Why bytes are not a class file. -/
inductive Fault where
  /-- The magic number is missing. -/
  | badMagic
  /-- The bytes end inside what begins at `offset`. -/
  | truncated (offset : Nat)
  /-- A constant has a tag of no kind. -/
  | unknownTag (tag : UInt8) (index : UInt16)
  /-- An index names an entry of another kind than the expected one. -/
  | badIndex (index : UInt16) (expected : Expected)
  deriving DecidableEq, Repr

/-- The wording of a fault. -/
def Fault.message : Fault → String
  | .badMagic => "bad magic number (expected 0xCAFEBABE)"
  | .truncated offset => s!"truncated at offset {offset}"
  | .unknownTag tag index => s!"unknown constant pool tag {tag.toNat} at index {index.toNat}"
  | .badIndex index expected => s!"constant pool index {index.toNat} is not a {expected.word}"

/-- A computation that takes bytes from the front. -/
abbrev Reader (α : Type) := StateT Cursor (Except Fault) α

namespace Reader

/-- Takes the next `count` bytes. -/
def take (count : Nat) : Reader (List UInt8) := fun cursor =>
  let taken := cursor.rest.take count
  if taken.length = count then
    .ok (taken, { offset := cursor.offset + count, rest := cursor.rest.drop count })
  else .error (.truncated cursor.offset)

/-- Takes the next `count` bytes for nothing. -/
def skip (count : Nat) : Reader Unit := do
  let _ ← take count

/-- The number that bytes write, the most significant first. -/
def bigEndian (bytes : List UInt8) : Nat :=
  bytes.foldl (fun value byte => value * 256 + byte.toNat) 0

/-- Reads one byte. -/
def u1 : Reader UInt8 := do
  let bytes ← take 1
  pure (UInt8.ofNat (bigEndian bytes))

/-- Reads two bytes. -/
def u2 : Reader UInt16 := do
  let bytes ← take 2
  pure (UInt16.ofNat (bigEndian bytes))

/-- Reads four bytes. -/
def u4 : Reader UInt32 := do
  let bytes ← take 4
  pure (UInt32.ofNat (bigEndian bytes))

/-- Runs a reader a number of times. -/
def times {α : Type} (reader : Reader α) : Nat → Reader (List α)
  | 0 => pure []
  | count + 1 => do
    let first ← reader
    let further ← times reader count
    pure (first :: further)

end Reader

end DecompileServer.ClassFile

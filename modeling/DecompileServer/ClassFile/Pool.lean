import DecompileServer.ClassFile.Reader
import DecompileServer.Text.Utf8

/-!
# The constant pool

Constants are numbered from one. A long or double constant takes two numbers, and the second one
names nothing. Only texts and class constants are kept; the others are known by their size.
-/
namespace DecompileServer.ClassFile

/-- An entry of the constant pool. -/
inductive Constant where
  /-- A text. -/
  | text (value : String)
  /-- The class whose name is the text at an index. -/
  | classNamed (nameIndex : UInt16)
  /-- A constant of another kind. -/
  | other
  /-- A number that names no constant. -/
  | unusable
  deriving DecidableEq, Repr

/-- Reads the constant with the given index, as the entries that it takes. -/
def readConstant (index : UInt16) : Reader (List Constant) := do
  let tag ← Reader.u1
  match tag.toNat with
  | 1 => do
    let length ← Reader.u2
    let bytes ← Reader.take length.toNat
    pure [.text (Utf8.decodeLossy bytes)]
  | 7 => do
    let nameIndex ← Reader.u2
    pure [.classNamed nameIndex]
  | 3 | 4 | 9 | 10 | 11 | 12 | 17 | 18 => do
    Reader.skip 4
    pure [.other]
  | 8 | 16 | 19 | 20 => do
    Reader.skip 2
    pure [.other]
  | 15 => do
    Reader.skip 3
    pure [.other]
  | 5 | 6 => do
    Reader.skip 8
    pure [.other, .unusable]
  | _ => throw (.unknownTag tag index)

/-- The constants of a class file, by index. -/
structure Pool where
  /-- The entries, from index zero on. -/
  slots : Array Constant

/-- Reads constants into `slots` while the index of the next one is below `count`. Each constant
takes at least its tag, so the number of bytes left bounds how many there can be. -/
def readConstants (count : UInt16) : Nat → UInt16 → Array Constant → Reader Pool
  | 0, index, slots => do
    if index < count then
      let cursor ← get
      throw (.truncated cursor.offset)
    else pure ⟨slots⟩
  | further + 1, index, slots => do
    if index < count then
      let read ← readConstant index
      readConstants count further (index + UInt16.ofNat read.length) (slots ++ read.toArray)
    else pure ⟨slots⟩

/-- Reads the constant pool. -/
def readPool : Reader Pool := do
  let count ← Reader.u2
  let cursor ← get
  readConstants count cursor.rest.length 1 #[.unusable]

namespace Pool

/-- The text at an index. -/
def text (pool : Pool) (index : UInt16) : Except Fault String :=
  match pool.slots[index.toNat]? with
  | some (.text value) => .ok value
  | _ => .error (.badIndex index .text)

/-- The name of the class at an index. -/
def className (pool : Pool) (index : UInt16) : Except Fault String :=
  match pool.slots[index.toNat]? with
  | some (.classNamed nameIndex) => pool.text nameIndex
  | _ => .error (.badIndex index .classConstant)

/-- The names of the class constants, in the order of the pool. -/
def classNames (pool : Pool) : Except Fault (List String) :=
  (pool.slots.toList.filterMap fun constant =>
    match constant with
    | .classNamed nameIndex => some nameIndex
    | _ => none).mapM pool.text

end Pool

end DecompileServer.ClassFile

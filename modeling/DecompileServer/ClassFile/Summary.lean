import DecompileServer.ClassFile.Pool

/-!
# What a class file says of itself

A class file is read as far as the end of its table of methods: the class it declares, the class
that one extends, the names of its methods, and the other classes that its constant pool names.
-/
namespace DecompileServer.ClassFile

/-- What a class file says of itself and of other classes. -/
structure Summary where
  /-- The name of the declared class. -/
  declared : String
  /-- The name of the class it extends, if any. -/
  parent : Option String
  /-- The other classes that are named, arrays left out, in order of first occurrence. -/
  references : List String
  /-- The names of the methods, in the order of declaration. -/
  methods : List String
  deriving DecidableEq, Repr

/-- The number that begins every class file. -/
def magic : UInt32 := 0xCAFEBABE

/-- Whether bytes begin as a class file does. -/
def hasMagic (bytes : List UInt8) : Bool :=
  bytes.take 4 == [0xCA, 0xFE, 0xBA, 0xBE]

/-- Passes over a table of attributes. -/
def skipAttributes : Reader Unit := do
  let count ← Reader.u2
  let _ ← Reader.times (do
    Reader.skip 2
    let length ← Reader.u4
    Reader.skip length.toNat) count.toNat

/-- Passes over a field. -/
def skipField : Reader Unit := do
  Reader.skip 6
  skipAttributes

/-- Reads the name of a method and passes over the rest of it. -/
def readMethod (pool : Pool) : Reader String := do
  Reader.skip 2
  let nameIndex ← Reader.u2
  Reader.skip 2
  let name ← pool.text nameIndex
  skipAttributes
  pure name

/-- Checks one entry of the table of interfaces. -/
def checkInterface (pool : Pool) : Reader Unit := do
  let index ← Reader.u2
  let _ ← pool.className index

/-- Leaves of each name its first occurrence. -/
def firstOccurrences (names : List String) : List String :=
  names.foldl (fun kept name => if kept.contains name then kept else kept ++ [name]) []

/-- The classes that a class refers to: neither itself nor arrays. -/
def referencesOf (declared : String) (names : List String) : List String :=
  firstOccurrences (names.filter fun name => name ≠ declared ∧ name.toList.head? ≠ some '[')

/-- Reads a class file from the front. -/
def read : Reader Summary := do
  let number ← Reader.u4
  if number ≠ magic then throw .badMagic
  Reader.skip 2
  Reader.skip 2
  let pool ← readPool
  Reader.skip 2
  let declaredIndex ← Reader.u2
  let parentIndex ← Reader.u2
  let declared ← pool.className declaredIndex
  let parent ← if parentIndex = 0 then pure none else some <$> pool.className parentIndex
  let interfaceCount ← Reader.u2
  let _ ← Reader.times (checkInterface pool) interfaceCount.toNat
  let fieldCount ← Reader.u2
  let _ ← Reader.times skipField fieldCount.toNat
  let methodCount ← Reader.u2
  let methods ← Reader.times (readMethod pool) methodCount.toNat
  let names ← pool.classNames
  pure { declared, parent, references := referencesOf declared names, methods }

/-- What the class file in the given bytes says, whatever bytes follow it. -/
def parse (bytes : List UInt8) : Except Fault Summary :=
  (read.run { offset := 0, rest := bytes }).map (·.1)

end DecompileServer.ClassFile
